import Xtreme.Nfc.Iso15693Frames

/-! Where a request takes the ISO15693-3 listener: which indices it uses, which
bytes of the frame it looks at, and how long a response it builds. -/
namespace Xtreme.Nfc
open Xtreme.Library BitLib Toolbox
open Effect (Yields)
open Iso15693_3Listener (requestData)

/-- What an event did lies inside the frame and the transmit buffer. -/
def Iso15693_3Trace.Inside (frame : BitBuffer) : Iso15693_3Trace → Prop
  | requestByte place => place < frame.sizeBytes
  | built response => response.length + iso13239CrcSize ≤ Iso15693_3Listener.bufferSize
  | _ => True

instance (frame : BitBuffer) : DecidablePred (Iso15693_3Trace.Inside frame)
  | .requestByte place => inferInstanceAs (Decidable (place < frame.sizeBytes))
  | .built response =>
    inferInstanceAs (Decidable (response.length + iso13239CrcSize ≤ Iso15693_3Listener.bufferSize))
  | .called _ | .sent _ | .reported => isTrue trivial

/-- Nothing outside was used. -/
def Clean (frame : BitBuffer) (trace : List Iso15693_3Trace) : Prop := ∀ step ∈ trace, step.Inside frame

instance (frame : BitBuffer) (trace : List Iso15693_3Trace) : Decidable (Clean frame trace) :=
  inferInstanceAs (Decidable (∀ step ∈ trace, _))

namespace Iso15693_3Listener
variable (instanc : Iso15693_3Listener)

/-- The listener before an event, in a build that asserts every index. -/
def asserting : Iso15693_3Listener :=
  { instanc with surroundings := { instanc.surroundings with furiDebug := true }, trace := [] }

/-- The request makes no index leave its table or array, no byte be used that
is not in the frame, and no response outgrow the transmit buffer. -/
def StaysInside (frame : BitBuffer) : Prop :=
  Yields (iso15693_3ListenerProcessRequest frame) (fun _ after => Clean frame after.trace) instanc.asserting

instance (frame : BitBuffer) : Decidable (instanc.StaysInside frame) :=
  inferInstanceAs (Decidable (Yields _ _ _))

def extensionOf (command : BitVec 8) : Option Iso15693_3ExtensionHandler := do
  let table ← instanc.extensionTable
  if command < 0x03#8 then (table.mandatory.toList[tablePlace command 0x01#8]?).join
  else if 0x20#8 ≤ command ∧ command < 0x2D#8 then
    (table.optional.toList[tablePlace command 0x20#8]?).join
  else none

def extensionAnswer (command : BitVec 8) (arguments : List Iso15693_3ExtensionArgument) : Iso15693_3Error :=
  match instanc.extensionOf command with
  | none => .none
  | some handler => handler arguments

end Iso15693_3Listener

section
variable {frame : BitBuffer} {instanc : Iso15693_3Listener} {request : Iso15693_3RequestData}

@[simp] theorem clean_append (first second : List Iso15693_3Trace) :
    Clean frame (first ++ second) ↔ Clean frame first ∧ Clean frame second := by
  simp [Clean, or_imp, forall_and]

@[simp] theorem clean_singleton (step : Iso15693_3Trace) : Clean frame [step] ↔ step.Inside frame := by
  simp [Clean]

@[simp] theorem clean_requestSteps (first count : Nat) : Clean frame (requestSteps request first count) ↔
      count = 0 ∨ request.start + first + count ≤ frame.sizeBytes := by
  simp only [Clean, requestSteps, List.mem_map, List.mem_range'_1, Iso15693_3Trace.Inside]
  constructor
  · intro inside
    rcases Nat.eq_zero_or_pos count with none | some
    · exact .inl none
    · have last := inside (.requestByte (request.start + (first + count - 1))) ⟨first + count - 1, by omega, rfl⟩
      omega
  · rintro room _ ⟨index, bounds, rfl⟩
    omega

@[simp] theorem yields_extension {post : Iso15693_3Error → Iso15693_3Listener → Prop} {command : BitVec 8}
    {arguments : List Iso15693_3ExtensionArgument} (known : command ≠ 0#8) :
    Yields (iso15693_3ListenerExtensionHandler command arguments) post instanc ↔
      post (instanc.extensionAnswer command arguments) instanc := by
  unfold iso15693_3ListenerExtensionHandler Iso15693_3Listener.extensionAnswer Iso15693_3Listener.extensionOf
  rw [Yields.bind_iff, Yields.observe_iff]
  cases instanc.extensionTable with
  | none => rfl
  | some table =>
    simp only [Option.bind_eq_bind, Option.bind_some]
    by_cases mandatory : command < 0x03#8
    · have inside : tablePlace command 0x01#8 < table.mandatory.toList.length := by
        rw [Vector.length_toList]
        exact @place_inside command 0x01#8 2 (by bv_omega) (by bv_omega)
      rw [if_pos mandatory, if_pos mandatory, List.getElem?_eq_getElem inside,
        tableEntry_eq (List.getElem?_eq_getElem inside)]
      rcases table.mandatory.toList[_] with _ | handler <;> rfl
    · rw [if_neg mandatory, if_neg mandatory]
      by_cases optional : 0x20#8 ≤ command ∧ command < 0x2D#8
      · have inside : tablePlace command 0x20#8 < table.optional.toList.length := by
          rw [Vector.length_toList]
          exact @place_inside command 0x20#8 13 optional.1 (by bv_omega)
        rw [if_pos optional, if_pos optional, List.getElem?_eq_getElem inside,
          tableEntry_eq (List.getElem?_eq_getElem inside)]
        rcases table.optional.toList[_] with _ | handler <;> rfl
      · rw [if_neg optional, if_neg optional]
        rfl

/-- What is asked of a handler: nothing outside was used, and a response that it
leaves has room for its checksum. -/
def Completes (frame : BitBuffer) (error : Iso15693_3Error) (after : Iso15693_3Listener) : Prop :=
  Clean frame after.trace ∧ (error = .none ∨ error = .fullyHandled →
      after.txBuffer.length + iso13239CrcSize ≤ Iso15693_3Listener.bufferSize)

/-- A handler begins: the response holds its flags, and the data of the request
ends with the frame. -/
structure Starts (frame : BitBuffer) (request : Iso15693_3RequestData) (instanc : Iso15693_3Listener) : Prop where
  debug : instanc.surroundings.furiDebug = true
  fits : instanc.data.Fits
  response : instanc.txBuffer.length = 1
  clean : Clean frame instanc.trace
  whole : request.start + request.size = frame.sizeBytes

variable {post : Unit → Iso15693_3Listener → Prop}

theorem yields_appendLoop {round : Nat → Iso15693_3M Unit} {may : Iso15693_3Data → Nat → Prop}
    {shown : Iso15693_3Data → Nat → List (BitVec 8)}
    (rounds : ∀ index (instanc : Iso15693_3Listener) (post : Unit → Iso15693_3Listener → Prop),
      instanc.surroundings.furiDebug = true → (Yields (round index) post instanc ↔ may instanc.data index ∧
        instanc.txBuffer.length + (shown instanc.data index).length ≤ Iso15693_3Listener.bufferSize ∧
        post () { instanc with txBuffer := instanc.txBuffer ++ shown instanc.data index }))
    {indices : List Nat} (debug : instanc.surroundings.furiDebug = true) (room : instanc.txBuffer.length ≤ Iso15693_3Listener.bufferSize) :
    Yields (indices.forM round) post instanc ↔ (∀ index ∈ indices, may instanc.data index) ∧
      instanc.txBuffer.length + (indices.flatMap (shown instanc.data)).length ≤ Iso15693_3Listener.bufferSize ∧
      post () { instanc with txBuffer := instanc.txBuffer ++ indices.flatMap (shown instanc.data) } := by
  induction indices generalizing instanc with
  | nil => simp [room]
  | cons index rest ih =>
    show Yields (round index >>= fun _ => rest.forM round) post instanc ↔ _
    rw [Yields.bind_iff, rounds index instanc _ debug]
    by_cases fits : instanc.txBuffer.length + (shown instanc.data index).length ≤ Iso15693_3Listener.bufferSize
    · have more : ({ instanc with txBuffer := instanc.txBuffer ++ shown instanc.data index } :
          Iso15693_3Listener).txBuffer.length ≤ Iso15693_3Listener.bufferSize := by
        simpa using fits
      rw [@ih { instanc with txBuffer := instanc.txBuffer ++ shown instanc.data index } debug more]
      simp only [fits, true_and, List.mem_cons, forall_eq_or_imp, List.flatMap_cons, List.length_append,
        List.append_assoc, Nat.add_assoc, and_assoc]
    · have full : ¬ instanc.txBuffer.length + ((index :: rest).flatMap (shown instanc.data)).length ≤
          Iso15693_3Listener.bufferSize := by
        rw [List.flatMap_cons, List.length_append]
        omega
      simp only [fits, full, false_and, and_false]

def shownBlock (flags : BitVec 8) (data : Iso15693_3Data) (index : Nat) : List (BitVec 8) :=
  (if optionFlag flags then [data.blockSecurity.getD (blockNumber index) 0] else []) ++
    data.block (blockNumber index)

/-- A block has what a response shows of it. -/
def CanShow (flags : BitVec 8) (data : Iso15693_3Data) (index : Nat) : Prop :=
  blockNumber index < data.blockCount ∧ data.HasBlock (blockNumber index) ∧
    (optionFlag flags = true → blockNumber index < data.blockSecurity.length)

theorem yields_appendBlockWithSecurity (debug : instanc.surroundings.furiDebug = true) (flags : BitVec 8) (index : Nat) :
    Yields (appendBlockWithSecurity flags index) post instanc ↔ CanShow flags instanc.data index ∧
      instanc.txBuffer.length + (shownBlock flags instanc.data index).length ≤ Iso15693_3Listener.bufferSize ∧
      post () { instanc with txBuffer := instanc.txBuffer ++ shownBlock flags instanc.data index } := by
  unfold appendBlockWithSecurity CanShow shownBlock
  by_cases option : optionFlag flags = true
  · simp only [option, if_true, Yields.bind_iff, yields_iso15693_3AppendBlockSecurity, yields_appendBytes,
      yields_iso15693_3AppendBlock, debug, List.append_assoc, List.length_append, forall_true_left]
    constructor
    · rintro ⟨inside, -, below, has, room, holds⟩
      exact ⟨⟨below, has, inside⟩, by omega, holds⟩
    · rintro ⟨⟨below, has, inside⟩, room, holds⟩
      exact ⟨inside, by omega, below, has, by omega, holds⟩
  · simp only [option, yields_iso15693_3AppendBlock, yields_appendBytes, debug, if_false, List.nil_append,
      Bool.false_eq_true, false_imp_iff, and_true, and_assoc]

/-- The lock of a block can be looked at. -/
def HasLock (data : Iso15693_3Data) (index : Nat) : Prop :=
  blockNumber index < data.blockCount ∧ (data.blockSecurity = [] ∨ blockNumber index < data.blockSecurity.length)

def shownLock (data : Iso15693_3Data) (index : Nat) : List (BitVec 8) :=
  [if data.isLocked (blockNumber index) then 1 else 0]

variable (debug : instanc.surroundings.furiDebug = true)
include debug

theorem yields_appendLock (index : Nat) : Yields (appendLock index) post instanc ↔ HasLock instanc.data index ∧
      instanc.txBuffer.length + (shownLock instanc.data index).length ≤ Iso15693_3Listener.bufferSize ∧
      post () { instanc with txBuffer := instanc.txBuffer ++ shownLock instanc.data index } := by
  unfold appendLock HasLock
  rw [Yields.bind_iff, yields_iso15693_3IsBlockLocked debug, yields_appendBytes debug, and_assoc]
  rfl

theorem yields_isAnyBlockLocked {post : Bool → Iso15693_3Listener → Prop} {indices : List Nat} (inside : ∀ index ∈ indices, HasLock instanc.data index) :
    Yields (isAnyBlockLocked indices) post instanc ↔
      post (indices.any fun index => instanc.data.isLocked (blockNumber index)) instanc := by
  induction indices with
  | nil => rfl
  | cons index rest ih =>
    obtain ⟨here, others⟩ := List.forall_mem_cons.mp inside
    rw [isAnyBlockLocked, Yields.bind_iff, yields_iso15693_3IsBlockLocked debug, List.any_cons]
    cases instanc.data.isLocked (blockNumber index) with
    | true => simp [here.1, here.2]
    | false => simpa [here.1, here.2] using ih others

omit debug

/-! ### Each handler -/

namespace Iso15693_3RequestHandler

def ShowsSecurity (data : Iso15693_3Data) (flags : BitVec 8) : Prop :=
  optionFlag flags = true → data.blockSecurity ≠ []

/-- What a response shows of one block. -/
def shownSize (data : Iso15693_3Data) (flags : BitVec 8) : Nat :=
  data.blockSize + if optionFlag flags then 1 else 0

def ReadBlockInside (instanc : Iso15693_3Listener) (request : Iso15693_3RequestData) (flags : BitVec 8) : Prop :=
  request.size = 1 → request.first < instanc.data.blockCount →
    instanc.extensionAnswer 0x20#8 [.number request.first] = .none →
    0 < instanc.data.blockSize ∧ ShowsSecurity instanc.data flags

def LockBlockInside (instanc : Iso15693_3Listener) (request : Iso15693_3RequestData) : Prop :=
  request.size = 1 → request.first < instanc.data.blockCount →
    instanc.extensionAnswer 0x22#8 [.number request.first] = .none → instanc.data.blockSecurity ≠ []

def ReadMultiBlocksInside (instanc : Iso15693_3Listener) (request : Iso15693_3RequestData)
    (flags : BitVec 8) : Prop :=
  request.size = 2 → PassesRange instanc.data request →
    instanc.extensionAnswer 0x23#8 [.number request.first, .number (request.first + request.count - 1)] = .none →
    request.first + request.count ≤ instanc.data.blockCount ∧ 0 < instanc.data.blockSize ∧
      ShowsSecurity instanc.data flags ∧
      1 + request.count * shownSize instanc.data flags + iso13239CrcSize ≤ Iso15693_3Listener.bufferSize

/-- The bytes for the blocks are taken from where they would stand if the request
began with the first block of the card. -/
def WriteMultiBlocksInside (instanc : Iso15693_3Listener) (request : Iso15693_3RequestData) : Prop :=
  2 < request.size → PassesRange instanc.data request →
    (request.size - 2) / request.count = instanc.data.blockSize →
    instanc.extensionAnswer 0x24#8 [.number request.first, .number (request.first + request.count - 1)] = .none →
    request.first + request.count ≤ instanc.data.blockCount ∧
      ((∀ index ∈ request.blocks, instanc.data.isLocked index = false) → 0 < instanc.data.blockSize ∧
          instanc.data.blockSize * (request.first + request.count) ≤ request.size - 2)

def GetMultiBlocksSecurityInside (instanc : Iso15693_3Listener) (request : Iso15693_3RequestData) : Prop :=
  2 ≤ request.size → request.first + request.count ≤ instanc.data.blockCount →
    1 + request.count + iso13239CrcSize ≤ Iso15693_3Listener.bufferSize

/-- The requests that a handler serves without leaving frame, card and buffer. -/
def StaysInside (handler : Iso15693_3RequestHandler) (instanc : Iso15693_3Listener)
    (request : Iso15693_3RequestData) (flags : BitVec 8) : Prop :=
  match handler with
  | readBlock => ReadBlockInside instanc request flags
  | lockBlock => LockBlockInside instanc request
  | readMultiBlocks => ReadMultiBlocksInside instanc request flags
  | writeMultiBlocks => WriteMultiBlocksInside instanc request
  | getMultiBlocksSecurity => GetMultiBlocksSecurityInside instanc request
  | _ => True

end Iso15693_3RequestHandler

open Iso15693_3RequestHandler

variable (starts : Starts frame request instanc)
include starts

theorem Starts.within {index : Nat} (inside : index < request.size) :
    request.start + index < frame.sizeBytes := by
  have whole := starts.whole
  omega

theorem Starts.room :
    instanc.txBuffer.length ≤ Iso15693_3Listener.bufferSize := by
  rw [starts.response]
  decide

/-- What has been read of the data does not count against a handler. -/
theorem Starts.traced {index : Nat} (inside : index < request.size) :
    Starts frame request (instanc.traced (.requestByte (request.start + index))) :=
  ⟨starts.debug, starts.fits, starts.response, (clean_append _ _).mpr ⟨starts.clean, (clean_singleton _).mpr (starts.within inside)⟩,
    starts.whole⟩

theorem Starts.completes (error : Iso15693_3Error) :
    Completes frame error instanc :=
  ⟨starts.clean, fun _ => by rw [starts.response]; decide⟩

omit starts

variable {data : Iso15693_3Data}

theorem canShow_iff (fits : data.Fits) (flags : BitVec 8) {index : Nat} (inside : index < data.blockCount) :
    CanShow flags data index ↔ 0 < data.blockSize ∧ ShowsSecurity data flags := by
  have same := blockNumber_of_lt (Nat.lt_of_lt_of_le inside fits.count)
  unfold CanShow ShowsSecurity
  rw [same, hasBlock_iff fits inside, (security_inside fits inside).2]
  exact and_iff_right inside

theorem hasLock_of_lt (fits : data.Fits) {index : Nat} (inside : index < data.blockCount) :
    HasLock data index := by
  rw [HasLock, blockNumber_of_lt (Nat.lt_of_lt_of_le inside fits.count)]
  exact ⟨inside, (security_inside fits inside).1⟩

theorem length_shownBlock {flags : BitVec 8} {index : Nat} (shows : CanShow flags data index) :
    (shownBlock flags data index).length = shownSize data flags := by
  rw [shownBlock, List.length_append, length_block shows.2.1, shownSize, Nat.add_comm]
  split <;> rfl

include starts

/-- A refusal is always answered. -/
theorem Starts.yields_guard {condition : Prop} [Decidable condition]
    (error : Iso15693_3Error) (next : Iso15693_3M Iso15693_3Error) :
    Yields (if condition then pure error else next) (Completes frame) instanc ↔
      (¬ condition → Yields next (Completes frame) instanc) := by
  by_cases refused : condition
  · rw [if_pos refused]
    exact ⟨fun _ allowed => absurd refused allowed, fun _ => starts.completes error⟩
  · rw [if_neg refused]
    exact ⟨fun yields _ => yields, fun yields => yields refused⟩

theorem Starts.yields_extension {command : BitVec 8}
    (known : command ≠ 0#8) (arguments : List Iso15693_3ExtensionArgument) (next : Iso15693_3M Iso15693_3Error) :
    Yields (iso15693_3ListenerExtensionHandler command arguments >>= fun error =>
        if error ≠ .none then pure error else next) (Completes frame) instanc ↔
      (instanc.extensionAnswer command arguments = .none → Yields next (Completes frame) instanc) := by
  rw [Yields.bind_iff, Xtreme.Nfc.yields_extension known, starts.yields_guard, not_not]

/-- A response of some more bytes, with the checksum that follows. -/
theorem Starts.completes_appended (bytes : List (BitVec 8)) :
    (instanc.txBuffer.length + bytes.length ≤ Iso15693_3Listener.bufferSize ∧
        Completes frame .none { instanc with txBuffer := instanc.txBuffer ++ bytes }) ↔
      1 + bytes.length + iso13239CrcSize ≤ Iso15693_3Listener.bufferSize := by
  unfold Completes
  rw [List.length_append, starts.response]
  exact ⟨fun fits => fits.2.2 (.inl rfl),
    fun fits => ⟨Nat.le_trans (Nat.le_add_right _ _) fits, starts.clean, fun _ => fits⟩⟩

omit starts

theorem shownSize_le (fits : data.Fits) (flags : BitVec 8) : shownSize data flags ≤ 33 := by
  have small := fits.size
  unfold shownSize
  split <;> omega

include starts

/-- Whether the response waits for an EOF plays no role. -/
theorem Starts.waiting (flags : BitVec 8) : Starts frame request { instanc with
      sessionState := { instanc.sessionState with waitForEof := optionFlag flags } } :=
  ⟨starts.debug, starts.fits, starts.response, starts.clean, starts.whole⟩

theorem readBlock_inside (flags : BitVec 8) :
    Yields (iso15693_3ListenerReadBlockHandler request flags) (Completes frame) instanc ↔
      ReadBlockInside instanc request flags := by
  unfold iso15693_3ListenerReadBlockHandler ReadBlockInside
  rw [starts.yields_guard, not_not]
  refine forall_congr' fun size => ?_
  have read := starts.traced (show 0 < request.size by omega)
  rw [Yields.bind_iff, yields_readRequest, Yields.bind_iff, Yields.observe_iff, read.yields_guard,
    read.yields_extension (by decide), Yields.bind_iff, yields_appendBlockWithSecurity read.debug, Nat.not_le]
  refine forall_congr' fun (inside : request.first < instanc.data.blockCount) => forall_congr' fun _ => ?_
  rw [Yields.pure_iff, read.completes_appended]
  rw [← canShow_iff starts.fits flags inside]
  refine ⟨fun shown => shown.1, fun shows => ⟨shows, ?_⟩⟩
  have small := shownSize_le starts.fits flags
  have length := length_shownBlock shows
  change 1 + (shownBlock flags instanc.data request.first).length + 2 ≤ 64
  omega

theorem lockBlock_inside (flags : BitVec 8) :
    Yields (iso15693_3ListenerLockBlockHandler request flags) (Completes frame) instanc ↔
      LockBlockInside instanc request := by
  unfold iso15693_3ListenerLockBlockHandler LockBlockInside setWaitForEof
  rw [Yields.bind_iff, Yields.update_iff]
  have waits := starts.waiting flags
  rw [waits.yields_guard, not_not]
  refine forall_congr' fun size => ?_
  have read := waits.traced (show 0 < request.size by omega)
  rw [Yields.bind_iff, yields_readRequest, Yields.bind_iff, Yields.observe_iff, read.yields_guard, Nat.not_le]
  refine forall_congr' fun (inside : request.first < instanc.data.blockCount) => ?_
  have same : blockNumber request.first = request.first := blockNumber_of_lt (first_lt request)
  have security := security_inside starts.fits inside
  rw [Yields.bind_iff, yields_iso15693_3IsBlockLocked read.debug]
  change (blockNumber request.first < instanc.data.blockCount ∧
    (instanc.data.blockSecurity = [] ∨ blockNumber request.first < instanc.data.blockSecurity.length) ∧ _) ↔ _
  rw [same, and_iff_right inside, and_iff_right security.1, read.yields_guard, read.yields_extension (by decide),
    Yields.bind_iff, yields_iso15693_3SetBlockLocked read.debug]
  change (¬ instanc.data.isLocked (blockNumber request.first) = true →
    instanc.extensionAnswer 0x22#8 [.number request.first] = .none →
      blockNumber request.first < instanc.data.blockCount ∧
        blockNumber request.first < instanc.data.blockSecurity.length ∧ Completes frame .none _) ↔ _
  rw [same, security.2]
  constructor
  · intro stays allowed none
    have unlocked : ¬ instanc.data.isLocked request.first = true := by simp [Iso15693_3Data.isLocked, none]
    exact (stays unlocked allowed).2.1 none
  · exact fun known _ allowed => ⟨inside, known allowed, read.completes .none⟩

/-- The two bytes that begin a request for several blocks. -/
theorem Starts.tracedRange (long : 1 < request.size) : Starts frame request
      ((instanc.traced (.requestByte (request.start + 0))).traced (.requestByte (request.start + 1))) :=
  (starts.traced (Nat.zero_lt_of_lt long)).traced long

omit starts

theorem length_shownBlocks {flags : BitVec 8} {indices : List Nat} (shows : ∀ index ∈ indices, CanShow flags data index) :
    (indices.flatMap (shownBlock flags data)).length = indices.length * shownSize data flags := by
  rw [List.length_flatMap, List.map_congr_left fun index member => length_shownBlock (shows index member),
    List.map_const', List.sum_replicate_nat]

theorem readMultiBlocks_inside (starts : Starts frame request instanc) (flags : BitVec 8) :
    Yields (iso15693_3ListenerReadMultiBlocksHandler request flags) (Completes frame) instanc ↔
      ReadMultiBlocksInside instanc request flags := by
  unfold iso15693_3ListenerReadMultiBlocksHandler ReadMultiBlocksInside
  rw [starts.yields_guard, not_not]
  refine forall_congr' fun size => ?_
  have read := starts.tracedRange (show 1 < request.size by omega)
  rw [Yields.bind_iff, yields_readRequest, Yields.bind_iff, yields_readRequest, Yields.bind_iff,
    Yields.observe_iff, read.yields_guard, read.yields_extension (by decide)]
  change (¬ blockCountAvailable instanc.data.blockCount request.first < request.count → _) ↔ _
  rw [passesRange_iff starts.fits]
  refine forall_congr' fun passes => forall_congr' fun _ => ?_
  rw [Yields.bind_iff, yields_appendLoop (fun index _ _ debug => yields_appendBlockWithSecurity debug flags index)
      read.debug read.room,
    Yields.pure_iff, read.completes_appended]
  change (∀ index ∈ request.blocks, CanShow flags instanc.data index) ∧
    1 + (request.blocks.flatMap (shownBlock flags instanc.data)).length + _ ≤ _ ↔ _
  have some := count_bounds request
  rcases passes with behind | inside
  · -- the first block is behind the end of the card
    have same := blockNumber_of_lt (first_lt request)
    refine ⟨fun shown => ?_, fun stays => by omega⟩
    have first := (shown.1 request.first ((mem_blocks _).mpr ⟨Nat.le_refl _, by omega⟩)).1
    omega
  · have each {index : Nat} (member : index ∈ request.blocks) : index < instanc.data.blockCount := by
      have bounds := (mem_blocks index).mp member
      omega
    have shown : (∀ index ∈ request.blocks, CanShow flags instanc.data index) ↔
        0 < instanc.data.blockSize ∧ ShowsSecurity instanc.data flags := by
      refine ⟨fun shows => ?_, fun shows index member => (canShow_iff starts.fits flags (each member)).mpr shows⟩
      have first : request.first ∈ request.blocks := (mem_blocks _).mpr ⟨Nat.le_refl _, by omega⟩
      exact (canShow_iff starts.fits flags (each first)).mp (shows _ first)
    rw [and_iff_right inside, ← and_assoc, ← shown]
    refine and_congr_right fun shows => ?_
    rw [length_shownBlocks shows, show request.blocks.length = request.count from List.length_range']

/-- A round of the loop that writes leaves the card as large as it was. -/
theorem fits_setBlock (fits : data.Fits) {index : Nat} {bytes : List (BitVec 8)}
    (has : data.HasBlock index) (size : bytes.length = data.blockSize) : (data.setBlock index bytes).Fits := by
  refine ⟨fits.count, fits.size, ?_, fits.blockSecurity⟩
  refine Eq.trans ?_ fits.blockData
  have room := has.2
  simp only [Iso15693_3Data.setBlock, List.length_append, List.length_take, List.length_drop]
  omega

def blockBytes (request : Iso15693_3RequestData) (blockSize index : Nat) : List (BitVec 8) :=
  (List.range' (2 + blockSize * index) blockSize).map fun place => request.frame.byte (request.start + place)

/-- The card after the loop that writes. -/
def withBlocks (request : Iso15693_3RequestData) (blockSize : Nat) (data : Iso15693_3Data) (indices : List Nat) :
    Iso15693_3Data :=
  indices.foldl (fun data index => data.setBlock index (blockBytes request blockSize index)) data

theorem yields_writeBlocks {blockSize : Nat} {indices : List Nat}
    (debug : instanc.surroundings.furiDebug = true) (fits : instanc.data.Fits) (size : blockSize = instanc.data.blockSize)
    (inside : ∀ index ∈ indices, index < instanc.data.blockCount) :
    Yields (indices.forM (writeOneOfBlocks request blockSize)) post instanc ↔ (indices = [] ∨ 0 < blockSize) ∧
        post () { instanc with
          data := withBlocks request blockSize instanc.data indices
          trace := instanc.trace ++
            indices.flatMap fun index => requestSteps request (2 + blockSize * index) blockSize } := by
  induction indices generalizing instanc with
  | nil =>
    rw [List.flatMap_nil, List.append_nil, or_iff_left_of_imp fun _ => rfl]
    exact (and_iff_right rfl).symm
  | cons index rest ih =>
    obtain ⟨here, others⟩ := List.forall_mem_cons.mp inside
    have same := blockNumber_of_lt (Nat.lt_of_lt_of_le here fits.count)
    show Yields (writeOneOfBlocks request blockSize index >>= fun _ =>
      rest.forM (writeOneOfBlocks request blockSize)) _ _ ↔ _
    rw [Yields.bind_iff]
    unfold writeOneOfBlocks
    rw [Yields.bind_iff, yields_readRequestBytes]
    refine (yields_iso15693_3SetBlockData (by exact debug) index _).trans ?_
    rw [same]
    rw [and_iff_right here]
    by_cases some : 0 < blockSize
    · have has := (hasBlock_iff fits here).mpr (size ▸ some)
      have kept : (instanc.data.setBlock index (blockBytes request blockSize index)).Fits :=
        fits_setBlock fits has (by simp [blockBytes, size])
      rw [and_iff_right has, and_iff_right (.inr some)]
      refine (@ih { instanc with
        data := instanc.data.setBlock index (blockBytes request blockSize index)
        trace := instanc.trace ++ requestSteps request (2 + blockSize * index) blockSize } debug kept size others).trans ?_
      rw [and_iff_right (.inr some), List.append_assoc]
      rfl
    · have lacks : ¬ instanc.data.HasBlock index := by rwa [hasBlock_iff fits here, ← size]
      simp [some, lacks]

theorem clean_flatMap (steps : Nat → List Iso15693_3Trace) (indices : List Nat) :
    Clean frame (indices.flatMap steps) ↔ ∀ index ∈ indices, Clean frame (steps index) := by
  simp only [Clean, List.mem_flatMap, forall_exists_index, and_imp]
  exact ⟨fun clean index member step among => clean step index member among,
    fun clean step index member among => clean index member step among⟩

include starts

/-- The places of the bytes for a run of blocks lie in the request if those of
the last block do. -/
theorem blocks_read_inside {blockSize : Nat} (some : 0 < blockSize) :
    (∀ index ∈ request.blocks, Clean frame (requestSteps request (2 + blockSize * index) blockSize)) ↔
      blockSize * (request.first + request.count) ≤ request.size - 2 := by
  have count := count_bounds request
  have whole := starts.whole
  have last : blockSize * (request.first + request.count - 1) + blockSize =
      blockSize * (request.first + request.count) := by
    congr 1
  simp only [clean_requestSteps]
  constructor
  · intro clean
    have final := clean (request.first + request.count - 1) ((mem_blocks _).mpr (by omega))
    omega
  · intro room index member
    have bounds := (mem_blocks index).mp member
    have before := Nat.mul_le_mul_left blockSize (show index ≤ request.first + request.count - 1 by omega)
    omega

theorem writeBlocks_inside (passes : PassesRange instanc.data request)
    {blockSize : Nat} (size : blockSize = instanc.data.blockSize) :
    Yields (isAnyBlockLocked request.blocks >>= fun locked =>
        if locked = true then pure .internal
        else request.blocks.forM (writeOneOfBlocks request blockSize) >>= fun _ => pure .none)
        (Completes frame) instanc ↔
      request.first + request.count ≤ instanc.data.blockCount ∧
        ((∀ index ∈ request.blocks, instanc.data.isLocked index = false) → 0 < instanc.data.blockSize ∧
            instanc.data.blockSize * (request.first + request.count) ≤ request.size - 2) := by
  subst size
  have count := count_bounds request
  rcases passes with behind | inside
  · -- the lock of the first block, which is behind the end of the card, is looked at
    have same := blockNumber_of_lt (first_lt request)
    have begins : request.blocks = request.first :: List.range' (request.first + 1) (request.count - 1) := by
      rfl
    rw [begins, isAnyBlockLocked, Effect.bind_assoc, Yields.bind_iff, yields_iso15693_3IsBlockLocked starts.debug]
    omega
  · have each := blocks_inside inside
    have number {index : Nat} (member : index ∈ request.blocks) : blockNumber index = index :=
      blockNumber_of_lt (Nat.lt_of_lt_of_le (each index member) starts.fits.count)
    have unlocked : (¬ (request.blocks.any fun index => instanc.data.isLocked (blockNumber index)) = true) ↔
        ∀ index ∈ request.blocks, instanc.data.isLocked index = false := by
      rw [Bool.not_eq_true, List.any_eq_false]
      refine forall₂_congr fun index member => ?_
      rw [number member, Bool.not_eq_true]
    have some : request.blocks ≠ [] := List.ne_nil_of_length_pos (List.length_range' ▸ count.1)
    rw [and_iff_right inside, Yields.bind_iff,
      yields_isAnyBlockLocked starts.debug fun index member => hasLock_of_lt starts.fits (each index member),
      starts.yields_guard, unlocked]
    refine forall_congr' fun _ => ?_
    rw [Yields.bind_iff, yields_writeBlocks starts.debug starts.fits rfl each, or_iff_right some]
    refine and_congr_right fun positive => ?_
    rw [← blocks_read_inside starts positive, Yields.pure_iff, Completes, clean_append, clean_flatMap,
      and_iff_right starts.clean]
    exact and_iff_left (starts.completes .none).2

theorem writeMultiBlocks_inside (flags : BitVec 8) :
    Yields (iso15693_3ListenerWriteMultiBlocksHandler request flags) (Completes frame) instanc ↔
      WriteMultiBlocksInside instanc request := by
  unfold iso15693_3ListenerWriteMultiBlocksHandler WriteMultiBlocksInside setWaitForEof
  rw [Yields.bind_iff, Yields.update_iff, (starts.waiting flags).yields_guard, Nat.not_le]
  refine forall_congr' fun long => ?_
  have read := (starts.waiting flags).tracedRange (show 1 < request.size by omega)
  rw [Yields.bind_iff, yields_readRequest, Yields.bind_iff, yields_readRequest, Yields.bind_iff,
    Yields.observe_iff, read.yields_guard, read.yields_guard, not_not, read.yields_extension (by decide)]
  change (¬ blockCountAvailable instanc.data.blockCount request.first < request.count →
    (request.size - 2) / request.count = instanc.data.blockSize → _) ↔ _
  rw [passesRange_iff starts.fits]
  refine forall_congr' fun passes => forall_congr' fun size => forall_congr' fun _ => ?_
  exact writeBlocks_inside read passes size

theorem writeBlock_inside (flags : BitVec 8) :
    Yields (iso15693_3ListenerWriteBlockHandler request flags) (Completes frame) instanc := by
  unfold iso15693_3ListenerWriteBlockHandler setWaitForEof
  rw [Yields.bind_iff, Yields.update_iff, (starts.waiting flags).yields_guard]
  intro long
  have read := (starts.waiting flags).traced (show 0 < request.size by omega)
  rw [Yields.bind_iff, yields_readRequest, Yields.bind_iff, Yields.observe_iff, read.yields_guard,
    read.yields_guard, not_not, Nat.not_le, Yields.bind_iff, yields_iso15693_3IsBlockLocked read.debug]
  intro (inside : request.first < instanc.data.blockCount) (size : request.size - 1 = instanc.data.blockSize)
  have same : blockNumber request.first = request.first := blockNumber_of_lt (first_lt request)
  change blockNumber request.first < instanc.data.blockCount ∧
    (instanc.data.blockSecurity = [] ∨ blockNumber request.first < instanc.data.blockSecurity.length) ∧ _
  rw [same, and_iff_right inside, and_iff_right (security_inside starts.fits inside).1, read.yields_guard,
    read.yields_extension (by decide), Yields.bind_iff, yields_readRequestBytes, Yields.bind_iff]
  intro _ _
  refine (yields_iso15693_3SetBlockData (by exact read.debug) request.first _).mpr ?_
  rw [same]
  have whole := starts.whole
  refine ⟨inside, (hasBlock_iff starts.fits inside).mpr (by omega), ?_, (read.completes .none).2⟩
  exact (clean_append _ _).mpr ⟨read.clean, (clean_requestSteps _ _).mpr (by omega)⟩

theorem getMultiBlocksSecurity_inside :
    Yields (iso15693_3ListenerGetMultiBlocksSecurityHandler request) (Completes frame) instanc ↔
      GetMultiBlocksSecurityInside instanc request := by
  unfold iso15693_3ListenerGetMultiBlocksSecurityHandler GetMultiBlocksSecurityInside
  rw [starts.yields_guard, Nat.not_lt]
  refine forall_congr' fun long => ?_
  have read := starts.tracedRange (show 1 < request.size by omega)
  rw [Yields.bind_iff, yields_readRequest, Yields.bind_iff, yields_readRequest, Yields.bind_iff,
    Yields.observe_iff, read.yields_guard, Nat.not_le, Yields.bind_iff,
    yields_appendLoop (fun index _ _ debug => yields_appendLock debug index) read.debug read.room, Yields.pure_iff,
    read.completes_appended]
  change (request.first + request.count ≤ instanc.data.blockCount →
    (∀ index ∈ request.blocks, HasLock instanc.data index) ∧
      1 + (request.blocks.flatMap (shownLock instanc.data)).length + iso13239CrcSize ≤ _) ↔ _
  refine forall_congr' fun inside => ?_
  have length : (request.blocks.flatMap (shownLock instanc.data)).length = request.count := by
    have one : ∀ index ∈ request.blocks, (shownLock instanc.data index).length = 1 := fun _ _ => rfl
    rw [List.length_flatMap, List.map_congr_left one, List.map_const', List.sum_replicate_nat, Nat.mul_one]
    exact List.length_range'
  rw [length]
  exact and_iff_right fun index member => hasLock_of_lt starts.fits (blocks_inside inside index member)

omit starts

theorem length_systemInfoBytes (info : Iso15693_3SystemInfo) : (systemInfoBytes info).length ≤ 5 := by
  unfold systemInfoBytes
  cases info.flags.getLsbD 0 <;> cases info.flags.getLsbD 1 <;> cases info.flags.getLsbD 2 <;>
    cases info.flags.getLsbD 3 <;> simp

theorem length_uidBytes (data : Iso15693_3Data) : (iso15693_3UidBytes data).length = iso15693_3UidSize := by
  rw [iso15693_3UidBytes, List.length_reverse, Vector.length_toList]
  rfl

include starts

theorem getSystemInfo_inside :
    Yields iso15693_3ListenerGetSystemInfoHandler (Completes frame) instanc := by
  unfold iso15693_3ListenerGetSystemInfoHandler iso15693_3AppendUid
  have uid := length_uidBytes instanc.data
  have info := length_systemInfoBytes instanc.data.systemInfo
  simp only [Yields.bind_iff, Yields.observe_iff, yields_appendBytes, starts.debug, Yields.pure_iff, List.length_append,
    starts.response, uid, List.length_singleton, Completes, starts.clean, true_and]
  unfold iso15693_3UidSize Iso15693_3Listener.bufferSize iso13239CrcSize
  omega

theorem inventoryResponse_inside {dsfid : BitVec 8} :
    Yields (iso15693_3ListenerExtensionHandler 0x01#8 [] >>= fun error =>
        if error ≠ .none then pure error
        else appendBytes [dsfid] >>= fun _ => iso15693_3AppendUid >>= fun _ => pure .none)
      (Completes frame) instanc := by
  rw [starts.yields_extension (by decide)]
  intro _
  unfold iso15693_3AppendUid
  have uid := length_uidBytes instanc.data
  simp only [Yields.bind_iff, Yields.observe_iff, yields_appendBytes, starts.debug, Yields.pure_iff, List.length_append,
    starts.response, uid, List.length_singleton, Completes, starts.clean]
  decide

theorem inventory_inside (flags : BitVec 8) :
    Yields (iso15693_3ListenerInventoryHandler request flags) (Completes frame) instanc := by
  unfold iso15693_3ListenerInventoryHandler
  cases flags.getLsbD 4 with
  | true =>
    simp only [if_true]
    rw [starts.yields_guard, Yields.bind_iff, Yields.observe_iff, Yields.bind_iff, yields_readRequest]
    intro long
    have read := starts.traced (show 0 < request.size by omega)
    rw [read.yields_guard, Yields.bind_iff, yields_readRequest]
    intro _
    have read := read.traced (show 1 < request.size by omega)
    rw [read.yields_guard]
    exact fun _ => inventoryResponse_inside read
  | false =>
    simp only [Bool.false_eq_true, if_false]
    rw [starts.yields_guard, Yields.bind_iff, Yields.observe_iff, Yields.bind_iff, Yields.pure_iff,
      starts.yields_guard, Yields.bind_iff, yields_readRequest]
    intro long _
    have read := starts.traced (show 0 < request.size by omega)
    rw [read.yields_guard]
    exact fun _ => inventoryResponse_inside read

theorem writeInfo_inside (command : BitVec 8) (known : command ≠ 0#8)
    (locked : Iso15693_3LockBits → Bool) (write : Iso15693_3SystemInfo → BitVec 8 → Iso15693_3SystemInfo)
    (flags : BitVec 8) : Yields (writeInfoHandler command locked write request flags) (Completes frame) instanc := by
  unfold writeInfoHandler setWaitForEof
  have waits := starts.waiting flags
  rw [Yields.bind_iff, Yields.update_iff, Yields.bind_iff, Yields.observe_iff, waits.yields_guard,
    waits.yields_guard, waits.yields_extension known, Yields.bind_iff, yields_readRequest, Yields.bind_iff,
    Yields.update_iff]
  intro long _ _
  exact (waits.traced (show 0 < request.size by omega)).completes .none

theorem lockInfo_inside (command : BitVec 8) (known : command ≠ 0#8)
    (locked : Iso15693_3LockBits → Bool) (lock : Iso15693_3LockBits → Iso15693_3LockBits) (flags : BitVec 8) :
    Yields (lockInfoHandler command locked lock flags) (Completes frame) instanc := by
  unfold lockInfoHandler setWaitForEof
  have waits := starts.waiting flags
  rw [Yields.bind_iff, Yields.update_iff, Yields.bind_iff, Yields.observe_iff, waits.yields_guard,
    waits.yields_extension known, Yields.bind_iff, Yields.update_iff]
  intro _ _
  exact waits.completes .none

theorem select_inside (flags : BitVec 8) :
    Yields (iso15693_3ListenerSelectHandler flags) (Completes frame) instanc := by
  unfold iso15693_3ListenerSelectHandler setState
  rw [starts.yields_guard, Yields.bind_iff, Yields.update_iff]
  exact fun _ => starts.completes .none

/-- **What a handler needs to stay inside is what its condition says.** -/
theorem handler_inside (handler : Iso15693_3RequestHandler) (flags : BitVec 8) :
    Yields (handler.run request flags) (Completes frame) instanc ↔ handler.StaysInside instanc request flags := by
  cases handler with
  | inventory => exact iff_of_true (inventory_inside starts flags) trivial
  | stayQuiet => exact iff_of_true (starts.completes .ignore) trivial
  | readBlock => exact readBlock_inside starts flags
  | writeBlock => exact iff_of_true (writeBlock_inside starts flags) trivial
  | lockBlock => exact lockBlock_inside starts flags
  | readMultiBlocks => exact readMultiBlocks_inside starts flags
  | writeMultiBlocks => exact writeMultiBlocks_inside starts flags
  | select => exact iff_of_true (select_inside starts flags) trivial
  | resetToReady => exact iff_of_true (starts.completes .none) trivial
  | writeAfi =>
    have completes := writeInfo_inside starts 0x27#8 (by decide) (·.afi) (fun info afi => { info with afi := afi }) flags
    exact iff_of_true completes trivial
  | lockAfi =>
    have completes := lockInfo_inside starts 0x28#8 (by decide) (·.afi) (fun lockBits => { lockBits with afi := true }) flags
    exact iff_of_true completes trivial
  | writeDsfid =>
    have completes := writeInfo_inside starts 0x29#8 (by decide) (·.dsfid) (fun info dsfid => { info with dsfid := dsfid }) flags
    exact iff_of_true completes trivial
  | lockDsfid =>
    have completes := lockInfo_inside starts 0x2A#8 (by decide) (·.dsfid) (fun lockBits => { lockBits with dsfid := true }) flags
    exact iff_of_true completes trivial
  | getSystemInfo => exact iff_of_true (getSystemInfo_inside starts) trivial
  | getMultiBlocksSecurity => exact getMultiBlocksSecurity_inside starts

theorem handler_debug (handler : Iso15693_3RequestHandler)
    (flags : BitVec 8) {error : Iso15693_3Error} {after : Iso15693_3Listener}
    (ran : handler.run request flags instanc = (.ok error, after)) : after.surroundings.furiDebug = true := by
  have serves : Keeping (·.surroundings.furiDebug = true) (handler.run request flags) :=
    Undisturbed.keeps_handler ⟨fun _ _ _ kept => kept, fun _ _ kept => kept, fun _ _ kept => kept⟩
      (fun _ _ kept => kept) (fun _ _ kept => kept) handler request flags
  have kept := (serves instanc starts.debug).1
  rw [ran] at kept
  exact kept

omit starts

/-! ## Requests -/

namespace Iso15693_3Listener
variable (instanc : Iso15693_3Listener)

/-- The response with its checksum. -/
def framed : List (BitVec 8) := instanc.txBuffer ++ iso13239CrcBytes instanc.txBuffer

end Iso15693_3Listener

include debug

theorem yields_sendFrame : Yields iso15693_3ListenerSendFrame post instanc ↔
      instanc.txBuffer.length + iso13239CrcSize ≤ Iso15693_3Listener.bufferSize ∧
        post () (({ instanc with txBuffer := instanc.framed } : Iso15693_3Listener).traced (.sent instanc.framed)) := by
  unfold iso15693_3ListenerSendFrame note
  rw [Yields.bind_iff, Yields.observe_iff, Yields.bind_iff, yields_appendBytes debug, Yields.bind_iff,
    Yields.observe_iff]
  rfl

theorem yields_finishResponse (error : Iso15693_3Error) :
    Yields (finishResponse error) (fun _ after => Clean frame after.trace) instanc ↔
      instanc.txBuffer.length + iso13239CrcSize ≤ Iso15693_3Listener.bufferSize ∧ Clean frame instanc.trace := by
  unfold finishResponse note
  rw [Yields.bind_iff, Yields.observe_iff, Yields.bind_iff, Yields.update_iff, Yields.bind_iff, Yields.observe_iff,
    Yields.ite_iff, Yields.bind_iff, yields_sendFrame (by exact debug)]
  simp only [Yields.pure_iff, traced_trace, clean_append, clean_singleton]
  split
  · exact and_comm
  · exact ⟨fun sends => ⟨sends.1, sends.2.1.1⟩, fun room => ⟨room.1, ⟨room.2, room.1⟩, trivial⟩⟩

theorem yields_respond (error : Iso15693_3Error) :
    Yields (respond error) (fun _ after => Clean frame after.trace) instanc ↔ Completes frame error instanc := by
  unfold respond Completes resetTxBuffer
  by_cases handled : error = .none ∨ error = .fullyHandled
  · have answers : (if error = .fullyHandled then .none else error) = Iso15693_3Error.none := by
      rcases handled with rfl | rfl <;> rfl
    simp only [answers, handled, forall_true_left, ne_eq, not_true_eq_false, if_false, reduceCtorEq, or_self,
      yields_finishResponse debug]
    exact and_comm
  · have refuses : (if error = .fullyHandled then .none else error) = error :=
      if_neg fun same => handled (.inr same)
    have some : error ≠ .none := fun same => handled (.inl same)
    simp only [refuses, handled, false_imp_iff, and_true]
    by_cases silent : error = .format ∨ error = .ignore
    · rw [if_pos silent, Yields.pure_iff]
    · rw [if_neg silent, if_pos some, Yields.bind_iff, Yields.update_iff, Yields.bind_iff, yields_appendBytes (by exact debug),
        yields_finishResponse (by exact debug)]
      simp [Iso15693_3Listener.bufferSize, iso13239CrcSize]

omit debug

structure Arrives (frame : BitBuffer) (request : Iso15693_3RequestData) (instanc : Iso15693_3Listener) : Prop where
  debug : instanc.surroundings.furiDebug = true
  fits : instanc.data.Fits
  clean : Clean frame instanc.trace
  whole : request.start + request.size = frame.sizeBytes

theorem standardRequest_inside (arrives : Arrives frame request instanc) (command flags : BitVec 8) :
    Yields (iso15693_3ListenerHandleStandardRequest request command flags)
        (fun _ after => Clean frame after.trace) instanc ↔
      command ≠ 0#8 ∧
        ∀ handler, handlerOf command = some handler → handler.StaysInside instanc request flags := by
  unfold iso15693_3ListenerHandleStandardRequest
  by_cases known : command = 0#8
  · subst known
    exact iff_of_false id fun stays => stays.1 rfl
  · rw [requestHandler_eq known, Yields.bind_iff, Yields.pure_iff, and_iff_right known]
    cases handlerOf command with
    | none =>
      exact iff_of_true arrives.clean fun _ found => nomatch found
    | some handler =>
      -- a handler that ends leaves the build as it is, so the answer is asserted as well
      have starts : Starts frame request
          (({ instanc with txBuffer := [0x00#8] } : Iso15693_3Listener).traced (.called handler)) :=
        ⟨arrives.debug, arrives.fits, rfl, (clean_append _ _).mpr ⟨arrives.clean, (clean_singleton _).mpr trivial⟩, arrives.whole⟩
      have answers := Yields.congr fun error after ran =>
        @yields_respond frame after (handler_debug starts handler flags ran) error
      have serves := answers.trans (handler_inside starts handler flags)
      unfold resetTxBuffer note
      rw [Yields.bind_iff, Yields.update_iff, Yields.bind_iff, yields_appendBytes (by exact arrives.debug),
        Yields.bind_iff, Yields.update_iff, Yields.bind_iff]
      refine (and_iff_right (show 1 ≤ 64 by decide)).trans
        (serves.trans ⟨fun stays other same => ?_, fun stays => stays handler rfl⟩)
      cases same
      exact stays

theorem clean_looks {before : Iso15693_3Listener} (looked : instanc.Looks frame before) :
    Clean frame before.trace ↔ Clean frame instanc.trace := by
  obtain ⟨reads, grown, bytes⟩ := looked.trace
  rw [grown, clean_append]
  refine and_iff_left fun step member => ?_
  obtain ⟨place, inside, rfl⟩ := bytes step member
  exact inside

theorem whole_of_delivered (delivered : instanc.refusal frame = none) :
    (requestData frame).start + (requestData frame).size = frame.sizeBytes := by
  unfold Iso15693_3Listener.refusal at delivered
  split at delivered
  · exact nomatch delivered
  · split at delivered
    · exact nomatch delivered
    · unfold Iso15693_3Listener.dispatchRefusal at delivered
      unfold requestData
      simp only
      split at delivered
      · exact nomatch delivered
      · split at delivered
        · rename_i addressed
          rw [if_pos addressed]
          split at delivered
          · exact nomatch delivered
          · omega
        · rename_i addressed
          rw [if_neg addressed]
          omega

theorem stays_of_looks {before : Iso15693_3Listener} (looked : instanc.Looks frame before)
    (handler : Iso15693_3RequestHandler) (flags : BitVec 8) :
    handler.StaysInside before request flags ↔ handler.StaysInside instanc request flags := by
  have answers : before.extensionAnswer = instanc.extensionAnswer := by
    unfold Iso15693_3Listener.extensionAnswer Iso15693_3Listener.extensionOf
    rw [looked.extensionTable]
  cases handler <;>
    simp only [Iso15693_3RequestHandler.StaysInside, ReadBlockInside, LockBlockInside, ReadMultiBlocksInside,
      WriteMultiBlocksInside, GetMultiBlocksSecurityInside, answers, looked.data]

/-- **A request stays inside the card, the frame and the transmit buffer exactly
if it gets to no handler, or its command has a place in the tables and its
handler does.** -/
theorem requests_stay_inside (fits : instanc.data.Fits) (frame : BitBuffer) : instanc.StaysInside frame ↔
      (instanc.refusal frame = none → frame.byte 1 ≠ 0#8 ∧ ∀ handler, handlerOf (frame.byte 1) = some handler →
        handler.StaysInside instanc (requestData frame) (frame.byte 0)) := by
  unfold Iso15693_3Listener.StaysInside
  obtain ⟨before, looked, ran⟩ := processRequest_run frame instanc.asserting
  have clean : Clean frame before.trace := (clean_looks looked).mpr fun _ none => nomatch none
  rw [show instanc.asserting.refusal frame = instanc.refusal frame from rfl] at ran
  cases refused : instanc.refusal frame with
  | some error =>
    rw [refused] at ran
    rw [Yields.iff_of_ok ran]
    exact iff_of_true clean fun delivered => nomatch delivered
  | none =>
    rw [refused] at ran
    have arrives : Arrives frame (requestData frame) before :=
      ⟨looked.surroundings ▸ rfl, looked.data ▸ fits, clean, whole_of_delivered refused⟩
    have serves := standardRequest_inside arrives (frame.byte 1) (frame.byte 0)
    unfold Yields at serves ⊢
    rw [ran]
    refine serves.trans ⟨fun stays _ => ⟨stays.1, fun handler found => ?_⟩, fun stays => ?_⟩
    · exact (stays_of_looks looked handler _).mp (stays.2 handler found)
    · exact ⟨(stays rfl).1, fun handler found => (stays_of_looks looked handler _).mpr ((stays rfl).2 handler found)⟩

end

theorem requests_stay_inside_read :
    (iso15693_3ListenerAlloc releaseBuild fourBlockCard).StaysInside (.ofBytes [0x02, 0x20, 0x03]) := by
  refine (requests_stay_inside fourBlockCard_fits _).mpr fun _ => ⟨by decide, fun handler found => ?_⟩
  cases found
  exact fun _ _ _ => ⟨by decide, fun _ => by decide⟩

/-- A request for several blocks that begins behind the last block. -/
theorem request_leaves_card : fourBlockCard.Fits ∧
      ¬ (iso15693_3ListenerAlloc releaseBuild fourBlockCard).StaysInside (.ofBytes [0x02, 0x23, 0x05, 0x00]) :=
  ⟨fourBlockCard_fits, by decide +kernel⟩

end Xtreme.Nfc
