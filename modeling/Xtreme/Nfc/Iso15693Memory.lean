import Xtreme.Nfc.Iso15693Listener
import Mathlib.Tactic.SplitIfs

/-! The functions through which the ISO15693-3 listener reads a request, fills
the transmit buffer and reaches its blocks: when they go through in a build with
assertions, and with what effect. -/
namespace Xtreme.Nfc
open Xtreme.Library BitLib Toolbox
open Effect (Yields)

namespace Iso15693_3RequestData
variable (request : Iso15693_3RequestData)

/-- The first byte of the data: a block number. -/
def first : Nat := (request.frame.byte request.start).toNat

/-- The second byte of the data and one: a number of blocks. -/
def count : Nat := (request.frame.byte (request.start + 1)).toNat + 1

def blocks : List Nat := List.range' request.first request.count

end Iso15693_3RequestData

/-- A request for several blocks passes the comparison of their number with the
one that is available: it ends on the card, or it begins behind its end. -/
def PassesRange (data : Iso15693_3Data) (request : Iso15693_3RequestData) : Prop :=
  data.blockCount < request.first ∨ request.first + request.count ≤ data.blockCount

section
variable {instanc : Iso15693_3Listener} {request : Iso15693_3RequestData}

@[simp] theorem traced_data (step : Iso15693_3Trace) : (instanc.traced step).data = instanc.data := rfl

@[simp] theorem traced_surroundings (step : Iso15693_3Trace) :
    (instanc.traced step).surroundings = instanc.surroundings := rfl

@[simp] theorem traced_txBuffer (step : Iso15693_3Trace) : (instanc.traced step).txBuffer = instanc.txBuffer := rfl

@[simp] theorem traced_trace (step : Iso15693_3Trace) : (instanc.traced step).trace = instanc.trace ++ [step] := rfl

theorem blockNumber_of_lt {index : Nat} (small : index < 256) : blockNumber index = index :=
  Nat.mod_eq_of_lt small

theorem first_lt (request : Iso15693_3RequestData) : request.first < 256 := (request.frame.byte request.start).isLt

theorem count_bounds (request : Iso15693_3RequestData) : 0 < request.count ∧ request.count ≤ 256 :=
  ⟨Nat.succ_pos _, (request.frame.byte (request.start + 1)).isLt⟩

theorem mem_blocks (index : Nat) :
    index ∈ request.blocks ↔ request.first ≤ index ∧ index < request.first + request.count :=
  List.mem_range'_1

variable {data : Iso15693_3Data}

theorem passesRange_iff (fits : data.Fits) (request : Iso15693_3RequestData) :
    ¬ blockCountAvailable data.blockCount request.first < request.count ↔ PassesRange data request := by
  have few := fits.count
  have first := first_lt request
  have count := count_bounds request
  unfold blockCountAvailable PassesRange
  omega

/-- The blocks of a request that all lie on the card: those of a request that
ends on the card. -/
theorem blocks_inside (inside : request.first + request.count ≤ data.blockCount) :
    ∀ index ∈ request.blocks, index < data.blockCount := by
  intro index member
  have bounds := (mem_blocks index).mp member
  omega

/-- The places of some bytes of a request, in the order in which they are read. -/
def requestSteps (request : Iso15693_3RequestData) (first count : Nat) : List Iso15693_3Trace :=
  (List.range' first count).map fun index => .requestByte (request.start + index)

theorem readRequestBytes_run (first count : Nat) : readRequestBytes request first count instanc =
      (.ok ((List.range' first count).map fun index => request.frame.byte (request.start + index)),
        { instanc with trace := instanc.trace ++ requestSteps request first count }) := by
  unfold readRequestBytes requestSteps
  have := @Effect.lawful Iso15693_3Fault Iso15693_3Listener
  induction count generalizing first instanc with
  | zero =>
    rw [List.range'_zero, List.mapM_nil, Effect.pure_run, List.map_nil, List.map_nil, List.append_nil]
  | succ count ih =>
    rw [List.range'_succ, List.mapM_cons]
    refine (Effect.bind_of_ok (ih (first + 1))).trans ?_
    simp [Iso15693_3Listener.traced]

@[simp] theorem yields_readRequest {post : BitVec 8 → Iso15693_3Listener → Prop} (index : Nat) :
    Yields (readRequest request index) post instanc ↔ post (request.frame.byte (request.start + index))
        (instanc.traced (.requestByte (request.start + index))) := Iff.rfl

@[simp] theorem yields_readRequestBytes {post : List (BitVec 8) → Iso15693_3Listener → Prop} (first count : Nat) :
    Yields (readRequestBytes request first count) post instanc ↔
      post ((List.range' first count).map fun index => request.frame.byte (request.start + index))
        { instanc with trace := instanc.trace ++ requestSteps request first count } :=
  Yields.iff_of_ok (readRequestBytes_run first count)

theorem hasBlock_iff (fits : data.Fits) {index : Nat} (inside : index < data.blockCount) :
    data.HasBlock index ↔ 0 < data.blockSize := by
  unfold Iso15693_3Data.HasBlock Iso15693_3Data.blockOffset
  rw [fits.blockData]
  have room := Nat.mul_le_mul_right data.blockSize (show index + 1 ≤ data.blockCount from inside)
  rw [Nat.succ_mul] at room
  rcases Nat.eq_zero_or_pos data.blockSize with none | some
  · simp [none]
  · omega

theorem length_block {index : Nat} (has : data.HasBlock index) :
    (data.block index).length = data.blockSize := by
  have room := has.2
  rw [Iso15693_3Data.block, List.length_take, List.length_drop]
  omega

theorem security_inside (fits : data.Fits) {index : Nat} (inside : index < data.blockCount) :
    (data.blockSecurity = [] ∨ index < data.blockSecurity.length) ∧
      (index < data.blockSecurity.length ↔ data.blockSecurity ≠ []) := by
  rcases fits.blockSecurity with none | whole
  · simp [none]
  · refine ⟨.inr (whole ▸ inside), fun _ none => ?_, fun _ => whole ▸ inside⟩
    rw [none, List.length_nil] at whole
    omega

theorem furiAssert_run {condition : Prop} [Decidable condition] (holds : condition) (failure : Iso15693_3Fault) :
    furiAssert condition failure instanc = (.ok (), instanc) := by
  unfold furiAssert
  rw [Effect.observe_bind, if_neg fun fails => fails.2 holds]
  rfl

theorem appendBytes_run {bytes : List (BitVec 8)}
    (room : instanc.txBuffer.length + bytes.length ≤ Iso15693_3Listener.bufferSize) :
    appendBytes bytes instanc = (.ok (), { instanc with txBuffer := instanc.txBuffer ++ bytes }) := by
  unfold appendBytes
  rw [Effect.observe_bind, Effect.bind_of_ok (furiAssert_run room _)]
  rfl

section
variable (debug : instanc.surroundings.furiDebug = true)
include debug

variable {post : Unit → Iso15693_3Listener → Prop}

theorem yields_furiAssert {condition : Prop} [Decidable condition] {failure : Iso15693_3Fault} :
    Yields (furiAssert condition failure) post instanc ↔ condition ∧ post () instanc := by
  unfold furiAssert
  rw [Yields.bind_iff, Yields.observe_iff, debug]
  by_cases holds : condition
  · simp [holds]
  · simp [holds]

theorem yields_appendBytes (bytes : List (BitVec 8)) : Yields (appendBytes bytes) post instanc ↔
      instanc.txBuffer.length + bytes.length ≤ Iso15693_3Listener.bufferSize ∧
        post () { instanc with txBuffer := instanc.txBuffer ++ bytes } := by
  unfold appendBytes
  rw [Yields.bind_iff, Yields.observe_iff, Yields.bind_iff, yields_furiAssert debug, Yields.update_iff]

theorem yields_checkBlockNumber (blockNum : Nat) :
    Yields (checkBlockNumber blockNum) post instanc ↔ blockNum < instanc.data.blockCount ∧ post () instanc := by
  unfold checkBlockNumber
  rw [Yields.bind_iff, Yields.observe_iff, yields_furiAssert debug]

theorem yields_blockSecurityAt {post : BitVec 8 → Iso15693_3Listener → Prop} (blockNum : Nat) :
    Yields (blockSecurityAt blockNum) post instanc ↔ blockNum < instanc.data.blockSecurity.length ∧
      post (instanc.data.blockSecurity.getD blockNum 0) instanc := by
  unfold blockSecurityAt
  rw [Yields.bind_iff, Yields.observe_iff, Yields.bind_iff, id, yields_furiAssert debug, Yields.pure_iff]
  refine and_congr_right fun inside => ?_
  rw [List.getD_eq_getElem?_getD, List.getD_eq_getElem?_getD, List.getElem?_eq_getElem inside, Option.getD_some,
    Option.getD_some]

theorem yields_iso15693_3IsBlockLocked {post : Bool → Iso15693_3Listener → Prop} (index : Nat) :
    Yields (iso15693_3IsBlockLocked index) post instanc ↔ blockNumber index < instanc.data.blockCount ∧
        (instanc.data.blockSecurity = [] ∨ blockNumber index < instanc.data.blockSecurity.length) ∧
        post (instanc.data.isLocked (blockNumber index)) instanc := by
  unfold iso15693_3IsBlockLocked
  rw [Yields.bind_iff, yields_checkBlockNumber debug, Yields.bind_iff, Yields.observe_iff]
  by_cases unknown : instanc.data.blockSecurity = []
  · simp [unknown, Iso15693_3Data.isLocked]
  · have known : instanc.data.blockSecurity.isEmpty = false := by simpa using unknown
    rw [if_neg unknown, Yields.bind_iff, yields_blockSecurityAt debug, or_iff_right unknown]
    simp [Iso15693_3Data.isLocked, known]

theorem yields_iso15693_3AppendBlockSecurity (index : Nat) :
    Yields (iso15693_3AppendBlockSecurity index) post instanc ↔
      blockNumber index < instanc.data.blockSecurity.length ∧
        Yields (appendBytes [instanc.data.blockSecurity.getD (blockNumber index) 0]) post instanc := by
  unfold iso15693_3AppendBlockSecurity
  rw [Yields.bind_iff, yields_blockSecurityAt debug]

theorem yields_iso15693_3AppendBlock (index : Nat) : Yields (iso15693_3AppendBlock index) post instanc ↔
      blockNumber index < instanc.data.blockCount ∧ instanc.data.HasBlock (blockNumber index) ∧
        Yields (appendBytes (instanc.data.block (blockNumber index))) post instanc := by
  unfold iso15693_3AppendBlock
  rw [Yields.bind_iff, yields_checkBlockNumber debug, Yields.bind_iff, Yields.observe_iff, Yields.bind_iff, id,
    yields_furiAssert debug]
  refine and_congr_right fun _ => and_congr_right fun inside => ?_
  rw [if_pos inside]

theorem yields_iso15693_3SetBlockData (index : Nat) (bytes : List (BitVec 8)) :
    Yields (iso15693_3SetBlockData index bytes) post instanc ↔
      blockNumber index < instanc.data.blockCount ∧ instanc.data.HasBlock (blockNumber index) ∧
        post () { instanc with data := instanc.data.setBlock (blockNumber index) bytes } := by
  unfold iso15693_3SetBlockData
  rw [Yields.bind_iff, yields_checkBlockNumber debug, Yields.bind_iff, Yields.observe_iff, Yields.bind_iff,
    yields_furiAssert debug]
  refine and_congr_right fun _ => and_congr_right fun inside => ?_
  rw [if_pos inside, Yields.update_iff]

theorem yields_iso15693_3SetBlockLocked (index : Nat) : Yields (iso15693_3SetBlockLocked index) post instanc ↔
      blockNumber index < instanc.data.blockCount ∧ blockNumber index < instanc.data.blockSecurity.length ∧
        post () { instanc with data := instanc.data.setLocked (blockNumber index) } := by
  unfold iso15693_3SetBlockLocked
  rw [Yields.bind_iff, yields_checkBlockNumber debug, Yields.bind_iff, Yields.observe_iff, Yields.bind_iff,
    yields_furiAssert debug, Yields.update_iff]

end

end

end Xtreme.Nfc
