import Mathlib.Data.List.Induction
import Xtreme.LfRfid.RawFile
import Xtreme.Library.Simulation

/-! The emulation of a raw signal (`lfrfid_raw_emulate_worker_thread` in
`lfrfid_raw_worker.c`): a buffer of timer values that is filled from the file,
and refilled by halves while the timer runs through the other one.

A turn of the worker is its loop body, on what the stream of the interrupt
brought. A worker that was stopped is one with fewer turns, and one whose file
failed takes none any more. A callback is taken to be set. -/
namespace Xtreme.LfRfid
open Xtreme.Library Xtreme.Stream Xtreme.Toolbox

def emulateBufferSize : Nat := 1024

inductive LFRFIDRawEmulateDMAEvent
  | halfTransfer
  | transferComplete
  deriving DecidableEq, Repr

inductive LFRFIDWorkerEmulateRawResult
  | fileError
  | overrun
  deriving DecidableEq, Repr

abbrev EmulateBuffer := Vector (BitVec 32) emulateBufferSize

/-- `LFRFIDRawWorkerEmulateData`, and the locals of the thread. -/
structure RawEmulate where
  emulateBufferArr : EmulateBuffer
  emulateBufferCcr : EmulateBuffer
  overrunCount : Nat
  frequency : BitVec 32
  dutyCycle : BitVec 32
  file : LFRFIDRawFile
  fileValid : Bool

def entryAt (buffer : EmulateBuffer) (i : Nat) : BitVec 32 := (buffer[i]?).getD 0

def emulateReadPair (readAt scaleAt : Nat) (s : RawEmulate) : RawEmulate :=
  let read := lfrfidRawFileReadPair s.file
  match read.1 with
  | some pair =>
    let arr := s.emulateBufferArr.setIfInBounds readAt pair.duration
    let ccr := s.emulateBufferCcr.setIfInBounds readAt pair.pulse
    { s with
      emulateBufferArr := arr.setIfInBounds scaleAt (entryAt arr scaleAt / 8 - 1)
      emulateBufferCcr := ccr.setIfInBounds scaleAt (entryAt ccr scaleAt / 8)
      file := read.2.2 }
  | none => { s with file := read.2.2, fileValid := false }

/-- A loop that fills, broken off at the first pair that cannot be read. Both
loops of the source scale at their counter, wherever they read. -/
def emulateFill (readAt : Nat → Nat) : List Nat → RawEmulate → RawEmulate
  | [], s => s
  | i :: rest, s =>
    let s := emulateReadPair (readAt i) i s
    if s.fileValid then emulateFill readAt rest s else s

/-- The thread up to its loop, on a file with these contents. -/
def lfrfidRawEmulateStart (data : List UInt8) : RawEmulate :=
  let header := lfrfidRawFileReadHeader (lfrfidRawFileOpenRead data)
  let empty : EmulateBuffer := Vector.replicate emulateBufferSize 0
  match header.1 with
  | some words =>
    emulateFill (fun i => i) (List.range emulateBufferSize) ⟨empty, empty, 0, words.1, words.2, header.2, true⟩
  | none => ⟨empty, empty, 0, 0, 0, header.2, false⟩

/-- Where the half begins that the timer has left. -/
def refillStart : LFRFIDRawEmulateDMAEvent → Nat
  | .halfTransfer => 0
  | .transferComplete => emulateBufferSize / 2

/-- The refill of one half: the pairs go to that half, but it is the first half that is scaled. -/
def emulateRefill (flag : LFRFIDRawEmulateDMAEvent) (s : RawEmulate) : RawEmulate :=
  emulateFill (fun i => refillStart flag + i) (List.range (emulateBufferSize / 2)) s

/-- What a turn of the thread receives: a flag, a part of one, or nothing in
time. `lost` is the interrupt itself, with the stream too full to take its flag. -/
inductive EmulateInput
  | received (flag : LFRFIDRawEmulateDMAEvent)
  | part
  | timeout
  | lost
  deriving DecidableEq, Repr

/-- What the thread does with it. -/
def emulateReceive : EmulateInput → RawEmulate → RawEmulate
  | .received flag, s => emulateRefill flag s
  | .part, s => { s with overrunCount := s.overrunCount + 1 }
  | .timeout, s => s
  | .lost, s => { s with overrunCount := s.overrunCount + 1 }

def lfrfidRawEmulateTurn : Machine RawEmulate EmulateInput (List LFRFIDWorkerEmulateRawResult) := fun s input =>
  if s.fileValid = false then ([], s)
  else
    let s := emulateReceive input s
    if input = .lost then ([], s)
    else if s.fileValid = false then ([.fileError], s)
    else (if 0 < s.overrunCount then [.overrun] else [], s)

/-- Which pair of the signal each entry holds, and which one is read next. -/
structure Slots where
  number : Nat → Nat
  next : Nat

namespace Slots

/-- The buffer as it is filled at first. -/
def start : Slots := ⟨fun i => i, emulateBufferSize⟩

/-- A flag brings the next pairs into the half that the timer has left. -/
def turn (slots : Slots) : EmulateInput → Slots
  | .received flag =>
    { number := fun i =>
        if refillStart flag ≤ i ∧ i < refillStart flag + emulateBufferSize / 2 then
          slots.next + (i - refillStart flag)
        else slots.number i
      next := slots.next + emulateBufferSize / 2 }
  | _ => slots

def after (inputs : List EmulateInput) : Slots := inputs.foldl turn start

end Slots

def RawFile.signal (raw : RawFile) (number : Nat) : Option RawPair := raw.pairs[number % raw.pairs.length]?

/-- Every entry holds its pair, scaled once. -/
def Scaled (raw : RawFile) (slots : Slots) (s : RawEmulate) : Prop :=
  ∀ i < emulateBufferSize, ∃ pair, raw.signal (slots.number i) = some pair ∧
    (entryAt s.emulateBufferArr i).toNat + 1 = pair.duration.toNat / 8 ∧
    (entryAt s.emulateBufferCcr i).toNat = pair.pulse.toNat / 8

theorem entryAt_setIfInBounds (buffer : EmulateBuffer) {i : Nat} (inside : i < emulateBufferSize) (value : BitVec 32)
    (j : Nat) : entryAt (buffer.setIfInBounds i value) j = if j = i then value else entryAt buffer j := by
  unfold entryAt
  by_cases same : i = j
  · subst same
    simp [inside]
  · simp [same, Ne.symm same]

theorem emulateFill_append (readAt : Nat → Nat) (first second : List Nat) (s : RawEmulate)
    (valid : (emulateFill readAt first s).fileValid = true) :
    emulateFill readAt (first ++ second) s = emulateFill readAt second (emulateFill readAt first s) := by
  induction first generalizing s with
  | nil => rfl
  | cons i first ih =>
    simp only [List.cons_append, emulateFill] at valid ⊢
    split
    · rename_i more
      rw [if_pos more] at valid
      exact ih _ valid
    · rename_i broken
      rw [if_neg broken] at valid
      exact absurd valid broken

variable {raw : RawFile} {small : raw.bytes.length ≤ 2 ^ 31 + 20} {s : RawEmulate} {k : Nat}

theorem RawFile.pairs_pos (raw : RawFile) : 0 < raw.pairs.length := by
  obtain ⟨block, others, shape⟩ := List.exists_cons_of_ne_nil raw.nonempty
  obtain ⟨pair, rest, first⟩ := List.exists_cons_of_ne_nil block.nonempty
  rw [pairs, shape, List.flatMap_cons, first]
  exact Nat.succ_pos _

/-- The worker is about to read pair `k` of the signal. -/
structure Ready (raw : RawFile) (small : raw.bytes.length ≤ 2 ^ 31 + 20) (k : Nat) (s : RawEmulate) : Prop where
  valid : s.fileValid = true
  turn : (pairReader raw small).At k s.file

theorem Ready.readPair (ready : Ready raw small k s) (readAt scaleAt : Nat) :
    ∃ pair, raw.signal k = some pair ∧ Ready raw small (k + 1) (emulateReadPair readAt scaleAt s) ∧
      (emulateReadPair readAt scaleAt s).emulateBufferArr =
        (s.emulateBufferArr.setIfInBounds readAt pair.duration).setIfInBounds scaleAt
          (entryAt (s.emulateBufferArr.setIfInBounds readAt pair.duration) scaleAt / 8 - 1) ∧
      (emulateReadPair readAt scaleAt s).emulateBufferCcr =
        (s.emulateBufferCcr.setIfInBounds readAt pair.pulse).setIfInBounds scaleAt
          (entryAt (s.emulateBufferCcr.setIfInBounds readAt pair.pulse) scaleAt / 8) := by
  obtain ⟨read, next⟩ := ready.turn.step raw.pairs_pos
  have inside := Nat.mod_lt k raw.pairs_pos
  obtain ⟨pair, found⟩ : ∃ pair, raw.pairs[k % raw.pairs.length]? = some pair :=
    ⟨_, List.getElem?_eq_getElem inside⟩
  simp only [found] at read
  refine ⟨pair, found, ?_⟩
  rw [emulateReadPair, read]
  exact ⟨⟨ready.valid, next⟩, rfl, rfl⟩

/-- Entry `i` holds a pair of the signal, scaled once. -/
def ScaledAt (raw : RawFile) (s : RawEmulate) (i number : Nat) : Prop :=
  ∃ pair, raw.signal number = some pair ∧ entryAt s.emulateBufferArr i = pair.duration / 8 - 1 ∧
    entryAt s.emulateBufferCcr i = pair.pulse / 8

/-- Two buffers agree on an entry. -/
def SameAt (s t : RawEmulate) (i : Nat) : Prop :=
  entryAt s.emulateBufferArr i = entryAt t.emulateBufferArr i ∧
    entryAt s.emulateBufferCcr i = entryAt t.emulateBufferCcr i

theorem Ready.fill (ready : Ready raw small k s) {count : Nat} (room : count ≤ emulateBufferSize) :
    Ready raw small (k + count) (emulateFill (fun i => i) (List.range count) s) ∧
      (∀ i < count, ScaledAt raw (emulateFill (fun i => i) (List.range count) s) i (k + i)) ∧
        ∀ i, count ≤ i → SameAt (emulateFill (fun i => i) (List.range count) s) s i := by
  induction count with
  | zero => exact ⟨ready, fun i none => absurd none (Nat.not_lt_zero i), fun i _ => ⟨rfl, rfl⟩⟩
  | succ count ih =>
    obtain ⟨before, filled, kept⟩ := ih (by omega)
    obtain ⟨pair, found, next, arr, ccr⟩ := before.readPair count count
    rw [List.range_succ, emulateFill_append _ _ _ _ before.valid]
    simp only [emulateFill, next.valid, ↓reduceIte]
    refine ⟨next, fun i early => ?_, fun i late => ?_⟩
    · by_cases new : i = count
      · subst new
        refine ⟨pair, found, ?_, ?_⟩
        · rw [arr, entryAt_setIfInBounds _ (by omega), if_pos rfl, entryAt_setIfInBounds _ (by omega), if_pos rfl]
        · rw [ccr, entryAt_setIfInBounds _ (by omega), if_pos rfl, entryAt_setIfInBounds _ (by omega), if_pos rfl]
      · obtain ⟨old, foundOld, arrOld, ccrOld⟩ := filled i (by omega)
        refine ⟨old, foundOld, ?_, ?_⟩
        · rw [arr, entryAt_setIfInBounds _ (by omega), if_neg new, entryAt_setIfInBounds _ (by omega), if_neg new, arrOld]
        · rw [ccr, entryAt_setIfInBounds _ (by omega), if_neg new, entryAt_setIfInBounds _ (by omega), if_neg new, ccrOld]
    · obtain ⟨arrOld, ccrOld⟩ := kept i (by omega)
      have new : i ≠ count := by omega
      constructor
      · rw [arr, entryAt_setIfInBounds _ (by omega), if_neg new, entryAt_setIfInBounds _ (by omega), if_neg new, arrOld]
      · rw [ccr, entryAt_setIfInBounds _ (by omega), if_neg new, entryAt_setIfInBounds _ (by omega), if_neg new, ccrOld]

/-- A loop that reads behind where it scales leaves the pairs it reads as they
are. The first of them shows it, which no later turn touches again. -/
theorem Ready.fill_behind (ready : Ready raw small k s) {start count : Nat} (room : start + count ≤ emulateBufferSize)
    (behind : count ≤ start) :
    Ready raw small (k + count) (emulateFill (fun i => start + i) (List.range count) s) ∧
      (0 < count → ∃ pair, raw.signal k = some pair ∧
        entryAt (emulateFill (fun i => start + i) (List.range count) s).emulateBufferArr start = pair.duration) := by
  induction count with
  | zero => exact ⟨ready, fun none => absurd none (Nat.lt_irrefl 0)⟩
  | succ count ih =>
    obtain ⟨before, first⟩ := ih (by omega) (by omega)
    obtain ⟨pair, found, next, arr, -⟩ := before.readPair (start + count) count
    rw [List.range_succ, emulateFill_append _ _ _ _ before.valid]
    simp only [emulateFill, next.valid, ↓reduceIte]
    refine ⟨next, fun _ => ?_⟩
    rw [arr, entryAt_setIfInBounds _ (by omega), if_neg (by omega), entryAt_setIfInBounds _ (by omega)]
    rcases Nat.eq_zero_or_pos count with none | some
    · subst none
      exact ⟨pair, found, if_pos rfl⟩
    · obtain ⟨old, foundOld, raw⟩ := first some
      exact ⟨old, foundOld, by rw [if_neg (by omega), raw]⟩

/-! ## Runs -/

/-- Every entry holds its pair, and the file is at the pair that comes next. -/
structure Emulating (raw : RawFile) (small : raw.bytes.length ≤ 2 ^ 31 + 20) (slots : Slots) (s : RawEmulate) :
    Prop where
  ready : Ready raw small slots.next s
  filled : ∀ i < emulateBufferSize, ScaledAt raw s i (slots.number i)

variable {slots : Slots}

theorem emulating_start (raw : RawFile) (small : raw.bytes.length ≤ 2 ^ 31 + 20) :
    Emulating raw small .start (lfrfidRawEmulateStart raw.bytes) := by
  obtain ⟨header, ahead⟩ := readHeader_opened raw
  rw [lfrfidRawEmulateStart, header]
  have opened : Ready raw small 0
      ⟨Vector.replicate emulateBufferSize 0, Vector.replicate emulateBufferSize 0, 0, raw.frequency, raw.dutyCycle,
        (lfrfidRawFileReadHeader (lfrfidRawFileOpenRead raw.bytes)).2, true⟩ :=
    ⟨rfl, CyclicReader.at_zero ahead⟩
  obtain ⟨ready, filled, -⟩ := opened.fill (Nat.le_refl emulateBufferSize)
  refine ⟨ready, fun i inside => ?_⟩
  have entry := filled i inside
  rwa [Nat.zero_add] at entry

theorem turn_of_valid (valid : s.fileValid = true) (input : EmulateInput) :
    (lfrfidRawEmulateTurn s input).2 = emulateReceive input s := by
  rw [lfrfidRawEmulateTurn, if_neg (by simp [valid])]
  simp only
  split
  · rfl
  · split <;> rfl

/-- Only a flag of the second half can break the buffer. -/
theorem Emulating.turn (emulating : Emulating raw small slots s) {input : EmulateInput}
    (other : input ≠ .received .transferComplete) :
    Emulating raw small (slots.turn input) (lfrfidRawEmulateTurn s input).2 := by
  rw [turn_of_valid emulating.ready.valid]
  cases input with
  | part => exact ⟨⟨emulating.ready.valid, emulating.ready.turn⟩, emulating.filled⟩
  | timeout => exact emulating
  | lost => exact ⟨⟨emulating.ready.valid, emulating.ready.turn⟩, emulating.filled⟩
  | received flag =>
    cases flag with
    | transferComplete => exact absurd rfl other
    | halfTransfer =>
      obtain ⟨ready, filled, kept⟩ := emulating.ready.fill (Nat.div_le_self emulateBufferSize 2)
      have refill : emulateReceive (.received .halfTransfer) s =
          emulateFill (fun i => i) (List.range (emulateBufferSize / 2)) s := by
        simp only [emulateReceive, emulateRefill, refillStart, Nat.zero_add]
      rw [refill]
      refine ⟨ready, fun i inside => ?_⟩
      simp only [Slots.turn, refillStart, Nat.zero_le, true_and]
      split
      · rename_i front
        exact filled i front
      · obtain ⟨arr, ccr⟩ := kept i (by omega)
        obtain ⟨pair, found, arrOld, ccrOld⟩ := emulating.filled i inside
        exact ⟨pair, found, arr.trans arrOld, ccr.trans ccrOld⟩

/-- The flag of the second half leaves a pair unscaled at its first entry. -/
theorem Emulating.turn_transferComplete (emulating : Emulating raw small slots s) :
    ¬ Scaled raw (slots.turn (.received .transferComplete))
      (lfrfidRawEmulateTurn s (.received .transferComplete)).2 := by
  intro scaled
  have half : emulateBufferSize / 2 + emulateBufferSize / 2 = emulateBufferSize := rfl
  have some : 0 < emulateBufferSize / 2 := by decide
  rw [turn_of_valid emulating.ready.valid] at scaled
  obtain ⟨-, first⟩ := emulating.ready.fill_behind (Nat.le_of_eq half) (Nat.le_refl _)
  obtain ⟨pair, found, unscaled⟩ := first some
  obtain ⟨pair', found', arr, -⟩ := scaled (emulateBufferSize / 2) (by omega)
  have same : pair = pair' := Option.some.inj (found.symm.trans found')
  have raw : entryAt (emulateReceive (.received .transferComplete) s).emulateBufferArr (emulateBufferSize / 2) =
      pair.duration := unscaled
  rw [raw, ← same] at arr
  omega

/-- With durations of at least eight, no entry wraps below zero. -/
theorem Emulating.scaled (emulating : Emulating raw small slots s)
    (long : ∀ pair ∈ raw.pairs, 8 ≤ pair.duration.toNat) : Scaled raw slots s := by
  intro i inside
  obtain ⟨pair, found, arr, ccr⟩ := emulating.filled i inside
  have eight := long pair (List.mem_of_getElem? found)
  have word : (8 : BitVec 32).toNat = 8 := by decide
  have one : (1 : BitVec 32).toNat = 1 := by decide
  refine ⟨pair, found, ?_, ?_⟩
  · rw [arr, BitVec.toNat_sub, BitVec.toNat_udiv, word]
    omega
  · rw [ccr, BitVec.toNat_udiv, word]

/-- The state of the worker after some inputs. -/
def emulateAfter (raw : RawFile) (inputs : List EmulateInput) : RawEmulate :=
  (Machine.run lfrfidRawEmulateTurn (lfrfidRawEmulateStart raw.bytes) inputs).2

theorem emulateAfter_append (raw : RawFile) (inputs : List EmulateInput) (input : EmulateInput) :
    emulateAfter raw (inputs ++ [input]) = (lfrfidRawEmulateTurn (emulateAfter raw inputs) input).2 := by
  rw [emulateAfter, Machine.run_append]
  rfl

theorem Slots.after_append (inputs : List EmulateInput) (input : EmulateInput) :
    Slots.after (inputs ++ [input]) = (Slots.after inputs).turn input := by
  rw [Slots.after, List.foldl_append]
  rfl

theorem emulating_after (raw : RawFile) (small : raw.bytes.length ≤ 2 ^ 31 + 20) (inputs : List EmulateInput)
    (none : .received .transferComplete ∉ inputs) : Emulating raw small (.after inputs) (emulateAfter raw inputs) := by
  induction inputs using List.reverseRecOn with
  | nil => exact emulating_start raw small
  | append_singleton inputs input ih =>
    rw [List.mem_append, not_or, List.mem_singleton] at none
    rw [Slots.after_append, emulateAfter_append]
    exact (ih none.1).turn (Ne.symm none.2)

/-- **The emulation plays the pairs of the file exactly as long as no flag of
the second half is handled.** After the first fill and after every turn, every
entry holds its pair of the signal, scaled once, in the order of the file and
again from its first pair after the last one, if and only if no turn receives
`TransferComplete`: then half of the buffer is left unscaled. A file beyond
2 GiB is left out, in which the stream cannot seek back. -/
theorem emulate_scaled_iff (raw : RawFile) (small : raw.bytes.length ≤ 2 ^ 31 + 20)
    (long : ∀ pair ∈ raw.pairs, 8 ≤ pair.duration.toNat) (inputs : List EmulateInput) :
    (∀ count, Scaled raw (.after (inputs.take count)) (emulateAfter raw (inputs.take count))) ↔
      .received .transferComplete ∉ inputs := by
  constructor
  · intro scaled member
    obtain ⟨front, rest, shape, before⟩ := List.eq_append_cons_of_mem member
    have broken := (emulating_after raw small front before).turn_transferComplete
    have prefixed : inputs.take (front.length + 1) = front ++ [.received .transferComplete] := by
      rw [shape, List.take_length_add_append]
      rfl
    have state := scaled (front.length + 1)
    rw [prefixed, Slots.after_append, emulateAfter_append] at state
    exact broken state
  · intro none count
    exact (emulating_after raw small _ fun member => none (List.mem_of_mem_take member)).scaled long

/-- One pair of 64 and 128, in one block. -/
def shortFile : RawFile where
  frequency := 0
  dutyCycle := 0
  maxBufferSize := 2048
  blocks := [{
    pairs := [⟨⟨[0x40], .singleton rfl⟩, ⟨[0x80, 0x01], .cons rfl (.singleton rfl)⟩⟩]
    nonempty := List.cons_ne_nil _ _
    fits := by decide }]
  nonempty := List.cons_ne_nil _ _

theorem shortFile_small : shortFile.bytes.length ≤ 2 ^ 31 + 20 := by decide

theorem shortFile_long : ∀ pair ∈ shortFile.pairs, 8 ≤ pair.duration.toNat := by decide

theorem emulate_scaled_iff_shortFile : (∀ count, Scaled shortFile (.after ([.received .halfTransfer].take count))
      (emulateAfter shortFile ([.received .halfTransfer].take count))) ↔
        .received .transferComplete ∉ [EmulateInput.received .halfTransfer] :=
  emulate_scaled_iff shortFile shortFile_small shortFile_long [.received .halfTransfer]

/-- The first flag of the second half breaks the buffer. -/
theorem emulate_breaks : (∀ pair ∈ shortFile.pairs, 8 ≤ pair.duration.toNat) ∧
      ¬ Scaled shortFile (.after [.received .transferComplete])
        (emulateAfter shortFile [.received .transferComplete]) := by
  refine ⟨shortFile_long, ?_⟩
  have broken := (emulating_after shortFile shortFile_small [] List.not_mem_nil).turn_transferComplete
  rwa [← emulateAfter_append] at broken

end Xtreme.LfRfid
