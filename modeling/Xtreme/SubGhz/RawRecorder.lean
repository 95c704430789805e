import Mathlib.Algebra.Group.Int.Defs
import Mathlib.Algebra.GroupWithZero.Nat
import Mathlib.Data.Nat.Notation

/-! The recorder of raw samples (`raw.c`). Samples are kept in an array, and written to a
file whenever it is full. A write that fails leaves the array full, and the next sample is
stored behind it. -/
namespace Xtreme.SubGhz

def subghzDownloadMaxSize : Nat := 512
def rawTeShort : BitVec 32 := 50

inductive RawFileIsOpen
  | close
  | write
  | read
  deriving DecidableEq, Repr

/-- `SubGhzProtocolDecoderRAW`. The memory behind `upload_raw` is not bounded here. -/
structure SubGhzProtocolDecoderRAW where
  uploadRaw : Option (Nat → BitVec 32)
  indWrite : BitVec 16
  fileIsOpen : RawFileIsOpen
  sampleWrite : BitVec 32
  lastLevel : Bool
  pause : Bool

/-- A recorder with its file. `stored` and `buffered` are what a run is observed by: the
indices that were stored to, and the samples stored since the last write or reset. -/
structure RawRecording where
  instanc : SubGhzProtocolDecoderRAW
  file : List (BitVec 32)
  stored : List Nat
  buffered : List (BitVec 32)

/-- How writing a line ends: it is in the file, or not, and then the file may have some of
its samples all the same. -/
inductive LineWrite
  | written
  | failed (partly : Nat)
  deriving DecidableEq, Repr

/-- The samples of a line that is not in the file as a whole. -/
def LineWrite.partly : LineWrite → Nat
  | written => 0
  | failed partly => partly

/-- `subghz_protocol_decoder_raw_alloc`, and `subghz_protocol_raw_save_to_file_init` where
it succeeds. -/
def rawStarted (memory : Nat → BitVec 32) : RawRecording where
  instanc := {
    uploadRaw := some memory
    indWrite := 0
    fileIsOpen := .write
    sampleWrite := 0
    lastLevel := false
    pause := false }
  file := []
  stored := []
  buffered := []

/-- `subghz_protocol_raw_save_to_file_write`. -/
def rawSaveToFileWrite (recording : RawRecording) (memory : Nat → BitVec 32) (outcome : LineWrite) : RawRecording :=
  let instanc := recording.instanc
  let line := (List.range instanc.indWrite.toNat).map memory
  if instanc.fileIsOpen = .write then
    match outcome with
    | .failed partly => { recording with file := recording.file ++ line.take partly }
    | .written =>
      { recording with
        instanc := { instanc with
          sampleWrite := instanc.sampleWrite + instanc.indWrite.setWidth 32
          indWrite := 0 }
        file := recording.file ++ line
        buffered := [] }
  else recording

/-- The sample of a level that is stored by `subghz_protocol_decoder_raw_feed`. -/
def rawStore (recording : RawRecording) (memory : Nat → BitVec 32) (level : Bool) (duration : BitVec 32) :
    RawRecording :=
  let instanc := recording.instanc
  let sample := if level then duration else -duration
  { recording with
    instanc := { instanc with
      lastLevel := level
      uploadRaw := some fun place => if place = instanc.indWrite.toNat then sample else memory place
      indWrite := instanc.indWrite + 1 }
    stored := recording.stored ++ [instanc.indWrite.toNat]
    buffered := recording.buffered ++ [sample] }

/-- The samples that are listened to, and those of them that are stored. -/
def SubGhzProtocolDecoderRAW.Listens (instanc : SubGhzProtocolDecoderRAW) (duration : BitVec 32) : Prop :=
  instanc.pause = false ∧ instanc.uploadRaw.isSome ∧ duration < 1000000#32

def SubGhzProtocolDecoderRAW.Takes (instanc : SubGhzProtocolDecoderRAW) (level : Bool) (duration : BitVec 32) : Prop :=
  rawTeShort < duration ∧ instanc.lastLevel ≠ level

instance (instanc : SubGhzProtocolDecoderRAW) (duration : BitVec 32) : Decidable (instanc.Listens duration) :=
  inferInstanceAs (Decidable (_ ∧ _ ∧ _))

instance (instanc : SubGhzProtocolDecoderRAW) (level : Bool) (duration : BitVec 32) :
    Decidable (instanc.Takes level duration) :=
  inferInstanceAs (Decidable (_ ∧ _))

/-- What is stored of a sample. -/
def rawTaken (recording : RawRecording) (level : Bool) (duration : BitVec 32) : RawRecording :=
  match recording.instanc.uploadRaw with
  | none => recording
  | some memory => if recording.instanc.Takes level duration then rawStore recording memory level duration else recording

/-- A full array is written. -/
def rawFlushed (recording : RawRecording) (outcome : LineWrite) : RawRecording :=
  match recording.instanc.uploadRaw with
  | none => recording
  | some memory =>
    if recording.instanc.indWrite.toNat = subghzDownloadMaxSize then rawSaveToFileWrite recording memory outcome
    else recording

/-- `subghz_protocol_decoder_raw_feed`, and how the write ends if there is one. -/
def decoderRawFeed (recording : RawRecording) (level : Bool) (duration : BitVec 32) (outcome : LineWrite) :
    RawRecording :=
  if recording.instanc.Listens duration then rawFlushed (rawTaken recording level duration) outcome else recording

/-- `subghz_protocol_raw_save_to_file_pause`. -/
def rawSaveToFilePause (recording : RawRecording) (pause : Bool) : RawRecording :=
  { recording with instanc := { recording.instanc with pause := pause } }

/-- `subghz_protocol_decoder_raw_reset`. -/
def decoderRawReset (recording : RawRecording) : RawRecording :=
  { recording with
    instanc := { recording.instanc with indWrite := 0, lastLevel := false }
    buffered := [] }

/-- `subghz_protocol_raw_get_sample_write`. -/
def rawGetSampleWrite (instanc : SubGhzProtocolDecoderRAW) : BitVec 32 :=
  instanc.sampleWrite + instanc.indWrite.setWidth 32

inductive RawEvent
  | feed (level : Bool) (duration : BitVec 32) (outcome : LineWrite)
  | pause (pause : Bool)
  | reset
  deriving Repr

def rawStep (recording : RawRecording) : RawEvent → RawRecording
  | .feed level duration outcome => decoderRawFeed recording level duration outcome
  | .pause pause => rawSaveToFilePause recording pause
  | .reset => decoderRawReset recording

/-- Stores are inside the array, and the samples reported are those of the file and of the
array. -/
structure RawKept (recording : RawRecording) : Prop where
  inside : ∀ index ∈ recording.stored, index < subghzDownloadMaxSize
  reported : (rawGetSampleWrite recording.instanc).toNat = recording.file.length + recording.buffered.length

/-- All states of a run are kept. -/
def AllKept : RawRecording → List RawEvent → Prop
  | recording, [] => RawKept recording
  | recording, event :: rest => RawKept recording ∧ AllKept (rawStep recording event) rest

def RawRecording.Stores (recording : RawRecording) (level : Bool) (duration : BitVec 32) : Prop :=
  recording.instanc.Listens duration ∧ recording.instanc.Takes level duration

/-- A line is written to the file. -/
def RawRecording.Writes (recording : RawRecording) (level : Bool) (duration : BitVec 32) : Prop :=
  recording.instanc.Listens duration ∧
    (rawTaken recording level duration).instanc.indWrite.toNat = subghzDownloadMaxSize

/-- A sample that is stored finds the array not full and is counted by thirty-two bits, and
a write that fails leaves nothing in the file. -/
structure FeedFits (recording : RawRecording) (level : Bool) (duration : BitVec 32) (outcome : LineWrite) : Prop where
  room : recording.Stores level duration → recording.instanc.indWrite.toNat ≠ subghzDownloadMaxSize
  counted : recording.Stores level duration → recording.file.length + recording.buffered.length + 1 < 2 ^ 32
  clean : recording.Writes level duration → outcome.partly = 0

def EventFits (recording : RawRecording) : RawEvent → Prop
  | .feed level duration outcome => FeedFits recording level duration outcome
  | .pause _ => True
  | .reset => True

def AllFit : RawRecording → List RawEvent → Prop
  | _, [] => True
  | recording, event :: rest => EventFits recording event ∧ AllFit (rawStep recording event) rest

/-- What holds of a recording while every step fits. -/
structure RawHolds (recording : RawRecording) : Prop where
  isOpen : recording.instanc.fileIsOpen = .write
  held : ∃ memory, recording.instanc.uploadRaw = some memory ∧
    recording.buffered = (List.range recording.instanc.indWrite.toNat).map memory
  small : recording.instanc.indWrite.toNat ≤ subghzDownloadMaxSize
  written : recording.instanc.sampleWrite.toNat = recording.file.length
  counted : recording.file.length + recording.buffered.length < 2 ^ 32
  inside : ∀ index ∈ recording.stored, index < subghzDownloadMaxSize

variable {recording : RawRecording}

theorem RawHolds.length_buffered (holds : RawHolds recording) :
    recording.buffered.length = recording.instanc.indWrite.toNat := by
  obtain ⟨memory, -, buffered⟩ := holds.held
  rw [buffered, List.length_map, List.length_range]

theorem toNat_rawGetSampleWrite (instanc : SubGhzProtocolDecoderRAW) :
    (rawGetSampleWrite instanc).toNat = (instanc.sampleWrite.toNat + instanc.indWrite.toNat) % 2 ^ 32 := by
  have wide : (instanc.indWrite.setWidth 32).toNat = instanc.indWrite.toNat :=
    BitVec.toNat_setWidth_of_le (by decide)
  rw [rawGetSampleWrite, BitVec.toNat_add, wide]

theorem RawHolds.kept (holds : RawHolds recording) : RawKept recording := by
  refine ⟨holds.inside, ?_⟩
  have counted := holds.counted
  rw [holds.length_buffered] at counted ⊢
  rw [toNat_rawGetSampleWrite, holds.written, Nat.mod_eq_of_lt counted]

theorem rawStarted_holds (memory : Nat → BitVec 32) : RawHolds (rawStarted memory) where
  isOpen := rfl
  held := ⟨memory, rfl, rfl⟩
  small := Nat.zero_le _
  written := rfl
  counted := Nat.two_pow_pos 32
  inside := fun _ member => absurd member List.not_mem_nil

theorem RawHolds.write (holds : RawHolds recording) {memory : Nat → BitVec 32}
    (held : recording.instanc.uploadRaw = some memory) {outcome : LineWrite} (clean : outcome.partly = 0) :
    RawHolds (rawSaveToFileWrite recording memory outcome) := by
  have counted := holds.counted
  have written := holds.written
  rw [holds.length_buffered] at counted
  unfold rawSaveToFileWrite
  rw [if_pos holds.isOpen]
  cases outcome with
  | written =>
    have line : ((List.range recording.instanc.indWrite.toNat).map memory).length = recording.instanc.indWrite.toNat := by
      rw [List.length_map, List.length_range]
    have wide : (recording.instanc.indWrite.setWidth 32).toNat = recording.instanc.indWrite.toNat :=
      BitVec.toNat_setWidth_of_le (by decide)
    refine ⟨holds.isOpen, ⟨memory, held, rfl⟩, Nat.zero_le _, ?_, ?_, holds.inside⟩
    · rw [List.length_append, line, BitVec.toNat_add, wide, written, Nat.mod_eq_of_lt counted]
    · rw [List.length_append, line]
      exact counted
  | failed partly =>
    have none : partly = 0 := clean
    dsimp only
    rw [none, List.take_zero, List.append_nil]
    exact holds

theorem toNat_indWrite_succ {indWrite : BitVec 16} (small : indWrite.toNat ≤ subghzDownloadMaxSize) :
    (indWrite + 1).toNat = indWrite.toNat + 1 := by
  have one : (1 : BitVec 16).toNat = 1 := rfl
  unfold subghzDownloadMaxSize at small
  exact Nat.mod_eq_of_lt (by omega)

theorem RawHolds.store (holds : RawHolds recording) {memory : Nat → BitVec 32}
    (held : recording.instanc.uploadRaw = some memory) (room : recording.instanc.indWrite.toNat ≠ subghzDownloadMaxSize)
    (counted : recording.file.length + recording.buffered.length + 1 < 2 ^ 32) (level : Bool) (duration : BitVec 32) :
    RawHolds (rawStore recording memory level duration) := by
  have small := holds.small
  obtain ⟨other, held', buffered⟩ := holds.held
  cases held.symm.trans held'
  have next := toNat_indWrite_succ small
  refine ⟨holds.isOpen, ⟨_, rfl, ?_⟩, ?_, holds.written, ?_, ?_⟩
  · dsimp only [rawStore]
    rw [next, List.range_succ, List.map_append, List.map_singleton, if_pos rfl, buffered]
    congr 1
    refine List.map_congr_left fun place inside => ?_
    rw [if_neg (Nat.ne_of_lt (List.mem_range.mp inside))]
  · dsimp only [rawStore]
    omega
  · dsimp only [rawStore]
    rw [List.length_append]
    omega
  · intro index member
    rcases List.mem_append.mp member with before | last
    · exact holds.inside index before
    · rw [List.mem_singleton.mp last]
      omega

theorem RawHolds.step (holds : RawHolds recording) {event : RawEvent} (fits : EventFits recording event) :
    RawHolds (rawStep recording event) := by
  obtain ⟨memory, held, buffered⟩ := holds.held
  cases event with
  | feed level duration outcome =>
    rw [rawStep, decoderRawFeed]
    split
    · rename_i listens
      have taken : RawHolds (rawTaken recording level duration) := by
        rw [rawTaken, held]
        dsimp only
        split
        · rename_i takes
          exact holds.store held (fits.room ⟨listens, takes⟩) (fits.counted ⟨listens, takes⟩) level duration
        · exact holds
      obtain ⟨memory', held', -⟩ := taken.held
      rw [rawFlushed, held']
      dsimp only
      split
      · rename_i full
        exact taken.write held' (fits.clean ⟨listens, full⟩)
      · exact taken
    · exact holds
  | pause pause => exact ⟨holds.isOpen, holds.held, holds.small, holds.written, holds.counted, holds.inside⟩
  | reset =>
    refine ⟨holds.isOpen, ⟨memory, held, rfl⟩, Nat.zero_le _, holds.written, ?_, holds.inside⟩
    exact Nat.lt_of_le_of_lt (Nat.le_add_right _ _) holds.counted

theorem rawFlushed_stored (recording : RawRecording) (outcome : LineWrite) :
    (rawFlushed recording outcome).stored = recording.stored := by
  unfold rawFlushed rawSaveToFileWrite
  cases recording.instanc.uploadRaw with
  | none => rfl
  | some memory =>
    dsimp only
    split
    · split
      · cases outcome <;> rfl
      · rfl
    · rfl

/-- No sample is lost by a write. -/
theorem rawFlushed_total (same : recording.buffered.length = recording.instanc.indWrite.toNat) (outcome : LineWrite) :
    recording.file.length + recording.buffered.length ≤
      (rawFlushed recording outcome).file.length + (rawFlushed recording outcome).buffered.length := by
  unfold rawFlushed rawSaveToFileWrite
  cases recording.instanc.uploadRaw with
  | none => exact Nat.le_refl _
  | some memory =>
    dsimp only
    split
    · split
      · cases outcome with
        | written =>
          rw [List.length_append, List.length_map, List.length_range, same]
          exact Nat.le_refl _
        | failed partly =>
          dsimp only
          rw [List.length_append]
          omega
      · exact Nat.le_refl _
    · exact Nat.le_refl _

theorem RawHolds.partly_not_kept (holds : RawHolds recording)
    (full : recording.instanc.indWrite.toNat = subghzDownloadMaxSize) {outcome : LineWrite} (unclean : outcome.partly ≠ 0) :
    ¬RawKept (rawFlushed recording outcome) := by
  obtain ⟨memory, held, -⟩ := holds.held
  have counted := holds.counted
  cases outcome with
  | written => exact absurd rfl unclean
  | failed partly =>
    intro kept
    have reported := kept.reported
    unfold rawFlushed rawSaveToFileWrite at reported
    rw [held] at reported
    dsimp only at reported
    rw [if_pos full, if_pos holds.isOpen] at reported
    dsimp only at reported
    rw [toNat_rawGetSampleWrite, holds.written, ← holds.length_buffered, List.length_append, List.length_take, List.length_map, List.length_range] at reported
    have some : partly ≠ 0 := unclean
    have whole := holds.length_buffered
    rw [full, subghzDownloadMaxSize] at whole
    omega

theorem RawHolds.unfit (holds : RawHolds recording) {event : RawEvent} (unfit : ¬EventFits recording event) :
    ¬RawKept (rawStep recording event) := by
  obtain ⟨memory, held, -⟩ := holds.held
  cases event with
  | pause pause => exact absurd trivial unfit
  | reset => exact absurd trivial unfit
  | feed level duration outcome =>
    by_cases listens : recording.instanc.Listens duration
    · rw [rawStep, decoderRawFeed, if_pos listens]
      by_cases takes : recording.instanc.Takes level duration
      · have taken : rawTaken recording level duration = rawStore recording memory level duration := by
          rw [rawTaken, held]
          exact if_pos takes
        by_cases full : recording.instanc.indWrite.toNat = subghzDownloadMaxSize
        · -- The sample goes to the index behind the array.
          intro kept
          have behind : subghzDownloadMaxSize ∈ (rawFlushed (rawTaken recording level duration) outcome).stored := by
            rw [rawFlushed_stored, taken, ← full]
            exact List.mem_append_right _ (List.mem_singleton_self _)
          exact Nat.lt_irrefl _ (kept.inside _ behind)
        · by_cases counted : recording.file.length + recording.buffered.length + 1 < 2 ^ 32
          · have next := holds.store held full counted level duration
            have unclean : ¬(recording.Writes level duration → outcome.partly = 0) := fun clean =>
              unfit ⟨fun _ => full, fun _ => counted, clean⟩
            obtain ⟨writes, some⟩ := Classical.not_imp.mp unclean
            have nowFull := writes.2
            rw [taken] at nowFull ⊢
            exact next.partly_not_kept nowFull some
          · -- The sum of all samples is no number of thirty-two bits.
            intro kept
            have stored : (rawStore recording memory level duration).buffered.length = recording.buffered.length + 1 :=
              List.length_append
            have same : (rawStore recording memory level duration).buffered.length =
                (rawStore recording memory level duration).instanc.indWrite.toNat := by
              rw [stored, holds.length_buffered]
              exact (toNat_indWrite_succ holds.small).symm
            have total := rawFlushed_total same outcome
            have below := (rawGetSampleWrite (rawFlushed (rawTaken recording level duration) outcome).instanc).isLt
            have file : (rawStore recording memory level duration).file = recording.file := rfl
            rw [kept.reported, taken] at below
            rw [file] at total
            omega
      · have taken : rawTaken recording level duration = recording := by
          rw [rawTaken, held]
          exact if_neg takes
        have unclean : ¬(recording.Writes level duration → outcome.partly = 0) := fun clean =>
          unfit ⟨fun stores => absurd stores.2 takes, fun stores => absurd stores.2 takes, clean⟩
        obtain ⟨writes, some⟩ := Classical.not_imp.mp unclean
        have full := writes.2
        rw [taken] at full ⊢
        exact holds.partly_not_kept full some
    · exact absurd ⟨fun stores => absurd stores.1 listens, fun stores => absurd stores.1 listens,
        fun writes => absurd writes.1 listens⟩ unfit

theorem AllKept.first {events : List RawEvent} (kept : AllKept recording events) :
    RawKept recording := by
  cases events with
  | nil => exact kept
  | cons event rest => exact kept.1

theorem RawHolds.run (holds : RawHolds recording) (events : List RawEvent) :
    AllKept recording events ↔ AllFit recording events := by
  induction events generalizing recording with
  | nil => exact ⟨fun _ => trivial, fun _ => holds.kept⟩
  | cons event rest ih =>
    by_cases fits : EventFits recording event
    · exact ⟨fun kept => ⟨fits, (ih (holds.step fits)).mp kept.2⟩,
        fun allFit => ⟨holds.kept, (ih (holds.step fits)).mpr allFit.2⟩⟩
    · exact ⟨fun kept => absurd kept.2.first (holds.unfit fits), fun allFit => absurd allFit.1 fits⟩

/-- The index stays in the array and the count of samples is right in all states of a run just
if no sample comes to a full array, no write fails half done, and the count has room. -/
theorem rawRecorder_kept_iff (memory : Nat → BitVec 32) (events : List RawEvent) :
    AllKept (rawStarted memory) events ↔ AllFit (rawStarted memory) events :=
  (rawStarted_holds memory).run events

/-- Pulses of 100 us, of a level and the other one in turn, while no write succeeds. -/
def pulses : Bool → Nat → List RawEvent
  | _, 0 => []
  | level, count + 1 => .feed level 100 (.failed 0) :: pulses (!level) count

theorem rawFlushed_failed (recording : RawRecording) (partly : Nat) :
    (rawFlushed recording (.failed partly)).instanc = recording.instanc := by
  unfold rawFlushed rawSaveToFileWrite
  cases recording.instanc.uploadRaw with
  | none => rfl
  | some memory =>
    dsimp only
    split
    · split <;> rfl
    · rfl

theorem pulses_unfit (holds : RawHolds recording) {level : Bool}
    (awake : recording.instanc.pause = false) (last : recording.instanc.lastLevel = !level) {count : Nat}
    (many : subghzDownloadMaxSize < recording.instanc.indWrite.toNat + count) :
    ¬AllFit recording (pulses level count) := by
  obtain ⟨memory, held, -⟩ := holds.held
  have small := holds.small
  induction count generalizing recording level memory with
  | zero => omega
  | succ count ih =>
    have listens : recording.instanc.Listens 100 := ⟨awake, by rw [held]; rfl, by decide⟩
    have takes : recording.instanc.Takes level 100 := by
      refine ⟨by decide, ?_⟩
      rw [last]
      cases level <;> decide
    rintro ⟨fits, rest⟩
    have next := holds.step fits
    have taken : rawTaken recording level 100 = rawStore recording memory level 100 := by
      rw [rawTaken, held]
      exact if_pos takes
    have after : (rawStep recording (.feed level 100 (.failed 0))).instanc =
        (rawStore recording memory level 100).instanc := by
      rw [rawStep, decoderRawFeed, if_pos listens, rawFlushed_failed, taken]
    have more : (rawStore recording memory level 100).instanc.indWrite.toNat = recording.instanc.indWrite.toNat + 1 :=
      toNat_indWrite_succ small
    obtain ⟨memory', held', -⟩ := next.held
    refine ih next ?_ ?_ ?_ memory' held' next.small rest
    · rw [after]
      exact awake
    · rw [after, Bool.not_not]
      rfl
    · rw [after]
      omega

/-- The sample behind 512 of which the write failed is stored at index 512. -/
theorem rawRecorder_overflows : ¬AllKept (rawStarted fun _ => 0) (pulses true 513) := by
  have started := rawStarted_holds fun _ => 0
  exact fun kept => pulses_unfit started rfl rfl (Nat.lt_succ_self 512) ((started.run _).mp kept)

end Xtreme.SubGhz
