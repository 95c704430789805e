import Mathlib.Algebra.Order.BigOperators.Group.List
import Mathlib.Algebra.Order.Group.Nat
import Xtreme.Library.ByteMemory
import Xtreme.Library.Runs
import Xtreme.SubGhz.Blocks

/-! Bits of a packed array and the upload made of them (`blocks/encoder.c`). -/
namespace Xtreme.SubGhz
open Xtreme.Library

/-- `bit_write`: the bit at a place of a byte, the lowest one first. -/
def bitWrite (value : BitVec 8) (bit : Nat) (bitValue : Bool) : BitVec 8 :=
  if bitValue then value ||| (1#8 <<< bit) else value &&& ~~~(1#8 <<< bit)

/-- `subghz_protocol_blocks_set_bit_array`, with nothing where the assertion fails. -/
def blocksSetBitArray (bitValue : Bool) (dataArray : ByteMemory) (setIndexBit maxSizeArray : Nat) :
    Option ByteMemory :=
  if setIndexBit < maxSizeArray * 8 then
    some fun place =>
      if place = setIndexBit >>> 3 then bitWrite (dataArray place) (7 - (setIndexBit &&& 0x7)) bitValue
      else dataArray place
  else none

/-- `subghz_protocol_blocks_get_bit_array`. -/
def blocksGetBitArray (dataArray : ByteMemory) (readIndexBit : Nat) : Bool :=
  (dataArray (readIndexBit >>> 3)).getLsbD (7 - (readIndexBit &&& 0x7))

/-- `level_duration_make`: thirty bits of the duration are kept. -/
def levelDurationMake (level : Bool) (duration : BitVec 32) : LevelDuration :=
  .level level (duration.toNat % 2 ^ 30)

inductive SubGhzProtocolBlockAlignBit
  | left
  | right
  deriving DecidableEq, Repr

/-- How `subghz_protocol_blocks_get_upload_from_bit_array` ends, with the entries it has
stored: the first at index 0 of `upload`, and each at the index behind the one before. -/
inductive UploadEnd
  | returned (upload : List LevelDuration)
  | crashed (upload : List LevelDuration)
  deriving DecidableEq, Repr

def UploadEnd.stored : UploadEnd → List LevelDuration
  | .returned upload => upload
  | .crashed upload => upload

/-- The locals of the loop; `size_upload` is how many entries there are. -/
structure UploadLoop where
  upload : List LevelDuration
  duration : BitVec 32
  lastBit : Bool
  indexBit : Nat

/-- So many turns of the loop, and the entry behind it. -/
def blocksUploadLoop (dataArray : ByteMemory) (maxSizeUpload : Nat) (durationBit : BitVec 32) :
    Nat → UploadLoop → UploadEnd
  | 0, loop =>
    .returned (loop.upload ++ [levelDurationMake (blocksGetBitArray dataArray (loop.indexBit - 1)) loop.duration])
  | turns + 1, loop =>
    if loop.lastBit = blocksGetBitArray dataArray loop.indexBit then
      blocksUploadLoop dataArray maxSizeUpload durationBit turns
        { loop with duration := loop.duration + durationBit, indexBit := loop.indexBit + 1 }
    else if maxSizeUpload < loop.upload.length then
      .crashed loop.upload
    else
      blocksUploadLoop dataArray maxSizeUpload durationBit turns
        { upload :=
            loop.upload ++ [levelDurationMake (blocksGetBitArray dataArray (loop.indexBit - 1)) loop.duration]
          duration := durationBit
          lastBit := !loop.lastBit
          indexBit := loop.indexBit + 1 }

/-- The place of the first bit. -/
def biasBit (countBitDataArray : BitVec 32) : SubGhzProtocolBlockAlignBit → Nat
  | .left => 0
  | .right => if (countBitDataArray.toNat &&& 0x7) ≠ 0 then 8 - (countBitDataArray.toNat &&& 0x7) else 0

/-- `subghz_protocol_blocks_get_upload_from_bit_array`. The bound of the loop is a sum of
thirty-two bits. -/
def blocksGetUploadFromBitArray (dataArray : ByteMemory) (countBitDataArray : BitVec 32) (maxSizeUpload : Nat)
    (durationBit : BitVec 32) (alignBit : SubGhzProtocolBlockAlignBit) : UploadEnd :=
  let bias := biasBit countBitDataArray alignBit
  blocksUploadLoop dataArray maxSizeUpload durationBit ((countBitDataArray.toNat + bias) % 2 ^ 32 - (1 + bias))
    { upload := []
      duration := durationBit
      lastBit := blocksGetBitArray dataArray bias
      indexBit := bias + 1 }

def bitsFrom (dataArray : ByteMemory) (start : Nat) : Nat → List Bool
  | 0 => []
  | count + 1 => blocksGetBitArray dataArray start :: bitsFrom dataArray (start + 1) count

/-- The bits that an upload is asked for. -/
def inputBits (dataArray : ByteMemory) (countBitDataArray : BitVec 32) (alignBit : SubGhzProtocolBlockAlignBit) :
    List Bool :=
  bitsFrom dataArray (biasBit countBitDataArray alignBit) countBitDataArray.toNat

def LevelDuration.bits (durationBit : BitVec 32) : LevelDuration → List Bool
  | .level bit duration => List.replicate (duration / durationBit.toNat) bit
  | .reset => []
  | .wait => []

def LevelDuration.Alternates : LevelDuration → LevelDuration → Prop
  | .level before _, .level after _ => before ≠ after
  | _, _ => True

/-- The array of entries holds what was stored, and an upload that is returned stands for
the bits, run by run: an entry for some bits each, and no two neighbours of one level. -/
structure UploadKept (bits : List Bool) (maxSizeUpload : Nat) (durationBit : BitVec 32) (ended : UploadEnd) :
    Prop where
  inside : ∀ index < ended.stored.length, index < maxSizeUpload
  filled : ∀ upload, ended = .returned upload → ∀ entry ∈ upload, entry.bits durationBit ≠ []
  expands : ∀ upload, ended = .returned upload → upload.flatMap (LevelDuration.bits durationBit) = bits
  alternates : ∀ upload, ended = .returned upload → upload.IsChain LevelDuration.Alternates

/-- Bits that have an upload: the sum of the count and the bias is a number of thirty-two
bits, there is an entry for every run, and each run lasts a time that an entry can hold. -/
structure UploadFits (dataArray : ByteMemory) (countBitDataArray : BitVec 32) (maxSizeUpload : Nat)
    (durationBit : BitVec 32) (alignBit : SubGhzProtocolBlockAlignBit) : Prop where
  bounded : countBitDataArray.toNat + biasBit countBitDataArray alignBit < 2 ^ 32
  room : (runsOf (inputBits dataArray countBitDataArray alignBit)).length ≤ maxSizeUpload
  timed : 0 < durationBit.toNat
  brief : ∀ run ∈ runsOf (inputBits dataArray countBitDataArray alignBit), run.2 * durationBit.toNat < 2 ^ 30

def runEntry (durationBit : BitVec 32) (run : Bool × Nat) : LevelDuration :=
  levelDurationMake run.1 (BitVec.ofNat 32 (run.2 * durationBit.toNat))

/-- How the function ends that has these entries to store. It looks at the room before
every store but the last, and lets one entry too many through. -/
def uploadOf (maxSizeUpload : Nat) (entries : List LevelDuration) : UploadEnd :=
  if entries.length ≤ maxSizeUpload + 2 then .returned entries else .crashed (entries.take (maxSizeUpload + 1))

/-- What is stored next can be the last that fits. -/
theorem uploadOf_crashes {maxSizeUpload : Nat} {upload entries : List LevelDuration}
    (crossed : upload.length = maxSizeUpload + 1) (more : 2 ≤ entries.length) :
    uploadOf maxSizeUpload (upload ++ entries) = .crashed upload := by
  have many : ¬(upload ++ entries).length ≤ maxSizeUpload + 2 := by
    rw [List.length_append]
    omega
  rw [uploadOf, if_neg many, ← crossed, List.take_left]

theorem blocksUploadLoop_eq (dataArray : ByteMemory) {maxSizeUpload : Nat} (durationBit : BitVec 32)
    {upload : List LevelDuration} (room : upload.length ≤ maxSizeUpload + 1) (level : Bool) (length : Nat)
    {start : Nat} (last : blocksGetBitArray dataArray start = level) (turns : Nat) :
    blocksUploadLoop dataArray maxSizeUpload durationBit turns
        ⟨upload, BitVec.ofNat 32 ((length + 1) * durationBit.toNat), level, start + 1⟩ =
      uploadOf maxSizeUpload (upload ++
        (runsOf (List.replicate (length + 1) level ++ bitsFrom dataArray (start + 1) turns)).map
          (runEntry durationBit)) := by
  induction turns generalizing upload level length start with
  | zero =>
    have fits : (upload ++ [runEntry durationBit (level, length + 1)]).length ≤ maxSizeUpload + 2 := by
      rw [List.length_append, List.length_singleton]
      omega
    rw [bitsFrom, List.append_nil, runsOf_replicate, List.map_singleton, uploadOf, if_pos fits, blocksUploadLoop,
      Nat.add_sub_cancel, last, runEntry]
  | succ turns ih =>
    rw [blocksUploadLoop, bitsFrom]
    by_cases same : level = blocksGetBitArray dataArray (start + 1)
    · have longer : BitVec.ofNat 32 ((length + 1) * durationBit.toNat) + durationBit =
          BitVec.ofNat 32 ((length + 1 + 1) * durationBit.toNat) := by
        rw [Nat.succ_mul (length + 1), BitVec.ofNat_add, BitVec.ofNat_toNat, BitVec.setWidth_eq]
      rw [if_pos same, ← same, List.append_cons, ← List.replicate_succ']
      exact longer ▸ ih room level (length + 1) same.symm
    · have next : blocksGetBitArray dataArray (start + 1) = !level := by
        rw [Bool.eq_not]
        exact fun like => same like.symm
      rw [if_neg same, runsOf_replicate_cons same, List.map_cons]
      by_cases full : maxSizeUpload < upload.length
      · have more := length_runsOf_pos (blocksGetBitArray dataArray (start + 1)) (bitsFrom dataArray (start + 1 + 1) turns)
        rw [if_pos full, uploadOf_crashes (by omega)]
        rw [List.length_cons, List.length_map]
        omega
      · have once : BitVec.ofNat 32 ((0 + 1) * durationBit.toNat) = durationBit := by
          rw [Nat.one_mul, BitVec.ofNat_toNat, BitVec.setWidth_eq]
        have stored : (upload ++ [runEntry durationBit (level, length + 1)]).length ≤ maxSizeUpload + 1 := by
          rw [List.length_append, List.length_singleton]
          omega
        have rest := ih stored (!level) 0 next
        rw [once, List.append_assoc, ← next] at rest
        rw [if_neg full, Nat.add_sub_cancel, last, ← next]
        exact rest

@[simp] theorem length_bitsFrom (dataArray : ByteMemory) (start count : Nat) :
    (bitsFrom dataArray start count).length = count := by
  induction count generalizing start with
  | zero => rfl
  | succ count ih => rw [bitsFrom, List.length_cons, ih]

/-- How many bits are read back from the entry of a run. -/
def keptLength (durationBit : BitVec 32) (length : Nat) : Nat :=
  length * durationBit.toNat % 2 ^ 30 / durationBit.toNat

variable (durationBit : BitVec 32)

theorem bits_runEntry (run : Bool × Nat) :
    (runEntry durationBit run).bits durationBit = List.replicate (keptLength durationBit run.2) run.1 := by
  rw [runEntry, levelDurationMake, LevelDuration.bits, BitVec.toNat_ofNat,
    Nat.mod_mod_of_dvd _ (Nat.pow_dvd_pow 2 (by decide)), keptLength]

theorem keptLength_le (length : Nat) : keptLength durationBit length ≤ length := by
  rcases Nat.eq_zero_or_pos durationBit.toNat with none | timed
  · rw [keptLength, none, Nat.div_zero]
    exact Nat.zero_le _
  · exact Nat.div_le_of_le_mul (Nat.mul_comm _ _ ▸ Nat.mod_le _ _)

theorem keptLength_eq_iff {length : Nat} (positive : 0 < length) :
    keptLength durationBit length = length ↔ 0 < durationBit.toNat ∧ length * durationBit.toNat < 2 ^ 30 := by
  rw [keptLength]
  constructor
  · intro kept
    rcases Nat.eq_zero_or_pos durationBit.toNat with none | timed
    · rw [none] at kept
      omega
    · have whole := Nat.div_mul_le_self (length * durationBit.toNat % 2 ^ 30) durationBit.toNat
      rw [kept] at whole
      exact ⟨timed, Nat.lt_of_le_of_lt whole (Nat.mod_lt _ (by decide))⟩
  · rintro ⟨timed, brief⟩
    rw [Nat.mod_eq_of_lt brief, Nat.mul_div_cancel _ timed]

theorem bits_entries_iff {runs : List (Bool × Nat)} :
    (runs.map (runEntry durationBit)).flatMap (LevelDuration.bits durationBit) = expandRuns runs ↔
      ∀ run ∈ runs, keptLength durationBit run.2 = run.2 := by
  have entries : (runs.map (runEntry durationBit)).flatMap (LevelDuration.bits durationBit) =
      runs.flatMap fun run => List.replicate (keptLength durationBit run.2) run.1 := by
    rw [List.flatMap_map]
    exact List.flatMap_congr fun run _ => bits_runEntry durationBit run
  rw [entries, expandRuns]
  constructor
  · intro same run member
    refine Nat.le_antisymm (keptLength_le durationBit run.2) (Nat.not_lt.mp fun shorter => ?_)
    have lengths := congrArg List.length same
    simp only [List.length_flatMap, List.length_replicate] at lengths
    exact Nat.ne_of_lt (List.sum_lt_sum _ _ (fun run _ => keptLength_le durationBit run.2) ⟨run, member, shorter⟩)
      lengths
  · intro kept
    exact List.flatMap_congr fun run member => by rw [kept run member]

theorem alternates_entries {runs : List (Bool × Nat)} (proper : ProperRuns runs) :
    (runs.map (runEntry durationBit)).IsChain LevelDuration.Alternates :=
  List.isChain_map_of_isChain (runEntry durationBit) (fun _ _ other => other) proper.distinct

theorem blocksGetUpload_eq (dataArray : ByteMemory) {countBitDataArray : BitVec 32}
    (someBits : 0 < countBitDataArray.toNat) (maxSizeUpload : Nat) (durationBit : BitVec 32)
    {alignBit : SubGhzProtocolBlockAlignBit}
    (bounded : countBitDataArray.toNat + biasBit countBitDataArray alignBit < 2 ^ 32) :
    blocksGetUploadFromBitArray dataArray countBitDataArray maxSizeUpload durationBit alignBit =
      uploadOf maxSizeUpload
        ((runsOf (inputBits dataArray countBitDataArray alignBit)).map (runEntry durationBit)) := by
  obtain ⟨turns, count_eq⟩ : ∃ turns, countBitDataArray.toNat = turns + 1 :=
    ⟨countBitDataArray.toNat - 1, by omega⟩
  have once : BitVec.ofNat 32 ((0 + 1) * durationBit.toNat) = durationBit := by
    rw [Nat.one_mul, BitVec.ofNat_toNat, BitVec.setWidth_eq]
  have looped := @blocksUploadLoop_eq dataArray maxSizeUpload durationBit [] (Nat.zero_le _) _ 0
    (biasBit countBitDataArray alignBit) rfl turns
  rw [once, List.replicate_one, List.nil_append, List.singleton_append] at looped
  have turns_eq : (countBitDataArray.toNat + biasBit countBitDataArray alignBit) % 2 ^ 32 -
      (1 + biasBit countBitDataArray alignBit) = turns := by
    omega
  rw [blocksGetUploadFromBitArray, turns_eq, looped, inputBits, count_eq, bitsFrom]

theorem biasBit_lt (countBitDataArray : BitVec 32) (alignBit : SubGhzProtocolBlockAlignBit) :
    biasBit countBitDataArray alignBit < 8 := by
  cases alignBit with
  | left => exact Nat.zero_lt_succ 7
  | right =>
    rw [biasBit]
    split <;> omega

/-- Where the count passes the bound, the loop does not turn. -/
theorem blocksGetUpload_wrapped (dataArray : ByteMemory) {countBitDataArray : BitVec 32} (maxSizeUpload : Nat)
    (durationBit : BitVec 32) {alignBit : SubGhzProtocolBlockAlignBit}
    (wrapped : 2 ^ 32 ≤ countBitDataArray.toNat + biasBit countBitDataArray alignBit) :
    ∃ level, blocksGetUploadFromBitArray dataArray countBitDataArray maxSizeUpload durationBit alignBit =
      .returned [levelDurationMake level durationBit] := by
  have none : (countBitDataArray.toNat + biasBit countBitDataArray alignBit) % 2 ^ 32 -
      (1 + biasBit countBitDataArray alignBit) = 0 := by
    omega
  exact ⟨_, by rw [blocksGetUploadFromBitArray, none]; rfl⟩

/-- The entries of some runs are stored as they should be just if they have room and stand
for the runs. -/
theorem uploadOf_kept_iff {bits : List Bool} (someBits : bits ≠ []) (maxSizeUpload : Nat) (durationBit : BitVec 32) :
    UploadKept bits maxSizeUpload durationBit (uploadOf maxSizeUpload ((runsOf bits).map (runEntry durationBit))) ↔
      (runsOf bits).length ≤ maxSizeUpload ∧ 0 < durationBit.toNat ∧
        ∀ run ∈ runsOf bits, run.2 * durationBit.toNat < 2 ^ 30 := by
  have proper := properRuns_runsOf bits
  have stands : ((runsOf bits).map (runEntry durationBit)).flatMap (LevelDuration.bits durationBit) = bits ↔
      ∀ run ∈ runsOf bits, 0 < durationBit.toNat ∧ run.2 * durationBit.toNat < 2 ^ 30 := by
    have entries := @bits_entries_iff durationBit (runsOf bits)
    rw [expandRuns_runsOf] at entries
    exact entries.trans (forall₂_congr fun run member => keptLength_eq_iff durationBit (proper.positive run member))
  rw [uploadOf, List.length_map]
  by_cases fits : (runsOf bits).length ≤ maxSizeUpload + 2
  · rw [if_pos fits]
    constructor
    · intro kept
      have room : (runsOf bits).length ≤ maxSizeUpload := by
        refine Nat.not_lt.mp fun beyond => absurd (kept.inside maxSizeUpload ?_) (Nat.lt_irrefl _)
        rw [UploadEnd.stored, List.length_map]
        exact beyond
      have each := stands.mp (kept.expands _ rfl)
      obtain ⟨bit, more, rfl⟩ := List.exists_cons_of_ne_nil someBits
      obtain ⟨first, member⟩ := List.exists_mem_of_length_pos (length_runsOf_pos bit more)
      exact ⟨room, (each first member).1, fun run member => (each run member).2⟩
    · rintro ⟨room, timed, brief⟩
      refine ⟨fun index inside => ?_, ?_, ?_, ?_⟩
      · rw [UploadEnd.stored, List.length_map] at inside
        exact Nat.lt_of_lt_of_le inside room
      · rintro upload ⟨⟩ entry member
        obtain ⟨run, there, rfl⟩ := List.mem_map.mp member
        have positive := proper.positive run there
        rw [bits_runEntry, (keptLength_eq_iff durationBit positive).mpr ⟨timed, brief run there⟩,
          ← List.length_pos_iff, List.length_replicate]
        exact positive
      · rintro upload ⟨⟩
        exact stands.mpr fun run member => ⟨timed, brief run member⟩
      · rintro upload ⟨⟩
        exact alternates_entries durationBit proper
  · rw [if_neg fits]
    constructor
    · intro kept
      refine absurd (kept.inside maxSizeUpload ?_) (Nat.lt_irrefl _)
      rw [UploadEnd.stored, List.length_take, List.length_map]
      omega
    · omega

/-- An upload is built inside its array, and a returned one stands for the bits run by run,
just if the bits fit. -/
theorem blocks_upload_kept_iff (dataArray : ByteMemory) {countBitDataArray : BitVec 32}
    (someBits : 0 < countBitDataArray.toNat) (maxSizeUpload : Nat) (durationBit : BitVec 32)
    (alignBit : SubGhzProtocolBlockAlignBit) :
    UploadKept (inputBits dataArray countBitDataArray alignBit) maxSizeUpload durationBit
        (blocksGetUploadFromBitArray dataArray countBitDataArray maxSizeUpload durationBit alignBit) ↔
      UploadFits dataArray countBitDataArray maxSizeUpload durationBit alignBit := by
  have length_eq : (inputBits dataArray countBitDataArray alignBit).length = countBitDataArray.toNat :=
    length_bitsFrom ..
  by_cases bounded : countBitDataArray.toNat + biasBit countBitDataArray alignBit < 2 ^ 32
  · have present : inputBits dataArray countBitDataArray alignBit ≠ [] := by
      rw [← List.length_pos_iff, length_eq]
      exact someBits
    rw [blocksGetUpload_eq dataArray someBits maxSizeUpload durationBit bounded, uploadOf_kept_iff present]
    exact ⟨fun ⟨room, timed, brief⟩ => ⟨bounded, room, timed, brief⟩,
      fun fits => ⟨fits.room, fits.timed, fits.brief⟩⟩
  · refine ⟨fun kept => ?_, fun fits => absurd fits.bounded bounded⟩
    obtain ⟨level, once⟩ := blocksGetUpload_wrapped dataArray maxSizeUpload durationBit (Nat.not_lt.mp bounded)
    -- One entry of one bit's time stands for one bit.
    have one : ((levelDurationMake level durationBit).bits durationBit).length ≤ 1 := by
      rw [levelDurationMake, LevelDuration.bits, List.length_replicate]
      rcases Nat.eq_zero_or_pos durationBit.toNat with none | timed
      · rw [none]
        exact Nat.zero_le 1
      · exact Nat.div_le_of_le_mul (Nat.mul_one _ ▸ Nat.mod_le _ _)
    have expanded := congrArg List.length (kept.expands _ once)
    rw [List.flatMap_singleton] at expanded
    have := biasBit_lt countBitDataArray alignBit
    omega

/-- Three bits of two runs, right-aligned: the upload has an entry for each. -/
theorem blocks_upload_kept_two : UploadFits (fun _ => 0x06#8) 3#32 2 500#32 .right ∧
    UploadKept [true, true, false] 2 500#32 (blocksGetUploadFromBitArray (fun _ => 0x06#8) 3#32 2 500#32 .right) := by
  have fits : UploadFits (fun _ => 0x06#8) 3#32 2 500#32 .right := ⟨by decide, by decide, by decide, by decide⟩
  exact ⟨fits, (blocks_upload_kept_iff (fun _ => 0x06#8) (by decide) 2 500#32 .right).mpr fits⟩

/-- Two bits that differ, for an upload of one entry: the last entry is stored behind it. -/
theorem blocks_upload_overflows :
    blocksGetUploadFromBitArray (fun _ => 0x80#8) 2#32 1 500#32 .left = .returned [.level true 500, .level false 500] ∧
      ¬UploadKept (inputBits (fun _ => 0x80#8) 2#32 .left) 1 500#32
        (blocksGetUploadFromBitArray (fun _ => 0x80#8) 2#32 1 500#32 .left) := by
  have stored : blocksGetUploadFromBitArray (fun _ => 0x80#8) 2#32 1 500#32 .left =
      .returned [.level true 500, .level false 500] := by decide
  refine ⟨stored, fun kept => absurd (kept.inside 1 ?_) (Nat.lt_irrefl 1)⟩
  exact Nat.lt_succ_self 1

end Xtreme.SubGhz
