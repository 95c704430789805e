import Xtreme.Flipper.LineRuns
import Xtreme.SubGhz.BinRawGlue

/-! Files of recorded bit packages, and what the encoder makes of one. -/
namespace Xtreme.SubGhz
open Xtreme.Library Xtreme.Flipper BinRawSegment
open Effect (Yields tried)

/-- The two lines of a package. -/
def BinRawSegment.lines (segment : BinRawSegment) : List Line :=
  [flipperFormatWriteUint32 "Bit_RAW".toList (BitVec.ofNat 32 segment.bitCount),
    flipperFormatWriteHex "Data_RAW".toList segment.data]

/-- A file of packages as far as there are entries and bytes for them, between other lines. -/
structure BinRawFile where
  head : List Line
  bit : BitVec 32
  te : BitVec 32
  segments : List BinRawSegment
  foot : List Line
  headValid : ∀ line ∈ head, line.Valid
  footValid : ∀ line ∈ foot, line.Valid
  headPlain : seekLine "Bit".toList head = none
  footPlain : seekLine "Bit_RAW".toList foot = none
  count : segments.length ≤ binRawMaxMarkupCount
  room : size segments ≤ binRawBufDataSize

namespace BinRawFile

/-- The lines of the packages and behind them. -/
def body (file : BinRawFile) : List Line := file.segments.flatMap BinRawSegment.lines ++ file.foot

def lines (file : BinRawFile) : List Line :=
  file.head ++ flipperFormatWriteUint32 "Bit".toList file.bit :: flipperFormatWriteUint32 "TE".toList file.te :: file.body

/-- The bits of all packages in their order. -/
def bits (file : BinRawFile) : List Bool := file.segments.flatMap BinRawSegment.bits

theorem lines_valid (file : BinRawFile) : ∀ line ∈ file.lines, line.Valid := by
  intro line member
  simp only [lines, body, List.mem_append, List.mem_cons, List.mem_flatMap, BinRawSegment.lines, List.not_mem_nil,
    or_false] at member
  obtain head | rfl | rfl | ⟨segment, -, rfl | rfl⟩ | foot := member
  · exact file.headValid line head
  · exact writeUint32_valid (by decide) _
  · exact writeUint32_valid (by decide) _
  · exact writeUint32_valid (by decide) _
  · exact writeHex_valid (by decide) _
  · exact file.footValid line foot

end BinRawFile

theorem seekLine_uint32 (key : Text) (data : BitVec 32) (later : List Line) :
    seekLine key (flipperFormatWriteUint32 key data :: later) = some ([decimalText data.toNat], later) :=
  if_pos rfl

theorem binRawReadSegments_yields (segments : List BinRawSegment) {foot all : List Line} {ff : FlipperFormat}
    {room : Nat} {read : SegmentsRead} (ahead : Ahead all (segments.flatMap BinRawSegment.lines ++ foot) ff)
    (noMore : seekLine "Bit_RAW".toList foot = none) (count : segments.length ≤ room)
    (same : read.byteCount = read.byteBias) (fits : read.byteBias + size segments ≤ binRawBufDataSize) :
    Yields (binRawReadSegments room read)
      (fun after ff' => after.data = read.data.store read.byteBias (segments.flatMap fun segment => segment.data) ∧
        after.dataMarkup = read.dataMarkup ++ markupsFrom read.byteBias segments ∧ ff'.content = ff.content) ff := by
  induction segments generalizing ff room read with
  | nil =>
    have missing := ahead.readUint32_missing noMore
    cases room <;>
    · rw [binRawReadSegments, Yields.bind_iff, Yields, tried, missing]
      exact ⟨(ByteMemory.store_nil ..).symm, (List.append_nil _).symm, rfl⟩
  | cons segment rest ih =>
    obtain ⟨room, rfl⟩ : ∃ more, room = more + 1 := ⟨room - 1, by rw [List.length_cons] at count; omega⟩
    have filled := segment.filled
    rw [size_cons] at fits
    unfold binRawBufDataSize at fits
    have number : (BitVec.ofNat 32 segment.bitCount).setWidth 16 = BitVec.ofNat 16 segment.bitCount := by
      apply BitVec.eq_of_toNat_eq
      rw [BitVec.toNat_setWidth, BitVec.toNat_ofNat, BitVec.toNat_ofNat, Nat.mod_mod_of_dvd _ (by decide)]
    have full : binRawGetFullByte (BitVec.ofNat 16 segment.bitCount) = segment.data.length := by
      rw [binRawGetFullByte_eq, BitVec.toNat_ofNat, Nat.mod_eq_of_lt (by omega), filled]
    have short : segment.data.length % 2 ^ 16 = segment.data.length := Nat.mod_eq_of_lt (by omega)
    rw [binRawReadSegments]
    refine (ahead.readUint32 (seekLine_uint32 _ _ _)).tried.bind ?_
    rintro _ middle ⟨_, rfl, rfl, ahead'⟩
    dsimp only
    rw [number, full, if_neg (by unfold binRawBufDataSize; omega)]
    refine (@Ahead.readHex _ _ _ _ _ ahead' segment.data (if_pos rfl)).tried.bind ?_
    rintro _ later ⟨_, rfl, rfl, behind⟩
    rw [short, List.take_length]
    have stored : (segment :: rest).flatMap (fun segment => segment.data) =
        segment.data ++ rest.flatMap fun segment => segment.data := List.flatMap_cons ..
    rw [stored, ← ByteMemory.store_append, markupsFrom]
    refine (ih behind (by rw [List.length_cons] at count; omega) (by rw [same]) (by
      unfold binRawBufDataSize; dsimp only; omega)).mono ?_
    rintro after ff' ⟨data, markups, content⟩
    refine ⟨data, ?_, ?_⟩
    · rw [markups, List.append_assoc, List.singleton_append]
    · rw [content, behind.content, ahead.content]

theorem binRawReadNumber_yields {all lines later : List Line} {ff : FlipperFormat} {key : String} {number : BitVec 32}
    (missing : BinRawStop) (ahead : Ahead all lines ff)
    (found : seekLine key.toList lines = some ([decimalText number.toNat], later)) :
    Yields (binRawReadNumber key missing) (fun read after => read = number ∧ Ahead all later after) ff := by
  refine (ahead.readUint32 found).tried.bind ?_
  rintro _ after ⟨_, rfl, read⟩
  exact read

/-- The bits asked of the array. -/
def gluedCount (file : BinRawFile) : Nat := (gluedBits file.segments).length

theorem binRawDeserialize_yields (file : BinRawFile) (memory : ByteMemory) :
    Yields (binRawDeserialize (binRawAlloc memory))
      (fun answer _ => ∃ data, bitsFrom data 0 (gluedCount file) = gluedBits file.segments ∧ answer.2 = {
        data := data
        ind := gluedCount file
        ended := blocksGetUploadFromBitArray data (BitVec.ofNat 32 (gluedCount file)) (binRawBufDataSize * 5) file.te
          .left })
      (FlipperFormat.opened (fileText file.lines)) := by
  have start := opened_ahead file.lines_valid
  have bit : seekLine "Bit".toList file.lines = some ([decimalText file.bit.toNat],
      flipperFormatWriteUint32 "TE".toList file.te :: file.body) :=
    (seekLine_append file.headPlain _).trans (seekLine_uint32 _ _ _)
  unfold binRawDeserialize flipperFormatRewind
  rw [Yields.bind_iff, Yields.update_iff]
  refine (binRawReadNumber_yields _ start bit).bind ?_
  rintro _ afterBit ⟨rfl, aheadTe⟩
  refine (binRawReadNumber_yields _ aheadTe (seekLine_uint32 _ _ _)).bind ?_
  rintro _ afterTe ⟨rfl, aheadBody⟩
  refine (binRawReadSegments_yields file.segments aheadBody file.footPlain file.count rfl
    ((Nat.zero_add _).symm ▸ file.room)).bind ?_
  rintro read afterBody ⟨data, markups, -⟩
  refine (Yields.tried_answers _ _).bind ?_
  rintro repeated afterRepeat -
  have held : bitsFrom read.data (0 * 8) (size file.segments * 8) =
      (file.segments.flatMap fun segment => segment.data).flatMap byteBits := by
    have chunk : (file.segments.flatMap fun segment => segment.data).length = size file.segments := List.length_flatMap
    have stored := @ByteMemory.bytes_store memory (file.segments.flatMap fun segment => segment.data) 0
    rw [Nat.zero_add, chunk] at stored
    rw [bitsFrom_bytes, data]
    exact congrArg _ stored
  obtain ⟨after, glued, moved⟩ := glueSegments_eq file.segments (Nat.le_refl 0)
    ((Nat.zero_add _).symm ▸ file.room) held
  rw [Nat.zero_add] at glued moved
  rw [List.nil_append] at markups
  unfold binRawGetUpload
  dsimp only
  rw [markups, glued]
  exact ⟨after, moved, rfl⟩

/-- The bits are one sequence in the array, and the upload stands for them. -/
structure BinRawBuilt (bits : List Bool) (te : BitVec 32) (upload : BinRawUpload) : Prop where
  glued : bitsFrom upload.data 0 upload.ind = bits
  kept : UploadKept bits (binRawBufDataSize * 5) te upload.ended

/-- Files of which the upload is built: there are bits, none of them behind a package of
none, with an entry for every run, and each run lasts a time that an entry can hold. -/
structure BinRawFits (file : BinRawFile) : Prop where
  unbroken : file.segments.Pairwise fun before after => before.bitCount = 0 → after.bitCount = 0
  someBits : file.bits ≠ []
  room : (runsOf file.bits).length ≤ binRawBufDataSize * 5
  timed : 0 < file.te.toNat
  brief : ∀ run ∈ runsOf file.bits, run.2 * file.te.toNat < 2 ^ 30

/-- No bits are asked for, and an entry is stored all the same. -/
theorem uploadKept_none (data : ByteMemory) (maxSizeUpload : Nat) (te : BitVec 32) :
    ¬UploadKept [] maxSizeUpload te (blocksGetUploadFromBitArray data 0#32 maxSizeUpload te .left) := by
  intro kept
  have nothing := List.flatMap_eq_nil_iff.mp (kept.expands _ rfl)
  exact kept.filled _ rfl _ (List.mem_singleton_self _) (nothing _ (List.mem_singleton_self _))

theorem gluedCount_le (file : BinRawFile) : gluedCount file ≤ binRawBufDataSize * 8 := by
  have bound (segments : List BinRawSegment) : (gluedBits segments).length ≤ size segments * 8 := by
    induction segments with
    | nil => exact Nat.le_refl 0
    | cons segment rest ih =>
      have filled := segment.filled
      rw [gluedBits, size_cons]
      split
      · exact Nat.zero_le _
      · rw [List.length_append, length_bits]
        omega
  have := bound file.segments
  have := file.room
  unfold gluedCount binRawBufDataSize at *
  omega

theorem binRawBuilt_iff (file : BinRawFile) {data : ByteMemory}
    (glued : bitsFrom data 0 (gluedCount file) = gluedBits file.segments) :
    BinRawBuilt file.bits file.te {
      data := data
      ind := gluedCount file
      ended := blocksGetUploadFromBitArray data (BitVec.ofNat 32 (gluedCount file)) (binRawBufDataSize * 5) file.te
        .left } ↔ BinRawFits file := by
  have whole := gluedBits_eq_iff file.segments
  have short := gluedCount_le file
  have count : (BitVec.ofNat 32 (gluedCount file)).toNat = gluedCount file := by
    unfold binRawBufDataSize at short
    rw [BitVec.toNat_ofNat, Nat.mod_eq_of_lt (by omega)]
  by_cases all : gluedBits file.segments = file.bits
  · have asked : inputBits data (BitVec.ofNat 32 (gluedCount file)) .left = file.bits := by
      rw [inputBits, count, biasBit, glued, all]
    by_cases none : file.bits = []
    · refine ⟨fun built => ?_, fun fits => absurd none fits.someBits⟩
      have zero : gluedCount file = 0 := by rw [gluedCount, all, none, List.length_nil]
      have kept := built.kept
      rw [none, zero] at kept
      exact absurd kept (uploadKept_none _ _ _)
    · have some : 0 < gluedCount file := by
        rw [gluedCount, all]
        exact List.length_pos_iff.mpr none
      have bounded : (BitVec.ofNat 32 (gluedCount file)).toNat + biasBit (BitVec.ofNat 32 (gluedCount file)) .left < 2 ^ 32 := by
        rw [biasBit]
        omega
      have ended := blocksGetUpload_eq data (count.symm ▸ some) (binRawBufDataSize * 5) file.te bounded
      rw [asked] at ended
      have kept := uploadOf_kept_iff none (binRawBufDataSize * 5) file.te
      rw [← ended] at kept
      exact ⟨fun built => ⟨whole.mp all, none, (kept.mp built.kept).1, (kept.mp built.kept).2.1, (kept.mp built.kept).2.2⟩,
        fun fits => ⟨glued.trans all, kept.mpr ⟨fits.room, fits.timed, fits.brief⟩⟩⟩
  · refine ⟨fun built => absurd (glued.symm.trans built.glued) all, fun fits => absurd (whole.mpr fits.unbroken) all⟩

/-- A file becomes an upload of the bits of its packages just if these fit. -/
theorem binRaw_upload_iff (file : BinRawFile) (memory : ByteMemory) :
    Yields (binRawDeserialize (binRawAlloc memory)) (fun answer _ => BinRawBuilt file.bits file.te answer.2)
      (FlipperFormat.opened (fileText file.lines)) ↔ BinRawFits file := by
  refine (binRawDeserialize_yields file memory).iff_of_known ?_
  rintro answer after ⟨data, glued, shape⟩
  rw [shape]
  exact binRawBuilt_iff file glued

/-- Bytes of which no two neighbouring bits are alike. -/
def alternatingSegment (bytes : Nat) : BinRawSegment where
  bitCount := bytes * 8
  data := List.replicate bytes 0xAA#8
  filled := by rw [List.length_replicate]; omega

theorem alternatingSegment_bits (bytes : Nat) :
    (alternatingSegment bytes).bits = (List.replicate bytes 0xAA#8).flatMap byteBits := by
  rw [BinRawSegment.bits, alternatingSegment, List.length_replicate, Nat.sub_self, List.drop_zero]

theorem alternating_isChain (bytes : Nat) : ((List.replicate bytes 0xAA#8).flatMap byteBits).IsChain (· ≠ ·) ∧
      ∀ first ∈ ((List.replicate bytes 0xAA#8).flatMap byteBits).head?, first = true := by
  induction bytes with
  | zero => exact ⟨List.isChain_nil, fun _ first => by cases first⟩
  | succ bytes ih =>
    refine ⟨List.isChain_append.mpr ⟨by decide, ih.1, fun last isLast first isFirst => ?_⟩, ?_⟩
    · have low : last = false := by
        have shape : (byteBits 0xAA#8).getLast? = some false := by decide
        cases isLast
        rfl
      rw [low, ih.2 first isFirst]
      exact Bool.false_ne_true
    · rintro first ⟨⟩
      rfl

/-- A file of bits that alternate, with its other lines as the receiver writes them. -/
def alternatingFile (bytes : Nat) (room : bytes ≤ binRawBufDataSize) : BinRawFile where
  head := [.value "Filetype".toList ["Flipper".toList, "SubGhz".toList, "Key".toList, "File".toList],
    flipperFormatWriteUint32 "Version".toList 1, flipperFormatWriteUint32 "Frequency".toList 433920000,
    .value "Preset".toList ["FuriHalSubGhzPresetOok650Async".toList], .value "Protocol".toList ["BinRAW".toList]]
  bit := BitVec.ofNat 32 (bytes * 8)
  te := 500
  segments := [alternatingSegment bytes]
  foot := []
  headValid := by
    simp only [List.forall_mem_cons]
    exact ⟨by decide, writeUint32_valid (by decide) _, writeUint32_valid (by decide) _, by decide, by decide,
      fun _ member => absurd member List.not_mem_nil⟩
  footValid := fun _ member => absurd member List.not_mem_nil
  headPlain := rfl
  footPlain := rfl
  count := Nat.le_of_ble_eq_true rfl
  room := by
    rw [size_cons, alternatingSegment, List.length_replicate]
    exact room

theorem length_runsOf_alternatingFile (bytes : Nat) (room : bytes ≤ binRawBufDataSize) :
    (runsOf (alternatingFile bytes room).bits).length = bytes * 8 := by
  have single : (alternatingFile bytes room).bits = (List.replicate bytes 0xAA#8).flatMap byteBits :=
    (List.flatMap_singleton ..).trans (alternatingSegment_bits bytes)
  rw [single, length_runsOf_of_isChain (alternating_isChain bytes).1, length_flatMap_byteBits, List.length_replicate]

theorem unfit_not_built {file : BinRawFile} (unfit : ¬BinRawFits file) (memory : ByteMemory) :
    ¬Yields (binRawDeserialize (binRawAlloc memory)) (fun answer _ => BinRawBuilt file.bits file.te answer.2)
      (FlipperFormat.opened (fileText file.lines)) := by
  refine fun yields => unfit (((binRawDeserialize_yields file memory).iff_of_known ?_).mp yields)
  rintro answer after ⟨data, glued, shape⟩
  rw [shape]
  exact binRawBuilt_iff file glued

/-- Each of the bits has an entry, and there may be room for fewer. -/
theorem alternatingFile_unfit {bytes : Nat} (room : bytes ≤ binRawBufDataSize)
    (many : binRawBufDataSize * 5 < bytes * 8) : ¬BinRawFits (alternatingFile bytes room) := fun fits =>
  Nat.not_le.mpr many (length_runsOf_alternatingFile bytes room ▸ fits.room)

/-- All 512 bytes of such bits. -/
theorem binRaw_upload_overflows : ¬Yields (binRawDeserialize (binRawAlloc fun _ => 0))
    (fun answer _ => BinRawBuilt (alternatingFile 512 (Nat.le_refl _)).bits (alternatingFile 512 (Nat.le_refl _)).te
      answer.2)
    (FlipperFormat.opened (fileText (alternatingFile 512 (Nat.le_refl _)).lines)) :=
  unfit_not_built (alternatingFile_unfit (Nat.le_refl _) (by decide)) _

end Xtreme.SubGhz
