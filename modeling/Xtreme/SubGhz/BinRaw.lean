import Xtreme.Flipper.FlipperFormat
import Xtreme.SubGhz.BlocksEncoder

/-! The encoder of recorded bit packages (`bin_raw.c`). A file holds some packages,
each aligned to the right in bytes of its own; they are read one behind the other into
one array, and glued together there. -/
namespace Xtreme.SubGhz
open Xtreme.Library Xtreme.Flipper
open Effect (fault observe update tried)

def binRawBufDataSize : Nat := 512
def binRawMaxMarkupCount : Nat := 20

/-- `BinRAW_Markup`: the first byte of a package and how many bits it has. -/
structure BinRAWMarkup where
  byteBias : Nat
  bitCount : BitVec 16
  deriving DecidableEq, Repr

/-- The fields of `SubGhzProtocolEncoderBinRAW` that are used. Of `data_markup` the entries
that were set are here; the others are zero. -/
structure SubGhzProtocolEncoderBinRAW where
  dataCountBit : BitVec 16
  te : BitVec 32
  data : ByteMemory
  dataMarkup : List BinRAWMarkup
  repeatCount : BitVec 32
  sizeUpload : Nat
  isRunning : Bool

inductive BinRawStop
  | errorParserBitCount
  | errorParserTe
  | crashed
  deriving DecidableEq, Repr

abbrev BinRawM (α : Type) := Effect BinRawStop FlipperFormat α

/-- `subghz_protocol_bin_raw_get_full_byte`. -/
def binRawGetFullByte (bitCount : BitVec 16) : Nat :=
  if (bitCount.toNat &&& 0x7) ≠ 0 then (bitCount.toNat >>> 3) + 1 else bitCount.toNat >>> 3

/-- `subghz_protocol_encoder_bin_raw_alloc`, with what the memory for `data` held. -/
def binRawAlloc (data : ByteMemory) : SubGhzProtocolEncoderBinRAW where
  dataCountBit := 0
  te := 0
  data := data
  dataMarkup := []
  repeatCount := 10
  sizeUpload := binRawBufDataSize * 5
  isRunning := false

/-- The inner loop of `subghz_protocol_encoder_bin_raw_get_upload`: so many turns from a
bit `y` of the array on, with the array and where the next bit goes. -/
def glueSegment (bitBias : Nat) : Nat → Nat → ByteMemory → Nat → Option (ByteMemory × Nat)
  | 0, _, data, ind => some (data, ind)
  | turns + 1, y, data, ind =>
    match blocksSetBitArray (blocksGetBitArray data (y + bitBias)) data ind binRawBufDataSize with
    | none => none
    | some data => glueSegment bitBias turns (y + 1) data (ind + 1)

/-- The outer loop. It ends at the first entry of no bits. -/
def glueSegments : List BinRAWMarkup → ByteMemory → Nat → Option (ByteMemory × Nat)
  | [], data, ind => some (data, ind)
  | markup :: rest, data, ind =>
    if markup.bitCount = 0 then some (data, ind)
    else
      let bitBias := binRawGetFullByte markup.bitCount * 8 - markup.bitCount.toNat
      let turns := binRawGetFullByte markup.bitCount * 8 - bitBias
      match glueSegment bitBias turns (markup.byteBias * 8) data ind with
      | none => none
      | some (data, ind) => glueSegments rest data ind

/-- How an upload was built: what the array holds, how many bits of it were asked for, and
how building it ended. -/
structure BinRawUpload where
  data : ByteMemory
  ind : Nat
  ended : UploadEnd

/-- `subghz_protocol_encoder_bin_raw_get_upload`. -/
def binRawGetUpload (instanc : SubGhzProtocolEncoderBinRAW) : Option BinRawUpload :=
  match glueSegments instanc.dataMarkup instanc.data 0 with
  | none => none
  | some (data, ind) => some {
      data := data
      ind := ind
      ended := blocksGetUploadFromBitArray data (BitVec.ofNat 32 ind) instanc.sizeUpload instanc.te .left }

/-- The locals of the reading loop, and the fields that it fills. -/
structure SegmentsRead where
  data : ByteMemory
  dataMarkup : List BinRAWMarkup
  byteBias : Nat
  byteCount : Nat

/-- The reading loop, with so many entries of `data_markup` left. What goes wrong in it
only ends it. Of bytes that are not all read none are stored here. -/
def binRawReadSegments : Nat → SegmentsRead → BinRawM SegmentsRead
  | room, read => do
    match ← tried (flipperFormatReadUint32 "Bit_RAW".toList) with
    | none => pure read
    | some tempData =>
      match room with
      | 0 => pure read
      | room + 1 =>
        let fullByte := binRawGetFullByte (tempData.setWidth 16)
        if binRawBufDataSize < read.byteCount + fullByte then pure read
        else
          match ← tried (flipperFormatReadHex "Data_RAW".toList fullByte) with
          | none => pure read
          | some bytes =>
            binRawReadSegments room {
              data := read.data.store read.byteBias bytes
              dataMarkup := read.dataMarkup ++ [⟨read.byteBias, tempData.setWidth 16⟩]
              byteBias := read.byteBias + fullByte
              byteCount := read.byteCount + fullByte }

/-- `flipper_format_rewind`. -/
def flipperFormatRewind : BinRawM Unit := update fun ff => { ff with rest := ff.content }

/-- A number that a file must have, and what is answered where it does not. -/
def binRawReadNumber (key : String) (missing : BinRawStop) : BinRawM (BitVec 32) := do
  match ← tried (flipperFormatReadUint32 key.toList) with
  | none => fault missing
  | some number => pure number

/-- `subghz_protocol_encoder_bin_raw_deserialize`: the instance, and how its upload was
built. Where that crashed, no one gets to see the instance. -/
def binRawDeserialize (instanc : SubGhzProtocolEncoderBinRAW) :
    BinRawM (SubGhzProtocolEncoderBinRAW × BinRawUpload) := do
  flipperFormatRewind
  let tempData ← binRawReadNumber "Bit" .errorParserBitCount
  let te ← binRawReadNumber "TE" .errorParserTe
  let read ← binRawReadSegments binRawMaxMarkupCount
    { data := instanc.data, dataMarkup := [], byteBias := 0, byteCount := 0 }
  flipperFormatRewind
  let repeatCount ← tried (flipperFormatReadUint32 "Repeat".toList)
  let loaded := { instanc with
    dataCountBit := tempData.setWidth 16
    te := te
    data := read.data
    dataMarkup := read.dataMarkup
    repeatCount := repeatCount.getD instanc.repeatCount }
  match binRawGetUpload loaded with
  | none => fault .crashed
  | some upload =>
    pure ({ loaded with
      data := upload.data
      sizeUpload := upload.ended.stored.length
      isRunning := true }, upload)

end Xtreme.SubGhz
