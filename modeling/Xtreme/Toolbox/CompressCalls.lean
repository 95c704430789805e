import Xtreme.Library.Lzss
import Xtreme.Toolbox.CompressRuns

/-! The two calls of `compress.c`. When they stay inside their buffers, and when decoding
gives back what was encoded, for all coders that do what is known of them. -/
namespace Xtreme.Toolbox
open Xtreme.Library

section
variable {ε δ : Type} {encoder : Coder ε (BitVec 8)} {decoder : Coder δ (BitVec 8)}
  {ready encoded decoded : List (BitVec 8) → List (BitVec 8)}
  {writing : ε → Progress (BitVec 8) → Prop} {reading : δ → Progress (BitVec 8) → Prop}
  {compress : Compress ε δ} {memory output : ByteMemory} {dataInSize dataOutSize : Nat}

/-! ## Decoding -/

def decodedData (decoded : List (BitVec 8) → List (BitVec 8)) (memory : ByteMemory) (dataInSize : Nat) : List (BitVec 8) :=
  if memory 0 = 0 then memory.bytes 1 (dataInSize - 1)
  else decoded (memory.bytes 4 (compressedBuffSize memory - 4))

/-- Decoding ends, stays inside its buffers, and does not succeed without the room for the data. -/
def DecodesSafely (encoder : Coder ε (BitVec 8)) (decoder : Coder δ (BitVec 8))
    (decoded : List (BitVec 8) → List (BitVec 8)) (compress : Compress ε δ) (memory : ByteMemory) (dataInSize : Nat)
    (output : ByteMemory) (dataOutSize : Nat) : Prop :=
  ∃ outcome, Settles (fun fuel => compressDecode encoder decoder fuel compress ⟨memory, 0⟩ dataInSize ⟨output, 0⟩
      dataOutSize) outcome ∧
    outcome.dataIn.touched ≤ dataInSize ∧ outcome.dataOut.touched ≤ dataOutSize ∧
    (dataOutSize < (decodedData decoded memory dataInSize).length → outcome.success = false)

theorem compressDecode_raw (marked : memory 0 = 0) (large : dataInSize < 2 ^ 32) (filled : 0 < dataInSize)
    (room : dataInSize ≤ dataOutSize + 1) :
    ∃ outcome, Settles (fun fuel => compressDecode encoder decoder fuel compress ⟨memory, 0⟩ dataInSize ⟨output, 0⟩
        dataOutSize) outcome ∧ outcome.dataIn.touched = dataInSize + 1 := by
  have size : size32 ((dataInSize : Int) - 1) = dataInSize - 1 := by
    rw [size32]
    omega
  refine ⟨⟨true, some (size32 ((dataInSize : Int) - 1)), ((⟨memory, 0⟩ : CallBuffer).touch 0 1).touch 1 dataInSize,
    (⟨output, 0⟩ : CallBuffer).store 0 (memory.bytes 1 dataInSize), compressReset encoder decoder compress⟩,
    .of_some fun fuel => ?_, ?_⟩
  · have fits : size32 ((dataInSize : Int) - 1) ≤ dataOutSize := by omega
    rw [compressDecode, if_neg (not_not.mpr marked), if_pos fits]
  · rw [CallBuffer.touch_touched _ _ filled, CallBuffer.touch_touched _ _ Nat.one_pos]
    dsimp only
    omega

theorem compressDecode_rawSmall (marked : memory 0 = 0) (large : dataInSize < 2 ^ 32)
    (small : dataOutSize + 1 < dataInSize) :
    ∃ outcome, Settles (fun fuel => compressDecode encoder decoder fuel compress ⟨memory, 0⟩ dataInSize ⟨output, 0⟩
        dataOutSize) outcome ∧ outcome.dataIn.touched = 1 ∧ outcome.dataOut.touched = 0 ∧ outcome.success = false := by
  refine ⟨⟨false, none, (⟨memory, 0⟩ : CallBuffer).touch 0 1, ⟨output, 0⟩, compressReset encoder decoder compress⟩,
    .of_some fun fuel => ?_, rfl, rfl, rfl⟩
  have little : ¬size32 ((dataInSize : Int) - 1) ≤ dataOutSize := by
    rw [size32]
    omega
  rw [compressDecode, if_neg (not_not.mpr marked), if_neg little]

theorem stored_touched (memory : ByteMemory) (chunk : List (BitVec 8)) :
    ((⟨memory, 0⟩ : CallBuffer).store 0 chunk).touched = chunk.length := by
  rcases Nat.eq_zero_or_pos chunk.length with none | some
  · rw [List.eq_nil_of_length_eq_zero none]
    rfl
  · rw [CallBuffer.store_touched _ _ some]
    dsimp only
    omega

theorem stored_bytes (memory : ByteMemory) (chunk : List (BitVec 8)) :
    (memory.store 0 chunk).bytes 0 chunk.length = chunk := by
  have stored := @ByteMemory.bytes_stored memory 0 chunk 0 chunk.length (by rw [Nat.zero_add])
  rwa [List.drop_zero, List.take_length] at stored

theorem touched_header (memory : ByteMemory) (count : Nat) :
    ((((⟨memory, 0⟩ : CallBuffer).touch 0 1).touch 2 2).touch 4 count).touched = 4 + count := by
  rcases Nat.eq_zero_or_pos count with rfl | some
  · rfl
  · rw [CallBuffer.touch_touched _ _ some, CallBuffer.touch_touched _ _ Nat.two_pos,
      CallBuffer.touch_touched _ _ Nat.one_pos]
    dsimp only
    omega

theorem compressDecode_marked (marked : memory 0 ≠ 0) (fuel : Nat) :
    compressDecode encoder decoder fuel compress ⟨memory, 0⟩ dataInSize ⟨output, 0⟩ dataOutSize =
      (decodeLoops decoder (compressedBuffSize memory) dataOutSize fuel
        ⟨compress.decoder, ((⟨memory, 0⟩ : CallBuffer).touch 0 1).touch 2 2, ⟨output, 0⟩, 0, 0, false⟩).map fun run =>
          ⟨!run.failed, some run.resBuffSize, run.dataIn, run.dataOut,
            compressReset encoder decoder { compress with decoder := run.coder }⟩ := by
  rw [compressDecode, if_pos marked]

theorem compressDecode_compressed (streams : Streams decoder decoded decoded reading)
    (streamable : Streamable decoded decoded) (stood : reading compress.decoder ⟨[], [], false, true⟩)
    (marked : memory 0 ≠ 0) (room : 0 < dataOutSize) :
    ∃ outcome, Settles (fun fuel => compressDecode encoder decoder fuel compress ⟨memory, 0⟩ dataInSize ⟨output, 0⟩
        dataOutSize) outcome ∧ outcome.success = true ∧
      outcome.dataResSize = some (decoded (memory.bytes 4 (compressedBuffSize memory - 4))).length ∧
      outcome.dataIn.touched = 4 + (compressedBuffSize memory - 4) ∧
      outcome.dataOut = (⟨output, 0⟩ : CallBuffer).store 0 (decoded (memory.bytes 4 (compressedBuffSize memory - 4))) := by
  obtain ⟨last, ends, failed, moved⟩ := @decodeLoops_run _ _ _ _
    ⟨compress.decoder, ((⟨memory, 0⟩ : CallBuffer).touch 0 1).touch 2 2, ⟨output, 0⟩, 0, 0, false⟩
    dataOutSize (compressedBuffSize memory) streams streamable stood rfl room
  refine ⟨_, (ends.map _).congr (compressDecode_marked marked), ?_, ?_, ?_, moved.dataOut⟩
  · rw [failed]
    rfl
  · exact congrArg some (moved.size.trans (Nat.zero_add _))
  · rw [moved.dataIn]
    exact touched_header memory _

/-- Without an output buffer nothing is written; the first bytes behind the header are read,
if there are some. -/
theorem compressDecode_noRoom (streams : Streams decoder decoded decoded reading)
    (streamable : Streamable decoded decoded) (stood : reading compress.decoder ⟨[], [], false, true⟩)
    (marked : memory 0 ≠ 0) :
    ∃ outcome count, Settles (fun fuel => compressDecode encoder decoder fuel compress ⟨memory, 0⟩ dataInSize ⟨output, 0⟩
        0) outcome ∧ outcome.dataIn.touched = 4 + count ∧ outcome.dataOut.touched = 0 ∧
      (outcome.success = true ∧ compressedBuffSize memory ≤ 4 ∧ count = 0 ∨
        outcome.success = false ∧ 4 + count ≤ compressedBuffSize memory ∧ ∃ next,
          decoder.sink compress.decoder (memory.bytes 4 (compressedBuffSize memory - 4)) = (.ok, count, next)) := by
  obtain ⟨last, count, ends, moved, outcome⟩ := @decodeLoops_noRoom _ _ _ _
    ⟨compress.decoder, ((⟨memory, 0⟩ : CallBuffer).touch 0 1).touch 2 2, ⟨output, 0⟩, 0, 0, false⟩
    (compressedBuffSize memory) streams streamable stood rfl rfl
  refine ⟨_, count, (ends.map _).congr (compressDecode_marked marked), ?_, ?_, ?_⟩
  · rw [moved.dataIn]
    exact touched_header memory _
  · rw [moved.dataOut, CallBuffer.store_nil]
  · rcases outcome with ⟨failed, small, none⟩ | ⟨failed, -, within, sank⟩
    · exact .inl ⟨by rw [failed]; rfl, small, none⟩
    · exact .inr ⟨by rw [failed]; rfl, within, sank⟩

def DecodesSafelyFor (encoder : Coder ε (BitVec 8)) (start : ε) (decoded : List (BitVec 8) → List (BitVec 8))
    (memory : ByteMemory) (dataInSize : Nat) (output : ByteMemory) (dataOutSize : Nat) : Prop :=
  ∀ (δ : Type) (decoder : Coder δ (BitVec 8)) (reading : δ → Progress (BitVec 8) → Prop),
    Streams decoder decoded decoded reading → ∀ state : δ,
      DecodesSafely encoder decoder decoded (compressReset encoder decoder ⟨start, state⟩) memory dataInSize output
        dataOutSize

/-- Encoded data: a byte and two copies of it make 32 bytes. -/
def lzssData : List (BitVec 8) := [0xA0, 0x80, 0x3C, 0x01, 0xC0]

/-- Where encoding succeeds, both calls stay inside their buffers, and decoding what was
written to a buffer of the size of the input gives the input back. -/
def RoundTrips (encoder : Coder ε (BitVec 8)) (decoder : Coder δ (BitVec 8)) (compress : Compress ε δ)
    (memory : ByteMemory) (dataInSize : Nat) (output : ByteMemory) (dataOutSize : Nat) (result : ByteMemory) : Prop :=
  ∀ encode size, Settles (fun fuel => compressEncode encoder decoder fuel compress ⟨memory, 0⟩ dataInSize ⟨output, 0⟩
      dataOutSize) encode → encode.success = true → encode.dataResSize = some size →
    encode.dataIn.touched ≤ dataInSize ∧ encode.dataOut.touched ≤ dataOutSize ∧
    ∃ decode, Settles (fun fuel => compressDecode encoder decoder fuel encode.compress ⟨encode.dataOut.memory, 0⟩ size
        ⟨result, 0⟩ dataInSize) decode ∧
      decode.success = true ∧ decode.dataResSize = some dataInSize ∧
      decode.dataOut.memory.bytes 0 dataInSize = memory.bytes 0 dataInSize ∧
      decode.dataIn.touched ≤ size ∧ decode.dataOut.touched ≤ dataInSize

def RoundTripsFor (ready encoded decoded : List (BitVec 8) → List (BitVec 8)) (memory : ByteMemory) (dataInSize : Nat)
    (output : ByteMemory) (dataOutSize : Nat) (result : ByteMemory) : Prop :=
  ∀ (ε δ : Type) (encoder : Coder ε (BitVec 8)) (decoder : Coder δ (BitVec 8)) (writing : ε → Progress (BitVec 8) → Prop)
    (reading : δ → Progress (BitVec 8) → Prop), Streams encoder ready encoded writing → Strict encoder encoded writing →
    Streams decoder decoded decoded reading → ∀ start : Compress ε δ,
      RoundTrips encoder decoder (compressReset encoder decoder start) memory dataInSize output dataOutSize result

def Compresses (ready encoded dataInSize dataOutSize : Nat) : Prop :=
  ¬Crowded ready encoded dataOutSize ∧ 4 + encoded ≤ dataInSize

instance (ready encoded dataInSize dataOutSize : Nat) : Decidable (Compresses ready encoded dataInSize dataOutSize) :=
  inferInstanceAs (Decidable (¬Crowded _ _ _ ∧ _))

theorem compressEncode_settles {run : CompressRun ε}
    (ends : Settles (fun fuel => encodeLoops encoder dataInSize dataOutSize fuel
      ⟨compress.encoder, ⟨memory, 0⟩, ⟨output, 0⟩, 4, 0, false⟩) run) :
    Settles (fun fuel => compressEncode encoder decoder fuel compress ⟨memory, 0⟩ dataInSize ⟨output, 0⟩ dataOutSize)
      (encodeResult dataInSize dataOutSize (compressReset encoder decoder { compress with encoder := run.coder }) run) :=
  ends.map _

theorem compressEncode_run (streams : Streams encoder ready encoded writing) (strict : Strict encoder encoded writing)
    (streamable : Streamable ready encoded) (stood : writing compress.encoder ⟨[], [], false, true⟩)
    (filled : 0 < dataInSize) (short : dataOutSize + (encoded (memory.bytes 0 dataInSize)).length + 8 < 2 ^ 32) :
    ∃ run, Settles (fun fuel => encodeLoops encoder dataInSize dataOutSize fuel
        ⟨compress.encoder, ⟨memory, 0⟩, ⟨output, 0⟩, 4, 0, false⟩) run ∧
      (run.failed = true ∧ (Crowded (ready (memory.bytes 0 dataInSize)).length
            (encoded (memory.bytes 0 dataInSize)).length dataOutSize ∨
          dataOutSize = 4 + (ready (memory.bytes 0 dataInSize)).length) ∨
        run.failed = false ∧ ¬Crowded (ready (memory.bytes 0 dataInSize)).length
            (encoded (memory.bytes 0 dataInSize)).length dataOutSize ∧
          run.resBuffSize = 4 + (encoded (memory.bytes 0 dataInSize)).length ∧
          run.dataIn = (⟨memory, 0⟩ : CallBuffer).touch 0 dataInSize ∧
          run.dataOut = (⟨output, 0⟩ : CallBuffer).store 4 (encoded (memory.bytes 0 dataInSize))) := by
  obtain ⟨last, ends, outcome⟩ := @encodeLoops_run _ _ _ _ _ ⟨compress.encoder, ⟨memory, 0⟩, ⟨output, 0⟩, 4, 0, false⟩
    dataOutSize dataInSize _ streams strict streamable stood rfl rfl filled rfl short
  refine ⟨last, ends, outcome.imp_right ?_⟩
  rintro ⟨failed, room, moved⟩
  exact ⟨failed, room, moved.size, moved.dataIn, moved.dataOut⟩

/-- Where the data is stored as it is, decoding reads behind what was written. -/
theorem not_roundTrips_raw {result : ByteMemory} {run : CompressRun ε}
    (loops : Settles (fun fuel => encodeLoops encoder dataInSize dataOutSize fuel
      ⟨compress.encoder, ⟨memory, 0⟩, ⟨output, 0⟩, 4, 0, false⟩) run)
    (raw : ¬(run.failed = false ∧ run.resBuffSize < dataInSize + 1)) (room : dataInSize < dataOutSize)
    (large : dataInSize + 1 < 2 ^ 32) :
    ¬RoundTrips encoder decoder compress memory dataInSize output dataOutSize result := by
  intro trip
  have ends := @compressEncode_settles _ _ _ decoder _ _ _ _ _ _ loops
  rw [encodeResult, if_neg raw, if_pos room] at ends
  obtain ⟨-, -, decode, ends', -, -, -, input, -⟩ := trip _ _ ends rfl rfl
  obtain ⟨other, ends'', touched⟩ := @compressDecode_raw _ _ encoder decoder
    (compressReset encoder decoder { compress with encoder := run.coder })
    ((run.dataOut.store 0 [0]).store 1 (run.dataIn.memory.bytes 0 dataInSize)).memory result (dataInSize + 1) dataInSize
    rfl large (Nat.succ_pos _) (Nat.le_refl _)
  obtain rfl := ends'.unique ends''
  omega

section
variable (output : ByteMemory) (data : List (BitVec 8)) (size : Nat)

/-- Encoded data behind its header. -/
def framed : ByteMemory := (output.store 4 data).store 0 (compressHeader size)

theorem framed_marked : framed output data size 0 ≠ 0 := by
  have mark : framed output data size 0 = 1 := rfl
  rw [mark]
  decide

theorem framed_size : compressedBuffSize (framed output data size) = size % 65536 := by
  have low : framed output data size 2 = BitVec.ofNat 8 size := rfl
  have high : framed output data size 3 = BitVec.ofNat 8 (size / 256) := rfl
  rw [compressedBuffSize, low, high, BitVec.toNat_ofNat, BitVec.toNat_ofNat]
  omega

theorem framed_bytes {count : Nat} (few : count ≤ data.length) : (framed output data size).bytes 4 count = data.take count := by
  have behind : (framed output data size).bytes 4 count = (output.store 4 data).bytes 4 count := by
    refine List.map_congr_left fun place _ => ?_
    exact ByteMemory.store_outside _ (Nat.le_add_right 4 place)
  rw [behind]
  exact @ByteMemory.bytes_stored output 4 data 0 count (by omega)

theorem framed_touched :
    (((⟨output, 0⟩ : CallBuffer).store 4 data).store 0 (compressHeader size)).touched = 4 + data.length := by
  rw [CallBuffer.store_touched _ _ (show 0 < (compressHeader size).length by exact Nat.zero_lt_succ 3)]
  have header : (compressHeader size).length = 4 := rfl
  rcases Nat.eq_zero_or_pos data.length with none | some
  · rw [List.eq_nil_of_length_eq_zero none]
    rfl
  · rw [CallBuffer.store_touched _ _ some]
    dsimp only
    omega

end

theorem compressDecode_framed (streams : Streams decoder decoded decoded reading)
    (streamable : Streamable decoded decoded) (stood : reading compress.decoder ⟨[], [], false, true⟩)
    (data : List (BitVec 8)) (result : ByteMemory) (room : 0 < dataOutSize) :
    ∃ decode, Settles (fun fuel => compressDecode encoder decoder fuel compress
        ⟨framed output data (4 + data.length), 0⟩ (4 + data.length) ⟨result, 0⟩ dataOutSize) decode ∧
      decode.success = true ∧ decode.dataIn.touched ≤ 4 + data.length ∧
      decode.dataResSize = some (decoded (data.take ((4 + data.length) % 65536 - 4))).length ∧
      decode.dataOut = (⟨result, 0⟩ : CallBuffer).store 0 (decoded (data.take ((4 + data.length) % 65536 - 4))) := by
  obtain ⟨decode, ends, success, sized, touched, written⟩ := @compressDecode_compressed _ _ encoder _ _ _ _ _ result
    (4 + data.length) dataOutSize streams streamable stood (framed_marked output data (4 + data.length)) room
  rw [framed_size] at sized touched written
  rw [framed_bytes output data (4 + data.length) (by omega)] at sized written
  exact ⟨decode, ends, success, by omega, sized, written⟩

/-- All that is given before the end of the input just fits, and the plain coder does not
mind. -/
theorem encode_plain_fits (streamable : Streamable ready encoded) (filled : 0 < dataInSize) {data : List (BitVec 8)}
    (bytes : memory.bytes 0 dataInSize = data) (short : dataOutSize + (encoded data).length + 8 < 2 ^ 32)
    (fits : dataOutSize = 4 + (ready data).length) (some : dataOutSize ≠ 4) {start : Progress (BitVec 8)} :
    ∃ run, Settles (fun fuel => encodeLoops (plainCoder ready encoded) dataInSize dataOutSize fuel
        ⟨(plainCoder ready encoded).reset start, ⟨memory, 0⟩, ⟨output, 0⟩, 4, 0, false⟩) run ∧ run.failed = false := by
  have streams := plainCoder_streams streamable
  let sank : CompressRun (Progress (BitVec 8)) :=
    ⟨⟨data, [], false, false⟩, (⟨memory, 0⟩ : CallBuffer).touch 0 dataInSize, ⟨output, 0⟩, 4, 0, false⟩
  let polled := sank.wrote (ready data) ⟨data, ready data, false, true⟩
  have offered : size32 ((dataOutSize : Int) - 4) = (ready data).length := by
    rw [size32]
    omega
  have room : (ready data).length ≠ 0 := by
    intro none
    exact some (by rw [fits]; exact congrArg (4 + ·) none)
  have poll : Settles (fun fuel => pollLoop (plainCoder ready encoded) (fun size => size32 ((dataOutSize : Int) - size))
      fuel sank) polled := by
    refine .last_round fun fuel => ?_
    have answer : (plainCoder ready encoded).poll sank.coder (size32 ((dataOutSize : Int) - sank.resBuffSize)) =
        (.empty, ready data, ⟨data, ready data, false, true⟩) := by
      have same : size32 ((dataOutSize : Int) - sank.resBuffSize) = (ready data).length := offered
      rw [same, plainCoder]
      dsimp only
      rw [if_neg room]
      exact if_pos (Nat.le_refl _)
    rw [pollLoop, answer]
  have ended : Settles (fun fuel => sinkLoop (plainCoder ready encoded) (· == .ok)
      (fun size => size32 ((dataOutSize : Int) - size)) dataInSize fuel (0 + dataInSize) polled) polled := by
    refine .last_round fun fuel => ?_
    rw [sinkLoop, if_neg (not_and_of_not_left _ (by omega))]
  have sink : Settles (fun fuel => sinkLoop (plainCoder ready encoded) (· == .ok)
      (fun size => size32 ((dataOutSize : Int) - size)) dataInSize fuel 0
        ⟨(plainCoder ready encoded).reset start, ⟨memory, 0⟩, ⟨output, 0⟩, 4, 0, false⟩) polled := by
    refine .round (fun fuel => ?_) (poll.bind ended)
    have count : data.length = dataInSize := by rw [← bytes, ByteMemory.bytes_length]
    have taken : (plainCoder ready encoded).sink ((plainCoder ready encoded).reset start) data =
        (.ok, dataInSize, ⟨data, [], false, false⟩) := by
      rw [plainCoder]
      dsimp only
      rw [count]
      rfl
    rw [sinkLoop, if_pos ⟨filled, rfl⟩, Nat.sub_zero, bytes, taken]
    rfl
  obtain ⟨last, ends, outcome⟩ := @encodeEnd_run _ _ _ _ _ polled dataOutSize data streams (plainCoder_strict streamable)
    streamable ⟨rfl, List.prefix_rfl⟩ rfl rfl short (by omega) 0
  refine ⟨last, sink.bind ends, ?_⟩
  rcases outcome with ⟨-, crowded⟩ | ⟨failed, -⟩
  · unfold Crowded at crowded
    omega
  · exact failed

/-- **The round trip works just if encoding takes the compressed form wherever it succeeds,
and then stays inside its buffer and gives a size that the header can hold.** -/
theorem roundTrips_iff (before : Streamable ready encoded) (streamable : Streamable decoded decoded)
    (memory output result : ByteMemory) (dataInSize dataOutSize : Nat) (filled : 0 < dataInSize)
    (lossless : decoded (encoded (memory.bytes 0 dataInSize)) = memory.bytes 0 dataInSize)
    (short : dataInSize + dataOutSize + (encoded (memory.bytes 0 dataInSize)).length + 8 < 2 ^ 32) :
    RoundTripsFor ready encoded decoded memory dataInSize output dataOutSize result ↔
      (dataInSize < dataOutSize ∨ Compresses (ready (memory.bytes 0 dataInSize)).length
          (encoded (memory.bytes 0 dataInSize)).length dataInSize dataOutSize →
        Compresses (ready (memory.bytes 0 dataInSize)).length (encoded (memory.bytes 0 dataInSize)).length dataInSize
            dataOutSize ∧
          4 + (encoded (memory.bytes 0 dataInSize)).length ≤ dataOutSize ∧
          (4 + (encoded (memory.bytes 0 dataInSize)).length < 65536 ∨
            decoded ((encoded (memory.bytes 0 dataInSize)).take
              ((4 + (encoded (memory.bytes 0 dataInSize)).length) % 65536 - 4)) = memory.bytes 0 dataInSize)) := by
  have behind := (before.behind (memory.bytes 0 dataInSize)).length_le
  constructor
  · intro trips ante
    have plain := plainCoder_streams before
    have strict : Strict (plainCoder ready encoded) encoded (Plainly ready encoded) := plainCoder_strict before
    have plain' := plainCoder_streams streamable
    let start : Progress (BitVec 8) := ⟨[], [], false, true⟩
    have trip := trips _ _ _ _ _ _ plain strict plain' ⟨start, start⟩
    obtain ⟨run, loops, outcome⟩ := @compressEncode_run _ _ (plainCoder ready encoded) _ _ _
      (compressReset (plainCoder ready encoded) (plainCoder decoded decoded) ⟨start, start⟩) memory output dataInSize
      dataOutSize plain strict before (plain.reset start) filled (by omega)
    have ends := @compressEncode_settles _ _ _ (plainCoder decoded decoded) _ _ _ _ _ _ loops
    have notRaw (raw : ¬(run.failed = false ∧ run.resBuffSize < dataInSize + 1)) : ¬dataInSize < dataOutSize :=
      fun room => not_roundTrips_raw loops raw room (by omega) trip
    unfold Compresses at ante ⊢
    rcases outcome with ⟨failed, crowded⟩ | ⟨failed, room, size', input, written⟩
    · have raw := notRaw (not_and_of_not_left _ (by rw [failed]; decide))
      obtain ⟨room, small⟩ := ante.resolve_left raw
      have fits := crowded.resolve_left room
      obtain ⟨run', loops', clean⟩ := @encode_plain_fits _ _ memory output _ dataOutSize before filled _ rfl (by omega) fits
        (fun same => room (.inr (.inl same))) start
      obtain rfl := loops.unique loops'
      rw [failed] at clean
      cases clean
    · by_cases smaller : run.resBuffSize < dataInSize + 1
      · rw [encodeResult, if_pos ⟨failed, smaller⟩] at ends
        obtain ⟨-, inside, decode, ends', -, sized, back, -⟩ := trip _ _ ends rfl rfl
        rw [written, framed_touched] at inside
        rw [written, size'] at ends'
        obtain ⟨other, ends'', -, -, sized', written'⟩ := @compressDecode_framed _ _ (plainCoder ready encoded) _ _ _
          (compressReset (plainCoder ready encoded) (plainCoder decoded decoded)
            { compressReset (plainCoder ready encoded) (plainCoder decoded decoded) ⟨start, start⟩ with encoder := run.coder })
          output dataInSize plain' streamable (plain'.reset start) (encoded (memory.bytes 0 dataInSize)) result filled
        obtain rfl := ends'.unique ends''
        rw [sized'] at sized
        have length := Option.some.inj sized
        rw [written'] at back
        have stored := stored_bytes result (decoded ((encoded (memory.bytes 0 dataInSize)).take
          ((4 + (encoded (memory.bytes 0 dataInSize)).length) % 65536 - 4)))
        rw [length] at stored
        exact ⟨⟨room, by omega⟩, inside, .inr (stored.symm.trans back)⟩
      · have raw := notRaw (not_and_of_not_right _ smaller)
        omega
  · intro condition ε δ encoder decoder writing reading streams strict streams' start encode size ends success sized
    obtain ⟨run, loops, outcome⟩ := @compressEncode_run _ _ encoder _ _ _
      (compressReset encoder decoder start) memory output dataInSize dataOutSize streams strict before
      (streams.reset start.encoder) filled (by omega)
    obtain rfl := (compressEncode_settles loops).unique ends
    unfold Compresses at condition
    rcases outcome with ⟨failed, crowded⟩ | ⟨failed, room, size', input, written⟩
    · rw [encodeResult, if_neg (not_and_of_not_left _ (by rw [failed]; decide))] at success
      split at success
      · rename_i raw
        obtain ⟨⟨room, smaller⟩, -⟩ := condition (.inl raw)
        have just := crowded.resolve_left room
        omega
      · cases success
    · by_cases smaller : run.resBuffSize < dataInSize + 1
      · rw [encodeResult, if_pos ⟨failed, smaller⟩] at sized ⊢
        obtain ⟨-, inside, held⟩ := condition (.inr ⟨room, by omega⟩)
        have back : decoded ((encoded (memory.bytes 0 dataInSize)).take
            ((4 + (encoded (memory.bytes 0 dataInSize)).length) % 65536 - 4)) = memory.bytes 0 dataInSize := by
          rcases held with small | back
          · rw [Nat.mod_eq_of_lt small, Nat.add_sub_cancel_left, List.take_length, lossless]
          · exact back
        obtain rfl : 4 + (encoded (memory.bytes 0 dataInSize)).length = size :=
          size'.symm.trans (Option.some.inj sized)
        obtain ⟨decode, ends'', success', touched, sized', written'⟩ := @compressDecode_framed _ _ encoder _ _ _
          (compressReset encoder decoder { compressReset encoder decoder start with encoder := run.coder }) output dataInSize
          streams' streamable (streams'.reset _) (encoded (memory.bytes 0 dataInSize)) result filled
        rw [back] at sized' written'
        rw [input, written, size']
        refine ⟨?_, ?_, decode, ends'', success', ?_, ?_, touched, ?_⟩
        · rw [CallBuffer.touch_touched _ _ filled]
          dsimp only
          omega
        · rw [framed_touched]
          exact inside
        · rw [sized', ByteMemory.bytes_length]
        · have stored := stored_bytes result (memory.bytes 0 dataInSize)
          rw [ByteMemory.bytes_length] at stored
          rw [written']
          exact stored
        · rw [written', stored_touched, ByteMemory.bytes_length]
      · rw [encodeResult, if_neg (not_and_of_not_right _ smaller)] at success
        split at success
        · omega
        · cases success

end

/-- An encoder that gives nothing before the end of its input, and knows one byte and 32 of
them. -/
def lzssEncoded (data : List (BitVec 8)) : List (BitVec 8) :=
  if data = List.replicate 32 0x41 then lzssData else if data = [0x41] then [0xA0, 0x80] else []

theorem lzssEncoded_streamable : Streamable (fun _ => []) lzssEncoded :=
  ⟨rfl, fun _ _ => List.prefix_rfl, fun _ => List.nil_prefix⟩

/-- 32 equal bytes make the round trip through a buffer of 64 bytes, and not through one of
seven. -/
theorem roundTrips_lzss :
    RoundTripsFor (fun _ => []) lzssEncoded lzssDecoded (fun _ => 0x41) 32 (fun _ => 0) 64 (fun _ => 0) ∧
      ¬RoundTripsFor (fun _ => []) lzssEncoded lzssDecoded (fun _ => 0x41) 32 (fun _ => 0) 7 (fun _ => 0) :=
  ⟨(roundTrips_iff lzssEncoded_streamable lzssDecoded_streamable _ _ _ _ _ (by decide) (by decide +kernel)
      (by decide +kernel)).mpr (by decide +kernel),
    fun trips => absurd ((roundTrips_iff lzssEncoded_streamable lzssDecoded_streamable _ _ _ _ _ (by decide)
      (by decide +kernel) (by decide +kernel)).mp trips) (by decide +kernel)⟩

/-- One byte is stored as it is, and read back with one behind it. -/
theorem roundTrips_tooFar : lzssDecoded (lzssEncoded [0x41]) = [0x41] ∧
      ¬RoundTrips (plainCoder (fun _ => []) lzssEncoded) (plainCoder lzssDecoded lzssDecoded)
        ⟨⟨[], [], false, true⟩, ⟨[], [], false, true⟩⟩ (fun _ => 0x41) 1 (fun _ => 0) 2 (fun _ => 0) := by
  refine ⟨by decide, ?_⟩
  obtain ⟨run, loops, outcome⟩ := @compressEncode_run _ (Progress (BitVec 8)) (plainCoder (fun _ => []) lzssEncoded) _ _ _
    ⟨⟨[], [], false, true⟩, ⟨[], [], false, true⟩⟩ (fun _ => 0x41) (fun _ => 0) 1 2
    (plainCoder_streams lzssEncoded_streamable) (plainCoder_strict lzssEncoded_streamable) lzssEncoded_streamable
    ⟨rfl, List.prefix_rfl⟩ (by decide) (by decide)
  refine not_roundTrips_raw loops ?_ (by decide) (by decide)
  rintro ⟨clean, small⟩
  rcases outcome with ⟨failed, -⟩ | ⟨-, -, size, -⟩
  · rw [failed] at clean
    cases clean
  · omega

end Xtreme.Toolbox
