import Xtreme.Library.ByteMemory
import Xtreme.Library.Coder
import Xtreme.Library.Settling
import Mathlib.Algebra.Group.Int.Defs
import Mathlib.Algebra.GroupWithZero.Nat

/-! Compression with a header (`lib/toolbox/compress.c`). The coders come from a library that
is not part of the sources: they are parameters. Buffers are memory without an end, and
note up to where they were accessed. -/
namespace Xtreme.Toolbox
open Xtreme.Library

structure CallBuffer where
  memory : ByteMemory
  /-- One behind the last byte that was accessed. -/
  touched : Nat

namespace CallBuffer

/-- An access of no bytes is none. -/
def touch (buffer : CallBuffer) (place size : Nat) : CallBuffer :=
  if size = 0 then buffer else { buffer with touched := max buffer.touched (place + size) }

/-- `memcpy` to the buffer. -/
def store (buffer : CallBuffer) (place : Nat) (chunk : List (BitVec 8)) : CallBuffer :=
  { buffer.touch place chunk.length with memory := buffer.memory.store place chunk }

end CallBuffer

/-- A `size_t`. -/
def size32 (value : Int) : Nat := (value % 4294967296).toNat

def compressHeaderSize : Nat := 4

structure Compress (ε δ : Type) where
  encoder : ε
  decoder : δ

/-- The variables of a call that its loops change. -/
structure CompressRun (σ : Type) where
  coder : σ
  dataIn : CallBuffer
  dataOut : CallBuffer
  resBuffSize : Nat
  /-- The size of the last poll that did not fail. -/
  pollSize : Nat
  failed : Bool

section
variable {σ : Type} (coder : Coder σ (BitVec 8))

/-- `res_buff_size += poll_size`. -/
def CompressRun.wrote (run : CompressRun σ) (written : List (BitVec 8)) (next : σ) : CompressRun σ :=
  { run with
    coder := next, dataOut := run.dataOut.store run.resBuffSize written,
    resBuffSize := run.resBuffSize + written.length, pollSize := written.length }

/-- Polls while there is more, with the size that is offered behind so many bytes. -/
def pollLoop (offer : Nat → Nat) : Nat → CompressRun σ → Option (CompressRun σ)
  | 0, _ => none
  | fuel + 1, run =>
    match coder.poll run.coder (offer run.resBuffSize) with
    | (.error, _, next) => some { run with coder := next, failed := true }
    | (.empty, written, next) => some (run.wrote written next)
    | (.more, written, next) => pollLoop offer fuel (run.wrote written next)

def sinkLoop (accepts : SinkRes → Bool) (offer : Nat → Nat) (size : Nat) :
    Nat → Nat → CompressRun σ → Option (CompressRun σ)
  | 0, _, _ => none
  | fuel + 1, sunk, run =>
    if sunk < size ∧ run.failed = false then
      match coder.sink run.coder (run.dataIn.memory.bytes sunk (size - sunk)) with
      | (answer, count, next) =>
        if accepts answer then
          (pollLoop coder offer fuel { run with coder := next, dataIn := run.dataIn.touch sunk count }).bind
            (sinkLoop accepts offer size fuel (sunk + count))
        else some { run with coder := next, failed := true }
    else some run

end

/-- What a call leaves. The size of the result stays unset where decoding has no room. -/
structure CompressOutcome (ε δ : Type) where
  success : Bool
  dataResSize : Option Nat
  dataIn : CallBuffer
  dataOut : CallBuffer
  compress : Compress ε δ

section
variable {ε δ : Type} (encoder : Coder ε (BitVec 8)) (decoder : Coder δ (BitVec 8))

def compressReset (compress : Compress ε δ) : Compress ε δ :=
  ⟨encoder.reset compress.encoder, decoder.reset compress.decoder⟩

/-- Polls until the encoder is done; four bytes are left out of what is offered. -/
def encodeFinishLoop (dataOutSize : Nat) : Nat → CompressRun ε → Option (CompressRun ε)
  | 0, _ => none
  | fuel + 1, run =>
    match encoder.poll run.coder (size32 ((dataOutSize : Int) - 4 - run.resBuffSize)) with
    | (.error, _, next) => some { run with coder := next, failed := true }
    | (_, written, next) =>
      match encoder.finish next with
      | (.done, last) => some (run.wrote written last)
      | (_, last) => encodeFinishLoop dataOutSize fuel (run.wrote written last)

/-- The encoder is told that the input ends, also where an earlier call failed. -/
def encodeEnd (dataOutSize fuel : Nat) (run : CompressRun ε) : Option (CompressRun ε) :=
  match encoder.finish run.coder with
  | (.error, next) => some { run with coder := next, failed := true }
  | (_, next) => encodeFinishLoop encoder dataOutSize fuel { run with coder := next }

/-- All of the input is sunk, and what the encoder gives is behind the header. -/
def encodeLoops (dataInSize dataOutSize fuel : Nat) (run : CompressRun ε) : Option (CompressRun ε) :=
  (sinkLoop encoder (· == .ok) (fun size => size32 ((dataOutSize : Int) - size)) dataInSize fuel 0 run).bind
    (encodeEnd encoder dataOutSize fuel)

/-- The header of encoded data: a mark, a reserved byte and a size of 16 bits. -/
def compressHeader (resBuffSize : Nat) : List (BitVec 8) :=
  [1, 0, BitVec.ofNat 8 resBuffSize, BitVec.ofNat 8 (resBuffSize / 256)]

/-- Encoded data if that is shorter, or else a mark and the data, if there is room. -/
def encodeResult (dataInSize dataOutSize : Nat) (compress : Compress ε δ) (run : CompressRun ε) : CompressOutcome ε δ :=
  if run.failed = false ∧ run.resBuffSize < dataInSize + 1 then
    ⟨true, some run.resBuffSize, run.dataIn, run.dataOut.store 0 (compressHeader run.resBuffSize), compress⟩
  else if dataInSize < dataOutSize then
    ⟨true, some (dataInSize + 1), run.dataIn.touch 0 dataInSize,
      (run.dataOut.store 0 [0]).store 1 (run.dataIn.memory.bytes 0 dataInSize), compress⟩
  else ⟨false, some 0, run.dataIn, run.dataOut, compress⟩

def compressEncode (fuel : Nat) (compress : Compress ε δ) (dataIn : CallBuffer) (dataInSize : Nat) (dataOut : CallBuffer)
    (dataOutSize : Nat) : Option (CompressOutcome ε δ) :=
  (encodeLoops encoder dataInSize dataOutSize fuel
    ⟨compress.encoder, dataIn, dataOut, compressHeaderSize, 0, false⟩).map fun run =>
      encodeResult dataInSize dataOutSize (compressReset encoder decoder { compress with encoder := run.coder }) run

/-- Polls until the decoder is done. A poll that fails leaves its size, which is counted again. -/
def decodeFinishLoop (dataOutSize : Nat) : Nat → CompressRun δ → Option (CompressRun δ)
  | 0, _ => none
  | fuel + 1, run =>
    let polled : CompressRun δ :=
      match decoder.poll run.coder dataOutSize with
      | (.error, _, next) => { run with coder := next, resBuffSize := run.resBuffSize + run.pollSize }
      | (_, written, next) => run.wrote written next
    match decoder.finish polled.coder with
    | (.done, last) => some { polled with coder := last }
    | (_, last) => decodeFinishLoop dataOutSize fuel { polled with coder := last }

/-- What the header says of the size. -/
def compressedBuffSize (memory : ByteMemory) : Nat := (memory 2).toNat + 256 * (memory 3).toNat

def decodeEnd (dataOutSize fuel : Nat) (run : CompressRun δ) : Option (CompressRun δ) :=
  if run.failed then some run
  else
    match decoder.finish run.coder with
    | (.error, next) => some { run with coder := next, failed := true }
    | (_, next) => decodeFinishLoop decoder dataOutSize fuel { run with coder := next }

def decodeLoops (compressedSize dataOutSize fuel : Nat) (run : CompressRun δ) : Option (CompressRun δ) :=
  (sinkLoop decoder (· != .error) (fun _ => dataOutSize) compressedSize fuel compressHeaderSize run).bind
    (decodeEnd decoder dataOutSize fuel)

def compressDecode (fuel : Nat) (compress : Compress ε δ) (dataIn : CallBuffer) (dataInSize : Nat) (dataOut : CallBuffer)
    (dataOutSize : Nat) : Option (CompressOutcome ε δ) :=
  if dataIn.memory 0 ≠ 0 then
    (decodeLoops decoder (compressedBuffSize dataIn.memory) dataOutSize fuel
      ⟨compress.decoder, (dataIn.touch 0 1).touch 2 2, dataOut, 0, 0, false⟩).map fun run =>
        ⟨!run.failed, some run.resBuffSize, run.dataIn, run.dataOut,
          compressReset encoder decoder { compress with decoder := run.coder }⟩
  else if size32 ((dataInSize : Int) - 1) ≤ dataOutSize then
    some ⟨true, some (size32 ((dataInSize : Int) - 1)), (dataIn.touch 0 1).touch 1 dataInSize,
      dataOut.store 0 (dataIn.memory.bytes 1 dataInSize), compressReset encoder decoder compress⟩
  else some ⟨false, none, dataIn.touch 0 1, dataOut, compressReset encoder decoder compress⟩

end
end Xtreme.Toolbox
