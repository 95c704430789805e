import Xtreme.Toolbox.BitBuffer

/-! The stream cipher of MIFARE Classic (`crypto1.c`) and the generator of its
nonces. The register is kept in two words that change roles with every bit; only
24 bits of each matter, and the others are carried along. -/
namespace Xtreme.Nfc
open BitLib Toolbox

structure Crypto1 where
  odd : BitVec 32
  even : BitVec 32
  deriving DecidableEq, Repr

def crypto1Reset : Crypto1 := ⟨0#32, 0#32⟩

def bit32 (bit : Bool) : BitVec 32 := (BitVec.ofBool bit).setWidth 32

/-- The rounds of the loop over `i` from 47 down to 1. -/
def crypto1Init (key : BitVec 64) : Crypto1 :=
  (List.range 24).foldl (fun crypto1 round =>
    let i := 47 - 2 * round
    { odd := crypto1.odd <<< 1 ||| bit32 (key.getLsbD ((i - 1) ^^^ 7))
      even := crypto1.even <<< 1 ||| bit32 (key.getLsbD (i ^^^ 7)) }) crypto1Reset

def crypto1Filter (input : BitVec 32) : Bool :=
  let out := (0xf22c0#32 >>> (input &&& 0xf#32)) &&& 16#32
  let out := out ||| ((0x6c9c0#32 >>> (input >>> 4 &&& 0xf#32)) &&& 8#32)
  let out := out ||| ((0x3c8b0#32 >>> (input >>> 8 &&& 0xf#32)) &&& 4#32)
  let out := out ||| ((0x1e458#32 >>> (input >>> 12 &&& 0xf#32)) &&& 2#32)
  let out := out ||| ((0x0d938#32 >>> (input >>> 16 &&& 0xf#32)) &&& 1#32)
  (0xEC57E80A#32).getLsbD out.toNat

def nfcUtilEvenParity32 (data : BitVec 32) : Bool :=
  (List.range 32).foldl (fun parity i => parity ^^ data.getLsbD i) false

def lfPolyOdd : BitVec 32 := 0x29CE5C#32
def lfPolyEven : BitVec 32 := 0x870804#32

/-- The key stream bit, and the register after it. -/
def crypto1Bit (crypto1 : Crypto1) (input isEncrypted : Bool) : Bool × Crypto1 :=
  let out := crypto1Filter crypto1.odd
  let feed := bit32 (out && isEncrypted)
  let feed := feed ^^^ bit32 input
  let feed := feed ^^^ (lfPolyOdd &&& crypto1.odd)
  let feed := feed ^^^ (lfPolyEven &&& crypto1.even)
  let even := crypto1.even <<< 1 ||| bit32 (nfcUtilEvenParity32 feed)
  (out, { odd := even, even := crypto1.odd })

def crypto1Byte (crypto1 : Crypto1) (input : BitVec 8) (isEncrypted : Bool) : BitVec 8 × Crypto1 :=
  (List.range 8).foldl (fun run i =>
    let (bit, crypto1) := crypto1Bit run.2 (input.getLsbD i) isEncrypted
    (run.1 ||| (BitVec.ofBool bit).setWidth 8 <<< i, crypto1)) (0#8, crypto1)

/-- The bytes of a word are taken from the high end, the bits of each from the low one. -/
def crypto1Word (crypto1 : Crypto1) (input : BitVec 32) (isEncrypted : Bool) : BitVec 32 × Crypto1 :=
  (List.range 32).foldl (fun run i =>
    let (bit, crypto1) := crypto1Bit run.2 (input.getLsbD (i ^^^ 24)) isEncrypted
    (run.1 ||| bit32 bit <<< (24 ^^^ i), crypto1)) (0#32, crypto1)

def swapEndian (x : BitVec 32) : BitVec 32 :=
  let x := (x >>> 8 &&& 0xff00ff#32) ||| (x &&& 0xff00ff#32) <<< 8
  x >>> 16 ||| x <<< 16

def prngStep (x : BitVec 32) : BitVec 32 :=
  x >>> 1 ||| (x >>> 16 ^^^ x >>> 18 ^^^ x >>> 19 ^^^ x >>> 21) <<< 31

def prngRun (x : BitVec 32) : (n : Nat) → BitVec 32
  | 0 => x
  | n + 1 => prngRun (prngStep x) n

def prngSuccessor (x : BitVec 32) (n : Nat) : BitVec 32 := swapEndian (prngRun (swapEndian x) n)

def crypto1Stream (crypto1 : Crypto1) : (data : List (BitVec 8 × BitVec 8)) → List (BitVec 8) × Crypto1
  | [] => ([], crypto1)
  | (byte, input) :: rest =>
    let (keystream, crypto1) := crypto1Byte crypto1 input false
    let (bytes, crypto1) := crypto1Stream crypto1 rest
    ((keystream ^^^ byte) :: bytes, crypto1)

/-- `count` bits of a byte with the key stream added. -/
def crypto1Bits (crypto1 : Crypto1) (byte : BitVec 8) (count : Nat) : BitVec 8 × Crypto1 :=
  (List.range count).foldl (fun run i =>
    let (bit, crypto1) := crypto1Bit run.2 false false
    (run.1 ||| (BitVec.ofBool (bit ^^ byte.getLsbD i)).setWidth 8 <<< i, crypto1)) (0#8, crypto1)

/-- The result is put over what `out` holds: a last byte that is not whole stays
as it was. A frame of fewer than eight bits is taken to have four. -/
def crypto1Decrypt (crypto : Crypto1) (buff out : BitBuffer) : BitBuffer × Crypto1 :=
  if buff.sizeBits < 8 then
    let (byte, crypto) := crypto1Bits crypto (buff.byte 0) 4
    (⟨out.data.set 0 byte, buff.sizeBits⟩, crypto)
  else
    let count := buff.sizeBits / 8
    let (bytes, crypto) := crypto1Stream crypto ((buff.bytes count).map fun byte => (byte, 0#8))
    (⟨bytes ++ out.data.drop count, buff.sizeBits⟩, crypto)

/-- Nothing is read of the result but what is written here. -/
def crypto1Encrypt (crypto : Crypto1) (keystream : Option (Bytes 4)) (buff : BitBuffer) : BitBuffer × Crypto1 :=
  if buff.sizeBits < 8 then
    let (byte, crypto) := crypto1Bits crypto (buff.byte 0) buff.sizeBits
    (⟨[byte], buff.sizeBits⟩, crypto)
  else
    let inputs := match keystream with
      | some keystream => keystream.toList
      | none => List.replicate (buff.sizeBits / 8) 0#8
    let (bytes, crypto) := crypto1Stream crypto ((buff.bytes (buff.sizeBits / 8)).zip inputs)
    (⟨bytes, buff.sizeBits⟩, crypto)

/-- `bit_lib_bytes_to_num_be`. -/
def bitLibBytesToNumBe (bytes : List (BitVec 8)) : BitVec 64 :=
  bytes.foldl (fun num byte => num <<< 8 ||| byte.setWidth 64) 0#64

/-- `bit_lib_num_to_bytes_be` of a word. -/
def bitLibNumToBytesBe (num : BitVec 32) : Bytes 4 :=
  #v[num.extractLsb' 24 8, num.extractLsb' 16 8, num.extractLsb' 8 8, num.extractLsb' 0 8]

def wordBe (bytes : Bytes 4) : BitVec 32 := (bitLibBytesToNumBe bytes.toList).setWidth 32

end Xtreme.Nfc
