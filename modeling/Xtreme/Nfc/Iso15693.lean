import Xtreme.BitLib.BitLib

/-! The image of an ISO15693-3 card (`iso15693_3.h`, `iso15693_3.c`). Keys and
texts of the saved file are left out. -/
namespace Xtreme.Nfc
open BitLib

def iso15693_3UidSize : Nat := 8

inductive Iso15693_3Error
  | none
  | notPresent
  | bufferEmpty
  | bufferOverflow
  | fieldOff
  | wrongCrc
  | timeout
  | format
  | ignore
  | notSupported
  | uidMismatch
  | fullyHandled
  | unexpectedResponse
  | internal
  | custom
  | unknown
  deriving DecidableEq, Repr

structure Iso15693_3SystemInfo where
  flags : BitVec 8
  dsfid : BitVec 8
  afi : BitVec 8
  icRef : BitVec 8
  blockCount : BitVec 16
  blockSize : BitVec 8
  deriving DecidableEq, Repr

structure Iso15693_3LockBits where
  dsfid : Bool
  afi : Bool
  deriving DecidableEq, Repr

/-- The lock bits are the only settings. The two arrays have the length they
were made with: `blockSecurity` is empty when the file or the card told nothing. -/
structure Iso15693_3Data where
  uid : Bytes 8
  systemInfo : Iso15693_3SystemInfo
  lockBits : Iso15693_3LockBits
  blockData : List (BitVec 8)
  blockSecurity : List (BitVec 8)
  deriving DecidableEq, Repr

namespace Iso15693_3Data
variable (data : Iso15693_3Data)

def blockCount : Nat := data.systemInfo.blockCount.toNat

def blockSize : Nat := data.systemInfo.blockSize.toNat

/-- The place in `blockData` of the first byte of a block. -/
def blockOffset (block : Nat) : Nat := block * data.blockSize

def block (index : Nat) : List (BitVec 8) := (data.blockData.drop (data.blockOffset index)).take data.blockSize

def HasBlock (index : Nat) : Prop :=
  data.blockOffset index < data.blockData.length ∧ data.blockOffset index + data.blockSize ≤ data.blockData.length

instance (index : Nat) : Decidable (data.HasBlock index) := inferInstanceAs (Decidable (_ ∧ _))

/-- What `iso15693_3_is_block_locked` answers of a block of the card. -/
def isLocked (index : Nat) : Bool := !data.blockSecurity.isEmpty && data.blockSecurity.getD index 0 ≠ 0

def setBlock (index : Nat) (bytes : List (BitVec 8)) : Iso15693_3Data :=
  { data with
    blockData := data.blockData.take (data.blockOffset index) ++ bytes ++
      data.blockData.drop (data.blockOffset index + data.blockSize) }

def setLocked (index : Nat) : Iso15693_3Data := { data with blockSecurity := data.blockSecurity.set index 1 }

/-- An image that a card can have: a block number is a byte, a block has at most
32 bytes, and the arrays have a place for every block. -/
structure Fits : Prop where
  count : data.blockCount ≤ 256
  size : data.blockSize ≤ 32
  blockData : data.blockData.length = data.blockCount * data.blockSize
  blockSecurity : data.blockSecurity = [] ∨ data.blockSecurity.length = data.blockCount

end Iso15693_3Data

def iso15693_3UidBytes (data : Iso15693_3Data) : List (BitVec 8) := data.uid.toList.reverse

def iso15693_3GetManufacturerId (data : Iso15693_3Data) : BitVec 8 := byteAt data.uid 1

end Xtreme.Nfc
