import Xtreme.Nfc.MfUltralight

/-! The data of a MIFARE Classic card and its access rules (`mf_classic.c`).
Numbers of blocks and sectors are bytes in the source; they are natural numbers
here, and every block number that comes in is below 256. -/
namespace Xtreme.Nfc
open BitLib

inductive MfClassicType
  | mini
  | type1k
  | type4k
  deriving DecidableEq, Repr

inductive MfClassicKeyType
  | a
  | b
  deriving DecidableEq, Repr

inductive MfClassicAction
  | dataRead
  | dataWrite
  | dataInc
  | dataDec
  | keyARead
  | keyAWrite
  | keyBRead
  | keyBWrite
  | acRead
  | acWrite
  deriving DecidableEq, Repr

inductive MfClassicValueCommand
  | increment
  | decrement
  | restore
  | invalid
  deriving DecidableEq, Repr

structure MfClassicFeatures where
  sectorsTotal : Nat
  blocksTotal : Nat
  fullName : String
  typeName : String

def mfClassicFeatures : MfClassicType → MfClassicFeatures
  | .mini => ⟨5, 20, "Mifare Classic Mini 0.3K", "MINI"⟩
  | .type1k => ⟨16, 64, "Mifare Classic 1K", "1K"⟩
  | .type4k => ⟨40, 256, "Mifare Classic 4K", "4K"⟩

def mfClassicGetTotalBlockNum (type : MfClassicType) : Nat := (mfClassicFeatures type).blocksTotal

abbrev MfClassicBlock := Bytes 16

abbrev mfClassicTotalBlocksMax : Nat := 256

structure MfClassicData where
  iso14443_3aData : Iso14443_3aData
  type : MfClassicType
  blockReadMask : Vector (BitVec 32) 8
  keyAMask : BitVec 64
  keyBMask : BitVec 64
  block : Vector MfClassicBlock mfClassicTotalBlocksMax

def MfClassicData.blockAt (data : MfClassicData) (blockNum : Nat) : MfClassicBlock :=
  (data.block[blockNum]?).getD (Vector.replicate 16 0#8)

def mfClassicGetSectorTrailerNumBySector (sector : Nat) : Nat :=
  if sector < 32 then sector * 4 + 3 else 32 * 4 + (sector - 32) * 16 + 15

def mfClassicGetSectorTrailerNumByBlock (block : Nat) : Nat :=
  if block < 128 then block ||| 0x03 else block ||| 0x0f

def mfClassicIsSectorTrailer (block : Nat) : Bool := block = mfClassicGetSectorTrailerNumByBlock block

def mfClassicGetSectorByBlock (block : Nat) : Nat :=
  if block < 128 then (block ||| 0x03) / 4 else 32 + ((block ||| 0x0f) - 32 * 4) / 16

def mfClassicGetSectorTrailerBySector (data : MfClassicData) (sector : Nat) : MfClassicBlock :=
  data.blockAt (mfClassicGetSectorTrailerNumBySector sector)

/-- The four bytes from `start` on, the first of them the lowest. -/
def blockWord (block : MfClassicBlock) (start : Nat) : BitVec 32 :=
  byteAt block (start + 3) ++ byteAt block (start + 2) ++ byteAt block (start + 1) ++ byteAt block start

def mfClassicBlockToValue (block : MfClassicBlock) : Bool × BitVec 32 :=
  let v := blockWord block 0
  let vInv := blockWord block 4
  let v1 := blockWord block 8
  (v = v1 && v = ~~~vInv && byteAt block 12 = ~~~byteAt block 13 && byteAt block 14 = ~~~byteAt block 15 &&
    byteAt block 12 = byteAt block 14, v)

def mfClassicValueToBlock (value : BitVec 32) (addr : BitVec 8) : MfClassicBlock :=
  let bytes (word : BitVec 32) := [word.extractLsb' 0 8, word.extractLsb' 8 8, word.extractLsb' 16 8, word.extractLsb' 24 8]
  let content := bytes value ++ bytes (~~~value) ++ bytes value ++ [addr, ~~~addr, addr, ~~~addr]
  Vector.ofFn fun i => content.getD i 0

/-- The three access bits of a group of blocks, the sector trailer being the last
group. The first is in byte 7 of the trailer, the other two are in byte 8. -/
def accessCondition (secTr : MfClassicBlock) (group : Nat) : BitVec 8 :=
  let bits1 := byteAt secTr 7
  let bits2 := byteAt secTr 8
  match group with
  | 0 => (bits1 >>> 2 &&& 0x04#8) ||| (bits2 <<< 1 &&& 0x02#8) ||| (bits2 >>> 4 &&& 0x01#8)
  | 1 => (bits1 >>> 3 &&& 0x04#8) ||| (bits2 >>> 0 &&& 0x02#8) ||| (bits2 >>> 5 &&& 0x01#8)
  | 2 => (bits1 >>> 4 &&& 0x04#8) ||| (bits2 >>> 1 &&& 0x02#8) ||| (bits2 >>> 6 &&& 0x01#8)
  | _ => (bits1 >>> 5 &&& 0x04#8) ||| (bits2 >>> 2 &&& 0x02#8) ||| (bits2 >>> 7 &&& 0x01#8)

def mfClassicIsAllowedAccessSectorTrailer (data : MfClassicData) (blockNum : Nat) (keyType : MfClassicKeyType)
    (action : MfClassicAction) : Bool :=
  let sectorNum := mfClassicGetSectorByBlock blockNum
  let ac := accessCondition (mfClassicGetSectorTrailerBySector data sectorNum) 3
  match action, keyType with
  | .keyARead, _ => false
  | .keyAWrite, .a | .keyBWrite, .a => ac = 0x00#8 || ac = 0x01#8
  | .keyAWrite, .b | .keyBWrite, .b => ac = 0x00#8 || ac = 0x04#8 || ac = 0x03#8 || ac = 0x01#8
  | .keyBRead, _ => ac = 0x00#8 || ac = 0x02#8 || ac = 0x01#8
  | .acRead, _ => true
  | .acWrite, .a => ac = 0x01#8
  | .acWrite, .b => ac = 0x01#8 || ac = 0x03#8 || ac = 0x05#8
  | _, _ => false

def mfClassicIsAllowedAccessDataBlock (secTr : MfClassicBlock) (blockNum : Nat) (keyType : MfClassicKeyType)
    (action : MfClassicAction) : Bool :=
  if blockNum = 0 ∧ action = .dataWrite then false
  else
    let sectorBlock := if blockNum ≤ 128 then blockNum &&& 0x03 else (blockNum &&& 0x0f) / 5
    if 2 < sectorBlock then false
    else
      let ac := accessCondition secTr sectorBlock
      match action, keyType with
      | .dataRead, .a => !(ac = 0x03#8 || ac = 0x05#8 || ac = 0x07#8)
      | .dataRead, .b => !(ac = 0x07#8)
      | .dataWrite, .a => ac = 0x00#8
      | .dataWrite, .b => ac = 0x00#8 || ac = 0x04#8 || ac = 0x06#8 || ac = 0x03#8
      | .dataInc, .a => ac = 0x00#8
      | .dataInc, .b => ac = 0x00#8 || ac = 0x06#8
      | .dataDec, _ => ac = 0x00#8 || ac = 0x06#8 || ac = 0x01#8
      | _, _ => false

def mfClassicIsAllowedAccess (data : MfClassicData) (blockNum : Nat) (keyType : MfClassicKeyType)
    (action : MfClassicAction) : Bool :=
  if mfClassicIsSectorTrailer blockNum then
    mfClassicIsAllowedAccessSectorTrailer data blockNum keyType action
  else
    let sectorNum := mfClassicGetSectorByBlock blockNum
    mfClassicIsAllowedAccessDataBlock (mfClassicGetSectorTrailerBySector data sectorNum) blockNum keyType action

end Xtreme.Nfc
