import Xtreme.Nfc.Iso15693Listener

/-! The image of a SLIX card (`slix.h`, `slix_i.h`, `slix.c`, `slix_i.c`): an
ISO15693-3 card with passwords. The names and keys of the saved file are left out. -/
namespace Xtreme.Nfc
open BitLib

def slixBlockSize : Nat := 4

def slixCounterBlockNum : Nat := 79

inductive SlixError
  | none
  | timeout
  | format
  | notSupported
  | internal
  | wrongPassword
  | uidMismatch
  | unknown
  deriving DecidableEq, Repr

inductive SlixType
  | slix
  | slixS
  | slixL
  | slix2
  | unknown
  deriving DecidableEq, Repr

inductive SlixPasswordType
  | read
  | write
  | privacy
  | destroy
  | easAfi
  deriving DecidableEq, Repr

abbrev SlixPassword := BitVec 32

abbrev SlixTypeFeatures := BitVec 32

structure SlixProtection where
  pointer : BitVec 8
  condition : BitVec 8
  deriving DecidableEq, Repr

structure SlixLockBits where
  eas : Bool
  ppl : Bool
  deriving DecidableEq, Repr

structure SlixSystemInfo where
  protection : SlixProtection
  lockBits : SlixLockBits
  deriving DecidableEq, Repr

structure SlixData where
  iso15693_3Data : Iso15693_3Data
  systemInfo : SlixSystemInfo
  signature : Bytes 32
  passwords : SlixPasswordType → SlixPassword
  privacy : Bool

/-- The type of a card, by the manufacturer and the serial number in its UID. -/
def slixGetType (data : Iso15693_3Data) : SlixType :=
  if iso15693_3GetManufacturerId data ≠ 0x04#8 then .unknown
  else
    let icodeType := byteAt data.uid 2
    let typeIndicator := (byteAt data.uid 3).extractLsb' 3 2
    if icodeType = 0x01#8 then
      if typeIndicator = 2#2 then .slix else if typeIndicator = 1#2 then .slix2 else .unknown
    else if icodeType = 0x02#8 then .slixS
    else if icodeType = 0x03#8 then .slixL
    else .unknown

/-- `slix_type_features`, which has no entry for an unknown type: `outside` is
what is read behind its end. -/
def slixTypeFeatures (outside : SlixTypeFeatures) : SlixType → SlixTypeFeatures
  | .slix => 0x10#32
  | .slixS => 0x1F#32
  | .slixL => 0x1C#32
  | .slix2 => 0xFF#32
  | .unknown => outside

def SlixPasswordType.featureFlag : SlixPasswordType → SlixTypeFeatures
  | read => 0x01#32
  | write => 0x02#32
  | privacy => 0x04#32
  | destroy => 0x08#32
  | easAfi => 0x10#32

def slixTypeSupportsPassword (outside : SlixTypeFeatures) (type : SlixType) (passwordType : SlixPasswordType) :
    Bool :=
  slixTypeFeatures outside type &&& passwordType.featureFlag ≠ 0#32

/-- The function takes the low byte of the number that it is given. -/
def slixIsBlockProtected (blockCount : Nat) (protection : SlixProtection) (passwordType : SlixPasswordType)
    (blockNum : Nat) : Bool :=
  let blockNum := blockNum % 256
  if passwordType ≠ .read ∧ passwordType ≠ .write then false
  else if blockCount ≤ blockNum then false
  else if blockNum = slixCounterBlockNum then false
  else
    let high := decide (protection.pointer.toNat ≤ blockNum)
    let read := decide (passwordType = .read)
    -- `SLIX_PP_CONDITION_RH`, `_WH`, `_RL`, `_WL`
    let condition := if high then if read then 0x10#8 else 0x20#8 else if read then 0x01#8 else 0x02#8
    protection.condition &&& condition ≠ 0#8

def slixCounterByte (data : Iso15693_3Data) (outside : Nat → BitVec 8) (index : Nat) : BitVec 8 :=
  let place := data.blockOffset slixCounterBlockNum + index
  data.blockData.getD place (outside place)

def slixIsCounterIncrementProtected (data : Iso15693_3Data) (outside : Nat → BitVec 8) : Bool :=
  slixCounterByte data outside 3 ≠ 0#8

/-- The four bytes of the counter, with a value that is one more. -/
def slixCounterIncremented (data : Iso15693_3Data) (outside : Nat → BitVec 8) : List (BitVec 8) :=
  let byte := slixCounterByte data outside
  let value : BitVec 16 := byte 1 ++ byte 0
  let next := value + 1#16
  [next.setWidth 8, (next >>> 8).setWidth 8, byte 2, byte 3]

/-- Four bytes are written in any case; what goes behind the array is not modelled. -/
def slixIncrementCounter (data : Iso15693_3Data) (outside : Nat → BitVec 8) : Iso15693_3Data :=
  let place := data.blockOffset slixCounterBlockNum
  { data with
    blockData := (data.blockData.take place ++ slixCounterIncremented data outside ++
      data.blockData.drop (place + slixBlockSize)).take data.blockData.length }

namespace SlixData
variable (data : SlixData)

def Protected (passwordType : SlixPasswordType) (blockNum : Nat) : Prop :=
  slixIsBlockProtected data.iso15693_3Data.blockCount data.systemInfo.protection passwordType blockNum = true

/-- An image that a SLIX card can have: its blocks have `SLIX_BLOCK_SIZE` bytes,
and the array has a place for each of them. -/
structure Fits : Prop where
  size : data.iso15693_3Data.blockSize = slixBlockSize
  blockData : data.iso15693_3Data.blockData.length = data.iso15693_3Data.blockCount * slixBlockSize

def withPages (bytes : List (BitVec 8)) : SlixData :=
  { data with iso15693_3Data := { data.iso15693_3Data with blockData := bytes } }

end SlixData
end Xtreme.Nfc
