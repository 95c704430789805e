import Xtreme.Flipper.FlipperFormat
import Xtreme.Nfc.Iso15693

/-! The file of an ISO15693-3 card (`iso15693_3.c`). `debug` says whether the build
has `furi_assert`. There is memory for every array; what is left of an object when a
load is refused is not modelled. -/
namespace Xtreme.Nfc
open Xtreme.Library Xtreme.Flipper BitLib
open Effect (fault observe update)

def iso15693_3DsfidKey : Text := "DSFID".toList
def iso15693_3AfiKey : Text := "AFI".toList
def iso15693_3IcRefKey : Text := "IC Reference".toList
def iso15693_3BlockCountKey : Text := "Block Count".toList
def iso15693_3BlockSizeKey : Text := "Block Size".toList
def iso15693_3DataContentKey : Text := "Data Content".toList
def iso15693_3LockDsfidKey : Text := "Lock DSFID".toList
def iso15693_3LockAfiKey : Text := "Lock AFI".toList
def iso15693_3SecurityStatusKey : Text := "Security Status".toList

def iso15693_3SysinfoFlagDsfid : BitVec 8 := 1#8
def iso15693_3SysinfoFlagAfi : BitVec 8 := 2#8
def iso15693_3SysinfoFlagMemory : BitVec 8 := 4#8
def iso15693_3SysinfoFlagIcRef : BitVec 8 := 8#8

def iso15693_3LockDsfidLegacy : BitVec 8 := 1#8
def iso15693_3LockAfiLegacy : BitVec 8 := 2#8

def iso15693_3Alloc (uid : Bytes 8) : Iso15693_3Data where
  uid
  systemInfo := ⟨0, 0, 0, 0, 0, 0⟩
  lockBits := ⟨false, false⟩
  blockData := []
  blockSecurity := []

/-- `simple_array_init` of bytes. An allocation of no bytes stops the firmware. -/
def simpleArrayInit (count : Nat) : LoadM (List (BitVec 8)) :=
  if count = 0 then fault .crashed else pure (List.replicate count 0)

/-- `flipper_format_read_hex` over a whole array: what is read replaces its start. -/
def readHexArray (key : Text) (array : List (BitVec 8)) : LoadM (List (BitVec 8)) := do
  let data ← flipperFormatReadHex key array.length
  pure (data ++ array.drop data.length)

def storeInfo (flag : BitVec 8) (store : BitVec 8 → Iso15693_3SystemInfo → Iso15693_3SystemInfo)
    (data : Iso15693_3Data) (byte : BitVec 8) : Iso15693_3Data :=
  { data with systemInfo := store byte { data.systemInfo with flags := data.systemInfo.flags ||| flag } }

def iso15693_3LoadInfo (key : Text) (flag : BitVec 8)
    (store : BitVec 8 → Iso15693_3SystemInfo → Iso15693_3SystemInfo) (data : Iso15693_3Data) : LoadM Iso15693_3Data := do
  if ← flipperFormatKeyExist key then
    let byte ← flipperFormatReadHexByte key
    pure (storeInfo flag store data byte)
  else pure data

def iso15693_3LoadDsfid : Iso15693_3Data → LoadM Iso15693_3Data :=
  iso15693_3LoadInfo iso15693_3DsfidKey iso15693_3SysinfoFlagDsfid fun dsfid info => { info with dsfid }

def iso15693_3LoadAfi : Iso15693_3Data → LoadM Iso15693_3Data :=
  iso15693_3LoadInfo iso15693_3AfiKey iso15693_3SysinfoFlagAfi fun afi info => { info with afi }

def iso15693_3LoadIcRef : Iso15693_3Data → LoadM Iso15693_3Data :=
  iso15693_3LoadInfo iso15693_3IcRefKey iso15693_3SysinfoFlagIcRef fun icRef info => { info with icRef }

def iso15693_3LoadSystemInfo (data : Iso15693_3Data) : LoadM Iso15693_3Data := do
  let data ← iso15693_3LoadDsfid data
  let data ← iso15693_3LoadAfi data
  iso15693_3LoadIcRef data

def iso15693_3HasLockBits : LoadM Bool := do
  let dsfid ← flipperFormatKeyExist iso15693_3LockDsfidKey
  let afi ← flipperFormatKeyExist iso15693_3LockAfiKey
  pure (dsfid && afi)

def iso15693_3LoadLockBits (hasLockBits : Bool) (data : Iso15693_3Data) : LoadM Iso15693_3Data := do
  if hasLockBits then
    let dsfid ← flipperFormatReadBool iso15693_3LockDsfidKey
    let afi ← flipperFormatReadBool iso15693_3LockAfiKey
    pure { data with lockBits := ⟨dsfid, afi⟩ }
  else pure data

def iso15693_3HasMemory : LoadM Bool := do
  let count ← flipperFormatKeyExist iso15693_3BlockCountKey
  let size ← flipperFormatKeyExist iso15693_3BlockSizeKey
  pure (count && size)

/-- The count, the size and the data of the blocks. The count is cut to 16 bits. -/
def iso15693_3LoadBlocks (data : Iso15693_3Data) : LoadM Iso15693_3Data := do
  let blockCount ← flipperFormatReadUint32 iso15693_3BlockCountKey
  let blockSize ← flipperFormatReadHexByte iso15693_3BlockSizeKey
  let systemInfo :=
    { data.systemInfo with
      blockCount := blockCount.setWidth 16
      flags := data.systemInfo.flags ||| iso15693_3SysinfoFlagMemory
      blockSize }
  let array ← simpleArrayInit (systemInfo.blockSize.toNat * systemInfo.blockCount.toNat)
  let blockData ← readHexArray iso15693_3DataContentKey array
  pure { data with systemInfo, blockData }

/-- The array of the caller is copied to the data from the file and not the other
way round, so the bytes of the blocks are lost. -/
def iso15693_3LoadSecurityLegacy (data : Iso15693_3Data) : LoadM Iso15693_3Data := do
  match ← flipperFormatGetValueCount iso15693_3SecurityStatusKey with
  | none => fault .refused
  | some valueCount =>
    if data.blockSecurity.length + 1 ≠ valueCount then fault .refused
    else
      let legacyData ← readHexArray iso15693_3SecurityStatusKey (List.replicate valueCount 0)
      let locks := legacyData.headD 0
      pure { data with
        lockBits := ⟨locks &&& iso15693_3LockDsfidLegacy ≠ 0, locks &&& iso15693_3LockAfiLegacy ≠ 0⟩ }

def iso15693_3LoadSecurity (data : Iso15693_3Data) : LoadM Iso15693_3Data := do
  match ← flipperFormatGetValueCount iso15693_3SecurityStatusKey with
  | none => fault .refused
  | some valueCount =>
    if data.blockSecurity.length ≠ valueCount then fault .refused
    else
      let blockSecurity ← readHexArray iso15693_3SecurityStatusKey data.blockSecurity
      pure { data with blockSecurity }

def iso15693_3LoadMemory (hasLockBits : Bool) (data : Iso15693_3Data) : LoadM Iso15693_3Data := do
  let data ← iso15693_3LoadBlocks data
  if ← flipperFormatKeyExist iso15693_3SecurityStatusKey then
    let blockSecurity ← simpleArrayInit data.blockCount
    let data := { data with blockSecurity }
    if hasLockBits then iso15693_3LoadSecurity data else iso15693_3LoadSecurityLegacy data
  else pure data

def iso15693_3Load (data : Iso15693_3Data) : LoadM Iso15693_3Data := do
  let data ← iso15693_3LoadSystemInfo data
  let hasLockBits ← iso15693_3HasLockBits
  let data ← iso15693_3LoadLockBits hasLockBits data
  if ← iso15693_3HasMemory then iso15693_3LoadMemory hasLockBits data else pure data

def iso15693_3SaveInfo (flags flag : BitVec 8) (comment : String) (key : Text) (byte : BitVec 8) : List Line :=
  if flags &&& flag ≠ 0 then [flipperFormatWriteCommentCstr comment, flipperFormatWriteHex key [byte]] else []

def iso15693_3SaveSystemInfo (info : Iso15693_3SystemInfo) : List Line :=
  iso15693_3SaveInfo info.flags iso15693_3SysinfoFlagDsfid "Data Storage Format Identifier" iso15693_3DsfidKey
      info.dsfid ++
    iso15693_3SaveInfo info.flags iso15693_3SysinfoFlagAfi "Application Family Identifier" iso15693_3AfiKey info.afi ++
    iso15693_3SaveInfo info.flags iso15693_3SysinfoFlagIcRef "IC Reference - Vendor specific meaning"
      iso15693_3IcRefKey info.icRef

def iso15693_3SaveLockBits (lockBits : Iso15693_3LockBits) : List Line :=
  [flipperFormatWriteCommentCstr "Lock Bits",
    flipperFormatWriteBool iso15693_3LockDsfidKey lockBits.dsfid,
    flipperFormatWriteBool iso15693_3LockAfiKey lockBits.afi]

def iso15693_3SaveMemory (data : Iso15693_3Data) : List Line :=
  [flipperFormatWriteCommentCstr "Number of memory blocks, valid range = 1..256",
    flipperFormatWriteUint32 iso15693_3BlockCountKey (data.systemInfo.blockCount.setWidth 32),
    flipperFormatWriteCommentCstr "Size of a single memory block, valid range = 01...20 (hex)",
    flipperFormatWriteHex iso15693_3BlockSizeKey [data.systemInfo.blockSize],
    flipperFormatWriteHex iso15693_3DataContentKey data.blockData,
    flipperFormatWriteCommentCstr "Block Security Status: 01 = locked, 00 = not locked",
    flipperFormatWriteHex iso15693_3SecurityStatusKey data.blockSecurity]

/-- A build that asserts stops at an array that has no data. -/
def iso15693_3Save (debug : Bool) (data : Iso15693_3Data) : Except LoadStop (List Line) :=
  let head := flipperFormatWriteCommentCstr "ISO15693-3 specific data" ::
    iso15693_3SaveSystemInfo data.systemInfo ++ iso15693_3SaveLockBits data.lockBits
  if data.systemInfo.flags &&& iso15693_3SysinfoFlagMemory ≠ 0 then
    if debug ∧ (data.blockData = [] ∨ data.blockSecurity = []) then .error .crashed
    else .ok (head ++ iso15693_3SaveMemory data)
  else .ok head

end Xtreme.Nfc
