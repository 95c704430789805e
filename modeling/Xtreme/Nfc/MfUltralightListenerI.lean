import Xtreme.Nfc.MfUltralight

/-! The state of the listener that plays a MIFARE Ultralight or NTAG tag, and
the functions its commands share (`mf_ultralight_listener_i.c`).

The features and the pointers to the configuration and the lock bytes are set
once, from the type, and are functions of it here. The pages are read and
written through `readPage` and `writePage` only, which note every index in
`accesses`. What goes to the reader is collected in `sent`; both lists begin
anew with every event. What would be undefined in C, or never ends, is a
`MfUltralightFault`. The event callback of the application and the log are left
out. -/
namespace Xtreme.Nfc
open Xtreme.Library BitLib
open Effect (fault observe update)

inductive MfUltralightFault
  /-- An index past the pages of the image. -/
  | pageArray
  /-- A page past the array `pages` of a read handler. -/
  | readBuffer
  /-- More than `MF_ULTRALIGHT_LISTENER_MAX_TX_BUFF_SIZE` bytes to send. -/
  | transmitBuffer
  | moduloByZero
  | nullPointer
  | endlessLoop
  deriving DecidableEq, Repr

inductive PageAccess
  /-- Read to decide something. -/
  | consulted (page : Nat)
  /-- Read into a response. -/
  | copied (page : Nat)
  | written (page : Nat)
  deriving DecidableEq, Repr

def PageAccess.page : PageAccess → Nat
  | consulted page => page
  | copied page => page
  | written page => page

inductive MfUltralightListenerAccessType
  | read
  | write
  deriving DecidableEq, Repr

inductive MfUltralightListenerAuthState
  | idle
  | success
  deriving DecidableEq, Repr

inductive MfUltralightCommand
  | notFound
  | processed
  | processedACK
  | processedSilent
  | notProcessedNAK
  | notProcessedSilent
  | notProcessedAuthNAK
  deriving DecidableEq, Repr

inductive MfUltralightMirrorConf
  | none
  | uid
  | counter
  | uidCounter
  deriving DecidableEq, Repr

/-- The handlers that wait for the second frame of a command. -/
inductive MfUltralightCompositeHandler
  | compWriteP2
  | sectorSelectP2
  deriving DecidableEq, Repr

structure MfUltralightListenerCompositeCommandContext where
  data : BitVec 8
  callback : Option MfUltralightCompositeHandler
  deriving DecidableEq, Repr

/-- The numbers are bytes in the source. -/
structure MfUltralightMirrorMode where
  enabled : Bool
  asciiOffset : Nat
  asciiEnd : Nat
  mirrorLastPage : Nat
  actualMode : MfUltralightMirrorConf
  asciiMirrorData : List (BitVec 8)

inductive Reply
  /-- Whole bytes, sent with a checksum. -/
  | standardFrame (bytes : List (BitVec 8))
  /-- The four low bits of a byte. -/
  | shortFrame (data : BitVec 8)
  deriving DecidableEq, Repr

structure MfUltralightListener where
  authState : MfUltralightListenerAuthState
  data : MfUltralightData
  sector : BitVec 8
  singleCounterIncreased : Bool
  mirror : MfUltralightMirrorMode
  compositeCmd : MfUltralightListenerCompositeCommandContext
  sent : List Reply
  accesses : List PageAccess

abbrev ListenerM (α : Type) := Effect MfUltralightFault MfUltralightListener α

namespace MfUltralightListener
variable (instanc : MfUltralightListener)

def features : List MfUltralightFeatureSupport := mfUltralightGetFeatureSupportSet instanc.data.type

/-- The first page of `config`. -/
def config : Option Nat := mfUltralightGetConfigPage instanc.data.type

def accessed (access : PageAccess) : MfUltralightListener :=
  { instanc with accesses := instanc.accesses ++ [access] }

def setPage (index : Nat) (page : MfUltralightPage) : MfUltralightListener :=
  { instanc with data := { instanc.data with page := instanc.data.page.setIfInBounds index page } }

end MfUltralightListener

def supports (featuresToCheck : List MfUltralightFeatureSupport) : ListenerM Bool :=
  observe fun instanc => mfUltralightSupportFeature instanc.features featuresToCheck

def readPage (access : Nat → PageAccess) (index : Nat) : ListenerM MfUltralightPage := do
  update (·.accessed (access index))
  match ← observe (·.data.page[index]?) with
  | some page => pure page
  | none => fault .pageArray

def writePage (index : Nat) (page : MfUltralightPage) : ListenerM Unit := do
  update (·.accessed (.written index))
  if index < mfUltralightMaxPageNum then update (·.setPage index page) else fault .pageArray

def configByte (access : Nat → PageAccess) (offset : Nat) : ListenerM (BitVec 8) := do
  match ← observe (·.config) with
  | none => fault .nullPointer
  | some config => do
    let page ← readPage access (config + offset / 4)
    pure (byteAt page (offset % 4))

def configMirror : ListenerM (BitVec 8) := configByte .consulted 0

def configMirrorPage : ListenerM Nat := do
  let byte ← configByte .consulted 2
  pure byte.toNat

def configAuth0 : ListenerM Nat := do
  let byte ← configByte .consulted 3
  pure byte.toNat

def configAccess : ListenerM (BitVec 8) := configByte .consulted 4

def mirrorConf (mirror : BitVec 8) : MfUltralightMirrorConf :=
  match mirror.getLsbD 7, mirror.getLsbD 6 with
  | false, false => .none
  | false, true => .uid
  | true, false => .counter
  | true, true => .uidCounter

def mirrorByte (mirror : BitVec 8) : Nat := mirror.toNat / 16 % 4

def accessAuthlim (access : BitVec 8) : Nat := access.toNat % 8
def accessNfcCntPwdProt (access : BitVec 8) : Bool := access.getLsbD 3
def accessNfcCntEn (access : BitVec 8) : Bool := access.getLsbD 4
def accessCfglck (access : BitVec 8) : Bool := access.getLsbD 6
def accessProt (access : BitVec 8) : Bool := access.getLsbD 7

def mfUltralightMirrorCheckMode : ListenerM MfUltralightMirrorConf := do
  let mirror ← configMirror
  let mirrorMode := mirrorConf mirror
  if mirrorMode = .none ∨ mirrorMode = .uid then pure mirrorMode
  else do
    let access ← configAccess
    let authState ← observe (·.authState)
    if !accessNfcCntEn access || (accessNfcCntPwdProt access && authState ≠ .success) then
      pure (if mirrorMode = .counter then .none else .uid)
    else pure mirrorMode

def mirrorMaxPageOffset : MfUltralightMirrorConf → Nat
  | .none => 0
  | .uid => 3
  | .counter => 1
  | .uidCounter => 5

/-- The loop of `mf_ultralight_mirror_check_boundaries`. `again` is never taken
back, so a mirror past the end leaves the loop only if the mode was not changed;
the third round would repeat the second for ever. -/
def mirrorBoundariesLoop (lastUserPage : Nat) :
    (rounds : Nat) → (mode : MfUltralightMirrorConf) → (maxByteOffset : Nat) → (again : Bool) → ListenerM Bool
  | 0, _, _, _ => fault .endlessLoop
  | rounds + 1, mode, maxByteOffset, again =>
    if mode = .none then pure false
    else do
      let maxPageOffset := mirrorMaxPageOffset mode
      let maxByteOffset := if mode = .uidCounter then 3 else maxByteOffset
      update fun instanc => { instanc with mirror := { instanc.mirror with actualMode := mode } }
      let mirrorPage ← configMirrorPage
      if mirrorPage ≤ 3 then pure false
      else if mirrorPage < lastUserPage - maxPageOffset then pure true
      else if mirrorPage = lastUserPage - maxPageOffset then do
        let mirror ← configMirror
        pure (mirrorByte mirror ≤ maxByteOffset)
      else if mode = .uidCounter then mirrorBoundariesLoop lastUserPage rounds .uid maxByteOffset true
      else if again then mirrorBoundariesLoop lastUserPage rounds mode maxByteOffset again
      else pure false

def mfUltralightMirrorCheckBoundaries : ListenerM Bool := do
  let lastUserPage ← observe fun instanc => mfUltralightGetConfigPageNum instanc.data.type - 2
  let mode ← mfUltralightMirrorCheckMode
  mirrorBoundariesLoop lastUserPage 3 mode 2 false

def mfUltralightMirrorEnabled : ListenerM Bool := do
  let supported ← supports [.asciiMirror]
  let config ← observe (·.config)
  let enabled ← (if supported && config.isSome then mfUltralightMirrorCheckBoundaries else pure false)
  update fun instanc => { instanc with mirror := { instanc.mirror with enabled := enabled } }
  pure enabled

def mfUltralightGetMirrorDataSize : MfUltralightMirrorConf → Nat
  | .uid => 14
  | .counter => 6
  | .uidCounter => 21
  | .none => 0

def mfUltralightGetMirrorLastPage : ListenerM Nat := do
  let actualMode ← observe (·.mirror.actualMode)
  let mirrorPage ← configMirrorPage
  pure ((mirrorPage + 1 + mfUltralightGetMirrorDataSize actualMode / 4) % 256)

def mfUltralightGetAsciiOffset (startPage : Nat) : ListenerM Nat := do
  let mirror ← configMirror
  let startOffset := if mirrorConf mirror = .counter then 15 else 0
  let mirrorPage ← configMirrorPage
  if startPage > mirrorPage then
    pure (((startPage - mirrorPage) * 4 - mirrorByte mirror + startOffset) % 256)
  else pure startOffset

def mfUltralightGetAsciiEnd (mode : MfUltralightMirrorConf) : Nat := if mode = .uid then 14 else 21

def mfUltralightGetByteOffset (currentPage : Nat) : ListenerM Nat := do
  let mirrorPage ← configMirrorPage
  if currentPage > mirrorPage then pure 0
  else do
    let mirror ← configMirror
    pure (mirrorByte mirror)

/-- `%02X`. -/
def hexByte (byte : BitVec 8) : List (BitVec 8) :=
  [byte.toNat / 16, byte.toNat % 16].map fun digit =>
    BitVec.ofNat 8 (if digit < 10 then 0x30 + digit else 0x37 + digit)

def mfUltralightFormatMirrorData (data : List (BitVec 8)) : List (BitVec 8) := data.flatMap hexByte

def mfUltraligtMirrorFormatCounter (instanc : MfUltralightListener) : MfUltralightListener :=
  let kept := instanc.mirror.asciiMirrorData.take (instanc.data.iso14443_3aData.uidLen * 2 + 1)
  let counter := instanc.data.counter[2]
  let bytes := [counter.extractLsb' 16 8, counter.extractLsb' 8 8, counter.extractLsb' 0 8]
  { instanc with mirror := { instanc.mirror with
    asciiMirrorData := kept ++ mfUltralightFormatMirrorData bytes } }

def mfUltralightMirrorPrepareEmulation (instanc : MfUltralightListener) : MfUltralightListener :=
  let data := instanc.data.iso14443_3aData
  mfUltraligtMirrorFormatCounter { instanc with mirror := { instanc.mirror with
    asciiMirrorData := mfUltralightFormatMirrorData (data.uid.toList.take data.uidLen) ++ [0x78#8] } }

def mfUltralightMirrorReadPrepare (startPage : Nat) : ListenerM Unit := do
  let enabled ← mfUltralightMirrorEnabled
  if enabled then do
    let asciiOffset ← mfUltralightGetAsciiOffset startPage
    let actualMode ← observe (·.mirror.actualMode)
    let mirrorLastPage ← mfUltralightGetMirrorLastPage
    update fun instanc => { instanc with mirror := { instanc.mirror with
      asciiOffset := asciiOffset
      asciiEnd := mfUltralightGetAsciiEnd actualMode
      mirrorLastPage := mirrorLastPage } }
  else pure ()

/-- The page `dest` after the mirror, if the page is under it. The source reads
past the end of the mirror string if the UID is shorter than seven bytes; the
model gives zeros there. -/
def mfUltralightMirrorReadHandler (mirrorPageNum : Nat) (dest : MfUltralightPage) :
    ListenerM MfUltralightPage := do
  let mirror ← observe (·.mirror)
  if mirror.enabled then do
    let mirrorPage ← configMirrorPage
    if mirrorPage ≤ mirrorPageNum ∧ mirrorPageNum ≤ mirror.mirrorLastPage then do
      let byteOffset ← mfUltralightGetByteOffset mirrorPageNum
      let filled := (List.range' byteOffset (4 - byteOffset)).foldl (fun (filled : MfUltralightPage × Nat) j =>
        if filled.2 < mirror.asciiEnd then
          (filled.1.setIfInBounds j (mirror.asciiMirrorData.getD filled.2 0), filled.2 + 1)
        else filled) (dest, mirror.asciiOffset)
      update fun instanc => { instanc with mirror := { instanc.mirror with asciiOffset := filled.2 } }
      pure filled.1
    else pure dest
  else pure dest

def mfUltralightCompositeCommandReset : ListenerM Unit :=
  update fun instanc => { instanc with compositeCmd := ⟨0#8, none⟩ }

def mfUltralightCompositeCommandSetNext (handler : MfUltralightCompositeHandler) : ListenerM Unit :=
  update fun instanc => { instanc with compositeCmd := { instanc.compositeCmd with callback := some handler } }

def mfUltralightMaxCntrVal : BitVec 32 := 0x00FFFFFF#32

def mfUltralightSingleCounterTryIncrease : ListenerM Unit := do
  let supported ← supports [.singleCounter]
  if supported then do
    let access ← configAccess
    let increased ← observe (·.singleCounterIncreased)
    if accessNfcCntEn access && !increased then do
      update fun instanc =>
        if instanc.data.counter[2] < mfUltralightMaxCntrVal then
          mfUltraligtMirrorFormatCounter { instanc with data := { instanc.data with
            counter := instanc.data.counter.set 2 (instanc.data.counter[2] + 1) } }
        else instanc
      update fun instanc => { instanc with singleCounterIncreased := true }
    else pure ()
  else pure ()

def mfUltralightI2cPageOnSessionReg (page : Nat) : Bool := 0xEC ≤ page && page ≤ 0xED

def mfUltralightI2cPageOnMirroredSessionReg (page : Nat) : Bool := 0xF8 ≤ page && page ≤ 0xF9

def mfUltralightI2cPageValidatorForSector0 (startPage endPage : Nat) : MfUltralightType → Bool
  | .ntagI2CPlus1K | .ntagI2CPlus2K =>
    (startPage ≤ 0xE9 && endPage ≤ 0xE9) ||
      (mfUltralightI2cPageOnSessionReg startPage && mfUltralightI2cPageOnSessionReg endPage)
  | .ntagI2C1K => startPage ≤ 0xE2 || (0xE8 ≤ startPage && startPage ≤ 0xE9)
  | .ntagI2C2K => startPage ≤ 0xFF && endPage ≤ 0xFF
  | _ => false

def mfUltralightI2cPageValidatorForSector1 (startPage endPage : Nat) : MfUltralightType → Bool
  | .ntagI2CPlus2K => startPage ≤ 0xFF && endPage ≤ 0xFF
  | .ntagI2C2K => (0xE8 ≤ startPage && startPage ≤ 0xE9) || startPage ≤ 0xE0
  | _ => false

def mfUltralightI2cValidatePages (sector : BitVec 8) (type : MfUltralightType) (startPage endPage : Nat) :
    Bool :=
  match sector.toNat with
  | 0 => mfUltralightI2cPageValidatorForSector0 startPage endPage type
  | 1 => mfUltralightI2cPageValidatorForSector1 startPage endPage type
  | 2 => false
  | 3 => mfUltralightI2cPageOnMirroredSessionReg startPage
  | _ => false

def mfUltralightIsI2cTag (type : MfUltralightType) : Bool :=
  type = .ntagI2C1K || type = .ntagI2C2K || type = .ntagI2CPlus1K || type = .ntagI2CPlus2K

/-- `new_page` is a byte here, and two bytes in the other sectors. -/
def mfUltralightI2cPageProviderForSector0 (page : Nat) : MfUltralightType → Nat
  | .ntagI2CPlus1K | .ntagI2CPlus2K => if page = 0xEC then 234 else if page = 0xED then 235 else page % 256
  | .ntagI2C1K => if page = 0xE8 then 232 else if page = 0xE9 then 233 else page % 256
  | _ => page % 256

def mfUltralightI2cPageProviderForSector1 (page : Nat) : MfUltralightType → Nat
  | .ntagI2CPlus2K => page + 236
  | .ntagI2C2K => page + 256
  | _ => page

def mfUltralightI2cPageProviderForSector3 (page : Nat) : MfUltralightType → Nat
  | .ntagI2CPlus1K | .ntagI2CPlus2K => if page = 0xF8 then 234 else if page = 0xF9 then 235 else page
  | .ntagI2C1K => if page = 0xF8 then 227 else if page = 0xF9 then 228 else page
  | .ntagI2C2K => if page = 0xF8 then 481 else if page = 0xF9 then 482 else page
  | _ => page

def mfUltralightI2cProvidePageByRequested (sector : BitVec 8) (type : MfUltralightType) (page : Nat) : Nat :=
  match sector.toNat with
  | 0 => mfUltralightI2cPageProviderForSector0 page type
  | 1 => mfUltralightI2cPageProviderForSector1 page type
  | 3 => mfUltralightI2cPageProviderForSector3 page type
  | _ => page

def wordOfBytes (low high : BitVec 8) : BitVec 16 := high ++ low

def mfUltralightStaticLock : ListenerM (BitVec 16) := do
  let page ← readPage .consulted 2
  pure (wordOfBytes (byteAt page 2) (byteAt page 3))

def staticLockOtpCcMask : BitVec 16 := 0x0008#16
def staticLock9To4Mask : BitVec 16 := 0x03F0#16
def staticLock15To10Mask : BitVec 16 := 0xFC00#16

def mfUltralightStaticLockBits (currentLocks newBits : BitVec 16) : BitVec 16 :=
  let newBits := if currentLocks.getLsbD 0 then newBits &&& ~~~staticLockOtpCcMask else newBits
  let newBits := if currentLocks.getLsbD 1 then newBits &&& ~~~staticLock9To4Mask else newBits
  let newBits := if currentLocks.getLsbD 2 then newBits &&& ~~~staticLock15To10Mask else newBits
  currentLocks ||| newBits

/-- The bytes 2 and 3 of a page. -/
def storeStaticLock (page : MfUltralightPage) (locks : BitVec 16) : MfUltralightPage :=
  (page.set 2 (locks.extractLsb' 0 8)).set 3 (locks.extractLsb' 8 8)

def mfUltralightStaticLockBytesWrite (newBits : BitVec 16) : ListenerM Unit := do
  let page ← readPage .consulted 2
  let currentLocks := wordOfBytes (byteAt page 2) (byteAt page 3)
  writePage 2 (storeStaticLock page (mfUltralightStaticLockBits currentLocks newBits))

def mfUltralightStaticLockCheckPage (page : Nat) : ListenerM Bool :=
  if 3 ≤ page ∧ page ≤ 15 then do
    let currentLocks ← mfUltralightStaticLock
    pure (currentLocks.getLsbD page)
  else pure false

def mfUltralightCapabilityContainerWrite (page : Nat) (newData : MfUltralightPage) : ListenerM Unit := do
  let current ← readPage .consulted page
  writePage page (Vector.ofFn fun i => current[i] ||| newData[i])

def mfUltralightDynamicLockPageNum (type : MfUltralightType) : Nat :=
  if type = .ntagI2C1K then 226
  else if type = .ntagI2C2K then 480
  else mfUltralightGetConfigPageNum type - 1

def wordOfPage (page : MfUltralightPage) : BitVec 32 := page[3] ++ page[2] ++ page[1] ++ page[0]

def pageOfWord (word : BitVec 32) : MfUltralightPage :=
  #v[word.extractLsb' 0 8, word.extractLsb' 8 8, word.extractLsb' 16 8, word.extractLsb' 24 8]

/-- `dynamic_lock`, which is `NULL` for types without dynamic locks. -/
def mfUltralightDynamicLock : ListenerM (Option Nat) := do
  let supported ← supports [.dynamicLock]
  let type ← observe (·.data.type)
  pure (if supported then some (mfUltralightDynamicLockPageNum type) else none)

def linearPage (sector : BitVec 8) (page : Nat) : Nat := (page + sector.toNat * 256) % 65536

def mfUltralightIsPageDynamicLock (page : Nat) : ListenerM Bool := do
  let supported ← supports [.dynamicLock]
  if supported then do
    let sector ← observe (·.sector)
    let type ← observe (·.data.type)
    pure (linearPage sector page = mfUltralightDynamicLockPageNum type)
  else pure false

/-- The two lock bits that the block locking bit `i + 16` protects. -/
def dynamicLockMask (i : Nat) : BitVec 32 := (1#32 <<< (i * 2)) ||| (1#32 <<< (i * 2 + 1))

def mfUltralightDynamicLockBits (currentLock newBits : BitVec 32) : BitVec 32 :=
  let newBits := newBits &&& 0x00FFFFFF#32
  let newBits := (List.range 8).foldl (fun newBits i =>
    if currentLock.getLsbD (i + 16) then newBits &&& ~~~dynamicLockMask i else newBits) newBits
  currentLock ||| newBits

def mfUltralightDynamicLockBytesWrite (newBits : BitVec 32) : ListenerM Unit := do
  match ← mfUltralightDynamicLock with
  | none => fault .nullPointer
  | some lockPage => do
    let page ← readPage .consulted lockPage
    writePage lockPage (pageOfWord (mfUltralightDynamicLockBits (wordOfPage page) newBits))

def mfUltralightDynamicLockGranularity : MfUltralightType → Nat
  | .ul21 | .ntag213 => 2
  | .ntag215 | .ntag216 | .ntagI2C1K | .ntagI2CPlus1K => 16
  | .ntagI2C2K | .ntagI2CPlus2K => 32
  | _ => 1

/-- The last case wraps around in two bytes for a type without configuration. -/
def mfUltralightGetUpperPageBound (type : MfUltralightType) : Nat :=
  if type = .ntagI2CPlus2K then 511
  else if type = .ntagI2C2K then 479
  else if type = .ntagI2C1K then 225
  else (mfUltralightGetConfigPageNum type + 65534) % 65536

/-- `bit` is a byte, and only the first two bytes of the lock page are looked at. -/
def mfUltralightDynamicLockCheckPage (page : Nat) : ListenerM Bool := do
  let type ← observe (·.data.type)
  let sector ← observe (·.sector)
  let supported ← supports [.dynamicLock]
  let linear := linearPage sector page
  if supported ∧ 16 ≤ linear ∧ linear ≤ mfUltralightGetUpperPageBound type then
    match ← mfUltralightDynamicLock with
    | none => fault .nullPointer
    | some lockPage => do
      let bit := (linear - 16) / mfUltralightDynamicLockGranularity type % 256
      let locks ← readPage .consulted lockPage
      pure ((wordOfBytes locks[0] locks[1]).getLsbD bit)
  else pure false

/-- The limit is a power of two for the NTAG I2C Plus. -/
def authLimit (type : MfUltralightType) (authlim : Nat) : Nat :=
  if type = .ntagI2CPlus1K ∨ type = .ntagI2CPlus2K then 2 ^ authlim else authlim

def mfUltralightAuthCheckAttempts : ListenerM Bool := do
  let type ← observe (·.data.type)
  let access ← configAccess
  let attempts ← observe (·.data.authAttempts)
  pure (authLimit type (accessAuthlim access) ≤ attempts.toNat)

def mfUltralightAuthLimitCheckAndUpdate (authSuccess : Bool) : ListenerM Bool := do
  let access ← configAccess
  if accessAuthlim access = 0 then pure false
  else do
    let cardLocked ← mfUltralightAuthCheckAttempts
    if cardLocked then pure true
    else do
      update fun instanc => { instanc with data := { instanc.data with
        authAttempts := if authSuccess then 0#32 else instanc.data.authAttempts + 1#32 } }
      mfUltralightAuthCheckAttempts

end Xtreme.Nfc
