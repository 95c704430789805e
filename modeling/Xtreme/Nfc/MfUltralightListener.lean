import Xtreme.Nfc.MfUltralightListenerI

/-! The commands of the listener and its reaction to events
(`mf_ultralight_listener.c`). A frame is the bytes of a received frame whose
checksum was right, without the checksum. -/
namespace Xtreme.Nfc
open Xtreme.Library BitLib
open Effect (fault observe update)

abbrev Frame := List (BitVec 8)

/-- `bit_buffer_get_byte`. -/
def Frame.byte (frame : Frame) (index : Nat) : BitVec 8 := frame.getD index 0

/-- The four bytes from `index` on. -/
def Frame.page (frame : Frame) (index : Nat) : MfUltralightPage :=
  #v[frame.byte index, frame.byte (index + 1), frame.byte (index + 2), frame.byte (index + 3)]

/-- The first test of `check_access`: the page is protected, and the password
was not given. -/
def accessNeedsPassword (startPage : Nat) (isWriteOp : Bool) : ListenerM Bool := do
  let authState ← observe (·.authState)
  if authState = .success then pure false
  else do
    let auth0 ← configAuth0
    if auth0 ≤ startPage then do
      let access ← configAccess
      pure (accessProt access || isWriteOp)
    else pure false

/-- Its second test: the page is one of the two that `cfglck` locks, as the
source counts them from the end. -/
def accessConfigLocked (startPage : Nat) (isWriteOp : Bool) : ListenerM Bool := do
  let access ← configAccess
  let pagesTotal ← observe (·.data.pagesTotal)
  let configPageStart := (pagesTotal + 65532) % 65536
  pure ((accessCfglck access && isWriteOp) && (startPage = configPageStart || startPage = configPageStart + 1))

def mfUltralightListenerCheckAccess (startPage : Nat) (accessType : MfUltralightListenerAccessType) :
    ListenerM Bool := do
  let isWriteOp := accessType == .write
  let supported ← supports [.passwordAuth]
  if !supported then pure true
  else do
    let refused ← accessNeedsPassword startPage isWriteOp
    if refused then pure false
    else do
      let locked ← accessConfigLocked startPage isWriteOp
      pure !locked

def iso14443_3aListenerTx (reply : Reply) : ListenerM Unit :=
  update fun instanc => { instanc with sent := instanc.sent ++ [reply] }

def mfUltralightListenerSendShortResp (data : BitVec 8) : ListenerM Unit :=
  iso14443_3aListenerTx (.shortFrame data)

/-- Copies the bytes to `tx_buffer` and sends them. -/
def sendStandardFrame (bytes : List (BitVec 8)) : ListenerM Unit := do
  if bytes.length > 256 then fault .transmitBuffer
  else iso14443_3aListenerTx (.standardFrame bytes)

def zeroPage : MfUltralightPage := Vector.replicate 4 0#8

/-- What one round of `perform_read` puts into `pages[i]`, and `rollover` after it. -/
def mfUltralightReadOnePage (page rollover : Nat) (doI2cPageCheck : Bool) :
    ListenerM (MfUltralightPage × Nat) := do
  let allowed ← mfUltralightListenerCheckAccess page .read
  let type ← observe (·.data.type)
  let sector ← observe (·.sector)
  if doI2cPageCheck && !mfUltralightI2cValidatePages sector type page page then
    pure (zeroPage, rollover)
  else if mfUltralightIsPagePwdOrPack type page then pure (zeroPage, rollover)
  else do
    let page := if doI2cPageCheck then mfUltralightI2cProvidePageByRequested sector type page else page
    let pagesTotal ← observe (·.data.pagesTotal)
    if allowed && pagesTotal = 0 then fault .moduloByZero
    else do
      let index := if allowed then page % pagesTotal else rollover
      let content ← readPage .copied index
      let content ← mfUltralightMirrorReadHandler (index % 256) content
      pure (content, if allowed then rollover else rollover + 1)

/-- The loop of `perform_read` from round `i` on; `capacity` is the size of `pages`. -/
def mfUltralightReadLoop (capacity startPage : Nat) (doI2cPageCheck : Bool) :
    (rounds i rollover : Nat) → ListenerM (List (BitVec 8))
  | 0, _, _ => pure []
  | rounds + 1, i, rollover =>
    if capacity ≤ i then fault .readBuffer
    else do
      let read ← mfUltralightReadOnePage (startPage + i) rollover doI2cPageCheck
      let rest ← mfUltralightReadLoop capacity startPage doI2cPageCheck rounds (i + 1) read.2
      pure (read.1.toList ++ rest)

def mfUltralightListenerPerformRead (capacity startPage pageCnt : Nat) (doI2cPageCheck : Bool) :
    ListenerM (List (BitVec 8)) := do
  mfUltralightMirrorReadPrepare startPage
  let pages ← mfUltralightReadLoop capacity startPage doI2cPageCheck pageCnt 0 0
  mfUltralightSingleCounterTryIncrease
  pure pages

def mfUltralightListenerReadPageHandler (buffer : Frame) : ListenerM MfUltralightCommand := do
  let startPage := (buffer.byte 1).toNat
  let pagesTotal ← observe (·.data.pagesTotal)
  let type ← observe (·.data.type)
  let sector ← observe (·.sector)
  let doI2cCheck := mfUltralightIsI2cTag type
  if doI2cCheck && !mfUltralightI2cValidatePages sector type startPage startPage then
    pure .notProcessedNAK
  else if !doI2cCheck && pagesTotal < startPage then pure .notProcessedNAK
  else do
    let allowed ← mfUltralightListenerCheckAccess startPage .read
    if !allowed then pure .notProcessedNAK
    else do
      let pages ← mfUltralightListenerPerformRead 4 startPage 4 doI2cCheck
      sendStandardFrame pages
      pure .processed

def mfUltralightListenerFastReadHandler (buffer : Frame) : ListenerM MfUltralightCommand := do
  let supported ← supports [.fastRead]
  if !supported then pure .notProcessedSilent
  else do
    let pagesTotal ← observe (·.data.pagesTotal)
    let startPage := (buffer.byte 1).toNat
    let endPage := (buffer.byte 2).toNat
    let type ← observe (·.data.type)
    let sector ← observe (·.sector)
    let doI2cCheck := mfUltralightIsI2cTag type
    if doI2cCheck && !mfUltralightI2cValidatePages sector type startPage endPage then
      pure .notProcessedNAK
    else if !doI2cCheck && (endPage : Int) > (pagesTotal : Int) - 1 then pure .notProcessedNAK
    else if endPage < startPage then pure .notProcessedNAK
    else do
      let startAllowed ← mfUltralightListenerCheckAccess startPage .read
      if !startAllowed then pure .notProcessedNAK
      else do
        let endAllowed ← mfUltralightListenerCheckAccess endPage .read
        if !endAllowed then pure .notProcessedNAK
        else do
          -- `page_cnt` is a byte.
          let pageCnt := (endPage - startPage + 1) % 256
          let pages ← mfUltralightListenerPerformRead 64 startPage pageCnt doI2cCheck
          sendStandardFrame pages
          pure .processed

def mfUltralightListenerPerformWrite (rxData : MfUltralightPage) (startPage : Nat) (doI2cCheck : Bool) :
    ListenerM MfUltralightCommand := do
  let sector ← observe (·.sector)
  if startPage < 2 ∧ sector = 0 then pure .notProcessedNAK
  else if startPage = 2 ∧ sector = 0 then do
    mfUltralightStaticLockBytesWrite (wordOfBytes (byteAt rxData 2) (byteAt rxData 3))
    pure .processedACK
  else if startPage = 3 ∧ sector = 0 then do
    mfUltralightCapabilityContainerWrite startPage rxData
    pure .processedACK
  else do
    let isLock ← mfUltralightIsPageDynamicLock startPage
    if isLock then do
      mfUltralightDynamicLockBytesWrite (wordOfPage rxData)
      pure .processedACK
    else do
      let type ← observe (·.data.type)
      let page :=
        if doI2cCheck then mfUltralightI2cProvidePageByRequested sector type startPage else startPage
      writePage page rxData
      pure .processedACK

/-- The three checks that both write commands make, in this order, and answer
with a NAK. -/
def writeRefused (startPage : Nat) : ListenerM Bool := do
  let allowed ← mfUltralightListenerCheckAccess startPage .write
  if !allowed then pure true
  else do
    let staticLocked ← mfUltralightStaticLockCheckPage startPage
    if staticLocked then pure true else mfUltralightDynamicLockCheckPage startPage

def mfUltralightListenerWritePageHandler (buffer : Frame) : ListenerM MfUltralightCommand := do
  let startPage := (buffer.byte 1).toNat
  let pagesTotal ← observe (·.data.pagesTotal)
  let type ← observe (·.data.type)
  let sector ← observe (·.sector)
  let doI2cCheck := mfUltralightIsI2cTag type
  if doI2cCheck && !mfUltralightI2cValidatePages sector type startPage startPage then
    pure .notProcessedNAK
  else if !doI2cCheck && pagesTotal < startPage then pure .notProcessedNAK
  else do
    let refused ← writeRefused startPage
    if refused then pure .notProcessedNAK
    else mfUltralightListenerPerformWrite (buffer.page 2) startPage doI2cCheck

def mfUltralightListenerFastWriteHandler (buffer : Frame) : ListenerM MfUltralightCommand := do
  let supported ← supports [.fastWrite]
  if !supported then pure .notProcessedSilent
  else if buffer.byte 1 ≠ 0xF0#8 ∨ buffer.byte 2 ≠ 0xFF#8 then pure .notProcessedNAK
  else pure .processedACK

def mfUltralightCompWriteHandlerP2 (buffer : Frame) : ListenerM MfUltralightCommand := do
  if buffer.length ≠ 16 then pure .notProcessedNAK
  else do
    let startPage ← observe (·.compositeCmd.data)
    mfUltralightListenerPerformWrite (buffer.page 0) startPage.toNat false

def mfUltralightCompWriteHandlerP1 (buffer : Frame) : ListenerM MfUltralightCommand := do
  let supported ← supports [.compatibleWrite]
  if !supported then pure .notProcessedSilent
  else do
    let startPage := (buffer.byte 1).toNat
    let pagesTotal ← observe (·.data.pagesTotal)
    let lastPage := (pagesTotal + 65535) % 65536
    if startPage < 2 ∨ startPage > lastPage then pure .notProcessedNAK
    else do
      let refused ← writeRefused startPage
      if refused then pure .notProcessedNAK
      else do
        update fun instanc => { instanc with compositeCmd := { instanc.compositeCmd with
          data := buffer.byte 1 } }
        mfUltralightCompositeCommandSetNext .compWriteP2
        pure .processedACK

def mfUltralightListenerReadVersionHandler (_ : Frame) : ListenerM MfUltralightCommand := do
  let supported ← supports [.readVersion]
  if supported then do
    let version ← observe (·.data.version)
    sendStandardFrame version.toList
    pure .processed
  else pure .notProcessedSilent

def mfUltralightListenerReadSignatureHandler (_ : Frame) : ListenerM MfUltralightCommand := do
  let supported ← supports [.readSignature]
  if supported then do
    let signature ← observe (·.data.signature)
    sendStandardFrame signature.toList
    pure .processed
  else pure .notProcessedSilent

def mfUltralightSingleCounterRefused (counterNum : Nat) : ListenerM Bool := do
  let supported ← supports [.singleCounter]
  if !supported then pure false
  else do
    let config ← observe (·.config)
    if config.isNone then pure true
    else do
      let access ← configAccess
      let authState ← observe (·.authState)
      pure ((!accessNfcCntEn access || counterNum ≠ 2) || (accessNfcCntPwdProt access && authState ≠ .success))

def mfUltralightListenerReadCounterHandler (buffer : Frame) : ListenerM MfUltralightCommand := do
  let counterNum := (buffer.byte 1).toNat
  let supported ← supports [.readCounter]
  if !supported then pure .notProcessedNAK
  else do
    let refused ← mfUltralightSingleCounterRefused counterNum
    if refused then pure .notProcessedNAK
    else do
      let counter ← observe (·.data.counter[counterNum]?)
      match counter with
      | none => pure .notProcessedNAK
      | some counter => do
        sendStandardFrame [counter.extractLsb' 0 8, counter.extractLsb' 8 8, counter.extractLsb' 16 8]
        pure .processed

def mfUltralightListenerIncreaseCounterHandler (buffer : Frame) : ListenerM MfUltralightCommand := do
  let supported ← supports [.incCounter]
  if !supported then pure .notProcessedSilent
  else do
    let counterNum := (buffer.byte 1).toNat
    let counter ← observe (·.data.counter[counterNum]?)
    match counter with
    | none => pure .notProcessedNAK
    | some counter =>
      if counter = mfUltralightMaxCntrVal then pure .processed
      else do
        let incrValue := 0#8 ++ buffer.byte 4 ++ buffer.byte 3 ++ buffer.byte 2
        if counter + incrValue > mfUltralightMaxCntrVal then pure .notProcessedNAK
        else do
          update fun instanc => { instanc with data := { instanc.data with
            counter := instanc.data.counter.setIfInBounds counterNum (counter + incrValue) } }
          pure .processedACK

def mfUltralightListenerCheckTearingHandler (buffer : Frame) : ListenerM MfUltralightCommand := do
  let tearingFlagNum := (buffer.byte 1).toNat
  let supported ← supports [.checkTearingFlag, .singleCounter]
  if !supported then pure .notProcessedNAK
  else do
    let single ← supports [.singleCounter]
    if single && tearingFlagNum ≠ 2 then pure .notProcessedNAK
    else do
      let flag ← observe (·.data.tearingFlag[tearingFlagNum]?)
      match flag with
      | none => pure .notProcessedNAK
      | some flag => do
        sendStandardFrame [flag]
        pure .processed

def mfUltralightListenerVcslHandler (_ : Frame) : ListenerM MfUltralightCommand := do
  let supported ← supports [.vcsl]
  let config ← observe (·.config)
  if !supported || config.isNone then pure .notProcessedSilent
  else do
    let vctid ← configByte .copied 5
    sendStandardFrame [vctid]
    pure .processed

def mfUltralightAuthCheckPassword (authPass : MfUltralightPage) : ListenerM Bool := do
  let byte0 ← configByte .consulted 8
  let byte1 ← configByte .consulted 9
  let byte2 ← configByte .consulted 10
  let byte3 ← configByte .consulted 11
  pure (#v[byte0, byte1, byte2, byte3] = authPass)

def mfUltralightListenerAuthHandler (buffer : Frame) : ListenerM MfUltralightCommand := do
  let supported ← supports [.passwordAuth]
  if !supported then pure .notProcessedNAK
  else do
    let authSuccess ← mfUltralightAuthCheckPassword (buffer.page 1)
    let cardLocked ← mfUltralightAuthLimitCheckAndUpdate authSuccess
    if cardLocked then pure .notProcessedAuthNAK
    else if !authSuccess then pure .notProcessedNAK
    else do
      let pack0 ← configByte .copied 12
      let pack1 ← configByte .copied 13
      update fun instanc => { instanc with authState := .success }
      sendStandardFrame [pack0, pack1]
      pure .processed

def mfUltralightSectorSelectHandlerP2 (buffer : Frame) : ListenerM MfUltralightCommand := do
  if buffer.length ≠ 4 then pure .notProcessedNAK
  else if buffer.byte 0 = 0xFF#8 then pure .notProcessedNAK
  else do
    update fun instanc => { instanc with sector := buffer.byte 0 }
    pure .processedSilent

def mfUltralightSectorSelectHandlerP1 (buffer : Frame) : ListenerM MfUltralightCommand := do
  let supported ← supports [.sectorSelect]
  if !supported && buffer.byte 1 = 0xFF#8 then pure .notProcessedNAK
  else do
    mfUltralightCompositeCommandSetNext .sectorSelectP2
    pure .processedACK

structure MfUltralightListenerCmdHandler where
  cmd : BitVec 8
  cmdLenBits : Nat
  callback : Frame → ListenerM MfUltralightCommand

def mfUltralightCommand : List MfUltralightListenerCmdHandler :=
  [⟨0x30#8, 2 * 8, mfUltralightListenerReadPageHandler⟩, ⟨0x3A#8, 3 * 8, mfUltralightListenerFastReadHandler⟩,
    ⟨0xA2#8, 6 * 8, mfUltralightListenerWritePageHandler⟩,
    ⟨0xA6#8, 67 * 8, mfUltralightListenerFastWriteHandler⟩,
    ⟨0x60#8, 8, mfUltralightListenerReadVersionHandler⟩,
    ⟨0x3C#8, 2 * 8, mfUltralightListenerReadSignatureHandler⟩,
    ⟨0x39#8, 2 * 8, mfUltralightListenerReadCounterHandler⟩,
    ⟨0x3E#8, 2 * 8, mfUltralightListenerCheckTearingHandler⟩,
    ⟨0x1B#8, 5 * 8, mfUltralightListenerAuthHandler⟩,
    ⟨0xA5#8, 6 * 8, mfUltralightListenerIncreaseCounterHandler⟩,
    ⟨0xC2#8, 2 * 8, mfUltralightSectorSelectHandlerP1⟩,
    ⟨0xA0#8, 2 * 8, mfUltralightCompWriteHandlerP1⟩,
    ⟨0x4B#8, 21 * 8, mfUltralightListenerVcslHandler⟩]

/-- The loop over the commands: handlers whose length and code fit are called
until one finds its command. -/
def runCommands (buffer : Frame) : List MfUltralightListenerCmdHandler → ListenerM MfUltralightCommand
  | [] => pure .notFound
  | handler :: rest =>
    if buffer.length * 8 ≠ handler.cmdLenBits then runCommands buffer rest
    else if buffer.byte 0 ≠ handler.cmd then runCommands buffer rest
    else do
      let mfuCommand ← handler.callback buffer
      if mfuCommand ≠ .notFound then pure mfuCommand else runCommands buffer rest

def mfUltralightCompositeHandler : MfUltralightCompositeHandler → Frame → ListenerM MfUltralightCommand
  | .compWriteP2 => mfUltralightCompWriteHandlerP2
  | .sectorSelectP2 => mfUltralightSectorSelectHandlerP2

def mfUltralightCompositeCommandRun (handler : MfUltralightCompositeHandler) (buffer : Frame) :
    ListenerM MfUltralightCommand := do
  let command ← mfUltralightCompositeHandler handler buffer
  mfUltralightCompositeCommandReset
  pure command

def mfUltralightCommandPostprocess (mfuCommand : MfUltralightCommand) : ListenerM NfcCommand := do
  match mfuCommand with
  | .processedACK => do
    mfUltralightListenerSendShortResp 0x0A#8
    pure .continue
  | .processedSilent => pure .reset
  | .processed => pure .continue
  | _ => do
    update fun instanc => { instanc with authState := .idle }
    match mfuCommand with
    | .notProcessedNAK => do
      mfUltralightListenerSendShortResp 0x00#8
      pure .sleep
    | .notProcessedAuthNAK => do
      mfUltralightListenerSendShortResp 0x04#8
      pure .sleep
    | _ => pure .sleep

inductive Iso14443_3aListenerEvent
  /-- A frame with a right checksum, which is taken off. -/
  | receivedStandardFrame (buffer : Frame)
  | receivedData (buffer : Frame)
  | fieldOff
  | halted
  deriving DecidableEq, Repr

def mfUltralightSingleCounterTryToUnlock (event : Iso14443_3aListenerEvent) : ListenerM Unit := do
  let supported ← supports [.singleCounter]
  if supported ∧ event = .fieldOff then
    update fun instanc => { instanc with singleCounterIncreased := false }
  else pure ()

def mfUltralightResetListenerState (event : Iso14443_3aListenerEvent) : ListenerM NfcCommand := do
  mfUltralightCompositeCommandReset
  mfUltralightSingleCounterTryToUnlock event
  update fun instanc => { instanc with sector := 0#8, authState := .idle }
  pure .sleep

def mfUltralightListenerHandleFrame (buffer : Frame) : ListenerM MfUltralightCommand := do
  match ← observe (·.compositeCmd.callback) with
  | some handler => mfUltralightCompositeCommandRun handler buffer
  | none => runCommands buffer mfUltralightCommand

def mfUltralightListenerRun (event : Iso14443_3aListenerEvent) : ListenerM NfcCommand := do
  update fun instanc => { instanc with sent := [], accesses := [] }
  match event with
  | .receivedStandardFrame buffer => do
    let mfuCommand ← mfUltralightListenerHandleFrame buffer
    mfUltralightCommandPostprocess mfuCommand
  | event => mfUltralightResetListenerState event

def mfUltralightListenerAlloc (data : MfUltralightData) : MfUltralightListener :=
  mfUltralightMirrorPrepareEmulation {
    authState := .idle
    data := data
    sector := 0#8
    singleCounterIncreased := false
    mirror := ⟨false, 0, 0, 0, .none, []⟩
    compositeCmd := ⟨0#8, none⟩
    sent := []
    accesses := [] }

end Xtreme.Nfc
