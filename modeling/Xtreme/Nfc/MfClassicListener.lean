import Xtreme.Nfc.MfClassic
import Xtreme.Nfc.Crypto1
import Xtreme.Nfc.IsoCrc

/-! The listener that plays a MIFARE Classic card (`mf_classic_listener.c`).

The nonce that `furi_hal_random_fill_buf` draws is an argument of every event.
What goes to the reader is collected in `sent`, which begins anew with every
event. `rxPlainBuffer` is kept from one frame to the next, as the last byte of a
frame that is not whole shows what was there before. The events for the
application and the log are left out. -/
namespace Xtreme.Nfc
open Xtreme.Library BitLib Toolbox
open Effect (fault observe update)

inductive MfClassicFault
  /-- A frame that is longer than `MF_CLASSIC_MAX_BUFF_SIZE`. -/
  | rxPlainBuffer
  /-- A handler past the end of those of its command. -/
  | handlerArray
  deriving DecidableEq, Repr

inductive MfClassicListenerCommand
  | processed
  | ack
  | nack
  | silent
  | sleep
  deriving DecidableEq, Repr

inductive MfClassicListenerState
  | idle
  | authComplete
  deriving DecidableEq, Repr

inductive MfClassicListenerCommState
  | plain
  | encrypted
  deriving DecidableEq, Repr

structure MfClassicAuthContext where
  blockNum : BitVec 8
  keyType : MfClassicKeyType
  nt : Bytes 4
  nr : Bytes 4
  ar : Bytes 4
  at_ : Bytes 4
  deriving DecidableEq, Repr

/-- All bytes zero. -/
def emptyAuthContext : MfClassicAuthContext :=
  ⟨0#8, .a, Vector.replicate 4 0#8, Vector.replicate 4 0#8, Vector.replicate 4 0#8, Vector.replicate 4 0#8⟩

structure MfClassicListener where
  state : MfClassicListenerState
  commState : MfClassicListenerCommState
  data : MfClassicData
  rxPlainBuffer : BitBuffer
  crypto : Crypto1
  authContext : MfClassicAuthContext
  writeBlock : BitVec 8
  transferValue : BitVec 32
  transferValid : Bool
  valueCmd : MfClassicValueCommand
  cmdInProgress : Bool
  currentCmdIdx : Nat
  currentCmdHandlerIdx : Nat
  totalBlockNum : Nat
  sent : List BitBuffer

abbrev ClassicM (α : Type) := Effect MfClassicFault MfClassicListener α

def mfClassicMaxBuffSize : Nat := 64

def mfClassicListenerResetState (instanc : MfClassicListener) : MfClassicListener :=
  { instanc with
    crypto := crypto1Reset
    authContext := emptyAuthContext
    commState := .plain
    state := .idle
    cmdInProgress := false
    currentCmdHandlerIdx := 0
    writeBlock := 0#8
    transferValue := 0#32
    transferValid := false
    valueCmd := .invalid }

def iso14443_3aGetCuid (data : Iso14443_3aData) : BitVec 32 :=
  let start := if data.uidLen = 7 then 3 else 0
  byteAt data.uid start ++ byteAt data.uid (start + 1) ++ byteAt data.uid (start + 2) ++ byteAt data.uid (start + 3)

def classicTx (buffer : BitBuffer) : ClassicM Unit :=
  update fun instanc => { instanc with sent := instanc.sent ++ [buffer] }

def classicEncryptTx (keystream : Option (Bytes 4)) (buffer : BitBuffer) : ClassicM Unit := do
  let crypto ← observe (·.crypto)
  let encrypted := crypto1Encrypt crypto keystream buffer
  update fun instanc => { instanc with crypto := encrypted.2 }
  classicTx encrypted.1

def awaitNextHandler : ClassicM Unit :=
  update fun instanc => { instanc with
    cmdInProgress := true
    currentCmdHandlerIdx := instanc.currentCmdHandlerIdx + 1 }

def trailerKey (secTr : MfClassicBlock) : MfClassicKeyType → BitVec 64
  | .a => bitLibBytesToNumBe (secTr.toList.take 6)
  | .b => bitLibBytesToNumBe (secTr.toList.drop 10)

/-! ## Handlers -/

def mfClassicListenerHaltHandler (buff : BitBuffer) : ClassicM MfClassicListenerCommand :=
  pure (if buff.byte 1 = 0x00#8 then .sleep else .nack)

def mfClassicListenerAuthFirstPartHandler (nt : Bytes 4) (keyType : MfClassicKeyType) (blockNum : BitVec 8) :
    ClassicM MfClassicListenerCommand := do
  update fun instanc => { instanc with state := .idle }
  let totalBlockNum ← observe (·.totalBlockNum)
  if totalBlockNum ≤ blockNum.toNat then pure .nack
  else do
    let data ← observe (·.data)
    let secTr := mfClassicGetSectorTrailerBySector data (mfClassicGetSectorByBlock blockNum.toNat)
    let keyNum := trailerKey secTr keyType
    let cuid := iso14443_3aGetCuid data.iso14443_3aData
    update fun instanc => { instanc with authContext := { instanc.authContext with
      keyType := keyType, blockNum := blockNum, nt := nt } }
    let ntNum := wordBe nt
    update fun instanc => { instanc with crypto := crypto1Init keyNum }
    let commState ← observe (·.commState)
    (if commState = .plain then do
      update fun instanc => { instanc with crypto := (crypto1Word instanc.crypto (ntNum ^^^ cuid) false).2 }
      classicTx (.ofBytes nt.toList)
    else
      classicEncryptTx (some (bitLibNumToBytesBe (ntNum ^^^ cuid))) (.ofBytes nt.toList))
    awaitNextHandler
    pure .processed

def mfClassicListenerAuthSecondPartHandler (buff : BitBuffer) : ClassicM MfClassicListenerCommand := do
  update fun instanc => { instanc with cmdInProgress := false }
  if buff.sizeBytes ≠ 8 then pure .sleep
  else do
    let nr := buff.word 0
    let ar := buff.word 4
    update fun instanc => { instanc with authContext := { instanc.authContext with nr := nr, ar := ar } }
    update fun instanc => { instanc with crypto := (crypto1Word instanc.crypto (wordBe nr) true).2 }
    let ntNum ← observe (wordBe ·.authContext.nt)
    let keystream ← observe (crypto1Word ·.crypto 0#32 false)
    update fun instanc => { instanc with crypto := keystream.2 }
    if wordBe ar ^^^ keystream.1 ≠ prngSuccessor ntNum 64 then pure .sleep
    else do
      let at_ := bitLibNumToBytesBe (prngSuccessor ntNum 96)
      update fun instanc => { instanc with authContext := { instanc.authContext with at_ := at_ } }
      classicEncryptTx none (.ofBytes at_.toList)
      update fun instanc => { instanc with state := .authComplete, commState := .encrypted }
      pure .processed

def hideBytes (block : MfClassicBlock) (start stop : Nat) : MfClassicBlock :=
  Vector.ofFn fun i => if start ≤ i ∧ i < stop then 0#8 else block[i]

def shownTrailer (data : MfClassicData) (blockNum : Nat) (keyType : MfClassicKeyType) : MfClassicBlock :=
  let block := data.blockAt blockNum
  let block := if mfClassicIsAllowedAccess data blockNum keyType .keyARead then block else hideBytes block 0 6
  let block := if mfClassicIsAllowedAccess data blockNum keyType .keyBRead then block else hideBytes block 10 16
  if mfClassicIsAllowedAccess data blockNum keyType .acRead then block else hideBytes block 6 10

def mfClassicListenerReadBlockHandler (buff : BitBuffer) : ClassicM MfClassicListenerCommand := do
  let state ← observe (·.state)
  if state ≠ .authComplete then pure .nack
  else do
    let blockNum := (buff.byte 1).toNat
    let authCtx ← observe (·.authContext)
    let data ← observe (·.data)
    if mfClassicGetSectorByBlock blockNum ≠ mfClassicGetSectorByBlock authCtx.blockNum.toNat then pure .nack
    else if !mfClassicIsSectorTrailer blockNum &&
        !mfClassicIsAllowedAccess data blockNum authCtx.keyType .dataRead then pure .nack
    else do
      let block := if mfClassicIsSectorTrailer blockNum then shownTrailer data blockNum authCtx.keyType
        else data.blockAt blockNum
      classicEncryptTx none (.ofBytes (iso14443CrcAppend block.toList))
      pure .processed

def mfClassicListenerWriteBlockFirstPartHandler (buff : BitBuffer) : ClassicM MfClassicListenerCommand := do
  let state ← observe (·.state)
  let totalBlockNum ← observe (·.totalBlockNum)
  let authCtx ← observe (·.authContext)
  let blockNum := buff.byte 1
  if state ≠ .authComplete then pure .nack
  else if totalBlockNum ≤ blockNum.toNat then pure .nack
  else if blockNum = 0#8 then pure .nack
  else if mfClassicGetSectorByBlock blockNum.toNat ≠ mfClassicGetSectorByBlock authCtx.blockNum.toNat then
    pure .nack
  else do
    update fun instanc => { instanc with writeBlock := blockNum }
    awaitNextHandler
    pure .ack

def takeBytes (block : MfClassicBlock) (buff : BitBuffer) (start stop : Nat) : MfClassicBlock :=
  Vector.ofFn fun i => if start ≤ i ∧ i < stop then buff.byte i else block[i]

def writtenBlock (data : MfClassicData) (blockNum : Nat) (keyType : MfClassicKeyType) (buff : BitBuffer) :
    Option MfClassicBlock :=
  let allowed := mfClassicIsAllowedAccess data blockNum keyType
  let block := data.blockAt blockNum
  if mfClassicIsSectorTrailer blockNum then
    if !allowed .keyAWrite && !allowed .keyBWrite && !allowed .acWrite then none
    else
      let block := if allowed .keyAWrite then takeBytes block buff 0 6 else block
      let block := if allowed .keyBWrite then takeBytes block buff 10 16 else block
      some (if allowed .acWrite then takeBytes block buff 6 10 else block)
  else if allowed .dataWrite then some (takeBytes block buff 0 16)
  else none

def setBlock (blockNum : Nat) (block : MfClassicBlock) : ClassicM Unit :=
  update fun instanc => { instanc with data := { instanc.data with
    block := instanc.data.block.setIfInBounds blockNum block } }

def mfClassicListenerWriteBlockSecondPartHandler (buff : BitBuffer) : ClassicM MfClassicListenerCommand := do
  update fun instanc => { instanc with cmdInProgress := false }
  if buff.sizeBytes ≠ 16 then pure .nack
  else do
    let blockNum ← observe (·.writeBlock.toNat)
    let keyType ← observe (·.authContext.keyType)
    let data ← observe (·.data)
    match writtenBlock data blockNum keyType buff with
    | none => pure .nack
    | some block => do
      setBlock blockNum block
      pure .ack

/-- The command that the first byte stands for, and the action it needs. -/
def valueAction (cmd : BitVec 8) : Option (MfClassicValueCommand × MfClassicAction) :=
  if cmd = 0xC0#8 then some (.decrement, .dataDec)
  else if cmd = 0xC1#8 then some (.increment, .dataInc)
  else if cmd = 0xC2#8 then some (.restore, .dataDec)
  else none

def mfClassicListenerValueCmdHandler (buff : BitBuffer) : ClassicM MfClassicListenerCommand := do
  let state ← observe (·.state)
  let totalBlockNum ← observe (·.totalBlockNum)
  let authCtx ← observe (·.authContext)
  let data ← observe (·.data)
  let blockNum := (buff.byte 1).toNat
  if state ≠ .authComplete then pure .nack
  else if totalBlockNum ≤ blockNum then pure .nack
  else if mfClassicGetSectorByBlock blockNum ≠ mfClassicGetSectorByBlock authCtx.blockNum.toNat then pure .nack
  else
    match valueAction (buff.byte 0) with
    | none => pure .nack
    | some (valueCmd, action) => do
      update fun instanc => { instanc with valueCmd := valueCmd }
      if !mfClassicIsAllowedAccess data blockNum authCtx.keyType action then pure .nack
      else do
        let value := mfClassicBlockToValue (data.blockAt blockNum)
        update fun instanc => { instanc with transferValue := value.2 }
        if !value.1 then pure .nack
        else do
          update fun instanc => { instanc with transferValid := true }
          awaitNextHandler
          pure .ack

/-- What is added to the transfer value. -/
def valueDelta (valueCmd : MfClassicValueCommand) (data : BitVec 32) : BitVec 32 :=
  let data := if data.toInt < 0 then -data else data
  match valueCmd with
  | .decrement => -data
  | .restore => 0#32
  | _ => data

/-- Sums that do not fit in 32 bits wrap around. -/
def mfClassicListenerValueDataReceiveHandler (buff : BitBuffer) : ClassicM MfClassicListenerCommand := do
  if buff.sizeBytes ≠ 4 then pure .nack
  else do
    let data := buff.byte 3 ++ buff.byte 2 ++ buff.byte 1 ++ buff.byte 0
    update fun instanc => { instanc with
      transferValue := instanc.transferValue + valueDelta instanc.valueCmd data
      transferValid := true }
    awaitNextHandler
    pure .silent

def mfClassicListenerValueTransferHandler (buff : BitBuffer) : ClassicM MfClassicListenerCommand := do
  update fun instanc => { instanc with cmdInProgress := false }
  if buff.sizeBytes ≠ 2 then pure .nack
  else if buff.byte 0 ≠ 0xB0#8 then pure .nack
  else do
    let blockNum := buff.byte 1
    let data ← observe (·.data)
    let keyType ← observe (·.authContext.keyType)
    if !mfClassicIsAllowedAccess data blockNum.toNat keyType .dataDec then pure .nack
    else do
      let value ← observe (·.transferValue)
      setBlock blockNum.toNat (mfClassicValueToBlock value blockNum)
      update fun instanc => { instanc with transferValue := 0#32, transferValid := false }
      pure .ack

/-! ## Commands -/

inductive MfClassicListenerCommandHandler
  | halt
  | authKeyA
  | authKeyB
  | authSecondPart
  | readBlock
  | writeBlockFirstPart
  | writeBlockSecondPart
  | valueDec
  | valueInc
  | valueRestore
  | valueDataReceive
  | valueTransfer
  deriving DecidableEq, Repr

def MfClassicListenerCommandHandler.run (handler : MfClassicListenerCommandHandler) (nt : Bytes 4)
    (buff : BitBuffer) : ClassicM MfClassicListenerCommand :=
  match handler with
  | halt => mfClassicListenerHaltHandler buff
  | authKeyA => mfClassicListenerAuthFirstPartHandler nt .a (buff.byte 1)
  | authKeyB => mfClassicListenerAuthFirstPartHandler nt .b (buff.byte 1)
  | authSecondPart => mfClassicListenerAuthSecondPartHandler buff
  | readBlock => mfClassicListenerReadBlockHandler buff
  | writeBlockFirstPart => mfClassicListenerWriteBlockFirstPartHandler buff
  | writeBlockSecondPart => mfClassicListenerWriteBlockSecondPartHandler buff
  | valueDec | valueInc | valueRestore => mfClassicListenerValueCmdHandler buff
  | valueDataReceive => mfClassicListenerValueDataReceiveHandler buff
  | valueTransfer => mfClassicListenerValueTransferHandler buff

structure MfClassicListenerCmd where
  cmdStartByte : BitVec 8
  cmdLenBits : Nat
  handler : List MfClassicListenerCommandHandler

def mfClassicListenerCmdHandlers : List MfClassicListenerCmd :=
  [⟨0x50#8, 2 * 8, [.halt]⟩,
    -- Some devices send HALT with one bit too few.
    ⟨0x50#8, 15, [.halt]⟩,
    ⟨0x60#8, 2 * 8, [.authKeyA, .authSecondPart]⟩,
    ⟨0x61#8, 2 * 8, [.authKeyB, .authSecondPart]⟩,
    ⟨0x30#8, 2 * 8, [.readBlock]⟩,
    ⟨0xA0#8, 2 * 8, [.writeBlockFirstPart, .writeBlockSecondPart]⟩,
    ⟨0xC0#8, 2 * 8, [.valueDec, .valueDataReceive, .valueTransfer]⟩,
    ⟨0xC1#8, 2 * 8, [.valueInc, .valueDataReceive, .valueTransfer]⟩,
    ⟨0xC2#8, 2 * 8, [.valueRestore, .valueDataReceive, .valueTransfer]⟩]

/-- The handler at a place of the table. -/
def handlerAt (cmdIdx handlerIdx : Nat) : Option MfClassicListenerCommandHandler := do
  let cmd ← mfClassicListenerCmdHandlers[cmdIdx]?
  cmd.handler[handlerIdx]?

/-- Whether a frame is the first one of a command. -/
def MfClassicListenerCmd.fits (cmd : MfClassicListenerCmd) (buff : BitBuffer) : Bool :=
  buff.sizeBits = cmd.cmdLenBits && buff.byte 0 = cmd.cmdStartByte

def runHandler (cmdIdx handlerIdx : Nat) (nt : Bytes 4) (buff : BitBuffer) : ClassicM MfClassicListenerCommand :=
  match handlerAt cmdIdx handlerIdx with
  | some handler => handler.run nt buff
  | none => fault .handlerArray

def mfClassicListenerSendShortFrame (data : BitVec 8) : ClassicM Unit := do
  let commState ← observe (·.commState)
  if commState = .encrypted then classicEncryptTx none ⟨[data], 4⟩ else classicTx ⟨[data], 4⟩

/-- What a received frame says: it is decrypted after an authentication, and a
checksum that is right is taken off. -/
def mfClassicListenerReceive (buffer : BitBuffer) : ClassicM BitBuffer := do
  let commState ← observe (·.commState)
  let state ← observe (·.state)
  if commState = .encrypted ∧ state = .authComplete then
    if mfClassicMaxBuffSize * 8 < buffer.sizeBits then fault .rxPlainBuffer
    else do
      let crypto ← observe (·.crypto)
      let rxPlainBuffer ← observe (·.rxPlainBuffer)
      let decrypted := crypto1Decrypt crypto buffer rxPlainBuffer
      let plain := if iso14443CrcCheck decrypted.1 then iso14443CrcTrim decrypted.1 else decrypted.1
      update fun instanc => { instanc with crypto := decrypted.2, rxPlainBuffer := plain }
      pure plain
  else pure buffer

/-- The handler that is waited for, or that of the command which the frame begins. -/
def mfClassicListenerDispatch (nt : Bytes 4) (buff : BitBuffer) : ClassicM MfClassicListenerCommand := do
  let cmdInProgress ← observe (·.cmdInProgress)
  if cmdInProgress then do
    let cmdIdx ← observe (·.currentCmdIdx)
    let handlerIdx ← observe (·.currentCmdHandlerIdx)
    runHandler cmdIdx handlerIdx nt buff
  else
    match mfClassicListenerCmdHandlers.findIdx? (·.fits buff) with
    | none => pure .nack
    | some i => do
      update fun instanc => { instanc with currentCmdIdx := i, currentCmdHandlerIdx := 0 }
      runHandler i 0 nt buff

def mfClassicListenerAnswer (mfcCommand : MfClassicListenerCommand) : ClassicM NfcCommand := do
  match mfcCommand with
  | .ack => do
    mfClassicListenerSendShortFrame 0x0A#8
    pure .continue
  | .nack => do
    let transferValid ← observe (·.transferValid)
    mfClassicListenerSendShortFrame (if transferValid then 0x00#8 else 0x04#8)
    update mfClassicListenerResetState
    pure .sleep
  | .silent => pure .reset
  | .sleep => do
    update mfClassicListenerResetState
    pure .sleep
  | .processed => pure .continue

inductive ClassicListenerEvent
  | fieldOff
  | halted
  | receivedData (buffer : BitBuffer)
  | receivedStandardFrame (buffer : BitBuffer)
  deriving DecidableEq, Repr

def mfClassicListenerFrame (nt : Bytes 4) (buffer : BitBuffer) : ClassicM NfcCommand := do
  let buff ← mfClassicListenerReceive buffer
  let mfcCommand ← mfClassicListenerDispatch nt buff
  mfClassicListenerAnswer mfcCommand

def mfClassicListenerRun (nt : Bytes 4) (event : ClassicListenerEvent) : ClassicM NfcCommand := do
  update fun instanc => { instanc with sent := [] }
  match event with
  | .fieldOff => do
    update mfClassicListenerResetState
    pure .sleep
  | .halted => do
    update mfClassicListenerResetState
    pure .continue
  | .receivedData buffer => mfClassicListenerFrame nt buffer
  | .receivedStandardFrame buffer => mfClassicListenerFrame nt buffer

/-- All fields that are not set are zero. -/
def mfClassicListenerAlloc (data : MfClassicData) : MfClassicListener where
  state := .idle
  commState := .plain
  data := data
  rxPlainBuffer := ⟨List.replicate mfClassicMaxBuffSize 0#8, 0⟩
  crypto := crypto1Reset
  authContext := emptyAuthContext
  writeBlock := 0#8
  transferValue := 0#32
  transferValid := false
  -- The first value of the enumeration.
  valueCmd := .increment
  cmdInProgress := false
  currentCmdIdx := 0
  currentCmdHandlerIdx := 0
  totalBlockNum := mfClassicGetTotalBlockNum data.type
  sent := []

end Xtreme.Nfc
