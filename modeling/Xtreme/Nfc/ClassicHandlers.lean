import Xtreme.Nfc.MfClassicListener

/-! What the handlers of the MIFARE Classic listener may do, said once for each:
`HandlerChange` lists every way in which a handler ends. Only the second frame of
a write and the last frame of a value command touch the blocks. -/
namespace Xtreme.Nfc
open Xtreme.Library BitLib Toolbox

namespace MfClassicListener
variable (instanc : MfClassicListener)

def requested (nt : Bytes 4) (keyType : MfClassicKeyType) (blockNum : BitVec 8) : MfClassicAuthContext :=
  { instanc.authContext with keyType := keyType, blockNum := blockNum, nt := nt }

/-- The nonce as it goes out, and the register after it. -/
def nonceSent (nt : Bytes 4) (keyType : MfClassicKeyType) (blockNum : BitVec 8) : BitBuffer × Crypto1 :=
  let secTr := mfClassicGetSectorTrailerBySector instanc.data (mfClassicGetSectorByBlock blockNum.toNat)
  let crypto := crypto1Init (trailerKey secTr keyType)
  let input := wordBe nt ^^^ iso14443_3aGetCuid instanc.data.iso14443_3aData
  if instanc.commState = .plain then (.ofBytes nt.toList, (crypto1Word crypto input false).2)
  else crypto1Encrypt crypto (some (bitLibNumToBytesBe input)) (.ofBytes nt.toList)

/-- The key stream word that hides the answer of the reader, and the register after it. -/
def answerKeystream (nr : Bytes 4) : BitVec 32 × Crypto1 :=
  crypto1Word (crypto1Word instanc.crypto (wordBe nr) true).2 0#32 false

def cardAnswerSent (nr : Bytes 4) : BitBuffer × Crypto1 :=
  crypto1Encrypt (instanc.answerKeystream nr).2 none
    (.ofBytes (bitLibNumToBytesBe (prngSuccessor (wordBe instanc.authContext.nt) 96)).toList)

def withNonces (nr ar : Bytes 4) : MfClassicAuthContext :=
  { instanc.authContext with
    nr := nr
    ar := ar
    at_ := bitLibNumToBytesBe (prngSuccessor (wordBe instanc.authContext.nt) 96) }

def shownBlock (blockNum : Nat) : MfClassicBlock :=
  if mfClassicIsSectorTrailer blockNum then shownTrailer instanc.data blockNum instanc.authContext.keyType
  else instanc.data.blockAt blockNum

/-- The block as it goes out, and the register after it. -/
def blockSent (blockNum : Nat) : BitBuffer × Crypto1 :=
  crypto1Encrypt instanc.crypto none (.ofBytes (iso14443CrcAppend (instanc.shownBlock blockNum).toList))

/-- The access bits allow the action to the key of the authentication. -/
abbrev allows (blockNum : Nat) (action : MfClassicAction) : Bool :=
  mfClassicIsAllowedAccess instanc.data blockNum instanc.authContext.keyType action

abbrev written (buff : BitBuffer) : Option MfClassicBlock :=
  writtenBlock instanc.data instanc.writeBlock.toNat instanc.authContext.keyType buff

def InAuthSector (blockNum : Nat) : Prop :=
  mfClassicGetSectorByBlock blockNum = mfClassicGetSectorByBlock instanc.authContext.blockNum.toNat

def withBlock (blockNum : Nat) (block : MfClassicBlock) : MfClassicData :=
  { instanc.data with block := instanc.data.block.setIfInBounds blockNum block }

end MfClassicListener

/-- The ways in which a handler ends. -/
inductive HandlerChange (nt : Bytes 4) (buff : BitBuffer) (instanc : MfClassicListener) :
    MfClassicListenerCommandHandler → MfClassicListenerCommand → MfClassicListener → Prop
  | refused {handler : MfClassicListenerCommandHandler} {command : MfClassicListenerCommand}
      {after : MfClassicListener} (refuses : command = .nack ∨ command = .sleep)
      (same : after.data = instanc.data) : HandlerChange nt buff instanc handler command after
  | authFirstPart {handler : MfClassicListenerCommandHandler} (keyType : MfClassicKeyType)
      (asks : handler = match keyType with
        | .a => .authKeyA
        | .b => .authKeyB)
      (known : (buff.byte 1).toNat < instanc.totalBlockNum) :
      HandlerChange nt buff instanc handler .processed
        { instanc with
          state := .idle
          authContext := instanc.requested nt keyType (buff.byte 1)
          crypto := (instanc.nonceSent nt keyType (buff.byte 1)).2
          sent := instanc.sent ++ [(instanc.nonceSent nt keyType (buff.byte 1)).1]
          cmdInProgress := true
          currentCmdHandlerIdx := instanc.currentCmdHandlerIdx + 1 }
  | authSecondPart (whole : buff.sizeBytes = 8)
      (right : wordBe (buff.word 4) ^^^ (instanc.answerKeystream (buff.word 0)).1 =
        prngSuccessor (wordBe instanc.authContext.nt) 64) :
      HandlerChange nt buff instanc .authSecondPart .processed
        { instanc with
          state := .authComplete
          commState := .encrypted
          authContext := instanc.withNonces (buff.word 0) (buff.word 4)
          crypto := (instanc.cardAnswerSent (buff.word 0)).2
          sent := instanc.sent ++ [(instanc.cardAnswerSent (buff.word 0)).1]
          cmdInProgress := false }
  | readBlock (authenticated : instanc.state = .authComplete)
      (inside : instanc.InAuthSector (buff.byte 1).toNat) :
      HandlerChange nt buff instanc .readBlock .processed
        { instanc with
          crypto := (instanc.blockSent (buff.byte 1).toNat).2
          sent := instanc.sent ++ [(instanc.blockSent (buff.byte 1).toNat).1] }
  | writeBlockFirstPart (authenticated : instanc.state = .authComplete) (notFirst : buff.byte 1 ≠ 0#8)
      (inside : instanc.InAuthSector (buff.byte 1).toNat) :
      HandlerChange nt buff instanc .writeBlockFirstPart .ack
        { instanc with
          writeBlock := buff.byte 1
          cmdInProgress := true
          currentCmdHandlerIdx := instanc.currentCmdHandlerIdx + 1 }
  | writeBlockSecondPart {block : MfClassicBlock}
      (written : instanc.written buff = some block) :
      HandlerChange nt buff instanc .writeBlockSecondPart .ack
        { instanc with
          data := instanc.withBlock instanc.writeBlock.toNat block
          cmdInProgress := false }
  | valueCmd {handler : MfClassicListenerCommandHandler} {valueCmd : MfClassicValueCommand}
      (starts : handler = .valueDec ∨ handler = .valueInc ∨ handler = .valueRestore)
      (authenticated : instanc.state = .authComplete) :
      HandlerChange nt buff instanc handler .ack
        { instanc with
          valueCmd := valueCmd
          transferValue := (mfClassicBlockToValue (instanc.data.blockAt (buff.byte 1).toNat)).2
          transferValid := true
          cmdInProgress := true
          currentCmdHandlerIdx := instanc.currentCmdHandlerIdx + 1 }
  | valueDataReceive {value : BitVec 32} :
      HandlerChange nt buff instanc .valueDataReceive .silent
        { instanc with
          transferValue := value
          transferValid := true
          cmdInProgress := true
          currentCmdHandlerIdx := instanc.currentCmdHandlerIdx + 1 }
  | valueTransfer (size : buff.sizeBytes = 2) (transfers : buff.byte 0 = 0xB0#8)
      (allowed : instanc.allows (buff.byte 1).toNat .dataDec = true) :
      HandlerChange nt buff instanc .valueTransfer .ack
        { instanc with
          data := instanc.withBlock (buff.byte 1).toNat (mfClassicValueToBlock instanc.transferValue (buff.byte 1))
          transferValue := 0#32
          transferValid := false
          cmdInProgress := false }

section
variable {nt : Bytes 4} {buff : BitBuffer} {instanc : MfClassicListener}

theorem authFirstPart_run {keyType : MfClassicKeyType} {blockNum : BitVec 8}
    (known : blockNum.toNat < instanc.totalBlockNum) :
    mfClassicListenerAuthFirstPartHandler nt keyType blockNum instanc = (.ok .processed,
        { instanc with
          state := .idle
          authContext := instanc.requested nt keyType blockNum
          crypto := (instanc.nonceSent nt keyType blockNum).2
          sent := instanc.sent ++ [(instanc.nonceSent nt keyType blockNum).1]
          cmdInProgress := true
          currentCmdHandlerIdx := instanc.currentCmdHandlerIdx + 1 }) := by
  have inRange : ¬ instanc.totalBlockNum ≤ blockNum.toNat := by omega
  unfold mfClassicListenerAuthFirstPartHandler MfClassicListener.nonceSent
  cases mode : instanc.commState <;>
    simp [inRange, mode, awaitNextHandler, classicTx, classicEncryptTx, MfClassicListener.requested, Effect.bind_run]

theorem authSecondPart_run (whole : buff.sizeBytes = 8)
    (right : wordBe (buff.word 4) ^^^ (instanc.answerKeystream (buff.word 0)).1 =
      prngSuccessor (wordBe instanc.authContext.nt) 64) :
    mfClassicListenerAuthSecondPartHandler buff instanc = (.ok .processed,
        { instanc with
          state := .authComplete
          commState := .encrypted
          authContext := instanc.withNonces (buff.word 0) (buff.word 4)
          crypto := (instanc.cardAnswerSent (buff.word 0)).2
          sent := instanc.sent ++ [(instanc.cardAnswerSent (buff.word 0)).1]
          cmdInProgress := false }) := by
  unfold MfClassicListener.answerKeystream at right
  unfold mfClassicListenerAuthSecondPartHandler
  simp [whole, right, classicTx, classicEncryptTx, Effect.bind_run]
  exact ⟨rfl, rfl, rfl⟩

theorem readBlock_run (authenticated : instanc.state = .authComplete)
    (inside : instanc.InAuthSector (buff.byte 1).toNat)
    (readable : mfClassicIsSectorTrailer (buff.byte 1).toNat = true ∨
      instanc.allows (buff.byte 1).toNat .dataRead = true) :
    mfClassicListenerReadBlockHandler buff instanc = (.ok .processed,
        { instanc with
          crypto := (instanc.blockSent (buff.byte 1).toNat).2
          sent := instanc.sent ++ [(instanc.blockSent (buff.byte 1).toNat).1] }) := by
  unfold MfClassicListener.InAuthSector at inside
  have shown : ¬ (mfClassicIsSectorTrailer (buff.byte 1).toNat = false ∧
      instanc.allows (buff.byte 1).toNat .dataRead = false) := by
    rintro ⟨notTrailer, denied⟩
    rcases readable with trailer | allowed
    · exact Bool.false_ne_true (notTrailer.symm.trans trailer)
    · exact Bool.false_ne_true (denied.symm.trans allowed)
  unfold mfClassicListenerReadBlockHandler MfClassicListener.blockSent MfClassicListener.shownBlock
  simp [authenticated, inside, shown, classicTx, classicEncryptTx, Effect.bind_run]

theorem writeBlockFirstPart_run (authenticated : instanc.state = .authComplete)
    (known : (buff.byte 1).toNat < instanc.totalBlockNum) (notFirst : buff.byte 1 ≠ 0#8)
    (inside : instanc.InAuthSector (buff.byte 1).toNat) :
    mfClassicListenerWriteBlockFirstPartHandler buff instanc = (.ok .ack,
        { instanc with
          writeBlock := buff.byte 1
          cmdInProgress := true
          currentCmdHandlerIdx := instanc.currentCmdHandlerIdx + 1 }) := by
  have inRange : ¬ instanc.totalBlockNum ≤ (buff.byte 1).toNat := by omega
  unfold MfClassicListener.InAuthSector at inside
  unfold mfClassicListenerWriteBlockFirstPartHandler
  simp [authenticated, inRange, notFirst, inside, awaitNextHandler]

theorem writeBlockSecondPart_run (whole : buff.sizeBytes = 16) {block : MfClassicBlock}
    (written : instanc.written buff = some block) :
    mfClassicListenerWriteBlockSecondPartHandler buff instanc = (.ok .ack,
        { instanc with
          data := instanc.withBlock instanc.writeBlock.toNat block
          cmdInProgress := false }) := by
  unfold mfClassicListenerWriteBlockSecondPartHandler
  simp [whole, written, setBlock, MfClassicListener.withBlock]

theorem valueCmd_run (authenticated : instanc.state = .authComplete)
    (known : (buff.byte 1).toNat < instanc.totalBlockNum) (inside : instanc.InAuthSector (buff.byte 1).toNat)
    {valueCmd : MfClassicValueCommand} {action : MfClassicAction}
    (starts : valueAction (buff.byte 0) = some (valueCmd, action))
    (allowed : instanc.allows (buff.byte 1).toNat action = true)
    (holdsValue : (mfClassicBlockToValue (instanc.data.blockAt (buff.byte 1).toNat)).1 = true) :
    mfClassicListenerValueCmdHandler buff instanc = (.ok .ack,
        { instanc with
          valueCmd := valueCmd
          transferValue := (mfClassicBlockToValue (instanc.data.blockAt (buff.byte 1).toNat)).2
          transferValid := true
          cmdInProgress := true
          currentCmdHandlerIdx := instanc.currentCmdHandlerIdx + 1 }) := by
  have inRange : ¬ instanc.totalBlockNum ≤ (buff.byte 1).toNat := by omega
  unfold MfClassicListener.InAuthSector at inside
  unfold mfClassicListenerValueCmdHandler
  simp [authenticated, inRange, inside, starts, allowed, holdsValue, awaitNextHandler]

theorem valueDataReceive_run (whole : buff.sizeBytes = 4) : mfClassicListenerValueDataReceiveHandler buff instanc =
      (.ok .silent,
        { instanc with
          transferValue := instanc.transferValue +
            valueDelta instanc.valueCmd (buff.byte 3 ++ buff.byte 2 ++ buff.byte 1 ++ buff.byte 0)
          transferValid := true
          cmdInProgress := true
          currentCmdHandlerIdx := instanc.currentCmdHandlerIdx + 1 }) := by
  unfold mfClassicListenerValueDataReceiveHandler
  simp [whole, awaitNextHandler]

theorem valueTransfer_run (whole : buff.sizeBytes = 2) (transfers : buff.byte 0 = 0xB0#8)
    (allowed : instanc.allows (buff.byte 1).toNat .dataDec = true) :
    mfClassicListenerValueTransferHandler buff instanc = (.ok .ack,
        { instanc with
          data := instanc.withBlock (buff.byte 1).toNat (mfClassicValueToBlock instanc.transferValue (buff.byte 1))
          transferValue := 0#32
          transferValid := false
          cmdInProgress := false }) := by
  unfold mfClassicListenerValueTransferHandler
  simp [whole, transfers, allowed, setBlock, MfClassicListener.withBlock]

theorem change_of_refusal {handler : MfClassicListenerCommandHandler}
    {program : ClassicM MfClassicListenerCommand} {command : MfClassicListenerCommand}
    (refuses : command = .nack ∨ command = .sleep)
    (ran : (program instanc).1 = .ok command ∧ (program instanc).2.data = instanc.data) :
    ∃ command after, program instanc = (.ok command, after) ∧
      HandlerChange nt buff instanc handler command after :=
  ⟨command, (program instanc).2, Prod.ext ran.1 rfl, .refused refuses ran.2⟩

theorem authFirstPart_change (handler : MfClassicListenerCommandHandler) (keyType : MfClassicKeyType)
    (asks : handler = match keyType with
      | .a => .authKeyA
      | .b => .authKeyB) :
    ∃ command after, mfClassicListenerAuthFirstPartHandler nt keyType (buff.byte 1) instanc = (.ok command, after) ∧
      HandlerChange nt buff instanc handler command after := by
  by_cases known : (buff.byte 1).toNat < instanc.totalBlockNum
  · exact ⟨_, _, authFirstPart_run known, .authFirstPart keyType asks known⟩
  · have unknown : instanc.totalBlockNum ≤ (buff.byte 1).toNat := Nat.le_of_not_lt known
    exact change_of_refusal (.inl rfl) (by simp [mfClassicListenerAuthFirstPartHandler, unknown])

theorem authSecondPart_change :
    ∃ command after, mfClassicListenerAuthSecondPartHandler buff instanc = (.ok command, after) ∧
      HandlerChange nt buff instanc .authSecondPart command after := by
  by_cases whole : buff.sizeBytes = 8
  · by_cases right : wordBe (buff.word 4) ^^^ (instanc.answerKeystream (buff.word 0)).1 =
        prngSuccessor (wordBe instanc.authContext.nt) 64
    · exact ⟨_, _, authSecondPart_run whole right, .authSecondPart whole right⟩
    · unfold MfClassicListener.answerKeystream at right
      exact change_of_refusal (.inr rfl) (by simp [mfClassicListenerAuthSecondPartHandler, whole, right])
  · exact change_of_refusal (.inr rfl) (by simp [mfClassicListenerAuthSecondPartHandler, whole])

theorem readBlock_change : ∃ command after, mfClassicListenerReadBlockHandler buff instanc = (.ok command, after) ∧
      HandlerChange nt buff instanc .readBlock command after := by
  by_cases authenticated : instanc.state = .authComplete
  · by_cases inside : instanc.InAuthSector (buff.byte 1).toNat
    · by_cases readable : mfClassicIsSectorTrailer (buff.byte 1).toNat = true ∨
          instanc.allows (buff.byte 1).toNat .dataRead = true
      · exact ⟨_, _, readBlock_run authenticated inside readable, .readBlock authenticated inside⟩
      · simp only [not_or] at readable
        exact change_of_refusal (.inl rfl) (by simp [mfClassicListenerReadBlockHandler, authenticated, readable])
    · unfold MfClassicListener.InAuthSector at inside
      exact change_of_refusal (.inl rfl) (by simp [mfClassicListenerReadBlockHandler, authenticated, inside])
  · exact change_of_refusal (.inl rfl) (by simp [mfClassicListenerReadBlockHandler, authenticated])

theorem writeBlockFirstPart_change :
    ∃ command after, mfClassicListenerWriteBlockFirstPartHandler buff instanc = (.ok command, after) ∧
      HandlerChange nt buff instanc .writeBlockFirstPart command after := by
  by_cases accepted : instanc.state = .authComplete ∧ (buff.byte 1).toNat < instanc.totalBlockNum ∧
      buff.byte 1 ≠ 0#8 ∧ instanc.InAuthSector (buff.byte 1).toNat
  · obtain ⟨authenticated, known, notFirst, inside⟩ := accepted
    exact ⟨_, _, writeBlockFirstPart_run authenticated known notFirst inside,
      .writeBlockFirstPart authenticated notFirst inside⟩
  · have refused : mfClassicListenerWriteBlockFirstPartHandler buff instanc = (.ok .nack, instanc) := by
      unfold mfClassicListenerWriteBlockFirstPartHandler
      simp only [Effect.observe_bind]
      split
      · rfl
      · split
        · rfl
        · split
          · rfl
          · split
            · rfl
            · rename_i authenticated known notFirst inside
              exact absurd ⟨not_not.mp authenticated, Nat.lt_of_not_le known, notFirst, not_not.mp inside⟩ accepted
    exact ⟨_, _, refused, .refused (.inl rfl) rfl⟩

theorem writeBlockSecondPart_change :
    ∃ command after, mfClassicListenerWriteBlockSecondPartHandler buff instanc = (.ok command, after) ∧
      HandlerChange nt buff instanc .writeBlockSecondPart command after := by
  by_cases whole : buff.sizeBytes = 16
  · cases written : instanc.written buff with
    | some block => exact ⟨_, _, writeBlockSecondPart_run whole written, .writeBlockSecondPart written⟩
    | none =>
      exact change_of_refusal (.inl rfl) (by simp [mfClassicListenerWriteBlockSecondPartHandler, whole, written])
  · exact change_of_refusal (.inl rfl) (by simp [mfClassicListenerWriteBlockSecondPartHandler, whole])

theorem valueCmd_change {handler : MfClassicListenerCommandHandler}
    (starts : handler = .valueDec ∨ handler = .valueInc ∨ handler = .valueRestore) :
    ∃ command after, mfClassicListenerValueCmdHandler buff instanc = (.ok command, after) ∧
      HandlerChange nt buff instanc handler command after := by
  by_cases accepted : instanc.state = .authComplete ∧ (buff.byte 1).toNat < instanc.totalBlockNum ∧
      instanc.InAuthSector (buff.byte 1).toNat
  · obtain ⟨authenticated, known, inside⟩ := accepted
    have inSector := inside
    unfold MfClassicListener.InAuthSector at inSector
    have inRange : ¬ instanc.totalBlockNum ≤ (buff.byte 1).toNat := by omega
    rcases named : valueAction (buff.byte 0) with _ | ⟨valueCmd, action⟩
    · exact change_of_refusal (.inl rfl) (by simp [mfClassicListenerValueCmdHandler, named])
    · cases allowed : instanc.allows (buff.byte 1).toNat action with
      | false =>
        exact change_of_refusal (.inl rfl)
          (by simp [mfClassicListenerValueCmdHandler, authenticated, inRange, inSector, named, allowed])
      | true =>
        cases holdsValue : (mfClassicBlockToValue (instanc.data.blockAt (buff.byte 1).toNat)).1 with
        | false =>
          exact change_of_refusal (.inl rfl)
            (by simp [mfClassicListenerValueCmdHandler, authenticated, inRange, inSector, named, allowed, holdsValue])
        | true =>
          exact ⟨_, _, valueCmd_run authenticated known inside named allowed holdsValue,
            .valueCmd starts authenticated⟩
  · have refused : mfClassicListenerValueCmdHandler buff instanc = (.ok .nack, instanc) := by
      unfold mfClassicListenerValueCmdHandler
      simp only [Effect.observe_bind]
      split
      · rfl
      · split
        · rfl
        · split
          · rfl
          · rename_i authenticated known inside
            exact absurd ⟨not_not.mp authenticated, Nat.lt_of_not_le known, not_not.mp inside⟩ accepted
    exact ⟨_, _, refused, .refused (.inl rfl) rfl⟩

theorem valueDataReceive_change :
    ∃ command after, mfClassicListenerValueDataReceiveHandler buff instanc = (.ok command, after) ∧
      HandlerChange nt buff instanc .valueDataReceive command after := by
  by_cases whole : buff.sizeBytes = 4
  · exact ⟨_, _, valueDataReceive_run whole, .valueDataReceive⟩
  · exact change_of_refusal (.inl rfl) (by simp [mfClassicListenerValueDataReceiveHandler, whole])

theorem valueTransfer_change :
    ∃ command after, mfClassicListenerValueTransferHandler buff instanc = (.ok command, after) ∧
      HandlerChange nt buff instanc .valueTransfer command after := by
  by_cases whole : buff.sizeBytes = 2
  · by_cases transfers : buff.byte 0 = 0xB0#8
    · cases allowed : instanc.allows (buff.byte 1).toNat .dataDec with
      | true => exact ⟨_, _, valueTransfer_run whole transfers allowed, .valueTransfer whole transfers allowed⟩
      | false =>
        exact change_of_refusal (.inl rfl) (by simp [mfClassicListenerValueTransferHandler, whole, transfers, allowed])
    · exact change_of_refusal (.inl rfl) (by simp [mfClassicListenerValueTransferHandler, transfers])
  · exact change_of_refusal (.inl rfl) (by simp [mfClassicListenerValueTransferHandler, whole])

/-- **No handler faults, and every way in which one ends is listed.** -/
theorem handler_change (handler : MfClassicListenerCommandHandler) :
    ∃ command after, handler.run nt buff instanc = (.ok command, after) ∧
      HandlerChange nt buff instanc handler command after := by
  cases handler with
  | halt =>
    by_cases low : buff.byte 1 = 0x00#8
    · exact change_of_refusal (.inr rfl)
        (by simp [MfClassicListenerCommandHandler.run, mfClassicListenerHaltHandler, low])
    · exact change_of_refusal (.inl rfl)
        (by simp [MfClassicListenerCommandHandler.run, mfClassicListenerHaltHandler, low])
  | authKeyA => exact authFirstPart_change .authKeyA .a rfl
  | authKeyB => exact authFirstPart_change .authKeyB .b rfl
  | authSecondPart => exact authSecondPart_change
  | readBlock => exact readBlock_change
  | writeBlockFirstPart => exact writeBlockFirstPart_change
  | writeBlockSecondPart => exact writeBlockSecondPart_change
  | valueDec => exact valueCmd_change (.inl rfl)
  | valueInc => exact valueCmd_change (.inr (.inl rfl))
  | valueRestore => exact valueCmd_change (.inr (.inr rfl))
  | valueDataReceive => exact valueDataReceive_change
  | valueTransfer => exact valueTransfer_change

end

end Xtreme.Nfc
