import Xtreme.Nfc.ClassicHandlers

/-! What one event makes of the MIFARE Classic listener: the plaintext of a
frame, the handler that gets it, and the answer that follows. -/
namespace Xtreme.Nfc
open Xtreme.Library BitLib Toolbox

namespace MfClassicListener
variable (instanc : MfClassicListener)

/-- Whether frames that come in are encrypted. -/
def Decrypts : Prop := instanc.commState = .encrypted ∧ instanc.state = .authComplete

instance : Decidable instanc.Decrypts := inferInstanceAs (Decidable (_ ∧ _))

/-- The frame is longer than the buffer for its plaintext. -/
def Overlong (buffer : BitBuffer) : Prop := instanc.Decrypts ∧ mfClassicMaxBuffSize * 8 < buffer.sizeBits

def plainFrame (buffer : BitBuffer) : BitBuffer :=
  if instanc.Decrypts then
    let decrypted := (crypto1Decrypt instanc.crypto buffer instanc.rxPlainBuffer).1
    if iso14443CrcCheck decrypted then iso14443CrcTrim decrypted else decrypted
  else buffer

/-- The listener after the plaintext of a frame was found. -/
def received (buffer : BitBuffer) : MfClassicListener :=
  if instanc.Decrypts then
    { instanc with
      crypto := (crypto1Decrypt instanc.crypto buffer instanc.rxPlainBuffer).2
      rxPlainBuffer := instanc.plainFrame buffer }
  else instanc

/-- The place in the table of the handler that gets a frame. -/
def addressed (plain : BitBuffer) : Option (Nat × Nat) :=
  if instanc.cmdInProgress then some (instanc.currentCmdIdx, instanc.currentCmdHandlerIdx)
  else (mfClassicListenerCmdHandlers.findIdx? (·.fits plain)).map fun i => (i, 0)

/-- The listener when it runs the handler at a place of the table. -/
def at_ (place : Nat × Nat) : MfClassicListener :=
  { instanc with currentCmdIdx := place.1, currentCmdHandlerIdx := place.2 }

/-- The handler that the next frame goes to, in the middle of a command. -/
def pending : Option MfClassicListenerCommandHandler :=
  if instanc.cmdInProgress then handlerAt instanc.currentCmdIdx instanc.currentCmdHandlerIdx else none

/-- The handler that gets a frame. -/
def handlerOf (plain : BitBuffer) : Option MfClassicListenerCommandHandler :=
  (instanc.addressed plain).bind fun place => handlerAt place.1 place.2

/-- Four bits as they go out, and the register after them. -/
def shortFrame (data : BitVec 8) : BitBuffer × Crypto1 :=
  if instanc.commState = .encrypted then crypto1Encrypt instanc.crypto none ⟨[data], 4⟩
  else (⟨[data], 4⟩, instanc.crypto)

def withShortFrame (data : BitVec 8) : MfClassicListener :=
  { instanc with
    crypto := (instanc.shortFrame data).2
    sent := instanc.sent ++ [(instanc.shortFrame data).1] }

def answered : MfClassicListenerCommand → MfClassicListener
  | .ack => instanc.withShortFrame 0x0A#8
  | .nack => mfClassicListenerResetState (instanc.withShortFrame (if instanc.transferValid then 0x00#8 else 0x04#8))
  | .sleep => mfClassicListenerResetState instanc
  | .silent | .processed => instanc

end MfClassicListener

/-- What the listener asks of the poller loop after a command. -/
def MfClassicListenerCommand.next : MfClassicListenerCommand → NfcCommand
  | .ack | .processed => .continue
  | .nack | .sleep => .sleep
  | .silent => .reset

def MfClassicListenerCommandHandler.follower :
    MfClassicListenerCommandHandler → Option MfClassicListenerCommandHandler
  | authKeyA | authKeyB => some authSecondPart
  | writeBlockFirstPart => some writeBlockSecondPart
  | valueDec | valueInc | valueRestore => some valueDataReceive
  | valueDataReceive => some valueTransfer
  | halt | authSecondPart | readBlock | writeBlockSecondPart | valueTransfer => none

/-- The handlers of the first frame of a command. -/
def MfClassicListenerCommandHandler.starts : MfClassicListenerCommandHandler → Bool
  | authSecondPart | writeBlockSecondPart | valueDataReceive | valueTransfer => false
  | _ => true

theorem handlerAt_inside {cmdIdx handlerIdx : Nat} {handler : MfClassicListenerCommandHandler}
    (here : handlerAt cmdIdx handlerIdx = some handler) : cmdIdx < 9 ∧ handlerIdx < 3 := by
  simp only [handlerAt, Option.bind_eq_bind, Option.bind_eq_some_iff] at here
  obtain ⟨cmd, inTable, inArray⟩ := here
  obtain ⟨row, rfl⟩ := List.getElem?_eq_some_iff.mp inTable
  obtain ⟨column, _⟩ := List.getElem?_eq_some_iff.mp inArray
  have few : ∀ cmd ∈ mfClassicListenerCmdHandlers, cmd.handler.length ≤ 3 := by decide
  exact ⟨row, Nat.lt_of_lt_of_le column (few _ (List.getElem_mem row))⟩

theorem handlerAt_next {cmdIdx handlerIdx : Nat} {handler : MfClassicListenerCommandHandler}
    (here : handlerAt cmdIdx handlerIdx = some handler) :
    handlerAt cmdIdx (handlerIdx + 1) = handler.follower := by
  obtain ⟨row, column⟩ := handlerAt_inside here
  have table : ∀ (row : Fin 9) (column : Fin 3),
      handlerAt row (column + 1) = (handlerAt row column).bind MfClassicListenerCommandHandler.follower := by decide
  have next := table ⟨cmdIdx, row⟩ ⟨handlerIdx, column⟩
  rw [here] at next
  exact next

theorem handlerAt_first {cmdIdx : Nat} {handler : MfClassicListenerCommandHandler}
    (here : handlerAt cmdIdx 0 = some handler) : handler.starts = true := by
  obtain ⟨row, _⟩ := handlerAt_inside here
  have table : ∀ row : Fin 9, ∀ handler, handlerAt row 0 = some handler → handler.starts = true := by decide
  exact table ⟨cmdIdx, row⟩ handler here

section
variable {nt : Bytes 4} {buffer buff : BitBuffer} {instanc : MfClassicListener}

theorem mfClassicListenerReceive_run (short : ¬ instanc.Overlong buffer) :
    mfClassicListenerReceive buffer instanc = (.ok (instanc.plainFrame buffer), instanc.received buffer) := by
  unfold mfClassicListenerReceive MfClassicListener.plainFrame MfClassicListener.received
  by_cases decrypts : instanc.Decrypts
  · have fits : ¬ mfClassicMaxBuffSize * 8 < buffer.sizeBits := fun long => short ⟨decrypts, long⟩
    have encrypted := decrypts
    unfold MfClassicListener.Decrypts at encrypted
    simp [decrypts, encrypted, fits, MfClassicListener.plainFrame]
  · have plain := decrypts
    unfold MfClassicListener.Decrypts at plain
    simp [decrypts, plain]

theorem mfClassicListenerReceive_overlong (long : instanc.Overlong buffer) :
    mfClassicListenerReceive buffer instanc = (.error .rxPlainBuffer, instanc) := by
  obtain ⟨⟨encrypted, authenticated⟩, overlong⟩ := long
  unfold mfClassicListenerReceive
  simp [encrypted, authenticated, overlong]

theorem mfClassicListenerDispatch_none (nowhere : instanc.addressed buff = none) :
    mfClassicListenerDispatch nt buff instanc = (.ok .nack, instanc) := by
  unfold MfClassicListener.addressed at nowhere
  split at nowhere
  · cases nowhere
  · rename_i idle
    rw [Option.map_eq_none_iff] at nowhere
    unfold mfClassicListenerDispatch
    simp [idle, nowhere]

theorem mfClassicListenerDispatch_some {place : Nat × Nat} (there : instanc.addressed buff = some place) :
    mfClassicListenerDispatch nt buff instanc = runHandler place.1 place.2 nt buff (instanc.at_ place) := by
  unfold MfClassicListener.addressed at there
  split at there
  · rename_i busy
    cases there
    unfold mfClassicListenerDispatch
    simp only [Effect.observe_bind, busy]
    rfl
  · rename_i idle
    rw [Option.map_eq_some_iff] at there
    obtain ⟨i, found, rfl⟩ := there
    unfold mfClassicListenerDispatch
    simp [idle, found, MfClassicListener.at_]

theorem mfClassicListenerSendShortFrame_run (data : BitVec 8) :
    mfClassicListenerSendShortFrame data instanc = (.ok (), instanc.withShortFrame data) := by
  unfold mfClassicListenerSendShortFrame MfClassicListener.withShortFrame MfClassicListener.shortFrame
  cases mode : instanc.commState <;> simp [mode, classicTx, classicEncryptTx]

theorem mfClassicListenerAnswer_run (command : MfClassicListenerCommand) :
    mfClassicListenerAnswer command instanc = (.ok command.next, instanc.answered command) := by
  cases command <;>
    simp [mfClassicListenerAnswer, MfClassicListener.answered, MfClassicListenerCommand.next,
      Effect.bind_run, mfClassicListenerSendShortFrame_run]

/-- The listener when a frame comes in. -/
def MfClassicListener.cleared (instanc : MfClassicListener) : MfClassicListener := { instanc with sent := [] }

def ClassicListenerEvent.buffer? : ClassicListenerEvent → Option BitBuffer
  | fieldOff | halted => none
  | receivedData buffer | receivedStandardFrame buffer => some buffer

/-- The ways in which an event ends. -/
inductive EventChange (nt : Bytes 4) (instanc : MfClassicListener) (event : ClassicListenerEvent) :
    Except MfClassicFault NfcCommand → MfClassicListener → Prop
  | reset {command : NfcCommand} (noFrame : event.buffer? = none) :
      EventChange nt instanc event (.ok command) (mfClassicListenerResetState instanc.cleared)
  | overlong {buffer : BitBuffer} (frame : event.buffer? = some buffer) (long : instanc.Overlong buffer) :
      EventChange nt instanc event (.error .rxPlainBuffer) instanc.cleared
  | unknown {buffer : BitBuffer} (frame : event.buffer? = some buffer)
      (nowhere : instanc.addressed (instanc.plainFrame buffer) = none) :
      EventChange nt instanc event (.ok .sleep) ((instanc.cleared.received buffer).answered .nack)
  | outside {buffer : BitBuffer} {place : Nat × Nat} (frame : event.buffer? = some buffer)
      (there : instanc.addressed (instanc.plainFrame buffer) = some place)
      (missing : handlerAt place.1 place.2 = none) :
      EventChange nt instanc event (.error .handlerArray) ((instanc.cleared.received buffer).at_ place)
  | handled {buffer : BitBuffer} {place : Nat × Nat} {handler : MfClassicListenerCommandHandler}
      {command : MfClassicListenerCommand} {after : MfClassicListener} (frame : event.buffer? = some buffer)
      (there : instanc.addressed (instanc.plainFrame buffer) = some place)
      (found : handlerAt place.1 place.2 = some handler)
      (change : HandlerChange nt (instanc.plainFrame buffer) ((instanc.cleared.received buffer).at_ place)
        handler command after) :
      EventChange nt instanc event (.ok command.next) (after.answered command)

theorem mfClassicListenerFrame_handled (short : ¬ instanc.Overlong buffer) {place : Nat × Nat}
    (there : instanc.addressed (instanc.plainFrame buffer) = some place)
    {handler : MfClassicListenerCommandHandler} (found : handlerAt place.1 place.2 = some handler)
    {command : MfClassicListenerCommand} {after : MfClassicListener}
    (handled : handler.run nt (instanc.plainFrame buffer) ((instanc.cleared.received buffer).at_ place) =
      (.ok command, after)) :
    mfClassicListenerFrame nt buffer instanc.cleared = (.ok command.next, after.answered command) := by
  have received : mfClassicListenerReceive buffer instanc.cleared =
      (.ok (instanc.plainFrame buffer), instanc.cleared.received buffer) := mfClassicListenerReceive_run short
  have somewhere : (instanc.cleared.received buffer).addressed (instanc.plainFrame buffer) = some place := by
    rw [← there]
    unfold MfClassicListener.received MfClassicListener.addressed
    split <;> rfl
  have dispatched : mfClassicListenerDispatch nt _ _ = _ := mfClassicListenerDispatch_some somewhere
  unfold mfClassicListenerFrame
  rw [Effect.bind_of_ok received, Effect.bind_run, dispatched, runHandler, found]
  simp only [handled]
  rw [mfClassicListenerAnswer_run]

theorem mfClassicListenerFrame_change (event : ClassicListenerEvent) (frame : event.buffer? = some buffer) :
    EventChange nt instanc event (mfClassicListenerFrame nt buffer instanc.cleared).1
      (mfClassicListenerFrame nt buffer instanc.cleared).2 := by
  by_cases long : instanc.Overlong buffer
  · have failed : mfClassicListenerReceive buffer instanc.cleared = (.error .rxPlainBuffer, instanc.cleared) :=
      mfClassicListenerReceive_overlong long
    have ran : mfClassicListenerFrame nt buffer instanc.cleared = (.error .rxPlainBuffer, instanc.cleared) := by
      unfold mfClassicListenerFrame
      rw [Effect.bind_run, failed]
    rw [ran]
    exact .overlong frame long
  have received : mfClassicListenerReceive buffer instanc.cleared =
      (.ok (instanc.plainFrame buffer), instanc.cleared.received buffer) := mfClassicListenerReceive_run long
  cases there : instanc.addressed (instanc.plainFrame buffer) with
  | none =>
    have nowhere : (instanc.cleared.received buffer).addressed (instanc.plainFrame buffer) = none := by
      rw [← there]
      unfold MfClassicListener.received MfClassicListener.addressed
      split <;> rfl
    have ran : mfClassicListenerFrame nt buffer instanc.cleared =
        (.ok .sleep, (instanc.cleared.received buffer).answered .nack) := by
      unfold mfClassicListenerFrame
      rw [Effect.bind_of_ok received, Effect.bind_of_ok (mfClassicListenerDispatch_none nowhere),
        mfClassicListenerAnswer_run]
      rfl
    rw [ran]
    exact .unknown frame there
  | some place =>
    have somewhere : (instanc.cleared.received buffer).addressed (instanc.plainFrame buffer) = some place := by
      rw [← there]
      unfold MfClassicListener.received MfClassicListener.addressed
      split <;> rfl
    have dispatched : mfClassicListenerDispatch nt _ _ = _ := mfClassicListenerDispatch_some somewhere
    cases found : handlerAt place.1 place.2 with
    | none =>
      have ran : mfClassicListenerFrame nt buffer instanc.cleared =
          (.error .handlerArray, (instanc.cleared.received buffer).at_ place) := by
        unfold mfClassicListenerFrame
        rw [Effect.bind_of_ok received, Effect.bind_run, dispatched, runHandler, found]
        rfl
      rw [ran]
      exact .outside frame there found
    | some handler =>
      have ends : ∃ command after, handler.run nt (instanc.plainFrame buffer)
          ((instanc.cleared.received buffer).at_ place) = (.ok command, after) ∧ HandlerChange nt _ _ _ _ _ :=
        handler_change handler
      obtain ⟨command, after, handled, change⟩ := ends
      have ran : mfClassicListenerFrame nt buffer instanc.cleared = (.ok command.next, after.answered command) :=
        mfClassicListenerFrame_handled long there found handled
      rw [ran]
      exact .handled frame there found change

/-- **Every way in which an event ends is listed.** -/
theorem mfClassicListenerRun_change (nt : Bytes 4) (instanc : MfClassicListener) (event : ClassicListenerEvent) :
    EventChange nt instanc event (mfClassicListenerRun nt event instanc).1 (mfClassicListenerRun nt event instanc).2 := by
  cases event with
  | fieldOff => exact .reset rfl
  | halted => exact .reset rfl
  | receivedData buffer => exact mfClassicListenerFrame_change (.receivedData buffer) rfl
  | receivedStandardFrame buffer => exact mfClassicListenerFrame_change (.receivedStandardFrame buffer) rfl

end

end Xtreme.Nfc
