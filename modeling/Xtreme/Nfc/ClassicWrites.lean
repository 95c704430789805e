import Xtreme.Nfc.ClassicEvents

/-! Which blocks a reader may change (`mf_classic_listener.c`), over whole runs.
An observer keeps what was asked for last and what was authenticated last. A
write keeps to the sector of the authentication, to the access bits and off
block 0. A TRANSFER keeps to the access bits only: the handler looks neither at
the sector nor at the number of the block. -/
namespace Xtreme.Nfc
open Xtreme.Library BitLib Toolbox
open Effect (Reaches reaches_preserves)

abbrev AuthTarget := BitVec 8 × MfClassicKeyType

/-- What an observer of the listener keeps. -/
structure ClassicSession where
  request : Option AuthTarget
  authenticated : Option AuthTarget
  deriving DecidableEq, Repr

def MfClassicListenerCommandHandler.request (buff : BitBuffer) : MfClassicListenerCommandHandler → Option AuthTarget
  | authKeyA => some (buff.byte 1, .a)
  | authKeyB => some (buff.byte 1, .b)
  | _ => none

def authRequest (instanc : MfClassicListener) (event : ClassicListenerEvent) : Option AuthTarget := do
  let buffer ← event.buffer?
  let handler ← instanc.handlerOf (instanc.plainFrame buffer)
  handler.request (instanc.plainFrame buffer)

/-- An authentication has succeeded when the listener becomes authenticated; it
is for what was requested before. -/
def ClassicSession.next (session : ClassicSession) (instanc after : MfClassicListener) (event : ClassicListenerEvent) :
    ClassicSession where
  request := (authRequest instanc event).or session.request
  authenticated :=
    if instanc.state = .idle ∧ after.state = .authComplete then session.request else session.authenticated

structure Observed where
  instanc : MfClassicListener
  session : ClassicSession

/-- The nonce that an event may draw, and the event. -/
abbrev ClassicInput := Bytes 4 × ClassicListenerEvent

def observedRun (input : ClassicInput) : Effect MfClassicFault Observed NfcCommand := fun observed =>
  let ran := mfClassicListenerRun input.1 input.2 observed.instanc
  (ran.1, ⟨ran.2, observed.session.next observed.instanc ran.2 input.2⟩)

def observedStart (data : MfClassicData) : Observed := ⟨mfClassicListenerAlloc data, ⟨none, none⟩⟩

def trailerAction (place : Nat) : MfClassicAction :=
  if place < 6 then .keyAWrite else if place < 10 then .acWrite else .keyBWrite

def ChangeAllowed (data : MfClassicData) (keyType : MfClassicKeyType) (blockNum : Nat) (block : MfClassicBlock) :
    MfClassicListenerCommandHandler → Prop
  | .writeBlockSecondPart =>
    if mfClassicIsSectorTrailer blockNum then
      ∀ place, byteAt block place ≠ byteAt (data.blockAt blockNum) place →
        mfClassicIsAllowedAccess data blockNum keyType (trailerAction place) = true
    else mfClassicIsAllowedAccess data blockNum keyType .dataWrite = true
  | .valueTransfer => mfClassicIsAllowedAccess data blockNum keyType .dataDec = true
  | _ => False

structure Admitted (observed : Observed) (after : MfClassicListener) (blockNum : Nat) : Prop where
  notFirst : blockNum ≠ 0
  rightful : ∃ target handler, observed.session.authenticated = some target ∧
    observed.instanc.pending = some handler ∧
    mfClassicGetSectorByBlock blockNum = mfClassicGetSectorByBlock target.1.toNat ∧
    ChangeAllowed observed.instanc.data target.2 blockNum (after.data.blockAt blockNum) handler

def ChangesRightfully (observed : Observed) (after : MfClassicListener) : Prop :=
  ∃ blockNum, (∀ other, other ≠ blockNum → after.data.blockAt other = observed.instanc.data.blockAt other) ∧
    (after.data.blockAt blockNum ≠ observed.instanc.data.blockAt blockNum → Admitted observed after blockNum)

/-- A TRANSFER that the access bits admit is for a block of the sector of the
last authentication, and not for block 0. -/
def TransferStays (input : ClassicInput) (observed : Observed) : Prop :=
  ∀ buffer, input.2.buffer? = some buffer → observed.instanc.pending = some .valueTransfer →
    let plain := observed.instanc.plainFrame buffer
    plain.sizeBytes = 2 → plain.byte 0 = 0xB0#8 → observed.instanc.allows (plain.byte 1).toNat .dataDec = true →
        plain.byte 1 ≠ 0#8 ∧ observed.instanc.InAuthSector (plain.byte 1).toNat

/-! ## Invariant -/

/-- What is known before a handler in the middle of a command. -/
def Ready (session : ClassicSession) (instanc : MfClassicListener) : MfClassicListenerCommandHandler → Prop
  | .authSecondPart => instanc.state = .idle ∧
      session.request = some (instanc.authContext.blockNum, instanc.authContext.keyType)
  | .writeBlockSecondPart => instanc.state = .authComplete ∧ instanc.writeBlock ≠ 0#8 ∧
      instanc.InAuthSector instanc.writeBlock.toNat
  | .valueDataReceive | .valueTransfer => instanc.state = .authComplete
  | _ => True

structure SessionSound (session : ClassicSession) (instanc : MfClassicListener) : Prop where
  authenticated : instanc.state = .authComplete →
    session.authenticated = some (instanc.authContext.blockNum, instanc.authContext.keyType)
  ready : ∀ handler, instanc.pending = some handler → Ready session instanc handler

section
variable {nt : Bytes 4} {buffer : BitBuffer} {instanc after : MfClassicListener} {session : ClassicSession}
  {event : ClassicListenerEvent} {handler : MfClassicListenerCommandHandler} {place : Nat × Nat}

theorem sessionSound_reset (session : ClassicSession) (instanc : MfClassicListener) :
    SessionSound session (mfClassicListenerResetState instanc) :=
  ⟨(fun authenticated => nomatch authenticated), (fun _ waits => nomatch waits)⟩

abbrev handlerStart (instanc : MfClassicListener) (buffer : BitBuffer) (place : Nat × Nat) : MfClassicListener :=
  (instanc.cleared.received buffer).at_ place

theorem handlerStart_eq (instanc : MfClassicListener) (buffer : BitBuffer) (place : Nat × Nat) :
    handlerStart instanc buffer place =
      { instanc with
        crypto := (handlerStart instanc buffer place).crypto
        rxPlainBuffer := (handlerStart instanc buffer place).rxPlainBuffer
        currentCmdIdx := place.1
        currentCmdHandlerIdx := place.2
        sent := [] } := by
  unfold handlerStart MfClassicListener.at_ MfClassicListener.received
  split <;> rfl

theorem pending_of_handled (there : instanc.addressed (instanc.plainFrame buffer) = some place)
    (found : handlerAt place.1 place.2 = some handler) (later : handler.starts = false) :
    instanc.pending = some handler := by
  unfold MfClassicListener.addressed at there
  unfold MfClassicListener.pending
  split at there
  · rename_i busy
    cases there
    rw [if_pos busy]
    exact found
  · rw [Option.map_eq_some_iff] at there
    obtain ⟨i, _, rfl⟩ := there
    exact absurd (handlerAt_first found) (by rw [later]; exact Bool.false_ne_true)

theorem ready_of_starts (starts : handler.starts = true) : Ready session instanc handler := by
  cases handler <;> trivial

theorem ready_start (sound : SessionSound session instanc)
    (there : instanc.addressed (instanc.plainFrame buffer) = some place)
    (found : handlerAt place.1 place.2 = some handler) :
    Ready session (handlerStart instanc buffer place) handler := by
  cases starts : handler.starts with
  | true => exact ready_of_starts starts
  | false =>
    have ready := sound.ready handler (pending_of_handled there found starts)
    rw [handlerStart_eq]
    cases handler <;> exact ready

theorem next_request (frame : event.buffer? = some buffer)
    (there : instanc.addressed (instanc.plainFrame buffer) = some place)
    (found : handlerAt place.1 place.2 = some handler) :
    (session.next instanc after event).request =
      (handler.request (instanc.plainFrame buffer)).or session.request := by
  have whose : instanc.handlerOf (instanc.plainFrame buffer) = some handler := by
    unfold MfClassicListener.handlerOf
    rw [there]
    exact found
  unfold ClassicSession.next authRequest
  simp [frame, whose]

theorem next_authenticated (stays : ¬ (instanc.state = .idle ∧ after.state = .authComplete)) :
    (session.next instanc after event).authenticated = session.authenticated := if_neg stays

variable {command : MfClassicListenerCommand}

theorem sessionSound_handled (sound : SessionSound session instanc)
    (frame : event.buffer? = some buffer) (there : instanc.addressed (instanc.plainFrame buffer) = some place)
    (found : handlerAt place.1 place.2 = some handler)
    (change : HandlerChange nt (instanc.plainFrame buffer) (handlerStart instanc buffer place) handler command after)
    (goesOn : ¬ (command = .nack ∨ command = .sleep)) :
    SessionSound (session.next instanc after event) after := by
  have ready := ready_start sound there found
  have follows := handlerAt_next found
  have request : (session.next instanc after event).request = _ := next_request frame there found
  rw [handlerStart_eq] at ready change
  -- In an authenticated session nothing but an authentication changes what is authenticated.
  have kept {after : MfClassicListener} (authenticated : instanc.state = .authComplete) :
      (session.next instanc after event).authenticated =
        some (instanc.authContext.blockNum, instanc.authContext.keyType) := by
    have stays : ¬ (instanc.state = .idle ∧ after.state = .authComplete) := by
      rw [authenticated]
      exact fun both => nomatch both.1
    rw [next_authenticated stays]
    exact sound.authenticated authenticated
  cases change with
  | refused refuses => exact absurd refuses goesOn
  | authFirstPart keyType asks known =>
    refine ⟨(fun authenticated => nomatch authenticated), fun later waits => ?_⟩
    have next : handlerAt place.1 (place.2 + 1) = some later := waits
    rw [follows] at next
    cases keyType <;> cases asks <;> cases next <;> exact ⟨rfl, request⟩
  | authSecondPart whole right =>
    obtain ⟨idle, asked⟩ := ready
    exact ⟨fun _ => (if_pos ⟨idle, rfl⟩).trans asked, (fun _ waits => nomatch waits)⟩
  | readBlock authenticated inside =>
    refine ⟨fun _ => kept authenticated, fun later waits => ?_⟩
    have same : later = .readBlock := by
      unfold MfClassicListener.pending at waits
      split at waits
      · exact Option.some.inj (waits.symm.trans found)
      · cases waits
    rw [same]
    trivial
  | writeBlockFirstPart authenticated notFirst inside =>
    refine ⟨fun _ => kept authenticated, fun later waits => ?_⟩
    have next : handlerAt place.1 (place.2 + 1) = some later := waits
    rw [follows] at next
    cases next
    exact ⟨authenticated, notFirst, inside⟩
  | writeBlockSecondPart written => exact ⟨fun _ => kept ready.1, (fun _ waits => nomatch waits)⟩
  | valueCmd starts authenticated =>
    refine ⟨fun _ => kept authenticated, fun later waits => ?_⟩
    have next : handlerAt place.1 (place.2 + 1) = some later := waits
    rw [follows] at next
    rcases starts with rfl | rfl | rfl <;> cases next <;> exact authenticated
  | valueDataReceive =>
    refine ⟨fun _ => kept ready, fun later waits => ?_⟩
    have next : handlerAt place.1 (place.2 + 1) = some later := waits
    rw [follows] at next
    cases next
    exact ready
  | valueTransfer size transfers allowed => exact ⟨fun _ => kept ready, (fun _ waits => nomatch waits)⟩

theorem answered_eq (goesOn : ¬ (command = .nack ∨ command = .sleep)) : after.answered command =
      { after with crypto := (after.answered command).crypto, sent := (after.answered command).sent } := by
  cases command with
  | nack => exact absurd (.inl rfl) goesOn
  | sleep => exact absurd (.inr rfl) goesOn
  | _ => rfl

theorem answered_reset (refuses : command = .nack ∨ command = .sleep) :
    ∃ before, after.answered command = mfClassicListenerResetState before ∧ before.data = after.data := by
  rcases refuses with rfl | rfl
  · exact ⟨_, rfl, rfl⟩
  · exact ⟨_, rfl, rfl⟩

/-- **Every event keeps what is known of the session.** -/
theorem sessionSound_event (sound : SessionSound session instanc) {outcome : Except MfClassicFault NfcCommand}
    (change : EventChange nt instanc event outcome after) : SessionSound (session.next instanc after event) after := by
  cases change with
  | reset noFrame => exact sessionSound_reset _ _
  | overlong frame long =>
    refine ⟨fun authenticated => ?_, fun later waits => ?_⟩
    · have stays : ¬ (instanc.state = .idle ∧ instanc.cleared.state = .authComplete) :=
        fun both => nomatch both.1.symm.trans both.2
      rw [next_authenticated stays]
      exact sound.authenticated authenticated
    · -- The one handler that asks for a request is not waited for while frames are decrypted.
      have ready := sound.ready later waits
      cases later with
      | authSecondPart => exact nomatch ready.1.symm.trans long.1.2
      | _ => exact ready
  | unknown frame nowhere => exact sessionSound_reset _ _
  | outside frame there missing =>
    rename_i buffer place
    show SessionSound _ (handlerStart instanc buffer place)
    rw [handlerStart_eq]
    refine ⟨fun authenticated => ?_, fun later waits => ?_⟩
    · have authenticated : instanc.state = .authComplete := authenticated
      rw [next_authenticated fun both => nomatch both.1.symm.trans authenticated]
      exact sound.authenticated authenticated
    · unfold MfClassicListener.pending at waits
      split at waits
      · exact nomatch waits.symm.trans missing
      · cases waits
  | handled frame there found change =>
    rename_i buffer place handler command after
    by_cases refuses : command = .nack ∨ command = .sleep
    · obtain ⟨before, same, -⟩ := @answered_reset after _ refuses
      rw [same]
      exact sessionSound_reset _ _
    · have handled := sessionSound_handled sound frame there found change refuses
      rw [answered_eq refuses]
      exact ⟨handled.authenticated, handled.ready⟩

variable {block : MfClassicBlock}

theorem takeBytes_byteAt {buff : BitBuffer} {start stop place : Nat} (outside : ¬ (start ≤ place ∧ place < stop)) :
    byteAt (takeBytes block buff start stop) place = byteAt block place := by
  unfold byteAt takeBytes
  by_cases inside : place < 16
  · simp [inside, outside]
  · simp [inside]

/-- A part that the access bits keep is kept. -/
theorem takeBytes_kept {allowed : Bool} {buff : BitBuffer} {start stop place : Nat}
    (kept : start ≤ place → place < stop → allowed = false) :
    byteAt (if allowed then takeBytes block buff start stop else block) place = byteAt block place := by
  cases allowed with
  | false => rfl
  | true => exact takeBytes_byteAt fun inside => nomatch kept inside.1 inside.2

theorem changeAllowed_of_written {data : MfClassicData} {keyType : MfClassicKeyType} {blockNum : Nat}
    {buff : BitBuffer} (written : writtenBlock data blockNum keyType buff = some block) :
    ChangeAllowed data keyType blockNum block .writeBlockSecondPart := by
  unfold writtenBlock at written
  show if _ then _ else _
  by_cases trailer : mfClassicIsSectorTrailer blockNum = true
  · rw [if_pos trailer] at written ⊢
    intro place differs
    split at written
    · cases written
    · cases written
      cases allowed : mfClassicIsAllowedAccess data blockNum keyType (trailerAction place) with
      | true => rfl
      | false =>
        refine absurd ?_ differs
        unfold trailerAction at allowed
        rw [takeBytes_kept, takeBytes_kept, takeBytes_kept]
        · intro _ below
          rwa [if_pos below] at allowed
        · intro above _
          rwa [if_neg (by omega), if_neg (by omega)] at allowed
        · intro above below
          rwa [if_neg (by omega), if_pos below] at allowed
  · rw [if_neg trailer] at written ⊢
    split at written
    · assumption
    · cases written

theorem withBlock_other {blockNum other : Nat} (apart : other ≠ blockNum) :
    (instanc.withBlock blockNum block).blockAt other = instanc.data.blockAt other := by
  unfold MfClassicListener.withBlock MfClassicData.blockAt
  simp only [Vector.getElem?_setIfInBounds_ne (Ne.symm apart)]

theorem withBlock_same {blockNum : Nat} (inside : blockNum < 256) :
    (instanc.withBlock blockNum block).blockAt blockNum = block := by
  unfold MfClassicListener.withBlock MfClassicData.blockAt
  simp [inside]

theorem answered_data (command : MfClassicListenerCommand) : (after.answered command).data = after.data := by
  cases command <;> rfl

/-- An event after which all blocks are as they were. -/
theorem changesRightfully_of_same {observed : Observed} (same : after.data = observed.instanc.data) :
    ChangesRightfully observed after :=
  ⟨0, fun other _ => by rw [same], fun changed => absurd (by rw [same]) changed⟩

/-- **What an event changes is rightful, unless it is a TRANSFER that strays.** -/
theorem changesRightfully_event (sound : SessionSound session instanc)
    (stays : TransferStays (nt, event) ⟨instanc, session⟩) {outcome : Except MfClassicFault NfcCommand} (change : EventChange nt instanc event outcome after) :
    ChangesRightfully ⟨instanc, session⟩ after := by
  cases change with
  | reset noFrame => exact changesRightfully_of_same rfl
  | overlong frame long => exact changesRightfully_of_same rfl
  | unknown frame nowhere =>
    apply changesRightfully_of_same
    unfold MfClassicListener.received
    split <;> rfl
  | outside frame there missing =>
    apply changesRightfully_of_same
    unfold MfClassicListener.received MfClassicListener.at_
    split <;> rfl
  | handled frame there found change =>
    rename_i buffer place handler command after
    have ready := ready_start sound there found
    have waits := pending_of_handled there found
    have change : HandlerChange nt _ (handlerStart instanc buffer place) handler command after := change
    rw [handlerStart_eq] at ready change
    cases change with
    | refused refuses same =>
      apply changesRightfully_of_same
      rw [answered_data]
      exact same
    | writeBlockSecondPart written =>
      rename_i block
      obtain ⟨authenticated, notFirst, inside⟩ := ready
      refine ⟨instanc.writeBlock.toNat, fun other apart => withBlock_other apart, fun _ => ⟨?_, ?_⟩⟩
      · exact fun zero => notFirst (BitVec.eq_of_toNat_eq zero)
      · refine ⟨_, _, sound.authenticated authenticated, waits rfl, inside, ?_⟩
        show ChangeAllowed _ _ _ ((instanc.withBlock instanc.writeBlock.toNat block).blockAt _) _
        rw [withBlock_same instanc.writeBlock.isLt]
        exact changeAllowed_of_written written
    | valueTransfer size transfers allowed =>
      obtain ⟨notFirst, inside⟩ := stays buffer frame (waits rfl) size transfers allowed
      refine ⟨_, fun other apart => withBlock_other apart, fun _ => ⟨?_, ?_⟩⟩
      · exact fun zero => notFirst (BitVec.eq_of_toNat_eq zero)
      · exact ⟨_, _, sound.authenticated ready, waits rfl, inside, allowed⟩
    | _ =>
      apply changesRightfully_of_same
      rw [answered_data]

end

/-- **In a run in which every TRANSFER stays in the sector of the last authentication
and off block 0, so does every change of a block, and the access bits allow it.** -/
theorem blocks_change_rightfully (data : MfClassicData) {inputs : List ClassicInput} {observed : Observed}
    (run : Reaches observedRun TransferStays (observedStart data) inputs observed) (input : ClassicInput)
    (stays : TransferStays input observed) : ChangesRightfully observed (observedRun input observed).2.instanc := by
  let holds (observed : Observed) : Prop := SessionSound observed.session observed.instanc
  have initially : holds (observedStart data) :=
    ⟨(fun authenticated => nomatch authenticated), (fun _ waits => nomatch waits)⟩
  have sound : holds observed := reaches_preserves run initially fun input observed _ sound =>
    sessionSound_event sound (mfClassicListenerRun_change input.1 observed.instanc input.2)
  exact changesRightfully_event sound stays (mfClassicListenerRun_change input.1 observed.instanc input.2)

/-- The trailer of a card as it is delivered: the keys are all ones, and the access
bits allow everything to key A. -/
def transportTrailer : MfClassicBlock :=
  Vector.ofFn fun i =>
    if i.val = 7 then 0x07#8 else if i.val = 8 then 0x80#8 else if i.val = 9 then 0x69#8 else 0xFF#8

/-- A 1K card as it is delivered, with a value in block 4. -/
def transportCard : MfClassicData where
  iso14443_3aData := ⟨Vector.replicate 10 0#8, 4, Vector.replicate 2 0#8, 0x08#8⟩
  type := .type1k
  blockReadMask := Vector.replicate 8 0#32
  keyAMask := 0#64
  keyBMask := 0#64
  block := Vector.ofFn fun i : Fin 256 =>
    if mfClassicIsSectorTrailer i then transportTrailer
    else if i.val = 4 then mfClassicValueToBlock 0#32 4#8 else Vector.replicate 16 0#8

/-- A frame with the nonce that the card draws if it is asked for one. -/
def readerFrame (data : List (BitVec 8)) : ClassicInput :=
  (#v[0x01#8, 0x20#8, 0x01#8, 0x45#8], .receivedData (.ofBytes data))

def authRequestFrame : ClassicInput := readerFrame [0x60#8, 0x04#8]
def readerAnswerFrame : ClassicInput :=
  readerFrame [0xF2#8, 0x63#8, 0xAA#8, 0x48#8, 0x70#8, 0x53#8, 0x2C#8, 0x65#8]
def incrementFrame : ClassicInput := readerFrame [0x22#8, 0xB3#8, 0xA8#8, 0x05#8]
def amountFrame : ClassicInput := readerFrame [0x72#8, 0xE2#8, 0x52#8, 0x87#8, 0xF7#8, 0x56#8]

def transferHome : ClassicInput := readerFrame [0x9B#8, 0xFD#8, 0x4B#8, 0x50#8]

/-- TRANSFER to block 8, of the next sector. -/
def transferAway : ClassicInput := readerFrame [0x9B#8, 0xF1#8, 0x27#8, 0x9A#8]

def requested : Observed := (observedRun authRequestFrame (observedStart transportCard)).2
def authenticated : Observed := (observedRun readerAnswerFrame requested).2
def increments : Observed := (observedRun incrementFrame authenticated).2

/-- The reader has authenticated for block 4 with key A and has incremented it by
one, with encrypted frames; only the TRANSFER is missing. -/
def incremented : Observed := (observedRun amountFrame increments).2

theorem incremented_seen : ((observedRun authRequestFrame (observedStart transportCard)).1 = .ok .continue ∧
      (observedRun readerAnswerFrame requested).1 = .ok .continue ∧
      (observedRun incrementFrame authenticated).1 = .ok .continue ∧
      (observedRun amountFrame increments).1 = .ok .reset) ∧
    ((observedStart transportCard).instanc.pending ≠ some .valueTransfer ∧
      requested.instanc.pending ≠ some .valueTransfer ∧
      authenticated.instanc.pending ≠ some .valueTransfer ∧
      increments.instanc.pending ≠ some .valueTransfer) ∧
    incremented.session.authenticated = some (0x04#8, .a) ∧
    (incremented.instanc.plainFrame (.ofBytes [0x9B#8, 0xFD#8, 0x4B#8, 0x50#8])).byte 1 = 0x04#8 ∧
    incremented.instanc.authContext.blockNum = 0x04#8 ∧
    (observedRun transferAway incremented).1 = .ok .continue ∧
    (observedRun transferAway incremented).2.instanc.data.blockAt 8 ≠ incremented.instanc.data.blockAt 8 := by
  decide +kernel

theorem incremented_reached {guard : ClassicInput → Observed → Prop}
    (admits : ∀ input observed, observed.instanc.pending ≠ some .valueTransfer → guard input observed) :
    Reaches observedRun guard (observedStart transportCard)
      [authRequestFrame, readerAnswerFrame, incrementFrame, amountFrame] incremented := by
  obtain ⟨⟨first, second, third, fourth⟩, ⟨before, waiting, idle, counting⟩, _⟩ := incremented_seen
  have run : Reaches observedRun guard (observedStart transportCard) [authRequestFrame] requested :=
    .step .start (admits _ _ before) first
  have run : Reaches observedRun guard (observedStart transportCard) [authRequestFrame, readerAnswerFrame]
      authenticated := .step run (admits _ _ waiting) second
  have run : Reaches observedRun guard (observedStart transportCard)
      [authRequestFrame, readerAnswerFrame, incrementFrame] increments := .step run (admits _ _ idle) third
  exact .step run (admits _ _ counting) fourth

theorem blocks_change_rightfully_home :
    ChangesRightfully incremented (observedRun transferHome incremented).2.instanc := by
  obtain ⟨_, _, _, home, target, _⟩ := incremented_seen
  refine blocks_change_rightfully transportCard
    (incremented_reached fun _ _ other _ _ waits => absurd waits other) transferHome ?_
  rintro _ ⟨⟩ _ plain _ _ _
  have fourth : plain.byte 1 = 0x04#8 := home
  unfold MfClassicListener.InAuthSector
  rw [fourth, target]
  decide

/-- The reader has authenticated for sector 1 only, and TRANSFER writes the value
to sector 2. -/
theorem transfer_strays : Reaches observedRun (fun _ _ => True) (observedStart transportCard)
        [authRequestFrame, readerAnswerFrame, incrementFrame, amountFrame] incremented ∧
      (observedRun transferAway incremented).1 = .ok .continue ∧
      ¬ ChangesRightfully incremented (observedRun transferAway incremented).2.instanc := by
  obtain ⟨_, _, authenticated, _, _, answered, changed⟩ := incremented_seen
  refine ⟨incremented_reached fun _ _ _ => trivial, answered, ?_⟩
  rintro ⟨blockNum, others, rightful⟩
  have eighth : blockNum = 8 := Decidable.byContradiction fun apart => changed (others 8 (Ne.symm apart))
  subst eighth
  obtain ⟨target, _, same, _, sector, _⟩ := (rightful changed).rightful
  cases authenticated.symm.trans same
  revert sector
  decide

end Xtreme.Nfc
