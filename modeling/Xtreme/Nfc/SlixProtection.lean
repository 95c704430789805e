import Xtreme.Nfc.SlixListener
import Xtreme.Nfc.Iso15693Guards
import Xtreme.Library.Simulation

/-! What the passwords of a SLIX card protect.

Only SET_PASSWORD makes the listener note that the password for reading or the one
for writing was given (`run_matches`). Before the first, the extension hides what it
protects, and cards that differ there only answer alike (`run_alike`); before the
second, the extension seals what that protects (`run_sealed`). -/
namespace Xtreme.Nfc
open Xtreme.Library BitLib Toolbox
open Effect (Relates)

namespace SlixListener

def acceptedRequest (instanc : SlixListener) (rxBuffer : BitBuffer) : Option SlixPasswordType :=
  match slixListenerRequest instanc rxBuffer with
  | .error _ => none
  | .ok request =>
    -- `SLIX_CMD_SET_PASSWORD`
    if request.command = 0xB3#8 ∧ request.data.length = 5 then
      (slixListenerGetPasswordTypeById (request.data.getD 0 0)).filter fun passwordType =>
        slixTypeSupportsPassword instanc.outsideFeatures (slixGetType instanc.card) passwordType &&
          decide (slixPasswordReceived instanc request.data 1 = instanc.passwords passwordType)
    else none

/-- The password that an event sets right: SET_PASSWORD with the correct one. -/
def accepted (instanc : SlixListener) (event : SlixEvent) : Option SlixPasswordType :=
  let served := slixListenerServeStandard instanc event.event
  (served.customCommand event.event).bind served.acceptedRequest

def after (instanc : SlixListener) (events : List SlixEvent) : SlixListener := events.foldl slixListenerRun instanc

def acceptedIn (instanc : SlixListener) : List SlixEvent → List SlixPasswordType
  | [] => []
  | event :: rest => (instanc.accepted event).toList ++ (slixListenerRun instanc event).acceptedIn rest

def answers (instanc : SlixListener) : List SlixEvent → List (List (List (BitVec 8)))
  | [] => []
  | event :: rest => (slixListenerRun instanc event).responses :: (slixListenerRun instanc event).answers rest

end SlixListener

/-! ## Custom requests -/

/-- What a custom request does: the card stays, the protection changes only if both
passwords were given and its lock is open, and a password counts as given only if it
was or is granted. That for privacy is set aside, as ENABLE_PRIVACY takes it too. -/
structure Serves (instanc next : SlixListener) (grants : SlixPasswordType → Prop) : Prop where
  card : next.card = instanc.card
  table : next.iso15693_3Listener.extensionTable = instanc.iso15693_3Listener.extensionTable
  features : next.outsideFeatures = instanc.outsideFeatures
  lockBits : next.systemInfo.lockBits = instanc.systemInfo.lockBits
  protection : next.systemInfo.protection ≠ instanc.systemInfo.protection →
    instanc.sessionState.passwordMatch .read = true ∧ instanc.sessionState.passwordMatch .write = true ∧
      instanc.systemInfo.lockBits.ppl = false
  matched : ∀ passwordType, passwordType ≠ .privacy → next.sessionState.passwordMatch passwordType = true →
    instanc.sessionState.passwordMatch passwordType = true ∨ grants passwordType

section
variable {instanc next : SlixListener} {grants : SlixPasswordType → Prop} {error : SlixError}

theorem serves_refl : Serves instanc instanc grants :=
  ⟨rfl, rfl, rfl, rfl, fun changed => absurd rfl changed, fun _ _ given => .inl given⟩

theorem serves_answer {changed : SlixListener} (serves : Serves instanc next grants) (card : changed.card = next.card)
    (table : changed.iso15693_3Listener.extensionTable = next.iso15693_3Listener.extensionTable)
    (features : changed.outsideFeatures = next.outsideFeatures) (info : changed.systemInfo = next.systemInfo)
    (session : changed.sessionState.passwordMatch = next.sessionState.passwordMatch) :
    Serves instanc changed grants := by
  refine ⟨card.trans serves.card, table.trans serves.table, features.trans serves.features, ?_, ?_, ?_⟩
  · rw [info]
    exact serves.lockBits
  · rw [info]
    exact serves.protection
  · rw [session]
    exact serves.matched

theorem Serves.grant {granted : SlixPasswordType → Prop} (serves : Serves instanc next grants)
    (more : ∀ passwordType, passwordType ≠ .privacy → grants passwordType → granted passwordType) :
    Serves instanc next granted :=
  ⟨serves.card, serves.table, serves.features, serves.lockBits, serves.protection,
    fun given other now => (serves.matched given other now).imp_right (more given other)⟩

/-- The note of one password is made anew. -/
theorem serves_setMatch (passwordType : SlixPasswordType) {right : Bool}
    (granted : right = true → grants passwordType) : Serves instanc (instanc.setMatch passwordType right) grants := by
  refine ⟨rfl, rfl, rfl, rfl, fun changed => absurd rfl changed, fun given _ now => ?_⟩
  change Function.update instanc.sessionState.passwordMatch passwordType right given = true at now
  by_cases this : given = passwordType
  · subst this
    rw [Function.update_self] at now
    exact .inr (granted now)
  · rw [Function.update_of_ne this] at now
    exact .inl now

theorem supportsPassword_eq {passwordType : SlixPasswordType} {supported : Bool}
    (known : slixListenerSupportsPassword instanc passwordType = some supported) :
    slixTypeSupportsPassword instanc.outsideFeatures (slixGetType instanc.card) passwordType = supported := by
  unfold slixListenerSupportsPassword at known
  dsimp only at known
  split at known
  · cases known
  · exact Option.some.inj known

theorem setPassword_serves {passwordType : Option SlixPasswordType} {password : SlixPassword}
    (ran : slixListenerSetPassword instanc passwordType password = some (error, next)) :
    Serves instanc next fun given => passwordType = some given ∧
      slixTypeSupportsPassword instanc.outsideFeatures (slixGetType instanc.card) given = true ∧
      password = instanc.passwords given := by
  cases passwordType with
  | none =>
    cases ran
    exact serves_refl
  | some passwordType =>
    obtain ⟨supported, known, ran⟩ := Option.bind_eq_some_iff.mp ran
    cases supported with
    | false =>
      cases ran
      exact serves_refl
    | true =>
      cases ran
      exact serves_setMatch passwordType fun right => ⟨rfl, supportsPassword_eq known, of_decide_eq_true right⟩

theorem writePassword_serves {passwordType : Option SlixPasswordType} {password : SlixPassword}
    (ran : slixListenerWritePassword instanc passwordType password = some (error, next)) :
    Serves instanc next grants := by
  cases passwordType with
  | none =>
    cases ran
    exact serves_refl
  | some passwordType =>
    obtain ⟨supported, known, ran⟩ := Option.bind_eq_some_iff.mp ran
    cases supported with
    | false =>
      cases ran
      exact serves_refl
    | true =>
      rw [if_neg (by decide)] at ran
      split at ran
      · cases ran
        exact serves_answer (@serves_setMatch instanc grants passwordType false fun right => nomatch right) rfl rfl rfl rfl rfl
      · cases ran
        exact serves_refl

def SlixListener.Grants (instanc : SlixListener) (data : List (BitVec 8)) (passwordType : SlixPasswordType) : Prop :=
  data.length = 5 ∧ slixListenerGetPasswordTypeById (data.getD 0 0) = some passwordType ∧
    slixTypeSupportsPassword instanc.outsideFeatures (slixGetType instanc.card) passwordType = true ∧
    slixPasswordReceived instanc data 1 = instanc.passwords passwordType

theorem setPasswordHandler_serves {data : List (BitVec 8)}
    (ran : slixListenerSetPasswordHandler instanc data = some (error, next)) :
    Serves instanc next (instanc.Grants data) := by
  unfold slixListenerSetPasswordHandler at ran
  by_cases short : data.length ≠ 5
  · rw [if_pos short] at ran
    cases ran
    exact serves_refl
  · rw [if_neg short] at ran
    obtain ⟨⟨first, set⟩, known, ran⟩ := Option.bind_eq_some_iff.mp ran
    have granted : Serves instanc set (instanc.Grants data) :=
      (setPassword_serves known).grant fun given other grant => ⟨not_not.mp short, grant⟩
    dsimp only at ran
    split at ran
    · cases ran
      exact granted
    · cases ran
      split
      · exact serves_answer granted rfl rfl rfl rfl rfl
      · exact granted

theorem enablePrivacyHandler_serves {data : List (BitVec 8)}
    (ran : slixListenerEnablePrivacyHandler instanc data = some (error, next)) : Serves instanc next grants := by
  unfold slixListenerEnablePrivacyHandler at ran
  by_cases short : data.length ≠ 4
  · rw [if_pos short] at ran
    cases ran
    exact serves_refl
  · rw [if_neg short] at ran
    obtain ⟨⟨first, set⟩, known, ran⟩ := Option.bind_eq_some_iff.mp ran
    have only : Serves instanc set grants :=
      (setPassword_serves known).grant fun given other grant => absurd (Option.some.inj grant.1).symm other
    dsimp only at ran
    split at ran
    · cases ran
      exact only
    · cases ran
      exact serves_answer only rfl rfl rfl rfl rfl

theorem protectPageHandler_serves {data : List (BitVec 8)}
    (ran : slixListenerProtectPageHandler instanc data = some (error, next)) : Serves instanc next grants := by
  unfold slixListenerProtectPageHandler at ran
  split at ran
  · cases ran
    exact serves_refl
  split at ran
  · cases ran
    exact serves_refl
  · rename_i opened
    split at ran
    · cases ran
      exact serves_refl
    · rename_i given
      split at ran
      · cases ran
        exact serves_refl
      · cases ran
        refine ⟨rfl, rfl, rfl, rfl, fun _ => ?_, fun _ _ now => .inl now⟩
        simp only [Bool.or_eq_true, Bool.not_eq_true', not_or, Bool.not_eq_false] at given
        exact ⟨given.1, given.2, by simpa using opened⟩

theorem handler_serves {handler : SlixRequestHandler} {data : List (BitVec 8)} {random : BitVec 16}
    (ran : handler.run instanc data random = some (error, next)) :
    Serves instanc next fun given => handler = .setPassword ∧ instanc.Grants data given := by
  cases handler with
  | default =>
    cases ran
    exact serves_refl
  | getNxpSystemInfo =>
    cases ran
    exact serves_answer serves_refl rfl rfl rfl rfl rfl
  | getRandomNumber =>
    cases ran
    exact serves_answer serves_refl rfl rfl rfl rfl rfl
  | setPassword =>
    exact (setPasswordHandler_serves ran).grant fun given other grant => ⟨rfl, grant⟩
  | writePassword =>
    change slixListenerWritePasswordHandler instanc data = _ at ran
    unfold slixListenerWritePasswordHandler at ran
    split at ran
    · cases ran
      exact serves_refl
    · exact writePassword_serves ran
  | protectPage => exact protectPageHandler_serves ran
  | enablePrivacy => exact enablePrivacyHandler_serves ran
  | readSignature =>
    cases ran
    exact serves_answer serves_refl rfl rfl rfl rfl rfl

theorem setPassword_command {command : BitVec 8} (start : 0xA2#8 ≤ command) (stop : command < 0xBE#8)
    (found : slixRequestHandlerTable.getD (tablePlace command 0xA2#8) .default = .setPassword) : command = 0xB3#8 := by
  revert command
  decide

theorem request_command {rxBuffer : BitBuffer} {request : SlixRequest}
    (asked : slixListenerRequest instanc rxBuffer = .ok request) :
    0xA2#8 ≤ request.command ∧ request.command < 0xBE#8 := by
  unfold slixListenerRequest at asked
  dsimp only at asked
  generalize 3 + (if instanc.iso15693_3Listener.sessionState.addressed = true then iso15693_3UidSize else 0) = sizeMin
    at asked
  split at asked
  · cases asked
  split at asked
  · cases asked
  split at asked
  · cases asked
  · rename_i valid
    cases asked
    exact not_not.mp valid

theorem processRequest_serves {rxBuffer : BitBuffer} {random : BitVec 16}
    (ran : slixListenerProcessRequest instanc rxBuffer random = some (error, next)) :
    Serves instanc next fun given => instanc.acceptedRequest rxBuffer = some given := by
  unfold slixListenerProcessRequest at ran
  cases asked : slixListenerRequest instanc rxBuffer with
  | error refusal =>
    rw [asked] at ran
    cases ran
    exact serves_refl
  | ok request =>
    rw [asked] at ran
    obtain ⟨⟨first, handled⟩, known, ran⟩ := Option.bind_eq_some_iff.mp ran
    have begun : Serves instanc handled fun given => instanc.acceptedRequest rxBuffer = some given := by
      have serves := handler_serves known
      refine (⟨serves.card, serves.table, serves.features, serves.lockBits, serves.protection, serves.matched⟩ :
        Serves instanc handled _).grant fun given other grant => ?_
      obtain ⟨called, size, type, supported, right⟩ := grant
      have command := setPassword_command (request_command asked).1 (request_command asked).2 called
      unfold SlixListener.acceptedRequest
      rw [asked]
      dsimp only
      rw [if_pos ⟨command, size⟩, type]
      refine if_pos ?_
      rw [Bool.and_eq_true]
      exact ⟨supported, decide_eq_true right⟩
    dsimp only at ran
    split at ran
    · cases ran
      exact begun
    · cases ran
      split
      · exact serves_answer begun rfl rfl rfl rfl rfl
      · exact serves_answer begun rfl rfl rfl rfl rfl

/-- The part of ISO15693-3 changes the card only. -/
theorem serveStandard_keeps (instanc : SlixListener) (event : Iso15693_3NfcEvent) :
    let served := slixListenerServeStandard instanc event
    served.systemInfo = instanc.systemInfo ∧ served.sessionState = instanc.sessionState := by
  unfold slixListenerServeStandard
  dsimp only
  split <;> exact ⟨rfl, rfl⟩

/-- What an event does beyond its part for ISO15693-3. -/
theorem run_serves (instanc : SlixListener) (event : SlixEvent) :
    Serves (slixListenerServeStandard instanc event.event) (slixListenerRun instanc event)
      fun given => instanc.accepted event = some given := by
  unfold slixListenerRun SlixListener.accepted
  dsimp only
  cases (slixListenerServeStandard instanc event.event).customCommand event.event with
  | none => exact serves_refl
  | some request =>
    dsimp only [Option.bind_some]
    cases ran : slixListenerProcessRequest (slixListenerServeStandard instanc event.event) request event.random with
    | none => exact serves_refl
    | some outcome => exact processRequest_serves ran

theorem run_matches {event : SlixEvent} {passwordType : SlixPasswordType} (other : passwordType ≠ .privacy)
    (given : (slixListenerRun instanc event).sessionState.passwordMatch passwordType = true) :
    instanc.sessionState.passwordMatch passwordType = true ∨ instanc.accepted event = some passwordType := by
  have before := (run_serves instanc event).matched passwordType other given
  rwa [(serveStandard_keeps instanc event.event).2] at before

theorem run_protection {event : SlixEvent}
    (changed : (slixListenerRun instanc event).systemInfo.protection ≠ instanc.systemInfo.protection) :
    instanc.sessionState.passwordMatch .read = true ∧ instanc.sessionState.passwordMatch .write = true ∧
      instanc.systemInfo.lockBits.ppl = false := by
  have serves := (run_serves instanc event).protection
  obtain ⟨info, session⟩ := serveStandard_keeps instanc event.event
  rw [info, session] at serves
  exact serves changed

theorem after_matches {events : List SlixEvent} {passwordType : SlixPasswordType} (other : passwordType ≠ .privacy)
    (given : (instanc.after events).sessionState.passwordMatch passwordType = true) :
    instanc.sessionState.passwordMatch passwordType = true ∨ passwordType ∈ instanc.acceptedIn events := by
  induction events generalizing instanc with
  | nil => exact .inl given
  | cons event rest ih =>
    rcases @ih (slixListenerRun instanc event) given with before | later
    · rcases run_matches other before with already | accepted
      · exact .inl already
      · exact .inr (List.mem_append_left _ (by rw [accepted]; exact List.mem_singleton.mpr rfl))
    · exact .inr (List.mem_append_right _ later)

end

section
variable {data : Iso15693_3Data} {outside : Nat → BitVec 8}

theorem length_incrementCounter : (slixIncrementCounter data outside).blockData.length = data.blockData.length := by
  simp only [slixIncrementCounter, slixBlockSize, slixCounterIncremented, List.length_take, List.length_append,
    List.length_drop, List.length_cons]
  omega

theorem getElem?_incrementCounter {place : Nat} (inside : place < data.blockData.length) :
    (slixIncrementCounter data outside).blockData[place]? =
      if data.blockOffset slixCounterBlockNum ≤ place ∧ place < data.blockOffset slixCounterBlockNum + slixBlockSize then
        (slixCounterIncremented data outside)[place - data.blockOffset slixCounterBlockNum]?
      else data.blockData[place]? := by
  have size : (slixCounterIncremented data outside).length = slixBlockSize := rfl
  have front : (data.blockData.take (data.blockOffset slixCounterBlockNum)).length =
      min (data.blockOffset slixCounterBlockNum) data.blockData.length := List.length_take
  change ((data.blockData.take _ ++ _ ++ data.blockData.drop _).take data.blockData.length)[place]? = _
  rw [List.getElem?_take_of_lt inside, List.append_assoc]
  by_cases early : place < data.blockOffset slixCounterBlockNum
  · rw [List.getElem?_append_left (by omega), List.getElem?_take_of_lt early, if_neg (by omega)]
  · rw [List.getElem?_append_right (by omega), front, Nat.min_eq_left (by omega)]
    by_cases counted : place < data.blockOffset slixCounterBlockNum + slixBlockSize
    · rw [List.getElem?_append_left (by omega), if_pos ⟨by omega, counted⟩]
    · rw [List.getElem?_append_right (by omega), List.getElem?_drop, if_neg (by omega)]
      congr 1
      omega

theorem getElem?_counter {index : Nat} (inside : index < slixBlockSize)
    (there : data.blockOffset slixCounterBlockNum + index < data.blockData.length) :
    (slixIncrementCounter data outside).blockData[data.blockOffset slixCounterBlockNum + index]? =
      (slixCounterIncremented data outside)[index]? := by
  rw [getElem?_incrementCounter there, if_pos ⟨Nat.le_add_right _ _, Nat.add_lt_add_left inside _⟩,
    Nat.add_sub_cancel_left]

theorem block_eq_iff {left right : Iso15693_3Data} (size : left.blockSize = right.blockSize) {index : Nat} :
    left.block index = right.block index ↔
      ∀ place < right.blockSize, left.blockData[right.blockOffset index + place]? =
        right.blockData[right.blockOffset index + place]? := by
  have offset : left.blockOffset index = right.blockOffset index := congrArg (index * ·) size
  unfold Iso15693_3Data.block
  rw [offset, size]
  constructor
  · intro same place inside
    have byte : ((left.blockData.drop (right.blockOffset index)).take right.blockSize)[place]? =
        ((right.blockData.drop (right.blockOffset index)).take right.blockSize)[place]? := by rw [same]
    rwa [List.getElem?_take_of_lt inside, List.getElem?_take_of_lt inside, List.getElem?_drop, List.getElem?_drop] at byte
  · intro same
    apply List.ext_getElem?
    intro place
    rw [List.getElem?_take, List.getElem?_take]
    split
    · rename_i inside
      rw [List.getElem?_drop, List.getElem?_drop]
      exact same place inside
    · rfl

theorem block_incrementCounter (size : data.blockSize = slixBlockSize) {index : Nat}
    (other : index ≠ slixCounterBlockNum) : (slixIncrementCounter data outside).block index = data.block index := by
  have sized : (slixIncrementCounter data outside).blockSize = data.blockSize := rfl
  refine (block_eq_iff sized).mpr fun place inside => ?_
  by_cases there : data.blockOffset index + place < data.blockData.length
  · rw [getElem?_incrementCounter there, if_neg]
    unfold Iso15693_3Data.blockOffset
    rw [size] at inside ⊢
    unfold slixBlockSize at inside ⊢
    omega
  · rw [List.getElem?_eq_none (Nat.not_lt.mp there),
      List.getElem?_eq_none (by rw [length_incrementCounter]; exact Nat.not_lt.mp there)]

/-- A card under whose extension the pages that the password for writing protects have
stayed as in the image, as long as the password was not given. -/
structure Shut (image : SlixData) (instanc : SlixListener) : Prop where
  count : instanc.card.blockCount = image.iso15693_3Data.blockCount
  size : instanc.card.blockSize = image.iso15693_3Data.blockSize
  length : instanc.card.blockData.length = image.iso15693_3Data.blockData.length
  blocks : ∀ index, image.Protected .write index → instanc.card.block index = image.iso15693_3Data.block index
  protection : instanc.systemInfo.protection = image.systemInfo.protection
  locked : instanc.sessionState.passwordMatch .write = false

variable {image : SlixData} {instanc : SlixListener}

theorem isBlockProtected_blockNumber (blockCount : Nat) (protection : SlixProtection) (passwordType : SlixPasswordType)
    (index : Nat) :
    slixIsBlockProtected blockCount protection passwordType (blockNumber index) =
      slixIsBlockProtected blockCount protection passwordType index := by
  unfold slixIsBlockProtected blockNumber
  rw [Nat.mod_mod]

theorem counter_not_protected (blockCount : Nat) (protection : SlixProtection) (passwordType : SlixPasswordType) :
    slixIsBlockProtected blockCount protection passwordType slixCounterBlockNum = false := by
  unfold slixIsBlockProtected
  dsimp only
  split
  · rfl
  split
  · rfl
  · rfl

theorem locks_eq {passwordType : SlixPasswordType} (locked : instanc.sessionState.passwordMatch passwordType = false)
    (index : Nat) : instanc.Locks passwordType index = instanc.isBlockProtected passwordType index := by
  unfold SlixListener.Locks slixListenerIsPasswordLockEnabled
  rw [locked, Bool.not_false, Bool.and_true]

theorem Shut.seals (shut : Shut image instanc) :
    Seals (some (slixIso15693ExtensionHandlerTable instanc)) (image.Protected .write) := by
  constructor
  · intro index byte through
    change slixListenerWriteBlockExtensionHandler instanc [.number index, .memory byte] = .none at through
    unfold slixListenerWriteBlockExtensionHandler at through
    dsimp only at through
    split at through
    · split at through <;> cases through
    split at through
    · cases through
    split at through
    · cases through
    · rename_i opened
      rw [locks_eq shut.locked] at opened
      unfold SlixData.Protected
      rw [isBlockProtected_blockNumber, ← shut.count, ← shut.protection]
      exact opened
  · intro first last through
    cases through

theorem serveStandard_shut (fits : image.Fits) (shut : Shut image instanc) (event : Iso15693_3NfcEvent) :
    Shut image (slixListenerServeStandard instanc event) := by
  have extended : Sealed (image.Protected .write) image.iso15693_3Data { instanc.iso15693_3Listener with
      extensionTable := some (slixIso15693ExtensionHandlerTable instanc) } :=
    ⟨shut.seals, shut.count, shut.size, shut.length, shut.blocks⟩
  have after := next_sealed extended event
  unfold slixListenerServeStandard
  dsimp only
  split
  · refine ⟨after.count, after.size, length_incrementCounter.trans after.length, fun index closed => ?_,
      shut.protection, shut.locked⟩
    refine (block_incrementCounter (after.size.trans fits.size) ?_).trans (after.blocks index closed)
    rintro rfl
    rw [SlixData.Protected, counter_not_protected] at closed
    cases closed
  · exact ⟨after.count, after.size, after.length, after.blocks, shut.protection, shut.locked⟩

/-- Until the password for writing is accepted, what it protects stays. -/
theorem run_shut (fits : image.Fits) (shut : Shut image instanc) {event : SlixEvent}
    (unaccepted : instanc.accepted event ≠ some .write) : Shut image (slixListenerRun instanc event) := by
  have served := serveStandard_shut fits shut event.event
  have serves := run_serves instanc event
  have locked : (slixListenerRun instanc event).sessionState.passwordMatch .write = false := by
    rw [← Bool.not_eq_true]
    intro given
    rcases run_matches (by decide) given with before | accepted
    · rw [shut.locked] at before
      cases before
    · exact unaccepted accepted
  have protection : (slixListenerRun instanc event).systemInfo.protection =
      (slixListenerServeStandard instanc event.event).systemInfo.protection := by
    by_contra changed
    have given := (serves.protection changed).2.1
    rw [served.locked] at given
    cases given
  obtain ⟨count, size, length, blocks, _, _⟩ := served
  rw [← serves.card] at count size length blocks
  exact ⟨count, size, length, blocks, protection.trans (serveStandard_shut fits shut event.event).protection, locked⟩

/-! ## Reading -/

def SlixListener.withPages (instanc : SlixListener) (bytes : List (BitVec 8)) : SlixListener :=
  { instanc with iso15693_3Listener := instanc.iso15693_3Listener.withBlockData bytes }

/-- Two lists of bytes that differ only where the password for reading protects. -/
structure SamePages (card : Iso15693_3Data) (protection : SlixProtection) (bytes : List (BitVec 8)) : Prop where
  length : bytes.length = card.blockData.length
  pages : ∀ index, ¬ slixIsBlockProtected card.blockCount protection .read index = true →
    ({ card with blockData := bytes } : Iso15693_3Data).block index = card.block index

/-- Listeners whose cards differ only in pages that the password for reading
protects, as long as it was not given. -/
inductive SlixAlike (left : SlixListener) : SlixListener → Prop
  | intro (bytes : List (BitVec 8)) (same : SamePages left.card left.systemInfo.protection bytes)
      (size : left.card.blockSize = slixBlockSize) (locked : left.sessionState.passwordMatch .read = false) :
      SlixAlike left (left.withPages bytes)

variable {left right : SlixListener} {card : Iso15693_3Data} {protection : SlixProtection} {bytes : List (BitVec 8)}

variable (same : SamePages card protection bytes)
include same

variable (size : card.blockSize = slixBlockSize)
include size

theorem counterByte_same {index : Nat} (inside : index < slixBlockSize) :
    slixCounterByte { card with blockData := bytes } outside index = slixCounterByte card outside index := by
  have open_ := same.pages slixCounterBlockNum (by rw [counter_not_protected]; decide)
  have sized : ({ card with blockData := bytes } : Iso15693_3Data).blockSize = card.blockSize := rfl
  have byte := (block_eq_iff sized).mp open_ index (size ▸ inside)
  unfold slixCounterByte
  exact congrArg (Option.getD · _) byte

theorem counterIncremented_same :
    slixCounterIncremented { card with blockData := bytes } outside = slixCounterIncremented card outside := by
  have byte (index : Nat) (inside : index < 4) := @counterByte_same outside card protection bytes same size index inside
  unfold slixCounterIncremented
  dsimp only
  rw [byte 0 (by decide), byte 1 (by decide), byte 2 (by decide), byte 3 (by decide)]

theorem incrementCounter_same : SamePages (slixIncrementCounter card outside) protection
      (slixIncrementCounter { card with blockData := bytes } outside).blockData := by
  have counted := @counterIncremented_same outside card protection bytes same size
  have length : (slixIncrementCounter { card with blockData := bytes } outside).blockData.length =
      (slixIncrementCounter card outside).blockData.length := by
    rw [length_incrementCounter, length_incrementCounter]
    exact same.length
  refine ⟨length, fun index shown => ?_⟩
  by_cases this : index = slixCounterBlockNum
  · subst this
    have sized : ({ slixIncrementCounter card outside with
        blockData := (slixIncrementCounter { card with blockData := bytes } outside).blockData } :
        Iso15693_3Data).blockSize = (slixIncrementCounter card outside).blockSize := rfl
    refine (block_eq_iff sized).mpr fun place inside => ?_
    change (slixIncrementCounter { card with blockData := bytes } outside).blockData[card.blockOffset slixCounterBlockNum +
      place]? = (slixIncrementCounter card outside).blockData[card.blockOffset slixCounterBlockNum + place]?
    by_cases there : card.blockOffset slixCounterBlockNum + place < card.blockData.length
    · have counter : place < slixBlockSize := Nat.lt_of_lt_of_eq inside size
      rw [getElem?_counter counter there, ← counted]
      exact @getElem?_counter { card with blockData := bytes } outside place counter (same.length ▸ there)
    · rw [List.getElem?_eq_none (by rw [length_incrementCounter, same.length]; exact Nat.not_lt.mp there),
        List.getElem?_eq_none (by rw [length_incrementCounter]; exact Nat.not_lt.mp there)]
  · have other := @block_incrementCounter { card with blockData := bytes } outside size index this
    rw [block_incrementCounter size this, ← same.pages index shown]
    exact other

omit size

omit same

theorem writeHandler_same (same : SamePages left.card left.systemInfo.protection bytes)
    (size : left.card.blockSize = slixBlockSize) :
    slixListenerWriteBlockExtensionHandler (left.withPages bytes) = slixListenerWriteBlockExtensionHandler left := by
  have counter (outside : Nat → BitVec 8) : slixIsCounterIncrementProtected (left.withPages bytes).card outside =
      slixIsCounterIncrementProtected left.card outside := by
    have byte := @counterByte_same outside left.card left.systemInfo.protection bytes same size 3 (by decide)
    exact congrArg (fun byte => decide (byte ≠ 0#8)) byte
  unfold slixListenerWriteBlockExtensionHandler
  rw [counter]
  rfl

theorem table_same (same : SamePages left.card left.systemInfo.protection bytes)
    (size : left.card.blockSize = slixBlockSize) :
    slixIso15693ExtensionHandlerTable (left.withPages bytes) = slixIso15693ExtensionHandlerTable left := by
  unfold slixIso15693ExtensionHandlerTable
  rw [writeHandler_same same size]
  rfl

theorem hides_protected (locked : left.sessionState.passwordMatch .read = false) :
    Hides (some (slixIso15693ExtensionHandlerTable left)) fun index =>
      slixIsBlockProtected left.card.blockCount left.systemInfo.protection .read index = true := by
  constructor
  · intro index through
    change slixListenerReadBlockExtensionHandler left [.number index] = .none at through
    rw [isBlockProtected_blockNumber]
    unfold slixListenerReadBlockExtensionHandler at through
    dsimp only at through
    split at through
    · rename_i counter
      rw [counter, counter_not_protected]
      exact Bool.false_ne_true
    split at through
    · cases through
    · rename_i opened
      rwa [locks_eq locked] at opened
  · intro first last through index above below
    change slixListenerReadMultiBlockExtensionHandler left [.number first, .number last] = .none at through
    rw [isBlockProtected_blockNumber]
    unfold slixListenerReadMultiBlockExtensionHandler at through
    dsimp only at through
    split at through
    · cases through
    · rename_i opened
      rw [Bool.not_eq_true, List.any_eq_false] at opened
      have shown := opened index (List.mem_range'_1.mpr ⟨above, by omega⟩)
      rw [locks_eq locked] at shown
      by_cases counter : index = slixCounterBlockNum
      · rw [counter, counter_not_protected]
        exact Bool.false_ne_true
      · rwa [decide_eq_true counter] at shown

theorem next_keepsMake (instanc : Iso15693_3Listener) (event : Iso15693_3NfcEvent) :
    (instanc.next event).data.blockCount = instanc.data.blockCount ∧
      (instanc.next event).data.blockSize = instanc.data.blockSize := by
  have none_closed : Seals instanc.extensionTable fun _ => False := ⟨fun _ _ _ shut => shut, fun _ _ _ _ _ _ shut => shut⟩
  have kept := next_sealed (⟨none_closed, rfl, rfl, rfl, fun _ shut => nomatch shut⟩ :
    Sealed (fun _ => False) instanc.data instanc) event
  exact ⟨kept.count, kept.size⟩

theorem serveStandard_alike (alike : SlixAlike left right) (event : Iso15693_3NfcEvent) :
    SlixAlike (slixListenerServeStandard left event) (slixListenerServeStandard right event) := by
  cases alike with
  | intro bytes same size locked =>
    let extended : Iso15693_3Listener := { left.iso15693_3Listener with
      extensionTable := some (slixIso15693ExtensionHandlerTable left) }
    have extendedToo : { (left.withPages bytes).iso15693_3Listener with
        extensionTable := some (slixIso15693ExtensionHandlerTable (left.withPages bytes)) } =
          extended.withBlockData bytes := by
      rw [table_same same size]
      rfl
    have begins : Alike (fun index =>
        slixIsBlockProtected left.card.blockCount left.systemInfo.protection .read index = true) slixBlockSize extended
        (extended.withBlockData bytes) := .intro bytes same.length same.pages size (hides_protected locked)
    have ends := (blind_run event extended _ begins).2
    have make := next_keepsMake extended event
    unfold Iso15693_3Listener.next at make
    unfold slixListenerServeStandard
    dsimp only
    rw [extendedToo]
    revert ends make
    generalize (iso15693_3ListenerRun event extended).2 = after
    generalize (iso15693_3ListenerRun event (extended.withBlockData bytes)).2 = afterToo
    rintro ⟨bytes', length, pages, sized, -⟩ ⟨count, -⟩
    have counted : (left.withPages bytes).Counted event (after.withBlockData bytes') ↔ left.Counted event after := by
      cases event with
      | other => exact Iff.rfl
      | rxEnd rxBuffer =>
        unfold SlixListener.Counted
        rw [writeHandler_same same size]
        exact Iff.rfl
    have shown : SamePages after.data left.systemInfo.protection bytes' := by
      refine ⟨length, fun index shown => pages index ?_⟩
      rw [count] at shown
      exact shown
    by_cases counts : left.Counted event after
    · rw [if_pos counts, if_pos (counted.mpr counts)]
      have up := @incrementCounter_same after.surroundings.outsideData after.data _ bytes' shown sized
      exact .intro (slixIncrementCounter { after.data with blockData := bytes' } after.surroundings.outsideData).blockData
        up sized locked
    · rw [if_neg counts, if_neg fun counts' => counts (counted.mp counts')]
      exact .intro bytes' shown sized locked

/-! ## Custom requests on both cards -/

def outcomeWithPages (bytes : List (BitVec 8)) (outcome : Option (SlixError × SlixListener)) :
    Option (SlixError × SlixListener) :=
  outcome.map fun (error, next) => (error, next.withPages bytes)

theorem setPassword_apart (instanc : SlixListener) (passwordType : Option SlixPasswordType) (password : SlixPassword) :
    slixListenerSetPassword (instanc.withPages bytes) passwordType password =
      outcomeWithPages bytes (slixListenerSetPassword instanc passwordType password) := by
  cases passwordType with
  | none => rfl
  | some passwordType =>
    have supported : slixListenerSupportsPassword (instanc.withPages bytes) passwordType =
      slixListenerSupportsPassword instanc passwordType := rfl
    unfold slixListenerSetPassword
    dsimp only
    rw [supported]
    cases slixListenerSupportsPassword instanc passwordType with
    | none => rfl
    | some supports => cases supports <;> rfl

theorem setPasswordHandler_apart (instanc : SlixListener) (data : List (BitVec 8)) :
    slixListenerSetPasswordHandler (instanc.withPages bytes) data =
      outcomeWithPages bytes (slixListenerSetPasswordHandler instanc data) := by
  unfold slixListenerSetPasswordHandler
  split
  · rfl
  · have received : slixPasswordReceived (instanc.withPages bytes) data 1 = slixPasswordReceived instanc data 1 := rfl
    dsimp only
    rw [received, setPassword_apart]
    rcases slixListenerSetPassword instanc (slixListenerGetPasswordTypeById (data.getD 0 0))
      (slixPasswordReceived instanc data 1) with _ | ⟨error, next⟩
    · rfl
    · dsimp only [outcomeWithPages, Option.map_some, Option.bind_eq_bind, Option.bind_some]
      split
      · rfl
      · split <;> rfl

theorem writePasswordHandler_apart (instanc : SlixListener) (data : List (BitVec 8)) :
    slixListenerWritePasswordHandler (instanc.withPages bytes) data =
      outcomeWithPages bytes (slixListenerWritePasswordHandler instanc data) := by
  unfold slixListenerWritePasswordHandler
  split
  · rfl
  · cases slixListenerGetPasswordTypeById (data.getD 0 0) with
    | none => rfl
    | some passwordType =>
      have supported : slixListenerSupportsPassword (instanc.withPages bytes) passwordType =
        slixListenerSupportsPassword instanc passwordType := rfl
      have given : (instanc.withPages bytes).sessionState = instanc.sessionState := rfl
      unfold slixListenerWritePassword
      dsimp only
      rw [supported, given]
      cases slixListenerSupportsPassword instanc passwordType with
      | none => rfl
      | some supports =>
        cases supports with
        | false => rfl
        | true => cases instanc.sessionState.passwordMatch passwordType <;> rfl

theorem protectPageHandler_apart (instanc : SlixListener) (data : List (BitVec 8)) :
    slixListenerProtectPageHandler (instanc.withPages bytes) data =
      outcomeWithPages bytes (slixListenerProtectPageHandler instanc data) := by
  have info : (instanc.withPages bytes).systemInfo = instanc.systemInfo := rfl
  have given : (instanc.withPages bytes).sessionState = instanc.sessionState := rfl
  unfold slixListenerProtectPageHandler
  rw [info, given]
  split
  · rfl
  split
  · rfl
  split
  · rfl
  split <;> rfl

theorem enablePrivacyHandler_apart (instanc : SlixListener) (data : List (BitVec 8)) :
    slixListenerEnablePrivacyHandler (instanc.withPages bytes) data =
      outcomeWithPages bytes (slixListenerEnablePrivacyHandler instanc data) := by
  unfold slixListenerEnablePrivacyHandler
  split
  · rfl
  · have received : slixPasswordReceived (instanc.withPages bytes) data 0 = slixPasswordReceived instanc data 0 := rfl
    rw [received, setPassword_apart]
    rcases slixListenerSetPassword instanc (some .privacy) (slixPasswordReceived instanc data 0) with _ | ⟨error, next⟩
    · rfl
    · dsimp only [outcomeWithPages, Option.map_some, Option.bind_eq_bind, Option.bind_some]
      split <;> rfl

theorem handler_apart (handler : SlixRequestHandler) (instanc : SlixListener) (data : List (BitVec 8))
    (random : BitVec 16) :
    handler.run (instanc.withPages bytes) data random = outcomeWithPages bytes (handler.run instanc data random) := by
  cases handler with
  | default => rfl
  | getNxpSystemInfo => rfl
  | getRandomNumber => rfl
  | setPassword => exact setPasswordHandler_apart instanc data
  | writePassword => exact writePasswordHandler_apart instanc data
  | protectPage => exact protectPageHandler_apart instanc data
  | enablePrivacy => exact enablePrivacyHandler_apart instanc data
  | readSignature => rfl

theorem processRequest_apart (instanc : SlixListener) (rxBuffer : BitBuffer) (random : BitVec 16) :
    slixListenerProcessRequest (instanc.withPages bytes) rxBuffer random =
      outcomeWithPages bytes (slixListenerProcessRequest instanc rxBuffer random) := by
  have asked : slixListenerRequest (instanc.withPages bytes) rxBuffer = slixListenerRequest instanc rxBuffer := rfl
  unfold slixListenerProcessRequest
  rw [asked]
  cases slixListenerRequest instanc rxBuffer with
  | error refusal => rfl
  | ok request =>
    have handled := @handler_apart bytes (slixRequestHandlerTable.getD (tablePlace request.command 0xA2#8) .default)
      { instanc with txBuffer := [0x00#8] } request.data random
    change SlixRequestHandler.run _ { instanc.withPages bytes with txBuffer := [0x00#8] } request.data random = _ at handled
    dsimp only
    rw [handled]
    rcases SlixRequestHandler.run (slixRequestHandlerTable.getD (tablePlace request.command 0xA2#8) .default)
      { instanc with txBuffer := [0x00#8] } request.data random with _ | ⟨error, next⟩
    · rfl
    · dsimp only [outcomeWithPages, Option.map_some, Option.bind_eq_bind, Option.bind_some]
      split
      · rfl
      · split <;> rfl

theorem run_apart (instanc : SlixListener) (event : SlixEvent)
    (served : SlixListener) (same : slixListenerServeStandard instanc event.event = served)
    (other : SlixListener) (sameToo : slixListenerServeStandard other event.event = served.withPages bytes) :
    slixListenerRun other event = (slixListenerRun instanc event).withPages bytes := by
  have command : (served.withPages bytes).customCommand event.event = served.customCommand event.event := by
    cases event.event <;> rfl
  unfold slixListenerRun
  rw [same, sameToo]
  dsimp only
  rw [command]
  cases served.customCommand event.event with
  | none => rfl
  | some request =>
    dsimp only
    rw [processRequest_apart]
    cases slixListenerProcessRequest served request event.random <;> rfl

/-- Until the password for reading is accepted, what it protects does not show. -/
theorem run_alike (alike : SlixAlike left right) {event : SlixEvent} (unaccepted : left.accepted event ≠ some .read) :
    SlixAlike (slixListenerRun left event) (slixListenerRun right event) := by
  have locked : (slixListenerRun left event).sessionState.passwordMatch .read = false := by
    rw [← Bool.not_eq_true]
    intro given
    rcases run_matches (by decide) given with before | accepted
    · cases alike with
      | intro _ _ _ locked =>
        rw [locked] at before
        cases before
    · exact unaccepted accepted
  have standard := serveStandard_alike alike event.event
  have serves := run_serves left event
  generalize same : slixListenerServeStandard left event.event = served at standard serves
  generalize sameToo : slixListenerServeStandard right event.event = servedToo at standard
  cases standard with
  | intro bytes pages size before =>
    have protection : (slixListenerRun left event).systemInfo.protection = served.systemInfo.protection := by
      by_contra changed
      have given := (serves.protection changed).1
      rw [before] at given
      cases given
    rw [run_apart left event served same right sameToo]
    refine .intro bytes ?_ ?_ locked
    · rw [serves.card, protection]
      exact pages
    · rw [serves.card]
      exact size

/-- An image that differs from another only in pages that its password for reading
protects. -/
structure SlixData.SameButProtected (image other : SlixData) : Prop where
  rest : other = image.withPages other.iso15693_3Data.blockData
  pages : SamePages image.iso15693_3Data image.systemInfo.protection other.iso15693_3Data.blockData

theorem SlixAlike.responses (alike : SlixAlike left right) : left.responses = right.responses := by
  cases alike
  rfl

theorem answers_alike (alike : SlixAlike left right) {events : List SlixEvent}
    (unaccepted : .read ∉ left.acceptedIn events) : left.answers events = right.answers events := by
  induction events generalizing left right with
  | nil => rfl
  | cons event rest ih =>
    unfold SlixListener.acceptedIn at unaccepted
    rw [List.mem_append, not_or] at unaccepted
    have next := run_alike alike fun accepted => unaccepted.1 (by rw [accepted]; exact List.mem_singleton.mpr rfl)
    unfold SlixListener.answers
    rw [ih next unaccepted.2, next.responses]

theorem after_shut (fits : image.Fits) (shut : Shut image instanc) {events : List SlixEvent}
    (unaccepted : .write ∉ instanc.acceptedIn events) : Shut image (instanc.after events) := by
  induction events generalizing instanc with
  | nil => exact shut
  | cons event rest ih =>
    unfold SlixListener.acceptedIn at unaccepted
    rw [List.mem_append, not_or] at unaccepted
    refine ih (run_shut fits shut fun accepted => unaccepted.1 ?_) unaccepted.2
    rw [accepted]
    exact List.mem_singleton.mpr rfl

end

/-- A SLIX2 of four pages, of which passwords protect the last two. -/
def slix2Card : SlixData where
  iso15693_3Data := { fourBlockCard with uid := #v[0xE0, 0x04, 0x01, 0x08, 0x12, 0x34, 0x56, 0x78] }
  systemInfo := ⟨⟨2#8, 0x30#8⟩, ⟨false, false⟩⟩
  signature := Vector.replicate 32 0
  passwords := fun _ => 0x0F0F0F0F#32
  privacy := false

end Xtreme.Nfc
