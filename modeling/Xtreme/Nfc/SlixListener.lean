import Xtreme.Nfc.Slix
import Xtreme.Nfc.Iso15693Requests

/-! The listener that plays a SLIX card (`slix_listener.c`, `slix_listener_i.c`),
over the one for ISO15693-3.

The handlers of an extension are functions of their arguments, so the table is made
anew for each event, from what the card is at its beginning: nothing that they look
at changes before they are called. The one that counts only says that it did, and
the counter goes up when the request is over. A build with `FURI_DEBUG` stops at the
type of a card that has none, for which `none` stands; one without reads its features
behind their table. `furi_hal_random_get` is what an event brings with it. All answers
fit in the transmit buffer, and what the worker does about a wrong password is left out. -/
namespace Xtreme.Nfc
open BitLib Toolbox
open Iso15693_3Listener (requestData)

structure SlixListenerSessionState where
  random : BitVec 16
  passwordMatch : SlixPasswordType → Bool

/-- The card of `iso15693_3Listener` is that of the image. -/
structure SlixListener where
  iso15693_3Listener : Iso15693_3Listener
  systemInfo : SlixSystemInfo
  signature : Bytes 32
  passwords : SlixPasswordType → SlixPassword
  privacy : Bool
  sessionState : SlixListenerSessionState
  txBuffer : List (BitVec 8)
  outsideFeatures : SlixTypeFeatures

def slixListenerAlloc (surroundings : Iso15693_3Surroundings) (outsideFeatures : SlixTypeFeatures) (data : SlixData) :
    SlixListener where
  iso15693_3Listener := iso15693_3ListenerAlloc surroundings data.iso15693_3Data
  systemInfo := data.systemInfo
  signature := data.signature
  passwords := data.passwords
  privacy := data.privacy
  sessionState := ⟨0, fun _ => false⟩
  txBuffer := []
  outsideFeatures := outsideFeatures

namespace SlixListener
variable (instanc : SlixListener)

def card : Iso15693_3Data := instanc.iso15693_3Listener.data

def isBlockProtected (passwordType : SlixPasswordType) (blockNum : Nat) : Bool :=
  slixIsBlockProtected instanc.card.blockCount instanc.systemInfo.protection passwordType blockNum

def append (bytes : List (BitVec 8)) : SlixListener := { instanc with txBuffer := instanc.txBuffer ++ bytes }

def setMatch (passwordType : SlixPasswordType) (right : Bool) : SlixListener :=
  { instanc with
    sessionState := { instanc.sessionState with
      passwordMatch := Function.update instanc.sessionState.passwordMatch passwordType right } }

def withCard (card : Iso15693_3Data) : SlixListener :=
  { instanc with iso15693_3Listener := { instanc.iso15693_3Listener with data := card } }

end SlixListener

def slixListenerIsPasswordLockEnabled (instanc : SlixListener) (passwordType : SlixPasswordType) : Bool :=
  !instanc.sessionState.passwordMatch passwordType

def slixListenerGetPasswordTypeById (id : BitVec 8) : Option SlixPasswordType :=
  if id = 0x01#8 then some .read
  else if id >>> 1 = 0x01#8 then some .write
  else if id >>> 2 = 0x01#8 then some .privacy
  else if id >>> 3 = 0x01#8 then some .destroy
  else if id >>> 4 = 0x01#8 then some .easAfi
  else none

/-- A password in a request, the first byte the lowest. -/
def slixPasswordAt (data : List (BitVec 8)) (place : Nat) : SlixPassword :=
  data.getD (place + 3) 0 ++ data.getD (place + 2) 0 ++ data.getD (place + 1) 0 ++ data.getD place 0

def reverseBytesU32 (value : BitVec 32) : BitVec 32 :=
  value.extractLsb' 0 8 ++ value.extractLsb' 8 8 ++ value.extractLsb' 16 8 ++ value.extractLsb' 24 8

def slixListenerUnxorPassword (passwordXored : SlixPassword) (random : BitVec 16) : SlixPassword :=
  reverseBytesU32 (passwordXored ^^^ (random ++ random))

/-- `slix_type_supports_password`, with the assertion on the type. -/
def slixListenerSupportsPassword (instanc : SlixListener) (passwordType : SlixPasswordType) : Option Bool :=
  let type := slixGetType instanc.card
  if instanc.iso15693_3Listener.surroundings.furiDebug ∧ type = .unknown then none
  else some (slixTypeSupportsPassword instanc.outsideFeatures type passwordType)

def slixListenerSetPassword (instanc : SlixListener) (passwordType : Option SlixPasswordType)
    (password : SlixPassword) : Option (SlixError × SlixListener) :=
  match passwordType with
  | none => some (.internal, instanc)
  | some passwordType => do
    if !(← slixListenerSupportsPassword instanc passwordType) then return (.notSupported, instanc)
    let right := decide (password = instanc.passwords passwordType)
    return (if right then .none else .wrongPassword, instanc.setMatch passwordType right)

def slixListenerWritePassword (instanc : SlixListener) (passwordType : Option SlixPasswordType)
    (password : SlixPassword) : Option (SlixError × SlixListener) :=
  match passwordType with
  | none => some (.internal, instanc)
  | some passwordType => do
    if !(← slixListenerSupportsPassword instanc passwordType) then return (.notSupported, instanc)
    if instanc.sessionState.passwordMatch passwordType then
      return (.none, { instanc.setMatch passwordType false with
        passwords := Function.update instanc.passwords passwordType password })
    else return (.wrongPassword, instanc)

def slixListenerDefaultHandler (instanc : SlixListener) : Option (SlixError × SlixListener) :=
  some (.notSupported, instanc)

def slixListenerGetNxpSystemInfoHandler (instanc : SlixListener) : Option (SlixError × SlixListener) :=
  let protection := instanc.systemInfo.protection
  let isoLockBits := instanc.card.lockBits
  let lockBits := instanc.systemInfo.lockBits
  -- `SLIX_LOCK_BITS_DSFID`, `_AFI`, `_EAS`, `_PPL`
  let bits := (if isoLockBits.dsfid then 0x04#8 else 0) ||| (if isoLockBits.afi then 0x01#8 else 0) |||
    (if lockBits.eas then 0x02#8 else 0) ||| (if lockBits.ppl then 0x08#8 else 0)
  -- `SLIX2_FEATURE_FLAGS`
  some (.none, instanc.append [protection.pointer, protection.condition, bits, 0x7F, 0x35, 0x00, 0x00])

def slixListenerGetRandomNumberHandler (instanc : SlixListener) (random : BitVec 16) :
    Option (SlixError × SlixListener) :=
  let instanc := { instanc with sessionState := { instanc.sessionState with random := random } }
  some (.none, instanc.append [random.setWidth 8, (random >>> 8).setWidth 8])

/-- The password that a request to set one brings. -/
def slixPasswordReceived (instanc : SlixListener) (data : List (BitVec 8)) (place : Nat) : SlixPassword :=
  slixListenerUnxorPassword (slixPasswordAt data place) instanc.sessionState.random

def slixListenerSetPasswordHandler (instanc : SlixListener) (data : List (BitVec 8)) :
    Option (SlixError × SlixListener) := do
  if data.length ≠ 5 then return (.format, instanc)
  let passwordType := slixListenerGetPasswordTypeById (data.getD 0 0)
  let (error, instanc) ← slixListenerSetPassword instanc passwordType (slixPasswordReceived instanc data 1)
  if error ≠ .none then return (error, instanc)
  return (.none, if passwordType = some .privacy then { instanc with privacy := false } else instanc)

def slixListenerWritePasswordHandler (instanc : SlixListener) (data : List (BitVec 8)) :
    Option (SlixError × SlixListener) :=
  if data.length ≠ 5 then some (.format, instanc)
  else slixListenerWritePassword instanc (slixListenerGetPasswordTypeById (data.getD 0 0)) (slixPasswordAt data 1)

def slixListenerProtectPageHandler (instanc : SlixListener) (data : List (BitVec 8)) :
    Option (SlixError × SlixListener) :=
  if data.length ≠ 2 then some (.format, instanc)
  else if instanc.systemInfo.lockBits.ppl then some (.internal, instanc)
  else if !instanc.sessionState.passwordMatch .read || !instanc.sessionState.passwordMatch .write then
    some (.internal, instanc)
  else if slixCounterBlockNum ≤ (data.getD 0 0).toNat then some (.internal, instanc)
  else some (.none,
    { instanc with systemInfo := { instanc.systemInfo with protection := ⟨data.getD 0 0, data.getD 1 0⟩ } })

def slixListenerEnablePrivacyHandler (instanc : SlixListener) (data : List (BitVec 8)) :
    Option (SlixError × SlixListener) := do
  if data.length ≠ 4 then return (.format, instanc)
  let (error, instanc) ← slixListenerSetPassword instanc (some .privacy) (slixPasswordReceived instanc data 0)
  if error ≠ .none then return (error, instanc)
  return (.none, { instanc with privacy := true })

def slixListenerReadSignatureHandler (instanc : SlixListener) : Option (SlixError × SlixListener) :=
  some (.none, instanc.append instanc.signature.toList)

inductive SlixRequestHandler
  | default
  | getNxpSystemInfo
  | getRandomNumber
  | setPassword
  | writePassword
  | protectPage
  | enablePrivacy
  | readSignature
  deriving DecidableEq, Repr

def SlixRequestHandler.run (handler : SlixRequestHandler) (instanc : SlixListener) (data : List (BitVec 8))
    (random : BitVec 16) : Option (SlixError × SlixListener) :=
  match handler with
  | default => slixListenerDefaultHandler instanc
  | getNxpSystemInfo => slixListenerGetNxpSystemInfoHandler instanc
  | getRandomNumber => slixListenerGetRandomNumberHandler instanc random
  | setPassword => slixListenerSetPasswordHandler instanc data
  | writePassword => slixListenerWritePasswordHandler instanc data
  | protectPage => slixListenerProtectPageHandler instanc data
  | enablePrivacy => slixListenerEnablePrivacyHandler instanc data
  | readSignature => slixListenerReadSignatureHandler instanc

/-- `slix_request_handler_table`, from 0xA2 on. -/
def slixRequestHandlerTable : List SlixRequestHandler :=
  [.default, .default, .default, .default, .default, .default, .default, .default, .default,
    .getNxpSystemInfo, .default, .default, .default, .default, .default, .default,
    .getRandomNumber, .setPassword, .writePassword, .default, .protectPage, .default, .default, .default,
    .enablePrivacy, .default, .default, .readSignature]

def slixListenerInventoryExtensionHandler (instanc : SlixListener) : Iso15693_3ExtensionHandler := fun _ =>
  if instanc.privacy then .ignore else .none

/-- A block is protected by a password that was not given. -/
def SlixListener.Locks (instanc : SlixListener) (passwordType : SlixPasswordType) (blockNum : Nat) : Bool :=
  instanc.isBlockProtected passwordType blockNum && slixListenerIsPasswordLockEnabled instanc passwordType

def slixListenerReadBlockExtensionHandler (instanc : SlixListener) : Iso15693_3ExtensionHandler
  | [.number blockNum] =>
    if blockNum = slixCounterBlockNum then .none
    else if instanc.Locks .read blockNum then .internal
    else .none
  | _ => .internal

def slixListenerWriteBlockExtensionHandler (instanc : SlixListener) : Iso15693_3ExtensionHandler
  | [.number blockNum, .memory byte] =>
    let counter : BitVec 32 := byte 3 ++ byte 2 ++ byte 1 ++ byte 0
    if blockNum = slixCounterBlockNum ∧ counter = 1#32 then
      if slixIsCounterIncrementProtected instanc.card instanc.iso15693_3Listener.surroundings.outsideData ∧
          slixListenerIsPasswordLockEnabled instanc .read then .internal
      -- `slix_increment_counter`
      else .fullyHandled
    else if blockNum ≠ slixCounterBlockNum ∧ instanc.Locks .read blockNum then .internal
    else if instanc.Locks .write blockNum then .internal
    else .none
  | _ => .internal

def slixListenerLockBlockExtensionHandler (instanc : SlixListener) : Iso15693_3ExtensionHandler
  | [.number blockNum] =>
    if blockNum = slixCounterBlockNum then .internal
    else if instanc.Locks .read blockNum then .internal
    else if instanc.Locks .write blockNum then .internal
    else .none
  | _ => .internal

def slixListenerReadMultiBlockExtensionHandler (instanc : SlixListener) : Iso15693_3ExtensionHandler
  | [.number blockIndexStart, .number blockIndexEnd] =>
    if (List.range' blockIndexStart (blockIndexEnd + 1 - blockIndexStart)).any fun i =>
        i ≠ slixCounterBlockNum && instanc.Locks .read i then .internal
    else .none
  | _ => .internal

def slixListenerWriteMultiBlockExtensionHandler : Iso15693_3ExtensionHandler := fun _ => .notSupported

def slixListenerWriteLockAfiExtensionHandler (instanc : SlixListener) : Iso15693_3ExtensionHandler := fun _ =>
  if slixListenerIsPasswordLockEnabled instanc .easAfi then .internal else .none

def slixIso15693ExtensionHandlerTable (instanc : SlixListener) : Iso15693_3ExtensionHandlerTable where
  mandatory := #v[some (slixListenerInventoryExtensionHandler instanc), none]
  optional := #v[some (slixListenerReadBlockExtensionHandler instanc),
    some (slixListenerWriteBlockExtensionHandler instanc), some (slixListenerLockBlockExtensionHandler instanc),
    some (slixListenerReadMultiBlockExtensionHandler instanc), some slixListenerWriteMultiBlockExtensionHandler,
    none, none, some (slixListenerWriteLockAfiExtensionHandler instanc),
    some (slixListenerWriteLockAfiExtensionHandler instanc), none, none, none, none]

structure SlixEvent where
  event : Iso15693_3NfcEvent
  random : BitVec 16

structure SlixRequest where
  command : BitVec 8
  data : List (BitVec 8)
  deriving DecidableEq, Repr

/-- The first part of `slix_listener_process_request`: the request, if it is for
this card. -/
def slixListenerRequest (instanc : SlixListener) (rxBuffer : BitBuffer) : Except SlixError SlixRequest :=
  let size := rxBuffer.sizeBytes
  let addressed := instanc.iso15693_3Listener.sessionState.addressed
  let sizeMin := 3 + if addressed then iso15693_3UidSize else 0
  let uid := (List.range' 3 iso15693_3UidSize).map rxBuffer.byte
  let command := rxBuffer.byte 1
  if size < sizeMin then .error .format
  else if addressed ∧ uid ≠ iso15693_3UidBytes instanc.card then .error .uidMismatch
  else if ¬ (0xA2#8 ≤ command ∧ command < 0xBE#8) then .error .notSupported
  else .ok ⟨command, (List.range' sizeMin (size - sizeMin)).map rxBuffer.byte⟩

def slixListenerSendFrame (instanc : SlixListener) : SlixListener :=
  let frame := instanc.txBuffer ++ iso13239CrcBytes instanc.txBuffer
  { instanc with txBuffer := frame, iso15693_3Listener := instanc.iso15693_3Listener.traced (.sent frame) }

def slixListenerProcessRequest (instanc : SlixListener) (rxBuffer : BitBuffer) (random : BitVec 16) :
    Option (SlixError × SlixListener) :=
  match slixListenerRequest instanc rxBuffer with
  | .error error => some (error, instanc)
  | .ok request => do
    -- `ISO15693_3_RESP_FLAG_NONE`
    let instanc := { instanc with txBuffer := [0x00#8] }
    let handler := slixRequestHandlerTable.getD (tablePlace request.command 0xA2#8) .default
    let (error, instanc) ← handler.run instanc request.data random
    if error = .format ∨ error = .wrongPassword ∨ error = .notSupported then return (error, instanc)
    -- `ISO15693_3_RESP_FLAG_ERROR`, `ISO15693_3_RESP_ERROR_UNKNOWN`
    let instanc := if error ≠ .none then { instanc with txBuffer := [0x01#8, 0x0F#8] } else instanc
    return (.none, slixListenerSendFrame instanc)

/-- A request was dealt with by the handler that writes a block, as the extension
had counted: no other request to write the counter is answered like that. -/
def SlixListener.Counted (instanc : SlixListener) (event : Iso15693_3NfcEvent) (after : Iso15693_3Listener) : Prop :=
  match event with
  | .other => False
  | .rxEnd rxBuffer =>
    let request := requestData (iso13239CrcTrim rxBuffer)
    slixListenerWriteBlockExtensionHandler instanc [.number request.first,
      .memory fun i => request.frame.byte (request.start + 1 + i)] = .fullyHandled ∧
      .called .writeBlock ∈ after.trace ∧ .built [0x00#8] ∈ after.trace

instance (instanc : SlixListener) (event : Iso15693_3NfcEvent) (after : Iso15693_3Listener) :
    Decidable (instanc.Counted event after) :=
  match event with
  | .other => .isFalse id
  | .rxEnd _ => inferInstanceAs (Decidable (_ ∧ _ ∧ _))

def slixListenerServeStandard (instanc : SlixListener) (event : Iso15693_3NfcEvent) : SlixListener :=
  let extended := { instanc.iso15693_3Listener with
    extensionTable := some (slixIso15693ExtensionHandlerTable instanc) }
  let after := (iso15693_3ListenerRun event extended).2
  let served := { instanc with iso15693_3Listener := after }
  if instanc.Counted event after then
    served.withCard (slixIncrementCounter after.data after.surroundings.outsideData)
  else served

def SlixListener.customCommand (instanc : SlixListener) : Iso15693_3NfcEvent → Option BitBuffer
  | .other => none
  | .rxEnd rxBuffer =>
    if iso13239CrcCheck rxBuffer ∧ .reported ∈ instanc.iso15693_3Listener.trace then some (iso13239CrcTrim rxBuffer)
    else none

/-- The listener after an event. An assertion that fails ends what is done with it. -/
def slixListenerRun (instanc : SlixListener) (event : SlixEvent) : SlixListener :=
  let served := slixListenerServeStandard instanc event.event
  match served.customCommand event.event with
  | none => served
  | some request =>
    match slixListenerProcessRequest served request event.random with
    | none => served
    | some (_, instanc) => instanc

/-- The frames that an event was answered with. -/
def SlixListener.responses (instanc : SlixListener) : List (List (BitVec 8)) :=
  instanc.iso15693_3Listener.trace.filterMap fun
    | .sent frame => some frame
    | _ => none

end Xtreme.Nfc
