import Xtreme.Nfc.Iso15693Memory

/-! Which handler of the ISO15693-3 listener gets a request, and why others get
none. -/
namespace Xtreme.Nfc
open Xtreme.Library BitLib Toolbox

namespace Iso15693_3Listener
variable (instanc : Iso15693_3Listener)

/-- Why a request with some flags goes no further. -/
def flagsRefusal (flags : BitVec 8) : Option Iso15693_3Error :=
  if flags.getLsbD 2 then
    if instanc.state = .quiet then some .ignore else none
  else if flags.getLsbD 4 && flags.getLsbD 5 then some .unknown
  else if instanc.state = .quiet then
    if flags.getLsbD 5 then some .ignore else none
  else if instanc.state ≠ .selected ∧ flags.getLsbD 4 then some .ignore
  else none

/-- A request carries the UID of the card it is for. -/
def isAddressed (flags : BitVec 8) : Bool := !flags.getLsbD 2 && flags.getLsbD 5

/-- What is noted of the flags of a request. -/
def addressing (flags : BitVec 8) : Iso15693_3Listener :=
  if flags.getLsbD 2 ∧ instanc.state = .quiet then instanc
  else { instanc with
    sessionState := { instanc.sessionState with
      selected := !flags.getLsbD 2 && flags.getLsbD 4
      addressed := isAddressed flags } }

/-- The answer to a custom command. -/
def customRefusal (frame : BitBuffer) : Iso15693_3Error :=
  if frame.sizeBytes - 2 < 1 then .format
  else if frame.byte 2 ≠ iso15693_3GetManufacturerId instanc.data then .ignore
  else .notSupported

def requestUid (frame : BitBuffer) : List (BitVec 8) :=
  (List.range' 0 iso15693_3UidSize).map fun index => frame.byte (2 + index)

/-- Why the second part of the dispatcher refuses a request. -/
def dispatchRefusal (frame : BitBuffer) : Option Iso15693_3Error :=
  if 0xA0#8 ≤ frame.byte 1 then some (instanc.customRefusal frame)
  else if isAddressed (frame.byte 0) then
    if frame.sizeBytes < 2 + iso15693_3UidSize then some .format
    else if requestUid frame ≠ iso15693_3UidBytes instanc.data then some .uidMismatch
    else none
  else none

/-- Why a request gets to no table of handlers. -/
def refusal (frame : BitBuffer) : Option Iso15693_3Error :=
  if frame.sizeBytes < 2 then some .format
  else
    match instanc.flagsRefusal (frame.byte 0) with
    | some error => some error
    | none => instanc.dispatchRefusal frame

def requestData (frame : BitBuffer) : Iso15693_3RequestData :=
  let start := if isAddressed (frame.byte 0) then 2 + iso15693_3UidSize else 2
  ⟨frame, start, frame.sizeBytes - start⟩

/-- A request was looked at: only its bytes and what it says of its addressing
were noted. -/
structure Looks (frame : BitBuffer) (after : Iso15693_3Listener) : Prop where
  surroundings : after.surroundings = instanc.surroundings
  data : after.data = instanc.data
  state : after.state = instanc.state
  waits : after.sessionState.waitForEof = instanc.sessionState.waitForEof
  txBuffer : after.txBuffer = instanc.txBuffer
  extensionTable : after.extensionTable = instanc.extensionTable
  trace : ∃ reads, after.trace = instanc.trace ++ reads ∧
    ∀ step ∈ reads, ∃ place < frame.sizeBytes, step = .requestByte place

end Iso15693_3Listener

open Iso15693_3Listener

section
variable {frame : BitBuffer} {instanc : Iso15693_3Listener} {request : Iso15693_3RequestData}

theorem tableEntry_eq {α : Type} {table : List α} {command start : BitVec 8} {entry : α}
    (there : table[tablePlace command start]? = some entry) :
    tableEntry table command start = pure entry := by
  rw [tableEntry, there]

theorem place_inside {command start : BitVec 8} {count : Nat} (above : start ≤ command)
    (below : command.toNat < start.toNat + count) :
    tablePlace command start < count := by
  have first : start.toNat ≤ command.toNat := above
  rw [tablePlace, BitVec.toNat_sub, BitVec.toNat_setWidth, BitVec.toNat_setWidth]
  omega

def handlerOf (command : BitVec 8) : Option Iso15693_3RequestHandler :=
  if command < 0x03#8 then mandatoryHandlers[tablePlace command 0x01#8]?
  else if 0x20#8 ≤ command ∧ command < 0x2D#8 then optionalHandlers[tablePlace command 0x20#8]?
  else none

theorem requestHandler_eq {command : BitVec 8} (known : command ≠ 0#8) :
    requestHandler command = pure (handlerOf command) := by
  unfold requestHandler handlerOf
  split_ifs with mandatory optional
  · have inside : tablePlace command 0x01#8 < mandatoryHandlers.length :=
      @place_inside command 0x01#8 2 (by bv_omega) (by bv_omega)
    rw [tableEntry_eq (List.getElem?_eq_getElem inside), List.getElem?_eq_getElem inside]
    rfl
  · have inside : tablePlace command 0x20#8 < optionalHandlers.length :=
      @place_inside command 0x20#8 13 optional.1 (by bv_omega)
    rw [tableEntry_eq (List.getElem?_eq_getElem inside), List.getElem?_eq_getElem inside]
    rfl
  · rfl

theorem requestHandler_zero : requestHandler 0#8 = Effect.fault .handlerTable := rfl

theorem looks_trans {before after : Iso15693_3Listener} (first : Looks instanc frame before)
    (second : Looks before frame after) : Looks instanc frame after := by
  obtain ⟨reads, grown, bytes⟩ := first.trace
  obtain ⟨more, grownMore, bytesMore⟩ := second.trace
  refine ⟨second.surroundings.trans first.surroundings, second.data.trans first.data, second.state.trans first.state, second.waits.trans first.waits,
    second.txBuffer.trans first.txBuffer, second.extensionTable.trans first.extensionTable, reads ++ more,
    by rw [grownMore, grown, List.append_assoc], fun step member => ?_⟩
  rcases List.mem_append.mp member with early | late
  · exact bytes step early
  · exact bytesMore step late

theorem looks_refl : Looks instanc frame instanc :=
  ⟨rfl, rfl, rfl, rfl, rfl, rfl, [], (List.append_nil _).symm, fun _ none => nomatch none⟩

theorem looks_readRequest {place : Nat} (inside : place < frame.sizeBytes) :
    Looks instanc frame (instanc.traced (.requestByte place)) := by
  refine ⟨rfl, rfl, rfl, rfl, rfl, rfl, [.requestByte place], rfl, ?_⟩
  rintro step (_ | ⟨_, ⟨⟩⟩)
  exact ⟨place, inside, rfl⟩

theorem looks_readRequestBytes {first count : Nat} (inside : request.start + first + count ≤ frame.sizeBytes) :
    Looks instanc frame { instanc with trace := instanc.trace ++ requestSteps request first count } := by
  refine ⟨rfl, rfl, rfl, rfl, rfl, rfl, _, rfl, fun step member => ?_⟩
  obtain ⟨index, bounds, rfl⟩ := List.mem_map.mp member
  rw [List.mem_range'_1] at bounds
  exact ⟨_, by omega, rfl⟩

theorem looks_addressing (flags : BitVec 8) : Looks instanc frame (instanc.addressing flags) := by
  unfold addressing
  split
  · exact looks_refl
  · exact ⟨rfl, rfl, rfl, rfl, rfl, rfl, [], (List.append_nil _).symm, fun _ none => nomatch none⟩

theorem checkRequestFlags_run (flags : BitVec 8) :
    checkRequestFlags flags instanc = (.ok (instanc.flagsRefusal flags), instanc.addressing flags) := by
  rcases instanc with ⟨surroundings, data, state, sessionState, txBuffer, extensionTable, trace⟩
  unfold checkRequestFlags flagsRefusal addressing isAddressed setAddressing
  cases flags.getLsbD 2 <;> cases flags.getLsbD 4 <;> cases flags.getLsbD 5 <;> cases state <;> rfl

theorem addressing_addressed {flags : BitVec 8} (goesOn : instanc.flagsRefusal flags = none) :
    (instanc.addressing flags).sessionState.addressed = isAddressed flags := by
  unfold flagsRefusal at goesOn
  unfold addressing
  split
  · rename_i quiet
    rw [if_pos quiet.1, if_pos quiet.2] at goesOn
    exact nomatch goesOn
  · rfl

theorem customRequest_run (frame : BitBuffer) (instanc : Iso15693_3Listener) :
    ∃ after, iso15693_3ListenerHandleCustomRequest ⟨frame, 2, frame.sizeBytes - 2⟩ instanc =
      (.ok (instanc.customRefusal frame), after) ∧ Looks instanc frame after := by
  unfold iso15693_3ListenerHandleCustomRequest customRefusal
  by_cases short : frame.sizeBytes - 2 < 1
  · rw [if_pos short, if_pos short]
    exact ⟨instanc, rfl, looks_refl⟩
  · rw [if_neg short, if_neg short]
    refine ⟨instanc.traced (.requestByte 2), ?_, looks_readRequest (by omega)⟩
    refine (Effect.bind_of_ok
      (show readRequest ⟨frame, 2, frame.sizeBytes - 2⟩ 0 instanc = (.ok (frame.byte 2), _) from rfl)).trans ?_
    by_cases own : frame.byte 2 = iso15693_3GetManufacturerId instanc.data
    · rw [if_neg (not_not.mpr own)]
      exact congrFun (if_neg (not_not.mpr own)) _
    · rw [if_pos own]
      exact congrFun (if_pos own) _

theorem dispatchRequest_run (whole : ¬ frame.sizeBytes < 2)
    (addressed : instanc.sessionState.addressed = isAddressed (frame.byte 0)) :
    ∃ before, Looks instanc frame before ∧ dispatchRequest frame (frame.byte 0) instanc =
        match dispatchRefusal instanc frame with
        | some error => (.ok error, before)
        | none =>
          iso15693_3ListenerHandleStandardRequest (requestData frame) (frame.byte 1) (frame.byte 0) before := by
  unfold dispatchRequest dispatchRefusal requestData
  have command : Looks instanc frame (instanc.traced (.requestByte 1)) := looks_readRequest (by omega)
  rw [Effect.bind_of_ok (show readRequest ⟨frame, 0, frame.sizeBytes⟩ 1 instanc = (.ok (frame.byte 1), _) from rfl)]
  by_cases custom : 0xA0#8 ≤ frame.byte 1
  · rw [if_pos custom, if_pos custom]
    obtain ⟨after, ran, looked⟩ := customRequest_run frame (instanc.traced (.requestByte 1))
    exact ⟨after, looks_trans command looked, ran⟩
  rw [if_neg custom, if_neg custom]
  change ∃ before, Looks instanc frame before ∧
    (if instanc.sessionState.addressed then _ else _ : Iso15693_3M Iso15693_3Error) _ = _
  rw [addressed]
  cases isAddressed (frame.byte 0) with
  | false => exact ⟨_, command, rfl⟩
  | true =>
    by_cases short : frame.sizeBytes < 2 + iso15693_3UidSize
    · rw [if_pos short, if_pos short]
      exact ⟨_, command, rfl⟩
    · rw [if_neg short, if_neg short]
      have read := looks_trans command
        (@looks_readRequestBytes frame _ ⟨frame, 2, frame.sizeBytes - 2⟩ 0 iso15693_3UidSize (Nat.not_lt.mp short))
      refine ⟨_, read, (Effect.bind_of_ok (readRequestBytes_run 0 iso15693_3UidSize)).trans ?_⟩
      change (if requestUid frame ≠ iso15693_3UidBytes instanc.data then _ else _ : Iso15693_3M Iso15693_3Error) _ = _
      by_cases other : requestUid frame ≠ iso15693_3UidBytes instanc.data
      · rw [if_pos other, if_pos other]
        rfl
      · rw [if_neg other, if_neg other]
        rfl

theorem processRequest_run (frame : BitBuffer) (instanc : Iso15693_3Listener) :
    ∃ before, Looks instanc frame before ∧ iso15693_3ListenerProcessRequest frame instanc =
        match instanc.refusal frame with
        | some error => (.ok error, before)
        | none =>
          iso15693_3ListenerHandleStandardRequest (requestData frame) (frame.byte 1) (frame.byte 0) before := by
  unfold iso15693_3ListenerProcessRequest refusal
  by_cases short : frame.sizeBytes < 2
  · rw [if_pos short, if_pos short]
    exact ⟨instanc, looks_refl, rfl⟩
  rw [if_neg short, if_neg short]
  have flags : Looks instanc frame (instanc.traced (.requestByte 0)) := looks_readRequest (by omega)
  have checked := looks_trans flags (looks_addressing (frame.byte 0))
  rw [Effect.bind_of_ok (show readRequest ⟨frame, 0, frame.sizeBytes⟩ 0 instanc = (.ok (frame.byte 0), _) from rfl),
    Effect.bind_of_ok (checkRequestFlags_run (frame.byte 0))]
  change ∃ before, Looks instanc frame before ∧ (match instanc.flagsRefusal (frame.byte 0) with
    | some error => pure error | none => _ : Iso15693_3M Iso15693_3Error) _ = _
  cases refused : instanc.flagsRefusal (frame.byte 0) with
  | some error => exact ⟨_, checked, rfl⟩
  | none =>
    obtain ⟨before, looked, ran⟩ := dispatchRequest_run short
      (addressing_addressed (show (instanc.traced (.requestByte 0)).flagsRefusal (frame.byte 0) = none from refused))
    have same : dispatchRefusal ((instanc.traced (.requestByte 0)).addressing (frame.byte 0)) frame =
        dispatchRefusal instanc frame := by
      unfold dispatchRefusal customRefusal
      rw [checked.data]
    rw [same] at ran
    exact ⟨before, looks_trans checked looked, ran⟩

end

end Xtreme.Nfc
