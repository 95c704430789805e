import Xtreme.Nfc.Iso15693Frames

/-! The quiet state of the ISO15693-3 listener. The flags of a request are tested
the wrong way round there: a quiet card lets pass the requests that carry no UID,
and ignores those that carry its own. -/
namespace Xtreme.Nfc
open Xtreme.Library BitLib Toolbox
open Effect (update)
open Iso15693_3Listener (isAddressed requestData requestUid flagsRefusal dispatchRefusal refusal customRefusal Looks
  Throughout)

def isInventory (flags : BitVec 8) : Bool := flags.getLsbD 2

/-- `ISO15693_3_REQ_FLAG_T4_SELECTED`, in a request that is no inventory. -/
def isSelected (flags : BitVec 8) : Bool := !flags.getLsbD 2 && flags.getLsbD 4

namespace Iso15693_3NfcEvent

/-- An event brings a request: a frame with a right checksum that has flags and a
command. -/
def Brings (event : Iso15693_3NfcEvent) (frame : BitBuffer) : Prop :=
  ∃ rxBuffer, event = .rxEnd rxBuffer ∧ iso13239CrcCheck rxBuffer = true ∧ frame = iso13239CrcTrim rxBuffer ∧
    ¬ frame.sizeBytes < 2

def addressed : Iso15693_3NfcEvent → Bool
  | rxEnd rxBuffer => isAddressed ((iso13239CrcTrim rxBuffer).byte 0)
  | other => false

end Iso15693_3NfcEvent

namespace Iso15693_3Listener
variable (instanc : Iso15693_3Listener)

/-- A request carries the UID of this card. -/
def OwnUid (frame : BitBuffer) : Prop :=
  2 + iso15693_3UidSize ≤ frame.sizeBytes ∧ requestUid frame = iso15693_3UidBytes instanc.data

/-- An event makes the card carry out a command. -/
def Calls (event : Iso15693_3NfcEvent) (handler : Iso15693_3RequestHandler) : Prop :=
  .called handler ∈ (instanc.next event).trace

instance (event : Iso15693_3NfcEvent) (handler : Iso15693_3RequestHandler) : Decidable (instanc.Calls event handler) :=
  inferInstanceAs (Decidable (_ ∈ _))

/-- The card does nothing on an event but look at the frame. -/
structure Ignores (event : Iso15693_3NfcEvent) : Prop where
  data : (instanc.next event).data = instanc.data
  state : (instanc.next event).state = instanc.state
  silent : ∀ step ∈ (instanc.next event).trace, ∃ place, step = .requestByte place

/-- Whether a card that was told to stay quiet still is to be, after an event. -/
def quietAfter (quiet : Bool) (event : Iso15693_3NfcEvent) : Bool :=
  if instanc.Calls event .stayQuiet then true
  else if event.addressed ∧ (instanc.Calls event .select ∨ instanc.Calls event .resetToReady) then false
  else quiet

/-- The same after a run. -/
def quietOver (instanc : Iso15693_3Listener) (quiet : Bool) : List Iso15693_3NfcEvent → Bool
  | [] => quiet
  | event :: rest => (instanc.next event).quietOver (instanc.quietAfter quiet event) rest

/-- How a card is to deal with an event: when it is to be quiet it ignores what does
not carry a UID and carries out what carries its own, and a request to selected
cards is for a selected card. -/
structure ActsOn (quiet : Bool) (event : Iso15693_3NfcEvent) : Prop where
  ignores : quiet = true → ∀ frame, event.Brings frame →
    isInventory (frame.byte 0) = true ∨ isAddressed (frame.byte 0) = false → instanc.Ignores event
  executes : quiet = true → ∀ frame, event.Brings frame → isAddressed (frame.byte 0) = true →
    isSelected (frame.byte 0) = false → instanc.OwnUid frame →
      ∀ handler, handlerOf (frame.byte 1) = some handler → instanc.Calls event handler
  selected : ∀ frame, event.Brings frame → isSelected (frame.byte 0) = true →
    ∀ handler, instanc.Calls event handler → instanc.state = .selected

/-- A quiet card gets, apart from inventory requests, no request without a UID but a
custom one that is not for its manufacturer, and no command with its own UID. -/
def SparesQuiet (event : Iso15693_3NfcEvent) : Prop :=
  instanc.state = .quiet → ∀ frame, event.Brings frame → isInventory (frame.byte 0) = false →
    (isAddressed (frame.byte 0) = false → 0xA0#8 ≤ frame.byte 1 ∧
      (frame.sizeBytes - 2 < 1 ∨ frame.byte 2 ≠ iso15693_3GetManufacturerId instanc.data)) ∧
    (isAddressed (frame.byte 0) = true → isSelected (frame.byte 0) = false → instanc.OwnUid frame →
      handlerOf (frame.byte 1) = none)

end Iso15693_3Listener

section
variable {instanc : Iso15693_3Listener} {event : Iso15693_3NfcEvent} {frame : BitBuffer}

theorem ignores_refused (brings : event.Brings frame) {error : Iso15693_3Error}
    (refused : instanc.refusal frame = some error) (known : error ≠ .notSupported) (own : error ≠ .uidMismatch) :
    instanc.Ignores event := by
  obtain ⟨rxBuffer, rfl, right, rfl, -⟩ := brings
  obtain ⟨before, looked, ran⟩ := processRequest_run (iso13239CrcTrim rxBuffer) { instanc with trace := [] }
  have refused : Iso15693_3Listener.refusal { instanc with trace := [] } (iso13239CrcTrim rxBuffer) = some error :=
    refused
  rw [refused] at ran
  have ends : instanc.next (.rxEnd rxBuffer) = before := by
    unfold Iso15693_3Listener.next iso15693_3ListenerRun
    rw [Effect.update_bind]
    simp only [right, if_true]
    rw [Effect.bind_of_ok ran, if_neg known, if_neg own]
    rfl
  obtain ⟨reads, grown, bytes⟩ := looked.trace
  refine ⟨ends ▸ looked.data, ends ▸ looked.state, fun step member => ?_⟩
  rw [ends, grown] at member
  obtain ⟨place, -, same⟩ := bytes step member
  exact ⟨place, same⟩

theorem flagsRefusal_quiet (quiet : instanc.state = .quiet) (flags : BitVec 8) : instanc.flagsRefusal flags =
      if isInventory flags then some .ignore
      else if isAddressed flags then (if isSelected flags then some .unknown else some .ignore)
      else none := by
  unfold flagsRefusal isInventory isAddressed isSelected
  rw [quiet]
  cases flags.getLsbD 2 <;> cases flags.getLsbD 4 <;> cases flags.getLsbD 5 <;> rfl

/-- A request to selected cards passes the flags of a card that is not quiet only if
it is selected. -/
theorem flagsRefusal_selected {flags : BitVec 8} (loud : instanc.state ≠ .quiet) (selected : isSelected flags = true)
    (passes : instanc.flagsRefusal flags = none) : instanc.state = .selected := by
  unfold flagsRefusal at passes
  unfold isSelected at selected
  revert selected passes
  cases flags.getLsbD 2 <;> cases flags.getLsbD 4 <;> cases flags.getLsbD 5 <;> simp [loud]

theorem refusal_of_brings (brings : event.Brings frame) : instanc.refusal frame =
      match instanc.flagsRefusal (frame.byte 0) with
      | some error => some error
      | none => instanc.dispatchRefusal frame :=
  if_neg brings.choose_spec.2.2.2

theorem isAddressed_inventory {flags : BitVec 8} (carries : isAddressed flags = true) : isInventory flags = false := by
  exact Bool.not_eq_true' _ ▸ (Bool.and_eq_true _ _ ▸ carries).1

theorem quiet_refuses (quiet : instanc.state = .quiet) (spared : instanc.SparesQuiet event)
    (brings : event.Brings frame) :
    ∃ error, instanc.refusal frame = some error ∧ error ≠ .notSupported ∧ error ≠ .uidMismatch := by
  rw [refusal_of_brings brings, flagsRefusal_quiet quiet]
  cases inventory : isInventory (frame.byte 0) with
  | true => exact ⟨.ignore, rfl, by decide, by decide⟩
  | false =>
    have met := spared quiet frame brings inventory
    cases carries : isAddressed (frame.byte 0) with
    | true =>
      cases isSelected (frame.byte 0) with
      | true => exact ⟨.unknown, rfl, by decide, by decide⟩
      | false => exact ⟨.ignore, rfl, by decide, by decide⟩
    | false =>
      obtain ⟨custom, foreign⟩ := met.1 carries
      have refuses : instanc.dispatchRefusal frame = some (instanc.customRefusal frame) := if_pos custom
      refine ⟨instanc.customRefusal frame, refuses, ?_⟩
      unfold customRefusal
      by_cases short : frame.sizeBytes - 2 < 1
      · rw [if_pos short]
        exact ⟨by decide, by decide⟩
      · rw [if_neg short, if_pos (foreign.resolve_left short)]
        exact ⟨by decide, by decide⟩

theorem delivered_of_calls {handler : Iso15693_3RequestHandler} (calls : instanc.Calls event handler) :
    ∃ frame, event.Brings frame ∧ instanc.refusal frame = none ∧ handlerOf (frame.byte 1) = some handler := by
  let holds (later : Iso15693_3Listener) : Prop := ∀ handler, .called handler ∈ later.trace →
    ∃ frame, event.Brings frame ∧ instanc.refusal frame = none ∧ handlerOf (frame.byte 1) = some handler
  have free : Undisturbed holds := by
    refine ⟨fun later step silent kept handler member => ?_, fun _ _ kept => kept, fun _ _ kept => kept⟩
    rcases List.mem_append.mp member with earlier | last
    · exact kept handler earlier
    · exact absurd (List.mem_singleton.mp last).symm (silent handler)
  refine free.run_keeps (fun _ _ kept => kept) (fun handler none => nomatch none) (fun rxBuffer same right => ?_)
    handler calls
  obtain ⟨before, looked, ran⟩ := processRequest_run (iso13239CrcTrim rxBuffer) { instanc with trace := [] }
  have looks : holds before := by
    intro handler member
    obtain ⟨reads, grown, bytes⟩ := looked.trace
    rw [grown] at member
    obtain ⟨place, -, other⟩ := bytes _ member
    exact nomatch other
  rw [ran]
  cases delivered : Iso15693_3Listener.refusal { instanc with trace := [] } (iso13239CrcTrim rxBuffer) with
  | some error => exact looks
  | none =>
    have long : ¬ (iso13239CrcTrim rxBuffer).sizeBytes < 2 := by
      intro short
      rw [refusal, if_pos short] at delivered
      exact nomatch delivered
    refine (free.keeps_standardRequest _ _ _ (fun called found => ⟨.update fun later kept handler member => ?_, ?_⟩)
      before looks).1
    · rcases List.mem_append.mp member with earlier | last
      · exact kept handler earlier
      · cases List.mem_singleton.mp last
        exact ⟨_, ⟨rxBuffer, same, right, rfl, long⟩, delivered, found⟩
    · exact free.keeps_handler (fun _ _ kept => kept) (fun _ _ kept => kept) called _ _

theorem stayQuiet_quiet (calls : instanc.Calls event .stayQuiet) : (instanc.next event).state = .quiet := by
  obtain ⟨frame, ⟨rxBuffer, rfl, right, rfl, -⟩, delivered, found⟩ := delivered_of_calls calls
  obtain ⟨before, looked, ran⟩ := processRequest_run (iso13239CrcTrim rxBuffer) { instanc with trace := [] }
  have delivered : Iso15693_3Listener.refusal { instanc with trace := [] } (iso13239CrcTrim rxBuffer) = none := delivered
  rw [delivered] at ran
  have known : (iso13239CrcTrim rxBuffer).byte 1 ≠ 0#8 := by
    intro zero
    rw [zero] at found
    exact absurd found (by decide)
  have served : ∃ after, iso15693_3ListenerProcessRequest (iso13239CrcTrim rxBuffer) { instanc with trace := [] } =
      (.ok .ignore, after) ∧ after.state = .quiet := by
    rw [ran]
    unfold iso15693_3ListenerHandleStandardRequest
    rw [requestHandler_eq known, found]
    rcases before with ⟨⟨furiDebug, outsideData, outsideSecurity⟩, data, state, sessionState, txBuffer, table, trace⟩
    cases furiDebug <;> exact ⟨_, rfl, rfl⟩
  obtain ⟨after, done, quiet⟩ := served
  unfold Iso15693_3Listener.next iso15693_3ListenerRun
  rw [Effect.update_bind]
  simp only [right, if_true]
  rw [Effect.bind_of_ok done]
  exact quiet

theorem next_quiet (quiet : instanc.state = .quiet) (spared : instanc.SparesQuiet event) :
    (instanc.next event).state = .quiet := by
  have free : Undisturbed (·.state = .quiet) := ⟨fun _ _ _ kept => kept, fun _ _ kept => kept, fun _ _ kept => kept⟩
  refine free.run_keeps (fun _ selected kept => absurd (kept.symm.trans selected) (by decide)) quiet
    fun rxBuffer same right => ?_
  obtain ⟨before, looked, ran⟩ := processRequest_run (iso13239CrcTrim rxBuffer) { instanc with trace := [] }
  have refused : ∃ error,
      Iso15693_3Listener.refusal { instanc with trace := [] } (iso13239CrcTrim rxBuffer) = some error := by
    by_cases short : (iso13239CrcTrim rxBuffer).sizeBytes < 2
    · exact ⟨.format, if_pos short⟩
    · obtain ⟨error, refused, -⟩ := quiet_refuses quiet spared ⟨rxBuffer, same, right, rfl, short⟩
      exact ⟨error, refused⟩
  obtain ⟨error, refused⟩ := refused
  rw [ran, refused]
  exact looked.state.trans quiet

theorem acts_on_event {quiet : Bool} (is : quiet = true → instanc.state = .quiet) (spared : instanc.SparesQuiet event) :
    instanc.ActsOn quiet event := by
  refine ⟨fun silent frame brings _ => ?_, fun silent frame brings carries other own handler found => ?_,
    fun frame brings selected handler calls => ?_⟩
  · obtain ⟨error, refused, known, own⟩ := quiet_refuses (is silent) spared brings
    exact ignores_refused brings refused known own
  · have none := (spared (is silent) frame brings (isAddressed_inventory carries)).2 carries other own
    exact nomatch none.symm.trans found
  · obtain ⟨frame', brings', delivered, -⟩ := delivered_of_calls calls
    have same : frame' = frame := by
      obtain ⟨rxBuffer, rfl, -, rfl, -⟩ := brings
      obtain ⟨rxBuffer', event', -, rfl, -⟩ := brings'
      cases event'
      rfl
    subst same
    by_cases silent : instanc.state = .quiet
    · obtain ⟨error, refused, -⟩ := quiet_refuses silent spared brings
      exact nomatch refused.symm.trans delivered
    · rw [refusal_of_brings brings] at delivered
      refine flagsRefusal_selected silent selected ?_
      cases passes : instanc.flagsRefusal (frame'.byte 0) with
      | none => rfl
      | some error =>
        rw [passes] at delivered
        exact nomatch delivered

theorem quietAfter_quiet {quiet : Bool} (is : quiet = true → instanc.state = .quiet)
    (spared : instanc.SparesQuiet event) (silent : instanc.quietAfter quiet event = true) :
    (instanc.next event).state = .quiet := by
  unfold Iso15693_3Listener.quietAfter at silent
  split at silent
  · rename_i calls
    exact stayQuiet_quiet calls
  · split at silent
    · exact nomatch silent
    · exact next_quiet (is silent) spared

theorem quietOver_quiet {quiet : Bool} (is : quiet = true → instanc.state = .quiet)
    {events : List Iso15693_3NfcEvent} (spared : instanc.Throughout Iso15693_3Listener.SparesQuiet events)
    (silent : instanc.quietOver quiet events = true) : (instanc.after events).state = .quiet := by
  induction events generalizing instanc quiet with
  | nil => exact is silent
  | cons event rest ih => exact ih (quietAfter_quiet is spared.1) spared.2 silent

end

/-- **In a run that spares the quiet card, a card that was told to stay quiet acts as
it is to on every event.** -/
theorem quiet_card_acts (surroundings : Iso15693_3Surroundings) (data : Iso15693_3Data)
    (events : List Iso15693_3NfcEvent) (event : Iso15693_3NfcEvent)
    (spared : (iso15693_3ListenerAlloc surroundings data).Throughout Iso15693_3Listener.SparesQuiet
      (events ++ [event])) :
    ((iso15693_3ListenerAlloc surroundings data).after events).ActsOn
      ((iso15693_3ListenerAlloc surroundings data).quietOver false events) event := by
  obtain ⟨before, here, -⟩ := throughout_append.mp spared
  exact acts_on_event (quietOver_quiet (fun silent => absurd silent Bool.false_ne_true) before) here

def stayQuietEvent : Iso15693_3NfcEvent :=
  requestEvent [0x22, 0x02, 0x78, 0x56, 0x34, 0x12, 0x00, 0x01, 0x04, 0xE0]

theorem brings_requestEvent {request : List (BitVec 8)}
    (right : iso13239CrcCheck (.ofBytes (request ++ iso13239CrcBytes request)) = true)
    (long : ¬ (iso13239CrcTrim (.ofBytes (request ++ iso13239CrcBytes request))).sizeBytes < 2) :
    (requestEvent request).Brings (iso13239CrcTrim (.ofBytes (request ++ iso13239CrcBytes request))) :=
  ⟨_, rfl, right, rfl, long⟩

theorem spares_inventory {instanc : Iso15693_3Listener} {request : List (BitVec 8)}
    (inventory : isInventory ((iso13239CrcTrim (.ofBytes (request ++ iso13239CrcBytes request))).byte 0) = true) :
    instanc.SparesQuiet (requestEvent request) := by
  rintro - frame ⟨rxBuffer, same, -, rfl, -⟩ other
  obtain rfl := Iso15693_3NfcEvent.rxEnd.inj same
  exact absurd (inventory.symm.trans other) (by decide)

/-- A quiet card ignores an inventory request. -/
theorem quiet_card_acts_inventory :
    let card := iso15693_3ListenerAlloc releaseBuild fourBlockCard
    card.quietOver false [stayQuietEvent] = true ∧
      (card.after [stayQuietEvent]).Ignores (requestEvent [0x06, 0x01, 0x00]) := by
  intro card
  have silent : card.quietOver false [stayQuietEvent] = true := by decide +kernel
  have spared : card.Throughout Iso15693_3Listener.SparesQuiet ([stayQuietEvent] ++ [requestEvent [0x06, 0x01, 0x00]]) :=
    ⟨fun quiet => absurd quiet (by decide), spares_inventory (by decide +kernel), trivial⟩
  have acts := quiet_card_acts releaseBuild fourBlockCard [stayQuietEvent] (requestEvent [0x06, 0x01, 0x00]) spared
  have brings : (requestEvent [0x06, 0x01, 0x00]).Brings _ :=
    brings_requestEvent (by decide +kernel) (by decide +kernel)
  exact ⟨silent, acts.ignores silent _ brings (.inl (by decide +kernel))⟩

/-- A quiet card answers a request to read a block that carries no UID, and ignores
the one that carries its own. -/
theorem quiet_card_answers :
    let card := (iso15693_3ListenerAlloc releaseBuild fourBlockCard).after [stayQuietEvent]
    (iso15693_3ListenerAlloc releaseBuild fourBlockCard).quietOver false [stayQuietEvent] = true ∧
      ¬ card.ActsOn true (requestEvent [0x02, 0x20, 0x00]) ∧
      ¬ card.ActsOn true (requestEvent [0x22, 0x20, 0x78, 0x56, 0x34, 0x12, 0x00, 0x01, 0x04, 0xE0, 0x00]) := by
  intro card
  refine ⟨by decide +kernel, fun acts => ?_, fun acts => ?_⟩
  · have brings : (requestEvent [0x02, 0x20, 0x00]).Brings _ :=
      brings_requestEvent (by decide +kernel) (by decide +kernel)
    have called : card.Calls (requestEvent [0x02, 0x20, 0x00]) .readBlock := by decide +kernel
    obtain ⟨place, read⟩ := (acts.ignores rfl _ brings (.inr (by decide +kernel))).silent _ called
    exact nomatch read
  · have brings : (requestEvent [0x22, 0x20, 0x78, 0x56, 0x34, 0x12, 0x00, 0x01, 0x04, 0xE0, 0x00]).Brings _ :=
      brings_requestEvent (by decide +kernel) (by decide +kernel)
    have silent : ¬ card.Calls (requestEvent [0x22, 0x20, 0x78, 0x56, 0x34, 0x12, 0x00, 0x01, 0x04, 0xE0, 0x00])
        .readBlock := by decide +kernel
    exact silent (acts.executes rfl _ brings (by decide +kernel) (by decide +kernel)
      ⟨by decide +kernel, by decide +kernel⟩ .readBlock (by decide +kernel))

end Xtreme.Nfc
