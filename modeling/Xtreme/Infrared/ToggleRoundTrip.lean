import Xtreme.Infrared.RepeatRoundTrip
import Xtreme.Infrared.ManchesterReceiver

/-! Keys pressed and held on RC5 and RC6 remotes. The encoder flips its toggle bit with
every press and not with a repeat, and the decoder takes a frame for a repeat if it has
the message and the toggle bit of the frame before it. -/
namespace Xtreme.Infrared
open Xtreme.Library Machine

/-! ## Messages in the payload -/

/-- The message that a decoder reports for a frame, after another one. -/
def reportOf (previous : InfraredMessage) (previousToggle : Bool) (message : InfraredMessage) (toggle : Bool) :
    InfraredMessage where
  protocol := message.protocol
  address := message.address
  command := message.command
  isRepeat := decide (previous.address = message.address ∧ previous.command = message.command ∧
    previous.protocol = message.protocol) && (toggle == previousToggle)

theorem carries_reversed {data : BitVec 64} {start count : Nat} {field : BitVec 32} :
    Carries data start (fieldBits field count).reverse ↔
      ∀ i < count, data.getLsbD (start + i) = field.getLsbD (count - 1 - i) := by
  simp only [Carries, List.length_reverse, length_fieldBits]
  refine forall₂_congr fun i inside => ?_
  rw [List.getD_eq_getElem _ _ (by simpa using inside)]
  simp [fieldBits]

theorem reversed_field {byte : BitVec 8} {field : BitVec 32} {length skip : Nat} (mask : BitVec 8)
    (ones : mask = BitVec.ofNat 8 (2 ^ length - 1)) (inside : skip + length ≤ 8)
    (carried : ∀ i < length, byte.getLsbD (8 - skip - length + i) = field.getLsbD (length - 1 - i))
    (fits : field.toNat < 2 ^ length) : ((reverse byte >>> skip) &&& mask).setWidth 32 = field := by
  have bits : HasBits ((reverse byte >>> skip) &&& mask) length field.getLsbD := by
    intro i
    rw [getLsbD_masked _ _ length ones (by omega), BitVec.getLsbD_ushiftRight]
    by_cases low : i < length
    · have place : 7 - (skip + i) = 8 - skip - length + (length - 1 - i) := by omega
      have back : length - 1 - (length - 1 - i) = i := by omega
      rw [BitVec.getLsbD_eq_getElem (show skip + i < 8 by omega), getElem_reverse, place,
        carried (length - 1 - i) (by omega), back]
    · simp [low]
  exact bits.widen fits

/-- The messages that RC5 and RC6 have a place for. -/
def Sendable (family : InfraredFamily) (message : InfraredMessage) : Prop :=
  match family with
  | .rc5 => (message.protocol = .rc5 ∨ message.protocol = .rc5x) ∧
      message.address.toNat < 2 ^ 5 ∧ message.command.toNat < 2 ^ 6
  | .rc6 => message.protocol = .rc6 ∧ message.address.toNat < 2 ^ 8 ∧ message.command.toNat < 2 ^ 8
  | _ => False

theorem wordAt_bit (data : BitVec 64) {place : Nat} (inside : place < 32) :
    (wordAt data 0).getLsbD place = data.getLsbD place := by
  simp [wordAt, inside]

theorem flag_eq (word mask : BitVec 32) (place : Nat) (one : mask = BitVec.twoPow 32 place) (inside : place < 32) :
    decide (word &&& mask ≠ 0) = word.getLsbD place := by
  have power : BitVec.twoPow 32 place ≠ 0#32 := by
    intro zero
    have bit := congrArg (BitVec.getLsbD · place) zero
    simp [inside] at bit
  rw [one, BitVec.and_twoPow]
  cases word.getLsbD place
  · simp
  · simpa using power

/-- A byte of the data whose bits come highest first. -/
theorem reversed_byte {data : BitVec 64} {start : Nat} {field : BitVec 32} (inside : start + 8 ≤ 32)
    (carried : ∀ i < 8, data.getLsbD (start + i) = field.getLsbD (8 - 1 - i)) (fits : field.toNat < 2 ^ 8) :
    (reverse ((wordAt data 0 >>> start).setWidth 8)).setWidth 32 = field := by
  have bits : HasBits (reverse ((wordAt data 0 >>> start).setWidth 8)) 8 field.getLsbD := by
    intro i
    by_cases low : i < 8
    · have place : 8 - 1 - (7 - i) = i := by omega
      rw [BitVec.getLsbD_eq_getElem low, getElem_reverse, BitVec.getLsbD_setWidth, BitVec.getLsbD_ushiftRight,
        wordAt_bit _ (by omega), carried (7 - i) (by omega), place]
      simp [low, show 7 - i < 8 by omega]
    · rw [BitVec.getLsbD_of_ge _ _ (Nat.le_of_not_lt low), decide_eq_false low, Bool.false_and]
  exact bits.widen fits

theorem rc6_interpret {decoder : InfraredCommonDecoder} {message : InfraredMessage} {toggle : Bool}
    (sendable : Sendable .rc6 message) (carries : Carries decoder.data 0 (payloadLayout message toggle)) :
    infraredDecoderRc6Interpret infraredProtocolRc6.toInfraredProtocolTable decoder =
      (true, { decoder with toggle := toggle, message := reportOf decoder.message decoder.toggle message toggle }) := by
  obtain ⟨protocol, address, command, isRepeat⟩ := message
  obtain ⟨known, addressFits, commandFits⟩ := sendable
  cases known
  obtain ⟨head, fields⟩ := carries_append.mp carries
  obtain ⟨addressBits, commandBits⟩ := carries_append.mp fields
  have start := head 0 (Nat.le_of_ble_eq_true rfl)
  have toggled := head 4 (Nat.le_of_ble_eq_true rfl)
  have mode : (wordAt decoder.data 0 >>> 1) &&& 0x7 = 0 := by
    refine BitVec.eq_of_getLsbD_eq fun i inside => ?_
    rw [getLsbD_masked _ _ 3 (by decide) (by decide), BitVec.getLsbD_ushiftRight]
    by_cases low : i < 3
    · rw [wordAt_bit _ (by omega), ← Nat.zero_add (1 + i), head (1 + i) (Nat.lt_of_lt_of_le (by omega) (Nat.le_of_ble_eq_true rfl : 4 ≤ 5))]
      obtain rfl | rfl | rfl : i = 0 ∨ i = 1 ∨ i = 2 := by omega
      all_goals rfl
    · simp [low]
  have addressHeard : (reverse ((wordAt decoder.data 0 >>> 5).setWidth 8)).setWidth 32 = address :=
    reversed_byte (by omega) (carries_reversed.mp addressBits) addressFits
  have commandHeard : (reverse ((wordAt decoder.data 0 >>> 13).setWidth 8)).setWidth 32 = command :=
    reversed_byte (by omega) (carries_reversed.mp commandBits) commandFits
  have startBit : decide (wordAt decoder.data 0 &&& 0x01 ≠ 0) = true := by
    rw [flag_eq _ _ 0 (by decide) (by decide), wordAt_bit _ (by decide)]
    exact start
  have toggleBit : decide (wordAt decoder.data 0 &&& 0x10 ≠ 0) = toggle := by
    rw [flag_eq _ _ 4 (by decide) (by decide), wordAt_bit _ (by decide)]
    exact toggled
  have started : decide (wordAt decoder.data 0 &&& 0x01 ≠ 0) = true ∧ (wordAt decoder.data 0 >>> 1) &&& 0x7 = 0 :=
    ⟨startBit, mode⟩
  simp only [infraredDecoderRc6Interpret, addressHeard, commandHeard, toggleBit, if_pos started, reportOf,
    Bool.if_false_right]

def inverted (data : BitVec 64) : BitVec 64 :=
  setByte (setByte data 0 (~~~(byteAt data 0))) 1 (~~~(byteAt data 1))

theorem inverted_carries {data : BitVec 64} {bits : List Bool} (carries : Carries data 0 (bits.map not))
    (short : bits.length ≤ 16) : Carries (inverted data) 0 bits := by
  intro i inside
  have carried := carries i (by rw [List.length_map]; exact inside)
  rw [Nat.zero_add] at carried ⊢
  have flipped : (inverted data).getLsbD i = !data.getLsbD i := by
    rw [inverted, getLsbD_setByte _ _ (by omega), getLsbD_setByte _ _ (by omega)]
    by_cases second : 8 ≤ i
    · have place : 8 * 1 + (i - 8) = i := by omega
      rw [if_pos (by omega), BitVec.getLsbD_not, getLsbD_byteAt _ _ (by omega), place]
      simp [show i - 8 < 8 by omega]
    · have place : 8 * 0 + (i - 0) = i := by omega
      rw [if_neg (by omega), BitVec.getLsbD_not, getLsbD_byteAt _ _ (by omega)]
      simp [show i < 8 by omega]
  rw [flipped, carried, List.getD_eq_getElem _ _ (by rw [List.length_map]; exact inside), List.getElem_map,
    Bool.not_not, List.getD_eq_getElem _ _ inside]

theorem rc5_interpret {decoder : InfraredCommonDecoder} {message : InfraredMessage} {toggle : Bool}
    (sendable : Sendable .rc5 message) (carries : Carries decoder.data 0 (payloadLayout message toggle)) :
    infraredDecoderRc5Interpret infraredProtocolRc5.toInfraredProtocolTable decoder = (true, { decoder with
        data := inverted decoder.data
        toggle := toggle
        message := reportOf decoder.message decoder.toggle message toggle }) := by
  obtain ⟨protocol, address, command, isRepeat⟩ := message
  obtain ⟨known, addressFits, commandFits⟩ := sendable
  have layout : Carries (inverted decoder.data) 0
      ([true, decide (protocol = .rc5), toggle] ++ ((fieldBits address 5).reverse ++ (fieldBits command 6).reverse)) := by
    refine inverted_carries ?_ (by simp)
    obtain rfl | rfl := known <;> exact carries
  obtain ⟨head, fields⟩ := carries_append.mp layout
  obtain ⟨addressBits, commandBits⟩ := carries_append.mp fields
  rw [carries_reversed] at addressBits commandBits
  simp only [List.length_cons, List.length_nil, List.length_reverse, length_fieldBits] at addressBits commandBits
  have start := head 0 (Nat.le_of_ble_eq_true rfl)
  have second := head 1 (Nat.le_of_ble_eq_true rfl)
  have toggled := head 2 (Nat.le_of_ble_eq_true rfl)
  have addressHeard : (reverse (byteAt (inverted decoder.data) 0) &&& 0x1F).setWidth 32 = address := by
    rw [← BitVec.ushiftRight_zero (reverse (byteAt (inverted decoder.data) 0))]
    refine reversed_field _ (by decide) (by decide) (fun i low => ?_) addressFits
    rw [getLsbD_byteAt _ _ (by omega), ← addressBits i low]
    congr 1
    omega
  have commandHeard : ((reverse (byteAt (inverted decoder.data) 1) >>> 2) &&& 0x3F).setWidth 32 = command := by
    refine reversed_field _ (by decide) (by decide) (fun i low => ?_) commandFits
    rw [getLsbD_byteAt _ _ (by omega), ← commandBits i low]
    congr 1
    omega
  have startBit : decide (wordAt (inverted decoder.data) 0 &&& 0x01 ≠ 0) = true := by
    rw [flag_eq _ _ 0 (by decide) (by decide), wordAt_bit _ (by decide)]
    exact start
  have secondBit : decide (wordAt (inverted decoder.data) 0 &&& 0x02 ≠ 0) = decide (protocol = .rc5) := by
    rw [flag_eq _ _ 1 (by decide) (by decide), wordAt_bit _ (by decide)]
    exact second
  have toggleBit : decide (wordAt (inverted decoder.data) 0 &&& 0x04 ≠ 0) = toggle := by
    rw [flag_eq _ _ 2 (by decide) (by decide), wordAt_bit _ (by decide)]
    exact toggled
  have variant : (if decide (protocol = .rc5) = true then InfraredProtocol.rc5 else .rc5x) = protocol := by
    obtain rfl | rfl := known <;> rfl
  rw [infraredDecoderRc5Interpret]
  rw [← inverted]
  simp only [addressHeard, commandHeard, startBit, secondBit, toggleBit, variant, if_true, reportOf,
    Bool.if_false_right]

/-- What the encoder and the decoder of a protocol with a toggle bit have in common. -/
structure ToggleProtocol (family : InfraredFamily) (halfTime : Nat → Nat) : Prop where
  encoded : ManchesterEncoded family.spec halfTime
  splits : family.spec.timings.minSplitTime ≠ 0
  once : family.spec.decodeRepeat = none
  encodes : family.encode = infraredCommonEncode family.spec
  reset : ∀ encoder message next, family.encoderReset encoder message = some next →
    next.toggleBit = !encoder.toggleBit
  known : ∀ message, Sendable family message → infraredFindIndexByProtocol message.protocol = some family
  nothing : foundLength family.spec.toInfraredProtocolTable 0 = false
  length : ∀ message toggle, Sendable family message →
    foundLength family.spec.toInfraredProtocolTable (payloadLayout message toggle).length = true ∧
      (payloadLayout message toggle).length ≤ 60
  received : ∀ message toggle, Sendable family message → FrameReceived family.spec
      (mergeLevels (manchesterFrame family.spec.timings halfTime (payloadLayout message toggle)))
      (payloadLayout message toggle)
  interprets : ∀ decoder message toggle, Sendable family message →
    Carries decoder.data 0 (payloadLayout message toggle) →
    ∃ data, family.spec.interpret family.spec.toInfraredProtocolTable decoder = (true, { decoder with
      data := data
      toggle := toggle
      message := reportOf decoder.message decoder.toggle message toggle })

theorem rc5_toggles : ToggleProtocol .rc5 rc5HalfTime where
  encoded := rc5_encoded
  splits := by decide
  once := rfl
  encodes := rfl
  nothing := by decide
  reset := by
    rintro encoder message next reset
    cases reset
    rfl
  known := by
    rintro ⟨protocol, address, command, isRepeat⟩ ⟨known, -⟩
    obtain rfl | rfl := known <;> rfl
  length := by
    rintro ⟨protocol, address, command, isRepeat⟩ toggle ⟨known, -⟩
    obtain rfl | rfl := known <;> simp [payloadLayout] <;> decide
  received := by
    rintro ⟨protocol, address, command, isRepeat⟩ toggle ⟨known, -⟩
    obtain rfl | rfl := known <;> exact rc5_frame_received (by simp)
  interprets := fun decoder message toggle sendable carries => ⟨_, rc5_interpret sendable carries⟩

theorem rc6_toggles : ToggleProtocol .rc6 rc6HalfTime where
  encoded := rc6_encoded
  splits := by decide
  once := rfl
  encodes := rfl
  nothing := by decide
  reset := by
    rintro encoder message next reset
    cases reset
    rfl
  known := by
    rintro ⟨protocol, address, command, isRepeat⟩ ⟨known, -⟩
    cases known
    rfl
  length := by
    rintro ⟨protocol, address, command, isRepeat⟩ toggle ⟨known, -⟩
    cases known
    simp [payloadLayout]
    decide
  received := by
    rintro ⟨protocol, address, command, isRepeat⟩ toggle ⟨known, -⟩
    cases known
    exact rc6_frame_received (by simp)
  interprets := fun decoder message toggle sendable carries => ⟨_, rc6_interpret sendable carries⟩

section Presses
variable {family : InfraredFamily} {halfTime : Nat → Nat}

def reported (previous : InfraredMessage) (previousToggle : Bool) :
    List (InfraredMessage × Bool) → List InfraredMessage
  | [] => []
  | (message, toggle) :: frames =>
    reportOf previous previousToggle message toggle ::
      reported (reportOf previous previousToggle message toggle) toggle frames

def receivedFrame (family : InfraredFamily) (halfTime : Nat → Nat) (frame : InfraredMessage × Bool) : List Sample :=
  mergeLevels (manchesterFrame family.spec.timings halfTime (payloadLayout frame.1 frame.2))

theorem decodedMessages_append {spec : InfraredCommonProtocolSpec} {decoder middle : InfraredCommonDecoder}
    {samples : List Sample} {messages : List InfraredMessage} (heard : Hears spec decoder samples messages middle)
    (rest : List Sample) :
    decodedMessages spec decoder (samples ++ rest) =
      (decodedMessages spec middle rest).map (messages ++ ·) := by
  obtain ⟨messagesHeard, reached⟩ := heard
  simp only [decodedMessages, List.map_append, List.append_assoc, run_append, reached, List.filterMap_append,
    messagesHeard]
  generalize (decoderMachine spec).run _ _ = outcome
  obtain ⟨answers, final⟩ := outcome
  cases final <;> rfl

theorem decodedMessages_frames (toggles : ToggleProtocol family halfTime) (frames : List (InfraredMessage × Bool))
    (sendable : ∀ frame ∈ frames, Sendable family frame.1) {decoder : InfraredCommonDecoder}
    {message : InfraredMessage} {toggle : Bool} (first : Sendable family message)
    (receiving : Receiving decoder (payloadLayout message toggle) true) :
    decodedMessages family.spec decoder (frames.flatMap (receivedFrame family halfTime)) =
      .ok (reported decoder.message decoder.toggle ((message, toggle) :: frames)) := by
  have full := (toggles.length message toggle first).1
  induction frames generalizing decoder message toggle with
  | nil =>
    obtain ⟨data, interpreted⟩ := toggles.interprets decoder message toggle first receiving.held.carries
    have ready := checkReady_of_interpret (receiving.databitCnt ▸ full) interpreted
    rw [List.flatMap_nil, decodedMessages_of_hears (Hears.nil decoder)]
    simp only [ready]
    rfl
  | cons frame frames ih =>
    obtain ⟨message', toggle'⟩ := frame
    have second := sendable (message', toggle') List.mem_cons_self
    obtain ⟨silence, body, samples, long, hears⟩ := toggles.received message' toggle' second
    obtain ⟨data, interpreted⟩ := toggles.interprets (taking decoder false silence) message toggle first
      receiving.held.carries
    obtain ⟨idle, silent, isIdle, heardMessage, heardToggle⟩ := hear_silence receiving toggles.splits long full toggles.once
      interpreted ⟨rfl, rfl⟩
    obtain ⟨next, listens, received⟩ := hears idle isIdle
    have later := ih (fun frame listed => sendable frame (List.mem_cons_of_mem _ listed)) second received
      (toggles.length message' toggle' second).1
    have whole : Hears family.spec decoder ((false, silence) :: body)
        [reportOf decoder.message decoder.toggle message toggle] next := silent.append listens.1
    rw [List.flatMap_cons, receivedFrame, samples, decodedMessages_append whole, later, listens.2.1, listens.2.2,
      heardMessage, heardToggle]
    rfl

def encodeRepeats {σ : Type} (encode : σ → Option (Encoded σ)) (fuel : Nat) : Nat → σ → Option (List Sample × σ)
  | 0, encoder => some ([], encoder)
  | count + 1, encoder => do
    let (samples, encoder) ← encodeUntilDone encode fuel encoder
    let (rest, encoder) ← encodeRepeats encode fuel count encoder
    some (samples ++ rest, encoder)

def sendMessages : InfraredEncoderHandler → List (InfraredMessage × Nat) → Option (List Sample)
  | _, [] => some []
  | handler, (message, repeats) :: presses => do
    let handler ← infraredResetEncoder handler message
    let (samples, handler) ← encodeRepeats infraredEncode frameFuel (repeats + 1) handler
    let rest ← sendMessages handler presses
    some (samples ++ rest)

def sentFrames (toggle : Bool) : List (InfraredMessage × Nat) → List (InfraredMessage × Bool)
  | [] => []
  | (message, repeats) :: presses =>
    List.replicate (repeats + 1) (message, toggle) ++ sentFrames (!toggle) presses

theorem encodeRepeats_sent (toggles : ToggleProtocol family halfTime) {encoder : InfraredCommonEncoder}
    (prepared : Prepared encoder) (short : encoder.bitsToEncode ≤ 60) (toggle : Bool) (count : Nat) :
    ∃ encoder', encodeRepeats infraredEncode frameFuel count ⟨some family, ⟨encoder, toggle⟩⟩ =
      some ((List.replicate count (framePayload encoder)).flatMap
        (manchesterFrame family.spec.timings halfTime), ⟨some family, ⟨encoder', toggle⟩⟩) := by
  induction count generalizing encoder with
  | zero => exact ⟨encoder, rfl⟩
  | succ count ih =>
    have frame := untilDone_manchester toggles.encoded prepared short
    obtain ⟨encoder', rest⟩ := ih (rested_prepared prepared) short
    refine ⟨encoder', ?_⟩
    simp only [encodeRepeats, encodeUntilDone_handler, toggles.encodes, frame, Option.map_some, Option.bind_eq_bind,
      Option.bind_some, rest]
    rfl

def nextToggle (family : InfraredFamily) (handler : InfraredEncoderHandler) : Bool :=
  (if handler.encoder = some family then handler.handler else infraredEncoderAlloc).toggleBit

theorem resetEncoder_toggled (toggles : ToggleProtocol family halfTime) (handler : InfraredEncoderHandler)
    {message : InfraredMessage} (sendable : Sendable family message) :
    ∃ encoder, infraredResetEncoder handler message = some ⟨some family, ⟨encoder, !nextToggle family handler⟩⟩ ∧
      Prepared encoder ∧ framePayload encoder = payloadLayout message (nextToggle family handler) := by
  have found := toggles.known message sendable
  have known := List.find?_some found
  have notKaseikyo : message.protocol = .kaseikyo → message.command.toNat < 2 ^ 10 := by
    intro kaseikyo
    rw [kaseikyo] at found
    cases found
    exact sendable.elim
  rw [nextToggle]
  generalize fresh : (if handler.encoder = some family then handler.handler else infraredEncoderAlloc) = start
  have packed := encoderReset_payload family start known notKaseikyo
  obtain ⟨⟨encoder, toggle⟩, reset, payload⟩ := Option.map_eq_some_iff.mp packed
  obtain rfl : toggle = !start.toggleBit := toggles.reset _ _ _ reset
  obtain ⟨state, bitsEncoded, timingsEncoded⟩ := encoderReset_start reset
  have positive := payloadLayout_positive known start.toggleBit
  rw [← payload, framePayload, List.length_map, List.length_range] at positive
  refine ⟨encoder, ?_, ⟨state, bitsEncoded, timingsEncoded, positive⟩, payload⟩
  simp only [infraredResetEncoder, found, fresh, reset, Option.map_some]

theorem sendMessages_frames (toggles : ToggleProtocol family halfTime) (presses : List (InfraredMessage × Nat))
    (sendable : ∀ press ∈ presses, Sendable family press.1) (handler : InfraredEncoderHandler) :
    sendMessages handler presses =
      some (((sentFrames (nextToggle family handler) presses).map fun frame => payloadLayout frame.1 frame.2).flatMap
        (manchesterFrame family.spec.timings halfTime)) := by
  induction presses generalizing handler with
  | nil => rfl
  | cons press presses ih =>
    obtain ⟨message, repeats⟩ := press
    have first := sendable (message, repeats) List.mem_cons_self
    obtain ⟨encoder, reset, prepared, payload⟩ := resetEncoder_toggled toggles handler first
    have short : encoder.bitsToEncode ≤ 60 := by
      have length := congrArg List.length payload
      rw [framePayload, List.length_map, List.length_range] at length
      rw [length]
      exact (toggles.length message _ first).2
    obtain ⟨encoder', sent⟩ := encodeRepeats_sent toggles prepared short (!nextToggle family handler) (repeats + 1)
    have later := ih (fun press listed => sendable press (List.mem_cons_of_mem _ listed))
      ⟨some family, ⟨encoder', !nextToggle family handler⟩⟩
    have flipped : nextToggle family ⟨some family, ⟨encoder', !nextToggle family handler⟩⟩ =
        !nextToggle family handler := by
      rw [nextToggle, if_pos rfl]
    rw [flipped] at later
    simp only [sendMessages, reset, sent, later, Option.bind_eq_bind, Option.bind_some, sentFrames, List.map_append,
      List.map_replicate, List.flatMap_append, payload]

theorem reportOf_first {previous message : InfraredMessage} {previousToggle toggle : Bool}
    (known : message.protocol ≠ .unknown) (other : previous.protocol = .unknown ∨ toggle ≠ previousToggle) :
    reportOf previous previousToggle message toggle = { message with isRepeat := false } := by
  rcases other with fresh | flipped
  · simp [reportOf, fresh, Ne.symm known]
  · simp [reportOf, flipped]

theorem reported_repeats (message : InfraredMessage) (toggle isRepeat : Bool) (repeats : Nat)
    (frames : List (InfraredMessage × Bool)) :
    reported { message with isRepeat := isRepeat } toggle (List.replicate repeats (message, toggle) ++ frames) =
      List.replicate repeats { message with isRepeat := true } ++ reported message toggle frames := by
  induction repeats generalizing isRepeat with
  | zero => cases frames <;> rfl
  | succ repeats ih =>
    have again : reportOf { message with isRepeat := isRepeat } toggle message toggle =
        { message with isRepeat := true } := by
      simp [reportOf]
    rw [List.replicate_succ, List.cons_append, reported, again, ih, List.replicate_succ, List.cons_append]

theorem reported_sentFrames (presses : List (InfraredMessage × Nat))
    (known : ∀ press ∈ presses, press.1.protocol ≠ .unknown) {toggle previousToggle : Bool}
    {previous : InfraredMessage} (other : previous.protocol = .unknown ∨ toggle ≠ previousToggle) :
    reported previous previousToggle (sentFrames toggle presses) =
      presses.flatMap fun press => heldKeyMessages press.1 press.2 := by
  induction presses generalizing toggle previous previousToggle with
  | nil => rfl
  | cons press presses ih =>
    obtain ⟨message, repeats⟩ := press
    have later := @ih (fun press listed => known press (List.mem_cons_of_mem _ listed)) (!toggle) toggle message
      (.inr (by cases toggle <;> decide))
    rw [sentFrames, List.replicate_succ, List.cons_append, reported,
      reportOf_first (known _ List.mem_cons_self) other, reported_repeats, later]
    rfl

theorem sentFrames_sendable (presses : List (InfraredMessage × Nat))
    (sendable : ∀ press ∈ presses, Sendable family press.1) (toggle : Bool) :
    ∀ frame ∈ sentFrames toggle presses, Sendable family frame.1 := by
  induction presses generalizing toggle with
  | nil => simp [sentFrames]
  | cons press presses ih =>
    intro frame listed
    rcases List.mem_append.mp listed with repeated | later
    · rw [List.eq_of_mem_replicate repeated]
      exact sendable press List.mem_cons_self
    · exact ih (fun press listed => sendable press (List.mem_cons_of_mem _ listed)) _ frame later

theorem sendable_known {message : InfraredMessage} (sendable : Sendable family message) :
    message.protocol ≠ .unknown := by
  intro unknown
  cases family <;> simp [Sendable, unknown] at sendable

theorem decodedMessages_presses (toggles : ToggleProtocol family halfTime) (handler : InfraredEncoderHandler)
    (decoder : InfraredCommonDecoder) (presses : List (InfraredMessage × Nat))
    (sendable : ∀ press ∈ presses, Sendable family press.1) :
    (sendMessages handler presses).map (fun samples =>
        decodedMessages family.spec (infraredCommonDecoderReset family.spec decoder) (mergeLevels samples)) =
      some (.ok (presses.flatMap fun press => heldKeyMessages press.1 press.2)) := by
  have known : ∀ press ∈ presses, press.1.protocol ≠ .unknown := fun press listed =>
    sendable_known (sendable press listed)
  have frames := sentFrames_sendable presses sendable (nextToggle family handler)
  have reports : _ = presses.flatMap fun press => heldKeyMessages press.1 press.2 :=
    @reported_sentFrames presses known (nextToggle family handler) decoder.toggle
      (infraredCommonDecoderReset family.spec decoder).message (.inl rfl)
  generalize sent : sentFrames (nextToggle family handler) presses = sending at frames reports
  have payloads : ∀ payload ∈ sending.map fun frame => payloadLayout frame.1 frame.2, payload ≠ [] := by
    intro payload listed
    obtain ⟨frame, member, rfl⟩ := List.mem_map.mp listed
    have found := List.find?_some (toggles.known _ (frames frame member))
    exact List.ne_nil_of_length_pos (payloadLayout_positive found frame.2)
  rw [sendMessages_frames toggles presses sendable, Option.map_some, sent, mergeLevels_frames _ payloads,
    List.flatMap_map, ← reports]
  congr 1
  cases sending with
  | nil =>
    rw [List.flatMap_nil, decodedMessages_of_hears (Hears.nil _), infraredCommonDecoderCheckReady]
    have empty : foundLength family.spec.toInfraredProtocolTable
        (infraredCommonDecoderReset family.spec decoder).databitCnt = false := toggles.nothing
    simp only [empty]
    rfl
  | cons frame sending =>
    obtain ⟨message, toggle⟩ := frame
    have first := frames (message, toggle) List.mem_cons_self
    obtain ⟨silence, body, samples, -, hears⟩ := toggles.received message toggle first
    obtain ⟨idle, silent, isIdle⟩ := @listen_first_silence family.spec decoder silence
    obtain ⟨next, listens, received⟩ := hears idle isIdle
    have whole : Listens family.spec (infraredCommonDecoderReset family.spec decoder) ((false, silence) :: body) next :=
      silent.append listens
    have later := decodedMessages_frames toggles sending
      (fun frame listed => frames frame (List.mem_cons_of_mem _ listed)) first received
    rw [List.flatMap_cons, samples, decodedMessages_append whole.1]
    refine (congrArg _ later).trans ?_
    rw [whole.2.1, whole.2.2]
    rfl

/-- RC5 and RC6: whatever was sent or heard before, the decoder reports the messages in
the order in which they were sent. The first frame of each message is no repeat, even if
the key was pressed before, and every other one is. -/
theorem toggled_messages_are_told_apart (family : InfraredFamily)
    (manchester : family = .rc5 ∨ family = .rc6) (handler : InfraredEncoderHandler) (decoder : InfraredCommonDecoder)
    (presses : List (InfraredMessage × Nat)) (sendable : ∀ press ∈ presses, Sendable family press.1) :
    (sendMessages handler presses).map (fun samples =>
        decodedMessages family.spec (infraredCommonDecoderReset family.spec decoder) (mergeLevels samples)) =
      some (.ok (presses.flatMap fun press => heldKeyMessages press.1 press.2)) := by
  obtain rfl | rfl := manchester
  · exact decodedMessages_presses rc5_toggles handler decoder presses sendable
  · exact decodedMessages_presses rc6_toggles handler decoder presses sendable

theorem toggled_messages_are_told_apart_rc6 : (sendMessages infraredAllocEncoder
        [(⟨.rc6, 0x12, 0x34, false⟩, 2), (⟨.rc6, 0x12, 0x34, true⟩, 0), (⟨.rc6, 0xFF, 0x00, false⟩, 1)]).map
      (fun samples => decodedMessages infraredProtocolRc6 (infraredCommonDecoderReset infraredProtocolRc6
        ⟨[], ⟨.unknown, 0, 0, false⟩, .waitPreamble, false, false, 0, 0, false⟩) (mergeLevels samples)) =
      some (.ok [⟨.rc6, 0x12, 0x34, false⟩, ⟨.rc6, 0x12, 0x34, true⟩, ⟨.rc6, 0x12, 0x34, true⟩,
        ⟨.rc6, 0x12, 0x34, false⟩, ⟨.rc6, 0xFF, 0x00, false⟩, ⟨.rc6, 0xFF, 0x00, true⟩]) :=
  toggled_messages_are_told_apart .rc6 (.inr rfl) infraredAllocEncoder _
    [(⟨.rc6, 0x12, 0x34, false⟩, 2), (⟨.rc6, 0x12, 0x34, true⟩, 0), (⟨.rc6, 0xFF, 0x00, false⟩, 1)]
    (by simp [Sendable])

end Presses

end Xtreme.Infrared
