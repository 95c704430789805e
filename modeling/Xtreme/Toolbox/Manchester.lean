import Mathlib.Data.List.Basic

/-! Manchester coding (`lib/toolbox/manchester_encoder.c`, `manchester_decoder.c`).

The encoder keeps the second half of the last bit pending, since it may merge
with the first half of the next one into a long pulse. The decoder is a packed
table over four states and starts out as if it stood in the middle of a one
bit. A run of zeros at the start of a transmission therefore looks like ones
sent half a bit late; the first one bit makes a long low pulse, which resets
the decoder, and from there on the two machines stay in phase (`InPhase`). -/
namespace Xtreme.Toolbox

inductive ManchesterEncoderResult where
  | shortLow
  | longLow
  | longHigh
  | shortHigh
  deriving DecidableEq, Repr

structure ManchesterEncoderState where
  prevBit : Bool
  step : UInt8
  deriving DecidableEq, Repr

def ManchesterEncoderResult.ofBits : Bool → Bool → ManchesterEncoderResult
  | false, false => .shortLow
  | false, true => .longLow
  | true, false => .longHigh
  | true, true => .shortHigh

/-- The pulse a bit starts with when nothing is pending. -/
def ManchesterEncoderResult.firstHalf (bit : Bool) : ManchesterEncoderResult :=
  if bit then .shortLow else .shortHigh

def manchesterEncoderReset (state : ManchesterEncoderState) : ManchesterEncoderState :=
  { state with step := 0 }

/-- Whether the bit is used up, the value left in `result`, and the next state. -/
def manchesterEncoderAdvance (state : ManchesterEncoderState) (currBit : Bool)
    (result : ManchesterEncoderResult) : Bool × ManchesterEncoderResult × ManchesterEncoderState :=
  match state.step with
  | 0 => (true, .firstHalf currBit, ⟨currBit, 1⟩)
  | 1 =>
    if currBit = state.prevBit then (false, .ofBits state.prevBit currBit, { state with step := 2 })
    else (true, .ofBits state.prevBit currBit, { state with prevBit := currBit })
  | 2 => (true, .firstHalf currBit, ⟨currBit, 1⟩)
  -- "DO CRASH HERE": the state and `result` stay as they are
  | _ => (false, result, state)

def manchesterEncoderFinish (state : ManchesterEncoderState) :
    ManchesterEncoderResult × ManchesterEncoderState :=
  (.ofBits state.prevBit state.prevBit, { state with step := 0 })

/-- Calling `manchester_encoder_advance` with one bit until it returns true. -/
def manchesterEncodeBit (fuel : Nat) (state : ManchesterEncoderState) (bit : Bool)
    (result : ManchesterEncoderResult) :
    Option (List ManchesterEncoderResult × ManchesterEncoderState) :=
  match fuel with
  | 0 => none
  | fuel + 1 =>
    match manchesterEncoderAdvance state bit result with
    | (true, result, state) => some ([result], state)
    | (false, result, state) =>
      (manchesterEncodeBit fuel state bit result).map fun (results, state) =>
        (result :: results, state)

/-- The results of a sequence of bits, without the closing one. The caller's
`result` holds the last one. -/
def manchesterEncodeBits (fuel : Nat) (state : ManchesterEncoderState) (result : ManchesterEncoderResult) :
    List Bool → Option (List ManchesterEncoderResult × ManchesterEncoderState)
  | [] => some ([], state)
  | bit :: bits => do
    let (first, state) ← manchesterEncodeBit fuel state bit result
    let (rest, state) ← manchesterEncodeBits fuel state (first.getLastD result) bits
    some (first ++ rest, state)

inductive ManchesterEvent where
  | shortLow
  | shortHigh
  | longLow
  | longHigh
  | reset
  deriving DecidableEq, Repr

/-- The numbers of the enumeration, which are shift counts into the table. -/
def ManchesterEvent.shift : ManchesterEvent → Nat
  | .shortLow => 0
  | .shortHigh => 2
  | .longLow => 4
  | .longHigh => 6
  | .reset => 8

inductive ManchesterState where
  | start1
  | mid1
  | mid0
  | start0
  deriving DecidableEq, Repr

def ManchesterState.ofCode : Nat → ManchesterState
  | 0 => .start1
  | 1 => .mid1
  | 2 => .mid0
  | _ => .start0

/-- The table `transitions`, one packed row for each state. -/
def transitions : ManchesterState → Nat
  | .start1 => 0b00000001
  | .mid1 => 0b10010001
  | .mid0 => 0b10011011
  | .start0 => 0b11111011

def manchesterResetState : ManchesterState := .mid1

/-- The bit `manchester_advance` reports, if it returns true, and the next state. -/
def manchesterAdvance (state : ManchesterState) (event : ManchesterEvent) :
    Option Bool × ManchesterState :=
  if event = .reset then (none, manchesterResetState)
  else
    let newState := ManchesterState.ofCode ((transitions state >>> event.shift) &&& 0x3)
    if newState = state then (none, manchesterResetState)
    else if newState = .mid0 then (some false, newState)
    else if newState = .mid1 then (some true, newState)
    else (none, newState)

/-- The bits reported over a sequence of events, and the state it ends in. -/
def manchesterDecode : ManchesterState → List ManchesterEvent → List Bool × ManchesterState
  | state, [] => ([], state)
  | state, event :: events =>
    let (bit, next) := manchesterAdvance state event
    let (bits, final) := manchesterDecode next events
    (bit.toList ++ bits, final)

/-- The event of the same length and level. -/
def ManchesterEncoderResult.event : ManchesterEncoderResult → ManchesterEvent
  | .shortLow => .shortLow
  | .longLow => .longLow
  | .longHigh => .longHigh
  | .shortHigh => .shortHigh

@[simp] theorem manchesterDecode_nil (state : ManchesterState) :
    manchesterDecode state [] = ([], state) := rfl

theorem manchesterDecode_append (state : ManchesterState) (first second : List ManchesterEvent) :
    manchesterDecode state (first ++ second) = ((manchesterDecode state first).1 ++
          (manchesterDecode (manchesterDecode state first).2 second).1,
        (manchesterDecode (manchesterDecode state first).2 second).2) := by
  induction first generalizing state with
  | nil => rfl
  | cons event events ih =>
    simp only [List.cons_append, manchesterDecode, ih, List.append_assoc]

/-- The results of one bit while the second half of `prev` is pending: equal
bits need the pulse between them closed, different ones merge. -/
def pendingResults (prev bit : Bool) : List ManchesterEncoderResult :=
  if bit = prev then [.ofBits prev bit, .firstHalf bit] else [.ofBits prev bit]

section Encoding
variable {fuel : Nat}

theorem encodeBit_pending (enough : 2 ≤ fuel) (prev bit : Bool) (result : ManchesterEncoderResult) :
    manchesterEncodeBit fuel ⟨prev, 1⟩ bit result = some (pendingResults prev bit, ⟨bit, 1⟩) := by
  obtain ⟨fuel, rfl⟩ := Nat.exists_eq_add_of_le' enough
  cases prev <;> cases bit <;> rfl

theorem encodeBit_first (enough : 2 ≤ fuel) (stale bit : Bool) (result : ManchesterEncoderResult) :
    manchesterEncodeBit fuel ⟨stale, 0⟩ bit result = some ([.firstHalf bit], ⟨bit, 1⟩) := by
  obtain ⟨fuel, rfl⟩ := Nat.exists_eq_add_of_le' enough
  rfl

/-- What a sequence of bits adds once a bit is pending. -/
def pendingRun : Bool → List Bool → List ManchesterEncoderResult
  | _, [] => []
  | prev, bit :: bits => pendingResults prev bit ++ pendingRun bit bits

theorem encodeBits_pending (enough : 2 ≤ fuel) (prev : Bool) (result : ManchesterEncoderResult) (bits : List Bool) :
    manchesterEncodeBits fuel ⟨prev, 1⟩ result bits =
      some (pendingRun prev bits, ⟨bits.getLastD prev, 1⟩) := by
  induction bits generalizing prev result with
  | nil => rfl
  | cons bit bits ih =>
    simp only [manchesterEncodeBits, encodeBit_pending enough, Option.bind_eq_bind,
      Option.bind_some, ih, pendingRun, List.getLastD_cons]

/-- The results of a whole sequence from the reset state, without the closing one. -/
def resultsFor : List Bool → List ManchesterEncoderResult
  | [] => []
  | bit :: bits => .firstHalf bit :: pendingRun bit bits

theorem encodeBits_reset (enough : 2 ≤ fuel) (state : ManchesterEncoderState)
    (result : ManchesterEncoderResult) (bits : List Bool) :
    ∃ step, manchesterEncodeBits fuel (manchesterEncoderReset state) result bits =
      some (resultsFor bits, ⟨bits.getLastD state.prevBit, step⟩) := by
  cases bits with
  | nil => exact ⟨0, rfl⟩
  | cons bit bits =>
    refine ⟨1, ?_⟩
    simp only [manchesterEncodeBits, manchesterEncoderReset, encodeBit_first enough,
      Option.bind_eq_bind, Option.bind_some, encodeBits_pending enough, resultsFor,
      List.getLastD_cons, List.singleton_append]

end Encoding

/-- In phase the decoder stands in the middle of the bit whose second half is pending. -/
def InPhase (prev : Bool) : ManchesterState := if prev then .mid1 else .mid0

theorem decode_pending (prev bit : Bool) :
    manchesterDecode (InPhase prev) ((pendingResults prev bit).map (·.event)) =
      ([bit], InPhase bit) := by
  cases prev <;> cases bit <;> rfl

/-- In phase every bit comes out as it went in. -/
theorem decode_pendingRun (prev : Bool) (bits : List Bool) :
    manchesterDecode (InPhase prev) ((pendingRun prev bits).map (·.event)) =
      (bits, InPhase (bits.getLastD prev)) := by
  induction bits generalizing prev with
  | nil => rfl
  | cons bit bits ih =>
    rw [pendingRun, List.map_append, manchesterDecode_append, decode_pending, ih]
    simp only [List.singleton_append, List.getLastD_cons]

/-- The closing half completes no further bit. -/
theorem decode_finish (prev : Bool) :
    (manchesterDecode (InPhase prev) [(ManchesterEncoderResult.ofBits prev prev).event]).1 = [] := by
  cases prev <;> rfl

/-- Out of phase each further zero reads as a one. -/
theorem decode_zeros (count : Nat) :
    manchesterDecode .start1 ((pendingRun false (List.replicate count false)).map (·.event)) =
      (List.replicate count true, .start1) := by
  induction count with
  | zero => rfl
  | succ count ih =>
    have zero : manchesterDecode .start1 ((pendingResults false false).map (·.event)) =
        ([true], .start1) := rfl
    rw [List.replicate_succ, pendingRun, List.map_append, manchesterDecode_append, zero, ih]
    rfl

theorem pendingRun_append (prev : Bool) (first second : List Bool) : pendingRun prev (first ++ second) =
      pendingRun prev first ++ pendingRun (first.getLastD prev) second := by
  induction first generalizing prev with
  | nil => rfl
  | cons bit bits ih =>
    simp only [List.cons_append, pendingRun, ih, List.append_assoc, List.getLastD_cons]

/-- Zeros before the first one bit make the decoder report a one for each zero
but the first, and leave it one long low pulse short of being in phase. -/
theorem decode_leading_zeros (count : Nat) : manchesterDecode manchesterResetState
        ((resultsFor (List.replicate (count + 1) false)).map (·.event)) =
      (List.replicate count true, .start1) := by
  have first : manchesterAdvance manchesterResetState
      (ManchesterEncoderResult.firstHalf false).event = (none, .start1) := rfl
  rw [List.replicate_succ, resultsFor, List.map_cons, manchesterDecode]
  simp only [first, decode_zeros, Option.toList_none, List.nil_append]

/-- A sequence of bits followed by `manchester_encoder_finish`. -/
def manchesterTransmit (fuel : Nat) (state : ManchesterEncoderState)
    (result : ManchesterEncoderResult) (bits : List Bool) : Option (List ManchesterEncoderResult) :=
  (manchesterEncodeBits fuel state result bits).map fun (results, state) =>
    results ++ [(manchesterEncoderFinish state).1]

/-- The zeros sent before the first one bit. -/
def leadingZeros (bits : List Bool) : List Bool := bits.takeWhile (!·)

def followingBits (bits : List Bool) : List Bool := (bits.dropWhile (!·)).tail

/-- What the bits from the first one bit on add to the results of `zeros` zeros. -/
def lateResults (zeros : Nat) (rest : List Bool) : List ManchesterEncoderResult :=
  (if zeros = 0 then [.firstHalf true] else pendingResults false true) ++ pendingRun true rest

theorem resultsFor_zeros_one (zeros : Nat) (rest : List Bool) :
    resultsFor (List.replicate zeros false ++ true :: rest) =
      resultsFor (List.replicate zeros false) ++ lateResults zeros rest := by
  cases zeros with
  | zero => rfl
  | succ zeros =>
    have last : (List.replicate zeros false).getLastD false = false := by
      cases zeros <;> simp [List.replicate_succ']
    simp only [List.replicate_succ, List.cons_append, resultsFor, pendingRun_append, last,
      pendingRun, lateResults, Nat.add_eq_zero_iff, Nat.one_ne_zero, and_false, if_false]

theorem decode_lateResults (zeros : Nat) (rest : List Bool) : manchesterDecode
        (manchesterDecode manchesterResetState ((resultsFor (List.replicate zeros false)).map (·.event))).2
        ((lateResults zeros rest).map (·.event)) =
      (rest, InPhase (rest.getLastD true)) := by
  have synced : manchesterDecode (manchesterDecode manchesterResetState
        ((resultsFor (List.replicate zeros false)).map (·.event))).2
      ((if zeros = 0 then [.firstHalf true] else pendingResults false true).map
        ManchesterEncoderResult.event) = ([], InPhase true) := by
    cases zeros with
    | zero => rfl
    | succ zeros =>
      have long : manchesterDecode .start1 ((pendingResults false true).map (·.event)) =
          ([], InPhase true) := by decide
      rw [decode_leading_zeros, if_neg (Nat.succ_ne_zero zeros), long]
  rw [lateResults, List.map_append, manchesterDecode_append, synced, decode_pendingRun]
  rfl

theorem bits_split (bits : List Bool) : (∃ zeros, bits = List.replicate zeros false) ∨
      ∃ zeros rest, bits = List.replicate zeros false ++ true :: rest := by
  induction bits with
  | nil => exact Or.inl ⟨0, rfl⟩
  | cons bit bits ih =>
    cases bit with
    | true => exact Or.inr ⟨0, bits, rfl⟩
    | false =>
      rcases ih with ⟨zeros, rfl⟩ | ⟨zeros, rest, rfl⟩
      · exact Or.inl ⟨zeros + 1, rfl⟩
      · exact Or.inr ⟨zeros + 1, rest, rfl⟩

theorem leadingZeros_zeros (zeros : Nat) :
    leadingZeros (List.replicate zeros false) = List.replicate zeros false := by
  simp [leadingZeros]

theorem leadingZeros_one (zeros : Nat) (rest : List Bool) :
    leadingZeros (List.replicate zeros false ++ true :: rest) = List.replicate zeros false := by
  simp [leadingZeros]

theorem followingBits_one (zeros : Nat) (rest : List Bool) :
    followingBits (List.replicate zeros false ++ true :: rest) = rest := by
  simp [followingBits]

theorem transmit_reset {fuel : Nat} (enough : 2 ≤ fuel) (state : ManchesterEncoderState)
    (result : ManchesterEncoderResult) (bits : List Bool) :
    manchesterTransmit fuel (manchesterEncoderReset state) result bits = some (resultsFor bits ++
        [.ofBits (bits.getLastD state.prevBit) (bits.getLastD state.prevBit)]) := by
  obtain ⟨step, encoded⟩ := encodeBits_reset enough state result bits
  simp only [manchesterTransmit, encoded, Option.map_some, manchesterEncoderFinish]

theorem encodeBits_results {fuel : Nat} (enough : 2 ≤ fuel) (state : ManchesterEncoderState)
    (result : ManchesterEncoderResult) (bits : List Bool) :
    (manchesterEncodeBits fuel (manchesterEncoderReset state) result bits).map Prod.fst =
      some (resultsFor bits) := by
  obtain ⟨step, encoded⟩ := encodeBits_reset enough state result bits
  rw [encoded, Option.map_some]

/-- **Manchester round trip.** Every sequence of bits is encoded with at most
two calls for each bit. What the zeros before the first one bit produce is
reported first (`early`); from the first one bit on the decoder reports exactly
the bits that follow it (`late`). -/
theorem manchester_round_trip (state : ManchesterEncoderState) (result : ManchesterEncoderResult)
    (bits : List Bool) :
    ∃ early late : List ManchesterEncoderResult, (∀ fuel, 2 ≤ fuel →
        manchesterTransmit fuel (manchesterEncoderReset state) result bits = some (early ++ late) ∧
        (manchesterEncodeBits fuel (manchesterEncoderReset state) result (leadingZeros bits)).map
          Prod.fst = some early) ∧
      (true ∈ bits → (manchesterDecode manchesterResetState ((early ++ late).map (·.event))).1 =
          (manchesterDecode manchesterResetState (early.map (·.event))).1 ++ followingBits bits) := by
  rcases bits_split bits with ⟨zeros, rfl⟩ | ⟨zeros, rest, rfl⟩
  · -- no one bit at all: only the closing pulse comes late
    refine ⟨_, _, fun fuel enough => ⟨transmit_reset enough state result _, ?_⟩, ?_⟩
    · rw [leadingZeros_zeros, encodeBits_results enough]
    · intro present
      exact absurd (List.eq_of_mem_replicate present) (by decide)
  · have last : (List.replicate zeros false ++ true :: rest).getLastD state.prevBit =
        rest.getLastD true := by
      simp [List.getLast?_cons]
    refine ⟨resultsFor (List.replicate zeros false), lateResults zeros rest ++
      [.ofBits (rest.getLastD true) (rest.getLastD true)], fun fuel enough => ⟨?_, ?_⟩, fun _ => ?_⟩
    · rw [transmit_reset enough, last, resultsFor_zeros_one, List.append_assoc]
    · rw [leadingZeros_one, encodeBits_results enough]
    · rw [List.map_append, manchesterDecode_append, List.map_append, manchesterDecode_append,
        decode_lateResults, followingBits_one]
      simp only [List.map_cons, List.map_nil, decode_finish, List.append_nil]

end Xtreme.Toolbox
