import Xtreme.Library.Effect
import Xtreme.Library.Runs

/-! Joining timer pulses to periods that begin with a rising edge (`lib/toolbox/pulse_joiner.c`). -/
namespace Xtreme.Toolbox
open Xtreme.Library
open Effect (fault observe update)

structure Pulse where
  polarity : Bool
  time : BitVec 16
  deriving DecidableEq, Repr

structure PulseJoiner where
  pulseIndex : Nat
  pulses : Vector Pulse 6

inductive PulseJoinerFault
  | check
  | outOfBounds
  deriving DecidableEq, Repr

abbrev PulseJoinerM := Effect PulseJoinerFault PulseJoiner

structure PulsePush where
  polarity : Bool
  period : Nat
  pulse : Nat
  deriving DecidableEq, Repr

structure PoppedPulse where
  period : BitVec 16
  pulse : BitVec 16
  deriving DecidableEq, Repr

def pulseJoinerAlloc : PulseJoiner := ⟨0, Vector.replicate 6 ⟨false, 0⟩⟩

def furiCheck (condition : Prop) [Decidable condition] : PulseJoinerM Unit :=
  if condition then pure () else fault .check

/-- A pulse at the index, which then goes on. -/
def addPulse (polarity : Bool) (time : Nat) : PulseJoinerM Unit := fun joiner =>
  if inside : joiner.pulseIndex < 6 then
    (.ok (), ⟨joiner.pulseIndex + 1, joiner.pulses.set joiner.pulseIndex ⟨polarity, BitVec.ofNat 16 time⟩⟩)
  else (.error .outOfBounds, joiner)

/-- How often the polarity changes. -/
def edgesCount (lastPolarity : Bool) : List Pulse → Nat
  | [] => 0
  | pulse :: rest =>
    (if pulse.polarity = lastPolarity then 0 else 1) + edgesCount pulse.polarity rest

def firstPulses : PulseJoinerM (List Pulse) := fun joiner =>
  if joiner.pulseIndex ≤ 6 then (.ok (joiner.pulses.toList.take joiner.pulseIndex), joiner)
  else (.error .outOfBounds, joiner)

/-- The pulse itself; a first negative one is omitted. -/
def pushFirst (push : PulsePush) : PulseJoinerM Unit := do
  if push.polarity = false ∧ (← observe PulseJoiner.pulseIndex) = 0 then pure ()
  else addPulse push.polarity push.pulse

/-- The rest of the period. -/
def pushSecond (push : PulsePush) : PulseJoinerM Unit :=
  if push.pulse < push.period then addPulse (!push.polarity) (push.period - push.pulse) else pure ()

def twoEdges : PulseJoinerM Bool := do
  if 4 ≤ (← observe PulseJoiner.pulseIndex) then
    match ← firstPulses with
    | [] => pure false
    | first :: rest => pure (decide (2 ≤ edgesCount first.polarity rest))
  else pure false

def pulseJoinerPushPulse (push : PulsePush) : PulseJoinerM Bool := do
  furiCheck ((← observe PulseJoiner.pulseIndex) + 1 < 6)
  pushFirst push
  pushSecond push
  twoEdges

/-- The times up to the second edge, and its place; `next_fist_pulse` stays 0 without one. -/
structure PopSum where
  period : BitVec 16
  pulse : BitVec 16
  nextFistPulse : Nat
  counted : Nat

/-- The first loop of `pulse_joiner_pop_pulse`, from the pulse at `i` on. -/
def popLoop (lastPolarity : Bool) (edges : Nat) (period pulse : BitVec 16) (i : Nat) : List Pulse → PopSum
  | [] => ⟨period, pulse, 0, i⟩
  | next :: rest =>
    let edges := if next.polarity = lastPolarity then edges else edges + 1
    if edges = 2 then ⟨period, pulse, i, i⟩
    else popLoop next.polarity edges (period + next.time) (if next.polarity then pulse + next.time else pulse) (i + 1) rest

/-- Pulses from the given one on move to the front, and the last ones stay. -/
def shiftPulses (pulses : Vector Pulse 6) (nextFistPulse : Nat) : Vector Pulse 6 :=
  Vector.ofFn fun i => if inside : nextFistPulse + i < 6 then pulses.get ⟨nextFistPulse + i, inside⟩ else pulses.get i

/-- `pulse_index--`, so often. -/
def minusSize (index count : Nat) : Nat := (index + 4294967296 - count) % 4294967296

def pulseJoinerPopPulse : PulseJoinerM PoppedPulse := do
  furiCheck ((← observe PulseJoiner.pulseIndex) ≤ 6 + 1)
  let pulses ← observe PulseJoiner.pulses
  let sum := popLoop (pulses.get ⟨0, Nat.succ_pos 5⟩).polarity 0 0 0 0 pulses.toList
  update fun joiner => ⟨minusSize joiner.pulseIndex sum.counted, shiftPulses pulses sum.nextFistPulse⟩
  pure ⟨sum.period, sum.pulse⟩

/-- A push, and the pop that belongs to it if it says so. -/
def joinPulse (push : PulsePush) : PulseJoinerM (List PoppedPulse) := do
  if ← pulseJoinerPushPulse push then
    let popped ← pulseJoinerPopPulse
    pure [popped]
  else pure []

def joinPulses : List PulsePush → PulseJoinerM (List PoppedPulse)
  | [] => pure []
  | push :: rest => do
    let first ← joinPulse push
    let later ← joinPulses rest
    pure (first ++ later)

end Xtreme.Toolbox
