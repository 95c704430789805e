import Mathlib.Algebra.GroupWithZero.Nat
import Xtreme.Toolbox.PulseJoiner

/-! The level signal that is pushed to a pulse joiner, and the one that comes out of it. Times
are kept modulo 65536; besides that, nothing but the low level in front of the first rise
is lost (`joinPulses_signal`). -/
namespace Xtreme.Toolbox
open Xtreme.Library
open Effect (Yields bind_of_ok)

/-- A high level, and the low one up to the end of the period. -/
structure Interval where
  period : Nat
  pulse : Nat

def Interval.runs (interval : Interval) : List (Bool × Nat) :=
  [(true, interval.pulse), (false, interval.period - interval.pulse)]

def PulsePush.runs (push : PulsePush) : List (Bool × Nat) :=
  [(push.polarity, push.pulse), (!push.polarity, push.period - push.pulse)]

def Interval.popped (interval : Interval) : PoppedPulse :=
  ⟨BitVec.ofNat 16 interval.period, BitVec.ofNat 16 interval.pulse⟩

def storedPulse (run : Bool × Nat) : Pulse := ⟨run.1, BitVec.ofNat 16 run.2⟩

/-- The pulses of a joiner are `held`, and behind them are some that are left over. -/
structure HoldsPulses (joiner : PulseJoiner) (held : List (Bool × Nat)) : Prop where
  index : joiner.pulseIndex = held.length
  stored : ∃ stale, joiner.pulses.toList = held.map storedPulse ++ stale

section
variable {joiner : PulseJoiner} {held : List (Bool × Nat)}

variable (holds : HoldsPulses joiner held)
include holds

theorem HoldsPulses.length_le : held.length ≤ 6 := by
  obtain ⟨stale, stored⟩ := holds.stored
  have length := congrArg List.length stored
  rw [Vector.length_toList, List.length_append, List.length_map] at length
  omega

theorem HoldsPulses.addPulse (room : held.length < 6) (polarity : Bool) (time : Nat) :
    ∃ next, Toolbox.addPulse polarity time joiner = (.ok (), next) ∧ HoldsPulses next (held ++ [(polarity, time)]) := by
  have inside : joiner.pulseIndex < 6 := by rwa [holds.index]
  refine ⟨_, dif_pos inside, ?_, ?_⟩
  · rw [List.length_append, List.length_singleton, ← holds.index]
  · obtain ⟨stale, stored⟩ := holds.stored
    have length := congrArg List.length stored
    rw [Vector.length_toList, List.length_append, List.length_map] at length
    cases stale with
    | nil => exact absurd length (by rw [List.length_nil]; omega)
    | cons old stale =>
      refine ⟨stale, ?_⟩
      have place : joiner.pulseIndex = (held.map storedPulse).length := by rw [holds.index, List.length_map]
      rw [Vector.toList_set, stored, place, List.set_append_right _ _ (Nat.le_refl _), Nat.sub_self, List.map_append,
        List.append_assoc]
      rfl

omit holds

def heldPulses (joiner : PulseJoiner) : List Pulse := joiner.pulses.toList.take joiner.pulseIndex

include holds

theorem HoldsPulses.heldPulses : Toolbox.heldPulses joiner = held.map storedPulse := by
  obtain ⟨stale, stored⟩ := holds.stored
  have place : joiner.pulseIndex = (held.map storedPulse).length := by rw [holds.index, List.length_map]
  rw [Toolbox.heldPulses, stored, place, List.take_left]

theorem HoldsPulses.firstPulses :
    Toolbox.firstPulses joiner = (.ok (held.map storedPulse), joiner) := by
  have inside : joiner.pulseIndex ≤ 6 := by
    rw [holds.index]
    exact holds.length_le
  rw [Toolbox.firstPulses, if_pos inside, ← Toolbox.heldPulses, holds.heldPulses]

omit holds

/-- What a push adds to the pulses: a low level is left out in front of the first rise. -/
def addedRuns (held : List (Bool × Nat)) (push : PulsePush) : List (Bool × Nat) :=
  if push.polarity = false ∧ held = [] then [(true, push.period - push.pulse)] else push.runs

def levelChanges : List (Bool × Nat) → Nat
  | [] => 0
  | first :: rest => edgesCount first.1 (rest.map storedPulse)

include holds

theorem HoldsPulses.pushFirst (room : held.length < 6) (push : PulsePush) :
    ∃ next, Toolbox.pushFirst push joiner = (.ok (), next) ∧
      HoldsPulses next (held ++ if push.polarity = false ∧ held = [] then [] else [(push.polarity, push.pulse)]) := by
  have empty : push.polarity = false ∧ joiner.pulseIndex = 0 ↔ push.polarity = false ∧ held = [] := by
    rw [holds.index, List.length_eq_zero_iff]
  rw [Toolbox.pushFirst, Effect.observe_bind]
  by_cases omitted : push.polarity = false ∧ held = []
  · rw [if_pos (empty.mpr omitted), if_pos omitted, List.append_nil]
    exact ⟨joiner, rfl, holds⟩
  · rw [if_neg (mt empty.mp omitted), if_neg omitted]
    exact holds.addPulse room _ _

theorem HoldsPulses.twoEdges :
    Toolbox.twoEdges joiner = (.ok (decide (4 ≤ held.length ∧ 2 ≤ levelChanges held)), joiner) := by
  rw [Toolbox.twoEdges, Effect.observe_bind, holds.index]
  by_cases four : 4 ≤ held.length
  · rw [if_pos four, bind_of_ok holds.firstPulses]
    cases held with
    | nil => exact absurd four (by decide)
    | cons first rest =>
      have same : (4 ≤ (first :: rest).length ∧ 2 ≤ levelChanges (first :: rest)) =
          (2 ≤ edgesCount first.1 (rest.map storedPulse)) := propext ⟨And.right, And.intro four⟩
      simp only [same]
      rfl
  · rw [if_neg four, decide_eq_false (not_and_of_not_left _ four)]
    rfl

theorem HoldsPulses.push (room : held.length + 1 < 6) {push : PulsePush} (proper : push.pulse < push.period) :
    ∃ next, pulseJoinerPushPulse push joiner = (.ok (decide (4 ≤ (held ++ addedRuns held push).length ∧
        2 ≤ levelChanges (held ++ addedRuns held push))), next) ∧ HoldsPulses next (held ++ addedRuns held push) := by
  have fits : joiner.pulseIndex + 1 < 6 := by rwa [holds.index]
  have check : furiCheck (joiner.pulseIndex + 1 < 6) joiner = (.ok (), joiner) := by
    rw [furiCheck, if_pos fits]
    rfl
  obtain ⟨middle, first, there⟩ := holds.pushFirst (by omega) push
  have more : (held ++ if push.polarity = false ∧ held = [] then [] else [(push.polarity, push.pulse)]).length < 6 := by
    rw [List.length_append]
    split
    · rw [List.length_nil]
      omega
    · exact room
  obtain ⟨next, second, after⟩ := there.addPulse more (!push.polarity) (push.period - push.pulse)
  have pushed : pushSecond push middle = (.ok (), next) := by
    rw [pushSecond, if_pos proper]
    exact second
  have both : (held ++ if push.polarity = false ∧ held = [] then [] else [(push.polarity, push.pulse)]) ++
      [(!push.polarity, push.period - push.pulse)] = held ++ addedRuns held push := by
    rw [List.append_assoc, addedRuns]
    split
    · rename_i omitted
      rw [omitted.1]
      rfl
    · rfl
  rw [both] at after
  refine ⟨next, ?_, after⟩
  rw [pulseJoinerPushPulse, Effect.observe_bind, bind_of_ok check]
  exact (bind_of_ok first).trans ((bind_of_ok pushed).trans after.twoEdges)

omit holds

def totalTime (held : List (Bool × Nat)) : Nat := (held.map Prod.snd).sum

theorem totalTime_cons (run : Bool × Nat) (held : List (Bool × Nat)) : totalTime (run :: held) = run.2 + totalTime held := by
  rw [totalTime, List.map_cons, List.sum_cons, totalTime]

theorem popLoop_level {level : Bool} {edges : Nat} (few : edges ≠ 2) {runs : List (Bool × Nat)}
    (same : ∀ run ∈ runs, run.1 = level) (period pulse : BitVec 16) (i : Nat) (rest : List Pulse) :
    popLoop level edges period pulse i (runs.map storedPulse ++ rest) =
      popLoop level edges (period + BitVec.ofNat 16 (totalTime runs))
        (if level then pulse + BitVec.ofNat 16 (totalTime runs) else pulse) (i + runs.length) rest := by
  induction runs generalizing period pulse i with
  | nil =>
    have none : BitVec.ofNat 16 (totalTime []) = 0#16 := rfl
    rw [none, BitVec.add_zero, BitVec.add_zero, ite_self]
    rfl
  | cons run runs next =>
    obtain ⟨here, later⟩ := List.forall_mem_cons.mp same
    have polarity : (storedPulse run).polarity = level := here
    have time : (storedPulse run).time = BitVec.ofNat 16 run.2 := rfl
    rw [List.map_cons, List.cons_append, popLoop, polarity, if_pos rfl, if_neg few, next later, time, totalTime_cons, BitVec.ofNat_add, List.length_cons]
    have order : i + 1 + runs.length = i + (runs.length + 1) := by omega
    rw [order]
    cases level with
    | true => rw [if_pos rfl, if_pos rfl, if_pos rfl, BitVec.add_assoc, BitVec.add_assoc]
    | false =>
      rw [if_neg Bool.false_ne_true, if_neg Bool.false_ne_true, if_neg Bool.false_ne_true, BitVec.add_assoc]

theorem popLoop_edge {level : Bool} {edges : Nat} {run : Bool × Nat} (other : run.1 ≠ level) (period pulse : BitVec 16)
    (i : Nat) (rest : List Pulse) :
    popLoop level edges period pulse i (storedPulse run :: rest) =
      if edges + 1 = 2 then ⟨period, pulse, i, i⟩
      else popLoop run.1 (edges + 1) period pulse i (storedPulse run :: rest) := by
  have change : ¬(storedPulse run).polarity = level := other
  have same : (storedPulse run).polarity = run.1 := rfl
  rw [popLoop, if_neg change]
  split
  · rfl
  · rename_i more
    rw [popLoop, same, if_pos rfl, if_neg more]

theorem toList_shiftPulses (pulses : Vector Pulse 6) {place : Nat} (inside : place ≤ 6) :
    (shiftPulses pulses place).toList = pulses.toList.drop place ++ pulses.toList.drop (6 - place) := by
  have length : pulses.toList.length = 6 := Vector.length_toList
  have get (i : Fin 6) : pulses.toList[i.val]? = some (pulses.get i) := by
    rw [Vector.getElem?_toList, Vector.getElem?_eq_getElem i.isLt]
    rfl
  refine List.ext_getElem? fun i => ?_
  rw [shiftPulses, Vector.toList_ofFn, List.getElem?_ofFn]
  split
  · rename_i within
    split
    · rename_i front
      have front : place + i < 6 := front
      rw [List.getElem?_append_left (by rw [List.length_drop]; omega), List.getElem?_drop]
      exact (get ⟨place + i, front⟩).symm
    · rename_i back
      have back : ¬place + i < 6 := back
      have there : 6 - place + (i - (6 - place)) = i := by omega
      rw [List.getElem?_append_right (by rw [List.length_drop]; omega), List.getElem?_drop, List.length_drop, length,
        there]
      exact (get ⟨i, within⟩).symm
  · rw [List.getElem?_eq_none (by rw [List.length_append, List.length_drop, List.length_drop]; omega)]

theorem HoldsPulses.pop {highs lows behind : List (Bool × Nat)} {time : Nat}
    (holds : HoldsPulses joiner (highs ++ lows ++ (true, time) :: behind)) (high : ∀ run ∈ highs, run.1 = true)
    (low : ∀ run ∈ lows, run.1 = false) (rises : highs ≠ []) (falls : lows ≠ []) :
    ∃ next, pulseJoinerPopPulse joiner = (.ok (Interval.popped ⟨totalTime highs + totalTime lows, totalTime highs⟩), next) ∧
      HoldsPulses next ((true, time) :: behind) := by
  obtain ⟨stale, stored⟩ := holds.stored
  have few := holds.length_le
  have index := holds.index
  rw [List.length_append, List.length_append, List.length_cons] at few index
  obtain ⟨first, highs', rfl⟩ := List.exists_cons_of_ne_nil rises
  obtain ⟨fall, lows', rfl⟩ := List.exists_cons_of_ne_nil falls
  have level : (joiner.pulses.get ⟨0, Nat.succ_pos 5⟩).polarity = true := by
    have head : joiner.pulses.toList[0]? = some (joiner.pulses.get ⟨0, Nat.succ_pos 5⟩) := by
      rw [Vector.getElem?_toList]
      rfl
    rw [stored] at head
    rw [← Option.some.inj head]
    exact high first List.mem_cons_self
  have sum : popLoop true 0 0 0 0 joiner.pulses.toList =
      ⟨BitVec.ofNat 16 (totalTime (first :: highs') + totalTime (fall :: lows')), BitVec.ofNat 16 (totalTime (first :: highs')),
        (first :: highs').length + (fall :: lows').length, (first :: highs').length + (fall :: lows').length⟩ := by
    have rest : (first :: highs' ++ fall :: lows' ++ (true, time) :: behind).map storedPulse ++ stale =
        (first :: highs').map storedPulse ++ (storedPulse fall :: (lows'.map storedPulse ++
          (storedPulse (true, time) :: (behind.map storedPulse ++ stale)))) := by
      rw [List.map_append, List.map_append, List.append_assoc, List.append_assoc]
      rfl
    have again : storedPulse fall :: (lows'.map storedPulse ++ (storedPulse (true, time) :: (behind.map storedPulse ++
        stale))) = (fall :: lows').map storedPulse ++ (storedPulse (true, time) :: (behind.map storedPulse ++ stale)) := rfl
    have falling : fall.1 = false := low fall List.mem_cons_self
    have rising : ((true, time) : Bool × Nat).1 ≠ false := fun same => by cases same
    have zero (amount : BitVec 16) : 0 + amount = amount := BitVec.zero_add amount
    rw [stored, rest, popLoop_level (by decide) high, popLoop_edge (by rw [falling]; decide), if_neg (by decide), again,
      falling, popLoop_level (by decide) low, popLoop_edge rising, if_pos rfl, if_pos rfl, if_neg Bool.false_ne_true,
      zero, Nat.zero_add, BitVec.ofNat_add]
  have parts : joiner.pulses.toList.drop ((first :: highs').length + (fall :: lows').length) =
      ((true, time) :: behind).map storedPulse ++ stale := by
    rw [stored, List.map_append, List.append_assoc]
    refine List.drop_left' ?_
    rw [List.length_map, List.length_append]
  have left : minusSize joiner.pulseIndex ((first :: highs').length + (fall :: lows').length) = behind.length + 1 := by
    rw [minusSize]
    omega
  have check : furiCheck (joiner.pulseIndex ≤ 6 + 1) joiner = (.ok (), joiner) := by
    have inside : joiner.pulseIndex ≤ 6 + 1 := by omega
    rw [furiCheck, if_pos inside]
    rfl
  refine ⟨⟨behind.length + 1, shiftPulses joiner.pulses ((first :: highs').length + (fall :: lows').length)⟩, ?_, ?_, ?_⟩
  · rw [pulseJoinerPopPulse, Effect.observe_bind, bind_of_ok check, Effect.observe_bind, level, sum]
    rw [Effect.update_bind, left]
    rfl
  · rfl
  · rw [toList_shiftPulses _ (by omega), parts, List.append_assoc]
    exact ⟨_, rfl⟩

/-! ## The signal -/

theorem expandRuns_append (first second : List (Bool × Nat)) :
    expandRuns (first ++ second) = expandRuns first ++ expandRuns second := List.flatMap_append

theorem expandRuns_level {level : Bool} {runs : List (Bool × Nat)} (same : ∀ run ∈ runs, run.1 = level) :
    expandRuns runs = List.replicate (totalTime runs) level := by
  induction runs with
  | nil => rfl
  | cons run runs next =>
    obtain ⟨here, later⟩ := List.forall_mem_cons.mp same
    rw [expandRuns, List.flatMap_cons, ← expandRuns, next later, here, totalTime_cons, List.replicate_add]

/-- A signal as intervals that are over, and pulses that are held, from a rise on. -/
structure SplitsSignal (signal : List Bool) (intervals : List Interval) (held : List (Bool × Nat)) : Prop where
  proper : ∀ interval ∈ intervals, 0 < interval.pulse ∧ interval.pulse < interval.period
  positive : ∀ run ∈ held, 0 < run.2
  high : ∀ run ∈ held.head?, run.1 = true
  whole : expandRuns (intervals.flatMap Interval.runs ++ held) = signal

theorem SplitsSignal.append {signal more : List Bool} {first later : List Interval} {left : List (Bool × Nat)}
    (before : SplitsSignal signal first held) (after : SplitsSignal (expandRuns held ++ more) later left) :
    SplitsSignal (signal ++ more) (first ++ later) left where
  proper := List.forall_mem_append.mpr ⟨before.proper, after.proper⟩
  positive := after.positive
  high := after.high
  whole := by
    rw [← before.whole, List.flatMap_append, List.append_assoc, expandRuns_append, after.whole, expandRuns_append,
      List.append_assoc]

/-- What may be left between two pushes, once there was a rise. -/
inductive Waiting : List (Bool × Nat) → Prop
  | high (a : Nat) : Waiting [(true, a)]
  | highLow (a b : Nat) : Waiting [(true, a), (false, b)]
  | highHighLow (a b c : Nat) : Waiting [(true, a), (true, b), (false, c)]
  | highLowHigh (a b c : Nat) : Waiting [(true, a), (false, b), (true, c)]

theorem Waiting.ne_nil (waiting : Waiting held) : held ≠ [] := by
  rintro rfl
  cases waiting

theorem Waiting.room (waiting : Waiting held) : held.length + 1 < 6 := by
  have three : held.length ≤ 3 := by cases waiting <;> simp
  omega

theorem Waiting.head (waiting : Waiting held) : ∀ run ∈ held.head?, run.1 = true := by
  intro run first
  cases waiting <;> cases first <;> rfl

theorem totalTime_pos {runs : List (Bool × Nat)} (some : runs ≠ []) (positive : ∀ run ∈ runs, 0 < run.2) :
    0 < totalTime runs := by
  obtain ⟨run, rest, rfl⟩ := List.exists_cons_of_ne_nil some
  exact Nat.add_pos_left (positive run List.mem_cons_self) _

theorem PulsePush.runs_pos {push : PulsePush} (proper : 0 < push.pulse ∧ push.pulse < push.period) :
    ∀ run ∈ push.runs, 0 < run.2 :=
  List.forall_mem_cons.mpr ⟨proper.1, List.forall_mem_singleton.mpr (Nat.sub_pos_of_lt proper.2)⟩

include holds

theorem HoldsPulses.joinPulse_pops (some : Waiting held)
    (positive : ∀ run ∈ held, 0 < run.2) {push : PulsePush} (proper : 0 < push.pulse ∧ push.pulse < push.period)
    (highs lows : List (Bool × Nat)) {behind : List (Bool × Nat)} {time : Nat}
    (shape : held ++ push.runs = highs ++ lows ++ (true, time) :: behind) (high : highs.all Prod.fst = true)
    (low : (lows.all fun run => !run.1) = true) (rises : highs ≠ []) (falls : lows ≠ [])
    (many : decide (4 ≤ (held ++ push.runs).length ∧ 2 ≤ levelChanges (held ++ push.runs)) = true)
    (waiting : Waiting ((true, time) :: behind)) :
    ∃ (intervals : List Interval) (next : PulseJoiner) (left : List (Bool × Nat)),
      joinPulse push joiner = (.ok (intervals.map Interval.popped), next) ∧ HoldsPulses next left ∧ Waiting left ∧
        SplitsSignal (expandRuns (held ++ push.runs)) intervals left := by
  have added : addedRuns held push = push.runs := if_neg fun both => some.ne_nil both.2
  have high : ∀ run ∈ highs, run.1 = true := List.all_eq_true.mp high
  have low (run : Bool × Nat) (member : run ∈ lows) : run.1 = false :=
    Bool.not_eq_true' run.1 |>.mp (List.all_eq_true.mp low run member)
  have every : ∀ run ∈ held ++ push.runs, 0 < run.2 := List.forall_mem_append.mpr ⟨positive, push.runs_pos proper⟩
  rw [shape] at every
  obtain ⟨front, behind_pos⟩ := List.forall_mem_append.mp every
  obtain ⟨highs_pos, lows_pos⟩ := List.forall_mem_append.mp front
  obtain ⟨middle, pushed, there⟩ := holds.push some.room proper.2
  rw [added] at pushed there
  rw [many] at pushed
  rw [shape] at there
  obtain ⟨next, popped, after⟩ := there.pop high low rises falls
  refine ⟨[⟨totalTime highs + totalTime lows, totalTime highs⟩], next, _, ?_, after, waiting, ?_, behind_pos,
    waiting.head, ?_⟩
  · rw [joinPulse, bind_of_ok pushed]
    exact bind_of_ok popped
  · exact List.forall_mem_singleton.mpr
      ⟨totalTime_pos rises highs_pos, Nat.lt_add_of_pos_right (totalTime_pos falls lows_pos)⟩
  · have rest : totalTime highs + totalTime lows - totalTime highs = totalTime lows := Nat.add_sub_cancel_left _ _
    rw [shape, expandRuns_append, expandRuns_append, expandRuns_append, expandRuns_level high, expandRuns_level low,
      List.flatMap_singleton, Interval.runs, rest]
    simp only [expandRuns, List.flatMap_cons, List.flatMap_nil, List.append_nil]

/-- With less than four pulses nothing is popped. -/
theorem HoldsPulses.joinPulse_waits (push : PulsePush) {left : List (Bool × Nat)}
    (added : held ++ addedRuns held push = left) (few : left.length < 4) (proper : push.pulse < push.period) :
    ∃ next, Toolbox.joinPulse push joiner = (.ok [], next) ∧ HoldsPulses next left := by
  subst added
  have room : held.length + 1 < 6 := by
    rw [List.length_append] at few
    omega
  obtain ⟨next, pushed, there⟩ := holds.push room proper
  rw [decide_eq_false (not_and_of_not_left _ (Nat.not_le.mpr few))] at pushed
  refine ⟨next, ?_, there⟩
  rw [Toolbox.joinPulse, bind_of_ok pushed]
  rfl

/-- One push, and the pop that belongs to it. -/
theorem HoldsPulses.joinPulse (waiting : Waiting held)
    (positive : ∀ run ∈ held, 0 < run.2) {push : PulsePush} (proper : 0 < push.pulse ∧ push.pulse < push.period) :
    ∃ (intervals : List Interval) (next : PulseJoiner) (left : List (Bool × Nat)),
      Toolbox.joinPulse push joiner = (.ok (intervals.map Interval.popped), next) ∧ HoldsPulses next left ∧
        Waiting left ∧ SplitsSignal (expandRuns (held ++ push.runs)) intervals left := by
  have pops := @joinPulse_pops joiner held holds waiting positive
  have some {run : Bool × Nat} {runs : List (Bool × Nat)} : run :: runs ≠ [] := List.cons_ne_nil _ _
  obtain ⟨polarity, period, pulse⟩ := push
  cases waiting with
  | high a =>
    have added : addedRuns [(true, a)] ⟨polarity, period, pulse⟩ = PulsePush.runs ⟨polarity, period, pulse⟩ :=
      if_neg fun both => some both.2
    obtain ⟨next, pushed, there⟩ := holds.joinPulse_waits _ (congrArg _ added) (Nat.lt_succ_self 3) proper.2
    have left : Waiting ([(true, a)] ++ PulsePush.runs ⟨polarity, period, pulse⟩) := by
      cases polarity with
      | true => exact .highHighLow a pulse (period - pulse)
      | false => exact .highLowHigh a pulse (period - pulse)
    refine ⟨[], next, _, pushed, there, left, ?_, ?_, left.head, rfl⟩
    · exact List.forall_mem_nil _
    · exact List.forall_mem_append.mpr ⟨positive, PulsePush.runs_pos proper⟩
  | highLow a b =>
    cases polarity with
    | true => exact pops proper [_] [_] rfl rfl rfl some some rfl (.highLow _ _)
    | false => exact pops proper [_] [_, _] rfl rfl rfl some some rfl (.high _)
  | highHighLow a b c =>
    cases polarity with
    | true => exact pops proper [_, _] [_] rfl rfl rfl some some rfl (.highLow _ _)
    | false => exact pops proper [_, _] [_, _] rfl rfl rfl some some rfl (.high _)
  | highLowHigh a b c =>
    cases polarity with
    | true => exact pops proper [_] [_] rfl rfl rfl some some rfl (.highHighLow _ _ _)
    | false => exact pops proper [_] [_] rfl rfl rfl some some rfl (.highLowHigh _ _ _)

theorem HoldsPulses.joinPulses (waiting : Waiting held) (positive : ∀ run ∈ held, 0 < run.2) {pushes : List PulsePush}
    (proper : ∀ push ∈ pushes, 0 < push.pulse ∧ push.pulse < push.period) :
    ∃ (intervals : List Interval) (next : PulseJoiner) (left : List (Bool × Nat)),
      Toolbox.joinPulses pushes joiner = (.ok (intervals.map Interval.popped), next) ∧ HoldsPulses next left ∧
        SplitsSignal (expandRuns held ++ expandRuns (pushes.flatMap PulsePush.runs)) intervals left := by
  induction pushes generalizing joiner held with
  | nil =>
    refine ⟨[], joiner, held, rfl, holds, List.forall_mem_nil _, positive, waiting.head, ?_⟩
    exact (List.append_nil _).symm
  | cons push rest next =>
    obtain ⟨here, later⟩ := List.forall_mem_cons.mp proper
    obtain ⟨first, middle, between, joined, there, waits, splits⟩ := holds.joinPulse waiting positive here
    obtain ⟨more, final, left, others, after, ends⟩ := next there waits splits.positive later
    refine ⟨first ++ more, final, left, ?_, after, ?_⟩
    · rw [Toolbox.joinPulses, bind_of_ok joined, bind_of_ok others, List.map_append]
      rfl
    · rw [List.flatMap_cons, expandRuns_append, ← List.append_assoc, ← expandRuns_append]
      exact splits.append ends

omit holds

theorem holdsPulses_alloc : HoldsPulses pulseJoinerAlloc [] := ⟨rfl, _, rfl⟩

theorem dropWhile_high {time : Nat} {others : List Bool} (some : 0 < time) :
    (List.replicate time true ++ others).dropWhile (!·) = List.replicate time true ++ others := by
  obtain ⟨less, rfl⟩ := Nat.exists_eq_succ_of_ne_zero some.ne'
  rfl

theorem joinPulse_first {push : PulsePush} (proper : 0 < push.pulse ∧ push.pulse < push.period) :
    ∃ (next : PulseJoiner) (left : List (Bool × Nat)),
      joinPulse push pulseJoinerAlloc = (.ok [], next) ∧ HoldsPulses next left ∧ Waiting left ∧
        (∀ run ∈ left, 0 < run.2) ∧
          ∀ more, expandRuns left ++ more = (expandRuns push.runs ++ more).dropWhile (!·) := by
  obtain ⟨polarity, period, pulse⟩ := push
  obtain ⟨high, rest⟩ := proper
  cases polarity with
  | true =>
    obtain ⟨next, pushed, there⟩ :=
      holdsPulses_alloc.joinPulse_waits ⟨true, period, pulse⟩ rfl (Nat.le_succ_of_le (Nat.lt_succ_self 2)) rest
    refine ⟨next, _, pushed, there, .highLow pulse (period - pulse), PulsePush.runs_pos ⟨high, rest⟩, fun more => ?_⟩
    have signal : expandRuns (PulsePush.runs ⟨true, period, pulse⟩) ++ more =
        List.replicate pulse true ++ (expandRuns [(false, period - pulse)] ++ more) := List.append_assoc _ _ _
    rw [signal, dropWhile_high high, ← signal]
    rfl
  | false =>
    obtain ⟨next, pushed, there⟩ :=
      holdsPulses_alloc.joinPulse_waits ⟨false, period, pulse⟩ rfl (Nat.le_add_left 2 2) rest
    refine ⟨next, _, pushed, there, .high (period - pulse), ?_, fun more => ?_⟩
    · exact List.forall_mem_singleton.mpr (Nat.sub_pos_of_lt rest)
    · have low : ∀ level ∈ List.replicate pulse false, (!level) = true := by
        intro level member
        rw [(List.mem_replicate.mp member).2]
        rfl
      have signal : expandRuns (PulsePush.runs ⟨false, period, pulse⟩) ++ more =
          List.replicate pulse false ++ (List.replicate (period - pulse) true ++ more) := by
        simp only [PulsePush.runs, expandRuns, List.flatMap_cons, List.flatMap_nil, List.append_nil, List.append_assoc,
          Bool.not_false]
      rw [signal, List.dropWhile_append_of_pos low, dropWhile_high (Nat.sub_pos_of_lt rest)]
      simp only [addedRuns, expandRuns, and_self, if_true, List.nil_append, List.flatMap_cons, List.flatMap_nil,
        List.append_nil]

def PoppedPulse.runs (popped : PoppedPulse) : List (Bool × Nat) :=
  [(true, popped.pulse.toNat), (false, popped.period.toNat - popped.pulse.toNat)]

def Pulse.run (pulse : Pulse) : Bool × Nat := (pulse.polarity, pulse.time.toNat)

def pushedSignal (pushes : List PulsePush) : List Bool :=
  (expandRuns (pushes.flatMap PulsePush.runs)).dropWhile (!·)

/-- The signal that comes out, and the part that is still in the joiner. -/
def joinedSignal (popped : List PoppedPulse) (joiner : PulseJoiner) : List Bool :=
  expandRuns (popped.flatMap PoppedPulse.runs ++ (heldPulses joiner).map Pulse.run)

theorem popped_runs {interval : Interval} (short : interval.period < 65536) (proper : interval.pulse < interval.period) :
    interval.popped.runs = interval.runs := by
  have period : (BitVec.ofNat 16 interval.period).toNat = interval.period := Nat.mod_eq_of_lt short
  have pulse : (BitVec.ofNat 16 interval.pulse).toNat = interval.pulse := Nat.mod_eq_of_lt (Nat.lt_trans proper short)
  rw [PoppedPulse.runs, Interval.popped, period, pulse, Interval.runs]

theorem run_storedPulse {run : Bool × Nat} (short : run.2 < 65536) : (storedPulse run).run = run := by
  have time : (BitVec.ofNat 16 run.2).toNat = run.2 := Nat.mod_eq_of_lt short
  rw [Pulse.run, storedPulse, time]

theorem SplitsSignal.joinedSignal {signal : List Bool} {intervals : List Interval} (splits : SplitsSignal signal intervals held)
    (holds : HoldsPulses joiner held) (short : ∀ interval ∈ intervals, interval.period < 65536)
    (few : ∀ run ∈ held, run.2 < 65536) : Toolbox.joinedSignal (intervals.map Interval.popped) joiner = signal := by
  have out : (intervals.map Interval.popped).flatMap PoppedPulse.runs = intervals.flatMap Interval.runs := by
    rw [List.flatMap_map]
    exact List.flatMap_congr fun interval member => popped_runs (short interval member) (splits.proper interval member).2
  have inside : (heldPulses joiner).map Pulse.run = held := by
    rw [holds.heldPulses, List.map_map]
    exact (List.map_congr_left fun run member => run_storedPulse (few run member)).trans (List.map_id held)
  rw [Toolbox.joinedSignal, out, inside, splits.whole]

/-- Whatever is pushed, no check fails, and the times that come out are those of the signal modulo 65536. -/
theorem joinPulses_signal (pushes : List PulsePush)
    (proper : ∀ push ∈ pushes, 0 < push.pulse ∧ push.pulse < push.period) :
    Yields (joinPulses pushes) (fun popped joiner => ∃ (intervals : List Interval) (held : List (Bool × Nat)),
        SplitsSignal (pushedSignal pushes) intervals held ∧ popped = intervals.map Interval.popped ∧
          heldPulses joiner = held.map storedPulse ∧
            ((∀ interval ∈ intervals, interval.period < 65536) → (∀ run ∈ held, run.2 < 65536) →
              joinedSignal popped joiner = pushedSignal pushes)) pulseJoinerAlloc := by
  cases pushes with
  | nil =>
    have none : SplitsSignal (pushedSignal []) [] [] := ⟨by simp, by simp, by simp, rfl⟩
    exact ⟨[], [], none, rfl, rfl, none.joinedSignal holdsPulses_alloc⟩
  | cons push rest =>
    obtain ⟨here, later⟩ := List.forall_mem_cons.mp proper
    obtain ⟨next, left, pushed, there, waiting, positive, signal⟩ := joinPulse_first here
    obtain ⟨intervals, final, held, joined, after, splits⟩ := there.joinPulses waiting positive later
    have splits : SplitsSignal (pushedSignal (push :: rest)) intervals held := by
      rw [pushedSignal, List.flatMap_cons, expandRuns_append, ← signal]
      exact splits
    have ran : joinPulses (push :: rest) pulseJoinerAlloc = (.ok (intervals.map Interval.popped), final) := by
      rw [joinPulses, bind_of_ok pushed, bind_of_ok joined]
      rfl
    rw [Yields.iff_of_ok ran]
    exact ⟨intervals, held, splits, rfl, after.heldPulses, splits.joinedSignal after⟩

theorem joinPulses_signal_three : Yields (joinPulses [⟨false, 5, 2⟩, ⟨true, 10, 4⟩, ⟨false, 7, 3⟩])
      (fun popped joiner => ∃ (intervals : List Interval) (held : List (Bool × Nat)),
        SplitsSignal (pushedSignal [⟨false, 5, 2⟩, ⟨true, 10, 4⟩, ⟨false, 7, 3⟩]) intervals held ∧
          popped = intervals.map Interval.popped ∧ heldPulses joiner = held.map storedPulse ∧
            ((∀ interval ∈ intervals, interval.period < 65536) → (∀ run ∈ held, run.2 < 65536) →
              joinedSignal popped joiner = pushedSignal [⟨false, 5, 2⟩, ⟨true, 10, 4⟩, ⟨false, 7, 3⟩])) pulseJoinerAlloc :=
  joinPulses_signal _ (by decide)

theorem length_expandRuns (held : List (Bool × Nat)) : (expandRuns held).length = totalTime held := by
  induction held with
  | nil => rfl
  | cons run rest next =>
    rw [expandRuns, List.flatMap_cons, ← expandRuns, List.length_append, List.length_replicate, next, totalTime_cons]

/-- A high level of 70000, and a short low one: nothing is popped, and 4464 are left of it. -/
theorem joinedSignal_held_long : Yields (joinPulses [⟨true, 70001, 70000⟩])
      (fun popped joiner => popped = [] ∧ joinedSignal popped joiner ≠ pushedSignal [⟨true, 70001, 70000⟩])
      pulseJoinerAlloc := by
  have ran : (joinPulses [⟨true, 70001, 70000⟩] pulseJoinerAlloc).1 = .ok [] := rfl
  have stored : heldPulses (joinPulses [⟨true, 70001, 70000⟩] pulseJoinerAlloc).2 = [⟨true, 4464⟩, ⟨false, 1⟩] := rfl
  refine (Yields.of_ok ran).mono fun popped joiner given => ⟨given.1, fun same => ?_⟩
  obtain ⟨rfl, after⟩ := given
  rw [after] at stored
  have pushed : pushedSignal [⟨true, 70001, 70000⟩] = expandRuns [(true, 70000), (false, 1)] :=
    dropWhile_high (Nat.succ_pos 69999)
  have lengths := congrArg List.length same
  rw [joinedSignal, stored, pushed, length_expandRuns, length_expandRuns] at lengths
  exact absurd lengths (by decide)

end
end Xtreme.Toolbox
