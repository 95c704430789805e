import Mathlib.Algebra.Group.Int.Defs
import Mathlib.Algebra.GroupWithZero.Nat
import Xtreme.Library.Runs

/-! Frequency shift keying (`tools/fsk_ocs.c`, `tools/fsk_demod.c`). The
oscillator adds up periods until a bit is full and carries what is left over
into the next bit; the demodulator counts periods of one kind and divides.

The counter of the demodulator is a word of 32 bits. Times are far below what
such a word holds, and are left as they are. -/
namespace Xtreme.LfRfid
open Xtreme.Library

structure FSKOsc where
  freqLow : Nat
  freqHi : Nat
  oscPhaseMax : Nat
  oscPhaseCurrent : Int
  deriving DecidableEq, Repr

def fskOscAlloc (freqLow freqHi oscPhaseMax : Nat) : FSKOsc :=
  ⟨freqLow % 2 ^ 16, freqHi % 2 ^ 16, oscPhaseMax % 2 ^ 16, 0⟩

def FSKOsc.freq (osc : FSKOsc) (bit : Bool) : Nat := if bit then osc.freqHi else osc.freqLow

/-- Whether the bit is full, the period, and the oscillator after it. -/
def fskOscNext (osc : FSKOsc) (bit : Bool) : Bool × Nat × FSKOsc :=
  let period := osc.freq bit
  let phase := osc.oscPhaseCurrent + period
  if (osc.oscPhaseMax : Int) < phase then (true, period, { osc with oscPhaseCurrent := phase - osc.oscPhaseMax })
  else (false, period, { osc with oscPhaseCurrent := phase })

/-- The periods of one bit: an encoder asks for more until the bit is full. -/
def modulateBit : Nat → FSKOsc → Bool → List Nat × FSKOsc
  | 0, osc, _ => ([], osc)
  | fuel + 1, osc, bit =>
    let next := fskOscNext osc bit
    if next.1 then ([next.2.1], next.2.2)
    else (next.2.1 :: (modulateBit fuel next.2.2 bit).1, (modulateBit fuel next.2.2 bit).2)

/-- The periods of some bits. A period is at least one, so a bit has no more than `oscPhaseMax + 1` of them. -/
def modulateBits : FSKOsc → List Bool → List Nat
  | _, [] => []
  | osc, bit :: bits =>
    let first := modulateBit (osc.oscPhaseMax + 1) osc bit
    first.1 ++ modulateBits first.2 bits

/-- A period as it is sent, halved into its high and its low part, in times of eight. -/
def pulseHalves (period : Nat) : List (Bool × Nat) := [(true, 8 * (period / 2)), (false, 8 * (period / 2))]

/-- What the encoders send for some bits. -/
def modulate (bits : List Bool) : List (Bool × Nat) :=
  (modulateBits (fskOscAlloc 8 10 50) bits).flatMap pulseHalves

structure FSKDemod where
  lowTime : Nat
  lowPulses : Nat
  hiTime : Nat
  hiPulses : Nat
  invert : Bool
  midTime : Nat
  time : Nat
  count : Nat
  lastPulse : Bool
  deriving DecidableEq, Repr

def fskDemodAlloc (lowTime lowPulses hiTime hiPulses : Nat) : FSKDemod :=
  if hiTime < lowTime then
    ⟨hiTime, hiPulses, lowTime, lowPulses, true, (lowTime - hiTime) / 2 + hiTime, 0, 0, false⟩
  else ⟨lowTime, lowPulses, hiTime, hiPulses, false, (hiTime - lowTime) / 2 + lowTime, 0, 0, false⟩

/-- `value` and `count`, where an edge was found, and the demodulator after it. -/
def fskDemodFeed (demod : FSKDemod) (polarity : Bool) (time : Nat) : Option (Bool × Nat) × FSKDemod :=
  if polarity then (none, { demod with time := time })
  else
    let demod := { demod with time := demod.time + time }
    if demod.lowTime ≤ demod.time ∧ demod.time < demod.hiTime then
      let pulse := decide (demod.midTime ≤ demod.time)
      let demod := { demod with count := (demod.count + 1) % 2 ^ 32 }
      if demod.lastPulse ≠ pulse then
        let dataCount := (demod.count + 1) % 2 ^ 32
        let found :=
          if demod.lastPulse then (!demod.invert, dataCount / demod.hiPulses)
          else (demod.invert, dataCount / demod.lowPulses)
        (some found, { demod with count := 0, lastPulse := pulse })
      else (none, demod)
    else (none, { demod with count := 0 })

/-- What comes out of some pulses, as the decoders take it: a count of zero is nothing. -/
def demodulateFrom : FSKDemod → List (Bool × Nat) → List (Bool × Nat)
  | _, [] => []
  | demod, pulse :: pulses =>
    let fed := fskDemodFeed demod pulse.1 pulse.2
    (fed.1.filter fun found => 0 < found.2).toList ++ demodulateFrom fed.2 pulses

def demodulate (pulses : List (Bool × Nat)) : List (Bool × Nat) := demodulateFrom (fskDemodAlloc 44 6 100 5) pulses

theorem modulateBit_fills {bit : Bool} {fuel : Nat} {osc : FSKOsc} (low : 0 ≤ osc.oscPhaseCurrent)
    (high : osc.oscPhaseCurrent ≤ osc.oscPhaseMax) (positive : 0 < osc.freq bit)
    (enough : (osc.oscPhaseMax : Int) + 1 ≤ osc.oscPhaseCurrent + fuel) :
    ∃ (periods : Nat) (left : Int), 0 < periods ∧
      modulateBit fuel osc bit = (List.replicate periods (osc.freq bit), { osc with oscPhaseCurrent := left }) ∧
      osc.oscPhaseCurrent + osc.freq bit * periods = osc.oscPhaseMax + left ∧ 0 < left ∧ left ≤ osc.freq bit := by
  induction fuel generalizing osc with
  | zero => omega
  | succ fuel ih =>
    rw [modulateBit, fskOscNext]
    by_cases full : (osc.oscPhaseMax : Int) < osc.oscPhaseCurrent + osc.freq bit
    · rw [if_pos full]
      exact ⟨1, osc.oscPhaseCurrent + osc.freq bit - osc.oscPhaseMax, Nat.one_pos, rfl, by omega, by omega, by omega⟩
    · rw [if_neg full]
      have same : FSKOsc.freq { osc with oscPhaseCurrent := osc.oscPhaseCurrent + osc.freq bit } bit = osc.freq bit :=
        rfl
      obtain ⟨periods, left, -, filled, sum, bounds⟩ :=
        @ih { osc with oscPhaseCurrent := osc.oscPhaseCurrent + osc.freq bit } (by simp only; omega)
          (by simp only; omega) positive (by simp only; omega)
      rw [same] at filled sum bounds
      refine ⟨periods + 1, left, Nat.succ_pos _, ?_, ?_, bounds⟩
      · simp only [Bool.false_eq_true, ↓reduceIte, filled, List.replicate_succ]
      · simp only at sum
        rw [Int.natCast_succ, Int.mul_add]
        omega

/-- The oscillator of the tags, with something left of the last bit. -/
def oscAt (left : Nat) : FSKOsc := ⟨8, 10, 50, left⟩

def period (bit : Bool) : Nat := if bit then 10 else 8

theorem freq_oscAt (left : Nat) (bit : Bool) : (oscAt left).freq bit = period bit := rfl

theorem modulateBit_oscAt (bit : Bool) {left : Nat} (few : left ≤ 10) : ∃ periods left', 0 < periods ∧
      modulateBit (50 + 1) (oscAt left) bit = (List.replicate periods (period bit), oscAt left') ∧
      left + period bit * periods = 50 + left' ∧ 0 < left' ∧ left' ≤ period bit := by
  have positive : 0 < (oscAt left).freq bit := by rw [freq_oscAt]; cases bit <;> decide
  obtain ⟨periods, spare, some, filled, sum, more, less⟩ :=
    @modulateBit_fills bit (50 + 1) (oscAt left) (Int.natCast_nonneg _) (by simp only [oscAt]; omega) positive
      (by simp only [oscAt]; omega)
  rw [freq_oscAt] at filled sum less
  obtain ⟨left', rfl⟩ := Int.eq_ofNat_of_zero_le (Int.le_of_lt more)
  refine ⟨periods, left', some, filled, ?_, by omega, by omega⟩
  simp only [oscAt] at sum
  exact_mod_cast sum

theorem modulateBits_run (bit : Bool) (length : Nat) {left : Nat} (more : 0 < left) (few : left ≤ 10)
    (rest : List Bool) :
    ∃ periods left', modulateBits (oscAt left) (List.replicate length bit ++ rest) =
        List.replicate periods (period bit) ++ modulateBits (oscAt left') rest ∧
      left + period bit * periods = 50 * length + left' ∧ 0 < left' ∧ left' ≤ 10 ∧
      (length = 0 → left' = left) ∧ (0 < length → 0 < periods ∧ left' ≤ period bit) := by
  induction length generalizing left with
  | zero => exact ⟨0, left, rfl, by omega, more, few, fun _ => rfl, fun none => absurd none (Nat.lt_irrefl 0)⟩
  | succ length ih =>
    obtain ⟨first, left₁, some, filled, sum, more₁, less₁⟩ := modulateBit_oscAt bit few
    have small : period bit ≤ 10 := by cases bit <;> decide
    obtain ⟨periods, left₂, others, sums, more₂, few₂, single, less₂⟩ := ih more₁ (Nat.le_trans less₁ small)
    refine ⟨first + periods, left₂, ?_, ?_, more₂, few₂, fun none => absurd none (Nat.succ_ne_zero _),
      fun _ => ⟨by omega, ?_⟩⟩
    · have max : (oscAt left).oscPhaseMax = 50 := rfl
      rw [List.replicate_succ, List.cons_append, modulateBits, max, filled]
      rw [others, ← List.append_assoc, List.replicate_append_replicate]
    · rw [Nat.mul_add]
      omega
    · rcases Nat.eq_zero_or_pos length with none | more
      · rwa [single none]
      · exact (less₂ more).2

/-- How many periods a run has that begins with something left of the bit before
it: exactly five for each one, about six and a quarter for each zero. -/
structure Fits (run count : Bool × Nat) : Prop where
  value : count.1 = run.1
  positive : 0 < count.2
  ones : run.1 = true → count.2 = 5 * run.2
  zeros : run.1 = false → 50 * run.2 ≤ 8 * count.2 + 9 ∧ 8 * count.2 ≤ 50 * run.2 + 7

def periodsOf (counts : List (Bool × Nat)) : List Nat :=
  counts.flatMap fun count => List.replicate count.2 (period count.1)

theorem modulateBits_runs {runs : List (Bool × Nat)} (positive : ∀ run ∈ runs, 0 < run.2) {left : Nat}
    (more : 0 < left) (few : left ≤ 10) :
    ∃ counts, modulateBits (oscAt left) (expandRuns runs) = periodsOf counts ∧ List.Forall₂ Fits runs counts := by
  induction runs generalizing left with
  | nil => exact ⟨[], rfl, .nil⟩
  | cons run runs ih =>
    obtain ⟨periods, left', sent, sum, more', few', -, bounds⟩ :=
      modulateBits_run run.1 run.2 more few (expandRuns runs)
    obtain ⟨some, less⟩ := bounds (positive run List.mem_cons_self)
    obtain ⟨counts, others, fits⟩ := ih (fun other member => positive other (List.mem_cons_of_mem _ member)) more' few'
    refine ⟨(run.1, periods) :: counts, ?_, .cons ⟨rfl, some, fun one => ?_, fun zero => ?_⟩ fits⟩
    · rw [expandRuns, List.flatMap_cons, ← expandRuns, sent, others, periodsOf, periodsOf, List.flatMap_cons]
    · simp only [one, period, ↓reduceIte] at sum
      omega
    · simp only [zero, period, Bool.false_eq_true, ↓reduceIte] at sum less
      omega

/-- The first run begins with nothing left, and has at least one period. -/
theorem modulateBits_start {runs : List (Bool × Nat)} {run : Bool × Nat}
    (positive : ∀ other ∈ run :: runs, 0 < other.2) :
    ∃ periods counts, 0 < periods ∧
      modulateBits (fskOscAlloc 8 10 50) (expandRuns (run :: runs)) = periodsOf ((run.1, periods) :: counts) ∧
      List.Forall₂ Fits runs counts := by
  obtain ⟨length, shape⟩ : ∃ length, run.2 = length + 1 :=
    ⟨run.2 - 1, by have := positive run List.mem_cons_self; omega⟩
  obtain ⟨first, left, some, filled, -, more, less⟩ := modulateBit_oscAt run.1 (Nat.zero_le 10)
  have small : period run.1 ≤ 10 := by cases run.1 <;> decide
  obtain ⟨periods, left', sent, -, more', few', -, -⟩ :=
    modulateBits_run run.1 length more (Nat.le_trans less small) (expandRuns runs)
  obtain ⟨counts, others, fits⟩ :=
    modulateBits_runs (fun other member => positive other (List.mem_cons_of_mem _ member)) more' few'
  refine ⟨first + periods, counts, by omega, ?_, fits⟩
  have alloc : fskOscAlloc 8 10 50 = oscAt 0 := rfl
  have max : (oscAt 0).oscPhaseMax = 50 := rfl
  rw [expandRuns, List.flatMap_cons, ← expandRuns, shape, List.replicate_succ, List.cons_append, alloc, modulateBits,
    max, filled, periodsOf, List.flatMap_cons, ← periodsOf, ← others]
  rw [sent, ← List.append_assoc, List.replicate_append_replicate]

/-- The demodulator of the tags between two pulses. -/
def demodAt (lastPulse : Bool) (count time : Nat) : FSKDemod :=
  ⟨44, 6, 100, 5, false, 72, time, count % 2 ^ 32, lastPulse⟩

/-- What an edge tells of the run before it, when the run had this many periods. -/
def edge (value : Bool) (periods : Nat) : Bool × Nat := (value, (periods + 1) % 2 ^ 32 / if value then 5 else 6)

/-- A count of zero is not seen. -/
def shown (found : Bool × Nat) : List (Bool × Nat) := if 0 < found.2 then [found] else []

theorem toList_filter_some (found : Bool × Nat) :
    ((some found).filter fun found => 0 < found.2).toList = shown found := by
  rw [Option.filter_some, shown]
  by_cases seen : 0 < found.2 <;> simp [seen]

theorem fskDemodFeed_low (lastPulse bit : Bool) (count : Nat) :
    fskDemodFeed (demodAt lastPulse count (8 * (period bit / 2))) false (8 * (period bit / 2)) =
      if lastPulse = bit then (none, demodAt bit (count + 1) (16 * (period bit / 2)))
      else (some (edge lastPulse (count + 1)), demodAt bit 0 (16 * (period bit / 2))) := by
  cases lastPulse <;> cases bit <;>
    simp [fskDemodFeed, demodAt, period, edge]

theorem fed_pulse (lastPulse bit : Bool) (count time : Nat) (rest : List (Bool × Nat)) :
    demodulateFrom (demodAt lastPulse count time) (pulseHalves (period bit) ++ rest) =
      if lastPulse = bit then demodulateFrom (demodAt bit (count + 1) (16 * (period bit / 2))) rest
      else shown (edge lastPulse (count + 1)) ++ demodulateFrom (demodAt bit 0 (16 * (period bit / 2))) rest := by
  have high : fskDemodFeed (demodAt lastPulse count time) true (8 * (period bit / 2)) =
      (none, demodAt lastPulse count (8 * (period bit / 2))) := rfl
  simp only [pulseHalves, List.cons_append, demodulateFrom, high, fskDemodFeed_low]
  by_cases same : lastPulse = bit
  · simp only [if_pos same]
    rfl
  · simp only [if_neg same, toList_filter_some]
    rfl

def pulsesOf (counts : List (Bool × Nat)) : List (Bool × Nat) := (periodsOf counts).flatMap pulseHalves

theorem pulsesOf_cons (count : Bool × Nat) (counts : List (Bool × Nat)) :
    pulsesOf (count :: counts) = (List.replicate count.2 (period count.1)).flatMap pulseHalves ++ pulsesOf counts := by
  rw [pulsesOf, periodsOf, List.flatMap_cons, List.flatMap_append, ← periodsOf, ← pulsesOf]

theorem fed_same (bit : Bool) (pulses count time : Nat) (rest : List (Bool × Nat)) :
    ∃ time', demodulateFrom (demodAt bit count time)
        ((List.replicate pulses (period bit)).flatMap pulseHalves ++ rest) =
      demodulateFrom (demodAt bit (count + pulses) time') rest := by
  induction pulses generalizing count time with
  | zero => exact ⟨time, rfl⟩
  | succ pulses ih =>
    obtain ⟨time', counted⟩ := ih (count + 1) (16 * (period bit / 2))
    refine ⟨time', ?_⟩
    rw [List.replicate_succ, List.flatMap_cons, List.append_assoc, fed_pulse, if_pos rfl, counted, Nat.add_assoc,
      Nat.add_comm 1]

theorem fed_run {lastPulse : Bool} {count : Bool × Nat} (other : lastPulse ≠ count.1) (positive : 0 < count.2)
    (before time : Nat) (rest : List (Bool × Nat)) :
    ∃ time', demodulateFrom (demodAt lastPulse before time)
        ((List.replicate count.2 (period count.1)).flatMap pulseHalves ++ rest) =
      shown (edge lastPulse (before + 1)) ++ demodulateFrom (demodAt count.1 (count.2 - 1) time') rest := by
  obtain ⟨more, shape⟩ : ∃ more, count.2 = more + 1 := ⟨count.2 - 1, by omega⟩
  obtain ⟨time', counted⟩ := fed_same count.1 more 0 (16 * (period count.1 / 2)) rest
  refine ⟨time', ?_⟩
  rw [shape, List.replicate_succ, List.flatMap_cons, List.append_assoc, fed_pulse, if_neg other, counted, Nat.zero_add,
    Nat.add_sub_cancel]

theorem fed_runs {counts : List (Bool × Nat)} {count : Bool × Nat} (proper : ProperRuns (count :: counts))
    {lastPulse : Bool} (other : lastPulse ≠ count.1) (before time : Nat) :
    demodulateFrom (demodAt lastPulse before time) (pulsesOf (count :: counts)) =
      shown (edge lastPulse (before + 1)) ++
        (count :: counts).dropLast.flatMap fun run => shown (edge run.1 run.2) := by
  induction counts generalizing count lastPulse before time with
  | nil =>
    obtain ⟨time', fed⟩ := fed_run other (proper.positive count List.mem_cons_self) before time (pulsesOf [])
    rw [pulsesOf_cons, fed]
    rfl
  | cons next counts ih =>
    have positive := proper.positive count List.mem_cons_self
    obtain ⟨time', fed⟩ := fed_run other positive before time (pulsesOf (next :: counts))
    rw [pulsesOf_cons, fed, ih proper.tail proper.ne, Nat.sub_add_cancel positive, List.dropLast_cons_cons,
      List.flatMap_cons]

theorem fed_start {counts : List (Bool × Nat)} {count : Bool × Nat} (proper : ProperRuns (count :: counts)) :
    ∃ first : List (Bool × Nat), first.length ≤ 1 ∧ demodulate (pulsesOf (count :: counts)) =
      first ++ counts.dropLast.flatMap fun run => shown (edge run.1 run.2) := by
  have short (found : Bool × Nat) : (shown found).length ≤ 1 := by
    rw [shown]
    split <;> simp
  have alloc : fskDemodAlloc 44 6 100 5 = demodAt false 0 0 := rfl
  rw [demodulate, alloc]
  cases value : count.1 with
  | true =>
    have unseen : shown (edge false (0 + 1)) = [] := by decide
    rw [fed_runs proper (by rw [value]; decide), unseen, List.nil_append]
    cases counts with
    | nil => exact ⟨[], by decide, rfl⟩
    | cons next counts => exact ⟨_, short (edge count.1 count.2), by rw [List.dropLast_cons_cons, List.flatMap_cons]⟩
  | false =>
    obtain ⟨time', fed⟩ := fed_same false count.2 0 0 (pulsesOf counts)
    rw [pulsesOf_cons, value, fed]
    cases counts with
    | nil => exact ⟨[], by decide, rfl⟩
    | cons next counts =>
      have other : false ≠ next.1 := value ▸ proper.ne
      exact ⟨_, short _, fed_runs proper.tail other _ _⟩

variable {runs counts : List (Bool × Nat)}

theorem fits_values (fits : List.Forall₂ Fits runs counts) :
    counts.map Prod.fst = runs.map Prod.fst := by
  induction fits with
  | nil => rfl
  | cons fit _ ih => rw [List.map_cons, List.map_cons, fit.value, ih]

theorem fits_positive (fits : List.Forall₂ Fits runs counts) :
    ∀ count ∈ counts, 0 < count.2 := by
  induction fits with
  | nil => exact fun count member => absurd member List.not_mem_nil
  | cons fit _ ih =>
    intro count member
    rcases List.mem_cons.mp member with rfl | later
    · exact fit.positive
    · exact ih count later

theorem properRuns_counts {run : Bool × Nat} {periods : Nat}
    (proper : ProperRuns (run :: runs)) (some : 0 < periods) (fits : List.Forall₂ Fits runs counts) :
    ProperRuns ((run.1, periods) :: counts) := by
  refine ⟨fun other member => ?_, ?_⟩
  · rcases List.mem_cons.mp member with rfl | later
    · exact some
    · exact fits_positive fits other later
  · have chain : ((run :: runs).map Prod.fst).IsChain fun value next => value ≠ next :=
      (List.isChain_map Prod.fst).mpr proper.distinct
    rw [List.map_cons, ← fits_values fits] at chain
    exact (List.isChain_map Prod.fst).mp chain

theorem Fits.edge_ones {run count : Bool × Nat} (fit : Fits run count) (one : run.1 = true) :
    edge count.1 count.2 = (true, (5 * run.2 + 1) % 2 ^ 32 / 5) := by
  rw [edge, fit.value, one, fit.ones one, if_pos rfl]

/-- What is told of a run of zeros: its length, while what is left over stays below a pulse for each. -/
theorem Fits.edge_zeros {run count : Bool × Nat} (fit : Fits run count) (zero : run.1 = false) (few : run.2 ≤ 16) :
    edge count.1 count.2 = (false, run.2) := by
  obtain ⟨least, most⟩ := fit.zeros zero
  have small : count.2 + 1 < 2 ^ 32 := by omega
  have length : (count.2 + 1) / 6 = run.2 := by omega
  rw [edge, fit.value, zero, Nat.mod_eq_of_lt small, if_neg Bool.false_ne_true, length]

/-- A run within the bounds is told of as it is. -/
theorem Fits.shown {run count : Bool × Nat} (fit : Fits run count) (positive : 0 < run.2)
    (zeros : run.1 = false → run.2 ≤ 16) (ones : run.1 = true → run.2 < 858993459) :
    shown (edge count.1 count.2) = [run] := by
  have same : edge count.1 count.2 = run := by
    cases value : run.1 with
    | true =>
      have small : 5 * run.2 + 1 < 2 ^ 32 := by
        have few := ones value
        omega
      have length : (5 * run.2 + 1) / 5 = run.2 := by omega
      rw [fit.edge_ones value, Nat.mod_eq_of_lt small, length, ← value]
    | false => rw [fit.edge_zeros value (zeros value), ← value]
  rw [same, LfRfid.shown, if_pos positive]

theorem shown_counts (fits : List.Forall₂ Fits runs counts)
    (positive : ∀ run ∈ runs, 0 < run.2) (zeros : ∀ run ∈ runs.dropLast, run.1 = false → run.2 ≤ 16)
    (ones : ∀ run ∈ runs.dropLast, run.1 = true → run.2 < 858993459) :
    (counts.dropLast.flatMap fun count => shown (edge count.1 count.2)) = runs.dropLast := by
  induction fits with
  | nil => rfl
  | @cons run count runs counts fit fits ih =>
    cases fits with
    | nil => rfl
    | cons next rest =>
      have others := ih (fun other member => positive other (List.mem_cons_of_mem _ member))
        (fun other member => zeros other (List.mem_cons_of_mem _ member))
        (fun other member => ones other (List.mem_cons_of_mem _ member))
      rw [List.dropLast_cons_cons, List.flatMap_cons, others,
        fit.shown (positive run List.mem_cons_self) (zeros run List.mem_cons_self) (ones run List.mem_cons_self)]
      rfl

theorem demodulate_modulate {bits : List Bool} {run : Bool × Nat} {runs : List (Bool × Nat)}
    (shape : runsOf bits = run :: runs) :
    ∃ first counts, first.length ≤ 1 ∧ List.Forall₂ Fits runs counts ∧ demodulate (modulate bits) =
      first ++ counts.dropLast.flatMap fun count => shown (edge count.1 count.2) := by
  have proper := properRuns_runsOf bits
  rw [shape] at proper
  obtain ⟨periods, counts, some, sent, fits⟩ := modulateBits_start proper.positive
  obtain ⟨first, short, fed⟩ := fed_start (properRuns_counts proper some fits)
  refine ⟨first, counts, short, fits, ?_⟩
  rw [← fed, pulsesOf, ← sent, ← shape, expandRuns_runsOf, modulate]

/-- Every run between the first and the last change of level comes out as it
went in, with at most one thing told before them, about the run that the bits
begin with. -/
theorem fsk_round_trip (bits : List Bool) (zeros : ∀ run ∈ (runsOf bits).tail.dropLast, run.1 = false → run.2 ≤ 16)
    (ones : ∀ run ∈ (runsOf bits).tail.dropLast, run.1 = true → run.2 < 858993459) :
    ∃ first, first.length ≤ 1 ∧ demodulate (modulate bits) = first ++ (runsOf bits).tail.dropLast := by
  cases shape : runsOf bits with
  | nil =>
    have none : bits = [] := by rw [← expandRuns_runsOf bits, shape, expandRuns, List.flatMap_nil]
    exact ⟨[], Nat.zero_le 1, by rw [none]; rfl⟩
  | cons run runs =>
    have positive := (properRuns_runsOf bits).positive
    rw [shape] at zeros ones positive
    obtain ⟨first, counts, short, fits, out⟩ := demodulate_modulate shape
    refine ⟨first, short, ?_⟩
    rw [out, List.tail_cons,
      shown_counts fits (fun other member => positive other (List.mem_cons_of_mem _ member)) zeros ones]

theorem fsk_round_trip_short : ∃ first, first.length ≤ 1 ∧
    demodulate (modulate [true, false, false, true, true, true, false]) = first ++ [(false, 2), (true, 3)] := by
  have runs : (runsOf [true, false, false, true, true, true, false]).tail.dropLast = [(false, 2), (true, 3)] := by
    decide
  have round := fsk_round_trip [true, false, false, true, true, true, false] (by decide) (by decide)
  rwa [runs] at round

/-- A run of ones so long that five times its length wraps around. -/
def wrappingRuns : List (Bool × Nat) := [(true, 1), (false, 1), (true, 858993459), (false, 1)]

/-- Such a run is not told of. -/
theorem fsk_wraps : ¬ ∀ bits, (∀ run ∈ runsOf bits, run.1 = false → run.2 ≤ 16) →
    ∃ first, first.length ≤ 1 ∧ demodulate (modulate bits) = first ++ (runsOf bits).tail.dropLast := by
  intro claim
  have proper : ProperRuns wrappingRuns := ⟨by decide, by decide⟩
  have shape := runsOf_expandRuns proper
  obtain ⟨first, -, out⟩ := claim (expandRuns wrappingRuns) (by rw [shape]; decide)
  obtain ⟨start, counts, -, fits, out'⟩ := demodulate_modulate shape
  cases fits with
  | @cons _ zero _ counts fit fits =>
    cases fits with
    | @cons _ ones _ counts fit' fits =>
      cases fits with
      | @cons _ last _ counts _ fits =>
        cases fits
        have told := fit.edge_zeros rfl (by decide)
        have lost : shown (edge ones.1 ones.2) = [] := by
          rw [fit'.edge_ones rfl]
          decide
        have seen : ([zero, ones, last].dropLast.flatMap fun count => shown (edge count.1 count.2)) = [(false, 1)] := by
          rw [List.dropLast_cons_cons, List.dropLast_cons_cons, List.flatMap_cons, List.flatMap_cons, lost, told]
          rfl
        have runs : wrappingRuns.tail.dropLast = [(false, 1)] ++ [(true, 858993459)] := rfl
        rw [shape, out', seen, runs, ← List.append_assoc] at out
        have ends : (false, 1) = (true, 858993459) := List.singleton_inj.mp (List.append_inj_right' out rfl)
        exact Bool.noConfusion (congrArg Prod.fst ends)

end Xtreme.LfRfid
