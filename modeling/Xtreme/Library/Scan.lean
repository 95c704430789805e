import Xtreme.Library.Tape

/-! Scanners that read a stream in chunks. A scanner goes over a text entry by
entry until it stops at one, which it leaves to whoever reads next. Over a stream
it fetches a chunk at a time and, where it stops, goes back to that entry. Where
the chunks begin and end makes no difference (`scanStream_shows`), so that what a
scanner does can be said on the text alone. -/
namespace Xtreme.Library

/-- One step of a scanner: go on in a new state, or stop at the entry at hand. -/
inductive Scan (S R : Type*) where
  | more (state : S)
  | stop (result : R)
  deriving DecidableEq, Repr

variable {α S R σ : Type*} (step : S → α → Scan S R)

def scanText : S → List α → Scan S R × List α
  | state, [] => (.more state, [])
  | state, entry :: rest =>
    match step state entry with
    | .more state => scanText state rest
    | .stop result => (.stop result, entry :: rest)

variable {step}

theorem scanText_more {state next : S} {entry : α} {rest : List α} (goes : step state entry = .more next) :
    scanText step state (entry :: rest) = scanText step next rest := by
  rw [scanText, goes]

theorem scanText_stop {state : S} {entry : α} {rest : List α} {result : R}
    (stops : step state entry = .stop result) :
    scanText step state (entry :: rest) = (.stop result, entry :: rest) := by
  rw [scanText, stops]

theorem scanText_append (state : S) (first second : List α) : scanText step state (first ++ second) =
      match scanText step state first with
      | (.more next, _) => scanText step next second
      | (.stop result, rest) => (.stop result, rest ++ second) := by
  induction first generalizing state with
  | nil => rfl
  | cons entry first ih =>
    rw [List.cons_append, scanText, scanText]
    cases step state entry with
    | more next => exact ih next
    | stop result => rfl

theorem scanText_rest (step : S → α → Scan S R) (state : S) (text : List α) :
    ∃ outcome passed rest, scanText step state text = (outcome, rest) ∧ text = passed ++ rest ∧
      match outcome with
      | .more _ => rest = []
      | .stop _ => rest ≠ [] := by
  induction text generalizing state with
  | nil => exact ⟨.more state, [], [], rfl, rfl, rfl⟩
  | cons entry rest ih =>
    cases goes : step state entry with
    | more next =>
      obtain ⟨outcome, passed, left, scanned, split, ends⟩ := ih next
      exact ⟨outcome, entry :: passed, left, (scanText_more goes).trans scanned, congrArg (entry :: ·) split, ends⟩
    | stop result =>
      exact ⟨.stop result, [], entry :: rest, scanText_stop goes, rfl, List.cons_ne_nil _ _⟩

/-- How a scanner gets at a stream: the next chunk, and back by so many entries. -/
structure ChunkReader (σ α : Type*) where
  read : σ → List α × σ
  back : σ → Nat → Bool × σ

/-- A scan of a stream. It answers `none` when it runs out of fuel, and else the
state at the end of the stream or, at a stop, the result and whether the way back
was possible. -/
def scanStream (reader : ChunkReader σ α) (step : S → α → Scan S R) : Nat → S → σ → Option (Scan S (R × Bool) × σ)
  | 0, _, _ => none
  | fuel + 1, state, stream =>
    let (chunk, stream) := reader.read stream
    if chunk.length = 0 then some (.more state, stream)
    else
      match scanText step state chunk with
      | (.more state, _) => scanStream reader step fuel state stream
      | (.stop result, rest) =>
        let (ok, stream) := reader.back stream rest.length
        some (.stop (result, ok), stream)

/-- The stream behaves as the tape it shows. -/
structure Chunked (reader : ChunkReader σ α) (shows : σ → Tape α → Prop) : Prop where
  read : ∀ {stream before after}, shows stream ⟨before, after⟩ →
    ∃ chunk rest next, after = chunk ++ rest ∧ reader.read stream = (chunk, next) ∧
      (chunk = [] → rest = []) ∧ shows next ⟨before ++ chunk, rest⟩
  back : ∀ {stream before passed after}, shows stream ⟨before ++ passed, after⟩ → passed ≠ [] →
    ∃ next, reader.back stream passed.length = (true, next) ∧ shows next ⟨before, passed ++ after⟩

variable {reader : ChunkReader σ α} {shows : σ → Tape α → Prop}

/-- The outcome of a scan whose way back was possible. -/
def Scan.reached : Scan S R → Scan S (R × Bool)
  | .more state => .more state
  | .stop result => .stop (result, true)

/-- A scan of a stream is a scan of the text after the cursor, and leaves the
cursor where that stops. -/
theorem scanStream_shows (chunked : Chunked reader shows) {stream : σ} {before after : List α}
    (shown : shows stream ⟨before, after⟩) (state : S) {fuel : Nat} (enough : after.length < fuel)
    {outcome : Scan S R} {passed rest : List α} (scanned : scanText step state after = (outcome, rest))
    (split : after = passed ++ rest) :
    ∃ next, scanStream reader step fuel state stream = some (outcome.reached, next) ∧
      shows next ⟨before ++ passed, rest⟩ := by
  induction fuel generalizing state stream before after passed with
  | zero => exact absurd enough (Nat.not_lt_zero _)
  | succ fuel ih =>
    obtain ⟨chunk, beyond, middle, cut, read, last, shown⟩ := chunked.read shown
    obtain ⟨outcome', passed', rest', chunkScanned, chunkSplit, ends⟩ :=
      scanText_rest step state chunk
    rw [cut, List.length_append] at enough
    rw [cut, scanText_append, chunkScanned] at scanned
    by_cases empty : chunk = []
    · subst empty
      cases chunkScanned
      obtain rfl := last rfl
      cases scanned
      have none : passed = [] := by simpa using (cut.symm.trans split).symm
      subst none
      exact ⟨middle, by simp only [scanStream, read, List.length_nil, if_true, Scan.reached], shown⟩
    have some_chunk : chunk.length ≠ 0 := mt List.eq_nil_of_length_eq_zero empty
    cases outcome' with
    | more next =>
      obtain ⟨_, further, _, scanned', split', -⟩ := scanText_rest step next beyond
      obtain ⟨rfl, rfl⟩ := Prod.mk.inj (scanned.symm.trans scanned')
      obtain ⟨final, scan, shown⟩ := ih shown next (by omega) scanned' split'
      have through : passed = chunk ++ further := by
        rw [cut, split', ← List.append_assoc] at split
        exact (List.append_cancel_right split).symm
      refine ⟨final, ?_, by rwa [through, ← List.append_assoc]⟩
      simp only [scanStream, read, some_chunk, if_false, chunkScanned, scan]
    | stop result =>
      cases scanned
      rw [chunkSplit, ← List.append_assoc] at shown
      obtain ⟨final, back, shown⟩ := chunked.back shown ends
      have here : passed = passed' := by
        rw [cut, chunkSplit, List.append_assoc] at split
        exact (List.append_cancel_right split).symm
      refine ⟨final, ?_, by rwa [here]⟩
      simp only [scanStream, read, some_chunk, if_false, chunkScanned, back, Scan.reached]

end Xtreme.Library
