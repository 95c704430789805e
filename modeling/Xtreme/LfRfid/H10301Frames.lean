import Xtreme.LfRfid.H10301

/-! Which windows the H10301 reader accepts: exactly the frames the writer builds. -/
namespace Xtreme.LfRfid.H10301
open Xtreme.Library Xtreme.BitLib
open ShiftRegister (push ofBits)

/-- The bits every frame starts with: the preamble, then company code and
format in pairs. -/
def headerBits : List Bool :=
  preamble ++ (companyCode ++ cardFormat).flatMap fun bit => [bit, !bit]

/-- Payload bit `i` of a frame, the first of its pair. -/
def payload (frame : Nat → Bool) (i : Nat) : Bool := frame (44 + 2 * i)

/-- What a frame of 96 bits looks like: the header, 26 pairs of complementary
bits, and the first and last of these chosen to make the first half of them
even and the second half odd. -/
structure FrameShape (frame : Nat → Bool) : Prop where
  header : ∀ place < 44, frame place = headerBits.getD place false
  pairs : ∀ i < 26, frame (45 + 2 * i) = !payload frame i
  leading : payload frame 0 = parity ((List.range 12).map fun i => payload frame (1 + i))
  trailing : payload frame 25 = !parity ((List.range 12).map fun i => payload frame (13 + i))

/-- A frame is its 24 data bits: all else follows from them. -/
theorem FrameShape.ext {first second : Nat → Bool} (shaped : FrameShape first)
    (shaped' : FrameShape second) (same : ∀ i < 24, payload first (1 + i) = payload second (1 + i)) :
    ∀ place < 96, first place = second place := by
  have half (start : Nat) (low : 1 ≤ start) (high : start ≤ 13) :
      (List.range 12).map (fun i => payload first (start + i)) =
        (List.range 12).map fun i => payload second (start + i) :=
    List.map_congr_left fun i inside => by
      have inside := List.mem_range.mp inside
      have bit := same (start + i - 1) (by omega)
      rwa [show 1 + (start + i - 1) = start + i by omega] at bit
  have all : ∀ i < 26, payload first i = payload second i := by
    intro i inside
    by_cases opening : i = 0
    · rw [opening, shaped.leading, shaped'.leading, half 1 (by omega) (by omega)]
    by_cases closing : i = 25
    · rw [closing, shaped.trailing, shaped'.trailing, half 13 (by omega) (by omega)]
    have bit := same (i - 1) (by omega)
    rwa [show 1 + (i - 1) = i by omega] at bit
  intro place inside
  by_cases header : place < 44
  · rw [shaped.header place header, shaped'.header place header]
  obtain ⟨i, rfl | rfl⟩ : ∃ i, place = 44 + 2 * i ∨ place = 45 + 2 * i :=
    ⟨(place - 44) / 2, by omega⟩
  · exact all i (by omega)
  · rw [shaped.pairs i (by omega), shaped'.pairs i (by omega), all i (by omega)]

/-! ## The reader's loops -/

variable (word : BitVec 32)

theorem pair_eq (i : Nat) :
    (word >>> (2 * i)) &&& 0b11#32 = ofBits [word.getLsbD (2 * i + 1), word.getLsbD (2 * i)] := by
  apply BitVec.eq_of_getLsbD_eq
  intro place inside
  have mask : ∀ place < 32, (0b11#32).getLsbD place = decide (place < 2) := by decide
  rw [BitVec.getLsbD_and, mask _ inside, ShiftRegister.getLsbD_ofBits _ inside]
  match place with
  | 0 => simp
  | 1 => simp
  | place + 2 => simp

theorem checkPair_eq (word result : BitVec 32) (i : Nat) : checkPair word result i =
      if word.getLsbD (2 * i) = !word.getLsbD (2 * i + 1) then
        some (push result (word.getLsbD (2 * i + 1)))
      else none := by
  unfold checkPair
  rw [pair_eq]
  cases word.getLsbD (2 * i + 1) <;> cases word.getLsbD (2 * i) <;> rfl

def pairBits (word : BitVec 32) (count : Nat) : List Bool :=
  (List.range count).reverse.map fun i => word.getLsbD (2 * i + 1)

theorem pairBits_succ (count : Nat) :
    pairBits word (count + 1) = word.getLsbD (2 * count + 1) :: pairBits word count := by
  simp [pairBits, List.range_succ]

theorem checkPairs_eq_some (count : Nat) (result final : BitVec 32) : checkPairs word count result = some final ↔
      (∀ i < count, word.getLsbD (2 * i) = !word.getLsbD (2 * i + 1)) ∧
        final = (pairBits word count).foldl push result := by
  induction count generalizing result with
  | zero => simp [checkPairs, pairBits, eq_comm]
  | succ count ih =>
    have unroll : checkPairs word (count + 1) result =
        (checkPair word result count).bind fun result => checkPairs word count result := by
      simp [checkPairs, List.range_succ]
    rw [unroll, checkPair_eq, pairBits_succ]
    by_cases pair : word.getLsbD (2 * count) = !word.getLsbD (2 * count + 1)
    · rw [if_pos pair, Option.bind_some, ih, Nat.forall_lt_succ_right]
      constructor
      · rintro ⟨pairs, rfl⟩
        exact ⟨⟨pairs, pair⟩, rfl⟩
      · rintro ⟨⟨pairs, _⟩, rfl⟩
        exact ⟨pairs, rfl⟩
    · rw [if_neg pair]
      constructor
      · exact nofun
      · exact fun ⟨pairs, _⟩ => absurd (pairs count (Nat.lt_succ_self count)) pair

theorem decodePairs_eq (count : Nat) (result : BitVec 32)
    (pairs : ∀ i < count, word.getLsbD (2 * i) = !word.getLsbD (2 * i + 1)) :
    decodePairs word count result = (pairBits word count).foldl push result := by
  induction count generalizing result with
  | zero => rfl
  | succ count ih =>
    have step : (if (word >>> (2 * count)) &&& 0b11#32 = 0b01#32 then (result <<< 1) ||| 0#32
        else if (word >>> (2 * count)) &&& 0b11#32 = 0b10#32 then (result <<< 1) ||| 1#32
        else result) = push result (word.getLsbD (2 * count + 1)) := by
      rw [pair_eq, pairs count (Nat.lt_succ_self count)]
      cases word.getLsbD (2 * count + 1) <;> rfl
    rw [decodePairs, List.range_succ, List.reverse_append, List.reverse_singleton,
      List.singleton_append, List.foldl_cons, step, pairBits_succ]
    exact ih _ fun i inside => pairs i (Nat.lt_succ_of_lt inside)

def payloadBits (frame : Nat → Bool) : List Bool := (List.range 26).map (payload frame)

variable (cardData : CardData)

theorem wordAt_zero : cardData.get 0 = wordAt cardData 0 := rfl
theorem wordAt_one : cardData.get 1 = wordAt cardData 1 := rfl
theorem wordAt_two : cardData.get 2 = wordAt cardData 2 := rfl

theorem getLsbD_wordAt (index : Nat) {place : Nat} (inside : place < 32) :
    (wordAt cardData index).getLsbD place = cardBit cardData (32 * index + (31 - place)) := by
  rw [cardBit, show (32 * index + (31 - place)) / 32 = index by omega, BitVec.getMsbD_eq_getLsbD,
    decide_eq_true (by omega)]
  congr 1
  omega

theorem pair_place {index j i : Nat} (inside : j < 16) (same : i + 7 + j = 16 * index) :
    (wordAt cardData index).getLsbD (2 * j + 1) = payload (cardBit cardData) i ∧
      (wordAt cardData index).getLsbD (2 * j) = cardBit cardData (45 + 2 * i) := by
  rw [getLsbD_wordAt _ _ (by omega), getLsbD_wordAt _ _ (by omega)]
  constructor <;> congr 1 <;> omega

theorem pairBits_eq (count : Nat) :
    pairBits word count = (List.range count).map fun j => word.getLsbD (2 * (count - 1 - j) + 1) := by
  apply List.ext_getElem
  · simp [pairBits]
  · simp [pairBits]

theorem pairBits_words :
    pairBits (cardData.get 1) 10 ++ pairBits (cardData.get 2) 16 = payloadBits (cardBit cardData) := by
  have split : List.range (10 + 16) = List.range 10 ++ (List.range 16).map (10 + ·) := List.range_add
  rw [wordAt_one, payloadBits, split, List.map_append, List.map_map, pairBits_eq, pairBits_eq]
  refine congrArg₂ (· ++ ·) ?_ ?_
  · refine List.map_congr_left fun j inside => ?_
    have inside := List.mem_range.mp inside
    exact (pair_place cardData (by omega) (by omega)).1
  · refine List.map_congr_left fun j inside => ?_
    have inside := List.mem_range.mp inside
    exact (@pair_place cardData 2 (16 - 1 - j) (10 + j) (by omega) (by omega)).1

theorem pairs_words : ((∀ i < 10, (cardData.get 1).getLsbD (2 * i) = !(cardData.get 1).getLsbD (2 * i + 1)) ∧
      ∀ i < 16, (cardData.get 2).getLsbD (2 * i) = !(cardData.get 2).getLsbD (2 * i + 1)) ↔
      ∀ i < 26, cardBit cardData (45 + 2 * i) = !payload (cardBit cardData) i := by
  rw [wordAt_one, wordAt_two]
  constructor
  · rintro ⟨first, second⟩ i inside
    by_cases early : i < 10
    · have place := @pair_place cardData 1 (9 - i) i (by omega) (by omega)
      rw [← place.1, ← place.2]
      exact first _ (by omega)
    · have place := @pair_place cardData 2 (25 - i) i (by omega) (by omega)
      rw [← place.1, ← place.2]
      exact second _ (by omega)
  · intro pairs
    constructor
    · intro j inside
      have place := @pair_place cardData 1 j (9 - j) (by omega) (by omega)
      rw [place.1, place.2]
      exact pairs _ (by omega)
    · intro j inside
      have place := @pair_place cardData 2 j (25 - j) (by omega) (by omega)
      rw [place.1, place.2]
      exact pairs _ (by omega)

/-- Both decoding loops, one after the other. -/
theorem checkPairs_words (result : BitVec 32) :
    (checkPairs (cardData.get 1) 10 0#32 >>= checkPairs (cardData.get 2) 16) = some result ↔
      (∀ i < 26, cardBit cardData (45 + 2 * i) = !payload (cardBit cardData) i) ∧
        result = ofBits (payloadBits (cardBit cardData)) := by
  rw [← pairs_words, ← pairBits_words]
  constructor
  · intro both
    obtain ⟨middle, first, second⟩ := Option.bind_eq_some_iff.mp both
    obtain ⟨firstPairs, rfl⟩ := (checkPairs_eq_some _ _ _ _).mp first
    obtain ⟨secondPairs, rfl⟩ := (checkPairs_eq_some _ _ _ _).mp second
    exact ⟨⟨firstPairs, secondPairs⟩, (List.foldl_append ..).symm⟩
  · rintro ⟨⟨firstPairs, secondPairs⟩, rfl⟩
    refine Option.bind_eq_some_iff.mpr ⟨_, (checkPairs_eq_some _ _ _ _).mpr ⟨firstPairs, rfl⟩,
      (checkPairs_eq_some _ _ _ _).mpr ⟨secondPairs, List.foldl_append ..⟩⟩

/-- Bits of the collected result, counted from the last one. -/
theorem getLsbD_payloadBits (frame : Nat → Bool) {place : Nat} (inside : place < 26) :
    (ofBits (payloadBits frame) : BitVec 32).getLsbD place = payload frame (25 - place) := by
  rw [ShiftRegister.getLsbD_ofBits _ (by omega), payloadBits,
    List.getElem?_reverse (by simpa using inside), List.getElem?_map, List.length_map,
    List.length_range, List.getElem?_range (by omega)]
  rfl

theorem paritySum_eq (value : BitVec 32) (places : List Nat) (start : BitVec 8) :
    paritySum value places start = (places.map value.getLsbD).foldl (fun sum bit =>
      sum + (BitVec.ofBool bit).setWidth 8) start := by
  have one (i : Nat) : (value >>> i) &&& 1#32 = 1#32 ↔ value.getLsbD i = true := by
    rw [BitVec.and_one_eq_setWidth_ofBool_getLsbD, BitVec.getLsbD_ushiftRight]
    cases value.getLsbD i <;> simp
  rw [paritySum, List.foldl_map]
  congr 1
  funext sum i
  cases bit : value.getLsbD i with
  | true => rw [if_pos ((one i).mpr bit)]; rfl
  | false =>
    rw [if_neg fun set => by rw [(one i).mp set] at bit; exact Bool.noConfusion bit]
    simp

theorem odd_iff_lsb : ∀ sum : BitVec 8, (sum % 2#8 = 1#8) ↔ sum.getLsbD 0 = true := by decide

theorem paritySum_odd (value : BitVec 32) (places : List Nat) (start : BitVec 8) :
    paritySum value places start % 2#8 = 1#8 ↔
      (start.getLsbD 0 ^^ parity (places.map value.getLsbD)) = true := by
  rw [odd_iff_lsb, paritySum_eq, lsb_foldl_add (by omega)]
  have shift (bits : List Bool) (start : Bool) : bits.foldl Bool.xor start = (start ^^ parity bits) := by
    induction bits generalizing start with
    | nil => simp [parity]
    | cons bit bits ih => rw [List.foldl_cons, ih, parity_cons, ← Bool.xor_assoc]
  rw [shift]

/-! ## The header -/

theorem field_eq_iff {width : Nat} (field value : BitVec 32)
    (fieldHigh : ∀ i < 32, width ≤ i → field.getLsbD i = false)
    (valueHigh : ∀ i < 32, width ≤ i → value.getLsbD i = false) :
    field = value ↔ ∀ i < width, field.getLsbD i = value.getLsbD i := by
  constructor
  · rintro rfl _ _
    rfl
  · intro same
    apply BitVec.eq_of_getLsbD_eq
    intro i inside
    by_cases low : i < width
    · exact same i low
    · rw [fieldHigh i inside (by omega), valueHigh i inside (by omega)]

theorem preamble_iff : (cardData.get 0 >>> 24).setWidth 8 = 0x1D#8 ↔
      ∀ place < 8, cardBit cardData place = headerBits.getD place false := by
  have expected : ∀ i < 8, (0x1D#8).getLsbD i = headerBits.getD (7 - i) false := by decide
  have field (i : Nat) (inside : i < 8) :
      ((cardData.get 0 >>> 24).setWidth 8).getLsbD i = cardBit cardData (7 - i) := by
    rw [BitVec.getLsbD_setWidth, decide_eq_true inside, Bool.true_and, BitVec.getLsbD_ushiftRight,
      wordAt_zero, getLsbD_wordAt _ _ (by omega)]
    congr 1
    omega
  constructor
  · intro same place inside
    have bit := congrArg (fun byte : BitVec 8 => byte.getLsbD (7 - place)) same
    simpa only [field _ (show 7 - place < 8 by omega), expected _ (show 7 - place < 8 by omega),
      show 7 - (7 - place) = place by omega] using bit
  · intro header
    apply BitVec.eq_of_getLsbD_eq
    intro i inside
    rw [field i inside, expected i inside, header _ (by omega)]

theorem companyCode_iff : (cardData.get 0 >>> 10) &&& 0x3FFF#32 = 0x1556#32 ↔
      ∀ place, 8 ≤ place → place < 22 → cardBit cardData place = headerBits.getD place false := by
  have mask : ∀ i < 32, (0x3FFF#32).getLsbD i = decide (i < 14) := by decide
  have expected : ∀ i < 14, (0x1556#32).getLsbD i = headerBits.getD (21 - i) false := by decide
  have high : ∀ i < 32, 14 ≤ i → (0x1556#32).getLsbD i = false := by decide
  have field (i : Nat) (inside : i < 14) :
      ((cardData.get 0 >>> 10) &&& 0x3FFF#32).getLsbD i = cardBit cardData (21 - i) := by
    rw [BitVec.getLsbD_and, mask i (by omega), decide_eq_true inside, Bool.and_true,
      BitVec.getLsbD_ushiftRight, wordAt_zero, getLsbD_wordAt _ _ (by omega)]
    congr 1
    omega
  rw [@field_eq_iff 14 _ _ (fun i inside above => by
    rw [BitVec.getLsbD_and, mask i inside, decide_eq_false (by omega), Bool.and_false]) high]
  constructor
  · intro same place low inside
    have bit := same (21 - place) (by omega)
    rwa [field _ (by omega), expected _ (by omega), show 21 - (21 - place) = place by omega] at bit
  · intro header i inside
    rw [field i inside, expected i inside, header _ (by omega) (by omega)]

theorem cardFormat_iff :
    ((cardData.get 0 &&& 0x3FF#32) <<< 12) ||| ((cardData.get 1 >>> 20) &&& 0xFFF#32) = 0x155556#32 ↔
      ∀ place, 22 ≤ place → place < 44 → cardBit cardData place = headerBits.getD place false := by
  have upper : ∀ i < 32, (0x3FF#32).getLsbD i = decide (i < 10) := by decide
  have lower : ∀ i < 32, (0xFFF#32).getLsbD i = decide (i < 12) := by decide
  have expected : ∀ i < 22, (0x155556#32).getLsbD i = headerBits.getD (43 - i) false := by decide
  have high : ∀ i < 32, 22 ≤ i → (0x155556#32).getLsbD i = false := by decide
  have field (i : Nat) (inside : i < 32) :
      (((cardData.get 0 &&& 0x3FF#32) <<< 12) ||| ((cardData.get 1 >>> 20) &&& 0xFFF#32)).getLsbD i =
        (decide (i < 22) && cardBit cardData (43 - i)) := by
    rw [BitVec.getLsbD_or, BitVec.getLsbD_shiftLeft, BitVec.getLsbD_and, BitVec.getLsbD_and,
      BitVec.getLsbD_ushiftRight, upper _ (by omega), lower _ inside, decide_eq_true inside,
      Bool.true_and, wordAt_zero, wordAt_one]
    by_cases second : i < 12
    · rw [decide_eq_true second, decide_eq_true (show i < 22 by omega), getLsbD_wordAt _ 1 (by omega)]
      simp only [Bool.not_true, Bool.false_and, Bool.false_or, Bool.and_true]
      congr 1
      omega
    · rw [decide_eq_false second, getLsbD_wordAt _ 0 (by omega), Bool.and_false, Bool.or_false,
        Bool.not_false, Bool.true_and, Bool.and_comm]
      congr 1
      · rw [decide_eq_decide]
        omega
      · congr 1
        omega
  rw [@field_eq_iff 22 _ _ (fun i inside above => by
    rw [field i inside, decide_eq_false (by omega), Bool.false_and]) high]
  constructor
  · intro same place low inside
    have bit := same (43 - place) (by omega)
    rwa [field _ (by omega), decide_eq_true (by omega), expected _ (by omega),
      show 43 - (43 - place) = place by omega] at bit
  · intro header i inside
    rw [field i (by omega), expected i inside, header _ (by omega) (by omega), decide_eq_true inside, Bool.true_and]

theorem canBeDecoded_checks : protocolH10301CanBeDecoded cardData = true ↔
      (cardData.get 0 >>> 24).setWidth 8 = 0x1D#8 ∧ (cardData.get 0 >>> 10) &&& 0x3FFF#32 = 0x1556#32 ∧
      ((cardData.get 0 &&& 0x3FF#32) <<< 12) ||| ((cardData.get 1 >>> 20) &&& 0xFFF#32) = 0x155556#32 ∧
      ∃ result, (checkPairs (cardData.get 1) 10 0#32 >>= checkPairs (cardData.get 2) 16) = some result ∧
        paritySum result (List.range 13) 0#8 % 2#8 = 1#8 ∧
        ¬ paritySum result ((List.range 13).map (13 + ·)) 0#8 % 2#8 = 1#8 := by
  unfold protocolH10301CanBeDecoded
  split_ifs with preamble company format
  · simp [preamble]
  · simp [company]
  · simp [format]
  rw [not_not] at preamble company format
  cases collected : checkPairs (cardData.get 1) 10 0#32 >>= checkPairs (cardData.get 2) 16 with
  | none => simp
  | some result =>
    dsimp only
    split_ifs with odd even
    · simp [odd]
    · simp [even]
    · rw [not_not] at odd
      exact iff_of_true rfl ⟨preamble, company, format, result, rfl, odd, even⟩

theorem half_places (frame : Nat → Bool) {start : Nat} (half : start ≤ 13) :
    (List.range 13).map (fun i => (ofBits (payloadBits frame) : BitVec 32).getLsbD (start + i)) =
      ((List.range 13).map fun i => payload frame (13 - start + i)).reverse := by
  apply List.ext_getElem
  · simp
  · intro i inside _
    have inside : i < 13 := by simpa using inside
    rw [List.getElem_map, List.getElem_range, List.getElem_reverse, List.getElem_map,
      List.getElem_range, getLsbD_payloadBits _ (by omega)]
    simp only [List.length_map, List.length_range]
    congr 1
    omega

theorem trailing_parity (frame : Nat → Bool) :
    paritySum (ofBits (payloadBits frame)) (List.range 13) 0#8 % 2#8 = 1#8 ↔
      payload frame 25 = !parity ((List.range 12).map fun i => payload frame (13 + i)) := by
  have places := half_places frame (Nat.zero_le 13)
  simp only [Nat.zero_add] at places
  rw [paritySum_odd, places, parity_reverse, List.range_succ, List.map_append, List.map_singleton,
    parity_append_bit]
  cases payload frame 25 <;>
    cases parity ((List.range 12).map fun i => payload frame (13 + i)) <;> decide

theorem leading_parity (frame : Nat → Bool) :
    (¬ paritySum (ofBits (payloadBits frame)) ((List.range 13).map (13 + ·)) 0#8 % 2#8 = 1#8) ↔
      payload frame 0 = parity ((List.range 12).map fun i => payload frame (1 + i)) := by
  have places := half_places frame (Nat.le_refl 13)
  have rest : (List.range 12).map ((fun i => payload frame (13 - 13 + i)) ∘ Nat.succ) =
      (List.range 12).map fun i => payload frame (1 + i) := by
    refine List.map_congr_left fun i _ => ?_
    rw [Function.comp_apply]
    congr 1
    omega
  rw [paritySum_odd, List.map_map, show (ofBits (payloadBits frame) : BitVec 32).getLsbD ∘ (13 + ·) =
    fun i => (ofBits (payloadBits frame) : BitVec 32).getLsbD (13 + i) from rfl, places, parity_reverse,
    List.range_succ_eq_map, List.map_cons, List.map_map, parity_cons, rest]
  cases payload frame 0 <;>
    cases parity ((List.range 12).map fun i => payload frame (1 + i)) <;> decide

/-- **The reader's checks.** A window passes exactly when it has the shape of a frame. -/
theorem canBeDecoded_iff :
    protocolH10301CanBeDecoded cardData = true ↔ FrameShape (cardBit cardData) := by
  rw [canBeDecoded_checks, preamble_iff, companyCode_iff, cardFormat_iff]
  constructor
  · rintro ⟨first, second, third, result, collected, odd, even⟩
    obtain ⟨pairs, rfl⟩ := (checkPairs_words cardData result).mp collected
    refine ⟨fun place inside => ?_, pairs, (leading_parity _).mp even, (trailing_parity _).mp odd⟩
    by_cases preamble : place < 8
    · exact first place preamble
    by_cases company : place < 22
    · exact second place (by omega) company
    · exact third place (by omega) inside
  · intro shaped
    exact ⟨fun place inside => shaped.header place (by omega),
      fun place _ inside => shaped.header place (by omega), fun place _ inside => shaped.header place inside,
      _, (checkPairs_words cardData _).mpr ⟨shaped.pairs, rfl⟩, (trailing_parity _).mpr shaped.trailing,
      (leading_parity _).mpr shaped.leading⟩

theorem decodePairs_words (pairs : ∀ i < 26, cardBit cardData (45 + 2 * i) = !payload (cardBit cardData) i) :
    decodePairs (cardData.get 2) 16 (decodePairs (cardData.get 1) 10 0#32) =
      ofBits (payloadBits (cardBit cardData)) := by
  obtain ⟨first, second⟩ := (pairs_words cardData).mpr pairs
  rw [decodePairs_eq _ _ _ first, decodePairs_eq _ _ _ second, ← List.foldl_append, pairBits_words]
  rfl

theorem getBit_resultBytes (result : BitVec 32) {i : Nat} (inside : i < 24) :
    bitLibGetBit (resultBytes result) i = result.getLsbD (24 - i) := by
  have byte (shift place : Nat) (within : place < 8) :
      ((result >>> shift).setWidth 8).getMsbD place = result.getLsbD (shift + (7 - place)) := by
    rw [BitVec.getMsbD_eq_getLsbD, decide_eq_true within, Bool.true_and, BitVec.getLsbD_setWidth,
      decide_eq_true (by omega), Bool.true_and, BitVec.getLsbD_ushiftRight]
  have bytes (a b c : BitVec 8) :
      byteAt #v[a, b, c] 0 = a ∧ byteAt #v[a, b, c] 1 = b ∧ byteAt #v[a, b, c] 2 = c :=
    ⟨rfl, rfl, rfl⟩
  rw [bitLibGetBit_eq, resultBytes]
  obtain low | middle | high : i / 8 = 0 ∨ i / 8 = 1 ∨ i / 8 = 2 := by omega
  · rw [low, (bytes _ _ _).1, byte _ _ (by omega)]
    congr 1
    omega
  · rw [middle, (bytes _ _ _).2.1, byte _ _ (by omega)]
    congr 1
    omega
  · rw [high, (bytes _ _ _).2.2, byte _ _ (by omega)]
    congr 1
    omega

/-- The reader takes the data bits of a frame out of it. -/
theorem getBit_decode (pairs : ∀ i < 26, cardBit cardData (45 + 2 * i) = !payload (cardBit cardData) i) {i : Nat}
    (inside : i < 24) :
    bitLibGetBit (protocolH10301Decode cardData) i = payload (cardBit cardData) (1 + i) := by
  have decoded : protocolH10301Decode cardData = resultBytes (ofBits (payloadBits (cardBit cardData))) :=
    congrArg resultBytes (decodePairs_words cardData pairs)
  rw [decoded, getBit_resultBytes _ inside, getLsbD_payloadBits _ (by omega)]
  congr 1
  omega

/-! ## The frame of a card -/

variable (data : Bytes 3)

/-- Bit `i` of the card number with the facility code above it. -/
theorem getLsbD_fcCn {i : Nat} (inside : i < 24) :
    (fcCn data).getLsbD i = bitLibGetBit data (23 - i) := by
  have byte (byte : BitVec 8) (shift : Nat) (fits : shift ≤ 16) : ((byte.setWidth 32) <<< shift).getLsbD i =
      (decide (shift ≤ i) && byte.getLsbD (i - shift)) := by
    rw [BitVec.getLsbD_shiftLeft, BitVec.getLsbD_setWidth, decide_eq_true (show i < 32 by omega),
      decide_eq_true (show i - shift < 32 by omega)]
    congr 1
    by_cases low : i < shift
    · simp [low]
    · simp [Nat.not_lt.mp low]
  have last : ((byteAt data 2).setWidth 32).getLsbD i = (byteAt data 2).getLsbD i := by
    rw [BitVec.getLsbD_setWidth, decide_eq_true (by omega), Bool.true_and]
  have seen (index place : Nat) (within : place < 8) :
      (byteAt data index).getLsbD place = bitLibGetBit data (8 * index + (7 - place)) := by
    rw [← getMsbD_byteAt _ _ (by omega), BitVec.getMsbD_eq_getLsbD, decide_eq_true (by omega)]
    congr 1
    omega
  rw [fcCn, BitVec.getLsbD_or, BitVec.getLsbD_or, byte _ 16 (by omega), byte _ 8 (by omega), last]
  by_cases high : 16 ≤ i
  · rw [decide_eq_true high, seen 0 _ (by omega), BitVec.getLsbD_of_ge (byteAt data 1) _ (by omega),
      BitVec.getLsbD_of_ge (byteAt data 2) _ (by omega), Bool.true_and, Bool.and_false, Bool.or_false,
      Bool.or_false]
    congr 1
    omega
  by_cases middle : 8 ≤ i
  · rw [decide_eq_false high, decide_eq_true middle, seen 1 _ (by omega),
      BitVec.getLsbD_of_ge (byteAt data 2) _ (by omega), Bool.true_and, Bool.false_and, Bool.false_or,
      Bool.or_false]
    congr 1
    omega
  · rw [decide_eq_false high, decide_eq_false middle, seen 2 _ (by omega), Bool.false_and,
      Bool.false_and, Bool.false_or, Bool.false_or]
    congr 1
    omega

theorem getD_dataBits {i : Nat} (inside : i < 24) :
    (dataBits (fcCn data)).getD i false = bitLibGetBit data i := by
  have low (word : BitVec 32) (place : Nat) :
      decide ((word >>> place) &&& 1#32 ≠ 0#32) = word.getLsbD place := by
    rw [BitVec.and_one_eq_setWidth_ofBool_getLsbD, BitVec.getLsbD_ushiftRight]
    cases word.getLsbD place <;> rfl
  rw [dataBits, List.getD_eq_getElem?_getD, List.getElem?_map, List.getElem?_range inside]
  refine (low (fcCn data) (23 - i)).trans ?_
  rw [getLsbD_fcCn data (by omega)]
  congr 1
  omega

/-- Twelve bits of the number, from the last one back. -/
theorem half_number {start : Nat} (half : start ≤ 12) :
    (List.range 12).map (fun i => (fcCn data).getLsbD (start + i)) =
      ((List.range 12).map fun i => bitLibGetBit data (12 - start + i)).reverse := by
  apply List.ext_getElem
  · simp
  · intro i inside _
    have inside : i < 12 := by simpa using inside
    rw [List.getElem_map, List.getElem_range, List.getElem_reverse, List.getElem_map,
      List.getElem_range, getLsbD_fcCn _ (by omega)]
    simp only [List.length_map, List.length_range]
    congr 1
    omega

theorem not_even_iff : ∀ sum : BitVec 8, sum % 2#8 ≠ 0#8 ↔ sum % 2#8 = 1#8 := by decide

theorem evenParityBit_eq :
    evenParityBit (fcCn data) = parity ((List.range 12).map (bitLibGetBit data)) := by
  have places := half_number data (Nat.le_refl 12)
  rw [Bool.eq_iff_iff, evenParityBit, decide_eq_true_eq, not_even_iff, paritySum_odd, List.map_map,
    show (fcCn data).getLsbD ∘ (12 + ·) = fun i => (fcCn data).getLsbD (12 + i) from rfl, places,
    parity_reverse]
  simp

theorem oddParityBit_eq :
    oddParityBit (fcCn data) = !parity ((List.range 12).map fun i => bitLibGetBit data (12 + i)) := by
  have places := half_number data (Nat.zero_le 12)
  simp only [Nat.zero_add] at places
  rw [Bool.eq_iff_iff, oddParityBit, decide_eq_true_eq, not_even_iff, paritySum_odd, places, parity_reverse]
  simp

theorem run_lengths (fcCn : BitVec 32) : preamble.length = 8 ∧ companyCode.length = 7 ∧
    cardFormat.length = 11 ∧ (dataBits fcCn).length = 24 :=
  ⟨rfl, rfl, rfl, by simp [dataBits]⟩

theorem cardBit_encode_header {place : Nat} (header : place < 44) :
    cardBit (protocolH10301Encode data) place = headerBits.getD place false := by
  have company : ∀ place < 22, 8 ≤ place →
      (((place - 8) % 2 == 1) ^^ companyCode.getD ((place - 8) / 2) false) = headerBits.getD place false := by
    decide
  have format : ∀ place < 44, 22 ≤ place →
      (((place - 22) % 2 == 1) ^^ cardFormat.getD ((place - 22) / 2) false) = headerBits.getD place false := by
    decide
  have raw : ∀ place < 8, preamble.getD place false = headerBits.getD place false := by decide
  obtain ⟨eight, seven, eleven, _⟩ := run_lengths (fcCn data)
  rw [protocolH10301Encode, cardBit_writeBits _ _ (by simp), if_neg (by omega),
    cardBit_writeBits _ _ (by omega), if_neg (by omega), cardBit_writeBits _ _ (by simp),
    if_neg (by omega), cardBit_writeBits _ _ (by omega)]
  by_cases third : 22 ≤ place
  · rw [if_pos (by omega), format place header third]
  rw [if_neg (by omega), cardBit_writeBits _ _ (by omega)]
  by_cases second : 8 ≤ place
  · rw [if_pos (by omega), company place (by omega) second]
  · rw [if_neg (by omega), cardBit_writeRawBits _ _ (by omega), if_pos (by omega), Nat.sub_zero, raw _ (by omega)]

theorem cardBit_encode_payload {place : Nat} (late : 44 ≤ place) (inside : place < 96) :
    cardBit (protocolH10301Encode data) place = (place % 2 == 1 ^^ if place < 46 then evenParityBit (fcCn data)
        else if place < 94 then bitLibGetBit data ((place - 46) / 2) else oddParityBit (fcCn data)) := by
  obtain ⟨_, _, _, twentyFour⟩ := run_lengths (fcCn data)
  rw [protocolH10301Encode, cardBit_writeBits _ _ (by simp)]
  by_cases closing : 94 ≤ place
  · rw [if_pos (by simp; omega), show (place - 94) % 2 = place % 2 by omega,
      show (place - 94) / 2 = 0 by omega, if_neg (by omega), if_neg (by omega)]
    rfl
  rw [if_neg (by omega), cardBit_writeBits _ _ (by omega)]
  by_cases middle : 46 ≤ place
  · rw [if_pos (by omega), show (place - 46) % 2 = place % 2 by omega, getD_dataBits data (by omega),
      if_neg (by omega), if_pos (by omega)]
  · rw [if_neg (by omega), cardBit_writeBits _ _ (by simp), if_pos (by simp; omega),
      show (place - 44) % 2 = place % 2 by omega, show (place - 44) / 2 = 0 by omega, if_pos (by omega)]
    rfl

theorem payload_encode {i : Nat} (inside : i < 24) :
    payload (cardBit (protocolH10301Encode data)) (1 + i) = bitLibGetBit data i := by
  rw [payload, cardBit_encode_payload data (by omega) (by omega), if_neg (by omega), if_pos (by omega),
    show (44 + 2 * (1 + i) - 46) / 2 = i by omega]
  simp

theorem shaped_encode : FrameShape (cardBit (protocolH10301Encode data)) where
  header _ inside := cardBit_encode_header data inside
  pairs i inside := by
    rw [payload, cardBit_encode_payload data (by omega) (by omega),
      cardBit_encode_payload data (by omega) (by omega), show (45 + 2 * i - 46) / 2 = (44 + 2 * i - 46) / 2 by omega,
      if_congr (show 45 + 2 * i < 46 ↔ 44 + 2 * i < 46 by omega) rfl
        (if_congr (show 45 + 2 * i < 94 ↔ 44 + 2 * i < 94 by omega) rfl rfl)]
    simp
  leading := by
    have data' : (List.range 12).map (fun i => payload (cardBit (protocolH10301Encode data)) (1 + i)) =
        (List.range 12).map (bitLibGetBit data) :=
      List.map_congr_left fun i inside => payload_encode data (by
        have inside := List.mem_range.mp inside
        omega)
    rw [data', payload, cardBit_encode_payload data (by omega) (by omega), evenParityBit_eq]
    simp
  trailing := by
    have data' : (List.range 12).map (fun i => payload (cardBit (protocolH10301Encode data)) (13 + i)) =
        (List.range 12).map fun i => bitLibGetBit data (12 + i) :=
      List.map_congr_left fun i inside => by
        have inside := List.mem_range.mp inside
        rw [show 13 + i = 1 + (12 + i) by omega, payload_encode data (by omega)]
    rw [data', payload, cardBit_encode_payload data (by omega) (by omega), oddParityBit_eq]
    simp

/-- A card's own frame is read back as its data. -/
theorem decode_encode : protocolH10301Decode (protocolH10301Encode data) = data := by
  apply bytes_ext
  intro place inside
  rw [getBit_decode _ (shaped_encode data).pairs inside, payload_encode data inside]

/-- A window that passes the checks is the frame of the data taken out of it. -/
theorem encode_decode {cardData : CardData} (accepted : protocolH10301CanBeDecoded cardData = true) :
    protocolH10301Encode (protocolH10301Decode cardData) = cardData := by
  have shaped := (canBeDecoded_iff cardData).mp accepted
  apply cardData_ext
  exact (shaped_encode _).ext shaped fun i inside => by
    rw [payload_encode _ inside, getBit_decode _ shaped.pairs inside]

/-- **Windows and cards.** A window of 96 bits is accepted exactly when it is
the frame of some card, and then the card read out of it is that one: encoding
and decoding are inverse to each other on the accepted windows. -/
theorem h10301_accepts_exactly_the_frames (window : CardData) :
    (protocolH10301CanBeDecoded window = true ↔ ∃ card, protocolH10301Encode card = window) ∧
      (∀ card, protocolH10301Encode card = window → protocolH10301Decode window = card) ∧
      (protocolH10301CanBeDecoded window = true →
        protocolH10301Encode (protocolH10301Decode window) = window) := by
  refine ⟨⟨fun accepted => ⟨_, encode_decode accepted⟩, ?_⟩, ?_, encode_decode⟩
  · rintro ⟨card, rfl⟩
    exact (canBeDecoded_iff _).mpr (shaped_encode card)
  · rintro card rfl
    exact decode_encode card

end Xtreme.LfRfid.H10301
