import Xtreme.SubGhz.SecPlusV2
import Mathlib.Tactic.IntervalCases

/-! Security+ 2.0 codes from the encoder to the decoder and back. -/
namespace Xtreme.SubGhz
open Xtreme.Library

theorem mixOrder_iff (order : Nat) (p q : SecPlusV2Mix) :
    mixOrderEncode order p = some q ↔ mixOrderDecode order q = some p := by
  obtain ⟨p0, p1, p2⟩ := p
  obtain ⟨q0, q1, q2⟩ := q
  unfold mixOrderEncode mixOrderDecode
  split <;> simp <;> tauto

theorem mixInvert_twice {invert : Nat} {p q : SecPlusV2Mix} (inverted : mixInvert invert p = some q) :
    mixInvert invert q = some p := by
  unfold mixInvert at inverted ⊢
  split at inverted <;> cases inverted <;> simp

/-- A bit of the mixed buffers. -/
def mixBit (p : SecPlusV2Mix) (place : Nat) : Bool :=
  if place % 3 = 2 then p.p0.getLsbD (place / 3)
  else if place % 3 = 1 then p.p1.getLsbD (place / 3)
  else p.p2.getLsbD (place / 3)

theorem push_three (data : BitVec 64) (first second third : Bool) :
    (data <<< 3) ||| ((BitVec.ofBool first).setWidth 64 <<< 2 ||| (BitVec.ofBool second).setWidth 64 <<< 1 |||
      (BitVec.ofBool third).setWidth 64) =
      ShiftRegister.push (ShiftRegister.push (ShiftRegister.push data first) second) third := by
  apply BitVec.eq_of_getLsbD_eq
  intro place inside
  unfold ShiftRegister.push
  match place with
  | 0 => simp
  | 1 => simp
  | 2 => simp
  | place + 3 => simp [inside]

theorem getLsbD_mixBits (p : SecPlusV2Mix) {place : Nat} (inside : place < 64) :
    (mixBits p).getLsbD place = (decide (place < 30) && mixBit p place) := by
  have pushed : mixBits p = ShiftRegister.ofBits ((List.range 30).map fun place => mixBit p (29 - place)) := by
    unfold mixBits bitRead
    simp only [push_three]
    rfl
  rw [pushed, ShiftRegister.getLsbD_ofBits _ inside]
  by_cases low : place < 30
  · simp [low, show 29 - (29 - place) = place by omega]
  · simp [low]

theorem getLsbD_mixOf (data : BitVec 64) {place : Nat} (inside : place < 10) :
    (mixOf data).p0.getLsbD place = data.getLsbD (3 * place + 2) ∧
      (mixOf data).p1.getLsbD place = data.getLsbD (3 * place + 1) ∧
      (mixOf data).p2.getLsbD place = data.getLsbD (3 * place) := by
  have read (bit : Nat → Bool) :
      (((List.range 10).map fun round => 29 - 3 * round).map bit |>.foldl ShiftRegister.push (0 : BitVec 10)).getLsbD place =
        bit (3 * place + 2) := by
    have bits := @ShiftRegister.getLsbD_ofBits 10 (((List.range 10).map fun round => 29 - 3 * round).map bit) place inside
    refine bits.trans ?_
    rw [List.getElem?_reverse (by simpa using inside)]
    have same : 29 - 3 * (10 - 1 - place) = 3 * place + 2 := by omega
    simp [List.getElem?_range (show 10 - 1 - place < 10 by omega), ← same]
  exact ⟨read data.getLsbD, read fun i => data.getLsbD (i - 1), read fun i => data.getLsbD (i - 2)⟩

/-- The buffers that were mixed are found again, whatever stands above them. -/
theorem mixOf_mixBits (p : SecPlusV2Mix) {data : BitVec 64}
    (mixed : ∀ place < 30, data.getLsbD place = (mixBits p).getLsbD place) : mixOf data = p := by
  obtain ⟨p0, p1, p2⟩ := p
  have bit {place : Nat} (low : place < 30) : data.getLsbD place = mixBit ⟨p0, p1, p2⟩ place := by
    rw [mixed place low, getLsbD_mixBits _ (by omega), decide_eq_true low, Bool.true_and]
  have same : (mixOf data).p0 = p0 ∧ (mixOf data).p1 = p1 ∧ (mixOf data).p2 = p2 := by
    refine ⟨BitVec.eq_of_getLsbD_eq fun place inside => ?_, BitVec.eq_of_getLsbD_eq fun place inside => ?_,
      BitVec.eq_of_getLsbD_eq fun place inside => ?_⟩
    · rw [(getLsbD_mixOf data inside).1, bit (by omega), mixBit, if_pos (by omega), show (3 * place + 2) / 3 = place by omega]
    · rw [(getLsbD_mixOf data inside).2.1, bit (by omega), mixBit, if_neg (by omega), if_pos (by omega),
        show (3 * place + 1) / 3 = place by omega]
    · rw [(getLsbD_mixOf data inside).2.2, bit (by omega), mixBit, if_neg (by omega), if_neg (by omega),
        show 3 * place / 3 = place by omega]
  exact SecPlusV2Mix.ext_iff.mpr same

theorem mixBits_mixOf (data : BitVec 64) {place : Nat} (low : place < 30) :
    (mixBits (mixOf data)).getLsbD place = data.getLsbD place := by
  have read := getLsbD_mixOf data (show place / 3 < 10 by omega)
  rw [getLsbD_mixBits _ (by omega), decide_eq_true low, Bool.true_and, mixBit, read.1, read.2.1, read.2.2]
  split
  · rw [show 3 * (place / 3) + 2 = place by omega]
  · split
    · rw [show 3 * (place / 3) + 1 = place by omega]
    · rw [show 3 * (place / 3) = place by omega]

/-! ## Half packets -/

theorem getLsbD_half (p : SecPlusV2Mix) {order invert : Nat} (inverts : invert < 16)
    {place : Nat} (inside : place < 64) :
    (mixBits p ||| (BitVec.ofNat 64 order <<< 34 ||| BitVec.ofNat 64 invert <<< 30)).getLsbD place =
      if place < 30 then (mixBits p).getLsbD place
      else if place < 34 then invert.testBit (place - 30)
      else order.testBit (place - 34) := by
  have clear {number bit : Nat} (small : number < 16) (above : 4 ≤ bit) : number.testBit bit = false :=
    Nat.testBit_lt_two_pow (Nat.lt_of_lt_of_le small (Nat.pow_le_pow_right Nat.two_pos above))
  rw [BitVec.getLsbD_or, BitVec.getLsbD_or, BitVec.getLsbD_shiftLeft, BitVec.getLsbD_shiftLeft, BitVec.getLsbD_ofNat,
    BitVec.getLsbD_ofNat, decide_eq_true inside]
  by_cases mixed : place < 30
  · simp [mixed, show place < 34 by omega]
  · have free : (mixBits p).getLsbD place = false := by
      rw [getLsbD_mixBits _ inside, decide_eq_false mixed, Bool.false_and]
    by_cases lower : place < 34
    · simp [lower, free, show place - 30 < 64 by omega]
    · simp [mixed, free, show place - 34 < 64 by omega, clear inverts (show 4 ≤ place - 30 by omega)]

theorem mixOrderEncode_some {first second : Nat} (low : first < 3) (low' : second < 3) (p : SecPlusV2Mix) :
    ∃ q, mixOrderEncode (4 * first + second) p = some q := by
  interval_cases first <;> interval_cases second <;> exact ⟨_, rfl⟩

theorem mixInvert_some {first second : Nat} (low : first < 3) (low' : second < 3) (p : SecPlusV2Mix) :
    ∃ q, mixInvert (4 * first + second) p = some q := by
  interval_cases first <;> interval_cases second <;> exact ⟨_, rfl⟩

structure IsRoll (rollArray : List Nat) : Prop where
  length : rollArray.length = 9
  digits : ∀ digit ∈ rollArray, digit < 3

def rollOrder (rollArray : List Nat) : Nat := numeralValue 4 (rollArray.take 2)

def rollInvert (rollArray : List Nat) : Nat := numeralValue 4 ((rollArray.drop 2).take 2)

/-- What is mixed to a half packet. -/
def unmixed (rollArray : List Nat) (fixed : BitVec 32) : SecPlusV2Mix :=
  ⟨(fixed >>> 10).setWidth 10, fixed.setWidth 10, BitVec.ofNat 10 (numeralValue 4 (rollArray.drop 4))⟩

section
variable {rollArray : List Nat}

theorem IsRoll.explicit (roll : IsRoll rollArray) : ∃ a b c d e f g h i,
    rollArray = [a, b, c, d, e, f, g, h, i] ∧ a < 3 ∧ b < 3 ∧ c < 3 ∧ d < 3 := by
  obtain ⟨length, digits⟩ := roll
  match rollArray, length with
  | [a, b, c, d, e, f, g, h, i], _ =>
    exact ⟨a, b, c, d, e, f, g, h, i, rfl, digits a (by simp), digits b (by simp), digits c (by simp), digits d (by simp)⟩

/-- A half packet has an order and an inversion that the mixing knows. -/
theorem IsRoll.mixes (roll : IsRoll rollArray) (p : SecPlusV2Mix) :
    rollOrder rollArray < 16 ∧ rollInvert rollArray < 16 ∧
      ∃ q mixed, mixOrderEncode (rollOrder rollArray) p = some q ∧ mixInvert (rollInvert rollArray) q = some mixed := by
  obtain ⟨a, b, c, d, e, f, g, h, i, rfl, lowA, lowB, lowC, lowD⟩ := roll.explicit
  have order : rollOrder [a, b, c, d, e, f, g, h, i] = 4 * a + b := by simp [rollOrder, numeralValue]
  have invert : rollInvert [a, b, c, d, e, f, g, h, i] = 4 * c + d := by simp [rollInvert, numeralValue]
  rw [order, invert]
  obtain ⟨q, ordered⟩ := mixOrderEncode_some lowA lowB p
  obtain ⟨mixed, inverted⟩ := mixInvert_some lowC lowD q
  exact ⟨by omega, by omega, q, mixed, ordered, inverted⟩

/-- The digits of a roll array stand in its order, its inversion and its third
buffer. -/
theorem IsRoll.digits_eq (roll : IsRoll rollArray) (fixed : BitVec 32) :
    fixedNumeral 4 4 (rollOrder rollArray * 16 + rollInvert rollArray) ++
      fixedNumeral 4 5 (unmixed rollArray fixed).p2.toNat = rollArray := by
  have heads := @fixedNumeral_numeralValue 4 (rollArray.take 4) fun digit member =>
    Nat.lt_succ_of_lt (roll.digits digit (List.mem_of_mem_take member))
  have tail := @fixedNumeral_numeralValue 4 (rollArray.drop 4) fun digit member =>
    Nat.lt_succ_of_lt (roll.digits digit (List.mem_of_mem_drop member))
  obtain ⟨a, b, c, d, e, f, g, h, i, rfl, -⟩ := roll.explicit
  have value : numeralValue 4 [a, b, c, d] = rollOrder [a, b, c, d, e, f, g, h, i] * 16 +
      rollInvert [a, b, c, d, e, f, g, h, i] := by
    simp [numeralValue, rollOrder, rollInvert]
    omega
  have third : (unmixed [a, b, c, d, e, f, g, h, i] fixed).p2.toNat = numeralValue 4 [e, f, g, h, i] % 4 ^ 5 := by
    simp [unmixed]
  have wraps (number : Nat) : fixedNumeral 4 5 (number % 4 ^ 5) = fixedNumeral 4 5 number := by
    simp [fixedNumeral]
    omega
  rw [third, wraps, ← value]
  exact congrArg₂ _ heads tail

/-- The digits that the decoder finds are those that select order and inversion. -/
theorem rollOf_parts {order invert third : Nat} (orders : order < 16) (inverts : invert < 16) (thirds : third < 4 ^ 5) :
    rollOrder (fixedNumeral 4 4 (order * 16 + invert) ++ fixedNumeral 4 5 third) = order ∧
      rollInvert (fixedNumeral 4 4 (order * 16 + invert) ++ fixedNumeral 4 5 third) = invert ∧
      numeralValue 4 ((fixedNumeral 4 4 (order * 16 + invert) ++ fixedNumeral 4 5 third).drop 4) = third := by
  refine ⟨?_, ?_, ?_⟩
  · simp [fixedNumeral, rollOrder, numeralValue]
    omega
  · simp [fixedNumeral, rollInvert, numeralValue]
    omega
  · rw [List.drop_left' (by simp), numeralValue_fixedNumeral, Nat.mod_eq_of_lt thirds]

theorem encodeHalf_eq {fixed : BitVec 32} {q mixed : SecPlusV2Mix}
    (ordered : mixOrderEncode (rollOrder rollArray) (unmixed rollArray fixed) = some q)
    (inverted : mixInvert (rollInvert rollArray) q = some mixed) :
    encodeHalf rollArray fixed =
      mixBits mixed ||| (BitVec.ofNat 64 (rollOrder rollArray) <<< 34 ||| BitVec.ofNat 64 (rollInvert rollArray) <<< 30) := by
  have mixes : (mixOrderEncode (rollOrder rollArray) (unmixed rollArray fixed) >>= mixInvert (rollInvert rollArray)) =
      some mixed := by
    rw [ordered]
    exact inverted
  simp only [rollOrder, rollInvert, unmixed] at mixes
  simp only [encodeHalf, mixes, rollOrder, rollInvert]

theorem fields_of_half {data : BitVec 64} {mixed : SecPlusV2Mix} {order invert : Nat} (orders : order < 16)
    (inverts : invert < 16) (same : ∀ place < 38, data.getLsbD place =
      (mixBits mixed ||| (BitVec.ofNat 64 order <<< 34 ||| BitVec.ofNat 64 invert <<< 30)).getLsbD place) :
    orderOf data = order ∧ invertOf data = invert ∧ mixOf data = mixed := by
  have field {number : Nat} (small : number < 16) (place : Nat)
      (bits : ∀ bit < 4, data.getLsbD (place + bit) = number.testBit bit) :
      ((data >>> place).setWidth 4).toNat = number := by
    have word : (data >>> place).setWidth 4 = BitVec.ofNat 4 number := by
      apply BitVec.eq_of_getLsbD_eq
      intro bit inside
      rw [BitVec.getLsbD_setWidth, decide_eq_true inside, BitVec.getLsbD_ushiftRight, bits bit inside,
        BitVec.getLsbD_ofNat, decide_eq_true inside]
    rw [word]
    exact Nat.mod_eq_of_lt small
  refine ⟨field orders 34 fun bit inside => ?_, field inverts 30 fun bit inside => ?_, mixOf_mixBits mixed fun place low => ?_⟩
  · rw [same _ (by omega), getLsbD_half mixed inverts (by omega), if_neg (by omega), if_neg (by omega),
      Nat.add_sub_cancel_left]
  · rw [same _ (by omega), getLsbD_half mixed inverts (by omega), if_neg (by omega), if_pos (by omega),
      Nat.add_sub_cancel_left]
  · rw [same _ (by omega), getLsbD_half mixed inverts (by omega), if_pos low]

theorem field_bits (data : BitVec 64) {place bit : Nat} (inside : bit < 4) :
    ((data >>> place).setWidth 4).toNat.testBit bit = data.getLsbD (place + bit) := by
  rw [BitVec.testBit_toNat, BitVec.getLsbD_setWidth, decide_eq_true inside, Bool.true_and, BitVec.getLsbD_ushiftRight]

/-- The two words of ten bits that make the fixed part. -/
theorem fixed_join (first second : BitVec 10) :
    ((first.setWidth 32 <<< 10 ||| second.setWidth 32 : BitVec 32) >>> 10).setWidth 10 = first ∧
      (first.setWidth 32 <<< 10 ||| second.setWidth 32 : BitVec 32).setWidth 10 = second ∧
      (first.setWidth 32 <<< 10 ||| second.setWidth 32 : BitVec 32).toNat < 2 ^ 20 := by
  refine ⟨?_, ?_, ?_⟩
  · apply BitVec.eq_of_getLsbD_eq
    intro place inside
    simp [inside, show 10 + place < 32 by omega]
  · apply BitVec.eq_of_getLsbD_eq
    intro place inside
    simp [inside]
  · refine Nat.lt_pow_two_of_testBit _ fun place above => ?_
    rw [BitVec.testBit_toNat]
    simp [BitVec.getLsbD_of_ge first (place - 10) (by omega), BitVec.getLsbD_of_ge second place (by omega)]

theorem join_fixed {fixed : BitVec 32} (small : fixed.toNat < 2 ^ 20) :
    ((fixed >>> 10).setWidth 10).setWidth 32 <<< 10 ||| (fixed.setWidth 10).setWidth 32 = fixed := by
  apply BitVec.eq_of_getLsbD_eq
  intro place inside
  by_cases low : place < 10
  · simp [low, inside]
  · by_cases high : place < 20
    · simp [low, inside, show place - 10 < 10 by omega, show 10 + (place - 10) = place by omega]
    · have clear : fixed.getLsbD place = false :=
        Nat.testBit_lt_two_pow (Nat.lt_of_lt_of_le small (Nat.pow_le_pow_right Nat.two_pos (by omega)))
      simp [clear, show ¬ place - 10 < 10 by omega]

/-- **A half packet is decoded to what it was made of**, whatever stands above its 38
bits. -/
theorem decodeHalf_of_encodeHalf (roll : IsRoll rollArray) {fixed : BitVec 32} (small : fixed.toNat < 2 ^ 20)
    {data : BitVec 64} (same : ∀ place < 38, data.getLsbD place = (encodeHalf rollArray fixed).getLsbD place) :
    decodeHalf data = some (rollArray, fixed) := by
  obtain ⟨orders, inverts, q, mixed, ordered, inverted⟩ := roll.mixes (unmixed rollArray fixed)
  rw [encodeHalf_eq ordered inverted] at same
  obtain ⟨order, invert, mix⟩ := fields_of_half orders inverts same
  have digits := roll.digits_eq fixed
  have none3 : ∀ digit ∈ rollArray, digit ≠ 3 := fun digit member => Nat.ne_of_lt (roll.digits digit member)
  unfold decodeHalf
  simp only [order, invert, mix, mixInvert_twice inverted, (mixOrder_iff _ _ _).mp ordered, Option.bind_eq_bind,
    Option.bind_some, digits]
  rw [if_pos none3]
  exact congrArg (fun word => some (rollArray, word)) (join_fixed small)

theorem encodeHalf_of_decodeHalf {fixed : BitVec 32} {data : BitVec 64}
    (decoded : decodeHalf data = some (rollArray, fixed)) :
    IsRoll rollArray ∧ fixed.toNat < 2 ^ 20 ∧
      ∀ place < 64, (encodeHalf rollArray fixed).getLsbD place = (decide (place < 38) && data.getLsbD place) := by
  have orders : orderOf data < 16 := ((data >>> 34).setWidth 4).isLt
  have inverts : invertOf data < 16 := ((data >>> 30).setWidth 4).isLt
  unfold decodeHalf at decoded
  cases inverted : mixInvert (invertOf data) (mixOf data) with
  | none =>
    rw [inverted] at decoded
    exact nomatch decoded
  | some p =>
    cases ordered : mixOrderDecode (orderOf data) p with
    | none =>
      simp only [inverted, ordered, Option.bind_eq_bind, Option.bind_some] at decoded
      exact nomatch decoded
    | some q =>
      simp only [inverted, ordered, Option.bind_eq_bind, Option.bind_some] at decoded
      split at decoded
      · rename_i digits
        cases decoded
        obtain ⟨order, invert, third⟩ := rollOf_parts orders inverts q.p2.isLt
        obtain ⟨first, second, small⟩ := fixed_join q.p0 q.p1
        have roll : IsRoll (fixedNumeral 4 4 (orderOf data * 16 + invertOf data) ++ fixedNumeral 4 5 q.p2.toNat) := by
          refine ⟨by simp, fun digit member => ?_⟩
          have below : digit < 4 := by
            rcases List.mem_append.mp member with early | late
            · exact digit_lt_of_mem_fixedNumeral (by decide) early
            · exact digit_lt_of_mem_fixedNumeral (by decide) late
          have three := digits digit member
          omega
        have mix : unmixed (fixedNumeral 4 4 (orderOf data * 16 + invertOf data) ++ fixedNumeral 4 5 q.p2.toNat)
            (q.p0.setWidth 32 <<< 10 ||| q.p1.setWidth 32) = q := by
          rw [unmixed, first, second, third, BitVec.ofNat_toNat, BitVec.setWidth_eq]
        refine ⟨roll, small, fun place inside => ?_⟩
        rw [encodeHalf_eq (by rw [order, mix]; exact (mixOrder_iff _ _ _).mpr ordered)
          (by rw [invert]; exact mixInvert_twice inverted), order, invert, getLsbD_half _ inverts inside]
        split
        · rename_i low
          rw [mixBits_mixOf data low, decide_eq_true (by omega), Bool.true_and]
        · split
          · rw [invertOf, field_bits data (by omega), decide_eq_true (by omega), Bool.true_and,
              show 30 + (place - 30) = place by omega]
          · by_cases low : place < 38
            · rw [orderOf, field_bits data (by omega), decide_eq_true low, Bool.true_and,
                show 34 + (place - 34) = place by omega]
            · rw [decide_eq_false low]
              exact Nat.testBit_lt_two_pow (Nat.lt_of_lt_of_le orders (Nat.pow_le_pow_right Nat.two_pos
                (show 4 ≤ place - 34 by omega)))
      · exact nomatch decoded

end

/-! ## Messages -/

theorem gather_deal {digits : List Nat} (length : digits.length = 18) :
    gatherDigits (dealDigits digits).1 (dealDigits digits).2 = digits := by
  match digits, length with
  | [_, _, _, _, _, _, _, _, _, _, _, _, _, _, _, _, _, _], _ => rfl

theorem deal_gather {roll1 roll2 : List Nat} (length1 : roll1.length = 9) (length2 : roll2.length = 9) :
    dealDigits (gatherDigits roll1 roll2) = (roll1, roll2) := by
  match roll1, roll2, length1, length2 with
  | [_, _, _, _, _, _, _, _, _], [_, _, _, _, _, _, _, _, _], _, _ => rfl

theorem isRoll_deal {digits : List Nat} (small : ∀ digit ∈ digits, digit < 3) :
    IsRoll (dealDigits digits).1 ∧ IsRoll (dealDigits digits).2 := by
  have each (place : Nat) : digits.getD place 0 < 3 := by
    rw [List.getD_eq_getElem?_getD]
    cases found : digits[place]? with
    | none => decide
    | some digit => exact small digit (List.mem_of_getElem? found)
  refine ⟨⟨rfl, ?_⟩, ⟨rfl, ?_⟩⟩
  · simp only [dealDigits, List.mem_cons, List.not_mem_nil, or_false, forall_eq_or_imp, forall_eq, each, and_self]
  · simp only [dealDigits, List.mem_cons, List.not_mem_nil, or_false, forall_eq_or_imp, forall_eq, each, and_self]

theorem fixed_parts (btn : BitVec 8) (serial : BitVec 32) :
    (btn.setWidth 32 <<< 12 ||| serial >>> 20 : BitVec 32).toNat < 2 ^ 20 ∧ (serial &&& 0xFFFFF#32).toNat < 2 ^ 20 ∧
      ((btn.setWidth 32 <<< 12 ||| serial >>> 20 : BitVec 32) >>> 12).setWidth 8 = btn ∧
      (btn.setWidth 32 <<< 12 ||| serial >>> 20 : BitVec 32) <<< 20 ||| (serial &&& 0xFFFFF#32) = serial := by
  have mask : 0xFFFFF#32 = BitVec.ofNat 32 (2 ^ 20 - 1) := rfl
  have masked (place : Nat) : (serial &&& 0xFFFFF#32).getLsbD place = (decide (place < 20) && serial.getLsbD place) := by
    rw [BitVec.getLsbD_and, mask, BitVec.getLsbD_ofNat, Nat.testBit_two_pow_sub_one, Bool.and_comm]
    by_cases inside : place < 32
    · simp [inside]
    · simp [BitVec.getLsbD_of_ge serial place (by omega)]
  refine ⟨?_, ?_, ?_, ?_⟩
  · refine Nat.lt_pow_two_of_testBit _ fun place above => ?_
    rw [BitVec.testBit_toNat]
    simp [BitVec.getLsbD_of_ge btn (place - 12) (by omega), BitVec.getLsbD_of_ge serial (20 + place) (by omega)]
  · refine Nat.lt_pow_two_of_testBit _ fun place above => ?_
    rw [BitVec.testBit_toNat, masked, decide_eq_false (Nat.not_lt.mpr above), Bool.false_and]
  · apply BitVec.eq_of_getLsbD_eq
    intro place inside
    simp [inside, show 12 + place < 32 by omega, BitVec.getLsbD_of_ge serial (20 + (12 + place)) (by omega)]
  · apply BitVec.eq_of_getLsbD_eq
    intro place inside
    rw [BitVec.getLsbD_or, masked]
    by_cases low : place < 20
    · simp [low]
    · simp [low, inside, show place - 20 < 12 by omega, show 20 + (place - 20) = place by omega]

theorem parts_fixed {fixed1 fixed2 : BitVec 32} (small1 : fixed1.toNat < 2 ^ 20) (small2 : fixed2.toNat < 2 ^ 20) :
    ((fixed1 >>> 12).setWidth 8).setWidth 32 <<< 12 ||| (fixed1 <<< 20 ||| fixed2) >>> 20 = fixed1 ∧
      (fixed1 <<< 20 ||| fixed2) &&& 0xFFFFF#32 = fixed2 := by
  have clear {word : BitVec 32} (small : word.toNat < 2 ^ 20) {place : Nat} (above : 20 ≤ place) :
      word.getLsbD place = false :=
    Nat.testBit_lt_two_pow (Nat.lt_of_lt_of_le small (Nat.pow_le_pow_right Nat.two_pos above))
  have mask : 0xFFFFF#32 = BitVec.ofNat 32 (2 ^ 20 - 1) := rfl
  refine ⟨?_, ?_⟩
  · apply BitVec.eq_of_getLsbD_eq
    intro place inside
    rw [BitVec.getLsbD_or, BitVec.getLsbD_ushiftRight, BitVec.getLsbD_or, clear small2 (show 20 ≤ 20 + place by omega)]
    by_cases low : place < 12
    · simp [low, inside, show 20 + place < 32 by omega]
    · by_cases high : place < 20
      · simp [low, inside, show place - 12 < 8 by omega,
          show 12 + (place - 12) = place by omega]
      · simp [show ¬ place - 12 < 8 by omega, clear small1 (Nat.not_lt.mp high)]
  · apply BitVec.eq_of_getLsbD_eq
    intro place inside
    rw [BitVec.getLsbD_and, mask, BitVec.getLsbD_ofNat, Nat.testBit_two_pow_sub_one]
    by_cases low : place < 20
    · simp [low, inside]
    · simp [low, clear small2 (Nat.not_lt.mp low)]

theorem header_or (header half : BitVec 64) (free : ∀ place < 38, header.getLsbD place = false) {place : Nat}
    (low : place < 38) : (header ||| half).getLsbD place = half.getLsbD place := by
  rw [BitVec.getLsbD_or, free place low, Bool.false_or]

theorem header1_free : ∀ place < 38, secplusV2Header1.getLsbD place = false := by decide

theorem header2_free : ∀ place < 38, secplusV2Header2.getLsbD place = false := by decide

theorem nextCnt_lt (mult : BitVec 8) (cnt : BitVec 32) : (secplusV2NextCnt mult cnt).toNat < 2 ^ 28 := by
  unfold secplusV2NextCnt
  simp only
  split
  · decide
  · rename_i small
    have bound := BitVec.not_lt.mp small
    exact Nat.lt_of_le_of_lt bound (by decide)

theorem remoteController_of {custom : SubGhzCustomBtn} {instanc : SubGhzBlockGeneric} {packet1 : BitVec 64}
    {roll1 roll2 : List Nat} {fixed1 fixed2 : BitVec 32} (first : decodeHalf packet1 = some (roll1, fixed1))
    (second : decodeHalf instanc.data = some (roll2, fixed2))
    (small : numeralValue 3 (gatherDigits roll1 roll2) < 0x10000000) :
    (secplusV2RemoteController custom instanc packet1).1 =
      { instanc with
        cnt := (reverseKey (BitVec.ofNat 64 (numeralValue 3 (gatherDigits roll1 roll2))) 28).setWidth 32
        btn := (fixed1 >>> 12).setWidth 8
        serial := fixed1 <<< 20 ||| fixed2 } := by
  unfold secplusV2RemoteController
  simp only [first, second, if_neg (Nat.not_le.mpr small)]

/-- Both half packets are well formed, and their digits make a rolling value in
range. -/
def Decodes (packet1 packet2 : BitVec 64) : Prop :=
  ∃ roll1 fixed1 roll2 fixed2, decodeHalf packet1 = some (roll1, fixed1) ∧ decodeHalf packet2 = some (roll2, fixed2) ∧
    numeralValue 3 (gatherDigits roll1 roll2) < 0x10000000

/-- What the encoder sends is read as what it has noted. -/
theorem secplusV2_decodes (mult : BitVec 8) (custom later : SubGhzCustomBtn) (encoder : SubGhzProtocolEncoderSecPlusV2)
    (receiver : SubGhzBlockGeneric) :
    let sent := (secplusV2Encode mult custom encoder).1
    let read := (secplusV2RemoteController later { receiver with data := sent.generic.data } sent.secplusPacket1).1
    Decodes sent.secplusPacket1 sent.generic.data ∧ read.serial = encoder.generic.serial ∧
      read.btn = sent.generic.btn ∧ read.cnt = sent.generic.cnt := by
  intro sent read
  have small := nextCnt_lt mult encoder.generic.cnt
  have narrow : ((secplusV2NextCnt mult encoder.generic.cnt).setWidth 64).toNat < 2 ^ 28 := by
    exact small
  have rolling := reverseKey_lt ((secplusV2NextCnt mult encoder.generic.cnt).setWidth 64) (show 28 ≤ 64 by decide)
  have below : ∀ digit ∈ fixedNumeral 3 18 (reverseKey ((secplusV2NextCnt mult encoder.generic.cnt).setWidth 64) 28).toNat,
      digit < 3 := fun digit member => digit_lt_of_mem_fixedNumeral (by decide) member
  have value := @numeralValue_fixedNumeral 3 18
    (reverseKey ((secplusV2NextCnt mult encoder.generic.cnt).setWidth 64) 28).toNat
  rw [Nat.mod_eq_of_lt (Nat.lt_trans rolling (by decide))] at value
  obtain ⟨roll1, roll2⟩ := isRoll_deal below
  obtain ⟨fits1, fits2, btn, serial⟩ := fixed_parts (secplusV2GetBtnCode (custom.keepOriginal encoder.generic.btn))
    encoder.generic.serial
  have first : decodeHalf sent.secplusPacket1 = some _ :=
    decodeHalf_of_encodeHalf roll1 fits1 fun place low => header_or _ _ header1_free low
  have second : decodeHalf sent.generic.data = some _ :=
    decodeHalf_of_encodeHalf roll2 fits2 fun place low => header_or _ _ header2_free low
  have gathered := gather_deal (@length_fixedNumeral 3 18
    (reverseKey ((secplusV2NextCnt mult encoder.generic.cnt).setWidth 64) 28).toNat)
  have range := rolling
  rw [← value, ← gathered] at range
  have fields := @remoteController_of later { receiver with data := sent.generic.data } _ _ _ _ _ first second range
  refine ⟨⟨_, _, _, _, first, second, range⟩, ?_, ?_, ?_⟩
  · exact (congrArg SubGhzBlockGeneric.serial fields).trans serial
  · exact (congrArg SubGhzBlockGeneric.btn fields).trans btn
  · refine (congrArg SubGhzBlockGeneric.cnt fields).trans ?_
    rw [gathered, value, BitVec.ofNat_toNat, BitVec.setWidth_eq, reverseKey_reverseKey (by decide) narrow,
      BitVec.setWidth_setWidth_of_le _ (by decide)]
    rfl

theorem packet_eq {packet header half : BitVec 64} (free : ∀ place < 38, header.getLsbD place = false)
    (above : packet >>> 38 = header >>> 38)
    (below : ∀ place < 64, half.getLsbD place = (decide (place < 38) && packet.getLsbD place)) :
    header ||| half = packet := by
  apply BitVec.eq_of_getLsbD_eq
  intro place inside
  rw [BitVec.getLsbD_or, below place inside]
  by_cases low : place < 38
  · rw [free place low, decide_eq_true low, Bool.true_and, Bool.false_or]
  · have bit := congrArg (fun word : BitVec 64 => word.getLsbD (place - 38)) above
    simp only [BitVec.getLsbD_ushiftRight, show 38 + (place - 38) = place by omega] at bit
    rw [decide_eq_false low, Bool.false_and, Bool.or_false, bit]

theorem secplusV2_encodes {mult : BitVec 8} {custom later : SubGhzCustomBtn} {encoder : SubGhzProtocolEncoderSecPlusV2}
    {receiver : SubGhzBlockGeneric} {packet1 : BitVec 64} (decodes : Decodes packet1 receiver.data)
    (header1 : packet1 >>> 38 = secplusV2Header1 >>> 38) (header2 : receiver.data >>> 38 = secplusV2Header2 >>> 38)
    (serial : encoder.generic.serial = (secplusV2RemoteController later receiver packet1).1.serial)
    (btn : secplusV2GetBtnCode (custom.keepOriginal encoder.generic.btn) =
      (secplusV2RemoteController later receiver packet1).1.btn)
    (cnt : secplusV2NextCnt mult encoder.generic.cnt = (secplusV2RemoteController later receiver packet1).1.cnt) :
    (secplusV2Encode mult custom encoder).1.secplusPacket1 = packet1 ∧
      (secplusV2Encode mult custom encoder).1.generic.data = receiver.data := by
  obtain ⟨roll1, fixed1, roll2, fixed2, first, second, small⟩ := decodes
  rw [remoteController_of first second small] at serial btn cnt
  obtain ⟨isRoll1, fits1, half1⟩ := encodeHalf_of_decodeHalf first
  obtain ⟨isRoll2, fits2, half2⟩ := encodeHalf_of_decodeHalf second
  obtain ⟨same1, same2⟩ := parts_fixed fits1 fits2
  have number : (BitVec.ofNat 64 (numeralValue 3 (gatherDigits roll1 roll2))).toNat =
      numeralValue 3 (gatherDigits roll1 roll2) := by
    exact Nat.mod_eq_of_lt (Nat.lt_trans small (by decide))
  have reversed := reverseKey_lt (BitVec.ofNat 64 (numeralValue 3 (gatherDigits roll1 roll2))) (show 28 ≤ 64 by decide)
  have rolling : (reverseKey ((secplusV2NextCnt mult encoder.generic.cnt).setWidth 64) 28).toNat =
      numeralValue 3 (gatherDigits roll1 roll2) := by
    have wide : ((reverseKey (BitVec.ofNat 64 (numeralValue 3 (gatherDigits roll1 roll2))) 28).setWidth 32).setWidth 64 =
        reverseKey (BitVec.ofNat 64 (numeralValue 3 (gatherDigits roll1 roll2))) 28 := by
      apply BitVec.eq_of_toNat_eq
      rw [BitVec.toNat_setWidth, BitVec.toNat_setWidth]
      omega
    rw [cnt, wide, reverseKey_reverseKey (by decide) (by rw [number]; exact small), number]
  have digits : ∀ digit ∈ gatherDigits roll1 roll2, digit < 3 := by
    have each {roll : List Nat} (isRoll : IsRoll roll) (place : Nat) : roll.getD place 0 < 3 := by
      rw [List.getD_eq_getElem?_getD]
      cases found : roll[place]? with
      | none => decide
      | some digit => exact isRoll.digits digit (List.mem_of_getElem? found)
    simp only [gatherDigits, List.mem_cons, List.not_mem_nil, or_false, forall_eq_or_imp, forall_eq, each isRoll1,
      each isRoll2, and_self]
  have rolls : dealDigits (fixedNumeral 3 18 (numeralValue 3 (gatherDigits roll1 roll2))) = (roll1, roll2) := by
    have back := fixedNumeral_numeralValue digits
    rw [show (gatherDigits roll1 roll2).length = 18 from rfl] at back
    rw [back, deal_gather isRoll1.length isRoll2.length]
  unfold secplusV2Encode
  simp only
  rw [rolling, rolls, btn, serial, same1, same2]
  exact ⟨packet_eq header1_free header1 half1, packet_eq header2_free header2 half2⟩

/-- Without a direction key the button is the one of the code. -/
theorem getBtnCode_ok {custom : SubGhzCustomBtn} {btn : BitVec 8} (ok : custom.customBtnId = SubGhzCustomBtn.ok)
    (fresh : custom.customBtnOriginal = 0 ∨ custom.customBtnOriginal = btn) :
    secplusV2GetBtnCode (custom.keepOriginal btn) = btn := by
  have original : (custom.keepOriginal btn).customBtnOriginal = btn := by
    unfold SubGhzCustomBtn.keepOriginal
    split
    · rfl
    · rename_i known
      exact fresh.resolve_left known
  have same : (custom.keepOriginal btn).customBtnId = SubGhzCustomBtn.ok := by
    unfold SubGhzCustomBtn.keepOriginal
    split <;> exact ok
  unfold secplusV2GetBtnCode
  simp only [same, original]
  split
  · rfl
  · simp [SubGhzCustomBtn.ok, SubGhzCustomBtn.up, SubGhzCustomBtn.down, SubGhzCustomBtn.left, SubGhzCustomBtn.right]

/-- **What the encoder sends is read as its serial number, its button and its new
counter, and half packets with its headers that can be read are sent again by an
encoder that has come to their fields.** -/
theorem secplusV2_roundTrip (mult : BitVec 8) (custom later : SubGhzCustomBtn)
    (encoder : SubGhzProtocolEncoderSecPlusV2) (receiver : SubGhzBlockGeneric) (packet1 : BitVec 64) :
    let sent := (secplusV2Encode mult custom encoder).1
    let own := (secplusV2RemoteController later { receiver with data := sent.generic.data } sent.secplusPacket1).1
    let read := (secplusV2RemoteController later receiver packet1).1
    (own.serial = encoder.generic.serial ∧ own.btn = sent.generic.btn ∧ own.cnt = sent.generic.cnt ∧
      (custom.customBtnId = SubGhzCustomBtn.ok →
        custom.customBtnOriginal = 0 ∨ custom.customBtnOriginal = encoder.generic.btn →
          sent.generic.btn = encoder.generic.btn)) ∧
    (Decodes packet1 receiver.data → packet1 >>> 38 = secplusV2Header1 >>> 38 →
      receiver.data >>> 38 = secplusV2Header2 >>> 38 → encoder.generic.serial = read.serial →
      sent.generic.btn = read.btn → sent.generic.cnt = read.cnt →
        sent.secplusPacket1 = packet1 ∧ sent.generic.data = receiver.data) := by
  obtain ⟨-, serial, btn, cnt⟩ := secplusV2_decodes mult custom later encoder receiver
  exact ⟨⟨serial, btn, cnt, getBtnCode_ok⟩, fun decodes header1 header2 => secplusV2_encodes decodes header1 header2⟩

def firstBtnRemote : SubGhzProtocolEncoderSecPlusV2 where
  generic := ⟨0, 0x12345678#32, 62, 0x68#8, 0x100#32, 0, 0⟩
  secplusPacket1 := 0

/-- The code that the remote sends next, as it is received. -/
def firstBtnReceived : SubGhzBlockGeneric := (secplusV2Encode 1 .reset firstBtnRemote).1.generic

def firstBtnPacket : BitVec 64 := (secplusV2Encode 1 .reset firstBtnRemote).1.secplusPacket1

theorem secplusV2_roundTrip_firstBtn : Decodes firstBtnPacket firstBtnReceived.data ∧
      (secplusV2Encode 1 .reset firstBtnRemote).1.secplusPacket1 = firstBtnPacket ∧
      (secplusV2Encode 1 .reset firstBtnRemote).1.generic.data = firstBtnReceived.data :=
  have decodes : Decodes firstBtnPacket firstBtnReceived.data :=
    (secplusV2_decodes 1 .reset .reset firstBtnRemote firstBtnReceived).1
  ⟨decodes, (secplusV2_roundTrip 1 .reset .reset firstBtnRemote firstBtnReceived firstBtnPacket).2 decodes
    (by decide +kernel) (by decide +kernel) (by decide +kernel) (by decide +kernel) (by decide +kernel)⟩

/-- Two bits between header and half packet are received but not sent: a packet in
which one of them is set has the same fields. -/
theorem secplusV2_ignores_bit :
    let received := firstBtnPacket ||| 1#64 <<< 38
    let read := (secplusV2RemoteController .reset firstBtnReceived received).1
    received &&& 0xFFFF3C0000000000#64 = 0x3C0000000000#64 ∧ received &&& 0x30000000000#64 = 0 ∧
      Decodes received firstBtnReceived.data ∧ firstBtnRemote.generic.serial = read.serial ∧
      (secplusV2Encode 1 .reset firstBtnRemote).1.generic.btn = read.btn ∧
      (secplusV2Encode 1 .reset firstBtnRemote).1.generic.cnt = read.cnt ∧
      (secplusV2Encode 1 .reset firstBtnRemote).1.secplusPacket1 ≠ received := by
  intro received read
  have same : decodeHalf received = decodeHalf firstBtnPacket := by decide +kernel
  have decodes : Decodes firstBtnPacket firstBtnReceived.data :=
    (secplusV2_decodes 1 .reset .reset firstBtnRemote firstBtnReceived).1
  obtain ⟨roll1, fixed1, roll2, fixed2, first, second, small⟩ := decodes
  exact ⟨by decide +kernel, by decide +kernel, ⟨roll1, fixed1, roll2, fixed2, same.trans first, second, small⟩,
    by decide +kernel, by decide +kernel, by decide +kernel, by decide +kernel⟩

end Xtreme.SubGhz
