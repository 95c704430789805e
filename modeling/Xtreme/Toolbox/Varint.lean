import Xtreme.Library.ContinuedDigits

/-! Numbers of variable length (`lib/toolbox/varint.c`): groups of seven bits,
the lowest first, with the highest bit of a byte set while more follow. Words
are 32 bits wide; a signed word is one whose `toInt` is meant.

`input` is the bytes a reader was given the length of. `accesses` are not in
the source: the places read and the shifts made, in order. A shift by 32 or
more is undefined in C; here, as on the target, it leaves nothing. -/
namespace Xtreme.Toolbox
open Xtreme.Library

variable {value : BitVec 32}

theorem varintRest_lt (long : 0x80#32 ≤ value) : (value >>> 7).toNat < value.toNat := by
  have : 128 ≤ value.toNat := long
  rw [BitVec.toNat_ushiftRight]
  omega

/-- The bytes written to `output`; their number is returned. -/
def varintUint32Pack (value : BitVec 32) : List UInt8 :=
  if 0x80#32 ≤ value then ⟨(value ||| 0x80#32).setWidth 8⟩ :: varintUint32Pack (value >>> 7)
  else [⟨value.setWidth 8⟩]
termination_by value.toNat
decreasing_by exact varintRest_lt ‹_›

/-- One turn of the loop of `varint_uint32_unpack`: the byte read and the shift of its bits. -/
structure VarintAccess where
  index : Nat
  shift : Nat
  deriving DecidableEq, Repr

/-- The locals of `varint_uint32_unpack`. -/
structure UnpackState where
  i : Nat
  parsed : BitVec 32
  accesses : List VarintAccess
  deriving DecidableEq, Repr

def unpackLoop : List UInt8 → UnpackState → UnpackState
  | [], state => state
  | byte :: rest, state =>
    let state := { state with
      parsed := state.parsed ||| ((byte &&& 0x7F).toBitVec.setWidth 32 <<< (7 * state.i))
      accesses := state.accesses ++ [⟨state.i, 7 * state.i⟩] }
    if byte &&& 0x80 = 0 then state else unpackLoop rest { state with i := state.i + 1 }

/-- What `varint_uint32_unpack` leaves and returns: `value`, and the bytes used up. -/
structure Unpacked where
  value : BitVec 32
  consumed : Nat
  accesses : List VarintAccess
  deriving DecidableEq, Repr

def varintUint32Unpack (input : List UInt8) : Unpacked :=
  let state := unpackLoop input ⟨0, 0, []⟩
  ⟨state.parsed, state.i + 1, state.accesses⟩

def varintUint32Length (value : BitVec 32) : Nat :=
  if 0x80#32 ≤ value then varintUint32Length (value >>> 7) + 1 else 1
termination_by value.toNat
decreasing_by exact varintRest_lt ‹_›

/-- The unsigned word that stands for a signed one: even for those from zero on. -/
def varintInt32Word (value : BitVec 32) : BitVec 32 :=
  if 0 ≤ value.toInt then value * 2 else value * (-2) - 1

def varintInt32Pack (value : BitVec 32) : List UInt8 := varintUint32Pack (varintInt32Word value)

def varintInt32Unpack (input : List UInt8) : Unpacked :=
  let unpacked := varintUint32Unpack input
  let v := unpacked.value
  if v &&& 1 ≠ 0 then { unpacked with value := (v + 1).sdiv (-2) }
  else { unpacked with value := v / 2 }

def varintInt32Length (value : BitVec 32) : Nat := varintUint32Length (varintInt32Word value)

/-- Seven bits a byte, and one that says whether more follow. -/
def varintSymbols : DigitSymbols UInt8 where
  digit byte := (byte &&& 0x7F).toNat
  continues byte := byte &&& 0x80 ≠ 0

theorem varintSymbols_stops_iff (byte : UInt8) : varintSymbols.continues byte = false ↔ byte < 0x80 := by
  have stops : byte &&& 0x80 = 0 ↔ byte < 0x80 := by
    cases byte with | ofBitVec bits => revert bits; decide
  simp [varintSymbols, stops]

theorem varintSymbols_digit (byte : UInt8) : varintSymbols.digit byte = byte.toNat % 2 ^ 7 := by
  rw [← Nat.and_two_pow_sub_one_eq_mod]
  exact UInt8.toNat_and byte 0x7F

theorem varintSymbols_digit_lt (byte : UInt8) : varintSymbols.digit byte < 2 ^ 7 := by
  rw [varintSymbols_digit]
  exact Nat.mod_lt _ (by decide)

theorem parsed_or_digit {parsed : BitVec 32} {number i : Nat} (shown : parsed.toNat = number % 2 ^ 32)
    (low : number < 2 ^ (7 * i)) (byte : UInt8) :
    (parsed ||| ((byte &&& 0x7F).toBitVec.setWidth 32 <<< (7 * i))).toNat =
      (number + 2 ^ (7 * i) * varintSymbols.digit byte) % 2 ^ 32 := by
  have wide : ((byte &&& 0x7F).toBitVec.setWidth 32).toNat = varintSymbols.digit byte := by
    rfl
  rw [BitVec.toNat_or, BitVec.toNat_shiftLeft, wide, shown, ← Nat.or_mod_two_pow, Nat.or_comm,
    ← Nat.shiftLeft_add_eq_or_of_lt low, Nat.shiftLeft_eq, Nat.add_comm, Nat.mul_comm]

variable (input : List UInt8)

theorem unpackLoop_parsed {state : UnpackState} {number : Nat}
    (shown : state.parsed.toNat = number % 2 ^ 32) (low : number < 2 ^ (7 * state.i)) :
    (unpackLoop input state).parsed.toNat =
      (number + 2 ^ (7 * state.i) * varintSymbols.value (2 ^ 7) (varintSymbols.taken input)) % 2 ^ 32 := by
  induction input generalizing state number with
  | nil => simp [unpackLoop, shown, DigitSymbols.taken]
  | cons byte rest ih =>
    have next := parsed_or_digit shown low byte
    simp only [unpackLoop]
    split
    · rename_i stops
      rw [DigitSymbols.taken_cons_of_stops (by simp [varintSymbols, stops]), next]
      simp
    · rename_i more
      have room : number + 2 ^ (7 * state.i) * varintSymbols.digit byte < 2 ^ (7 * (state.i + 1)) := by
        have := varintSymbols_digit_lt byte
        calc number + 2 ^ (7 * state.i) * varintSymbols.digit byte
            < 2 ^ (7 * state.i) * (varintSymbols.digit byte + 1) := by rw [Nat.mul_succ]; omega
          _ ≤ 2 ^ (7 * state.i) * 2 ^ 7 := Nat.mul_le_mul_left _ this
          _ = 2 ^ (7 * (state.i + 1)) := by rw [Nat.mul_succ, Nat.pow_add]
      rw [ih next room, DigitSymbols.taken_cons_of_continues (by simp [varintSymbols, more]),
        DigitSymbols.value_cons, Nat.mul_succ 7, Nat.pow_add, Nat.mul_add, Nat.add_assoc, Nat.mul_assoc]

theorem unpackLoop_i (state : UnpackState) :
    (unpackLoop input state).i = state.i + (input.takeWhile varintSymbols.continues).length := by
  induction input generalizing state with
  | nil => rfl
  | cons byte rest ih =>
    simp only [unpackLoop]
    split
    · rename_i stops
      rw [List.takeWhile_cons_of_neg (by simp [varintSymbols, stops])]
      rfl
    · rename_i more
      rw [ih, List.takeWhile_cons_of_pos (by simp [varintSymbols, more])]
      exact Nat.succ_add_eq_add_succ _ _

/-- Every byte taken is read once, in order, and shifted past those before it. -/
theorem unpackLoop_accesses (state : UnpackState) : (unpackLoop input state).accesses =
      state.accesses ++ (List.range' state.i (varintSymbols.taken input).length).map fun i => ⟨i, 7 * i⟩ := by
  induction input generalizing state with
  | nil => simp [unpackLoop, DigitSymbols.taken]
  | cons byte rest ih =>
    simp only [unpackLoop]
    split
    · rename_i stops
      rw [DigitSymbols.taken_cons_of_stops (by simp [varintSymbols, stops])]
      rfl
    · rename_i more
      rw [ih, DigitSymbols.taken_cons_of_continues (by simp [varintSymbols, more]), List.length_cons,
        List.range'_succ, List.map_cons, List.append_assoc, List.singleton_append]

/-- The number read is that of the bytes taken, as far as it fits. -/
theorem varintUint32Unpack_value : (varintUint32Unpack input).value.toNat =
      varintSymbols.value (2 ^ 7) (varintSymbols.taken input) % 2 ^ 32 := by
  rw [varintUint32Unpack, unpackLoop_parsed input rfl (by decide), Nat.zero_add, Nat.mul_zero, Nat.pow_zero,
    Nat.one_mul]

theorem varintUint32Unpack_consumed :
    (varintUint32Unpack input).consumed = (input.takeWhile varintSymbols.continues).length + 1 := by
  rw [varintUint32Unpack, unpackLoop_i, Nat.zero_add]

theorem varintUint32Unpack_accesses : (varintUint32Unpack input).accesses =
      (List.range (varintSymbols.taken input).length).map fun i => ⟨i, 7 * i⟩ := by
  rw [varintUint32Unpack, unpackLoop_accesses, List.nil_append, List.range_eq_range']

/-- The reader keeps to its buffer and to the width of a word exactly when one
of the first five bytes ends the number. Without a last byte in the buffer it
reports one byte more than there are, and the sixth byte is shifted by 35. -/
theorem varint_unpack_safe_iff (input : List UInt8) :
    ((∀ access ∈ (varintUint32Unpack input).accesses, access.index < input.length ∧ access.shift < 32) ∧
        (varintUint32Unpack input).consumed ≤ input.length) ↔
      ∃ place < 5, ∃ byte, input[place]? = some byte ∧ byte < 0x80 := by
  have ends : (∃ place < 5, ∃ byte, input[place]? = some byte ∧ byte < 0x80) ↔
      (input.takeWhile varintSymbols.continues).length < min 5 input.length := by
    simp only [DigitSymbols.length_takeWhile_lt_iff, varintSymbols_stops_iff]
  have taken : (varintSymbols.taken input).length =
      min ((input.takeWhile varintSymbols.continues).length + 1) input.length := List.length_take
  rw [ends, varintUint32Unpack_accesses, varintUint32Unpack_consumed]
  constructor
  · rintro ⟨inside, consumed⟩
    have last := (inside ⟨(input.takeWhile varintSymbols.continues).length, _⟩
      (List.mem_map.mpr ⟨_, List.mem_range.mpr (by omega), rfl⟩)).2
    simp only at last
    omega
  · intro early
    refine ⟨fun access member => ?_, by omega⟩
    obtain ⟨i, turn, rfl⟩ := List.mem_map.mp member
    rw [List.mem_range] at turn
    constructor
    · simp only
      omega
    · simp only
      omega

/-- One byte that does not end its number: two bytes are reported. -/
theorem varint_unpack_past_end : ¬ ((varintUint32Unpack [0x80]).consumed ≤ [(0x80 : UInt8)].length) := by
  decide

theorem varintByte_more : varintSymbols.continues ⟨(value ||| 0x80#32).setWidth 8⟩ = true ∧
      varintSymbols.digit ⟨(value ||| 0x80#32).setWidth 8⟩ = value.toNat % 2 ^ 7 := by
  constructor
  · simp only [varintSymbols, decide_eq_true_eq]
    intro clear
    have bit := congrArg (fun byte : UInt8 => byte.toBitVec.getLsbD 7) clear
    simp at bit
  · rw [varintSymbols_digit, UInt8.toNat_ofBitVec, BitVec.toNat_setWidth, Nat.mod_mod_of_dvd _ (by decide),
      BitVec.toNat_or, Nat.or_mod_two_pow]
    exact Nat.or_zero _

theorem varintByte_last (short : ¬ 0x80#32 ≤ value) : varintSymbols.continues ⟨value.setWidth 8⟩ = false ∧
      varintSymbols.digit ⟨value.setWidth 8⟩ = value.toNat := by
  have low : value.toNat < 128 := Nat.lt_of_not_le short
  constructor
  · rw [varintSymbols_stops_iff, UInt8.lt_iff_toNat_lt]
    exact Nat.lt_of_le_of_lt (Nat.mod_le _ _) low
  · rw [varintSymbols_digit, UInt8.toNat_ofBitVec, BitVec.toNat_setWidth]
    omega

theorem varintUint32Pack_ended (value : BitVec 32) : varintSymbols.Ended (varintUint32Pack value) := by
  induction value using varintUint32Pack.induct with
  | case1 value long ih =>
    rw [varintUint32Pack, if_pos long]
    exact ih.cons varintByte_more.1
  | case2 value short =>
    rw [varintUint32Pack, if_neg short]
    exact .singleton (varintByte_last short).1

theorem value_varintUint32Pack (value : BitVec 32) :
    varintSymbols.value (2 ^ 7) (varintUint32Pack value) = value.toNat := by
  induction value using varintUint32Pack.induct with
  | case1 value long ih =>
    rw [varintUint32Pack, if_pos long, DigitSymbols.value_cons, ih, varintByte_more.2, BitVec.toNat_ushiftRight,
      Nat.shiftRight_eq_div_pow, Nat.mod_add_div]
  | case2 value short =>
    rw [varintUint32Pack, if_neg short, DigitSymbols.value_cons, DigitSymbols.value_nil, (varintByte_last short).2,
      Nat.mul_zero, Nat.add_zero]

theorem length_varintUint32Pack (value : BitVec 32) :
    (varintUint32Pack value).length = varintUint32Length value := by
  induction value using varintUint32Pack.induct with
  | case1 value long ih =>
    rw [varintUint32Pack, if_pos long, List.length_cons, ih, varintUint32Length.eq_def value, if_pos long]
  | case2 value short =>
    rw [varintUint32Pack, if_neg short, varintUint32Length, if_neg short]
    rfl

/-- A packed word is read back, whatever lies behind it. -/
theorem varintUint32Unpack_pack (value : BitVec 32) (rest : List UInt8) :
    (varintUint32Unpack (varintUint32Pack value ++ rest)).value = value ∧
      (varintUint32Unpack (varintUint32Pack value ++ rest)).consumed = varintUint32Length value := by
  have ended := varintUint32Pack_ended value
  constructor
  · apply BitVec.eq_of_toNat_eq
    rw [varintUint32Unpack_value, ended.taken_append, value_varintUint32Pack, Nat.mod_eq_of_lt value.isLt]
  · rw [varintUint32Unpack_consumed, ended.length_takeWhile, length_varintUint32Pack]

/-- The word of a number from zero on is twice the number. -/
theorem toNat_varintInt32Word_nonneg (nonneg : 0 ≤ value.toInt) :
    (varintInt32Word value).toNat = 2 * value.toNat ∧ value.toNat < 2 ^ 31 := by
  have small : value.toNat < 2 ^ 31 := by
    rw [BitVec.toInt_eq_toNat_cond] at nonneg
    split at nonneg <;> omega
  have two : (2 : BitVec 32).toNat = 2 := by decide
  rw [varintInt32Word, if_pos nonneg, BitVec.toNat_mul, two]
  omega

theorem toNat_varintInt32Word_neg (negative : ¬ 0 ≤ value.toInt) :
    (varintInt32Word value).toNat = 2 * (2 ^ 32 - value.toNat) - 1 ∧ 2 ^ 31 ≤ value.toNat := by
  have large : 2 ^ 31 ≤ value.toNat := by
    rw [BitVec.toInt_eq_toNat_cond] at negative
    split at negative <;> omega
  have minusTwo : (-2 : BitVec 32).toNat = 2 ^ 32 - 2 := by decide
  have one : (1 : BitVec 32).toNat = 1 := by decide
  rw [varintInt32Word, if_neg negative, BitVec.toNat_sub, BitVec.toNat_mul, minusTwo]
  omega

theorem odd_iff_toNat (word : BitVec 32) : word &&& 1 ≠ 0 ↔ word.toNat % 2 = 1 := by
  have low : (word &&& 1).toNat = word.toNat % 2 := Nat.and_two_pow_sub_one_eq_mod word.toNat 1
  have zero : (0 : BitVec 32).toNat = 0 := by decide
  rw [ne_eq, ← BitVec.toNat_inj]
  omega

/-- What the word of a negative number is read as: the cast to `int32_t` comes
before the division, so the words from the half on come out positive. -/
theorem toInt_sdiv_word (negative : ¬ 0 ≤ value.toInt) : ((varintInt32Word value + 1).sdiv (-2)).toInt =
      if -2 ^ 30 < value.toInt then value.toInt else value.toInt + 2 ^ 31 := by
  obtain ⟨word, large⟩ := toNat_varintInt32Word_neg negative
  have minusTwo : (-2 : BitVec 32).toInt = -2 := by decide
  have one : (1 : BitVec 32).toNat = 1 := by decide
  have signed : value.toInt = (value.toNat : Int) - 2 ^ 32 := by
    rw [BitVec.toInt_eq_toNat_cond, if_neg (by omega)]
    rfl
  have doubled : (varintInt32Word value + 1).toInt =
      -2 * if -2 ^ 30 < value.toInt then value.toInt else value.toInt + 2 ^ 31 := by
    rw [BitVec.toInt_eq_toNat_cond, BitVec.toNat_add]
    split <;> split <;> omega
  have fits : (if -2 ^ 30 < value.toInt then value.toInt else value.toInt + 2 ^ 31).bmod (2 ^ 32) =
      if -2 ^ 30 < value.toInt then value.toInt else value.toInt + 2 ^ 31 := by
    apply Int.bmod_eq_of_le <;> split <;> omega
  rw [BitVec.toInt_sdiv, minusTwo, doubled, Int.mul_tdiv_cancel_left _ (by decide), fits]

/-- A packed signed word is read as itself exactly above half of the lowest one. -/
theorem varintInt32Unpack_pack_iff (value : BitVec 32) (rest : List UInt8) :
    (varintInt32Unpack (varintInt32Pack value ++ rest)).value = value ↔ -2 ^ 30 < value.toInt := by
  have word := (varintUint32Unpack_pack (varintInt32Word value) rest).1
  simp only [varintInt32Unpack, varintInt32Pack, word]
  by_cases nonneg : 0 ≤ value.toInt
  · obtain ⟨doubled, small⟩ := toNat_varintInt32Word_nonneg nonneg
    have even : ¬ (varintInt32Word value &&& 1 ≠ 0) := by rw [odd_iff_toNat]; omega
    have half : varintInt32Word value / 2 = value := by
      have two : (2 : BitVec 32).toNat = 2 := by decide
      apply BitVec.eq_of_toNat_eq
      rw [BitVec.toNat_udiv, two]
      omega
    rw [if_neg even]
    exact ⟨fun _ => by omega, fun _ => half⟩
  · obtain ⟨doubled, large⟩ := toNat_varintInt32Word_neg nonneg
    have odd : varintInt32Word value &&& 1 ≠ 0 := by rw [odd_iff_toNat]; omega
    rw [if_pos odd, ← BitVec.toInt_inj]
    simp only [toInt_sdiv_word nonneg]
    split
    · rename_i above
      exact ⟨fun _ => above, fun _ => rfl⟩
    · rename_i below
      exact ⟨fun same => by omega, fun above => absurd above below⟩

theorem varintInt32Unpack_consumed (value : BitVec 32) (rest : List UInt8) :
    (varintInt32Unpack (varintInt32Pack value ++ rest)).consumed = varintInt32Length value := by
  have consumed := (varintUint32Unpack_pack (varintInt32Word value) rest).2
  rw [varintInt32Length, ← consumed, varintInt32Unpack]
  split <;> rfl

/-- **Packed numbers are read back, whatever lies behind them.** The bytes used
up are always those of the length functions, and all unsigned words come out as
they were. The signed ones do exactly in the range that the header names, above
half of the lowest number. -/
theorem varint_round_trip : (∀ (value : BitVec 32) (rest : List UInt8),
      (varintUint32Unpack (varintUint32Pack value ++ rest)).value = value ∧
        (varintUint32Unpack (varintUint32Pack value ++ rest)).consumed = varintUint32Length value) ∧
    ∀ (value : BitVec 32) (rest : List UInt8),
      ((varintInt32Unpack (varintInt32Pack value ++ rest)).value = value ↔ -2 ^ 30 < value.toInt) ∧
        (varintInt32Unpack (varintInt32Pack value ++ rest)).consumed = varintInt32Length value :=
  ⟨varintUint32Unpack_pack, fun value rest =>
    ⟨varintInt32Unpack_pack_iff value rest, varintInt32Unpack_consumed value rest⟩⟩

/-- Half of the lowest number comes back positive. -/
theorem varint_int32_half_range :
    (varintInt32Unpack (varintInt32Pack (BitVec.ofInt 32 (-2 ^ 30)))).value ≠ BitVec.ofInt 32 (-2 ^ 30) := by
  have lost := (not_congr (varintInt32Unpack_pack_iff (BitVec.ofInt 32 (-2 ^ 30)) [])).mpr (by decide)
  rwa [List.append_nil] at lost

end Xtreme.Toolbox
