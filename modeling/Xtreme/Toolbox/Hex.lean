import Xtreme.BitLib.BitLib

/-! Hexadecimal text (`lib/toolbox/hex.c`). The parser has no length: it runs
through memory until two characters are not both there, or not both digits. -/
namespace Xtreme.Toolbox
open Xtreme.BitLib

def ascii (c : Char) : BitVec 8 := BitVec.ofNat 8 c.toNat

def hexCharToHexNibble (c : BitVec 8) : Option (BitVec 8) :=
  if ascii '0' ≤ c ∧ c ≤ ascii '9' then some (c - ascii '0')
  else if ascii 'A' ≤ c ∧ c ≤ ascii 'F' then some (c - ascii 'A' + 10)
  else if ascii 'a' ≤ c ∧ c ≤ ascii 'f' then some (c - ascii 'a' + 10)
  else none

def hexCharToUint8 (hi low : BitVec 8) : Option (BitVec 8) := do
  let hiNibbleValue ← hexCharToHexNibble hi
  let lowNibbleValue ← hexCharToHexNibble low
  return (hiNibbleValue <<< 4) ||| lowNibbleValue

/-- What a run of the parser does: its answer, the bytes it writes one behind
the other, and how many characters it reads. -/
structure HexParse where
  parseSuccess : Bool
  written : List (BitVec 8)
  read : Nat
  deriving DecidableEq, Repr

/-- The loop of `hex_chars_to_uint8` on the memory from a character on. A
character behind the memory is read and ends it. -/
def hexCharsLoop (parseSuccess : Bool) : List (BitVec 8) → HexParse
  | [] => ⟨parseSuccess, [], 1⟩
  | [hi] => if hi = 0 then ⟨parseSuccess, [], 1⟩ else ⟨parseSuccess, [], 2⟩
  | hi :: low :: rest =>
    if hi = 0 then ⟨parseSuccess, [], 1⟩
    else if low = 0 then ⟨parseSuccess, [], 2⟩
    else
      match hexCharToUint8 hi low with
      | none => ⟨false, [], 2⟩
      | some value =>
        let next := hexCharsLoop true rest
        ⟨next.parseSuccess, value :: next.written, next.read + 2⟩

def hexCharsToUint8 (valueStr : List (BitVec 8)) : HexParse := hexCharsLoop false valueStr

def chars : List (BitVec 8) := "0123456789ABCDEF".toList.map ascii

/-- The character of half a byte: the high half first. -/
def hexCharAt {size : Nat} (src : Bytes size) (length : Nat) : BitVec 8 :=
  chars.getD ((byteAt src (length >>> 1) >>> ((1 - (length &&& 1)) <<< 2)) &&& 0xF#8).toNat 0

/-- The target is a pointer into an array. -/
def uint8ToHexChars {size targetSize : Nat} (src : Bytes size) (target : Bytes targetSize) (start length : Nat) :
    Bytes targetSize :=
  (List.range length).reverse.foldl (fun target i => target.setIfInBounds (start + i) (hexCharAt src i)) target

variable {parseSuccess : Bool} {hi low value : BitVec 8} {rest : List (BitVec 8)}

theorem hexCharToUint8_none_iff :
    hexCharToUint8 hi low = none ↔ hexCharToHexNibble hi = none ∨ hexCharToHexNibble low = none := by
  rw [hexCharToUint8]
  cases hexCharToHexNibble hi <;> cases hexCharToHexNibble low <;> simp

theorem digits_ne_zero (parsed : hexCharToUint8 hi low = some value) : hi ≠ 0 ∧ low ≠ 0 := by
  have zero : hexCharToHexNibble 0 = none := by decide
  constructor <;> rintro rfl
  · cases parsed
  · rw [hexCharToUint8_none_iff.mpr (.inr zero)] at parsed
    cases parsed

theorem hexCharsLoop_some (parsed : hexCharToUint8 hi low = some value) :
    hexCharsLoop parseSuccess (hi :: low :: rest) =
      ⟨(hexCharsLoop true rest).parseSuccess, value :: (hexCharsLoop true rest).written,
        (hexCharsLoop true rest).read + 2⟩ := by
  obtain ⟨begins, more⟩ := digits_ne_zero parsed
  rw [hexCharsLoop, if_neg begins, if_neg more, parsed]

theorem hexCharsLoop_none (fails : hexCharToUint8 hi low = none) :
    (hexCharsLoop parseSuccess (hi :: low :: rest)).written = [] ∧
      1 ≤ (hexCharsLoop parseSuccess (hi :: low :: rest)).read ∧
      (hexCharsLoop parseSuccess (hi :: low :: rest)).read ≤ 2 := by
  rw [hexCharsLoop, fails]
  split
  · exact ⟨rfl, Nat.le_refl 1, Nat.le_succ 1⟩
  · split <;> exact ⟨rfl, Nat.le_succ 1, Nat.le_refl 2⟩

/-- Each byte that is written takes two characters, and the end takes one more. -/
theorem written_lt_read {pairs : Nat} {valueStr : List (BitVec 8)} (few : valueStr.length ≤ 2 * pairs) :
    2 * (hexCharsLoop parseSuccess valueStr).written.length < (hexCharsLoop parseSuccess valueStr).read := by
  induction pairs generalizing valueStr parseSuccess with
  | zero =>
    rw [List.length_eq_zero_iff.mp (Nat.le_zero.mp few)]
    exact Nat.one_pos
  | succ pairs ih =>
    cases valueStr with
    | nil => exact Nat.one_pos
    | cons hi others =>
      cases others with
      | nil =>
        rw [hexCharsLoop]
        split <;> exact Nat.succ_pos _
      | cons low rest =>
        cases parsed : hexCharToUint8 hi low with
        | none =>
          obtain ⟨none, some, -⟩ := @hexCharsLoop_none parseSuccess hi low rest parsed
          rw [none]
          exact some
        | some value =>
          rw [List.length_cons, List.length_cons] at few
          have next := @ih true rest (by omega)
          rw [hexCharsLoop_some parsed, List.length_cons]
          simp only
          omega

theorem read_le_iff {pairs : Nat} {valueStr : List (BitVec 8)} (even : valueStr.length = 2 * pairs)
    (beyond : List (BitVec 8)) :
    (hexCharsLoop parseSuccess (valueStr ++ beyond)).read ≤ valueStr.length ↔
      ∃ c ∈ valueStr, hexCharToHexNibble c = none := by
  induction pairs generalizing valueStr parseSuccess with
  | zero =>
    have some := @written_lt_read parseSuccess beyond.length beyond (by omega)
    rw [List.length_eq_zero_iff.mp even, List.nil_append, List.length_nil]
    refine ⟨fun none => by omega, ?_⟩
    rintro ⟨c, member, -⟩
    cases member
  | succ pairs ih =>
    obtain ⟨hi, others, rfl⟩ := List.exists_cons_of_length_pos (by omega : 0 < valueStr.length)
    rw [List.length_cons] at even
    obtain ⟨low, rest, rfl⟩ := List.exists_cons_of_length_pos (by omega : 0 < others.length)
    rw [List.length_cons] at even
    have next := @ih true rest (by omega)
    rw [List.cons_append, List.cons_append, List.length_cons, List.length_cons]
    simp only [List.mem_cons, exists_eq_or_imp]
    cases parsed : hexCharToUint8 hi low with
    | none =>
      obtain ⟨-, -, few⟩ := @hexCharsLoop_none parseSuccess hi low (rest ++ beyond) parsed
      refine ⟨fun _ => ?_, fun _ => by omega⟩
      rcases hexCharToUint8_none_iff.mp parsed with no | no
      · exact .inl no
      · exact .inr (.inl no)
    | some value =>
      have digits : ¬ (hexCharToHexNibble hi = none ∨ hexCharToHexNibble low = none) := by
        rw [← hexCharToUint8_none_iff, parsed]
        exact Option.some_ne_none value
      rw [not_or] at digits
      rw [hexCharsLoop_some parsed, Nat.add_le_add_iff_right, next, or_iff_right digits.1, or_iff_right digits.2]

/-- The two characters of a byte. -/
def hexPair (byte : BitVec 8) : List (BitVec 8) :=
  [chars.getD ((byte >>> 4) &&& 0xF#8).toNat 0, chars.getD (byte &&& 0xF#8).toNat 0]

theorem hexPair_parsed (byte : BitVec 8) :
    hexCharToUint8 (chars.getD ((byte >>> 4) &&& 0xF#8).toNat 0) (chars.getD (byte &&& 0xF#8).toNat 0) = some byte := by
  revert byte
  decide +kernel

/-- What is printed is written first, whatever comes behind it. -/
theorem written_hexPairs (bytes beyond : List (BitVec 8)) :
    ∃ more, (hexCharsLoop parseSuccess (bytes.flatMap hexPair ++ beyond)).written = bytes ++ more := by
  induction bytes generalizing parseSuccess with
  | nil => exact ⟨_, rfl⟩
  | cons byte bytes ih =>
    obtain ⟨more, written⟩ := @ih true
    refine ⟨more, ?_⟩
    rw [List.flatMap_cons, List.append_assoc, hexPair, List.cons_append, List.cons_append, List.nil_append,
      hexCharsLoop_some (hexPair_parsed byte), written, List.cons_append]

theorem byteAt_uint8ToHexChars {size targetSize : Nat} (src : Bytes size) (target : Bytes targetSize)
    {start length : Nat} (inside : start + length ≤ targetSize) (place : Nat) :
    byteAt (uint8ToHexChars src target start length) place =
      if start ≤ place ∧ place < start + length then hexCharAt src (place - start) else byteAt target place := by
  rw [uint8ToHexChars]
  induction length generalizing target with
  | zero => rw [List.range_zero, List.reverse_nil, List.foldl_nil, if_neg (by omega)]
  | succ length ih =>
    rw [List.range_succ, List.reverse_append, List.reverse_singleton, List.singleton_append, List.foldl_cons,
      ih _ (by omega), byteAt_setIfInBounds _ (by omega)]
    by_cases earlier : start ≤ place ∧ place < start + length
    · rw [if_pos earlier, if_pos (by omega)]
    · rw [if_neg earlier]
      by_cases last : place = start + length
      · rw [if_pos last, if_pos (by omega), last, Nat.add_sub_cancel_left]
      · rw [if_neg last, if_neg (by omega)]

end Xtreme.Toolbox
