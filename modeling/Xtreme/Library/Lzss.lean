import Mathlib.Data.List.Infix
import Xtreme.Library.Coder

/-! The decoding of LZSS, with distances of eight bits and lengths of four: a bit that is set
stands in front of a byte, one that is not in front of a distance and a length. Behind the
last whole part there may be some bits that fill the last byte. -/
namespace Xtreme.Library

def byteBits (byte : BitVec 8) : List Bool := (List.range 8).map byte.getMsbD

def bitsValue (bits : List Bool) : Nat := bits.foldl (fun value bit => 2 * value + bit.toNat) 0

/-- Bytes from so far back, one after the other; in front of the first there are zeros. -/
def copyBack (distance : Nat) : Nat → List (BitVec 8) → List (BitVec 8)
  | 0, given => given
  | count + 1, given =>
    copyBack distance count (given ++ [if distance ≤ given.length then given.getD (given.length - distance) 0 else 0])

/-- Each part takes a bit at least, so that as many rounds as there are bits are enough. -/
def lzssLoop : Nat → List Bool → List (BitVec 8) → List (BitVec 8)
  | fuel + 1, true :: bits, given =>
    if 8 ≤ bits.length then lzssLoop fuel (bits.drop 8) (given ++ [BitVec.ofNat 8 (bitsValue (bits.take 8))]) else given
  | fuel + 1, false :: bits, given =>
    if 12 ≤ bits.length then
      lzssLoop fuel (bits.drop 12)
        (copyBack (bitsValue (bits.take 8) + 1) (bitsValue ((bits.drop 8).take 4) + 1) given)
    else given
  | _, _, given => given

def lzssDecoded (stream : List (BitVec 8)) : List (BitVec 8) :=
  lzssLoop (stream.flatMap byteBits).length (stream.flatMap byteBits) []

theorem prefix_copyBack (distance count : Nat) (given : List (BitVec 8)) : given <+: copyBack distance count given := by
  induction count generalizing given with
  | zero => exact List.prefix_rfl
  | succ count next => exact (List.prefix_append given _).trans (next _)

theorem prefix_lzssLoop (fuel : Nat) (bits : List Bool) (given : List (BitVec 8)) : given <+: lzssLoop fuel bits given := by
  fun_induction lzssLoop fuel bits given with
  | case1 fuel bits given enough next => exact (List.prefix_append given _).trans next
  | case2 => exact List.prefix_rfl
  | case3 fuel bits given enough next => exact (prefix_copyBack _ _ given).trans next
  | case4 => exact List.prefix_rfl
  | case5 => exact List.prefix_rfl

/-- More bits only add to what is decoded. -/
theorem lzssLoop_mono {fuel fuel' : Nat} (less : fuel ≤ fuel') {bits bits' : List Bool} (front : bits <+: bits')
    (given : List (BitVec 8)) : lzssLoop fuel bits given <+: lzssLoop fuel' bits' given := by
  have apart {bits more : List Bool} {n count : Nat} (enough : n ≤ bits.length) (few : count ≤ n) :
      (bits ++ more).drop n = bits.drop n ++ more ∧ (bits ++ more).take count = bits.take count := by
    exact ⟨List.drop_append_of_le_length enough, List.take_append_of_le_length (Nat.le_trans few enough)⟩
  obtain ⟨more, rfl⟩ := front
  fun_induction lzssLoop fuel bits given generalizing fuel' with
  | case1 fuel bits given enough next =>
    obtain ⟨left, rfl⟩ := Nat.exists_eq_add_of_le' (Nat.le_trans (Nat.le_add_left 1 fuel) less)
    have longer : 8 ≤ (bits ++ more).length := by
      rw [List.length_append]
      omega
    obtain ⟨behind, byte⟩ := @apart bits more 8 8 enough (Nat.le_refl _)
    rw [List.cons_append, lzssLoop, if_pos longer, behind, byte]
    exact next (Nat.le_of_succ_le_succ less)
  | case2 => exact prefix_lzssLoop _ _ _
  | case3 fuel bits given enough next =>
    obtain ⟨left, rfl⟩ := Nat.exists_eq_add_of_le' (Nat.le_trans (Nat.le_add_left 1 fuel) less)
    have longer : 12 ≤ (bits ++ more).length := by
      rw [List.length_append]
      omega
    obtain ⟨behind, distance⟩ := @apart bits more 12 8 enough (by decide)
    have count : ((bits ++ more).drop 8).take 4 = (bits.drop 8).take 4 := by
      rw [List.drop_append_of_le_length (by omega), List.take_append_of_le_length (by rw [List.length_drop]; omega)]
    rw [List.cons_append, lzssLoop, if_pos longer, behind, distance, count]
    exact next (Nat.le_of_succ_le_succ less)
  | case4 => exact prefix_lzssLoop _ _ _
  | case5 => exact prefix_lzssLoop _ _ _

theorem lzssDecoded_streamable : Streamable lzssDecoded lzssDecoded where
  nil := rfl
  grows taken more := by
    have bits : (taken ++ more).flatMap byteBits = taken.flatMap byteBits ++ more.flatMap byteBits := List.flatMap_append
    rw [lzssDecoded, lzssDecoded, bits, List.length_append]
    exact lzssLoop_mono (Nat.le_add_right _ _) (List.prefix_append _ _) []
  behind _ := List.prefix_rfl

end Xtreme.Library
