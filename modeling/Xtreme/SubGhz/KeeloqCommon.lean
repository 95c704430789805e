import Xtreme.Library.Rounds
import Mathlib.Algebra.Group.Int.Defs
import Mathlib.Algebra.GroupWithZero.Nat

/-! The KeeLoq cipher (`protocols/keeloq_common.c`): a shift register of 32 bits,
turned 528 times with a nonlinear feedback and one bit of the key a time. -/
namespace Xtreme.SubGhz
open Xtreme.Library

def keeloqNlf : BitVec 32 := 0x3A5C742E

def keeloqBit {width : Nat} (x : BitVec width) (n : Nat) : Bool := x.getLsbD n

/-- `g5`. -/
def keeloqG5 (x : BitVec 32) (a b c d e : Nat) : Nat :=
  (keeloqBit x a).toNat + (keeloqBit x b).toNat * 2 + (keeloqBit x c).toNat * 4 + (keeloqBit x d).toNat * 8 +
    (keeloqBit x e).toNat * 16

/-- One round of `subghz_protocol_keeloq_common_encrypt`, with a bit of the key. -/
def keeloqEncryptRound (keyBit : Bool) (x : BitVec 32) : BitVec 32 :=
  (x >>> 1) ^^^ ((BitVec.ofBool (keeloqBit x 0 ^^ keeloqBit x 16 ^^ keyBit ^^
    keeloqBit keeloqNlf (keeloqG5 x 1 9 20 26 31))).setWidth 32 <<< 31)

/-- One round of `subghz_protocol_keeloq_common_decrypt`. -/
def keeloqDecryptRound (keyBit : Bool) (x : BitVec 32) : BitVec 32 :=
  (x <<< 1) ^^^ (BitVec.ofBool (keeloqBit x 31 ^^ keeloqBit x 15 ^^ keyBit ^^
    keeloqBit keeloqNlf (keeloqG5 x 0 8 19 25 30))).setWidth 32

/-- The bits of the key in the order of the rounds. -/
def encryptSchedule (key : BitVec 64) : List Bool := (List.range 528).map fun r => keeloqBit key (r &&& 63)

/-- The rounds back count in 32 bits, downwards from 15. -/
def decryptSchedule (key : BitVec 64) : List Bool :=
  (List.range 528).map fun r => keeloqBit key ((15#32 - BitVec.ofNat 32 r) &&& 63#32).toNat

def keeloqCommonEncrypt (data : BitVec 32) (key : BitVec 64) : BitVec 32 :=
  rounds keeloqEncryptRound (encryptSchedule key) data

def keeloqCommonDecrypt (data : BitVec 32) (key : BitVec 64) : BitVec 32 :=
  rounds keeloqDecryptRound (decryptSchedule key) data

section
variable (keyBit : Bool) (x : BitVec 32)

/-- A round moves the register down and lets the feedback in at its high end. -/
theorem getLsbD_encryptRound {place : Nat} (inside : place < 32) : (keeloqEncryptRound keyBit x).getLsbD place =
      if place = 31 then keeloqBit x 0 ^^ keeloqBit x 16 ^^ keyBit ^^ keeloqBit keeloqNlf (keeloqG5 x 1 9 20 26 31)
      else x.getLsbD (place + 1) := by
  rw [keeloqEncryptRound, BitVec.getLsbD_xor, BitVec.getLsbD_ushiftRight, Nat.add_comm 1]
  split
  · rename_i last
    subst last
    simp
  · simp [show place < 31 by omega]

/-- A round back moves it up and lets the bit in that went out last. -/
theorem getLsbD_decryptRound {place : Nat} (inside : place < 32) : (keeloqDecryptRound keyBit x).getLsbD place =
      if place = 0 then keeloqBit x 31 ^^ keeloqBit x 15 ^^ keyBit ^^ keeloqBit keeloqNlf (keeloqG5 x 0 8 19 25 30)
      else x.getLsbD (place - 1) := by
  rw [keeloqDecryptRound, BitVec.getLsbD_xor, BitVec.getLsbD_shiftLeft]
  split
  · rename_i first
    subst first
    simp
  · rename_i other
    simp [inside, other]

/-- The other three bits of the feedback cancel, and the one that left the register remains. -/
theorem feedback_twice (out tap key nlf : Bool) : ((out ^^ tap ^^ key ^^ nlf) ^^ tap ^^ key ^^ nlf) = out := by
  cases tap <;> cases key <;> cases nlf <;> simp

theorem decryptRound_encryptRound : keeloqDecryptRound keyBit (keeloqEncryptRound keyBit x) = x := by
  apply BitVec.eq_of_getLsbD_eq
  intro place inside
  have tap (tap : Nat) (below : tap < 31) :
      keeloqBit (keeloqEncryptRound keyBit x) tap = keeloqBit x (tap + 1) := by
    rw [keeloqBit, getLsbD_encryptRound keyBit x (by omega), if_neg (by omega), keeloqBit]
  have last : keeloqBit (keeloqEncryptRound keyBit x) 31 =
      (keeloqBit x 0 ^^ keeloqBit x 16 ^^ keyBit ^^ keeloqBit keeloqNlf (keeloqG5 x 1 9 20 26 31)) := by
    rw [keeloqBit, getLsbD_encryptRound keyBit x (by decide), if_pos rfl]
  have index : keeloqG5 (keeloqEncryptRound keyBit x) 0 8 19 25 30 = keeloqG5 x 1 9 20 26 31 := by
    simp only [keeloqG5, tap 0 (by decide), tap 8 (by decide), tap 19 (by decide), tap 25 (by decide),
      tap 30 (by decide)]
  rw [getLsbD_decryptRound keyBit _ inside]
  by_cases first : place = 0
  · subst first
    rw [last, index, tap 15 (by decide)]
    exact feedback_twice ..
  · rw [if_neg first, getLsbD_encryptRound keyBit x (by omega), if_neg (by omega), Nat.sub_add_cancel (by omega)]

theorem encryptRound_decryptRound : keeloqEncryptRound keyBit (keeloqDecryptRound keyBit x) = x := by
  apply BitVec.eq_of_getLsbD_eq
  intro place inside
  have tap (tap : Nat) (inside : tap + 1 < 32) :
      keeloqBit (keeloqDecryptRound keyBit x) (tap + 1) = keeloqBit x tap := by
    rw [keeloqBit, getLsbD_decryptRound keyBit x inside, if_neg (Nat.succ_ne_zero tap), Nat.add_sub_cancel, keeloqBit]
  have first : keeloqBit (keeloqDecryptRound keyBit x) 0 =
      (keeloqBit x 31 ^^ keeloqBit x 15 ^^ keyBit ^^ keeloqBit keeloqNlf (keeloqG5 x 0 8 19 25 30)) := by
    rw [keeloqBit, getLsbD_decryptRound keyBit x (by decide), if_pos rfl]
  have index : keeloqG5 (keeloqDecryptRound keyBit x) 1 9 20 26 31 = keeloqG5 x 0 8 19 25 30 := by
    simp only [keeloqG5, tap 0 (by decide), tap 8 (by decide), tap 19 (by decide), tap 25 (by decide),
      tap 30 (by decide)]
  rw [getLsbD_encryptRound keyBit _ inside]
  by_cases last : place = 31
  · subst last
    rw [first, index, tap 15 (by decide)]
    exact feedback_twice ..
  · rw [if_neg last, getLsbD_decryptRound keyBit x (by omega), if_neg (by omega), Nat.add_sub_cancel]

end

/-- Counted down from 15 modulo 64, the bits of the key come in the opposite order: the last
round was the 528th, and 527 is 15 modulo 64. -/
theorem decryptSchedule_eq (key : BitVec 64) : decryptSchedule key = (encryptSchedule key).reverse := by
  have turned : ∀ r < 528, ((15#32 - BitVec.ofNat 32 r) &&& 63#32).toNat = (527 - r) &&& 63 := by
    intro r below
    have low (number : Nat) : number &&& 63 = number % 64 := Nat.and_two_pow_sub_one_eq_mod number 6
    rw [BitVec.toNat_and, BitVec.toNat_sub, BitVec.toNat_ofNat, BitVec.toNat_ofNat, BitVec.toNat_ofNat, low, low]
    omega
  apply List.ext_getElem
  · simp [decryptSchedule, encryptSchedule]
  · intro r inside inside'
    have below : r < 528 := by simpa [decryptSchedule] using inside
    simp only [decryptSchedule, encryptSchedule, List.getElem_map, List.getElem_range, List.getElem_reverse,
      List.length_map, List.length_range, turned r below]

/-- With any key, decryption and encryption are bijections of the 32-bit words that undo each other. -/
theorem keeloq_inverse (key : BitVec 64) :
    Function.LeftInverse (keeloqCommonDecrypt · key) (keeloqCommonEncrypt · key) ∧
      Function.RightInverse (keeloqCommonDecrypt · key) (keeloqCommonEncrypt · key) ∧
      Function.Bijective (keeloqCommonEncrypt · key) ∧ Function.Bijective (keeloqCommonDecrypt · key) := by
  have inverse : Function.LeftInverse (keeloqCommonDecrypt · key) (keeloqCommonEncrypt · key) ∧
      Function.RightInverse (keeloqCommonDecrypt · key) (keeloqCommonEncrypt · key) := by
    simp only [keeloqCommonDecrypt, decryptSchedule_eq]
    exact rounds_inverse decryptRound_encryptRound encryptRound_decryptRound (encryptSchedule key)
  exact ⟨inverse.1, inverse.2, ⟨inverse.1.injective, inverse.2.surjective⟩,
    ⟨Function.RightInverse.injective inverse.2, Function.LeftInverse.surjective inverse.1⟩⟩

end Xtreme.SubGhz
