import Mathlib.Data.List.Basic

/-! Cipher block chaining: each block is mixed with the encrypted one in front of it,
the first one with an initial value. A chain can be decrypted from any block on by
who has the encrypted block in front of it (`chainDecrypt_drop`). -/
namespace Xtreme.Library

structure BlockCipher (α : Type*) where
  encrypt : α → α
  decrypt : α → α
  decrypt_encrypt : ∀ block, decrypt (encrypt block) = block

/-- Two blocks are mixed, and to mix the second one in again takes it out. -/
class Mixing (α : Type*) where
  mix : α → α → α
  mix_mix : ∀ block other, mix (mix block other) other = block

namespace BlockCipher
open Mixing
variable {α : Type*} [Mixing α] (cipher : BlockCipher α)

def chainEncrypt (iv : α) : List α → List α
  | [] => []
  | block :: rest => cipher.encrypt (mix block iv) :: chainEncrypt (cipher.encrypt (mix block iv)) rest

def chainDecrypt (iv : α) : List α → List α
  | [] => []
  | block :: rest => mix (cipher.decrypt block) iv :: chainDecrypt block rest

@[simp] theorem length_chainEncrypt (iv : α) (blocks : List α) :
    (cipher.chainEncrypt iv blocks).length = blocks.length := by
  induction blocks generalizing iv with
  | nil => rfl
  | cons block rest next => rw [chainEncrypt, List.length_cons, next, List.length_cons]

/-- A chain goes on behind its last encrypted block. -/
theorem chainEncrypt_append (iv : α) (blocks more : List α) : cipher.chainEncrypt iv (blocks ++ more) =
      cipher.chainEncrypt iv blocks ++ cipher.chainEncrypt ((cipher.chainEncrypt iv blocks).getLastD iv) more := by
  induction blocks generalizing iv with
  | nil => rfl
  | cons block rest next =>
    rw [List.cons_append, chainEncrypt, next, chainEncrypt, List.cons_append, List.getLastD_cons]

theorem chainDecrypt_take (iv : α) (blocks : List α) (count : Nat) :
    cipher.chainDecrypt iv (blocks.take count) = (cipher.chainDecrypt iv blocks).take count := by
  induction blocks generalizing iv count with
  | nil =>
    rw [List.take_nil, chainDecrypt, List.take_nil]
  | cons block rest next =>
    cases count with
    | zero => rfl
    | succ count => rw [List.take_succ_cons, chainDecrypt, next, chainDecrypt, List.take_succ_cons]

theorem chainDecrypt_chainEncrypt (iv : α) (blocks : List α) :
    cipher.chainDecrypt iv (cipher.chainEncrypt iv blocks) = blocks := by
  induction blocks generalizing iv with
  | nil => rfl
  | cons block rest next => rw [chainEncrypt, chainDecrypt, next, cipher.decrypt_encrypt, mix_mix]

theorem chainDecrypt_drop {iv previous : α} {blocks : List α} {index : Nat}
    (there : (cipher.chainEncrypt iv blocks)[index]? = some previous) :
    cipher.chainDecrypt previous ((cipher.chainEncrypt iv blocks).drop (index + 1)) = blocks.drop (index + 1) := by
  induction blocks generalizing iv index with
  | nil => cases there
  | cons block rest next =>
    cases index with
    | zero =>
      cases there
      exact cipher.chainDecrypt_chainEncrypt _ rest
    | succ index => exact next there

end BlockCipher
end Xtreme.Library
