import Xtreme.SubGhz.Blocks
import Xtreme.SubGhz.CustomBtn
import Xtreme.BitLib.Crc
import Xtreme.Library.Rounds
import Xtreme.Library.WordBytes

/-! The codes of Alutech AT-4N remotes (`protocols/alutech_at_4n.c`). A code of 64 bits
is hidden by a network of two halves, whose rounds add up an entry of a table and end
at another one; decryption counts back to zero. -/
namespace Xtreme.SubGhz
open Xtreme.Library BitLib

def noAlutechAt4nRainbowTable : BitVec 32 := 0xFFFFFFFF

/-- `subghz_protocol_alutech_at_4n_get_magic_data_in_file`; there is no file where its name is empty. -/
def alutechAt4nGetMagicDataInFile (file : Option KeystoreRaw) (number : Nat) : BitVec 32 :=
  match file with
  | none => noAlutechAt4nRainbowTable
  | some file =>
    match file (number * 4) 4 with
    | some buffer => joinBytes buffer
    | none => noAlutechAt4nRainbowTable

/-- The variables of both directions: the sum of the rounds, and the halves of the code. -/
structure AlutechState where
  sum : BitVec 32
  first : BitVec 32
  second : BitVec 32
  deriving DecidableEq, Repr

/-- What a half adds to the other one. -/
def alutechMix (entry next half sum : BitVec 32) : BitVec 32 :=
  (entry + (half <<< 4)) ^^^ ((next + (half >>> 5)) ^^^ (half + sum))

section
variable (magicData : Nat → BitVec 32)

/-- The body of the loop of `subghz_protocol_alutech_at_4n_decrypt`. -/
def alutechDecryptTurn (s : AlutechState) : AlutechState :=
  let second := s.second - alutechMix (magicData 1) (magicData 2) s.first s.sum
  ⟨s.sum + magicData 3, s.first - alutechMix (magicData 4) (magicData 5) second s.sum, second⟩

/-- The body of the loop of `subghz_protocol_alutech_at_4n_encrypt`. -/
def alutechEncryptTurn (s : AlutechState) : AlutechState :=
  let sum := s.sum + magicData 6
  let first := s.first + alutechMix (magicData 4) (magicData 5) s.second sum
  ⟨sum, first, s.second + alutechMix (magicData 1) (magicData 2) first sum⟩

/-- Both loops test a sum of 32 bits to which each turn adds the same: one that is not
left after so many turns is never left. -/
def alutechTurns : Nat := 2 ^ 32

/-- The bytes of a code from the lowest one on, four to a half. -/
def AlutechState.ofData (sum : BitVec 32) (data : BitVec 64) : AlutechState :=
  let p := (splitBytes 8 data).reverse
  ⟨sum, joinBytes (p.take 4), joinBytes (p.drop 4)⟩

def AlutechState.data (s : AlutechState) : BitVec 64 := joinBytes (splitBytes 4 s.first ++ splitBytes 4 s.second).reverse

end

/-- `subghz_protocol_alutech_at_4n_decrypt`, none if it does not end. -/
def alutechAt4nDecrypt (data : BitVec 64) (file : Option KeystoreRaw) : Option (BitVec 64) :=
  let magicData := alutechAt4nGetMagicDataInFile file
  (doWhile (alutechDecryptTurn magicData) (fun s => s.sum != 0) alutechTurns
    (.ofData (magicData 0) data)).map AlutechState.data

/-- `subghz_protocol_alutech_at_4n_encrypt`, none if it does not end. -/
def alutechAt4nEncrypt (data : BitVec 64) (file : Option KeystoreRaw) : Option (BitVec 64) :=
  let magicData := alutechAt4nGetMagicDataInFile file
  (doWhile (alutechEncryptTurn magicData) (fun s => s.sum != magicData 0) alutechTurns
    (.ofData 0 data)).map AlutechState.data

/-- `subghz_protocol_alutech_at_4n_crc`. -/
def alutechAt4nCrc (data : BitVec 64) : BitVec 8 :=
  (splitBytes 8 data).reverse.foldl (crc8Byte 0x31 false) 0xFF

/-- `subghz_protocol_alutech_at_4n_decrypt_data_crc`. -/
def alutechAt4nDecryptDataCrc (data : BitVec 8) : BitVec 8 :=
  ~~~((List.range 8).foldl (fun crc _ => crc8Bit 0x31 crc) data)

/-- The highest byte of a decrypted code is the check byte of the lower byte of its counter. -/
def AlutechChecked (data : BitVec 64) : Prop :=
  (data >>> 56).setWidth 8 = alutechAt4nDecryptDataCrc ((data >>> 8).setWidth 8)

instance (data : BitVec 64) : Decidable (AlutechChecked data) := inferInstanceAs (Decidable (_ = _))

/-- The fields of a decrypted code. -/
def SubGhzBlockGeneric.readAlutech (instanc : SubGhzBlockGeneric) (data : BitVec 64) : SubGhzBlockGeneric :=
  { instanc with
    btn := data.setWidth 8
    cnt := ((data >>> 8).setWidth 16).setWidth 32
    serial := (data >>> 24).setWidth 32 }

/-- A decrypted code is taken over if its check byte matches. -/
def SubGhzBlockGeneric.refreshed (instanc : SubGhzBlockGeneric) (data : BitVec 64) : SubGhzBlockGeneric :=
  if AlutechChecked data then instanc.readAlutech data else instanc

/-- `SubGhzProtocolEncoderAlutech_at_4n`, the fields that a code consists of. -/
structure AlutechEncoder where
  generic : SubGhzBlockGeneric
  crc : BitVec 32
  deriving DecidableEq, Repr

/-- The counter of the next code, `mult` behind the last one. -/
def alutechNextCnt (cnt : BitVec 32) (mult : BitVec 8) : BitVec 32 :=
  if cnt < 0xFFFF#32 then
    if 0xFFFF#32 < cnt + mult.signExtend 32 then 0 else cnt + mult.signExtend 32
  else 0

/-- The fields behind their check byte. -/
def alutechFrame (serial cnt : BitVec 32) (btn : BitVec 8) : BitVec 64 :=
  ((alutechAt4nDecryptDataCrc (cnt.setWidth 8)).setWidth 64 <<< 56) ||| (serial.setWidth 64 <<< 24) |||
    (cnt <<< 8).setWidth 64 ||| btn.setWidth 64

/-- `subghz_protocol_alutech_at_4n_gen_data`. The fields are those of the last code, if this one
can be read; `mult` is `furi_hal_subghz_get_rolling_counter_mult`. -/
def alutechAt4nGenData (instanc : AlutechEncoder) (file : Option KeystoreRaw) (btn mult : BitVec 8) :
    Option AlutechEncoder := do
  let data ← alutechAt4nDecrypt (reverseKey instanc.generic.data 64) file
  let generic := instanc.generic.refreshed data
  let cnt := alutechNextCnt generic.cnt mult
  let data ← alutechAt4nEncrypt (alutechFrame generic.serial cnt btn) file
  return {
    generic := { generic with cnt := cnt, data := reverseKey data 64 }
    crc := (reverseKey ((alutechAt4nCrc data).setWidth 64) 8).setWidth 32 }

/-- `subghz_protocol_alutech_at_4n_remote_controller`. -/
def alutechAt4nRemoteController (instanc : SubGhzBlockGeneric) (crc : BitVec 8) (file : Option KeystoreRaw)
    (custom : SubGhzCustomBtn) : Option (SubGhzBlockGeneric × SubGhzCustomBtn) := do
  let data := reverseKey instanc.data 64
  let crc := (reverseKey (crc.setWidth 64) 8).setWidth 8
  let instanc ← if crc = alutechAt4nCrc data then do
      let data ← alutechAt4nDecrypt data file
      pure (instanc.refreshed data)
    else pure { instanc with btn := 0, cnt := 0, serial := 0 }
  return (instanc, { custom.keepOriginal instanc.btn with customBtnMaxBtns := 4 })

/-- The conditions on a table: its entry 6 is the negated entry 3, and entry 0 is a positive
multiple of entry 6, with none of the smaller ones zero. -/
structure AlutechTableFits (magicData : Nat → BitVec 32) (turns : Nat) : Prop where
  opposite : magicData 6 = -magicData 3
  positive : 0 < turns
  ends : magicData 0 = BitVec.ofNat 32 turns * magicData 6
  before : ∀ fewer < turns, 0 < fewer → BitVec.ofNat 32 fewer * magicData 6 ≠ 0

section
variable {magicData : Nat → BitVec 32}

theorem decryptTurn_encryptTurn (opposite : magicData 6 = -magicData 3) (s : AlutechState) :
    alutechDecryptTurn magicData (alutechEncryptTurn magicData s) = s := by
  have sum : s.sum + magicData 6 + magicData 3 = s.sum := by
    rw [opposite, ← BitVec.sub_eq_add_neg, BitVec.sub_add_cancel]
  simp only [alutechDecryptTurn, alutechEncryptTurn, BitVec.add_sub_cancel, sum]

theorem encryptTurn_decryptTurn (opposite : magicData 6 = -magicData 3) (s : AlutechState) :
    alutechEncryptTurn magicData (alutechDecryptTurn magicData s) = s := by
  have sum : s.sum + magicData 3 + magicData 6 = s.sum := by
    rw [opposite, ← BitVec.sub_eq_add_neg, BitVec.add_sub_cancel]
  simp only [alutechDecryptTurn, alutechEncryptTurn, BitVec.sub_add_cancel, sum]

theorem ofNat_succ_mul (count : Nat) (entry : BitVec 32) :
    BitVec.ofNat 32 (count + 1) * entry = BitVec.ofNat 32 count * entry + entry := by
  rw [BitVec.ofNat_add, BitVec.add_mul, BitVec.one_mul]

theorem sum_encryptTurns (count : Nat) (s : AlutechState) :
    ((alutechEncryptTurn magicData)^[count] s).sum = s.sum + BitVec.ofNat 32 count * magicData 6 := by
  induction count with
  | zero => simp
  | succ count ih =>
    rw [Function.iterate_succ_apply', ofNat_succ_mul, ← BitVec.add_assoc, ← ih]
    rfl

theorem sum_decryptTurns (opposite : magicData 6 = -magicData 3) (count : Nat) (s : AlutechState) :
    ((alutechDecryptTurn magicData)^[count] s).sum + BitVec.ofNat 32 count * magicData 6 = s.sum := by
  have back := (Function.LeftInverse.iterate (encryptTurn_decryptTurn opposite) count) s
  rw [← sum_encryptTurns, back]

namespace AlutechTableFits
variable {turns : Nat} (fits : AlutechTableFits magicData turns)
include fits

/-- The multiples of a word of 32 bits return to zero in time for the loops. -/
theorem turns_le : turns ≤ alutechTurns := by
  by_contra more
  have zero : BitVec.ofNat 32 alutechTurns * magicData 6 = 0 := by
    exact BitVec.zero_mul
  exact fits.before alutechTurns (Nat.not_le.mp more) (by decide) zero

/-- Entry 0 is not reached before the last turn. -/
theorem multiple_ne {fewer : Nat} (positive : 0 < fewer) (less : fewer < turns) :
    BitVec.ofNat 32 fewer * magicData 6 ≠ magicData 0 := by
  intro same
  obtain ⟨rest, rfl⟩ := Nat.exists_eq_add_of_le (Nat.le_of_lt less)
  rw [fits.ends, BitVec.ofNat_add, BitVec.add_mul, BitVec.self_eq_add_right] at same
  exact fits.before rest (by omega) (by omega) same

theorem encrypt_turns {s : AlutechState} (begins : s.sum = 0) :
    doWhile (alutechEncryptTurn magicData) (fun s => s.sum != magicData 0) alutechTurns s =
      some ((alutechEncryptTurn magicData)^[turns] s) := by
  have sum (count : Nat) : ((alutechEncryptTurn magicData)^[count] s).sum = BitVec.ofNat 32 count * magicData 6 := by
    rw [sum_encryptTurns, begins]
    exact BitVec.zero_add _
  obtain ⟨last, rfl⟩ : ∃ last, turns = last + 1 := ⟨turns - 1, (Nat.sub_add_cancel fits.positive).symm⟩
  refine doWhile_eq_some ?_ (fun turn below => ?_) fits.turns_le
  · rw [bne_eq_false_iff_eq, sum, fits.ends]
  · rw [bne_iff_ne, sum]
    exact fits.multiple_ne (Nat.succ_pos turn) (Nat.succ_lt_succ below)

theorem decrypt_turns {s : AlutechState} (begins : s.sum = magicData 0) :
    doWhile (alutechDecryptTurn magicData) (fun s => s.sum != 0) alutechTurns s =
      some ((alutechDecryptTurn magicData)^[turns] s) := by
  have sum (count : Nat) : ((alutechDecryptTurn magicData)^[count] s).sum = 0 ↔
      BitVec.ofNat 32 count * magicData 6 = magicData 0 := by
    rw [← begins, ← sum_decryptTurns fits.opposite count s, BitVec.self_eq_add_left]
    exact Iff.rfl
  obtain ⟨last, rfl⟩ : ∃ last, turns = last + 1 := ⟨turns - 1, (Nat.sub_add_cancel fits.positive).symm⟩
  refine doWhile_eq_some ?_ (fun turn below => ?_) fits.turns_le
  · rw [bne_eq_false_iff_eq, sum, fits.ends]
  · rw [bne_iff_ne, Ne, sum]
    exact fits.multiple_ne (Nat.succ_pos turn) (Nat.succ_lt_succ below)

end AlutechTableFits

end

namespace AlutechState

theorem ofData_data (s : AlutechState) : ofData s.sum s.data = s := by
  have bytes : (splitBytes 8 s.data).reverse = splitBytes 4 s.first ++ splitBytes 4 s.second := by
    have joined := @splitBytes_joinBytes 64 (splitBytes 4 s.first ++ splitBytes 4 s.second).reverse (by simp)
    simpa [AlutechState.data] using joined
  rw [ofData, bytes, List.take_left' (length_splitBytes 4 s.first), List.drop_left' (length_splitBytes 4 s.first),
    joinBytes_splitBytes (by decide), joinBytes_splitBytes (by decide)]

theorem data_ofData (sum : BitVec 32) (data : BitVec 64) : (ofData sum data).data = data := by
  have half (bytes : List (BitVec 8)) (four : bytes.length = 4) : splitBytes 4 (joinBytes bytes : BitVec 32) = bytes := by
    rw [← four]
    exact splitBytes_joinBytes (by omega)
  simp only [ofData, AlutechState.data]
  rw [half _ (by simp), half _ (by simp), List.take_append_drop, List.reverse_reverse, joinBytes_splitBytes (by decide)]

end AlutechState

section
variable (magicData : Nat → BitVec 32) (turns : Nat) (data : BitVec 64)

/-- A code after so many turns of encryption. -/
def alutechEncrypted : BitVec 64 := ((alutechEncryptTurn magicData)^[turns] (.ofData 0 data)).data

/-- A code after so many turns of decryption. -/
def alutechDecrypted : BitVec 64 := ((alutechDecryptTurn magicData)^[turns] (.ofData (magicData 0) data)).data

end

namespace AlutechTableFits

section
variable {magicData : Nat → BitVec 32} {turns : Nat} (fits : AlutechTableFits magicData turns)
include fits

theorem decrypted_encrypted : Function.LeftInverse (alutechDecrypted magicData turns) (alutechEncrypted magicData turns) := by
  intro data
  have sum : ((alutechEncryptTurn magicData)^[turns] (.ofData 0 data)).sum = magicData 0 := by
    rw [sum_encryptTurns, fits.ends]
    exact BitVec.zero_add _
  rw [alutechDecrypted, alutechEncrypted, ← sum, AlutechState.ofData_data,
    Function.LeftInverse.iterate (decryptTurn_encryptTurn fits.opposite) turns, AlutechState.data_ofData]

theorem encrypted_decrypted : Function.RightInverse (alutechDecrypted magicData turns) (alutechEncrypted magicData turns) := by
  intro data
  have sum : ((alutechDecryptTurn magicData)^[turns] (.ofData (magicData 0) data)).sum = 0 := by
    have lost := sum_decryptTurns fits.opposite turns (.ofData (magicData 0) data)
    rw [← fits.ends] at lost
    exact BitVec.add_left_eq_self.mp lost
  rw [alutechEncrypted, alutechDecrypted, ← sum, AlutechState.ofData_data,
    Function.LeftInverse.iterate (encryptTurn_decryptTurn fits.opposite) turns, AlutechState.data_ofData]

end

section
variable {file : Option KeystoreRaw} {turns : Nat} (fits : AlutechTableFits (alutechAt4nGetMagicDataInFile file) turns)
include fits

theorem alutechAt4nEncrypt_eq (data : BitVec 64) :
    alutechAt4nEncrypt data file = some (alutechEncrypted (alutechAt4nGetMagicDataInFile file) turns data) := by
  rw [alutechAt4nEncrypt, fits.encrypt_turns rfl]
  rfl

theorem alutechAt4nDecrypt_eq (data : BitVec 64) :
    alutechAt4nDecrypt data file = some (alutechDecrypted (alutechAt4nGetMagicDataInFile file) turns data) := by
  rw [alutechAt4nDecrypt, fits.decrypt_turns rfl]
  rfl

end

end AlutechTableFits

/-! ## Codes and their fields -/

section
variable (serial : BitVec 32) (cnt : BitVec 16) (btn : BitVec 8)

/-- The bits of a code: button, counter, serial number and check byte, from the low end on. -/
theorem getLsbD_alutechFrame {place : Nat} (inside : place < 64) :
    (alutechFrame serial (cnt.setWidth 32) btn).getLsbD place =
      if place < 8 then btn.getLsbD place
      else if place < 24 then cnt.getLsbD (place - 8)
      else if place < 56 then serial.getLsbD (place - 24)
      else (alutechAt4nDecryptDataCrc (cnt.setWidth 8)).getLsbD (place - 56) := by
  have low : (cnt.setWidth 32).setWidth 8 = cnt.setWidth 8 := BitVec.setWidth_setWidth_of_le cnt (by decide)
  simp only [alutechFrame, BitVec.getLsbD_or, BitVec.getLsbD_shiftLeft, BitVec.getLsbD_setWidth,
    decide_eq_true inside]
  by_cases button : place < 8
  · simp [button, show place < 24 by omega, show place < 56 by omega]
  by_cases counter : place < 24
  · simp [counter, show place < 56 by omega, show place < 32 by omega, show place - 8 < 32 by omega,
      BitVec.getLsbD_of_ge btn place (by omega)]
  by_cases number : place < 56
  · simp [button, number, BitVec.getLsbD_of_ge btn place (by omega),
      BitVec.getLsbD_of_ge cnt (place - 8) (by omega), show place - 24 < 64 by omega]
  · simp [button, counter, BitVec.getLsbD_of_ge btn place (by omega), show place - 56 < 64 by omega,
      BitVec.getLsbD_of_ge cnt (place - 8) (by omega), BitVec.getLsbD_of_ge serial (place - 24) (by omega)]

theorem readAlutech_frame (generic : SubGhzBlockGeneric) :
    generic.readAlutech (alutechFrame serial (cnt.setWidth 32) btn) =
      { generic with btn := btn, cnt := cnt.setWidth 32, serial := serial } := by
  have button : (alutechFrame serial (cnt.setWidth 32) btn).setWidth 8 = btn := by
    apply BitVec.eq_of_getLsbD_eq
    intro place inside
    rw [BitVec.getLsbD_setWidth, decide_eq_true inside, Bool.true_and, getLsbD_alutechFrame _ _ _ (by omega),
      if_pos inside]
  have counter : (alutechFrame serial (cnt.setWidth 32) btn >>> 8).setWidth 16 = cnt := by
    apply BitVec.eq_of_getLsbD_eq
    intro place inside
    rw [BitVec.getLsbD_setWidth, decide_eq_true inside, Bool.true_and, BitVec.getLsbD_ushiftRight,
      getLsbD_alutechFrame _ _ _ (by omega), if_neg (by omega), if_pos (by omega), Nat.add_sub_cancel_left]
  have number : (alutechFrame serial (cnt.setWidth 32) btn >>> 24).setWidth 32 = serial := by
    apply BitVec.eq_of_getLsbD_eq
    intro place inside
    rw [BitVec.getLsbD_setWidth, decide_eq_true inside, Bool.true_and, BitVec.getLsbD_ushiftRight,
      getLsbD_alutechFrame _ _ _ (by omega), if_neg (by omega), if_neg (by omega), if_pos (by omega),
      Nat.add_sub_cancel_left]
  rw [SubGhzBlockGeneric.readAlutech, button, counter, number]

theorem alutechChecked_frame : AlutechChecked (alutechFrame serial (cnt.setWidth 32) btn) := by
  have counter : (alutechFrame serial (cnt.setWidth 32) btn >>> 8).setWidth 8 = cnt.setWidth 8 := by
    apply BitVec.eq_of_getLsbD_eq
    intro place inside
    rw [BitVec.getLsbD_setWidth, BitVec.getLsbD_setWidth, BitVec.getLsbD_ushiftRight,
      getLsbD_alutechFrame _ _ _ (by omega), if_neg (by omega), if_pos (by omega), Nat.add_sub_cancel_left]
  apply BitVec.eq_of_getLsbD_eq
  intro place inside
  rw [counter, BitVec.getLsbD_setWidth, decide_eq_true inside, Bool.true_and, BitVec.getLsbD_ushiftRight,
    getLsbD_alutechFrame _ _ _ (by omega), if_neg (by omega), if_neg (by omega), if_neg (by omega),
    Nat.add_sub_cancel_left]

end

/-- A counter never leaves 16 bits. -/
theorem alutechNextCnt_eq (cnt : BitVec 32) (mult : BitVec 8) :
    ((alutechNextCnt cnt mult).setWidth 16).setWidth 32 = alutechNextCnt cnt mult := by
  have small : (alutechNextCnt cnt mult).toNat < 2 ^ 16 := by
    rw [alutechNextCnt]
    split
    · split
      · decide
      · rename_i inside
        simpa [BitVec.lt_def, Nat.lt_succ_iff] using inside
    · decide
  apply BitVec.eq_of_toNat_eq
  rw [BitVec.toNat_setWidth, BitVec.toNat_setWidth, Nat.mod_eq_of_lt small, Nat.mod_eq_of_lt (by omega)]

/-- A check byte is sent backwards, and is turned round again. -/
theorem reverseKey_byte (crc : BitVec 8) :
    (reverseKey ((((reverseKey (crc.setWidth 64) 8).setWidth 32).setWidth 8 : BitVec 8).setWidth 64) 8).setWidth 8 = crc := by
  have fits : (reverseKey (crc.setWidth 64) 8).toNat < 2 ^ 8 := reverseKey_lt _ (by decide)
  have whole : (((reverseKey (crc.setWidth 64) 8).setWidth 32).setWidth 8 : BitVec 8).setWidth 64 =
      reverseKey (crc.setWidth 64) 8 := by
    apply BitVec.eq_of_toNat_eq
    simp only [BitVec.toNat_setWidth]
    omega
  have small : (crc.setWidth 64).toNat < 2 ^ 8 := by
    rw [BitVec.toNat_setWidth]
    omega
  rw [whole, reverseKey_reverseKey (by decide) small, BitVec.setWidth_setWidth_of_le crc (by decide), BitVec.setWidth_eq]

/-- A receiver takes over what a code with the right checksum hides. -/
theorem remoteController_eq {instanc : SubGhzBlockGeneric} {crc : BitVec 8} {file : Option KeystoreRaw}
    {code frame : BitVec 64} (custom : SubGhzCustomBtn) (data : reverseKey instanc.data 64 = code)
    (check : (reverseKey (crc.setWidth 64) 8).setWidth 8 = alutechAt4nCrc code)
    (shown : alutechAt4nDecrypt code file = some frame) :
    alutechAt4nRemoteController instanc crc file custom =
      some (instanc.refreshed frame, { custom.keepOriginal (instanc.refreshed frame).btn with customBtnMaxBtns := 4 }) := by
  simp only [alutechAt4nRemoteController, data, check, shown]
  rfl

theorem alutechChecked_next (serial cnt : BitVec 32) (btn mult : BitVec 8) :
    AlutechChecked (alutechFrame serial (alutechNextCnt cnt mult) btn) := by
  have small := alutechChecked_frame serial ((alutechNextCnt cnt mult).setWidth 16) btn
  rwa [alutechNextCnt_eq] at small

/-- The fields of the next code are taken over. -/
theorem refreshed_next (serial cnt : BitVec 32) (btn mult : BitVec 8) (receiver : SubGhzBlockGeneric) :
    receiver.refreshed (alutechFrame serial (alutechNextCnt cnt mult) btn) =
      { receiver with btn := btn, cnt := alutechNextCnt cnt mult, serial := serial } := by
  have read := readAlutech_frame serial ((alutechNextCnt cnt mult).setWidth 16) btn receiver
  rw [alutechNextCnt_eq] at read
  rw [SubGhzBlockGeneric.refreshed, if_pos (alutechChecked_next serial cnt btn mult), read]

theorem genData_read {file : Option KeystoreRaw} {encrypt decrypt : BitVec 64 → BitVec 64}
    (encrypted : ∀ data, alutechAt4nEncrypt data file = some (encrypt data))
    (decrypted : ∀ data, alutechAt4nDecrypt data file = some (decrypt data))
    (left : Function.LeftInverse decrypt encrypt) (instanc : AlutechEncoder) (btn mult : BitVec 8) :
    ∃ sent, alutechAt4nGenData instanc file btn mult = some sent ∧
      sent.generic.serial = (instanc.generic.refreshed (decrypt (reverseKey instanc.generic.data 64))).serial ∧
      sent.generic.cnt =
        alutechNextCnt (instanc.generic.refreshed (decrypt (reverseKey instanc.generic.data 64))).cnt mult ∧
      AlutechChecked (decrypt (reverseKey sent.generic.data 64)) ∧
      ∀ (receiver : SubGhzBlockGeneric) (custom : SubGhzCustomBtn), receiver.data = sent.generic.data →
        alutechAt4nRemoteController receiver (sent.crc.setWidth 8) file custom =
          some ({ receiver with btn := btn, cnt := sent.generic.cnt, serial := sent.generic.serial },
            { custom.keepOriginal btn with customBtnMaxBtns := 4 }) := by
  generalize known : instanc.generic.refreshed (decrypt (reverseKey instanc.generic.data 64)) = generic
  generalize made : alutechFrame generic.serial (alutechNextCnt generic.cnt mult) btn = frame
  have back : reverseKey (reverseKey (encrypt frame) 64) 64 = encrypt frame :=
    reverseKey_reverseKey (Nat.le_refl 64) (encrypt frame).isLt
  refine ⟨⟨{ generic with cnt := alutechNextCnt generic.cnt mult, data := reverseKey (encrypt frame) 64 },
    (reverseKey ((alutechAt4nCrc (encrypt frame)).setWidth 64) 8).setWidth 32⟩, ?_, rfl, rfl, ?_,
    fun receiver custom same => ?_⟩
  · simp only [alutechAt4nGenData, decrypted, encrypted, Option.bind_eq_bind, Option.bind_some, known, made]
    rfl
  · rw [back, left, ← made]
    exact alutechChecked_next generic.serial generic.cnt btn mult
  · have data : reverseKey receiver.data 64 = encrypt frame := by rw [same, back]
    have shown : alutechAt4nDecrypt (encrypt frame) file = some frame := by rw [decrypted, left]
    have fields : receiver.refreshed frame = _ := made ▸ refreshed_next generic.serial generic.cnt btn mult receiver
    have read := remoteController_eq custom data (reverseKey_byte (alutechAt4nCrc (encrypt frame))) shown
    rw [fields] at read
    exact read

/-- A table that adds up eight times the constant of the TEA cipher. -/
def teaTable : KeystoreRaw := fun address _ =>
  some (if address = 24 then [0x9E, 0x37, 0x79, 0xB9] else if address = 12 then [0x61, 0xC8, 0x86, 0x47]
    else if address = 0 then [0xF1, 0xBB, 0xCD, 0xC8] else [0, 0, 0, 0])

end Xtreme.SubGhz
