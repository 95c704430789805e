import Xtreme.SubGhz.Blocks
import Xtreme.Library.WordBytes

/-! The cipher of Nice Flor-S remotes (`protocols/nice_flor_s.c`). Six bytes of a code
are mixed with bytes of a table, which the first of them selects by its lower and by
its upper bits in turn. -/
namespace Xtreme.SubGhz
open Xtreme.Library

/-- `subghz_protocol_nice_flor_s_get_byte_in_file`. -/
def niceFlorSGetByteInFile (file : Option KeystoreRaw) (address : Nat) : BitVec 8 :=
  match file with
  | none => 0
  | some file => ((file address 1).bind List.head?).getD 0

/-- `uint8_t* p`, the bytes of `data` from the lowest one on. -/
structure FlorSBytes where
  p0 : BitVec 8
  p1 : BitVec 8
  p2 : BitVec 8
  p3 : BitVec 8
  p4 : BitVec 8
  p5 : BitVec 8
  p6 : BitVec 8
  p7 : BitVec 8
  deriving DecidableEq, Repr

namespace FlorSBytes

def ofData (data : BitVec 64) : FlorSBytes where
  p0 := data.extractLsb' 0 8
  p1 := data.extractLsb' 8 8
  p2 := data.extractLsb' 16 8
  p3 := data.extractLsb' 24 8
  p4 := data.extractLsb' 32 8
  p5 := data.extractLsb' 40 8
  p6 := data.extractLsb' 48 8
  p7 := data.extractLsb' 56 8

def bytes (p : FlorSBytes) : List (BitVec 8) := [p.p7, p.p6, p.p5, p.p4, p.p3, p.p2, p.p1, p.p0]

def data (p : FlorSBytes) : BitVec 64 := joinBytes p.bytes

/-- `subghz_protocol_decoder_nice_flor_s_magic_xor`. -/
def magicXor (p : FlorSBytes) (k : BitVec 8) : FlorSBytes :=
  { p with p1 := p.p1 ^^^ k, p2 := p.p2 ^^^ k, p3 := p.p3 ^^^ k, p4 := p.p4 ^^^ k, p5 := p.p5 ^^^ k }

/-- The half of a round that takes `k` from the table and mixes the bits of `mask` into the first byte. -/
def mixed (p : FlorSBytes) (k mask : BitVec 8) : FlorSBytes :=
  let p := p.magicXor k
  { p with p5 := p.p5 &&& 0x0F#8, p0 := p.p0 ^^^ (k &&& mask) }

def mixedByLow (file : Option KeystoreRaw) (p : FlorSBytes) : FlorSBytes :=
  p.mixed (niceFlorSGetByteInFile file (p.p0 &&& 0x1F#8).toNat) 0xE0#8

def mixedByHigh (file : Option KeystoreRaw) (p : FlorSBytes) : FlorSBytes :=
  p.mixed (niceFlorSGetByteInFile file (p.p0 >>> 3).toNat + 0x25#8) 0x07#8

/-- The first two bytes are exchanged between the rounds. -/
def exchanged (p : FlorSBytes) : FlorSBytes := { p with p0 := p.p1, p1 := p.p0 }

/-- What encryption does behind its rounds. -/
def scrambled (p : FlorSBytes) : FlorSBytes :=
  { p with
    p0 := ~~~p.p2
    p1 := ~~~p.p3
    p2 := ~~~p.p4
    p3 := ~~~p.p1
    p4 := ~~~p.p0
    p5 := ~~~p.p5 &&& 0x0F#8 }

/-- What decryption does before its rounds. -/
def unscrambled (p : FlorSBytes) : FlorSBytes :=
  { p with
    p0 := ~~~p.p4
    p1 := ~~~p.p3
    p2 := ~~~p.p0
    p3 := ~~~p.p1
    p4 := ~~~p.p2
    p5 := ~~~p.p5 }

end FlorSBytes

def niceFlorSEncrypt (data : BitVec 64) (file : Option KeystoreRaw) : BitVec 64 :=
  let p := (((FlorSBytes.ofData data).mixedByLow file).mixedByHigh file).exchanged
  (((p.mixedByLow file).mixedByHigh file).scrambled).data

def niceFlorSDecrypt (data : BitVec 64) (file : Option KeystoreRaw) : BitVec 64 :=
  let p := (((FlorSBytes.ofData data).unscrambled.mixedByHigh file).mixedByLow file).exchanged
  ((p.mixedByHigh file).mixedByLow file).data

/-- Mixed a second time with the same byte, the bits under a mask are the old ones. -/
theorem masked_twice (byte k mask : BitVec 8) : ((((byte ^^^ k) &&& mask) ^^^ k) &&& mask) = byte &&& mask := by
  apply BitVec.eq_of_getLsbD_eq
  intro place _
  simp only [BitVec.getLsbD_and, BitVec.getLsbD_xor]
  cases byte.getLsbD place <;> cases k.getLsbD place <;> cases mask.getLsbD place <;> rfl

theorem masked_first (byte k mask : BitVec 8) : (((byte &&& mask) ^^^ k) &&& mask) = (byte ^^^ k) &&& mask := by
  apply BitVec.eq_of_getLsbD_eq
  intro place _
  simp only [BitVec.getLsbD_and, BitVec.getLsbD_xor]
  cases mask.getLsbD place <;> simp

/-- Bits mixed in under one mask do not show under another one. -/
theorem masked_apart (byte k : BitVec 8) {mask other : BitVec 8} (apart : mask &&& other = 0#8) :
    (byte ^^^ (k &&& mask)) &&& other = byte &&& other := by
  apply BitVec.eq_of_getLsbD_eq
  intro place _
  have bit : (mask.getLsbD place && other.getLsbD place) = false := by
    rw [← BitVec.getLsbD_and, apart, BitVec.getLsbD_zero]
  simp only [BitVec.getLsbD_and]
  cases shown : other.getLsbD place
  · simp
  · rw [shown, Bool.and_true] at bit
    simp [bit]

namespace FlorSBytes

/-- What a code of 44 bits keeps of the bytes. -/
def low (p : FlorSBytes) : FlorSBytes := { p with p5 := p.p5 &&& 0x0F#8, p6 := 0, p7 := 0 }

variable (file : Option KeystoreRaw) (p : FlorSBytes) (k mask : BitVec 8)

theorem low_mixed_low : (p.low.mixed k mask).low = (p.mixed k mask).low := by
  simp only [low, mixed, magicXor, masked_first]

theorem low_mixed_mixed : ((p.mixed k mask).mixed k mask).low = p.low := by
  simp only [low, mixed, magicXor, masked_twice, BitVec.xor_assoc, BitVec.xor_self, BitVec.xor_zero,
    BitVec.and_assoc, BitVec.and_self]

/-- The lower bits of the first byte select the byte that changes its upper ones. -/
theorem low_mixedByLow_twice : ((p.mixedByLow file).mixedByLow file).low = p.low := by
  have same : (p.mixedByLow file).p0 &&& 0x1F#8 = p.p0 &&& 0x1F#8 := masked_apart _ _ (by decide)
  rw [mixedByLow, same, mixedByLow, low_mixed_mixed]

theorem low_mixedByHigh_twice : ((p.mixedByHigh file).mixedByHigh file).low = p.low := by
  have same : (p.mixedByHigh file).p0 >>> 3 = p.p0 >>> 3 := by
    show (p.p0 ^^^ (_ &&& 0x07#8)) >>> 3 = p.p0 >>> 3
    rw [BitVec.ushiftRight_xor_distrib, BitVec.ushiftRight_and_distrib]
    simp
  rw [mixedByHigh, same, mixedByHigh, low_mixed_mixed]

/-- A part of the cipher that makes of the bytes a code keeps, and of nothing else, those it leaves. -/
def LowDetermined (part : FlorSBytes → FlorSBytes) : Prop := ∀ p, (part p.low).low = (part p).low

variable {p} {q : FlorSBytes}

theorem LowDetermined.congr {part : FlorSBytes → FlorSBytes} (determined : LowDetermined part)
    (same : p.low = q.low) : (part p).low = (part q).low := by
  rw [← determined p, same, determined q]

theorem lowDetermined_mixedByLow : LowDetermined (mixedByLow file) := fun p => low_mixed_low p _ _

theorem lowDetermined_mixedByHigh : LowDetermined (mixedByHigh file) := fun p => low_mixed_low p _ _

theorem lowDetermined_exchanged : LowDetermined exchanged := by
  intro p
  simp only [low, exchanged, BitVec.and_assoc, BitVec.and_self]

theorem lowDetermined_unscrambled : LowDetermined unscrambled := by
  intro p
  have nibble : ~~~(p.p5 &&& 0x0F#8) &&& 0x0F#8 = ~~~p.p5 &&& 0x0F#8 := by
    rw [← BitVec.xor_allOnes, ← BitVec.xor_allOnes, masked_first]
  simp only [low, unscrambled, nibble]

theorem low_unscrambled_scrambled : p.scrambled.unscrambled.low = p.low := by
  have nibble : ~~~(~~~p.p5 &&& 0x0F#8) &&& 0x0F#8 = p.p5 &&& 0x0F#8 := by
    rw [← BitVec.xor_allOnes, ← BitVec.xor_allOnes, masked_twice]
  simp only [low, scrambled, unscrambled, nibble, BitVec.not_not]

theorem ofData_data (p : FlorSBytes) : ofData p.data = p := by
  have same : (ofData p.data).bytes = p.bytes := @splitBytes_joinBytes 64 p.bytes (Nat.le_refl 64)
  simp only [bytes, List.cons.injEq] at same
  obtain ⟨h7, h6, h5, h4, h3, h2, h1, h0⟩ := same
  simp only [ofData] at *
  simp only [h7, h6, h5, h4, h3, h2, h1, h0]

theorem data_ofData (word : BitVec 64) : (ofData word).data = word :=
  joinBytes_splitBytes (show 64 ≤ 8 * 8 by decide) word

theorem setWidth_low_data (p : FlorSBytes) : p.low.data.setWidth 44 = p.data.setWidth 44 := by
  have nibble : ∀ place < 4, (0x0F#8).getLsbD place = true := by decide
  apply BitVec.eq_of_getLsbD_eq
  intro place inside
  rw [BitVec.getLsbD_setWidth, BitVec.getLsbD_setWidth, data, data, getLsbD_joinBytes _ (by omega),
    getLsbD_joinBytes _ (by omega)]
  congr 1
  by_cases whole : place < 40
  · have index : place / 8 = 0 ∨ place / 8 = 1 ∨ place / 8 = 2 ∨ place / 8 = 3 ∨ place / 8 = 4 := by omega
    rcases index with index | index | index | index | index <;> rw [index] <;> rfl
  · rw [show place / 8 = 5 by omega]
    show (p.p5 &&& 0x0F#8).getLsbD (place % 8) = p.p5.getLsbD (place % 8)
    rw [BitVec.getLsbD_and, nibble _ (by omega), Bool.and_true]

theorem low_ofData_or (word button : BitVec 64) : (ofData (word ||| (button <<< 44))).low = (ofData word).low := by
  have below {place : Nat} (low : place < 44) : (word ||| (button <<< 44)).getLsbD place = word.getLsbD place := by
    rw [BitVec.getLsbD_or, BitVec.getLsbD_shiftLeft, decide_eq_true low, Bool.not_true, Bool.and_false, Bool.false_and,
      Bool.or_false]
  have whole (start : Nat) (room : start + 8 ≤ 44) :
      (word ||| (button <<< 44)).extractLsb' start 8 = word.extractLsb' start 8 := by
    apply BitVec.eq_of_getLsbD_eq
    intro place inside
    rw [BitVec.getLsbD_extractLsb', BitVec.getLsbD_extractLsb', below (by omega)]
  have nibble : (word ||| (button <<< 44)).extractLsb' 40 8 &&& 0x0F#8 = word.extractLsb' 40 8 &&& 0x0F#8 := by
    have above : ∀ place < 8, 4 ≤ place → (0x0F#8).getLsbD place = false := by decide
    apply BitVec.eq_of_getLsbD_eq
    intro place inside
    rw [BitVec.getLsbD_and, BitVec.getLsbD_and, BitVec.getLsbD_extractLsb', BitVec.getLsbD_extractLsb']
    by_cases low : place < 4
    · rw [below (by omega)]
    · rw [above place inside (Nat.not_lt.mp low), Bool.and_false, Bool.and_false]
  simp only [low, ofData, nibble, whole 0 (by decide), whole 8 (by decide), whole 16 (by decide), whole 24 (by decide),
    whole 32 (by decide)]

end FlorSBytes

open FlorSBytes in
/-- Decrypted, a code of any button shows the low 44 bits that were encrypted. -/
theorem niceFlorS_decrypt_encrypt (file : Option KeystoreRaw) (data button : BitVec 64) :
    (niceFlorSDecrypt (niceFlorSEncrypt data file ||| (button <<< 44)) file).setWidth 44 = data.setWidth 44 := by
  -- the bytes between the halves of the rounds, as encryption goes through them
  obtain ⟨start, begins⟩ : ∃ start, start = ofData data := ⟨_, rfl⟩
  obtain ⟨first, firstHalf⟩ : ∃ first, first = start.mixedByLow file := ⟨_, rfl⟩
  obtain ⟨second, secondHalf⟩ : ∃ second, second = first.mixedByHigh file := ⟨_, rfl⟩
  obtain ⟨third, thirdHalf⟩ : ∃ third, third = second.exchanged.mixedByLow file := ⟨_, rfl⟩
  obtain ⟨last, lastHalf⟩ : ∃ last, last = third.mixedByHigh file := ⟨_, rfl⟩
  have code : niceFlorSEncrypt data file = last.scrambled.data := by
    rw [lastHalf, thirdHalf, secondHalf, firstHalf, begins]
    rfl
  -- decryption comes through them backwards
  have received : (ofData (niceFlorSEncrypt data file ||| (button <<< 44))).unscrambled.low = last.low := by
    rw [← low_unscrambled_scrambled (p := last)]
    apply lowDetermined_unscrambled.congr
    rw [low_ofData_or, code, ofData_data]
  have atThird : ((ofData (niceFlorSEncrypt data file ||| (button <<< 44))).unscrambled.mixedByHigh file).low =
      third.low := by
    rw [(lowDetermined_mixedByHigh file).congr received, lastHalf, low_mixedByHigh_twice]
  have atSecond : (((ofData (niceFlorSEncrypt data file ||| (button <<< 44))).unscrambled.mixedByHigh file).mixedByLow
      file).exchanged.low = second.low := by
    have turned := (lowDetermined_mixedByLow file).congr atThird
    rw [thirdHalf, low_mixedByLow_twice] at turned
    exact lowDetermined_exchanged.congr turned
  have atStart := (lowDetermined_mixedByLow file).congr ((lowDetermined_mixedByHigh file).congr atSecond)
  rw [secondHalf, (lowDetermined_mixedByLow file).congr (low_mixedByHigh_twice file first), firstHalf,
    low_mixedByLow_twice, begins] at atStart
  show (FlorSBytes.data _).setWidth 44 = _
  rw [← setWidth_low_data, atStart, setWidth_low_data, data_ofData]

end Xtreme.SubGhz
