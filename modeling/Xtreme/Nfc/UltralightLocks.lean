import Xtreme.Nfc.UltralightEvents
import Mathlib.Tactic.IntervalCases

/-! The lock bits of a tag over whole runs: what is locked stays as it is, lock
bits and the bits of page 3 are only ever set, and a locked lock bit does not
change.

The source tells lock bytes from data by the sector and the page asked for. A
tag without sectors is let into another sector all the same, where its lock
bytes are data; `HeedsLocks` names the writes that go wrong there, and the one
way round a lock of the NTAG I2C Plus 2K. -/
namespace Xtreme.Nfc
open Xtreme.Library BitLib
open Effect (Reaches reaches_preserves)

theorem wordOfBytes_getLsbD (low high : BitVec 8) (i : Nat) :
    (wordOfBytes low high).getLsbD i = if i < 8 then low.getLsbD i else high.getLsbD (i - 8) := by
  rw [wordOfBytes, BitVec.getLsbD_append]

def staticLockBlock (block i : Nat) : Prop :=
  (block = 0 ∧ i = 3) ∨ (block = 1 ∧ 4 ≤ i ∧ i ≤ 9) ∨ (block = 2 ∧ 10 ≤ i ∧ i ≤ 15)

theorem staticLockMasks (i : Nat) : staticLockOtpCcMask.getLsbD i = decide (i = 3) ∧
      staticLock9To4Mask.getLsbD i = decide (4 ≤ i ∧ i ≤ 9) ∧
      staticLock15To10Mask.getLsbD i = decide (10 ≤ i ∧ i ≤ 15) := by
  by_cases inside : i < 16
  · interval_cases i <;> decide
  · have outside (word : BitVec 16) : word.getLsbD i = false := BitVec.getLsbD_of_ge _ _ (by omega)
    rw [outside, outside, outside]
    simp only [Bool.false_eq, decide_eq_false_iff_not]
    omega

theorem staticLockBits_kept {currentLocks newBits : BitVec 16} {i : Nat} (isSet : currentLocks.getLsbD i = true) :
    (mfUltralightStaticLockBits currentLocks newBits).getLsbD i = true := by
  simp [mfUltralightStaticLockBits, isSet]

theorem staticLockBits_blocked {currentLocks newBits : BitVec 16} {block i : Nat}
    (protects : staticLockBlock block i) (isSet : currentLocks.getLsbD block = true) :
    (mfUltralightStaticLockBits currentLocks newBits).getLsbD i = currentLocks.getLsbD i := by
  obtain ⟨otp, low, high⟩ := staticLockMasks i
  unfold mfUltralightStaticLockBits
  rcases protects with ⟨rfl, there⟩ | ⟨rfl, there⟩ | ⟨rfl, there⟩ <;> simp only <;>
    split_ifs <;> simp [otp, low, high] <;> omega

theorem wordOfBytes_storeStaticLock (page : MfUltralightPage) (locks : BitVec 16) :
    wordOfBytes (byteAt (storeStaticLock page locks) 2) (byteAt (storeStaticLock page locks) 3) = locks := by
  apply BitVec.eq_of_getLsbD_eq
  intro i inside
  rw [wordOfBytes_getLsbD]
  split
  · rename_i low
    simp [storeStaticLock, byteAt, low]
  · have : i - 8 < 8 := by omega
    simp [storeStaticLock, byteAt, this]
    congr 1
    omega

theorem dynamicLockMask_getLsbD (block i : Nat) (few : block < 8) :
    (dynamicLockMask block).getLsbD i = decide (i / 2 = block) := by
  by_cases inside : i < 32
  · interval_cases block <;> interval_cases i <;> decide
  · rw [BitVec.getLsbD_of_ge _ _ (by omega)]
    simp only [Bool.false_eq, decide_eq_false_iff_not]
    omega

theorem dynamicLockBits_kept {currentLock newBits : BitVec 32} {i : Nat} (isSet : currentLock.getLsbD i = true) :
    (mfUltralightDynamicLockBits currentLock newBits).getLsbD i = true := by
  simp [mfUltralightDynamicLockBits, isSet]

/-- A bit that one round of the loop masks out stays out. -/
theorem dynamicLockFold_masked (currentLock : BitVec 32) {blocks : List Nat} (few : ∀ block ∈ blocks, block < 8)
    (newBits : BitVec 32) (i : Nat) :
    (blocks.foldl (fun newBits block =>
      if currentLock.getLsbD (block + 16) then newBits &&& ~~~dynamicLockMask block else newBits) newBits).getLsbD i =
        (newBits.getLsbD i && blocks.all fun block =>
          !(currentLock.getLsbD (block + 16) && decide (i / 2 = block))) := by
  induction blocks generalizing newBits with
  | nil => simp
  | cons block rest next =>
    have small := few block List.mem_cons_self
    rw [List.foldl_cons, next (fun other member => few other (List.mem_cons_of_mem _ member)), List.all_cons,
      ← Bool.and_assoc]
    by_cases isSet : currentLock.getLsbD (block + 16) = true
    · rw [if_pos isSet, BitVec.getLsbD_and, BitVec.getLsbD_not, dynamicLockMask_getLsbD block i small, isSet]
      by_cases inside : i < 32
      · simp [inside]
      · rw [BitVec.getLsbD_of_ge newBits i (by omega)]
        rfl
    · simp [isSet]

theorem dynamicLockBits_blocked {currentLock newBits : BitVec 32} {block i : Nat} (few : block < 8)
    (protects : i / 2 = block) (isSet : currentLock.getLsbD (block + 16) = true) :
    (mfUltralightDynamicLockBits currentLock newBits).getLsbD i = currentLock.getLsbD i := by
  have all : ∀ block ∈ List.range 8, block < 8 := fun block member => List.mem_range.mp member
  unfold mfUltralightDynamicLockBits
  rw [BitVec.getLsbD_or, dynamicLockFold_masked currentLock all]
  have masked : (List.range 8).all (fun block =>
      !(currentLock.getLsbD (block + 16) && decide (i / 2 = block))) = false := by
    rw [List.all_eq_false]
    exact ⟨block, List.mem_range.mpr few, by simp [protects, isSet]⟩
  rw [masked, Bool.and_false, Bool.or_false]

theorem wordOfPage_getLsbD (page : MfUltralightPage) (i : Nat) : (wordOfPage page).getLsbD i =
      if i < 8 then (page.get 0).getLsbD i
      else if i - 8 < 8 then (page.get 1).getLsbD (i - 8)
      else if i - 8 - 8 < 8 then (page.get 2).getLsbD (i - 8 - 8)
      else (page.get 3).getLsbD (i - 8 - 8 - 8) := by
  rw [wordOfPage, BitVec.getLsbD_append, BitVec.getLsbD_append, BitVec.getLsbD_append]
  rfl

theorem wordOfPage_pageOfWord (word : BitVec 32) : wordOfPage (pageOfWord word) = word := by
  apply BitVec.eq_of_getLsbD_eq
  intro i inside
  have bytes : (pageOfWord word).get 0 = word.extractLsb' 0 8 ∧ (pageOfWord word).get 1 = word.extractLsb' 8 8 ∧
      (pageOfWord word).get 2 = word.extractLsb' 16 8 ∧ (pageOfWord word).get 3 = word.extractLsb' 24 8 :=
    ⟨rfl, rfl, rfl, rfl⟩
  rw [wordOfPage_getLsbD, bytes.1, bytes.2.1, bytes.2.2.1, bytes.2.2.2]
  split_ifs with first second third
  · simp [first]
  · simp [second, show 8 + (i - 8) = i by omega]
  · simp [third, show 16 + (i - 8 - 8) = i by omega]
  · simp [show i - 8 - 8 - 8 < 8 by omega, show 24 + (i - 8 - 8 - 8) = i by omega]

namespace MfUltralightListener
variable (instanc : MfUltralightListener)

def hasDynamicLock : Prop := mfUltralightSupportFeature instanc.features [.dynamicLock] = true

def dynamicLocks : BitVec 32 := wordOfPage (instanc.pageAt instanc.dynamicLockPage)

/-- The address that stands for a page in the dynamic lock layout of its type:
the second sector of the NTAG I2C Plus 2K begins at page 236 of the image, with
the session registers before it. -/
def lockAddress (page : Nat) : Nat :=
  if instanc.data.type = .ntagI2CPlus2K then
    if page < 234 then page else if page < 236 then page + 2 else page + 20
  else page

def pageLocked (page : Nat) : Prop :=
  (3 ≤ page ∧ page ≤ 15 ∧ instanc.staticLocks.getLsbD page = true) ∨
    (instanc.hasDynamicLock ∧ 16 ≤ instanc.lockAddress page ∧
      instanc.lockAddress page ≤ mfUltralightGetUpperPageBound instanc.data.type ∧
      instanc.dynamicLocks.getLsbD ((instanc.lockAddress page - 16) /
        mfUltralightDynamicLockGranularity instanc.data.type) = true)

end MfUltralightListener

/-- What no run changes from `before` to `after`. -/
structure LocksKept (before after : MfUltralightListener) : Prop where
  type : after.data.type = before.data.type
  serial : after.pageAt 0 = before.pageAt 0 ∧ after.pageAt 1 = before.pageAt 1 ∧
    (after.pageAt 2).get 0 = (before.pageAt 2).get 0 ∧ (after.pageAt 2).get 1 = (before.pageAt 2).get 1
  staticBits : ∀ i, before.staticLocks.getLsbD i = true → after.staticLocks.getLsbD i = true
  dynamicBits : before.hasDynamicLock → ∀ i, before.dynamicLocks.getLsbD i = true →
    after.dynamicLocks.getLsbD i = true
  containerBits : ∀ i, (wordOfPage (before.pageAt 3)).getLsbD i = true →
    (wordOfPage (after.pageAt 3)).getLsbD i = true
  pages : ∀ page, before.pageLocked page → after.pageAt page = before.pageAt page
  staticBlocks : ∀ block i, staticLockBlock block i → before.staticLocks.getLsbD block = true →
    after.staticLocks.getLsbD i = before.staticLocks.getLsbD i
  dynamicBlocks : before.hasDynamicLock → ∀ block < 8, before.dynamicLocks.getLsbD (block + 16) = true →
    ∀ i, i / 2 = block → after.dynamicLocks.getLsbD i = before.dynamicLocks.getLsbD i

namespace LocksKept
variable {before middle after : MfUltralightListener}

theorem of_same (type : after.data.type = before.data.type) (page : after.data.page = before.data.page) :
    LocksKept before after := by
  have pageAt (index) : after.pageAt index = before.pageAt index := by
    rw [MfUltralightListener.pageAt, MfUltralightListener.pageAt, page]
  have static : after.staticLocks = before.staticLocks := by
    rw [MfUltralightListener.staticLocks, MfUltralightListener.staticLocks, pageAt]
  have dynamic : after.dynamicLocks = before.dynamicLocks := by
    rw [MfUltralightListener.dynamicLocks, MfUltralightListener.dynamicLocks,
      MfUltralightListener.dynamicLockPage, MfUltralightListener.dynamicLockPage, type, pageAt]
  refine ⟨type, ⟨pageAt 0, pageAt 1, ?_, ?_⟩, ?_, ?_, ?_, fun page _ => pageAt page, ?_, ?_⟩
  · rw [pageAt]
  · rw [pageAt]
  · intro i isSet
    rwa [static]
  · intro _ i isSet
    rwa [dynamic]
  · intro i isSet
    rwa [pageAt]
  · intro _ _ _ _
    rw [static]
  · intro _ _ _ _ _ _
    rw [dynamic]

theorem hasDynamicLock (kept : LocksKept before after) (has : before.hasDynamicLock) : after.hasDynamicLock := by
  unfold MfUltralightListener.hasDynamicLock MfUltralightListener.features
  rw [kept.type]
  exact has

theorem pageLocked (kept : LocksKept before after) {page : Nat} (locked : before.pageLocked page) :
    after.pageLocked page := by
  have address : after.lockAddress page = before.lockAddress page := by
    rw [MfUltralightListener.lockAddress, MfUltralightListener.lockAddress, kept.type]
  rcases locked with ⟨low, high, isSet⟩ | ⟨has, low, high, isSet⟩
  · exact .inl ⟨low, high, kept.staticBits page isSet⟩
  · refine .inr ⟨kept.hasDynamicLock has, ?_, ?_, ?_⟩ <;> rw [address]
    · exact low
    · rw [kept.type]
      exact high
    · rw [kept.type]
      exact kept.dynamicBits has _ isSet

theorem trans (first : LocksKept before middle) (second : LocksKept middle after) : LocksKept before after := by
  obtain ⟨zero, one, two, three⟩ := first.serial
  obtain ⟨zero', one', two', three'⟩ := second.serial
  refine ⟨second.type.trans first.type,
    ⟨zero'.trans zero, one'.trans one, two'.trans two, three'.trans three⟩, ?_, ?_, ?_, ?_, ?_, ?_⟩
  · exact fun i isSet => second.staticBits i (first.staticBits i isSet)
  · exact fun has i isSet => second.dynamicBits (first.hasDynamicLock has) i (first.dynamicBits has i isSet)
  · exact fun i isSet => second.containerBits i (first.containerBits i isSet)
  · exact fun page locked => (second.pages page (first.pageLocked locked)).trans (first.pages page locked)
  · exact fun block i protects isSet =>
      (second.staticBlocks block i protects (first.staticBits block isSet)).trans
        (first.staticBlocks block i protects isSet)
  · exact fun has block few isSet i protects =>
      (second.dynamicBlocks (first.hasDynamicLock has) block few (first.dynamicBits has _ isSet) i protects).trans
        (first.dynamicBlocks has block few isSet i protects)

end LocksKept

theorem pageAt_setPage (instanc : MfUltralightListener) {index : Nat} (inside : index < 510)
    (content : MfUltralightPage) (page : Nat) :
    (instanc.setPage index content).pageAt page = if page = index then content else instanc.pageAt page := by
  unfold MfUltralightListener.pageAt MfUltralightListener.setPage
  rw [Vector.getElem?_setIfInBounds]
  by_cases same : page = index
  · rw [if_pos same.symm, if_pos same, if_pos inside]
    rfl
  · rw [if_neg (Ne.symm same), if_neg same]

variable {instanc : MfUltralightListener}

/-- A write to one page that is not locked keeps what has to be kept, if it does
so for the lock bytes and page 3. -/
theorem locksKept_setPage {index : Nat} {content : MfUltralightPage}
    (inside : index < 510) (late : 2 ≤ index) (free : ¬ instanc.pageLocked index)
    (static : index = 2 → ∃ newBits, content = storeStaticLock (instanc.pageAt 2)
      (mfUltralightStaticLockBits instanc.staticLocks newBits))
    (container : index = 3 → ∀ i, (wordOfPage (instanc.pageAt 3)).getLsbD i = true →
      (wordOfPage content).getLsbD i = true)
    (dynamic : instanc.hasDynamicLock → index = instanc.dynamicLockPage → ∃ newBits,
      content = pageOfWord (mfUltralightDynamicLockBits instanc.dynamicLocks newBits)) :
    LocksKept instanc (instanc.setPage index content) := by
  have pageAt := pageAt_setPage instanc inside content
  have others {page : Nat} (other : page ≠ index) :
      (instanc.setPage index content).pageAt page = instanc.pageAt page := by
    rw [pageAt, if_neg other]
  have staticLocks : (instanc.setPage index content).staticLocks = instanc.staticLocks ∨
      ∃ newBits, (instanc.setPage index content).staticLocks =
        mfUltralightStaticLockBits instanc.staticLocks newBits := by
    by_cases two : index = 2
    · obtain ⟨newBits, form⟩ := static two
      refine .inr ⟨newBits, ?_⟩
      rw [MfUltralightListener.staticLocks, pageAt, if_pos two.symm, form, wordOfBytes_storeStaticLock]
    · exact .inl (by rw [MfUltralightListener.staticLocks, MfUltralightListener.staticLocks, others (Ne.symm two)])
  have dynamicLocks (has : instanc.hasDynamicLock) :
      (instanc.setPage index content).dynamicLocks = instanc.dynamicLocks ∨
        ∃ newBits, (instanc.setPage index content).dynamicLocks =
          mfUltralightDynamicLockBits instanc.dynamicLocks newBits := by
    have same : (instanc.setPage index content).dynamicLockPage = instanc.dynamicLockPage := rfl
    by_cases lock : index = instanc.dynamicLockPage
    · obtain ⟨newBits, form⟩ := dynamic has lock
      refine .inr ⟨newBits, ?_⟩
      rw [MfUltralightListener.dynamicLocks, same, pageAt, if_pos lock.symm, form, wordOfPage_pageOfWord]
    · exact .inl (by rw [MfUltralightListener.dynamicLocks, MfUltralightListener.dynamicLocks, same,
        others (Ne.symm lock)])
  refine ⟨rfl, ⟨others (by omega), others (by omega), ?_⟩, ?_, ?_, ?_, ?_, ?_, ?_⟩
  · by_cases two : index = 2
    · obtain ⟨newBits, form⟩ := static two
      rw [pageAt, if_pos two.symm, form]
      have kept (locks : BitVec 16) : (storeStaticLock (instanc.pageAt 2) locks)[0] = (instanc.pageAt 2)[0] ∧
          (storeStaticLock (instanc.pageAt 2) locks)[1] = (instanc.pageAt 2)[1] := by
        simp [storeStaticLock]
      exact kept _
    · rw [others (Ne.symm two)]
      exact ⟨rfl, rfl⟩
  · intro i isSet
    rcases staticLocks with same | ⟨newBits, form⟩
    · rw [same]
      exact isSet
    · rw [form]
      exact staticLockBits_kept isSet
  · intro has i isSet
    rcases dynamicLocks has with same | ⟨newBits, form⟩
    · rw [same]
      exact isSet
    · rw [form]
      exact dynamicLockBits_kept isSet
  · intro i isSet
    by_cases three : index = 3
    · rw [pageAt, if_pos three.symm]
      exact container three i isSet
    · rw [others (Ne.symm three)]
      exact isSet
  · intro page locked
    apply others
    rintro rfl
    exact free locked
  · intro block i protects isSet
    rcases staticLocks with same | ⟨newBits, form⟩
    · rw [same]
    · rw [form]
      exact staticLockBits_blocked protects isSet
  · intro has block few isSet i protects
    rcases dynamicLocks has with same | ⟨newBits, form⟩
    · rw [same]
    · rw [form]
      exact dynamicLockBits_blocked few protects isSet

/-- Setting bits of a page clears none. -/
theorem wordOfPage_or {page newData : MfUltralightPage} {i : Nat} (isSet : (wordOfPage page).getLsbD i = true) :
    (wordOfPage (Vector.ofFn fun i => page.get i ||| newData.get i)).getLsbD i = true := by
  have byte (place : Fin 4) :
      (Vector.ofFn fun i => page.get i ||| newData.get i).get place = page.get place ||| newData.get place :=
    Vector.getElem_ofFn place.isLt
  rw [wordOfPage_getLsbD] at isSet ⊢
  simp only [byte]
  split_ifs at isSet ⊢ <;> simp [isSet]

/-! ## Addresses -/

/-- A write that the sector check does not lead astray. -/
structure Heeded (instanc : MfUltralightListener) (page : Nat) : Prop where
  /-- A tag without sectors is in sector 0, or the page holds no lock bits and is not locked. -/
  unsectored : mfUltralightIsI2cTag instanc.data.type = false → instanc.sector.toNat = 0 ∨
    (4 ≤ page ∧ (instanc.hasDynamicLock → page ≠ instanc.dynamicLockPage) ∧ ¬ instanc.pageLocked page)
  /-- The session registers of the NTAG I2C Plus 2K are not locked, or not addressed in sector 3. -/
  registers : instanc.data.type = .ntagI2CPlus2K → instanc.sector.toNat = 3 →
    ¬ instanc.pageLocked (mfUltralightI2cPageProviderForSector3 page instanc.data.type)

/-- What the checks know of the page of the image that an address stands for. -/
structure Addressed (instanc : MfUltralightListener) (page target : Nat) : Prop where
  inside : target < 510
  first : target < 4 → instanc.sector.toNat = 0 ∧ page = target
  lock : instanc.hasDynamicLock →
    (linearPage instanc.sector page = instanc.dynamicLockPage ↔ target = instanc.dynamicLockPage)
  static : target ≤ 15 → page = target
  dynamic : instanc.hasDynamicLock → 16 ≤ instanc.lockAddress target →
    instanc.lockAddress target ≤ mfUltralightGetUpperPageBound instanc.data.type →
    (instanc.data.type = .ntagI2CPlus2K → instanc.sector.toNat ≠ 3) →
    linearPage instanc.sector page = instanc.lockAddress target

theorem addressed_unsectored {page : Nat} (byte : page < 256)
    (linear : mfUltralightIsI2cTag instanc.data.type = false) (sector : instanc.sector.toNat = 0) :
    Addressed instanc page page := by
  have same : linearPage instanc.sector page = page := by
    rw [linearPage]
    omega
  have address : instanc.lockAddress page = page := by
    rw [MfUltralightListener.lockAddress, if_neg]
    intro plus
    rw [plus] at linear
    cases linear
  exact ⟨by omega, fun _ => ⟨sector, rfl⟩, fun _ => by rw [same], fun _ => rfl, fun _ _ _ _ => by rw [same, address]⟩

theorem addressed_sectored {page : Nat} (byte : page < 256) (sectored : mfUltralightIsI2cTag instanc.data.type = true)
    (valid : mfUltralightI2cValidatePages instanc.sector instanc.data.type page page = true) :
    Addressed instanc page (mfUltralightI2cProvidePageByRequested instanc.sector instanc.data.type page) := by
  have inside := mfUltralightI2cProvidePage_inside byte valid
  have types : instanc.data.type = .ntagI2C1K ∨ instanc.data.type = .ntagI2C2K ∨
      instanc.data.type = .ntagI2CPlus1K ∨ instanc.data.type = .ntagI2CPlus2K := by
    simpa [mfUltralightIsI2cTag, or_assoc] using sectored
  rcases types with type | type | type | type <;>
    rcases validatePages_cases valid with ⟨number, valid⟩ | ⟨number, valid⟩ | ⟨number, valid⟩ <;>
    simp only [mfUltralightI2cProvidePageByRequested, type, number, mfUltralightI2cPageProviderForSector0,
      mfUltralightI2cPageProviderForSector1, mfUltralightI2cPageProviderForSector3,
      mfUltralightI2cPageValidatorForSector0, mfUltralightI2cPageValidatorForSector1,
      mfUltralightI2cPageOnSessionReg, mfUltralightI2cPageOnMirroredSessionReg] at valid inside ⊢ <;>
    refine ⟨inside, by grind, fun _ => ?_, by grind, fun _ => ?_⟩ <;>
    simp [linearPage, MfUltralightListener.dynamicLockPage, MfUltralightListener.lockAddress,
      mfUltralightDynamicLockPageNum, mfUltralightGetConfigPageNum, mfUltralightFeatures,
      mfUltralightGetUpperPageBound, type] <;>
    grind

theorem lockBit_low (has : instanc.hasDynamicLock) {address : Nat}
    (high : address ≤ mfUltralightGetUpperPageBound instanc.data.type) :
    (address - 16) / mfUltralightDynamicLockGranularity instanc.data.type < 16 := by
  unfold MfUltralightListener.hasDynamicLock MfUltralightListener.features at has
  cases type : instanc.data.type <;> rw [type] at has high <;> first
    | exact absurd has (by decide)
    | simp [mfUltralightGetUpperPageBound, mfUltralightGetConfigPageNum, mfUltralightFeatures] at high
      simp only [mfUltralightDynamicLockGranularity]
      omega

theorem wordOfBytes_page (page : MfUltralightPage) {i : Nat} (low : i < 16) :
    (wordOfBytes (page.get 0) (page.get 1)).getLsbD i = (wordOfPage page).getLsbD i := by
  rw [wordOfBytes_getLsbD, wordOfPage_getLsbD]
  split_ifs <;> first | rfl | omega

theorem not_pageLocked_of_writeAllowed {page target : Nat}
    (addressed : Addressed instanc page target) (allows : instanc.writeAllowed page = true)
    (registers : instanc.data.type = .ntagI2CPlus2K → instanc.sector.toNat = 3 → ¬ instanc.pageLocked target) :
    ¬ instanc.pageLocked target := by
  simp only [MfUltralightListener.writeAllowed, Bool.and_eq_true] at allows
  intro locked
  have plus : instanc.data.type = .ntagI2CPlus2K → instanc.sector.toNat ≠ 3 :=
    fun type sector => registers type sector locked
  rcases locked with ⟨low, high, isSet⟩ | ⟨has, low, high, isSet⟩
  · have same := addressed.static high
    rw [same] at allows
    simp [MfUltralightListener.staticLocked, low, high, isSet] at allows
  · have linear := addressed.dynamic has low high plus
    have covers : instanc.dynamicLockCovers page := ⟨has, linear ▸ low, linear ▸ high⟩
    have few := lockBit_low has high
    have bit : instanc.dynamicLockBit page = (instanc.lockAddress target - 16) /
        mfUltralightDynamicLockGranularity instanc.data.type := by
      rw [MfUltralightListener.dynamicLockBit, linear]
      exact Nat.mod_eq_of_lt (by omega)
    have checked : instanc.dynamicLocked page = true := by
      rw [MfUltralightListener.dynamicLocked, bit, wordOfBytes_page _ few, Bool.and_eq_true]
      exact ⟨decide_eq_true covers, isSet⟩
    rw [checked] at allows
    cases allows.2.2

theorem lockAddress_low {index : Nat} (low : index < 16) :
    instanc.lockAddress index = index := by
  unfold MfUltralightListener.lockAddress
  split_ifs <;> omega

theorem locksKept_storing_addressed {page : Nat} {doI2cCheck : Bool}
    (addressed : Addressed instanc page (instanc.writeTarget page doI2cCheck)) (allows : instanc.writeAllowed page = true)
    (free : ¬ instanc.pageLocked (instanc.writeTarget page doI2cCheck)) (rxData : MfUltralightPage) :
    LocksKept instanc (instanc.storing rxData page doI2cCheck) := by
  have plain {index : Nat} {log : List PageAccess} {content : MfUltralightPage}
      (kept : LocksKept instanc (instanc.setPage index content)) :
      LocksKept instanc ((instanc.logging log).setPage index content) :=
    kept.trans (.of_same rfl rfl)
  have lockPage (has : instanc.hasDynamicLock) := dynamicLockPage_inside has
  unfold MfUltralightListener.storing MfUltralightListener.stored
  by_cases serial : page < 2 ∧ instanc.sector = 0
  · rw [if_pos serial]
    exact .of_same rfl rfl
  rw [if_neg serial]
  by_cases locks : page = 2 ∧ instanc.sector = 0
  · rw [if_pos locks]
    refine plain (locksKept_setPage (by omega) (Nat.le_refl 2) ?_ (fun _ => ⟨_, rfl⟩) (by omega) ?_)
    · rintro (⟨low, -⟩ | ⟨-, low, -⟩)
      · omega
      · rw [lockAddress_low (by omega)] at low
        omega
    · intro has same
      have := lockPage has
      omega
  rw [if_neg locks]
  by_cases container : page = 3 ∧ instanc.sector = 0
  · rw [if_pos container]
    refine plain (locksKept_setPage (by omega) (by omega) ?_ (by omega) (fun _ i => wordOfPage_or) ?_)
    · rintro (⟨-, -, isSet⟩ | ⟨-, low, -⟩)
      · simp only [MfUltralightListener.writeAllowed, MfUltralightListener.staticLocked, container.1,
          isSet] at allows
        simp at allows
      · rw [lockAddress_low (by omega)] at low
        omega
    · intro has same
      have := lockPage has
      omega
  rw [if_neg container]
  cases lock : instanc.isDynamicLock page with
  | true =>
    simp only [MfUltralightListener.isDynamicLock, Bool.and_eq_true, decide_eq_true_eq] at lock
    obtain ⟨has, linear⟩ := lock
    have target := (addressed.lock has).mp linear
    have there := lockPage has
    rw [target] at free
    exact plain (locksKept_setPage there.2 (by omega) free (by omega) (by omega) fun _ _ => ⟨_, rfl⟩)
  | false =>
    have late : 4 ≤ instanc.writeTarget page doI2cCheck := by
      by_contra early
      obtain ⟨zero, same⟩ := addressed.first (by omega)
      have first : instanc.sector = 0 := BitVec.eq_of_toNat_eq zero
      simp only [first, and_true] at serial locks container
      omega
    refine plain (locksKept_setPage addressed.inside (by omega) free (by omega) (by omega) fun has same => ?_)
    have linear := (addressed.lock has).mpr same
    simp only [MfUltralightListener.isDynamicLock, linear, Bool.and_eq_false_iff] at lock
    rcases lock with none | other
    · rw [show mfUltralightSupportFeature instanc.features [.dynamicLock] = true from has] at none
      cases none
    · simp at other

theorem stored_of_otherSector {page : Nat} (byte : page < 256)
    (linear : mfUltralightIsI2cTag instanc.data.type = false) (other : instanc.sector.toNat ≠ 0)
    (rxData : MfUltralightPage) : instanc.stored rxData page false = some (page, rxData, []) := by
  have sector : ¬ instanc.sector = 0 := fun first => other (congrArg BitVec.toNat first)
  have lock : instanc.isDynamicLock page = false := by
    have small := dynamicLockPage_lt linear
    have apart : linearPage instanc.sector page ≠ instanc.dynamicLockPage := by
      rw [linearPage]
      omega
    simp [MfUltralightListener.isDynamicLock, apart]
  unfold MfUltralightListener.stored
  rw [if_neg fun serial => sector serial.2, if_neg fun locks => sector locks.2,
    if_neg fun container => sector container.2, lock]
  rfl

theorem locksKept_storing_unsectored {page : Nat} (byte : page < 256)
    (linear : mfUltralightIsI2cTag instanc.data.type = false) (allows : instanc.writeAllowed page = true)
    (heeded : Heeded instanc page) (rxData : MfUltralightPage) :
    LocksKept instanc (instanc.storing rxData page false) := by
  by_cases first : instanc.sector.toNat = 0
  · have addressed : Addressed instanc page (instanc.writeTarget page false) :=
      addressed_unsectored byte linear first
    have free : ¬ instanc.pageLocked (instanc.writeTarget page false) :=
      not_pageLocked_of_writeAllowed addressed allows fun _ third => by omega
    exact locksKept_storing_addressed addressed allows free rxData
  · obtain ⟨late, notLock, free⟩ := (heeded.unsectored linear).resolve_left first
    have kept : LocksKept instanc (instanc.setPage page rxData) :=
      locksKept_setPage (by omega) (by omega) free (by omega) (by omega) fun has same => absurd same (notLock has)
    unfold MfUltralightListener.storing
    rw [stored_of_otherSector byte linear first]
    exact kept.trans (.of_same rfl rfl)

theorem locksKept_storing_sectored {page : Nat} (byte : page < 256)
    (sectored : mfUltralightIsI2cTag instanc.data.type = true)
    (valid : mfUltralightI2cValidatePages instanc.sector instanc.data.type page page = true)
    (allows : instanc.writeAllowed page = true) (heeded : Heeded instanc page) (rxData : MfUltralightPage) :
    LocksKept instanc (instanc.storing rxData page true) := by
  have addressed : Addressed instanc page (instanc.writeTarget page true) :=
    addressed_sectored byte sectored valid
  have free : ¬ instanc.pageLocked (instanc.writeTarget page true) := by
    refine not_pageLocked_of_writeAllowed addressed allows fun plus third => ?_
    have target : instanc.writeTarget page true =
        mfUltralightI2cPageProviderForSector3 page instanc.data.type := by
      simp only [MfUltralightListener.writeTarget, if_true, mfUltralightI2cProvidePageByRequested, third]
    rw [target]
    exact heeded.registers plus third
  exact locksKept_storing_addressed addressed allows free rxData

inductive WritesTo (instanc : MfUltralightListener) : Iso14443_3aListenerEvent → Nat → Prop
  | write {buffer : Frame} (command : IsCommand instanc buffer 0xA2#8 6)
      (inRange : pageInRange instanc (buffer.byte 1).toNat = true)
      (allows : instanc.writeAllowed (buffer.byte 1).toNat = true) :
      WritesTo instanc (.receivedStandardFrame buffer) (buffer.byte 1).toNat
  | compWrite {buffer : Frame} (pending : instanc.compositeCmd.callback = some .compWriteP2)
      (long : buffer.length = 16) :
      WritesTo instanc (.receivedStandardFrame buffer) instanc.compositeCmd.data.toNat

/-- The event writes nowhere that the sector check leads it astray. -/
def HeedsLocks (event : Iso14443_3aListenerEvent) (instanc : MfUltralightListener) : Prop :=
  ∀ page, WritesTo instanc event page → Heeded instanc page

theorem linear_of_compatibleWrite {type : MfUltralightType}
    (supported : mfUltralightSupportFeature (mfUltralightGetFeatureSupportSet type) [.compatibleWrite] = true) :
    mfUltralightIsI2cTag type = false := by
  cases type <;> first | rfl | exact absurd supported (by decide)

theorem locksKept_frame {start after : MfUltralightListener} {buffer : Frame}
    {outcome : Except MfUltralightFault MfUltralightCommand} (change : FrameChange start buffer outcome after)
    (sound : ListenerSound start) (heeds : HeedsLocks (.receivedStandardFrame buffer) start) :
    LocksKept start after := by
  cases change with
  | quiet first watched => exact .of_same watched.type watched.page
  | write command inRange allows =>
    have heeded := heeds _ (.write command inRange allows)
    have byte := (buffer.byte 1).isLt
    let logged := start.logging (start.writeLog (buffer.byte 1).toNat)
    have kept : LocksKept start logged := .of_same rfl rfl
    have allowsAfter : logged.writeAllowed (buffer.byte 1).toNat = true := allows
    have heededAfter : Heeded logged (buffer.byte 1).toNat := ⟨heeded.unsectored, heeded.registers⟩
    refine kept.trans ?_
    cases sectors : mfUltralightIsI2cTag start.data.type with
    | true =>
      have valid : mfUltralightI2cValidatePages start.sector start.data.type (buffer.byte 1).toNat
          (buffer.byte 1).toNat = true := by
        unfold pageInRange at inRange
        rwa [if_pos sectors] at inRange
      have sectorsAfter : mfUltralightIsI2cTag logged.data.type = true := sectors
      exact locksKept_storing_sectored byte sectorsAfter valid allowsAfter heededAfter _
    | false =>
      have sectorsAfter : mfUltralightIsI2cTag logged.data.type = false := sectors
      exact locksKept_storing_unsectored byte sectorsAfter allowsAfter heededAfter _
  | compWrite command supported inRange allows => exact .of_same rfl rfl
  | sectorSelect command => exact .of_same rfl rfl
  | password command there supported unlocked matching => exact .of_same rfl rfl
  | attempt command there supported refused => exact .of_same rfl rfl
  | secondWrite pending long =>
    obtain ⟨-, allows, supported⟩ := sound.pending pending
    have kept := locksKept_storing_unsectored start.compositeCmd.data.isLt (linear_of_compatibleWrite supported)
      allows (heeds _ (.compWrite pending long)) (buffer.page 0)
    exact kept.trans (.of_same rfl rfl)
  | secondSector pending long valid => exact .of_same rfl rfl
  | second pending => exact .of_same rfl rfl

theorem locksKept_run {event : Iso14443_3aListenerEvent}
    (sound : ListenerSound instanc) (heeds : HeedsLocks event instanc) :
    LocksKept instanc (mfUltralightListenerRun event instanc).2 := by
  by_cases reset : IsReset event
  · rw [mfUltralightListenerRun_reset reset]
    exact .of_same rfl rfl
  obtain ⟨buffer, rfl⟩ : ∃ buffer, event = .receivedStandardFrame buffer := by
    unfold IsReset at reset
    simpa using reset
  have start : ListenerSound instanc.cleared := ⟨sound.mirror, sound.pending⟩
  have heedsAfter : HeedsLocks (.receivedStandardFrame buffer) instanc.cleared := by
    rintro page (⟨command, inRange, allows⟩ | ⟨pending, long⟩)
    · have heeded := heeds _ (.write ⟨command.first, command.length, command.code⟩ inRange allows)
      exact ⟨heeded.unsectored, heeded.registers⟩
    · have heeded := heeds _ (.compWrite pending long)
      exact ⟨heeded.unsectored, heeded.registers⟩
  have kept := locksKept_frame (mfUltralightListenerHandleFrame_change start.mirror buffer) start heedsAfter
  have cleared : LocksKept instanc instanc.cleared := .of_same rfl rfl
  rw [mfUltralightListenerRun_frame]
  rcases ran : mfUltralightListenerHandleFrame buffer instanc.cleared with ⟨outcome, after⟩
  rw [ran] at kept
  cases outcome with
  | error error => exact cleared.trans kept
  | ok answer => exact (cleared.trans kept).trans (.of_same rfl rfl)

/-- **While the sector check leads no write astray, no run undoes a lock**: between
any two states of it the serial number, the set lock bits, the bits of page 3,
the locked pages and the blocked lock bits are the same. -/
theorem locks_hold_over_runs {data : MfUltralightData} {events later : List Iso14443_3aListenerEvent}
    {earlier instanc : MfUltralightListener}
    (reached : Reaches mfUltralightListenerRun HeedsLocks (mfUltralightListenerAlloc data) events earlier)
    (continued : Reaches mfUltralightListenerRun HeedsLocks earlier later instanc) :
    LocksKept earlier instanc := by
  let holds (state : MfUltralightListener) : Prop := ListenerSound state ∧ LocksKept earlier state
  have start : holds earlier := ⟨reaches_sound reached, .of_same rfl rfl⟩
  have kept : holds instanc := reaches_preserves continued start fun event state heeds held =>
    ⟨listenerSound_run event held.1, held.2.trans (locksKept_run held.1 heeds)⟩
  exact kept.2

/-- One write to a data page of a MIFARE Ultralight. -/
theorem locks_hold_over_runs_write : LocksKept (mfUltralightListenerAlloc (blankTag .unknown 16))
      (mfUltralightListenerRun (.receivedStandardFrame [0xA2#8, 4#8, 1#8, 2#8, 3#8, 4#8])
        (mfUltralightListenerAlloc (blankTag .unknown 16))).2 :=
  locks_hold_over_runs .start (.step .start (fun _ _ => ⟨fun _ => .inl rfl, fun plus => nomatch plus⟩) rfl)

/-- A MIFARE Ultralight lets itself be put into sector 1, where its serial number is written over. -/
theorem sectorSelect_loses_serial : ∃ data events instanc,
      Reaches mfUltralightListenerRun (fun _ _ => True) (mfUltralightListenerAlloc data) events instanc ∧
        ¬ LocksKept (mfUltralightListenerAlloc data) instanc := by
  refine ⟨blankTag .unknown 16, [.receivedStandardFrame [0xC2#8, 0#8], .receivedStandardFrame [1#8, 0#8, 0#8, 0#8],
      .receivedStandardFrame [0xA2#8, 0#8, 1#8, 2#8, 3#8, 4#8]], _,
    .step (.step (.step .start trivial rfl) trivial rfl) trivial rfl, fun kept => ?_⟩
  exact absurd kept.serial.1 (by decide +kernel)

end Xtreme.Nfc
