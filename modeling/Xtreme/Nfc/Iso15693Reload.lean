import Xtreme.Flipper.LineRuns
import Xtreme.Nfc.Iso15693File

/-! Saving a loaded ISO15693-3 card and loading it again. A load reads from a file
what `Iso15693_3Told` holds and nothing else; the file that is saved of it tells the
same, except that the security of the blocks is written without being there
(`reload_told`, `load_told`). -/
namespace Xtreme.Nfc
open Xtreme.Library Xtreme.Flipper BitLib
open Effect (Ensures Yields)

/-- The memory that a file tells of. What is behind the number of bytes that 16 bits
count is not read, and the security of the blocks may be missing. -/
structure Iso15693_3Memory where
  blockCount : BitVec 16
  blockSize : BitVec 8
  blockData : List (BitVec 8)
  blockSecurity : List (BitVec 8)
  positive : 0 < blockSize.toNat * blockCount.toNat
  length_blockData : blockData.length = blockSize.toNat * blockCount.toNat
  unread : ∀ byte ∈ blockData.drop (blockData.length % 2 ^ 16), byte = 0
  length_blockSecurity : blockSecurity = [] ∨ blockSecurity.length = blockCount.toNat

def Iso15693_3Memory.withSecurity (memory : Iso15693_3Memory) (blockSecurity : List (BitVec 8))
    (length : blockSecurity.length = memory.blockCount.toNat) : Iso15693_3Memory :=
  { memory with
    blockSecurity
    length_blockSecurity := .inr length }

/-- What a file tells of a card. -/
structure Iso15693_3Told where
  dsfid : Option (BitVec 8)
  afi : Option (BitVec 8)
  icRef : Option (BitVec 8)
  lockBits : Iso15693_3LockBits
  memory : Option Iso15693_3Memory

def flagOf {α : Type} (flag : BitVec 8) (item : Option α) : BitVec 8 := if item.isSome then flag else 0

namespace Iso15693_3Told

def flags (told : Iso15693_3Told) : BitVec 8 :=
  flagOf iso15693_3SysinfoFlagDsfid told.dsfid ||| flagOf iso15693_3SysinfoFlagAfi told.afi |||
    flagOf iso15693_3SysinfoFlagIcRef told.icRef ||| flagOf iso15693_3SysinfoFlagMemory told.memory

def card (uid : Bytes 8) (told : Iso15693_3Told) : Iso15693_3Data where
  uid
  systemInfo :=
    { flags := told.flags
      dsfid := told.dsfid.getD 0
      afi := told.afi.getD 0
      icRef := told.icRef.getD 0
      blockCount := told.memory.elim 0 (·.blockCount)
      blockSize := told.memory.elim 0 (·.blockSize) }
  lockBits := told.lockBits
  blockData := told.memory.elim [] (·.blockData)
  blockSecurity := told.memory.elim [] (·.blockSecurity)

section
variable (uid : Bytes 8) (dsfid afi icRef : Option (BitVec 8))

theorem card_dsfid : dsfid.elim (iso15693_3Alloc uid)
        (storeInfo iso15693_3SysinfoFlagDsfid (fun dsfid info => { info with dsfid }) (iso15693_3Alloc uid)) =
      card uid ⟨dsfid, none, none, ⟨false, false⟩, none⟩ := by
  cases dsfid with
  | none => rfl
  | some byte => simp [card, flags, flagOf, iso15693_3Alloc, storeInfo]

theorem card_afi : afi.elim (card uid ⟨dsfid, none, none, ⟨false, false⟩, none⟩)
        (storeInfo iso15693_3SysinfoFlagAfi (fun afi info => { info with afi })
          (card uid ⟨dsfid, none, none, ⟨false, false⟩, none⟩)) =
      card uid ⟨dsfid, afi, none, ⟨false, false⟩, none⟩ := by
  cases afi with
  | none => rfl
  | some byte => simp [card, flags, flagOf, storeInfo]

theorem card_icRef : icRef.elim (card uid ⟨dsfid, afi, none, ⟨false, false⟩, none⟩)
        (storeInfo iso15693_3SysinfoFlagIcRef (fun icRef info => { info with icRef })
          (card uid ⟨dsfid, afi, none, ⟨false, false⟩, none⟩)) =
      card uid ⟨dsfid, afi, icRef, ⟨false, false⟩, none⟩ := by
  cases icRef with
  | none => rfl
  | some byte => simp [card, flags, flagOf, storeInfo]

theorem card_lockBits (lockBits : Iso15693_3LockBits) :
    { card uid ⟨dsfid, afi, icRef, ⟨false, false⟩, none⟩ with lockBits } = card uid ⟨dsfid, afi, icRef, lockBits, none⟩ :=
  rfl

end

end Iso15693_3Told

/-- A file has a line of that key. -/
def HasKey (content key : Text) : Prop := (flipperFormatStreamSeekToKey key content).isSome = true

instance (content key : Text) : Decidable (HasKey content key) := inferInstanceAs (Decidable (_ = true))

/-! ## What a load gives -/

section
variable {content key : Text}

/-- Reading leaves the file as it is. -/
def Reads (content : Text) (ff : FlipperFormat) : Prop := ff.content = content

theorem keyExist_ensures :
    Ensures (Reads content) (fun found => found = decide (HasKey content key)) (flipperFormatKeyExist key) := by
  rintro ff _ rfl ⟨⟩
  exact ⟨rfl, Bool.decide_eq_true.symm⟩

theorem getValueCount_ensures :
    Ensures (Reads content) (fun _ => True) (flipperFormatGetValueCount key) :=
  fun _ _ reads _ => ⟨reads, trivial⟩

theorem readValues_length {α : Type} {scan : Text → Option α} {size : Nat} {text behind : Text} {items : List α}
    (read : readValues scan size text = some (items, behind)) : items.length = size := by
  induction size generalizing text items behind with
  | zero =>
    cases read
    rfl
  | succ size next =>
    rw [readValues] at read
    split at read
    · cases read
    · split at read
      · cases read
      · split at read
        · cases read
        · obtain ⟨⟨rest, after⟩, later, shape⟩ := Option.map_eq_some_iff.mp read
          cases shape
          rw [List.length_cons, next later]

theorem readValueLine_ensures {α : Type} (scan : Text → Option α) (size : Nat) :
    Ensures (Reads content) (fun items => items.length = size) (flipperFormatStreamReadValueLine scan key size) := by
  refine Ensures.observe_bind fun ff reads => ?_
  rw [id_eq]
  cases found : (flipperFormatStreamSeekToKey key ff.rest).bind (readValues scan size) with
  | none => exact Ensures.fault _
  | some read =>
    obtain ⟨text, -, values⟩ := Option.bind_eq_some_iff.mp found
    exact Ensures.bind (Ensures.update (fun _ same => same) rfl) fun _ _ =>
      Ensures.pure (readValues_length values)

theorem readHexByte_ensures : Ensures (Reads content) (fun _ => True) (flipperFormatReadHexByte key) :=
  Ensures.bind (readValueLine_ensures _ _) fun _ _ => Ensures.pure trivial

theorem readUint32_ensures : Ensures (Reads content) (fun _ => True) (flipperFormatReadUint32 key) :=
  Ensures.bind (readValueLine_ensures _ _) fun _ _ => Ensures.pure trivial

theorem readBool_ensures : Ensures (Reads content) (fun _ => True) (flipperFormatReadBool key) :=
  Ensures.bind (readValueLine_ensures _ _) fun _ _ => Ensures.pure trivial

theorem readHexArray_ensures (array : List (BitVec 8)) : Ensures (Reads content)
      (fun read => read.length = array.length ∧
        read.drop (array.length % 2 ^ 16) = array.drop (array.length % 2 ^ 16))
      (readHexArray key array) := by
  refine Ensures.bind (readValueLine_ensures _ _) fun data length => Ensures.pure ⟨?_, ?_⟩
  · rw [List.length_append, List.length_drop]
    omega
  · rw [← length, List.drop_left]

theorem simpleArrayInit_ensures (count : Nat) :
    Ensures (Reads content) (fun array => array = List.replicate count 0 ∧ 0 < count) (simpleArrayInit count) := by
  refine Ensures.ite (fun _ => Ensures.fault _) fun filled => Ensures.pure ⟨rfl, Nat.pos_of_ne_zero filled⟩

end

section
variable {content : Text} {uid : Bytes 8}

theorem loadInfo_ensures (key : Text) (flag : BitVec 8)
    (store : BitVec 8 → Iso15693_3SystemInfo → Iso15693_3SystemInfo) (data : Iso15693_3Data) :
    Ensures (Reads content) (fun card => ∃ item, card = Option.elim item data (storeInfo flag store data))
      (iso15693_3LoadInfo key flag store data) := by
  refine Ensures.bind keyExist_ensures fun _ _ => Ensures.ite (fun _ => ?_) fun _ => Ensures.pure ⟨none, rfl⟩
  exact Ensures.bind readHexByte_ensures fun byte _ => Ensures.pure ⟨some byte, rfl⟩

theorem loadSystemInfo_ensures : Ensures (Reads content)
      (fun data => ∃ dsfid afi icRef, data = Iso15693_3Told.card uid ⟨dsfid, afi, icRef, ⟨false, false⟩, none⟩)
      (iso15693_3LoadSystemInfo (iso15693_3Alloc uid)) := by
  refine Ensures.bind (loadInfo_ensures _ _ _ _) ?_
  rintro _ ⟨dsfid, rfl⟩
  rw [Iso15693_3Told.card_dsfid]
  refine Ensures.bind (loadInfo_ensures _ _ _ _) ?_
  rintro _ ⟨afi, rfl⟩
  rw [Iso15693_3Told.card_afi]
  refine (loadInfo_ensures _ _ _ _).mono ?_
  rintro _ ⟨icRef, rfl⟩
  exact ⟨dsfid, afi, icRef, Iso15693_3Told.card_icRef uid dsfid afi icRef⟩

theorem hasLockBits_ensures : Ensures (Reads content)
      (fun has => has = true ↔ HasKey content iso15693_3LockDsfidKey ∧ HasKey content iso15693_3LockAfiKey)
      iso15693_3HasLockBits := by
  refine Ensures.bind keyExist_ensures fun dsfid same => Ensures.bind keyExist_ensures fun afi same' => Ensures.pure ?_
  rw [same, same']
  simp

theorem hasMemory_ensures : Ensures (Reads content)
      (fun has => has = true ↔ HasKey content iso15693_3BlockCountKey ∧ HasKey content iso15693_3BlockSizeKey)
      iso15693_3HasMemory := by
  refine Ensures.bind keyExist_ensures fun count same => Ensures.bind keyExist_ensures fun size same' => Ensures.pure ?_
  rw [same, same']
  simp

variable {dsfid afi icRef : Option (BitVec 8)} {lockBits : Iso15693_3LockBits}

theorem loadLockBits_ensures (has : Bool) : Ensures (Reads content)
      (fun card => ∃ locks, card = Iso15693_3Told.card uid ⟨dsfid, afi, icRef, locks, none⟩)
      (iso15693_3LoadLockBits has (Iso15693_3Told.card uid ⟨dsfid, afi, icRef, lockBits, none⟩)) := by
  refine Ensures.ite (fun _ => ?_) fun _ => Ensures.pure ⟨_, rfl⟩
  refine Ensures.bind readBool_ensures fun dsfid _ => Ensures.bind readBool_ensures fun afi _ => Ensures.pure ?_
  exact ⟨⟨dsfid, afi⟩, rfl⟩

theorem loadBlocks_ensures : Ensures (Reads content)
      (fun card => ∃ memory : Iso15693_3Memory, memory.blockSecurity = [] ∧
        card = Iso15693_3Told.card uid ⟨dsfid, afi, icRef, lockBits, some memory⟩)
      (iso15693_3LoadBlocks (Iso15693_3Told.card uid ⟨dsfid, afi, icRef, lockBits, none⟩)) := by
  refine Ensures.bind readUint32_ensures fun count _ => Ensures.bind readHexByte_ensures fun size _ => ?_
  refine Ensures.bind (simpleArrayInit_ensures _) ?_
  rintro _ ⟨rfl, positive⟩
  refine Ensures.bind (readHexArray_ensures _) ?_
  rintro blockData ⟨length, unread⟩
  rw [List.length_replicate] at length unread
  refine Ensures.pure ⟨⟨count.setWidth 16, size, blockData, [], positive, length, ?_, .inl rfl⟩, rfl, ?_⟩
  · rw [length, unread, List.drop_replicate]
    exact fun byte member => List.eq_of_mem_replicate member
  · simp [Iso15693_3Told.card, Iso15693_3Told.flags, flagOf]

/-- The security in the current format, over an array with a place for every block. -/
theorem loadSecurity_ensures (memory : Iso15693_3Memory) (length : memory.blockSecurity.length = memory.blockCount.toNat) :
    Ensures (Reads content) (fun card => ∃ blockSecurity, ∃ same : blockSecurity.length = memory.blockCount.toNat,
        card = Iso15693_3Told.card uid ⟨dsfid, afi, icRef, lockBits, some (memory.withSecurity blockSecurity same)⟩)
      (iso15693_3LoadSecurity (Iso15693_3Told.card uid ⟨dsfid, afi, icRef, lockBits, some memory⟩)) := by
  refine Ensures.bind getValueCount_ensures fun count _ => ?_
  cases count with
  | none => exact Ensures.fault _
  | some count =>
    refine Ensures.ite (fun _ => Ensures.fault _) fun _ => Ensures.bind (readHexArray_ensures _) ?_
    rintro read ⟨same, -⟩
    exact Ensures.pure ⟨read, same.trans length, rfl⟩

theorem loadSecurityLegacy_ensures (memory : Iso15693_3Memory) : Ensures (Reads content)
      (fun card => ∃ locks, card = Iso15693_3Told.card uid ⟨dsfid, afi, icRef, locks, some memory⟩)
      (iso15693_3LoadSecurityLegacy (Iso15693_3Told.card uid ⟨dsfid, afi, icRef, lockBits, some memory⟩)) := by
  refine Ensures.bind getValueCount_ensures fun count _ => ?_
  cases count with
  | none => exact Ensures.fault _
  | some count =>
    refine Ensures.ite (fun _ => Ensures.fault _) fun _ => Ensures.bind (readHexArray_ensures _) fun read _ => ?_
    exact Ensures.pure ⟨⟨read.headD 0 &&& iso15693_3LockDsfidLegacy ≠ 0,
      read.headD 0 &&& iso15693_3LockAfiLegacy ≠ 0⟩, rfl⟩

/-- A memory tells of the security if the file has a line of it, and of nothing but
zeros if the file is a legacy one. -/
def Iso15693_3Memory.ToldBy (content : Text) (hasLockBits : Bool) (memory : Iso15693_3Memory) : Prop :=
  (memory.blockSecurity ≠ [] ↔ HasKey content iso15693_3SecurityStatusKey) ∧
    (hasLockBits = false → ∀ byte ∈ memory.blockSecurity, byte = 0)

theorem loadMemory_ensures (has : Bool) : Ensures (Reads content)
      (fun card => ∃ locks memory, memory.ToldBy content has ∧
        card = Iso15693_3Told.card uid ⟨dsfid, afi, icRef, locks, some memory⟩)
      (iso15693_3LoadMemory has (Iso15693_3Told.card uid ⟨dsfid, afi, icRef, lockBits, none⟩)) := by
  refine Ensures.bind loadBlocks_ensures ?_
  rintro _ ⟨memory, empty, rfl⟩
  refine Ensures.bind keyExist_ensures ?_
  rintro _ rfl
  refine Ensures.ite (fun there => ?_) fun missing => ?_
  · refine Ensures.bind (simpleArrayInit_ensures _) ?_
    rintro _ ⟨rfl, positive⟩
    have security := of_decide_eq_true there
    have zeros : (List.replicate memory.blockCount.toNat 0#8).length = memory.blockCount.toNat := List.length_replicate
    have filled : ∀ blockSecurity : List (BitVec 8), blockSecurity.length = memory.blockCount.toNat →
        blockSecurity ≠ [] := by
      rintro _ length rfl
      exact absurd length (Nat.ne_of_lt positive)
    refine Ensures.ite (fun current => ?_) fun legacy => ?_
    · refine (loadSecurity_ensures (memory.withSecurity _ zeros) zeros).mono ?_
      rintro _ ⟨blockSecurity, same, rfl⟩
      refine ⟨lockBits, memory.withSecurity blockSecurity same, ⟨?_, ?_⟩, rfl⟩
      · exact iff_of_true (filled blockSecurity same) security
      · exact fun no => absurd current (Bool.eq_false_iff.mp no)
    · refine (loadSecurityLegacy_ensures (memory.withSecurity _ zeros)).mono ?_
      rintro _ ⟨locks, rfl⟩
      refine ⟨locks, memory.withSecurity _ zeros, ⟨iff_of_true (filled _ zeros) security, ?_⟩, rfl⟩
      exact fun _ byte member => List.eq_of_mem_replicate member
  · refine Ensures.pure ⟨lockBits, memory, ⟨?_, ?_⟩, rfl⟩
    · exact iff_of_false (fun filled => filled empty) fun there => missing (decide_eq_true there)
    · rw [empty]
      exact fun _ byte member => nomatch member

def HasMemoryKeys (content : Text) : Prop :=
  HasKey content iso15693_3BlockCountKey ∧ HasKey content iso15693_3BlockSizeKey

def HasLockKeys (content : Text) : Prop :=
  HasKey content iso15693_3LockDsfidKey ∧ HasKey content iso15693_3LockAfiKey

instance (content : Text) : Decidable (HasMemoryKeys content) := inferInstanceAs (Decidable (_ ∧ _))

instance (content : Text) : Decidable (HasLockKeys content) := inferInstanceAs (Decidable (_ ∧ _))

theorem load_told : Ensures (Reads content) (fun card => ∃ told : Iso15693_3Told, card = told.card uid ∧
        (told.memory.isSome ↔ HasMemoryKeys content) ∧
        ∀ memory ∈ told.memory, memory.ToldBy content (HasLockKeys content))
      (iso15693_3Load (iso15693_3Alloc uid)) := by
  refine Ensures.bind loadSystemInfo_ensures ?_
  rintro _ ⟨dsfid, afi, icRef, rfl⟩
  refine Ensures.bind hasLockBits_ensures fun has locks => ?_
  refine Ensures.bind (loadLockBits_ensures has) ?_
  rintro _ ⟨lockBits, rfl⟩
  refine Ensures.bind hasMemory_ensures fun memory keys => Ensures.ite (fun there => ?_) fun missing => ?_
  · refine (loadMemory_ensures has).mono ?_
    rintro _ ⟨locks', memory, toldBy, rfl⟩
    refine ⟨_, rfl, iff_of_true rfl (keys.mp there), ?_⟩
    rintro _ ⟨⟩
    have same : has = decide (HasLockKeys content) := by
      rw [Bool.eq_iff_iff, decide_eq_true_iff]
      exact locks
    rwa [← same]
  · refine Ensures.pure ⟨⟨dsfid, afi, icRef, lockBits, none⟩, rfl, ?_, ?_⟩
    · exact iff_of_false Bool.false_ne_true fun there => missing (keys.mpr there)
    · rintro _ ⟨⟩

end

/-- The lines of something that need not be there. -/
def infoLines (comment : String) (key : Text) (byte : Option (BitVec 8)) : List Line :=
  byte.elim [] fun byte => [flipperFormatWriteCommentCstr comment, flipperFormatWriteHex key [byte]]

namespace Iso15693_3Told
variable (told : Iso15693_3Told) (uid : Bytes 8)

def infoLines : List Line :=
  Nfc.infoLines "Data Storage Format Identifier" iso15693_3DsfidKey told.dsfid ++
    Nfc.infoLines "Application Family Identifier" iso15693_3AfiKey told.afi ++
    Nfc.infoLines "IC Reference - Vendor specific meaning" iso15693_3IcRefKey told.icRef

def memoryLines : List Line :=
  if told.memory.isSome then iso15693_3SaveMemory (told.card uid) else []

/-- The file that is saved of a card. -/
def lines : List Line :=
  flipperFormatWriteCommentCstr "ISO15693-3 specific data" ::
    (told.infoLines ++ (iso15693_3SaveLockBits told.lockBits ++ told.memoryLines uid))

theorem flags_iff : (told.flags &&& iso15693_3SysinfoFlagDsfid ≠ 0 ↔ told.dsfid.isSome) ∧
      (told.flags &&& iso15693_3SysinfoFlagAfi ≠ 0 ↔ told.afi.isSome) ∧
      (told.flags &&& iso15693_3SysinfoFlagIcRef ≠ 0 ↔ told.icRef.isSome) ∧
      (told.flags &&& iso15693_3SysinfoFlagMemory ≠ 0 ↔ told.memory.isSome) := by
  unfold flags flagOf
  generalize told.dsfid.isSome = dsfid
  generalize told.afi.isSome = afi
  generalize told.icRef.isSome = icRef
  generalize told.memory.isSome = memory
  revert dsfid afi icRef memory
  decide

theorem saveInfo_lines {flags flag byte : BitVec 8} {comment : String} {key : Text} {item : Option (BitVec 8)}
    (set : flags &&& flag ≠ 0 ↔ item.isSome) (same : byte = item.getD 0) :
    iso15693_3SaveInfo flags flag comment key byte = Nfc.infoLines comment key item := by
  cases item with
  | none => exact if_neg fun there => Bool.noConfusion (set.mp there)
  | some item =>
    rw [same]
    exact if_pos (set.mpr rfl)

theorem saveSystemInfo_lines : iso15693_3SaveSystemInfo (told.card uid).systemInfo = told.infoLines := by
  obtain ⟨dsfid, afi, icRef, -⟩ := told.flags_iff
  exact congrArg₂ (· ++ ·) (congrArg₂ (· ++ ·) (saveInfo_lines dsfid rfl) (saveInfo_lines afi rfl))
    (saveInfo_lines icRef rfl)

theorem save_lines {debug : Bool} {lines : List Line} (saved : iso15693_3Save debug (told.card uid) = .ok lines) :
    lines = told.lines uid := by
  obtain ⟨-, -, -, there⟩ := told.flags_iff
  unfold iso15693_3Save at saved
  rw [saveSystemInfo_lines] at saved
  unfold Iso15693_3Told.lines memoryLines
  change (if told.flags &&& iso15693_3SysinfoFlagMemory ≠ 0 then _ else _) = _ at saved
  by_cases memory : told.memory.isSome
  · rw [if_pos (there.mpr memory)] at saved
    rw [if_pos memory]
    split at saved
    · cases saved
    · cases saved
      rw [List.append_assoc]
      rfl
  · rw [if_neg (mt there.mp memory)] at saved
    cases saved
    rw [if_neg memory]
    rfl

theorem save_card (debug : Bool) (kept : ∀ memory ∈ told.memory, memory.blockSecurity ≠ []) :
    ∃ lines, iso15693_3Save debug (told.card uid) = .ok lines := by
  unfold iso15693_3Save
  split
  · rename_i set
    obtain ⟨memory, there⟩ := Option.isSome_iff_exists.mp (told.flags_iff.2.2.2.mp set)
    refine ⟨_, if_neg ?_⟩
    rintro ⟨-, noData | noSecurity⟩
    · have length := memory.length_blockData
      have positive := memory.positive
      rw [card, there] at noData
      change memory.blockData = [] at noData
      rw [noData] at length
      exact absurd length.symm (Nat.ne_of_gt positive)
    · rw [card, there] at noSecurity
      exact kept memory there noSecurity
  · exact ⟨_, rfl⟩

theorem lines_keys : hasKey iso15693_3DsfidKey (told.lines uid) = told.dsfid.isSome ∧
      hasKey iso15693_3AfiKey (told.lines uid) = told.afi.isSome ∧
      hasKey iso15693_3IcRefKey (told.lines uid) = told.icRef.isSome ∧
      hasKey iso15693_3LockDsfidKey (told.lines uid) = true ∧
      hasKey iso15693_3LockAfiKey (told.lines uid) = true ∧
      hasKey iso15693_3BlockCountKey (told.lines uid) = told.memory.isSome ∧
      hasKey iso15693_3BlockSizeKey (told.lines uid) = told.memory.isSome ∧
      hasKey iso15693_3SecurityStatusKey (told.lines uid) = told.memory.isSome := by
  rcases told with ⟨_ | _, _ | _, _ | _, _, _ | _⟩ <;> exact ⟨rfl, rfl, rfl, rfl, rfl, rfl, rfl, rfl⟩

theorem infoLines_valid {comment : String} {key : Text} (oneLine : eoln ∉ comment.toList) (valid : ValidKey key)
    (item : Option (BitVec 8)) : ∀ line ∈ Nfc.infoLines comment key item, line.Valid := by
  cases item with
  | none => exact fun _ member => nomatch member
  | some byte =>
    simp only [Nfc.infoLines, Option.elim_some, List.mem_cons, List.not_mem_nil, or_false, forall_eq_or_imp, forall_eq]
    exact ⟨writeCommentCstr_valid oneLine, writeHex_valid valid _⟩

theorem lines_valid : ∀ line ∈ told.lines uid, line.Valid := by
  have info : ∀ line ∈ told.infoLines, line.Valid := by
    rw [infoLines, List.forall_mem_append, List.forall_mem_append]
    exact ⟨⟨infoLines_valid (by decide) (by decide) _, infoLines_valid (by decide) (by decide) _⟩,
      infoLines_valid (by decide) (by decide) _⟩
  have locks : ∀ line ∈ iso15693_3SaveLockBits told.lockBits, line.Valid := by
    simp only [iso15693_3SaveLockBits, List.forall_mem_cons]
    exact ⟨writeCommentCstr_valid (by decide), writeBool_valid (by decide) _, writeBool_valid (by decide) _,
      fun _ member => nomatch member⟩
  have memory : ∀ line ∈ told.memoryLines uid, line.Valid := by
    unfold memoryLines
    split
    · simp only [iso15693_3SaveMemory, List.forall_mem_cons]
      exact ⟨writeCommentCstr_valid (by decide), writeUint32_valid (by decide) _, writeCommentCstr_valid (by decide),
        writeHex_valid (by decide) _, writeHex_valid (by decide) _, writeCommentCstr_valid (by decide),
        writeHex_valid (by decide) _, fun _ member => nomatch member⟩
    · exact fun _ member => nomatch member
  rw [lines, List.forall_mem_cons, List.forall_mem_append, List.forall_mem_append]
  exact ⟨writeCommentCstr_valid (by decide), info, locks, memory⟩

end Iso15693_3Told

/-! ## Loading what was saved -/

section
variable {all lines later : List Line} {ff : FlipperFormat}

/-- A byte that need not be there is read where it was written. -/
theorem loadInfo_yields {key : Text} {flag : BitVec 8} {store : BitVec 8 → Iso15693_3SystemInfo → Iso15693_3SystemInfo}
    {data : Iso15693_3Data} {comment : String} {item : Option (BitVec 8)}
    (ahead : Ahead all (infoLines comment key item ++ later) ff) (there : hasKey key all = item.isSome) :
    Yields (iso15693_3LoadInfo key flag store data)
      (fun card after => card = item.elim data (storeInfo flag store data) ∧ Ahead all later after) ff := by
  refine (ahead.keyExist key).bind ?_
  rintro _ _ ⟨rfl, rfl⟩
  rw [there]
  cases item with
  | none => exact ⟨rfl, ahead⟩
  | some byte =>
    refine (ahead.readHexByte (if_pos rfl)).bind ?_
    rintro _ after ⟨rfl, behind⟩
    exact ⟨rfl, behind⟩

theorem hasLockBits_yields (ahead : Ahead all later ff) (dsfid : hasKey iso15693_3LockDsfidKey all = true)
    (afi : hasKey iso15693_3LockAfiKey all = true) :
    Yields iso15693_3HasLockBits (fun has after => has = true ∧ after = ff) ff := by
  refine (ahead.keyExist _).bind ?_
  rintro _ _ ⟨rfl, rfl⟩
  refine (ahead.keyExist _).bind ?_
  rintro _ _ ⟨rfl, rfl⟩
  rw [dsfid, afi]
  exact ⟨rfl, rfl⟩

theorem hasMemory_yields {there : Bool} (ahead : Ahead all later ff) (count : hasKey iso15693_3BlockCountKey all = there)
    (size : hasKey iso15693_3BlockSizeKey all = there) :
    Yields iso15693_3HasMemory (fun has after => has = there ∧ after = ff) ff := by
  refine (ahead.keyExist _).bind ?_
  rintro _ _ ⟨rfl, rfl⟩
  refine (ahead.keyExist _).bind ?_
  rintro _ _ ⟨rfl, rfl⟩
  rw [count, size]
  exact ⟨Bool.and_self there, rfl⟩

theorem loadLockBits_yields {lockBits : Iso15693_3LockBits} {data : Iso15693_3Data}
    (ahead : Ahead all (iso15693_3SaveLockBits lockBits ++ later) ff) :
    Yields (iso15693_3LoadLockBits true data)
      (fun card after => card = { data with lockBits } ∧ Ahead all later after) ff := by
  refine (ahead.readBool rfl).bind ?_
  rintro _ after ⟨rfl, behind⟩
  refine (behind.readBool rfl).bind ?_
  rintro _ after' ⟨rfl, behind'⟩
  exact ⟨rfl, behind'⟩

theorem readHexArray_yields {key : Text} {data : List (BitVec 8)} (ahead : Ahead all lines ff)
    (found : seekLine key lines = some ((data.take (data.length % 2 ^ 16)).map hexText, later))
    (unread : ∀ byte ∈ data.drop (data.length % 2 ^ 16), byte = 0) :
    Yields (readHexArray key (List.replicate data.length 0))
      (fun read after => read = data ∧ Ahead all later after) ff := by
  unfold readHexArray
  rw [List.length_replicate]
  refine (ahead.readHex found).bind ?_
  rintro _ after ⟨rfl, behind⟩
  refine ⟨?_, behind⟩
  have zeros : data.drop (data.length % 2 ^ 16) = List.replicate (data.length - data.length % 2 ^ 16) 0 :=
    List.eq_replicate_iff.mpr ⟨List.length_drop, unread⟩
  rw [List.length_take, Nat.min_eq_left (Nat.mod_le _ _), List.drop_replicate, ← zeros, List.take_append_drop]

theorem simpleArrayInit_yields {count : Nat} (positive : 0 < count) :
    Yields (simpleArrayInit count) (fun array after => array = List.replicate count 0 ∧ after = ff) ff := by
  rw [simpleArrayInit, if_neg (Nat.ne_of_gt positive)]
  exact ⟨rfl, rfl⟩

section
variable {uid : Bytes 8} {dsfid afi icRef : Option (BitVec 8)} {lockBits : Iso15693_3LockBits}
  {memory : Iso15693_3Memory}

/-- The lines of the memory behind the data of the blocks. -/
def securityLines (memory : Iso15693_3Memory) : List Line :=
  [flipperFormatWriteCommentCstr "Block Security Status: 01 = locked, 00 = not locked",
    flipperFormatWriteHex iso15693_3SecurityStatusKey memory.blockSecurity]

theorem loadBlocks_yields
    (ahead : Ahead all (iso15693_3SaveMemory (Iso15693_3Told.card uid ⟨dsfid, afi, icRef, lockBits, some memory⟩)) ff) :
    Yields (iso15693_3LoadBlocks (Iso15693_3Told.card uid ⟨dsfid, afi, icRef, lockBits, none⟩))
      (fun card after => card = { Iso15693_3Told.card uid ⟨dsfid, afi, icRef, lockBits, some memory⟩ with
          blockSecurity := [] } ∧
        Ahead all (securityLines memory) after) ff := by
  refine (ahead.readUint32 rfl).bind ?_
  rintro _ first ⟨rfl, ahead₁⟩
  refine (ahead₁.readHexByte rfl).bind ?_
  rintro _ second ⟨rfl, ahead₂⟩
  have count : BitVec.setWidth 16 (BitVec.setWidth 32 memory.blockCount) = memory.blockCount :=
    BitVec.setWidth_setWidth_of_le _ (by decide)
  change Yields (simpleArrayInit (memory.blockSize.toNat *
    (BitVec.setWidth 16 (BitVec.setWidth 32 memory.blockCount)).toNat) >>= _) _ second
  rw [count]
  refine (simpleArrayInit_yields memory.positive).bind ?_
  rintro _ _ ⟨rfl, rfl⟩
  rw [← memory.length_blockData]
  refine (readHexArray_yields ahead₂ rfl memory.unread).bind ?_
  rintro _ third ⟨rfl, ahead₃⟩
  refine ⟨?_, ahead₃⟩
  simp [Iso15693_3Told.card, Iso15693_3Told.flags, flagOf]

theorem loadMemory_yields (kept : memory.blockSecurity ≠ [])
    (ahead : Ahead all (iso15693_3SaveMemory (Iso15693_3Told.card uid ⟨dsfid, afi, icRef, lockBits, some memory⟩)) ff)
    (there : hasKey iso15693_3SecurityStatusKey all = true) :
    Yields (iso15693_3LoadMemory true (Iso15693_3Told.card uid ⟨dsfid, afi, icRef, lockBits, none⟩))
      (fun card _ => card = Iso15693_3Told.card uid ⟨dsfid, afi, icRef, lockBits, some memory⟩) ff := by
  have length : memory.blockSecurity.length = memory.blockCount.toNat := memory.length_blockSecurity.resolve_left kept
  have positive : 0 < memory.blockCount.toNat := Nat.pos_of_mul_pos_left memory.positive
  have whole : memory.blockSecurity.length % 2 ^ 16 = memory.blockSecurity.length := by
    rw [length]
    exact Nat.mod_eq_of_lt memory.blockCount.isLt
  have line : seekLine iso15693_3SecurityStatusKey (securityLines memory) =
      some (memory.blockSecurity.map hexText, []) := by
    have taken : memory.blockSecurity.take (memory.blockSecurity.length % 2 ^ 16) = memory.blockSecurity := by
      rw [whole, List.take_length]
    exact (congrArg (fun data => some (List.map hexText data, [])) taken : _)
  refine (loadBlocks_yields ahead).bind ?_
  rintro _ first ⟨rfl, ahead₁⟩
  refine (ahead₁.keyExist _).bind ?_
  rintro _ _ ⟨rfl, rfl⟩
  rw [there]
  refine (simpleArrayInit_yields positive).bind ?_
  rintro _ _ ⟨rfl, rfl⟩
  refine (ahead₁.valueCount line).bind ?_
  rintro _ _ ⟨rfl, rfl⟩
  rw [if_neg (mt List.map_eq_nil_iff.mp kept), List.length_map, length]
  change Yields (if (List.replicate memory.blockCount.toNat 0#8).length ≠ memory.blockCount.toNat then _ else _) _ _
  rw [List.length_replicate, if_neg (not_not_intro rfl)]
  have zeros : (List.replicate memory.blockCount.toNat 0#8) = List.replicate memory.blockSecurity.length 0 := by
    rw [length]
    rfl
  have read := @readHexArray_yields all (securityLines memory) [] _ iso15693_3SecurityStatusKey memory.blockSecurity
    ahead₁ rfl (by rw [whole, List.drop_length]; exact fun _ member => nomatch member)
  rw [← zeros] at read
  refine read.bind ?_
  rintro _ _ ⟨rfl, -⟩
  rfl

end

end

/-- **What was told is told again**: the file of a card whose memory came with the
security of its blocks loads as that card. -/
theorem reload_told (uid : Bytes 8) (told : Iso15693_3Told)
    (kept : ∀ memory ∈ told.memory, memory.blockSecurity ≠ []) :
    Yields (iso15693_3Load (iso15693_3Alloc uid)) (fun card _ => card = told.card uid)
      (FlipperFormat.opened (fileText (told.lines uid))) := by
  obtain ⟨dsfid, afi, icRef, lockDsfid, lockAfi, count, size, security⟩ := told.lines_keys uid
  have start := (opened_ahead (told.lines_valid uid)).comment
  have info : Yields (iso15693_3LoadSystemInfo (iso15693_3Alloc uid))
      (fun card after => card = Iso15693_3Told.card uid ⟨told.dsfid, told.afi, told.icRef, ⟨false, false⟩, none⟩ ∧
        Ahead (told.lines uid) (iso15693_3SaveLockBits told.lockBits ++ told.memoryLines uid) after)
      (FlipperFormat.opened (fileText (told.lines uid))) := by
    rw [Iso15693_3Told.infoLines, List.append_assoc, List.append_assoc] at start
    refine (loadInfo_yields start dsfid).bind ?_
    rintro _ first ⟨rfl, ahead₁⟩
    rw [Iso15693_3Told.card_dsfid]
    refine (loadInfo_yields ahead₁ afi).bind ?_
    rintro _ second ⟨rfl, ahead₂⟩
    rw [Iso15693_3Told.card_afi]
    refine (loadInfo_yields ahead₂ icRef).mono ?_
    rintro _ third ⟨rfl, ahead₃⟩
    exact ⟨Iso15693_3Told.card_icRef uid told.dsfid told.afi told.icRef, ahead₃⟩
  refine info.bind ?_
  rintro _ first ⟨rfl, ahead₁⟩
  refine (hasLockBits_yields ahead₁ lockDsfid lockAfi).bind ?_
  rintro _ _ ⟨rfl, rfl⟩
  refine (loadLockBits_yields ahead₁).bind ?_
  rintro _ second ⟨rfl, ahead₂⟩
  rw [Iso15693_3Told.card_lockBits]
  refine (hasMemory_yields ahead₂ count size).bind ?_
  rintro _ _ ⟨rfl, rfl⟩
  obtain ⟨dsfid, afi, icRef, lockBits, memory⟩ := told
  cases memory with
  | none => rfl
  | some memory =>
    exact loadMemory_yields (kept memory rfl) ahead₂ security

/-- The card is saved, and the saved file loads as the same card. -/
def SurvivesSaving (debug : Bool) (card : Iso15693_3Data) : Prop :=
  ∃ lines, iso15693_3Save debug card = .ok lines ∧
    (iso15693_3Load (iso15693_3Alloc card.uid) (FlipperFormat.opened (fileText lines))).1 = .ok card

theorem hasKey_iff {all : List Line} (valid : ∀ line ∈ all, line.Valid) (key : Text) :
    HasKey (fileText all) key ↔ hasKey key all = true := by
  have found : flipperFormatStreamSeekToKey key (fileText all) = _ := (opened_ahead valid).seek key
  rw [HasKey, found, Option.isSome_map, hasKey]

/-- A card with memory survives if the security of its blocks was told: an empty line
of it is written otherwise, which no load accepts. -/
theorem survivesSaving_iff (debug : Bool) (uid : Bytes 8) (told : Iso15693_3Told) :
    SurvivesSaving debug (told.card uid) ↔ ∀ memory ∈ told.memory, memory.blockSecurity ≠ [] := by
  constructor
  · rintro ⟨lines, saved, reloaded⟩ memory there empty
    cases told.save_lines uid saved
    obtain ⟨-, -, -, -, -, count, size, security⟩ := told.lines_keys uid
    have valid := told.lines_valid uid
    rw [Option.mem_def.mp there] at count size security
    obtain ⟨-, told', same, toldBy, securityToldBy⟩ := load_told _ _ rfl reloaded
    have keys : HasMemoryKeys (fileText (told.lines uid)) :=
      ⟨(hasKey_iff valid _).mpr count, (hasKey_iff valid _).mpr size⟩
    obtain ⟨memory', there'⟩ := Option.isSome_iff_exists.mp (toldBy.mpr keys)
    have filled : memory'.blockSecurity ≠ [] :=
      (securityToldBy memory' there').1.mpr ((hasKey_iff valid _).mpr security)
    have arrays := congrArg Iso15693_3Data.blockSecurity same
    simp only [Iso15693_3Told.card, Option.mem_def.mp there, there'] at arrays
    exact filled (arrays.symm.trans empty)
  · intro kept
    obtain ⟨lines, saved⟩ := told.save_card uid debug kept
    refine ⟨lines, saved, ?_⟩
    cases told.save_lines uid saved
    have reloaded := reload_told uid told kept
    unfold Yields at reloaded
    split at reloaded
    · rename_i card after ran
      rw [reloaded] at ran
      exact congrArg Prod.fst ran
    · exact reloaded.elim

/-! ## The legacy format -/

/-- A file with memory and the security of the blocks, but without the lock bits in
lines of their own. -/
def Legacy (content : Text) : Prop :=
  HasMemoryKeys content ∧ HasKey content iso15693_3SecurityStatusKey ∧ ¬ HasLockKeys content

instance (content : Text) : Decidable (Legacy content) := inferInstanceAs (Decidable (_ ∧ _ ∧ _))

/-- The line behind the data of the blocks that a legacy file has the lock bits and
the security of the blocks on. -/
def legacySecurity (uid : Bytes 8) : LoadM (List (BitVec 8)) := do
  let data ← iso15693_3LoadSystemInfo (iso15693_3Alloc uid)
  let _ ← iso15693_3LoadBlocks data
  match ← flipperFormatGetValueCount iso15693_3SecurityStatusKey with
  | none => Effect.fault .refused
  | some valueCount => flipperFormatStreamReadValueLine scanHex iso15693_3SecurityStatusKey valueCount

/-- The security of the blocks in a legacy file. -/
def LegacyBytes (uid : Bytes 8) (content : Text) (bytes : List (BitVec 8)) : Prop :=
  Legacy content ∧ ∃ locks, (legacySecurity uid (FlipperFormat.opened content)).1 = .ok (locks :: bytes)

/-- An accepted legacy file is read up to the blocks, and then the security over an
array of zeros. -/
theorem legacy_load {uid : Bytes 8} {content : Text} {card : Iso15693_3Data}
    (accepted : (iso15693_3Load (iso15693_3Alloc uid) (FlipperFormat.opened content)).1 = .ok card)
    (legacy : Legacy content) :
    ∃ data first blocks second zeros, iso15693_3LoadSystemInfo (iso15693_3Alloc uid) (FlipperFormat.opened content) =
        (.ok data, first) ∧ iso15693_3LoadBlocks data first = (.ok blocks, second) ∧
      (iso15693_3LoadSecurityLegacy { blocks with blockSecurity := zeros } second).1 = .ok card := by
  obtain ⟨memoryKeys, securityKey, noLocks⟩ := legacy
  obtain ⟨data, first, info, accepted⟩ := Effect.bind_ok accepted
  obtain ⟨start, dsfid, afi, icRef, rfl⟩ :=
    loadSystemInfo_ensures (FlipperFormat.opened content) data rfl (congrArg Prod.fst info)
  rw [info] at start
  have reads : Reads content first := start
  -- no lock bits are read
  obtain ⟨has, _, lockRun, accepted⟩ := Effect.bind_ok accepted
  have known := (hasLockBits_ensures first has reads (congrArg Prod.fst lockRun)).2
  cases lockRun
  rw [Bool.eq_false_iff.mpr (mt known.mp noLocks)] at accepted
  obtain ⟨_, _, bitsRun, accepted⟩ := Effect.bind_ok accepted
  cases bitsRun
  -- the keys of the memory are there
  obtain ⟨has, _, memoryRun, accepted⟩ := Effect.bind_ok accepted
  have known := (hasMemory_ensures first has reads (congrArg Prod.fst memoryRun)).2
  cases memoryRun
  rw [known.mpr memoryKeys] at accepted
  obtain ⟨blocks, second, blocksRun, accepted⟩ := Effect.bind_ok accepted
  have kept := (loadBlocks_ensures first blocks reads (congrArg Prod.fst blocksRun)).1
  rw [blocksRun] at kept
  have reads : Reads content second := kept
  obtain ⟨found, _, keyRun, accepted⟩ := Effect.bind_ok accepted
  have known := (keyExist_ensures second found reads (congrArg Prod.fst keyRun)).2
  cases keyRun
  rw [known, if_pos (decide_eq_true securityKey)] at accepted
  obtain ⟨zeros, third, zerosRun, accepted⟩ := Effect.bind_ok accepted
  have same : third = second := by
    unfold simpleArrayInit at zerosRun
    split at zerosRun <;> cases zerosRun
    rfl
  rw [same] at accepted
  exact ⟨_, first, blocks, second, zeros, info, blocksRun, accepted⟩

theorem loadSecurityLegacy_count {data card : Iso15693_3Data} {ff : FlipperFormat}
    (accepted : (iso15693_3LoadSecurityLegacy data ff).1 = .ok card) :
    flipperFormatGetValueCount iso15693_3SecurityStatusKey ff = (.ok (some (card.blockSecurity.length + 1)), ff) := by
  obtain ⟨count, after, countRun, accepted⟩ := Effect.bind_ok accepted
  have same : after = ff := (congrArg Prod.snd countRun).symm
  rw [same] at countRun accepted
  cases count with
  | none => cases accepted
  | some count =>
    dsimp only at accepted
    by_cases counted : data.blockSecurity.length + 1 = count
    · rw [if_neg (not_not_intro counted)] at accepted
      obtain ⟨read, _, _, stored⟩ := Effect.bind_ok accepted
      cases stored
      rw [counted]
      exact countRun
    · rw [if_pos counted] at accepted
      cases accepted

theorem legacySecurity_length {uid : Bytes 8} {content : Text} {card : Iso15693_3Data} {bytes : List (BitVec 8)}
    (accepted : (iso15693_3Load (iso15693_3Alloc uid) (FlipperFormat.opened content)).1 = .ok card)
    (told : LegacyBytes uid content bytes) : card.blockSecurity.length = bytes.length := by
  obtain ⟨legacy, locks, read⟩ := told
  obtain ⟨data, first, blocks, second, zeros, info, blocksRun, left⟩ := legacy_load accepted legacy
  rw [legacySecurity, Effect.bind_of_ok info, Effect.bind_of_ok blocksRun,
    Effect.bind_of_ok (loadSecurityLegacy_count left)] at read
  have length : (locks :: bytes).length = card.blockSecurity.length + 1 :=
    (readValueLine_ensures scanHex _ second _ rfl read).2
  exact (Nat.succ.inj length).symm

/-- The security of the blocks that a legacy file holds is in the card. -/
def LegacyKept (uid : Bytes 8) (content : Text) (card : Iso15693_3Data) : Prop :=
  ∀ bytes, LegacyBytes uid content bytes → card.blockSecurity = bytes

/-- **A card that was loaded survives saving, and a legacy file keeps its security**,
if the file tells the security of its blocks, and if a legacy file has zeros there. -/
theorem reloads_iff (debug : Bool) (uid : Bytes 8) (content : Text) {card : Iso15693_3Data}
    (accepted : (iso15693_3Load (iso15693_3Alloc uid) (FlipperFormat.opened content)).1 = .ok card) :
    SurvivesSaving debug card ∧ LegacyKept uid content card ↔
      (HasMemoryKeys content → HasKey content iso15693_3SecurityStatusKey) ∧
        ∀ bytes, LegacyBytes uid content bytes → ∀ byte ∈ bytes, byte = 0 := by
  obtain ⟨-, told, same, memoryKeys, security⟩ := load_told _ _ rfl accepted
  have survives : SurvivesSaving debug card ↔ (HasMemoryKeys content → HasKey content iso15693_3SecurityStatusKey) := by
    rw [same, survivesSaving_iff]
    constructor
    · intro kept keys
      obtain ⟨memory, there⟩ := Option.isSome_iff_exists.mp (memoryKeys.mpr keys)
      exact (security memory there).1.mp (kept memory there)
    · intro told' memory there
      exact (security memory there).1.mpr (told' (memoryKeys.mp (Option.isSome_iff_exists.mpr ⟨memory, there⟩)))
  have kept : LegacyKept uid content card ↔ ∀ bytes, LegacyBytes uid content bytes → ∀ byte ∈ bytes, byte = 0 := by
    refine forall_congr' fun bytes => imp_congr_right fun legacy => ?_
    have length := legacySecurity_length accepted legacy
    obtain ⟨memory, there⟩ := Option.isSome_iff_exists.mp (memoryKeys.mpr legacy.1.1)
    have zeros : ∀ byte ∈ card.blockSecurity, byte = 0 := by
      rw [same, Iso15693_3Told.card, there]
      exact (security memory there).2 (decide_eq_false legacy.1.2.2)
    constructor
    · rintro rfl
      exact zeros
    · intro zeros'
      exact (List.eq_replicate_iff.mpr ⟨length, zeros⟩).trans (List.eq_replicate_iff.mpr ⟨rfl, zeros'⟩).symm
  rw [survives, kept]

def sampleUid : Bytes 8 := Vector.replicate 8 0#8

def sampleCard (blockSecurity : List (BitVec 8)) : Iso15693_3Data where
  uid := sampleUid
  systemInfo := ⟨iso15693_3SysinfoFlagMemory, 0, 0, 0, 1, 1⟩
  lockBits := ⟨false, false⟩
  blockData := [0xAA]
  blockSecurity

def legacyFile (security : String) : Text :=
  "Block Count: 1\nBlock Size: 01\nData Content: AA\nSecurity Status: 00 ".toList ++ security.toList

/-- A file that tells nothing of the security of the block. -/
def unsecuredFile : Text := "Block Count: 1\nBlock Size: 01\nData Content: AA\n".toList

theorem reloads_unlocked : SurvivesSaving true (sampleCard [0]) ∧ LegacyKept sampleUid (legacyFile "00") (sampleCard [0]) := by
  refine (reloads_iff true sampleUid (legacyFile "00") (by decide +kernel)).mpr ⟨fun _ => by decide +kernel, ?_⟩
  rintro bytes ⟨-, locks, read⟩
  have run : (legacySecurity sampleUid (FlipperFormat.opened (legacyFile "00"))).1 = .ok [0, 0] := by decide +kernel
  cases run.symm.trans read
  decide

/-- The lock of the block is lost from a legacy file, and a card whose file told
nothing of the security is saved as a file that is refused. -/
theorem reload_fails :
    ((iso15693_3Load (iso15693_3Alloc sampleUid) (FlipperFormat.opened (legacyFile "01"))).1 = .ok (sampleCard [0]) ∧
      ¬ LegacyKept sampleUid (legacyFile "01") (sampleCard [0])) ∧
    ((iso15693_3Load (iso15693_3Alloc sampleUid) (FlipperFormat.opened unsecuredFile)).1 = .ok (sampleCard []) ∧
      ¬ SurvivesSaving false (sampleCard [])) := by
  refine ⟨⟨by decide +kernel, fun kept => ?_⟩, by decide +kernel, ?_⟩
  · exact absurd (kept [1] ⟨by decide +kernel, 0, by decide +kernel⟩) (by decide)
  · rintro ⟨lines, saved, reloaded⟩
    have refused : (iso15693_3Save false (sampleCard [])).map (fun lines =>
        (iso15693_3Load (iso15693_3Alloc sampleUid) (FlipperFormat.opened (fileText lines))).1) =
          .ok (.error .refused) := by
      decide +kernel
    rw [saved] at refused
    exact nomatch (Except.ok.inj refused).symm.trans reloaded

end Xtreme.Nfc
