import Xtreme.Nfc.Iso15693Frames

/-! What the requests of a reader can change of an ISO15693-3 card: the items
that their commands name, and of these only what is not locked. -/
namespace Xtreme.Nfc
open Xtreme.Library BitLib Toolbox
open Effect (fault observe update Preserves)
open Iso15693_3Listener (requestData)

/-- What of a card commands can write or lock. -/
inductive Iso15693_3Item
  | block (index : Nat)
  | blockLock (index : Nat)
  | afi
  | afiLock
  | dsfid
  | dsfidLock
  deriving DecidableEq, Repr

namespace Iso15693_3Data
variable (before after : Iso15693_3Data)

def SameItem : Iso15693_3Item → Prop
  | .block index => after.block index = before.block index
  | .blockLock index => after.isLocked index = before.isLocked index
  | .afi => after.systemInfo.afi = before.systemInfo.afi
  | .afiLock => after.lockBits.afi = before.lockBits.afi
  | .dsfid => after.systemInfo.dsfid = before.systemInfo.dsfid
  | .dsfidLock => after.lockBits.dsfid = before.lockBits.dsfid

/-- Locks stay, and what they protect stays as well. -/
structure KeepsLocks : Prop where
  blocks : ∀ index, before.isLocked index = true →
    after.isLocked index = true ∧ after.block index = before.block index
  afi : before.lockBits.afi = true → after.lockBits.afi = true ∧ after.systemInfo.afi = before.systemInfo.afi
  dsfid : before.lockBits.dsfid = true →
    after.lockBits.dsfid = true ∧ after.systemInfo.dsfid = before.systemInfo.dsfid

end Iso15693_3Data

/-- The command of a handler is the one that writes or locks an item. -/
def Iso15693_3RequestHandler.Names (handler : Iso15693_3RequestHandler) (request : Iso15693_3RequestData)
    (item : Iso15693_3Item) : Prop :=
  match handler, item with
  | writeBlock, .block index => request.first = index
  | writeMultiBlocks, .block index => index ∈ request.blocks
  | lockBlock, .blockLock index => request.first = index
  | writeAfi, .afi => True
  | lockAfi, .afiLock => True
  | writeDsfid, .dsfid => True
  | lockDsfid, .dsfidLock => True
  | _, _ => False

/-- A request to write several blocks begins behind the last one, with as many bytes
as the blocks have: the comparison with the blocks that are left wraps around. -/
def Iso15693_3RequestData.WritesBehind (request : Iso15693_3RequestData) (data : Iso15693_3Data) : Prop :=
  2 < request.size ∧ (request.size - 2) / request.count = data.blockSize ∧ data.blockCount < request.first

/-- What became of a card under commands that name some items: a card of the same
make, on which only these items changed, and no locked ones. -/
structure Respects (before : Iso15693_3Data) (names : Iso15693_3Item → Prop) (after : Iso15693_3Data) : Prop where
  count : after.blockCount = before.blockCount
  size : after.blockSize = before.blockSize
  length : after.blockData.length = before.blockData.length
  security : after.blockSecurity.length = before.blockSecurity.length
  items : ∀ item, ¬ before.SameItem after item → names item
  locks : before.KeepsLocks after

section
variable {around : Iso15693_3Surroundings} {before data : Iso15693_3Data} {names : Iso15693_3Item → Prop}

/-! ## One change -/

theorem respects_refl : Respects before names before :=
  ⟨rfl, rfl, rfl, rfl, fun item changed => absurd (by cases item <;> rfl) changed,
    fun _ locked => ⟨locked, rfl⟩, fun locked => ⟨locked, rfl⟩, fun locked => ⟨locked, rfl⟩⟩

variable {index : Nat}

theorem Respects.unlocked (respects : Respects before names data) (unlocked : data.isLocked index = false) :
    before.isLocked index = false := by
  rw [← Bool.not_eq_true]
  intro locked
  exact Bool.false_ne_true (unlocked.symm.trans (respects.locks.blocks index locked).1)

theorem Respects.fits (respects : Respects before names data) (fits : before.Fits) : data.Fits := by
  refine ⟨respects.count ▸ fits.count, respects.size ▸ fits.size, ?_, ?_⟩
  · rw [respects.length, respects.count, respects.size]
    exact fits.blockData
  · rw [← List.length_eq_zero_iff, respects.security, respects.count, List.length_eq_zero_iff]
    exact fits.blockSecurity

theorem Respects.hasBlock_iff (respects : Respects before names data) (index : Nat) :
    data.HasBlock index ↔ before.HasBlock index := by
  unfold Iso15693_3Data.HasBlock Iso15693_3Data.blockOffset
  rw [respects.length, respects.size]

variable {bytes : List (BitVec 8)}

theorem getElem?_setBlock (has : data.HasBlock index) (size : bytes.length = data.blockSize) {place : Nat}
    (outside : place < data.blockOffset index ∨ data.blockOffset index + data.blockSize ≤ place) :
    (data.setBlock index bytes).blockData[place]? = data.blockData[place]? := by
  have room := has.2
  have front : (data.blockData.take (data.blockOffset index)).length = data.blockOffset index := by
    rw [List.length_take]
    omega
  unfold Iso15693_3Data.setBlock
  rcases outside with before | behind
  · rw [List.append_assoc, List.getElem?_append_left (by omega), List.getElem?_take, if_pos before]
  · rw [List.getElem?_append_right (by rw [List.length_append]; omega), List.length_append, List.getElem?_drop]
    congr 1
    omega

theorem length_setBlock (has : data.HasBlock index) (size : bytes.length = data.blockSize) :
    (data.setBlock index bytes).blockData.length = data.blockData.length := by
  have room := has.2
  simp only [Iso15693_3Data.setBlock, List.length_append, List.length_take, List.length_drop]
  omega

theorem block_setBlock {index other : Nat} (has : data.HasBlock index)
    (size : bytes.length = data.blockSize) (different : other ≠ index) :
    (data.setBlock index bytes).block other = data.block other := by
  apply List.ext_getElem?
  intro place
  change (((data.setBlock index bytes).blockData.drop (data.blockOffset other)).take data.blockSize)[place]? =
    ((data.blockData.drop (data.blockOffset other)).take data.blockSize)[place]?
  rw [List.getElem?_take, List.getElem?_take]
  split
  · rw [List.getElem?_drop, List.getElem?_drop]
    refine getElem?_setBlock has size ?_
    unfold Iso15693_3Data.blockOffset
    rcases Nat.lt_or_gt_of_ne different with below | above
    · have apart := Nat.mul_le_mul_right data.blockSize (show other + 1 ≤ index from below)
      rw [Nat.succ_mul] at apart
      omega
    · have apart := Nat.mul_le_mul_right data.blockSize (show index + 1 ≤ other from above)
      rw [Nat.succ_mul] at apart
      omega
  · rfl

theorem Respects.setBlock (respects : Respects before names data)
    (named : names (.block index)) (unlocked : before.isLocked index = false) (has : data.HasBlock index)
    (size : bytes.length = data.blockSize) : Respects before names (data.setBlock index bytes) := by
  refine ⟨respects.count, respects.size, (length_setBlock has size).trans respects.length, respects.security,
    fun item changed => ?_, fun other locked => ?_, respects.locks.afi, respects.locks.dsfid⟩
  · by_cases this : item = .block index
    · exact this ▸ named
    · refine respects.items item fun same => changed ?_
      cases item with
      | block other => exact (block_setBlock has size fun same => this (congrArg _ same)).trans same
      | _ => exact same
  · obtain ⟨still, same⟩ := respects.locks.blocks other locked
    refine ⟨still, (block_setBlock has size ?_).trans same⟩
    rintro rfl
    exact Bool.false_ne_true (unlocked.symm.trans locked)

theorem isLocked_setLocked {index other : Nat} (inside : index < data.blockSecurity.length) :
    (data.setLocked index).isLocked other = (decide (other = index) || data.isLocked other) := by
  have some : data.blockSecurity.isEmpty = false := by
    rw [List.isEmpty_eq_false_iff]
    exact List.ne_nil_of_length_pos (Nat.zero_lt_of_lt inside)
  have still : (data.blockSecurity.set index 1).isEmpty = false := by
    rw [List.isEmpty_eq_false_iff]
    exact List.ne_nil_of_length_pos (by rw [List.length_set]; exact Nat.zero_lt_of_lt inside)
  unfold Iso15693_3Data.setLocked Iso15693_3Data.isLocked
  simp only [some, still]
  by_cases here : index = other
  · subst here
    simp [inside]
  · simp [here, Ne.symm here]

theorem Respects.setLocked (respects : Respects before names data) (named : names (.blockLock index)) :
    Respects before names (data.setLocked index) := by
  by_cases inside : index < data.blockSecurity.length
  case neg =>
    have lost : data.setLocked index = data := by
      rw [Iso15693_3Data.setLocked, List.set_eq_of_length_le (Nat.not_lt.mp inside)]
    exact lost.symm ▸ respects
  refine ⟨respects.count, respects.size, respects.length, (List.length_set ..).trans respects.security,
    fun item changed => ?_, fun other locked => ?_, respects.locks.afi, respects.locks.dsfid⟩
  · by_cases this : item = .blockLock index
    · exact this ▸ named
    · refine respects.items item fun same => changed ?_
      cases item with
      | blockLock other =>
        have different : other ≠ index := fun same => this (congrArg _ same)
        refine Eq.trans ?_ same
        rw [isLocked_setLocked inside, decide_eq_false different, Bool.false_or]
      | _ => exact same
  · obtain ⟨still, same⟩ := respects.locks.blocks other locked
    exact ⟨by rw [isLocked_setLocked inside, still, Bool.or_true], same⟩

theorem Respects.setInfo (respects : Respects before names data) {info : Iso15693_3SystemInfo}
    {lockBits : Iso15693_3LockBits} (count : info.blockCount = data.systemInfo.blockCount)
    (size : info.blockSize = data.systemInfo.blockSize)
    (afi : info.afi ≠ data.systemInfo.afi → names .afi ∧ before.lockBits.afi = false)
    (dsfid : info.dsfid ≠ data.systemInfo.dsfid → names .dsfid ∧ before.lockBits.dsfid = false)
    (afiLock : lockBits.afi ≠ data.lockBits.afi → names .afiLock ∧ lockBits.afi = true)
    (dsfidLock : lockBits.dsfid ≠ data.lockBits.dsfid → names .dsfidLock ∧ lockBits.dsfid = true) :
    Respects before names { data with systemInfo := info, lockBits := lockBits } := by
  have sameCount : Iso15693_3Data.blockCount { data with systemInfo := info, lockBits := lockBits } = data.blockCount :=
    congrArg BitVec.toNat count
  have sameSize : Iso15693_3Data.blockSize { data with systemInfo := info, lockBits := lockBits } = data.blockSize :=
    congrArg BitVec.toNat size
  have sameBlock (index : Nat) :
      Iso15693_3Data.block { data with systemInfo := info, lockBits := lockBits } index = data.block index := by
    unfold Iso15693_3Data.block Iso15693_3Data.blockOffset
    rw [sameSize]
  refine ⟨sameCount.trans respects.count, sameSize.trans respects.size, respects.length, respects.security,
    fun item changed => ?_, fun index locked => ?_, fun locked => ?_, fun locked => ?_⟩
  · by_cases earlier : before.SameItem data item
    · cases item with
      | block index => exact absurd ((sameBlock index).trans earlier) changed
      | blockLock index => exact absurd earlier changed
      | afi => exact (afi fun same => changed (same.trans earlier)).1
      | afiLock => exact (afiLock fun same => changed (same.trans earlier)).1
      | dsfid => exact (dsfid fun same => changed (same.trans earlier)).1
      | dsfidLock => exact (dsfidLock fun same => changed (same.trans earlier)).1
    · exact respects.items item earlier
  · obtain ⟨still, same⟩ := respects.locks.blocks index locked
    exact ⟨still, (sameBlock index).trans same⟩
  · obtain ⟨still, same⟩ := respects.locks.afi locked
    refine ⟨?_, ?_⟩
    · by_contra opened
      exact opened (afiLock fun same => opened (same.trans still)).2
    · by_contra changed
      exact Bool.false_ne_true ((afi fun same' => changed (same'.trans same)).2.symm.trans locked)
  · obtain ⟨still, same⟩ := respects.locks.dsfid locked
    refine ⟨?_, ?_⟩
    · by_contra opened
      exact opened (dsfidLock fun same => opened (same.trans still)).2
    · by_contra changed
      exact Bool.false_ne_true ((dsfid fun same' => changed (same'.trans same)).2.symm.trans locked)

/-- A program leaves the surroundings alone and changes the card only as `names`
allows, and may stop. -/
abbrev Respecting {α : Type} (around : Iso15693_3Surroundings) (before : Iso15693_3Data)
    (names : Iso15693_3Item → Prop) (program : Iso15693_3M α) : Prop :=
  Keeping (fun instanc => instanc.surroundings = around ∧ Respects before names instanc.data) program

theorem respects_undisturbed : Undisturbed fun instanc : Iso15693_3Listener =>
    instanc.surroundings = around ∧ Respects before names instanc.data :=
  ⟨fun _ _ _ kept => kept, fun _ _ kept => kept, fun _ _ kept => kept⟩

variable {instanc : Iso15693_3Listener}

theorem isBlockLocked_run (fits : instanc.data.Fits) (inside : blockNumber index < instanc.data.blockCount) :
    iso15693_3IsBlockLocked index instanc = (.ok (instanc.data.isLocked (blockNumber index)), instanc) := by
  have security := security_inside fits inside
  unfold iso15693_3IsBlockLocked checkBlockNumber
  rw [Effect.bind_assoc, Effect.observe_bind, Effect.bind_of_ok (furiAssert_run inside _), Effect.observe_bind]
  by_cases unknown : instanc.data.blockSecurity = []
  · rw [Iso15693_3Data.isLocked, unknown]
    rfl
  · have within := security.2.mpr unknown
    have known : instanc.data.blockSecurity.isEmpty = false := by simpa using unknown
    unfold blockSecurityAt
    rw [if_neg unknown, Effect.bind_assoc, Effect.observe_bind, id, Effect.bind_assoc,
      Effect.bind_of_ok (furiAssert_run within _)]
    simp [Iso15693_3Data.isLocked, known, within]

/-- A lock that was looked at is that of a block of the card, if an assertion or
the request sees to it. -/
theorem isBlockLocked_ok (fits : instanc.data.Fits) {locked : Bool}
    (sure : instanc.surroundings.furiDebug = true ∨ blockNumber index < instanc.data.blockCount)
    (ran : (iso15693_3IsBlockLocked index instanc).1 = .ok locked) :
    blockNumber index < instanc.data.blockCount ∧ locked = instanc.data.isLocked (blockNumber index) ∧
      iso15693_3IsBlockLocked index instanc = (.ok locked, instanc) := by
  have inside : blockNumber index < instanc.data.blockCount := by
    rcases sure with debug | inside
    · exact ((yields_iso15693_3IsBlockLocked debug index).mp (Effect.Yields.of_ok ran)).1
    · exact inside
  have run := isBlockLocked_run fits inside
  rw [run] at ran ⊢
  cases ran
  exact ⟨inside, rfl, rfl⟩

theorem isAnyBlockLocked_ok (fits : instanc.data.Fits) {indices : List Nat}
    (sure : instanc.surroundings.furiDebug = true ∨ ∀ index ∈ indices, blockNumber index < instanc.data.blockCount)
    (ran : (isAnyBlockLocked indices instanc).1 = .ok false) :
    ∀ index ∈ indices, blockNumber index < instanc.data.blockCount ∧
      instanc.data.isLocked (blockNumber index) = false := by
  induction indices with
  | nil => exact fun _ none => nomatch none
  | cons index rest ih =>
    obtain ⟨locked, after, first, others⟩ := Effect.bind_ok ran
    obtain ⟨inside, answer, run⟩ := isBlockLocked_ok fits
      (sure.imp_right fun all => all index List.mem_cons_self) (congrArg Prod.fst first)
    cases first.symm.trans run
    cases locked with
    | true => exact nomatch others
    | false =>
      have left := ih (sure.imp_right fun all other member => all other (List.mem_cons_of_mem _ member)) others
      exact List.forall_mem_cons.mpr ⟨⟨inside, answer.symm⟩, left⟩

/-! ## Handlers -/

theorem respecting_setBlockData (named : names (.block (blockNumber index)))
    (unlocked : before.isLocked (blockNumber index) = false) (size : bytes.length = before.blockSize) :
    Respecting around before names (iso15693_3SetBlockData index bytes) :=
  .bind (Looking.keeps_checkBlockNumber _) fun _ => .observe_bind fun _ respects => .bind (Looking.keeps_furiAssert _) fun _ =>
    .ite (fun has => .update fun _ later => ⟨later.1, later.2.setBlock named unlocked
      ((later.2.hasBlock_iff _).mpr ((respects.2.hasBlock_iff _).mp has)) (size.trans later.2.size.symm)⟩)
    fun _ => .pure _

theorem respecting_setBlockLocked (named : names (.blockLock (blockNumber index))) :
    Respecting around before names (iso15693_3SetBlockLocked index) :=
  .bind (Looking.keeps_checkBlockNumber _) fun _ => .bind (.observe _) fun _ => .bind (Looking.keeps_furiAssert _) fun _ =>
    .update fun _ later => ⟨later.1, later.2.setLocked named⟩

theorem length_readRequestBytes {request : Iso15693_3RequestData} {first count : Nat} (ran : (readRequestBytes request first count instanc).1 = .ok bytes) :
    bytes.length = count := by
  rw [readRequestBytes_run] at ran
  cases ran
  rw [List.length_map, List.length_range']

theorem respecting_writeBlock (fits : before.Fits) (request : Iso15693_3RequestData) (flags : BitVec 8)
    (named : names (.block request.first)) :
    Respecting around before names (iso15693_3ListenerWriteBlockHandler request flags) := by
  refine .bind (respects_undisturbed.keeps_setWaitForEof _) fun _ => .ite (fun _ => .pure _) fun _ => ?_
  refine .bind_of_run fun instanc respects => ⟨_, instanc.traced (.requestByte (request.start + 0)), rfl, respects, ?_⟩
  have same : blockNumber request.first = request.first := blockNumber_of_lt (first_lt request)
  refine .observe_bind fun instanc respects => .ite (fun _ => .pure _) fun inside =>
    .ite (fun _ => .pure _) fun size => ?_
  refine .bind_answers (fun locked => locked = false → before.isLocked request.first = false)
    (Looking.keeps_isBlockLocked _) (fun state locked later ran opened => ?_) fun locked checked =>
    .ite (fun _ => .pure _) fun opened => Looking.keeps_unless ?_
  · have sure : blockNumber request.first < state.data.blockCount := by
      rw [same, later.2.count, ← respects.2.count]
      exact Nat.not_le.mp inside
    obtain ⟨-, answer, -⟩ := isBlockLocked_ok (later.2.fits fits) (.inr sure) ran
    exact later.2.unlocked (same ▸ answer.symm.trans opened)
  · refine .bind_answers (fun bytes => bytes.length = request.size - 1) (respects_undisturbed.looking.keeps_readRequestBytes _ _ _)
      (fun _ _ _ => length_readRequestBytes) fun bytes length => .bind ?_ fun _ => .pure _
    refine respecting_setBlockData ?_ ?_ (length.trans ((not_not.mp size).trans respects.2.size))
    · exact same.symm ▸ named
    · exact same.symm ▸ checked (Bool.not_eq_true _ ▸ opened)

variable (request : Iso15693_3RequestData) (flags : BitVec 8)

theorem respecting_lockBlock (named : names (.blockLock request.first)) :
    Respecting around before names (iso15693_3ListenerLockBlockHandler request flags) := by
  refine .bind (respects_undisturbed.keeps_setWaitForEof _) fun _ => .ite (fun _ => .pure _) fun _ => ?_
  refine .bind_of_run fun instanc respects => ⟨_, instanc.traced (.requestByte (request.start + 0)), rfl, respects, ?_⟩
  have same : blockNumber request.first = request.first := blockNumber_of_lt (first_lt request)
  refine .bind (.observe _) fun _ => .ite (fun _ => .pure _) fun _ =>
    .bind (Looking.keeps_isBlockLocked _) fun _ => .ite (fun _ => .pure _) fun _ => Looking.keeps_unless ?_
  exact .bind (respecting_setBlockLocked (same.symm ▸ named)) fun _ => .pure _

/-- An assertion, or the request itself, sees to it that the blocks whose locks
were looked at are those of the request. -/
theorem respecting_writeMultiBlocks (fits : before.Fits) (request : Iso15693_3RequestData) (flags : BitVec 8)
    (sure : around.furiDebug = true ∨ ¬ request.WritesBehind before)
    (named : ∀ index ∈ request.blocks, names (.block index)) :
    Respecting around before names (iso15693_3ListenerWriteMultiBlocksHandler request flags) := by
  refine .bind (respects_undisturbed.keeps_setWaitForEof _) fun _ => .ite (fun _ => .pure _) fun long => ?_
  refine .bind_of_run fun instanc respects => ⟨_, instanc.traced (.requestByte (request.start + 0)), rfl, respects, ?_⟩
  refine .bind_of_run fun instanc respects => ⟨_, instanc.traced (.requestByte (request.start + 1)), rfl, respects, ?_⟩
  refine .observe_bind fun instanc respects => .ite (fun _ => .pure _) fun available =>
    .ite (fun _ => .pure _) fun size => Looking.keeps_unless ?_
  have passes : PassesRange before request := by
    refine (passesRange_iff fits request).mp ?_
    rw [← respects.2.count]
    exact available
  have sameSize := (not_not.mp size).trans respects.2.size
  refine .bind_answers (fun locked => locked = false → ∀ index ∈ request.blocks,
      blockNumber index = index ∧ before.isLocked index = false)
    (Looking.keeps_isAnyBlockLocked _) (fun state locked later ran opened index member => ?_) fun locked checked =>
    .ite (fun _ => .pure _) fun opened => .bind (.forM fun index member => ?_) fun _ => .pure _
  · subst opened
    have debugged : state.surroundings.furiDebug = true ∨
        ∀ index ∈ request.blocks, blockNumber index < state.data.blockCount := by
      rcases sure with debug | begins
      · exact .inl (later.1 ▸ debug)
      · refine .inr fun index member => ?_
        have inside := blocks_inside (passes.resolve_left fun behind => begins ⟨Nat.not_le.mp long, sameSize, behind⟩)
          index member
        rw [blockNumber_of_lt (Nat.lt_of_lt_of_le inside fits.count), later.2.count]
        exact inside
    have all := isAnyBlockLocked_ok (later.2.fits fits) debugged ran
    have first := all request.first ((mem_blocks _).mpr ⟨Nat.le_refl _, by have := count_bounds request; omega⟩)
    rw [blockNumber_of_lt (first_lt request), later.2.count] at first
    have inside := blocks_inside (passes.resolve_left (by omega)) index member
    have same := blockNumber_of_lt (Nat.lt_of_lt_of_le inside fits.count)
    exact ⟨same, later.2.unlocked (same ▸ (all index member).2)⟩
  · obtain ⟨same, unlocked⟩ := checked (Bool.not_eq_true _ ▸ opened) index member
    refine .bind_answers (fun bytes => bytes.length = (request.size - 2) / request.count)
      (respects_undisturbed.looking.keeps_readRequestBytes _ _ _) (fun _ _ _ => length_readRequestBytes) fun bytes length => ?_
    refine respecting_setBlockData ?_ ?_ (length.trans sameSize)
    · exact same.symm ▸ named index member
    · exact same.symm ▸ unlocked

theorem respecting_writeInfo {command : BitVec 8} {locked : Iso15693_3LockBits → Bool}
    {write : Iso15693_3SystemInfo → BitVec 8 → Iso15693_3SystemInfo}
    (allowed : ∀ (data later : Iso15693_3Data) value, Respects before names data → locked data.lockBits = false →
      Respects before names later → Respects before names { later with systemInfo := write later.systemInfo value }) :
    Respecting around before names (writeInfoHandler command locked write request flags) := by
  refine .bind (respects_undisturbed.keeps_setWaitForEof _) fun _ => .observe_bind fun instanc respects =>
    .ite (fun _ => .pure _) fun _ => .ite (fun _ => .pure _) fun opened => Looking.keeps_unless ?_
  refine .bind (respects_undisturbed.looking.keeps_readRequest _ _) fun value => .bind (.update fun state later => ⟨later.1, ?_⟩) fun _ => .pure _
  exact allowed instanc.data state.data value respects.2 (Bool.not_eq_true _ ▸ opened) later.2

theorem respecting_lockInfo {command : BitVec 8} {locked : Iso15693_3LockBits → Bool}
    {lock : Iso15693_3LockBits → Iso15693_3LockBits} (allowed : ∀ later : Iso15693_3Data, Respects before names later →
      Respects before names { later with lockBits := lock later.lockBits }) :
    Respecting around before names (lockInfoHandler command locked lock flags) := by
  refine .bind (respects_undisturbed.keeps_setWaitForEof _) fun _ => .bind (.observe _) fun _ =>
    .ite (fun _ => .pure _) fun _ => Looking.keeps_unless ?_
  exact .bind (.update fun state later => ⟨later.1, allowed state.data later.2⟩) fun _ => .pure _

theorem respecting_writeAfi (named : names .afi) :
    Respecting around before names (iso15693_3ListenerWriteAfiHandler request flags) :=
  respecting_writeInfo request flags fun data later value respects opened laterRespects =>
    laterRespects.setInfo rfl rfl (fun _ => ⟨named, by
        rw [← Bool.not_eq_true]
        exact fun locked => Bool.false_ne_true (opened.symm.trans (respects.locks.afi locked).1)⟩)
      (fun changed => absurd rfl changed) (fun changed => absurd rfl changed) (fun changed => absurd rfl changed)

theorem respecting_writeDsfid (named : names .dsfid) :
    Respecting around before names (iso15693_3ListenerWriteDsfidHandler request flags) :=
  respecting_writeInfo request flags fun data later value respects opened laterRespects =>
    laterRespects.setInfo rfl rfl (fun changed => absurd rfl changed) (fun _ => ⟨named, by
        rw [← Bool.not_eq_true]
        exact fun locked => Bool.false_ne_true (opened.symm.trans (respects.locks.dsfid locked).1)⟩)
      (fun changed => absurd rfl changed) (fun changed => absurd rfl changed)

theorem respecting_lockAfi (named : names .afiLock) :
    Respecting around before names (iso15693_3ListenerLockAfiHandler flags) :=
  respecting_lockInfo flags fun _ later => later.setInfo rfl rfl (fun changed => absurd rfl changed)
    (fun changed => absurd rfl changed) (fun _ => ⟨named, rfl⟩) (fun changed => absurd rfl changed)

theorem respecting_lockDsfid (named : names .dsfidLock) :
    Respecting around before names (iso15693_3ListenerLockDsfidHandler flags) :=
  respecting_lockInfo flags fun _ later => later.setInfo rfl rfl (fun changed => absurd rfl changed)
    (fun changed => absurd rfl changed) (fun changed => absurd rfl changed) (fun _ => ⟨named, rfl⟩)

theorem respecting_handler (fits : before.Fits) (handler : Iso15693_3RequestHandler)
    (request : Iso15693_3RequestData) (flags : BitVec 8)
    (sure : handler = .writeMultiBlocks → around.furiDebug = true ∨ ¬ request.WritesBehind before)
    (named : ∀ item, handler.Names request item → names item) :
    Respecting around before names (handler.run request flags) := by
  cases handler with
  | inventory => exact respects_undisturbed.looking.keeps_inventory request flags
  | stayQuiet => exact .bind (.update fun _ kept => kept) fun _ => .pure _
  | readBlock => exact respects_undisturbed.looking.keeps_readBlock request flags
  | writeBlock => exact respecting_writeBlock fits request flags (named (.block request.first) rfl)
  | lockBlock => exact respecting_lockBlock request flags (named (.blockLock request.first) rfl)
  | readMultiBlocks => exact respects_undisturbed.looking.keeps_readMultiBlocks request flags
  | writeMultiBlocks =>
    exact respecting_writeMultiBlocks fits request flags (sure rfl) fun index member => named (.block index) member
  | select => exact .ite (fun _ => .pure _) fun _ => .bind (.update fun _ kept => kept) fun _ => .pure _
  | resetToReady => exact .bind (.update fun _ kept => kept) fun _ => .pure _
  | writeAfi => exact respecting_writeAfi request flags (named .afi trivial)
  | lockAfi => exact respecting_lockAfi flags (named .afiLock trivial)
  | writeDsfid => exact respecting_writeDsfid request flags (named .dsfid trivial)
  | lockDsfid => exact respecting_lockDsfid flags (named .dsfidLock trivial)
  | getSystemInfo => exact respects_undisturbed.looking.keeps_getSystemInfo
  | getMultiBlocksSecurity => exact respects_undisturbed.looking.keeps_getMultiBlocksSecurity request

end

/-- A frame is a command for an item that this card carries out. -/
def Iso15693_3Listener.Commands (instanc : Iso15693_3Listener) (frame : BitBuffer) (item : Iso15693_3Item) : Prop :=
  instanc.refusal frame = none ∧
    ∃ handler, handlerOf (frame.byte 1) = some handler ∧ handler.Names (requestData frame) item

/-- An event brings a command for an item, in a frame whose checksum is right. -/
def Iso15693_3Listener.CommandedBy (instanc : Iso15693_3Listener) (event : Iso15693_3NfcEvent)
    (item : Iso15693_3Item) : Prop :=
  ∃ rxBuffer, event = .rxEnd rxBuffer ∧ iso13239CrcCheck rxBuffer = true ∧
    instanc.Commands (iso13239CrcTrim rxBuffer) item

/-- An event brings no request that writes behind the last block, or an assertion
stops it. -/
def Iso15693_3Listener.Permits (instanc : Iso15693_3Listener) (event : Iso15693_3NfcEvent) : Prop :=
  instanc.surroundings.furiDebug = true ∨ ∀ rxBuffer, event = .rxEnd rxBuffer → iso13239CrcCheck rxBuffer = true →
      instanc.refusal (iso13239CrcTrim rxBuffer) = none →
      handlerOf ((iso13239CrcTrim rxBuffer).byte 1) = some .writeMultiBlocks →
        ¬ (requestData (iso13239CrcTrim rxBuffer)).WritesBehind instanc.data

section
variable {instanc : Iso15693_3Listener}

theorem processRequest_respects (fits : instanc.data.Fits) (frame : BitBuffer)
    (sure : instanc.refusal frame = none → handlerOf (frame.byte 1) = some .writeMultiBlocks →
      instanc.surroundings.furiDebug = true ∨ ¬ (requestData frame).WritesBehind instanc.data) :
    (iso15693_3ListenerProcessRequest frame instanc).2.surroundings = instanc.surroundings ∧
      Respects instanc.data (instanc.Commands frame) (iso15693_3ListenerProcessRequest frame instanc).2.data := by
  obtain ⟨before, looked, ran⟩ := processRequest_run frame instanc
  rw [ran]
  have same : before.surroundings = instanc.surroundings ∧
      Respects instanc.data (instanc.Commands frame) before.data :=
    ⟨looked.surroundings, looked.data ▸ respects_refl⟩
  cases delivered : instanc.refusal frame with
  | some error => exact same
  | none =>
    refine (respects_undisturbed.keeps_standardRequest _ _ _ (fun handler found => ⟨.update fun _ kept => kept, ?_⟩)
      before same).1
    exact respecting_handler fits handler _ _ (fun writes => sure delivered (writes ▸ found))
      fun item names => ⟨delivered, handler, found, names⟩

theorem next_respects (fits : instanc.data.Fits) {event : Iso15693_3NfcEvent} (permitted : instanc.Permits event) :
    (instanc.next event).surroundings = instanc.surroundings ∧
      Respects instanc.data (instanc.CommandedBy event) (instanc.next event).data := by
  refine respects_undisturbed.run_keeps (fun _ _ kept => kept) ⟨rfl, respects_refl⟩ fun rxBuffer same right => ?_
  obtain ⟨around, count, size, length, security, items, locks⟩ :=
    @processRequest_respects { instanc with trace := [] } fits (iso13239CrcTrim rxBuffer)
      fun delivered found => permitted.imp_right fun begins => begins rxBuffer same right delivered found
  exact ⟨around, count, size, length, security, fun item changed => ⟨rxBuffer, same, right, items item changed⟩, locks⟩

theorem keepsLocks_trans {first second third : Iso15693_3Data} (early : first.KeepsLocks second)
    (late : second.KeepsLocks third) : first.KeepsLocks third := by
  refine ⟨fun index locked => ?_, fun locked => ?_, fun locked => ?_⟩
  · obtain ⟨still, same⟩ := early.blocks index locked
    obtain ⟨last, same'⟩ := late.blocks index still
    exact ⟨last, same'.trans same⟩
  · obtain ⟨still, same⟩ := early.afi locked
    obtain ⟨last, same'⟩ := late.afi still
    exact ⟨last, same'.trans same⟩
  · obtain ⟨still, same⟩ := early.dsfid locked
    obtain ⟨last, same'⟩ := late.dsfid still
    exact ⟨last, same'.trans same⟩

/-- Over a run the card keeps its make and its locks. -/
theorem after_respects (fits : instanc.data.Fits) {events : List Iso15693_3NfcEvent}
    (permitted : instanc.Throughout Iso15693_3Listener.Permits events) :
    (instanc.after events).data.Fits ∧ instanc.data.KeepsLocks (instanc.after events).data := by
  induction events generalizing instanc with
  | nil => exact ⟨fits, (@respects_refl instanc.data fun _ => True).locks⟩
  | cons event rest ih =>
    have step := (next_respects fits permitted.1).2
    obtain ⟨still, locks⟩ := @ih (instanc.next event) (step.fits fits) permitted.2
    exact ⟨still, keepsLocks_trans step.locks locks⟩

/-- **As long as no request writes behind the last block, what is locked stays locked
and keeps its value, and an item changes only through a command for it.** -/
theorem locked_items_stay (fits : instanc.data.Fits) (earlier later : List Iso15693_3NfcEvent)
    (event : Iso15693_3NfcEvent) (permitted : instanc.Throughout Iso15693_3Listener.Permits (earlier ++ event :: later)) :
    (instanc.after earlier).data.KeepsLocks (instanc.after (earlier ++ event :: later)).data ∧
      ∀ item, ¬ (instanc.after earlier).data.SameItem ((instanc.after earlier).next event).data item →
        (instanc.after earlier).CommandedBy event item := by
  obtain ⟨before, behind⟩ := throughout_append.mp permitted
  have reached := (after_respects fits before).1
  refine ⟨?_, (next_respects reached behind.1).2.items⟩
  rw [show instanc.after (earlier ++ event :: later) = (instanc.after earlier).after (event :: later) from
    List.foldl_append ..]
  exact (after_respects reached behind).2

end

theorem permits_of_command {instanc : Iso15693_3Listener} {request : List (BitVec 8)}
    (other : handlerOf ((iso13239CrcTrim (.ofBytes (request ++ iso13239CrcBytes request))).byte 1) ≠
      some .writeMultiBlocks) : instanc.Permits (requestEvent request) := by
  refine .inr fun rxBuffer same _ _ found => ?_
  obtain rfl := Iso15693_3NfcEvent.rxEnd.inj same
  exact absurd found other

/-- A block of the card is locked, and the next request finds it so. -/
theorem locked_items_stay_locked :
    let card := iso15693_3ListenerAlloc releaseBuild fourBlockCard
    let lock := requestEvent [0x02, 0x22, 0x01]
    let write := requestEvent [0x02, 0x21, 0x01, 1, 2, 3, 4]
    (card.after [lock]).data.isLocked 1 = true ∧
      (card.after [lock]).data.KeepsLocks (card.after ([lock] ++ write :: [])).data := by
  intro card lock write
  have permitted : card.Throughout Iso15693_3Listener.Permits ([lock] ++ write :: []) :=
    ⟨permits_of_command (by decide +kernel), permits_of_command (by decide +kernel), trivial⟩
  exact ⟨by decide +kernel, (@locked_items_stay card fourBlockCard_fits [lock] [] write permitted).1⟩

/-- A request to write the blocks 255 and 256 of a card of four writes block 0. -/
theorem unnamed_block_changes :
    let card := iso15693_3ListenerAlloc releaseBuild fourBlockCard
    let write := requestEvent [0x02, 0x24, 0xFF, 0x01, 1, 2, 3, 4, 5, 6, 7, 8]
    fourBlockCard.Fits ∧ ¬ card.data.SameItem (card.next write).data (.block 0) ∧
      ¬ card.CommandedBy write (.block 0) := by
  intro card write
  have changed : (card.next write).data.block 0 ≠ card.data.block 0 := by decide +kernel
  refine ⟨fourBlockCard_fits, changed, ?_⟩
  rintro ⟨rxBuffer, same, -, -, handler, found, names⟩
  obtain rfl := Iso15693_3NfcEvent.rxEnd.inj same
  have command : handlerOf ((iso13239CrcTrim (.ofBytes ([0x02, 0x24, 0xFF, 0x01, 1, 2, 3, 4, 5, 6, 7, 8] ++
      iso13239CrcBytes [0x02, 0x24, 0xFF, 0x01, 1, 2, 3, 4, 5, 6, 7, 8]))).byte 1) = some .writeMultiBlocks := by
    decide +kernel
  cases found.symm.trans command
  have bounds := (mem_blocks 0).mp names
  exact absurd bounds.1 (by decide +kernel)

end Xtreme.Nfc
