import Xtreme.Nfc.Iso15693Bounds
import Xtreme.Nfc.Iso15693Guards

/-! Requests that write several blocks: which bytes of the request get into which block. -/
namespace Xtreme.Nfc
open Xtreme.Library BitLib Toolbox
open Effect (Yields fault observe update)

/-- A request with bytes for blocks of the card, all of them unlocked, that the protocol over
this one lets through. -/
structure WritesBlocks (instanc : Iso15693_3Listener) (request : Iso15693_3RequestData) : Prop where
  inside : request.first + request.count ≤ instanc.data.blockCount
  size : request.size = 2 + request.count * instanc.data.blockSize
  unlocked : ∀ index ∈ request.blocks, instanc.data.isLocked index = false
  allowed : instanc.extensionAnswer 0x24#8 [.number request.first, .number (request.first + request.count - 1)] = .none

/-- Slice after slice of the data is in block after block from the first one on, and the rest
of the card is as it was. -/
structure StoresSlices (request : Iso15693_3RequestData) (before after : Iso15693_3Data) : Prop where
  slices : ∀ k < request.count, after.block (request.first + k) = blockBytes request before.blockSize k
  others : ∀ index, index ∉ request.blocks → after.block index = before.block index
  length : after.blockData.length = before.blockData.length
  rest : after = { before with blockData := after.blockData }

/-- The bytes of the request come again behind as many bytes as the blocks before the first
one have. -/
def SlicesRepeat (request : Iso15693_3RequestData) (blockSize : Nat) : Prop :=
  ∀ place < request.count * blockSize,
    request.frame.byte (request.start + (2 + blockSize * request.first + place)) =
      request.frame.byte (request.start + (2 + place))

section
variable {instanc : Iso15693_3Listener} {request : Iso15693_3RequestData}

theorem slicesRepeat_zero (begins : request.first = 0) (blockSize : Nat) : SlicesRepeat request blockSize := by
  intro place _
  rw [begins, Nat.mul_zero]

theorem length_blockBytes (request : Iso15693_3RequestData) (blockSize index : Nat) :
    (blockBytes request blockSize index).length = blockSize := by
  rw [blockBytes, List.length_map, List.length_range']

/-- What some blocks are written with is in them, and nothing else changes. -/
theorem withBlocks_stores {data : Iso15693_3Data} (request : Iso15693_3RequestData) {indices : List Nat}
    (has : ∀ index ∈ indices, data.HasBlock index) (distinct : indices.Nodup) :
    (∀ index ∈ indices, (withBlocks request data.blockSize data indices).block index =
        blockBytes request data.blockSize index) ∧
      (∀ index, index ∉ indices → (withBlocks request data.blockSize data indices).block index = data.block index) ∧
      (withBlocks request data.blockSize data indices).blockData.length = data.blockData.length ∧
      withBlocks request data.blockSize data indices =
        { data with blockData := (withBlocks request data.blockSize data indices).blockData } := by
  induction indices generalizing data with
  | nil => exact ⟨fun _ member => absurd member List.not_mem_nil, fun _ _ => rfl, rfl, rfl⟩
  | cons index rest ih =>
    obtain ⟨here, others⟩ := List.forall_mem_cons.mp has
    obtain ⟨once, distinct⟩ := List.nodup_cons.mp distinct
    have size := length_blockBytes request data.blockSize index
    have written : (data.setBlock index (blockBytes request data.blockSize index)).blockSize = data.blockSize := rfl
    have still : ∀ other ∈ rest, (data.setBlock index (blockBytes request data.blockSize index)).HasBlock other := by
      intro other member
      unfold Iso15693_3Data.HasBlock
      rw [length_setBlock here size]
      exact others other member
    obtain ⟨stored, kept, length, same⟩ := ih still distinct
    refine ⟨List.forall_mem_cons.mpr ⟨?_, stored⟩, fun other outside => ?_, ?_, ?_⟩
    · exact (kept index once).trans (block_setBlock_self here size)
    · have different : other ≠ index := fun same => outside (same ▸ List.mem_cons_self)
      have later : other ∉ rest := fun member => outside (List.mem_cons_of_mem _ member)
      exact (kept other later).trans (block_setBlock here size different)
    · exact length.trans (length_setBlock here size)
    · exact same

theorem blockBytes_eq (request : Iso15693_3RequestData) (blockSize index : Nat) :
    blockBytes request blockSize index =
      (List.range blockSize).map fun place => request.frame.byte (request.start + (2 + blockSize * index + place)) := by
  rw [blockBytes, List.range'_eq_map_range, List.map_map]
  rfl

theorem slicesRepeat_iff (request : Iso15693_3RequestData) {blockSize : Nat} (some : 0 < blockSize) :
    SlicesRepeat request blockSize ↔
      ∀ k < request.count, blockBytes request blockSize (request.first + k) = blockBytes request blockSize k := by
  have moved (k place : Nat) : 2 + blockSize * (request.first + k) + place =
      2 + blockSize * request.first + (blockSize * k + place) := by
    rw [Nat.mul_add]
    omega
  simp only [blockBytes_eq, List.map_inj_left, List.mem_range, moved]
  constructor
  · intro again k inside place here
    have within : blockSize * k + place < request.count * blockSize := by
      have next := Nat.mul_le_mul_left blockSize (show k + 1 ≤ request.count from inside)
      rw [Nat.mul_succ, Nat.mul_comm blockSize request.count] at next
      omega
    rw [again _ within, Nat.add_assoc 2]
  · intro each place inside
    have slice := each (place / blockSize) (Nat.div_lt_of_lt_mul (Nat.mul_comm _ _ ▸ inside)) (place % blockSize)
      (Nat.mod_lt _ some)
    rwa [Nat.add_assoc 2 (blockSize * (place / blockSize)), Nat.div_add_mod] at slice

theorem isAnyBlockLocked_run (fits : instanc.data.Fits) {indices : List Nat}
    (inside : ∀ index ∈ indices, index < instanc.data.blockCount)
    (unlocked : ∀ index ∈ indices, instanc.data.isLocked index = false) :
    isAnyBlockLocked indices instanc = (.ok false, instanc) := by
  induction indices with
  | nil => rfl
  | cons index rest ih =>
    obtain ⟨here, others⟩ := List.forall_mem_cons.mp inside
    obtain ⟨open', later⟩ := List.forall_mem_cons.mp unlocked
    have same := blockNumber_of_lt (Nat.lt_of_lt_of_le here fits.count)
    have looked := @isBlockLocked_run index instanc fits (same.symm ▸ here)
    rw [same, open'] at looked
    rw [isAnyBlockLocked, Effect.bind_of_ok looked]
    exact ih others later

theorem setBlockData_run (fits : instanc.data.Fits) {index : Nat} (inside : index < instanc.data.blockCount)
    (has : instanc.data.HasBlock index) (bytes : List (BitVec 8)) :
    iso15693_3SetBlockData index bytes instanc =
      (.ok (), { instanc with data := instanc.data.setBlock index bytes }) := by
  have same := blockNumber_of_lt (Nat.lt_of_lt_of_le inside fits.count)
  unfold iso15693_3SetBlockData checkBlockNumber
  rw [same, Effect.bind_assoc, Effect.observe_bind, Effect.bind_of_ok (furiAssert_run inside _), Effect.observe_bind,
    Effect.bind_of_ok (furiAssert_run has _), if_pos has]
  rfl

theorem writeBlocks_data {data : Iso15693_3Data} (same : instanc.data = data) (fits : data.Fits) {indices : List Nat}
    (some : 0 < data.blockSize) (inside : ∀ index ∈ indices, index < data.blockCount) :
    Yields (indices.forM (writeOneOfBlocks request data.blockSize))
      (fun _ after => after.data = withBlocks request data.blockSize data indices) instanc := by
  induction indices generalizing instanc data with
  | nil => exact same
  | cons index rest ih =>
    subst same
    obtain ⟨here, others⟩ := List.forall_mem_cons.mp inside
    have has := (hasBlock_iff fits here).mpr some
    have size := length_blockBytes request instanc.data.blockSize index
    show Yields (writeOneOfBlocks request instanc.data.blockSize index >>= fun _ =>
      rest.forM (writeOneOfBlocks request instanc.data.blockSize)) _ _
    rw [Yields.bind_iff]
    unfold writeOneOfBlocks
    rw [Yields.bind_iff, yields_readRequestBytes]
    refine (Yields.iff_of_ok (setBlockData_run (by exact fits) (by exact here) (by exact has) _)).mpr ?_
    exact @ih _ (instanc.data.setBlock index (blockBytes request instanc.data.blockSize index)) rfl
      (fits_setBlock fits has size) some others

/-- A request with bytes for unlocked blocks of the card is carried out. -/
theorem writeMultiBlocks_data (fits : instanc.data.Fits) (writes : WritesBlocks instanc request)
    (some : 0 < instanc.data.blockSize) (flags : BitVec 8) :
    Yields (iso15693_3ListenerWriteMultiBlocksHandler request flags) (fun error after => error = .none ∧
        after.data = withBlocks request instanc.data.blockSize instanc.data request.blocks) instanc := by
  have count := count_bounds request
  have long : ¬request.size ≤ 2 := by
    have := Nat.mul_pos count.1 some
    have := writes.size
    omega
  have size : (request.size - 2) / request.count = instanc.data.blockSize := by
    rw [writes.size, Nat.add_sub_cancel_left, Nat.mul_div_cancel_left _ count.1]
  have available := (passesRange_iff fits request).mpr (.inr writes.inside)
  have each := blocks_inside writes.inside
  unfold iso15693_3ListenerWriteMultiBlocksHandler setWaitForEof
  rw [Yields.bind_iff, Yields.update_iff, if_neg long, Yields.bind_iff, yields_readRequest, Yields.bind_iff,
    yields_readRequest]
  change Yields (if blockCountAvailable instanc.data.blockCount request.first < request.count then _
    else if (request.size - 2) / request.count ≠ instanc.data.blockSize then _ else _ :
      Iso15693_3M Iso15693_3Error) _ _
  rw [if_neg available, if_neg (not_not.mpr size), Yields.bind_iff, yields_extension (by decide)]
  change Yields (if instanc.extensionAnswer 0x24#8 [.number request.first,
    .number (request.first + request.count - 1)] ≠ .none then _ else _ : Iso15693_3M Iso15693_3Error) _ _
  rw [if_neg (not_not.mpr writes.allowed)]
  change Yields (isAnyBlockLocked request.blocks >>= fun locked =>
    if locked = true then pure Iso15693_3Error.internal
    else request.blocks.forM (writeOneOfBlocks request ((request.size - 2) / request.count)) >>= fun _ =>
      pure Iso15693_3Error.none) _ _
  rw [size, Yields.bind_iff]
  refine (Yields.iff_of_ok (isAnyBlockLocked_run (by exact fits) (by exact each) (by exact writes.unlocked))).mpr ?_
  rw [if_neg Bool.false_ne_true, Yields.bind_iff]
  refine Yields.mono (writeBlocks_data (by rfl) fits some each) ?_
  exact fun _ after stored => ⟨rfl, stored⟩

theorem withBlocks_storesSlices (fits : instanc.data.Fits) (writes : WritesBlocks instanc request)
    (some : 0 < instanc.data.blockSize) :
    StoresSlices request instanc.data (withBlocks request instanc.data.blockSize instanc.data request.blocks) ↔
      SlicesRepeat request instanc.data.blockSize := by
  obtain ⟨stored, kept, length, rest⟩ := @withBlocks_stores instanc.data request _
    (fun index member => (hasBlock_iff fits (blocks_inside writes.inside index member)).mpr some) List.nodup_range'
  rw [slicesRepeat_iff request some]
  have block (k : Nat) (inside : k < request.count) := stored (request.first + k) ((mem_blocks _).mpr (by omega))
  constructor
  · intro slices k inside
    rw [← block k inside, slices.slices k inside]
  · intro again
    exact ⟨fun k inside => (block k inside).trans (again k inside), kept, length, rest⟩

/-- Blocks without bytes: the request is too short to be looked at. -/
theorem writeMultiBlocks_empty (writes : WritesBlocks instanc request) (none : instanc.data.blockSize = 0)
    (flags : BitVec 8) :
    Yields (iso15693_3ListenerWriteMultiBlocksHandler request flags) (fun _ after => after.data = instanc.data)
      instanc := by
  have short : request.size ≤ 2 := by
    rw [writes.size, none]
    exact Nat.le_refl 2
  unfold iso15693_3ListenerWriteMultiBlocksHandler setWaitForEof
  rw [if_pos short]
  exact rfl

theorem writeMultiBlocks_storesSlices_iff (fits : instanc.data.Fits) (writes : WritesBlocks instanc request)
    (flags : BitVec 8) :
    Yields (iso15693_3ListenerWriteMultiBlocksHandler request flags)
        (fun _ after => StoresSlices request instanc.data after.data) instanc ↔
      SlicesRepeat request instanc.data.blockSize := by
  rcases Nat.eq_zero_or_pos instanc.data.blockSize with none | some
  · refine (writeMultiBlocks_empty writes none flags).iff_of_known ?_
    rintro error after same
    rw [same]
    refine ⟨fun _ place inside => absurd inside ?_, fun _ => ⟨fun k inside => ?_, fun _ _ => rfl, rfl, rfl⟩⟩
    · rw [none]
      exact Nat.not_lt_zero _
    · rw [Iso15693_3Data.block, none]
      rfl
  · refine (writeMultiBlocks_data fits writes some flags).iff_of_known ?_
    rintro error after ⟨-, stored⟩
    rw [stored]
    exact withBlocks_storesSlices fits writes some

/-- Where a program answers with an error, the card is as it was. -/
def Refuses (before : Iso15693_3Data) (program : Iso15693_3M Iso15693_3Error) : Prop :=
  ∀ instanc error, instanc.data = before → (program instanc).1 = .ok error → error ≠ .none →
    (program instanc).2.data = before

theorem unchanged_undisturbed (before : Iso15693_3Data) :
    Undisturbed fun instanc : Iso15693_3Listener => instanc.data = before :=
  ⟨fun _ _ _ kept => kept, fun _ _ kept => kept, fun _ _ kept => kept⟩

namespace Refuses
variable {before : Iso15693_3Data}

theorem pure (error : Iso15693_3Error) : Refuses before (Pure.pure error) := fun _ _ start _ _ => start

theorem bind {α : Type} {program : Iso15693_3M α} {next : α → Iso15693_3M Iso15693_3Error}
    (first : Keeping (fun instanc => instanc.data = before) program) (second : ∀ answer, Refuses before (next answer)) :
    Refuses before (program >>= next) := by
  intro instanc error start ran failed
  obtain ⟨answer, after, done, left⟩ := Effect.bind_ok ran
  have kept := (first instanc start).1
  rw [done] at kept
  rw [Effect.bind_of_ok done]
  exact second answer after error kept left failed

theorem ite {condition : Prop} [Decidable condition] {yes no : Iso15693_3M Iso15693_3Error}
    (whenTrue : Refuses before yes) (whenFalse : Refuses before no) :
    Refuses before (if condition then yes else no) := by
  split
  · exact whenTrue
  · exact whenFalse

/-- What is done at last is no error. -/
theorem done {α : Type} (program : Iso15693_3M α) : Refuses before (program >>= fun _ => Pure.pure .none) := by
  intro instanc error start ran failed
  obtain ⟨answer, after, done, left⟩ := Effect.bind_ok ran
  cases left
  exact absurd rfl failed

end Refuses

theorem writeMultiBlocks_refuses (before : Iso15693_3Data) (request : Iso15693_3RequestData) (flags : BitVec 8) :
    Refuses before (iso15693_3ListenerWriteMultiBlocksHandler request flags) := by
  have free := unchanged_undisturbed before
  refine .bind (free.keeps_setWaitForEof _) fun _ => .ite (.pure _) ?_
  refine .bind (free.looking.keeps_readRequest _ _) fun _ => .bind (free.looking.keeps_readRequest _ _) fun _ => ?_
  refine .bind (.observe _) fun data => .ite (.pure _) (.ite (.pure _) ?_)
  refine .bind (Looking.keeps_extension _ _) fun error => .ite (.pure _) ?_
  exact .bind (Looking.keeps_isAnyBlockLocked _) fun locked => .ite (.pure _) (.done _)

/-- A request with bytes for unlocked blocks stores slice after slice just if its bytes come
again behind those of the blocks before the first one, as they do where that is block 0.
Where a request to write several blocks is answered with an error, no block changes. -/
theorem writeMultiBlocks_slices (fits : instanc.data.Fits) (request : Iso15693_3RequestData) (flags : BitVec 8) :
    (WritesBlocks instanc request → (Yields (iso15693_3ListenerWriteMultiBlocksHandler request flags)
          (fun _ after => StoresSlices request instanc.data after.data) instanc ↔
        SlicesRepeat request instanc.data.blockSize)) ∧
    ∀ error, (iso15693_3ListenerWriteMultiBlocksHandler request flags instanc).1 = .ok error → error ≠ .none →
      (iso15693_3ListenerWriteMultiBlocksHandler request flags instanc).2.data = instanc.data :=
  ⟨fun writes => writeMultiBlocks_storesSlices_iff fits writes flags,
    fun error => writeMultiBlocks_refuses instanc.data request flags instanc error rfl⟩

/-- The first two blocks of a card get their bytes. -/
theorem writeMultiBlocks_slices_first :
    Yields (iso15693_3ListenerWriteMultiBlocksHandler ⟨.ofBytes [0, 1, 1, 2, 3, 4, 5, 6, 7, 8], 0, 10⟩ 0)
      (fun _ after => StoresSlices ⟨.ofBytes [0, 1, 1, 2, 3, 4, 5, 6, 7, 8], 0, 10⟩ fourBlockCard after.data)
      (iso15693_3ListenerAlloc releaseBuild fourBlockCard) := by
  have writes : WritesBlocks (iso15693_3ListenerAlloc releaseBuild fourBlockCard)
      ⟨.ofBytes [0, 1, 1, 2, 3, 4, 5, 6, 7, 8], 0, 10⟩ := ⟨by decide, by decide, by decide, rfl⟩
  exact ((@writeMultiBlocks_slices (iso15693_3ListenerAlloc releaseBuild fourBlockCard) fourBlockCard_fits _ 0).1
    writes).mpr (slicesRepeat_zero rfl _)

/-- Block 1 gets what is behind the request. -/
theorem writeMultiBlocks_misplaces :
    WritesBlocks (iso15693_3ListenerAlloc releaseBuild fourBlockCard) ⟨.ofBytes [1, 0, 1, 2, 3, 4], 0, 6⟩ ∧
      ¬Yields (iso15693_3ListenerWriteMultiBlocksHandler ⟨.ofBytes [1, 0, 1, 2, 3, 4], 0, 6⟩ 0)
        (fun _ after => StoresSlices ⟨.ofBytes [1, 0, 1, 2, 3, 4], 0, 6⟩ fourBlockCard after.data)
        (iso15693_3ListenerAlloc releaseBuild fourBlockCard) := by
  have writes : WritesBlocks (iso15693_3ListenerAlloc releaseBuild fourBlockCard) ⟨.ofBytes [1, 0, 1, 2, 3, 4], 0, 6⟩ :=
    ⟨by decide, by decide, by decide, rfl⟩
  refine ⟨writes, fun stores => ?_⟩
  have again := (writeMultiBlocks_storesSlices_iff fourBlockCard_fits writes 0).mp stores 0 (by decide)
  exact absurd again (by decide)

end

end Xtreme.Nfc
