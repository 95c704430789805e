import Xtreme.Nfc.Iso15693Locks

/-! What the extension of a protocol over ISO15693-3 keeps from a reader.

An extension that refuses to read some blocks hides them: cards that differ in
these blocks only are the same to a reader (`blind_run`). An extension that refuses
to write some blocks seals them: they stay as they are (`next_sealed`). -/
namespace Xtreme.Nfc
open Xtreme.Library BitLib Toolbox
open Effect (fault observe update Preserves Relates)
open Iso15693_3Listener (requestData)

def optionalAnswer (table : Option Iso15693_3ExtensionHandlerTable) (place : Fin 13)
    (arguments : List Iso15693_3ExtensionArgument) : Iso15693_3Error :=
  match table with
  | none => .none
  | some table =>
    match table.optional.get place with
    | none => .none
    | some handler => handler arguments

/-- The extension refuses to read what is hidden. -/
structure Hides (table : Option Iso15693_3ExtensionHandlerTable) (hidden : Nat → Prop) : Prop where
  readBlock : ∀ index, optionalAnswer table 0 [.number index] = .none → ¬ hidden (blockNumber index)
  readMultiBlocks : ∀ first last, optionalAnswer table 3 [.number first, .number last] = .none →
    ∀ index, first ≤ index → index ≤ last → ¬ hidden (blockNumber index)

/-- The extension refuses to write what is closed. -/
structure Seals (table : Option Iso15693_3ExtensionHandlerTable) (closed : Nat → Prop) : Prop where
  writeBlock : ∀ index byte, optionalAnswer table 1 [.number index, .memory byte] = .none →
    ¬ closed (blockNumber index)
  writeMultiBlocks : ∀ first last, optionalAnswer table 4 [.number first, .number last] = .none →
    ∀ index, first ≤ index → index ≤ last → ¬ closed (blockNumber index)

theorem extension_optional (instanc : Iso15693_3Listener) (place : Fin 13)
    (arguments : List Iso15693_3ExtensionArgument) :
    iso15693_3ListenerExtensionHandler (0x20#8 + BitVec.ofNat 8 place) arguments instanc =
      (.ok (optionalAnswer instanc.extensionTable place arguments), instanc) := by
  rcases instanc with ⟨surroundings, data, state, sessionState, txBuffer, extensionTable, trace⟩
  unfold iso15693_3ListenerExtensionHandler optionalAnswer
  rw [Effect.observe_bind]
  cases extensionTable with
  | none => rfl
  | some table =>
    have command : ¬ (0x20#8 + BitVec.ofNat 8 place) < 0x03#8 ∧ 0x20#8 ≤ (0x20#8 + BitVec.ofNat 8 place) ∧
        (0x20#8 + BitVec.ofNat 8 place) < 0x2D#8 ∧
        tablePlace (0x20#8 + BitVec.ofNat 8 place) 0x20#8 = place := by
      revert place
      decide
    have entry : table.optional.toList[tablePlace (0x20#8 + BitVec.ofNat 8 place) 0x20#8]? =
        some (table.optional.get place) := by
      rw [command.2.2.2]
      exact List.getElem?_eq_getElem (by simp)
    dsimp only
    rw [if_neg command.1, if_pos ⟨command.2.1, command.2.2.1⟩, tableEntry_eq entry]
    cases table.optional.get place <;> rfl

theorem extension_answer {instanc : Iso15693_3Listener} (place : Fin 13)
    {arguments : List Iso15693_3ExtensionArgument} {command : BitVec 8} {answer : Iso15693_3Error}
    (named : command = 0x20#8 + BitVec.ofNat 8 place)
    (ran : (iso15693_3ListenerExtensionHandler command arguments instanc).1 = .ok answer) :
    optionalAnswer instanc.extensionTable place arguments = answer := by
  subst named
  rw [extension_optional] at ran
  exact Except.ok.inj ran

/-! ## Hidden blocks -/

def Iso15693_3Listener.withBlockData (instanc : Iso15693_3Listener) (bytes : List (BitVec 8)) :
    Iso15693_3Listener :=
  { instanc with data := { instanc.data with blockData := bytes } }

inductive Alike (hidden : Nat → Prop) (blockSize : Nat) (left : Iso15693_3Listener) : Iso15693_3Listener → Prop
  | intro (bytes : List (BitVec 8)) (length : bytes.length = left.data.blockData.length)
      (same : ∀ index, ¬ hidden index → (left.withBlockData bytes).data.block index = left.data.block index)
      (size : left.data.blockSize = blockSize) (hides : Hides left.extensionTable hidden) :
      Alike hidden blockSize left (left.withBlockData bytes)

abbrev Blind {α : Type} (hidden : Nat → Prop) (blockSize : Nat) (program : Iso15693_3M α) : Prop :=
  Relates (Alike hidden blockSize) program program

section
variable {hidden : Nat → Prop} {blockSize : Nat}

theorem blind_observe {α β : Type} {view : Iso15693_3Listener → α} {next : α → Iso15693_3M β}
    (same : ∀ instanc bytes, view (Iso15693_3Listener.withBlockData instanc bytes) = view instanc)
    (continues : ∀ answer, Blind hidden blockSize (next answer)) : Blind hidden blockSize (observe view >>= next) := by
  refine .observe_bind fun left right alike => ?_
  cases alike
  rw [same]
  exact continues _

theorem blind_update {change : Iso15693_3Listener → Iso15693_3Listener}
    (apart : ∀ instanc bytes, change (Iso15693_3Listener.withBlockData instanc bytes) =
      (change instanc).withBlockData bytes)
    (kept : ∀ instanc, (change instanc).data.blockData = instanc.data.blockData ∧
      (change instanc).data.blockSize = instanc.data.blockSize ∧
      (change instanc).extensionTable = instanc.extensionTable) : Blind hidden blockSize (update change) := by
  refine .update fun left right alike => ?_
  cases alike with
  | intro bytes length same size hides =>
    obtain ⟨data, sameSize, table⟩ := kept left
    rw [apart]
    refine .intro bytes (length.trans (congrArg _ data.symm)) (fun index shown => ?_) (sameSize.trans size)
      (table ▸ hides)
    have alike := same index shown
    unfold Iso15693_3Data.block Iso15693_3Data.blockOffset at alike ⊢
    change (bytes.drop (index * (change left).data.blockSize)).take (change left).data.blockSize = _
    rw [sameSize, data]
    exact alike

theorem blind_furiAssert {condition condition' : Prop} [Decidable condition] [Decidable condition']
    (same : condition ↔ condition') (failure : Iso15693_3Fault) :
    Relates (Alike hidden blockSize) (furiAssert condition failure) (furiAssert condition' failure) := by
  refine .observe_bind fun left right alike => ?_
  cases alike
  exact .ite_of_iff (and_congr Iff.rfl (not_congr same)) (fun _ => .fault _) fun _ => .pure _

theorem blind_note (step : Iso15693_3Trace) : Blind hidden blockSize (note step) :=
  blind_update (fun _ _ => rfl) fun _ => ⟨rfl, rfl, rfl⟩

variable (request : Iso15693_3RequestData)

theorem blind_readRequest (index : Nat) :
    Blind hidden blockSize (readRequest request index) :=
  .bind (blind_note _) fun _ => .pure _

theorem blind_readRequestBytes (first count : Nat) :
    Blind hidden blockSize (readRequestBytes request first count) := by
  unfold readRequestBytes
  have := @Effect.lawful Iso15693_3Fault Iso15693_3Listener
  induction List.range' first count with
  | nil => exact .pure _
  | cons index rest ih =>
    rw [List.mapM_cons]
    exact .bind (blind_readRequest request index) fun _ => .bind ih fun _ => .pure _

theorem blind_appendBytes (bytes : List (BitVec 8)) : Blind hidden blockSize (appendBytes bytes) :=
  blind_observe (fun _ _ => rfl) fun _ => .bind (blind_furiAssert Iff.rfl _) fun _ =>
    blind_update (fun _ _ => rfl) fun _ => ⟨rfl, rfl, rfl⟩

theorem blind_resetTxBuffer : Blind hidden blockSize resetTxBuffer :=
  blind_update (fun _ _ => rfl) fun _ => ⟨rfl, rfl, rfl⟩

theorem blind_checkBlockNumber (blockNum : Nat) : Blind hidden blockSize (checkBlockNumber blockNum) :=
  blind_observe (fun _ _ => rfl) fun _ => blind_furiAssert Iff.rfl _

theorem blind_appendUid : Blind hidden blockSize iso15693_3AppendUid := by
  refine .observe_bind fun left right alike => ?_
  cases alike
  exact blind_appendBytes _

theorem hasBlock_withBlockData {instanc : Iso15693_3Listener} {bytes : List (BitVec 8)}
    (length : bytes.length = instanc.data.blockData.length) (index : Nat) :
    instanc.data.HasBlock index ↔ (instanc.withBlockData bytes).data.HasBlock index := by
  unfold Iso15693_3Data.HasBlock
  change _ ↔ instanc.data.blockOffset index < bytes.length ∧
    instanc.data.blockOffset index + instanc.data.blockSize ≤ bytes.length
  rw [length]

theorem blind_appendBlock {index : Nat} (shown : ¬ hidden (blockNumber index)) :
    Blind hidden blockSize (iso15693_3AppendBlock index) := by
  refine .bind (blind_checkBlockNumber _) fun _ => .observe_bind fun left right alike => ?_
  cases alike with
  | intro bytes length same size hides =>
    have has := hasBlock_withBlockData length (blockNumber index)
    refine .bind (blind_furiAssert has _) fun _ => .ite_of_iff has (fun _ => ?_) fun _ => blind_appendBytes _
    have block := same (blockNumber index) shown
    dsimp only [id]
    rw [block]
    exact blind_appendBytes _

theorem blind_blockSecurityAt (blockNum : Nat) : Blind hidden blockSize (blockSecurityAt blockNum) := by
  refine .observe_bind fun left right alike => ?_
  cases alike
  exact .bind (blind_furiAssert Iff.rfl _) fun _ => .pure _

theorem blind_appendBlockSecurity (index : Nat) : Blind hidden blockSize (iso15693_3AppendBlockSecurity index) :=
  .bind (blind_blockSecurityAt _) fun _ => blind_appendBytes _

theorem blind_isBlockLocked (index : Nat) : Blind hidden blockSize (iso15693_3IsBlockLocked index) := by
  refine .bind (blind_checkBlockNumber _) fun _ => .observe_bind fun left right alike => ?_
  cases alike
  exact .ite (fun _ => .pure _) fun _ => .bind (blind_blockSecurityAt _) fun _ => .pure _

theorem blind_isAnyBlockLocked (indices : List Nat) : Blind hidden blockSize (isAnyBlockLocked indices) := by
  induction indices with
  | nil => exact .pure _
  | cons index rest ih => exact .bind (blind_isBlockLocked _) fun _ => .ite (fun _ => .pure _) fun _ => ih

variable (flags : BitVec 8)

theorem blind_setWaitForEof : Blind hidden blockSize (setWaitForEof flags) :=
  blind_update (fun _ _ => rfl) fun _ => ⟨rfl, rfl, rfl⟩

theorem blind_setState (state : Iso15693_3ListenerState) : Blind hidden blockSize (setState state) :=
  blind_update (fun _ _ => rfl) fun _ => ⟨rfl, rfl, rfl⟩

theorem blind_setBlockLocked (index : Nat) : Blind hidden blockSize (iso15693_3SetBlockLocked index) := by
  refine .bind (blind_checkBlockNumber _) fun _ => .observe_bind fun left right alike => ?_
  cases alike
  exact .bind (blind_furiAssert Iff.rfl _) fun _ => blind_update (fun _ _ => rfl) fun _ => ⟨rfl, rfl, rfl⟩

theorem block_setBlock_self {data : Iso15693_3Data} {index : Nat} {bytes : List (BitVec 8)}
    (has : data.HasBlock index) (size : bytes.length = data.blockSize) :
    (data.setBlock index bytes).block index = bytes := by
  have front : (data.blockData.take (data.blockOffset index)).length = data.blockOffset index :=
    List.length_take_of_le (Nat.le_of_lt has.1)
  change ((data.blockData.take (data.blockOffset index) ++ bytes ++
    data.blockData.drop (data.blockOffset index + data.blockSize)).drop (data.blockOffset index)).take data.blockSize = _
  rw [List.append_assoc, List.drop_left' front, List.take_left' size]

theorem alike_setBlock {left right : Iso15693_3Listener} (alike : Alike hidden blockSize left right) {index : Nat}
    {block : List (BitVec 8)} (has : left.data.HasBlock index) (length : block.length = blockSize) :
    Alike hidden blockSize { left with data := left.data.setBlock index block }
      { right with data := right.data.setBlock index block } := by
  cases alike with
  | intro bytes sameLength same size hides =>
    have hasToo := (hasBlock_withBlockData sameLength index).mp has
    have fits : block.length = left.data.blockSize := length.trans size.symm
    refine .intro ((left.withBlockData bytes).data.setBlock index block).blockData ?_ (fun other shown => ?_) size hides
    · rw [length_setBlock hasToo fits, length_setBlock has fits]
      exact sameLength
    · change ((left.withBlockData bytes).data.setBlock index block).block other =
        (left.data.setBlock index block).block other
      by_cases this : other = index
      · subst this
        rw [block_setBlock_self hasToo fits, block_setBlock_self has fits]
      · rw [block_setBlock hasToo fits this, block_setBlock has fits this]
        exact same other shown

theorem blind_setBlockData {index : Nat} {block : List (BitVec 8)} (length : block.length = blockSize) :
    Blind hidden blockSize (iso15693_3SetBlockData index block) := by
  refine .bind (blind_checkBlockNumber _) fun _ left right alike => ?_
  have has : left.data.HasBlock (blockNumber index) ↔ right.data.HasBlock (blockNumber index) := by
    cases alike with
    | intro bytes sameLength same size hides => exact hasBlock_withBlockData sameLength _
  have debug : left.surroundings = right.surroundings := by
    cases alike
    rfl
  unfold furiAssert
  rw [Effect.AgreeAt, Effect.observe_bind, Effect.observe_bind, Effect.bind_assoc, Effect.bind_assoc,
    Effect.observe_bind, Effect.observe_bind, debug]
  by_cases inside : left.data.HasBlock (blockNumber index)
  · have passes : ¬ (right.surroundings.furiDebug = true ∧ ¬ left.data.HasBlock (blockNumber index)) :=
      fun fails => fails.2 inside
    have passesToo : ¬ (right.surroundings.furiDebug = true ∧ ¬ right.data.HasBlock (blockNumber index)) :=
      fun fails => fails.2 (has.mp inside)
    rw [if_neg passes, if_neg passesToo, if_pos inside, if_pos (has.mp inside)]
    exact ⟨rfl, alike_setBlock alike inside length⟩
  · have outside : ¬ right.data.HasBlock (blockNumber index) := fun other => inside (has.mpr other)
    rw [if_neg inside, if_neg outside]
    by_cases stops : right.surroundings.furiDebug = true
    · rw [if_pos ⟨stops, inside⟩, if_pos ⟨stops, outside⟩]
      exact ⟨rfl, alike⟩
    · rw [if_neg fun fails => stops fails.1, if_neg fun fails => stops fails.1]
      exact ⟨rfl, alike⟩

theorem blind_tableEntry {α : Type} (table : List α) (command first : BitVec 8) :
    Blind hidden blockSize (tableEntry table command first) := by
  unfold tableEntry
  cases table[tablePlace command first]? with
  | some entry => exact .pure _
  | none => exact .fault _

theorem blind_extension (command : BitVec 8) (arguments : List Iso15693_3ExtensionArgument) :
    Blind hidden blockSize (iso15693_3ListenerExtensionHandler command arguments) := by
  refine blind_observe (fun _ _ => rfl) fun table => ?_
  cases table with
  | none => exact .pure _
  | some table =>
    have called (handler : Option Iso15693_3ExtensionHandler) : Blind hidden blockSize
        (match handler with | none => pure .none | some handler => pure (handler arguments)) := by
      cases handler <;> exact .pure _
    exact .ite (fun _ => .bind (blind_tableEntry _ _ _) called) fun _ =>
      .ite (fun _ => .bind (blind_tableEntry _ _ _) called) fun _ => .bind (.pure none) called

theorem blind_unless {command : BitVec 8} {arguments : List Iso15693_3ExtensionArgument}
    {next : Iso15693_3M Iso15693_3Error} (place : Fin 13) (named : command = 0x20#8 + BitVec.ofNat 8 place)
    (goesOn : ∀ table, Hides table hidden → optionalAnswer table place arguments = .none →
      Blind hidden blockSize next) :
    Blind hidden blockSize (iso15693_3ListenerExtensionHandler command arguments >>= fun error =>
      if error ≠ .none then pure error else next) := by
  refine .bind_answers (fun error => error = .none → Blind hidden blockSize next) (blind_extension _ _) ?_
    fun error lets => .ite (fun _ => .pure _) fun through => lets (not_not.mp through)
  rintro left right answer ⟨bytes, length, same, size, hides⟩ ran rfl
  exact goesOn _ hides (extension_answer place named ran)

theorem blind_appendBlockWithSecurity {index : Nat} (shown : ¬ hidden (blockNumber index)) :
    Blind hidden blockSize (appendBlockWithSecurity flags index) :=
  .ite (fun _ => .bind (blind_appendBlockSecurity _) fun _ => blind_appendBlock shown) fun _ => blind_appendBlock shown

theorem blind_inventory :
    Blind hidden blockSize (iso15693_3ListenerInventoryHandler request flags) := by
  unfold iso15693_3ListenerInventoryHandler
  have answer (dsfid : BitVec 8) : Blind hidden blockSize (appendBytes [dsfid] >>= fun _ =>
      iso15693_3AppendUid >>= fun _ => pure Iso15693_3Error.none) :=
    .bind (blind_appendBytes _) fun _ => .bind blind_appendUid fun _ => .pure _
  have asked (dsfid : BitVec 8) : Blind hidden blockSize (iso15693_3ListenerExtensionHandler 0x01#8 [] >>= fun error =>
      if error ≠ .none then pure error
      else appendBytes [dsfid] >>= fun _ => iso15693_3AppendUid >>= fun _ => pure Iso15693_3Error.none) :=
    .bind (blind_extension _ _) fun _ => .ite (fun _ => .pure _) fun _ => answer dsfid
  have read := @blind_readRequest hidden blockSize request
  cases flags.getLsbD 4 with
  | true =>
    exact .ite (fun _ => .pure _) fun _ => blind_observe (fun _ _ => rfl) fun _ => .bind (read _) fun _ =>
      .ite (fun _ => .pure _) fun _ => .bind (read _) fun _ => .ite (fun _ => .pure _) fun _ => asked _
  | false =>
    exact .ite (fun _ => .pure _) fun _ => blind_observe (fun _ _ => rfl) fun _ => .bind (.pure _) fun _ =>
      .ite (fun _ => .pure _) fun _ => .bind (read _) fun _ => .ite (fun _ => .pure _) fun _ => asked _

theorem blind_getSystemInfo : Blind hidden blockSize iso15693_3ListenerGetSystemInfoHandler :=
  blind_observe (fun _ _ => rfl) fun _ => .bind (blind_appendBytes _) fun _ => .bind blind_appendUid fun _ =>
    .bind (blind_appendBytes _) fun _ => .pure _

theorem blind_getMultiBlocksSecurity :
    Blind hidden blockSize (iso15693_3ListenerGetMultiBlocksSecurityHandler request) := by
  have read := @blind_readRequest hidden blockSize request
  refine .ite (fun _ => .pure _) fun _ => .bind (read _) fun _ => .bind (read _) fun _ =>
    blind_observe (fun _ _ => rfl) fun _ => .ite (fun _ => .pure _) fun _ => .bind (.forM fun _ _ => ?_) fun _ => .pure _
  exact .bind (blind_isBlockLocked _) fun _ => blind_appendBytes _

theorem blind_readBlock :
    Blind hidden blockSize (iso15693_3ListenerReadBlockHandler request flags) := by
  refine .ite (fun _ => .pure _) fun _ => .bind (blind_readRequest _ _) fun blockNum =>
    blind_observe (fun _ _ => rfl) fun _ => .ite (fun _ => .pure _) fun _ =>
    blind_unless 0 rfl fun table hides through => ?_
  exact .bind (blind_appendBlockWithSecurity _ (hides.readBlock _ through)) fun _ => .pure _

theorem blind_readMultiBlocks :
    Blind hidden blockSize (iso15693_3ListenerReadMultiBlocksHandler request flags) := by
  have read := @blind_readRequest hidden blockSize request
  refine .ite (fun _ => .pure _) fun _ => .bind (read _) fun first => .bind (read _) fun count =>
    blind_observe (fun _ _ => rfl) fun _ => .ite (fun _ => .pure _) fun _ =>
    blind_unless 3 rfl fun table hides through => .bind (.forM fun index member => ?_) fun _ => .pure _
  rw [List.mem_range'_1] at member
  exact blind_appendBlockWithSecurity _ (hides.readMultiBlocks _ _ through index member.1 (by omega))

theorem blind_writeBlock :
    Blind hidden blockSize (iso15693_3ListenerWriteBlockHandler request flags) := by
  refine .bind (blind_setWaitForEof _) fun _ => .ite (fun _ => .pure _) fun _ =>
    .bind (blind_readRequest _ _) fun blockNum => .observe_bind fun left right alike => ?_
  cases alike with
  | intro bytes length same size hides =>
    refine .ite (fun _ => .pure _) fun _ => .ite (fun _ => .pure _) fun sized =>
      .bind (blind_isBlockLocked _) fun _ => .ite (fun _ => .pure _) fun _ => blind_unless 1 rfl fun _ _ _ => ?_
    refine .bind_answers (fun block => block.length = blockSize) (blind_readRequestBytes _ _ _)
      (fun _ _ _ _ ran => (length_readRequestBytes ran).trans ((not_not.mp sized).trans size)) fun block sized => ?_
    exact .bind (blind_setBlockData sized) fun _ => .pure _

theorem blind_lockBlock :
    Blind hidden blockSize (iso15693_3ListenerLockBlockHandler request flags) := by
  refine .bind (blind_setWaitForEof _) fun _ => .ite (fun _ => .pure _) fun _ =>
    .bind (blind_readRequest _ _) fun _ => blind_observe (fun _ _ => rfl) fun _ => .ite (fun _ => .pure _) fun _ =>
    .bind (blind_isBlockLocked _) fun _ => .ite (fun _ => .pure _) fun _ => blind_unless 2 rfl fun _ _ _ => ?_
  exact .bind (blind_setBlockLocked _) fun _ => .pure _

theorem blind_writeMultiBlocks :
    Blind hidden blockSize (iso15693_3ListenerWriteMultiBlocksHandler request flags) := by
  have read := @blind_readRequest hidden blockSize request
  refine .bind (blind_setWaitForEof _) fun _ => .ite (fun _ => .pure _) fun _ => .bind (read _) fun first =>
    .bind (read _) fun count => .observe_bind fun left right alike => ?_
  cases alike with
  | intro bytes length same size hides =>
    refine .ite (fun _ => .pure _) fun _ => .ite (fun _ => .pure _) fun sized => blind_unless 4 rfl fun _ _ _ =>
      .bind (blind_isAnyBlockLocked _) fun _ => .ite (fun _ => .pure _) fun _ =>
      .bind (.forM fun index _ => ?_) fun _ => .pure _
    refine .bind_answers (fun block => block.length = blockSize) (blind_readRequestBytes _ _ _)
      (fun _ _ _ _ ran => (length_readRequestBytes ran).trans ((not_not.mp sized).trans size)) fun block sized => ?_
    exact blind_setBlockData sized

theorem blind_writeInfo {command : BitVec 8} {locked : Iso15693_3LockBits → Bool}
    {write : Iso15693_3SystemInfo → BitVec 8 → Iso15693_3SystemInfo} (place : Fin 13)
    (named : command = 0x20#8 + BitVec.ofNat 8 place) (sized : ∀ info value, (write info value).blockSize = info.blockSize)
    (request : Iso15693_3RequestData) (flags : BitVec 8) :
    Blind hidden blockSize (writeInfoHandler command locked write request flags) := by
  refine .bind (blind_setWaitForEof _) fun _ => blind_observe (fun _ _ => rfl) fun _ =>
    .ite (fun _ => .pure _) fun _ => .ite (fun _ => .pure _) fun _ => blind_unless place named fun _ _ _ =>
    .bind (blind_readRequest _ _) fun value => .bind (blind_update (fun _ _ => rfl) fun instanc => ?_) fun _ => .pure _
  exact ⟨rfl, congrArg BitVec.toNat (sized _ _), rfl⟩

theorem blind_lockInfo {command : BitVec 8} {locked : Iso15693_3LockBits → Bool}
    {lock : Iso15693_3LockBits → Iso15693_3LockBits} (place : Fin 13)
    (named : command = 0x20#8 + BitVec.ofNat 8 place) (flags : BitVec 8) :
    Blind hidden blockSize (lockInfoHandler command locked lock flags) :=
  .bind (blind_setWaitForEof _) fun _ => blind_observe (fun _ _ => rfl) fun _ => .ite (fun _ => .pure _) fun _ =>
    blind_unless place named fun _ _ _ => .bind (blind_update (fun _ _ => rfl) fun _ => ⟨rfl, rfl, rfl⟩) fun _ => .pure _

theorem blind_handler (handler : Iso15693_3RequestHandler) (request : Iso15693_3RequestData) (flags : BitVec 8) :
    Blind hidden blockSize (handler.run request flags) := by
  cases handler with
  | inventory => exact blind_inventory request flags
  | stayQuiet => exact .bind (blind_setState _) fun _ => .pure _
  | readBlock => exact blind_readBlock request flags
  | writeBlock => exact blind_writeBlock request flags
  | lockBlock => exact blind_lockBlock request flags
  | readMultiBlocks => exact blind_readMultiBlocks request flags
  | writeMultiBlocks => exact blind_writeMultiBlocks request flags
  | select => exact .ite (fun _ => .pure _) fun _ => .bind (blind_setState _) fun _ => .pure _
  | resetToReady => exact .bind (blind_setState _) fun _ => .pure _
  | writeAfi =>
    refine blind_writeInfo 7 rfl ?_ request flags
    exact fun _ _ => rfl
  | lockAfi => exact blind_lockInfo 8 rfl flags
  | writeDsfid =>
    refine blind_writeInfo 9 rfl ?_ request flags
    exact fun _ _ => rfl
  | lockDsfid => exact blind_lockInfo 10 rfl flags
  | getSystemInfo => exact blind_getSystemInfo
  | getMultiBlocksSecurity => exact blind_getMultiBlocksSecurity request

theorem blind_sendFrame : Blind hidden blockSize iso15693_3ListenerSendFrame :=
  blind_observe (fun _ _ => rfl) fun _ => .bind (blind_appendBytes _) fun _ =>
    blind_observe (fun _ _ => rfl) fun _ => blind_note _

theorem blind_respond (error : Iso15693_3Error) : Blind hidden blockSize (respond error) := by
  have finishes (error : Iso15693_3Error) : Blind hidden blockSize (finishResponse error) :=
    blind_observe (fun _ _ => rfl) fun _ => .bind (blind_note _) fun _ => blind_observe (fun _ _ => rfl) fun _ =>
      .ite (fun _ => .pure _) fun _ => .bind blind_sendFrame fun _ => .pure _
  exact .ite (fun _ => .pure _) fun _ => .ite (fun _ => .bind blind_resetTxBuffer fun _ =>
    .bind (blind_appendBytes _) fun _ => finishes _) fun _ => finishes _

theorem blind_standardRequest (command flags : BitVec 8) :
    Blind hidden blockSize (iso15693_3ListenerHandleStandardRequest request command flags) := by
  unfold iso15693_3ListenerHandleStandardRequest
  by_cases known : command = 0#8
  · subst known
    exact .fault _
  · rw [requestHandler_eq known]
    refine .bind (.pure _) fun found => ?_
    cases found with
    | none => exact .pure _
    | some handler =>
      exact .bind blind_resetTxBuffer fun _ => .bind (blind_appendBytes _) fun _ => .bind (blind_note _) fun _ =>
        .bind (blind_handler handler _ _) fun _ => blind_respond _

theorem blind_customRequest :
    Blind hidden blockSize (iso15693_3ListenerHandleCustomRequest request) := by
  refine .ite (fun _ => .pure _) fun _ => .bind (blind_readRequest _ _) fun _ => .observe_bind fun left right alike => ?_
  cases alike
  exact .ite (fun _ => .pure _) fun _ => .pure _

theorem blind_setAddressing (selected addressed : Bool) : Blind hidden blockSize (setAddressing selected addressed) :=
  blind_update (fun _ _ => rfl) fun _ => ⟨rfl, rfl, rfl⟩

theorem blind_checkRequestFlags : Blind hidden blockSize (checkRequestFlags flags) := by
  refine .ite (fun _ => ?_) fun _ => ?_
  · refine .bind (blind_setAddressing _ _) fun _ => blind_observe (fun _ _ => rfl) fun state =>
      .ite (fun _ => .pure _) fun _ => .ite (fun _ => .ite (fun _ => .pure _) fun _ => .pure _) fun _ => ?_
    exact .ite (fun _ => .ite (fun _ => .pure _) fun _ => .pure _) fun _ => .pure _
  · refine blind_observe (fun _ _ => rfl) fun state => .ite (fun _ => .pure _) fun _ => ?_
    exact .bind (blind_setAddressing _ _) fun _ => .pure _

theorem blind_dispatchRequest (rxBuffer : BitBuffer) (flags : BitVec 8) :
    Blind hidden blockSize (dispatchRequest rxBuffer flags) := by
  refine .bind (blind_readRequest _ _) fun command => .ite (fun _ => blind_customRequest _) fun _ =>
    blind_observe (fun _ _ => rfl) fun addressed => .ite (fun _ => ?_) fun _ => blind_standardRequest _ _ _
  refine .ite (fun _ => .pure _) fun _ => .bind (blind_readRequestBytes _ _ _) fun uid =>
    .observe_bind fun left right alike => ?_
  cases alike
  exact .ite (fun _ => .pure _) fun _ => blind_standardRequest _ _ _

theorem blind_processRequest (rxBuffer : BitBuffer) :
    Blind hidden blockSize (iso15693_3ListenerProcessRequest rxBuffer) := by
  refine .ite (fun _ => .pure _) fun _ => .bind (blind_readRequest _ _) fun flags =>
    .bind (blind_checkRequestFlags flags) fun refused => ?_
  cases refused with
  | some error => exact .pure _
  | none => exact blind_dispatchRequest _ _

theorem blind_singleEof : Blind hidden blockSize iso15693_3ListenerProcessSingleEof :=
  blind_observe (fun _ _ => rfl) fun _ => .ite (fun _ => .pure _) fun _ =>
    .bind (blind_update (fun _ _ => rfl) fun _ => ⟨rfl, rfl, rfl⟩) fun _ => .bind blind_sendFrame fun _ => .pure _

theorem blind_uidMismatch (rxBuffer : BitBuffer) :
    Blind hidden blockSize (iso15693_3ListenerProcessUidMismatch rxBuffer) :=
  .bind (blind_readRequest _ _) fun _ => .ite (fun _ => blind_observe (fun _ _ => rfl) fun _ =>
    .ite (fun _ => .bind (blind_setState _) fun _ => .pure _) fun _ => .pure _) fun _ => .pure _

/-- A reader cannot tell cards apart that differ in hidden blocks only. -/
theorem blind_run (event : Iso15693_3NfcEvent) : Blind hidden blockSize (iso15693_3ListenerRun event) := by
  refine .bind (blind_update (fun _ _ => rfl) fun _ => ⟨rfl, rfl, rfl⟩) fun _ => ?_
  cases event with
  | other => exact .pure _
  | rxEnd rxBuffer =>
    refine .ite (fun _ => ?_) fun _ => .ite (fun _ => ?_) fun _ => .pure _
    · refine .bind (blind_processRequest _) fun error => .ite (fun _ => blind_note _) fun _ => .ite (fun _ => ?_) fun _ => .pure _
      exact .bind (blind_uidMismatch _) fun _ => .pure _
    · exact .bind blind_singleEof fun _ => .ite (fun _ => blind_note _) fun _ => .pure _

end

/-! ## Sealed blocks -/

/-- A listener whose extension seals some blocks, with these as they were before. -/
structure Sealed (closed : Nat → Prop) (before : Iso15693_3Data) (instanc : Iso15693_3Listener) : Prop where
  seals : Seals instanc.extensionTable closed
  count : instanc.data.blockCount = before.blockCount
  size : instanc.data.blockSize = before.blockSize
  length : instanc.data.blockData.length = before.blockData.length
  blocks : ∀ index, closed index → instanc.data.block index = before.block index

section
variable {closed : Nat → Prop} {before : Iso15693_3Data}

theorem sealed_undisturbed : Undisturbed (Sealed closed before) :=
  ⟨fun _ _ _ kept => ⟨kept.seals, kept.count, kept.size, kept.length, kept.blocks⟩,
    fun _ _ kept => ⟨kept.seals, kept.count, kept.size, kept.length, kept.blocks⟩,
    fun _ _ kept => ⟨kept.seals, kept.count, kept.size, kept.length, kept.blocks⟩⟩

theorem sealed_update {change : Iso15693_3Listener → Iso15693_3Listener}
    (kept : ∀ instanc, (change instanc).data.blockData = instanc.data.blockData ∧
      (change instanc).data.blockCount = instanc.data.blockCount ∧
      (change instanc).data.blockSize = instanc.data.blockSize ∧
      (change instanc).extensionTable = instanc.extensionTable) :
    Keeping (Sealed closed before) (update change) := by
  refine .update fun instanc holds => ?_
  obtain ⟨data, count, size, table⟩ := kept instanc
  refine ⟨table ▸ holds.seals, count.trans holds.count, size.trans holds.size,
    (congrArg _ data).trans holds.length, fun index shut => ?_⟩
  rw [← holds.blocks index shut]
  unfold Iso15693_3Data.block Iso15693_3Data.blockOffset
  rw [data, size]

theorem sealed_setBlockData {index : Nat} {block : List (BitVec 8)} (opened : ¬ closed (blockNumber index))
    (length : block.length = before.blockSize) : Keeping (Sealed closed before) (iso15693_3SetBlockData index block) := by
  refine .bind (Looking.keeps_checkBlockNumber _) fun _ => .observe_bind fun observed earlier => ?_
  refine .bind (Looking.keeps_furiAssert _) fun _ => .ite (fun has => .update fun instanc holds => ?_) fun _ => .pure _
  have inside : instanc.data.HasBlock (blockNumber index) := by
    unfold Iso15693_3Data.HasBlock Iso15693_3Data.blockOffset at has ⊢
    rwa [holds.size, holds.length, ← earlier.size, ← earlier.length]
  have fits : block.length = instanc.data.blockSize := length.trans holds.size.symm
  refine ⟨holds.seals, holds.count, holds.size, (length_setBlock inside fits).trans holds.length, fun other shut => ?_⟩
  refine (block_setBlock inside fits ?_).trans (holds.blocks other shut)
  rintro rfl
  exact opened shut

theorem sealed_unless {command : BitVec 8} {arguments : List Iso15693_3ExtensionArgument}
    {next : Iso15693_3M Iso15693_3Error} (place : Fin 13) (named : command = 0x20#8 + BitVec.ofNat 8 place)
    (goesOn : ∀ table, Seals table closed → optionalAnswer table place arguments = .none →
      Keeping (Sealed closed before) next) :
    Keeping (Sealed closed before) (iso15693_3ListenerExtensionHandler command arguments >>= fun error =>
      if error ≠ .none then pure error else next) := by
  refine .bind_answers (fun error => error = .none → Keeping (Sealed closed before) next)
    (Looking.keeps_extension _ _) ?_ fun error lets => .ite (fun _ => .pure _) fun through => lets (not_not.mp through)
  rintro instanc answer holds ran rfl
  exact goesOn _ holds.seals (extension_answer place named ran)

theorem sealed_writeBlock (request : Iso15693_3RequestData) (flags : BitVec 8) :
    Keeping (Sealed closed before) (iso15693_3ListenerWriteBlockHandler request flags) := by
  refine .bind (sealed_undisturbed.keeps_setWaitForEof _) fun _ => .ite (fun _ => .pure _) fun _ =>
    .bind (sealed_undisturbed.looking.keeps_readRequest _ _) fun blockNum => .observe_bind fun instanc holds => ?_
  refine .ite (fun _ => .pure _) fun _ => .ite (fun _ => .pure _) fun sized =>
    .bind (Looking.keeps_isBlockLocked _) fun _ => .ite (fun _ => .pure _) fun _ =>
    sealed_unless 1 rfl fun table seals through => ?_
  refine .bind_answers (fun block => block.length = before.blockSize) (sealed_undisturbed.looking.keeps_readRequestBytes _ _ _)
    (fun _ _ _ ran => (length_readRequestBytes ran).trans ((not_not.mp sized).trans holds.size)) fun block sized => ?_
  exact .bind (sealed_setBlockData (seals.writeBlock _ _ through) sized) fun _ => .pure _

theorem sealed_writeMultiBlocks (request : Iso15693_3RequestData) (flags : BitVec 8) :
    Keeping (Sealed closed before) (iso15693_3ListenerWriteMultiBlocksHandler request flags) := by
  have read := (@sealed_undisturbed closed before).looking.keeps_readRequest request
  refine .bind (sealed_undisturbed.keeps_setWaitForEof _) fun _ => .ite (fun _ => .pure _) fun _ =>
    .bind (read _) fun first => .bind (read _) fun count => .observe_bind fun instanc holds => ?_
  refine .ite (fun _ => .pure _) fun _ => .ite (fun _ => .pure _) fun sized =>
    sealed_unless 4 rfl fun table seals through => .bind (Looking.keeps_isAnyBlockLocked _) fun _ =>
    .ite (fun _ => .pure _) fun _ => .bind (.forM fun index member => ?_) fun _ => .pure _
  refine .bind_answers (fun block => block.length = before.blockSize) (sealed_undisturbed.looking.keeps_readRequestBytes _ _ _)
    (fun _ _ _ ran => (length_readRequestBytes ran).trans ((not_not.mp sized).trans holds.size)) fun block sized => ?_
  rw [List.mem_range'_1] at member
  exact sealed_setBlockData (seals.writeMultiBlocks _ _ through index member.1 (by omega)) sized

theorem sealed_lockBlock (request : Iso15693_3RequestData) (flags : BitVec 8) :
    Keeping (Sealed closed before) (iso15693_3ListenerLockBlockHandler request flags) := by
  refine .bind (sealed_undisturbed.keeps_setWaitForEof _) fun _ => .ite (fun _ => .pure _) fun _ =>
    .bind (sealed_undisturbed.looking.keeps_readRequest _ _) fun _ => .bind (.observe _) fun _ => .ite (fun _ => .pure _) fun _ =>
    .bind (Looking.keeps_isBlockLocked _) fun _ => .ite (fun _ => .pure _) fun _ =>
    Looking.keeps_unless (.bind ?_ fun _ => .pure _)
  exact .bind (Looking.keeps_checkBlockNumber _) fun _ => .bind (.observe _) fun _ =>
    .bind (Looking.keeps_furiAssert _) fun _ => sealed_update fun _ => ⟨rfl, rfl, rfl, rfl⟩

theorem sealed_writeInfo {command : BitVec 8} {locked : Iso15693_3LockBits → Bool}
    {write : Iso15693_3SystemInfo → BitVec 8 → Iso15693_3SystemInfo}
    (sized : ∀ info value, (write info value).blockCount = info.blockCount ∧ (write info value).blockSize = info.blockSize)
    (request : Iso15693_3RequestData) (flags : BitVec 8) :
    Keeping (Sealed closed before) (writeInfoHandler command locked write request flags) := by
  refine .bind (sealed_undisturbed.keeps_setWaitForEof _) fun _ => .bind (.observe _) fun _ =>
    .ite (fun _ => .pure _) fun _ => .ite (fun _ => .pure _) fun _ => Looking.keeps_unless ?_
  refine .bind (sealed_undisturbed.looking.keeps_readRequest _ _) fun value => .bind (sealed_update fun instanc => ?_) fun _ => .pure _
  exact ⟨rfl, congrArg BitVec.toNat (sized _ _).1, congrArg BitVec.toNat (sized _ _).2, rfl⟩

theorem sealed_lockInfo {command : BitVec 8} {locked : Iso15693_3LockBits → Bool}
    {lock : Iso15693_3LockBits → Iso15693_3LockBits} (flags : BitVec 8) :
    Keeping (Sealed closed before) (lockInfoHandler command locked lock flags) :=
  .bind (sealed_undisturbed.keeps_setWaitForEof _) fun _ => .bind (.observe _) fun _ => .ite (fun _ => .pure _) fun _ =>
    Looking.keeps_unless (.bind (sealed_update fun _ => ⟨rfl, rfl, rfl, rfl⟩) fun _ => .pure _)

theorem sealed_setState (state : Iso15693_3ListenerState) : Keeping (Sealed closed before) (setState state) :=
  sealed_update fun _ => ⟨rfl, rfl, rfl, rfl⟩

theorem sealed_handler (handler : Iso15693_3RequestHandler) (request : Iso15693_3RequestData) (flags : BitVec 8) :
    Keeping (Sealed closed before) (handler.run request flags) := by
  cases handler with
  | inventory => exact sealed_undisturbed.looking.keeps_inventory request flags
  | stayQuiet => exact .bind (sealed_setState _) fun _ => .pure _
  | readBlock => exact sealed_undisturbed.looking.keeps_readBlock request flags
  | writeBlock => exact sealed_writeBlock request flags
  | lockBlock => exact sealed_lockBlock request flags
  | readMultiBlocks => exact sealed_undisturbed.looking.keeps_readMultiBlocks request flags
  | writeMultiBlocks => exact sealed_writeMultiBlocks request flags
  | select => exact .ite (fun _ => .pure _) fun _ => .bind (sealed_setState _) fun _ => .pure _
  | resetToReady => exact .bind (sealed_setState _) fun _ => .pure _
  | writeAfi =>
    refine sealed_writeInfo ?_ request flags
    exact fun _ _ => ⟨rfl, rfl⟩
  | lockAfi => exact sealed_lockInfo flags
  | writeDsfid =>
    refine sealed_writeInfo ?_ request flags
    exact fun _ _ => ⟨rfl, rfl⟩
  | lockDsfid => exact sealed_lockInfo flags
  | getSystemInfo => exact sealed_undisturbed.looking.keeps_getSystemInfo
  | getMultiBlocksSecurity => exact sealed_undisturbed.looking.keeps_getMultiBlocksSecurity request

/-- A reader cannot change a sealed block. -/
theorem next_sealed {instanc : Iso15693_3Listener} (holds : Sealed closed before instanc) (event : Iso15693_3NfcEvent) :
    Sealed closed before (instanc.next event) := by
  have begins : Sealed closed before { instanc with trace := [] } :=
    ⟨holds.seals, holds.count, holds.size, holds.length, holds.blocks⟩
  refine sealed_undisturbed.run_keeps (fun _ _ kept => ⟨kept.seals, kept.count, kept.size, kept.length, kept.blocks⟩)
    begins fun rxBuffer _ _ => ?_
  obtain ⟨looked, looks, ran⟩ := processRequest_run (iso13239CrcTrim rxBuffer) { instanc with trace := [] }
  have still : Sealed closed before looked := by
    refine ⟨looks.extensionTable ▸ begins.seals, ?_, ?_, ?_, fun index shut => ?_⟩ <;> rw [looks.data]
    · exact begins.count
    · exact begins.size
    · exact begins.length
    · exact begins.blocks index shut
  rw [ran]
  cases Iso15693_3Listener.refusal { instanc with trace := [] } (iso13239CrcTrim rxBuffer) with
  | some error => exact still
  | none =>
    exact (sealed_undisturbed.keeps_standardRequest _ _ _ (fun handler _ =>
      ⟨sealed_update fun _ => ⟨rfl, rfl, rfl, rfl⟩, sealed_handler handler _ _⟩) looked still).1

end

end Xtreme.Nfc
