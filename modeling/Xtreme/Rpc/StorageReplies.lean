import Xtreme.Rpc.SessionPromises

/-! What a client gets of a file that it reads and of a directory that it lists. A read that comes
back short shows only in the error that storage leaves, and a place of a list response shows the
checksum that was last written to it. -/
namespace Xtreme.Rpc

structure Response where
  status : CommandStatus
  hasNext : Bool
  content : ResponseContent
  deriving DecidableEq, Repr

def Act.response : Act → Option Response
  | .sends _ status hasNext content => some ⟨status, hasNext, content⟩
  | _ => none

def responses (acts : List Act) : List Response := acts.filterMap Act.response

section
variable (acts more : List Act)

@[simp] theorem responses_append : responses (acts ++ more) = responses acts ++ responses more := List.filterMap_append

@[simp] theorem responses_nil : responses [] = [] := rfl

@[simp] theorem responses_takes (taken : Resource) : responses (.takes taken :: acts) = responses acts := rfl

@[simp] theorem responses_gives (given : Resource) : responses (.gives given :: acts) = responses acts := rfl

@[simp] theorem responses_sends (commandId : CommandId) (status : CommandStatus) (hasNext : Bool) (content : ResponseContent) :
    responses (.sends commandId status hasNext content :: acts) = ⟨status, hasNext, content⟩ :: responses acts := rfl

end

/-- All but the last say that there is more. -/
def Ended (answers : List Response) : Prop :=
  ∃ front last, answers = front ++ [last] ∧ (∀ answer ∈ front, answer.hasNext = true) ∧ last.hasNext = false

theorem Ended.more {answers : List Response} (ended : Ended answers) {first : Response} (more : first.hasNext = true) :
    Ended (first :: answers) := by
  obtain ⟨front, last, rfl, next, final⟩ := ended
  exact ⟨first :: front, last, rfl, List.forall_mem_cons.mpr ⟨more, next⟩, final⟩

/-! ## Files -/

def fileReads (file : Bytes) : List Nat → List Bytes
  | [] => []
  | count :: counts =>
    let data := file.take (min maxDataSize count)
    data :: fileReads (file.drop data.length) counts

structure ReadsFile (call : StorageCall) (file : Bytes) (counts : List Nat) : Prop where
  opens : call.answers.opens = true
  /-- A `size_t` holds the size. -/
  size : call.answers.size = file.length % 2 ^ 32
  reads : call.answers.reads = fileReads file counts

/-- Each read moves as much as it is asked for. -/
def AllMoved (sizeLeft : Nat) (counts : List Nat) : Prop :=
  ∀ i, maxDataSize * i < sizeLeft → min (sizeLeft - maxDataSize * i) maxDataSize ≤ counts.getD i 0

def Response.data (answer : Response) : Bytes :=
  match answer.content with
  | .read data => data
  | _ => []

/-- A client gets a prefix of the file, and all of it if it is told so. -/
structure ReadRightly (file : Bytes) (answers : List Response) : Prop where
  ended : Ended answers
  part : answers.flatMap Response.data <+: file
  whole : (∀ last ∈ answers.getLast?, last.status = .ok) → answers.flatMap Response.data = file

section
variable {call : StorageCall}

theorem allMoved_cons {sizeLeft count : Nat} {counts : List Nat} (some : 0 < sizeLeft) :
    AllMoved sizeLeft (count :: counts) ↔ min sizeLeft maxDataSize ≤ count ∧ AllMoved (sizeLeft - maxDataSize) counts := by
  constructor
  · refine fun moved => ⟨moved 0 (by omega), fun i inside => ?_⟩
    have next := moved (i + 1) (by rw [Nat.mul_succ]; omega)
    rw [Nat.mul_succ] at next
    exact Nat.le_trans (by omega) next
  · rintro ⟨first, rest⟩ i inside
    cases i with
    | zero => exact first
    | succ i =>
      rw [Nat.mul_succ] at inside ⊢
      exact Nat.le_trans (by omega) (rest i (by omega))

theorem not_allMoved_nil {sizeLeft : Nat} (some : 0 < sizeLeft) : ¬AllMoved sizeLeft [] := fun moved => by
  have first := moved 0 some
  rw [List.getD_nil, maxDataSize] at first
  omega

theorem readLoop_turn {file : Bytes} {count sizeLeft : Nat} (some : 0 < sizeLeft) (counts : List Nat) :
    readLoop call (fileReads file (count :: counts)) sizeLeft =
      let readSize := min sizeLeft maxDataSize
      let data := file.take (min readSize count)
      let rest := readLoop call (fileReads (file.drop (file.take (min maxDataSize count)).length) counts) (sizeLeft - readSize)
      if data.length = readSize then
        if sizeLeft - readSize = 0 then ([.sends call.commandId .ok false (.read data)], true)
        else (.sends call.commandId .ok true (.read data) :: rest.1, rest.2)
      else ([], false) := by
  obtain ⟨left, rfl⟩ := Nat.exists_eq_succ_of_ne_zero (Nat.ne_of_gt some)
  have data : (file.take (min maxDataSize count)).take (min left.succ maxDataSize) =
      file.take (min (min left.succ maxDataSize) count) := by
    rw [List.take_take]
    congr 1
    omega
  rw [fileReads, readLoop, data]

theorem readLoop_zero (reads : List Bytes) : readLoop call reads 0 = ([.sends call.commandId .ok false (.read [])], true) := by
  cases reads <;> rfl

theorem ended_last (content : ResponseContent) : Ended [⟨.ok, false, content⟩] :=
  ⟨[], _, rfl, fun _ member => absurd member List.not_mem_nil, rfl⟩

theorem ok_last (content : ResponseContent) : ∀ answer ∈ [(⟨.ok, false, content⟩ : Response)], answer.status = .ok :=
  fun _ member => by rw [List.mem_singleton.mp member]

theorem readLoop_whole {file : Bytes} {counts : List Nat} {sizeLeft : Nat} (inside : sizeLeft ≤ file.length)
    (moved : AllMoved sizeLeft counts) :
    ∃ sent, readLoop call (fileReads file counts) sizeLeft = (sent, true) ∧ Ended (responses sent) ∧
      (∀ answer ∈ responses sent, answer.status = .ok) ∧ (responses sent).flatMap Response.data = file.take sizeLeft := by
  induction counts generalizing file sizeLeft with
  | nil =>
    rcases Nat.eq_zero_or_pos sizeLeft with rfl | some
    · exact ⟨_, readLoop_zero _, ended_last _, ok_last _, rfl⟩
    · exact absurd moved (not_allMoved_nil some)
  | cons count counts next =>
    rcases Nat.eq_zero_or_pos sizeLeft with rfl | some
    · exact ⟨_, readLoop_zero _, ended_last _, ok_last _, rfl⟩
    · obtain ⟨first, rest⟩ := (allMoved_cons some).mp moved
      have length : (file.take (min (min sizeLeft maxDataSize) count)).length = min sizeLeft maxDataSize := by
        rw [List.length_take]
        omega
      rw [readLoop_turn some]
      rw [if_pos length, Nat.min_eq_left first]
      by_cases last : sizeLeft - min sizeLeft maxDataSize = 0
      · rw [if_pos last, Nat.min_eq_left (by omega)]
        exact ⟨_, rfl, ended_last _, ok_last _, List.append_nil _⟩
      · have full : (file.take (min maxDataSize count)).length = maxDataSize := by
          rw [List.length_take]
          omega
        have size : min sizeLeft maxDataSize = maxDataSize := by omega
        rw [if_neg last, full, size]
        have inside' : sizeLeft - maxDataSize ≤ (file.drop maxDataSize).length := by
          rw [List.length_drop]
          omega
        obtain ⟨sent, ran, ended, ok, data⟩ := next inside' rest
        rw [ran]
        refine ⟨_, rfl, ended.more rfl, List.forall_mem_cons.mpr ⟨rfl, ok⟩, ?_⟩
        have whole : file.take sizeLeft = file.take maxDataSize ++ (file.drop maxDataSize).take (sizeLeft - maxDataSize) := by
          rw [← List.take_add, Nat.add_sub_of_le (by omega)]
        exact (congrArg (file.take maxDataSize ++ ·) data).trans whole.symm

theorem readLoop_short {file : Bytes} {counts : List Nat} {sizeLeft : Nat} (inside : sizeLeft ≤ file.length)
    (short : ¬AllMoved sizeLeft counts) :
    ∃ sent count, readLoop call (fileReads file counts) sizeLeft = (sent, false) ∧ count < sizeLeft ∧
      (∀ answer ∈ responses sent, answer.hasNext = true) ∧
        (responses sent).flatMap Response.data = file.take count := by
  have nothing : ∀ answer ∈ responses [], answer.hasNext = true := fun _ member => absurd member List.not_mem_nil
  rcases Nat.eq_zero_or_pos sizeLeft with rfl | some
  · exact absurd (fun i inside => absurd inside (Nat.not_lt_zero _)) short
  induction counts generalizing file sizeLeft with
  | nil =>
    obtain ⟨left, rfl⟩ := Nat.exists_eq_succ_of_ne_zero (Nat.ne_of_gt some)
    exact ⟨[], 0, rfl, some, nothing, rfl⟩
  | cons count counts next =>
    rw [readLoop_turn some]
    dsimp only
    by_cases full : (file.take (min (min sizeLeft maxDataSize) count)).length = min sizeLeft maxDataSize
    · rw [List.length_take] at full
      have left : maxDataSize < sizeLeft := by
        refine Decidable.byContradiction fun last => short ((allMoved_cons some).mpr ⟨by omega, fun i inside => ?_⟩)
        omega
      have size : min sizeLeft maxDataSize = maxDataSize := by omega
      have taken : min maxDataSize count = maxDataSize := by omega
      have length : (file.take maxDataSize).length = maxDataSize := List.length_take_of_le (by omega)
      have inside' : sizeLeft - maxDataSize ≤ (file.drop maxDataSize).length := by
        rw [List.length_drop]
        omega
      obtain ⟨sent, count', ran, less, ongoing, data⟩ := next inside'
        (fun rest => short ((allMoved_cons some).mpr ⟨by omega, rest⟩)) (by omega)
      rw [size, taken, length, if_pos rfl, if_neg (by omega), ran]
      refine ⟨_, maxDataSize + count', rfl, by omega, List.forall_mem_cons.mpr ⟨rfl, ongoing⟩, ?_⟩
      rw [List.take_add]
      exact congrArg (file.take maxDataSize ++ ·) data
    · rw [if_neg full]
      exact ⟨[], 0, rfl, some, nothing, rfl⟩

theorem getError_eq_ok {error : FsError} : rpcSystemStorageGetError error = .ok ↔ error = .ok := by
  cases error <;> decide

def failure (call : StorageCall) : Response := ⟨rpcSystemStorageGetError call.answers.fileError, false, .empty⟩

theorem responses_read {sent : List Act} {success : Bool} (opens : call.answers.opens = true)
    (ran : readLoop call call.answers.reads call.answers.size = (sent, success)) :
    responses (rpcSystemStorageRead call) = responses sent ++
      (if success then [] else [failure call]) := by
  rw [rpcSystemStorageRead, ran]
  rw [if_pos opens]
  cases success <;> simp [rpcSendAndReleaseEmpty, failure]

/-- `rpc_system_storage_read_process`: a client is told of what it does not get unless a read comes
back short without an error, or the size does not fit its variable. -/
theorem rpcSystemStorageRead_rightly_iff {file : Bytes} {counts : List Nat} (reads : ReadsFile call file counts) :
    ReadRightly file (responses (rpcSystemStorageRead call)) ↔
      AllMoved (file.length % 2 ^ 32) counts ∧ file.length < 2 ^ 32 ∨
        ¬AllMoved (file.length % 2 ^ 32) counts ∧ call.answers.fileError ≠ .ok := by
  have inside : file.length % 2 ^ 32 ≤ file.length := Nat.mod_le _ _
  by_cases moved : AllMoved (file.length % 2 ^ 32) counts
  · obtain ⟨sent, ran, ended, ok, data⟩ := @readLoop_whole call _ _ _ inside moved
    rw [← reads.size, ← reads.reads] at ran
    have answers := responses_read reads.opens ran
    rw [if_pos rfl, List.append_nil] at answers
    rw [answers]
    constructor
    · intro rightly
      refine .inl ⟨moved, ?_⟩
      have whole := rightly.whole fun last found => ok last (List.mem_of_getLast? found)
      have length := congrArg List.length whole
      rw [data, List.length_take] at length
      omega
    · rintro (⟨_, small⟩ | ⟨short, _⟩)
      · rw [Nat.mod_eq_of_lt small, List.take_length] at data
        exact ⟨ended, ⟨[], (List.append_nil _).trans data⟩, fun _ => data⟩
      · exact absurd moved short
  · obtain ⟨sent, count, ran, less, ongoing, data⟩ := @readLoop_short call _ _ _ inside moved
    rw [← reads.size, ← reads.reads] at ran
    have answers := responses_read reads.opens ran
    rw [if_neg Bool.false_ne_true] at answers
    have got : (responses sent ++ [failure call]).flatMap Response.data =
        file.take count := by
      rw [List.flatMap_append, data]
      exact List.append_nil _
    rw [answers]
    constructor
    · refine fun rightly => .inr ⟨moved, fun ok => ?_⟩
      have told : ∀ last ∈ (responses sent ++ [failure call]).getLast?,
          last.status = .ok := by
        rw [List.getLast?_concat]
        rintro _ ⟨⟩
        exact getError_eq_ok.mpr ok
      have length := congrArg List.length (rightly.whole told)
      rw [got, List.length_take] at length
      omega
    · rintro (⟨all, _⟩ | ⟨_, error⟩)
      · exact absurd all moved
      · refine ⟨⟨_, _, rfl, ongoing, rfl⟩, ?_, fun told => ?_⟩
        · rw [got]
          exact List.take_prefix _ _
        · have ok := told (failure call) (by rw [List.getLast?_concat]; rfl)
          exact absurd (getError_eq_ok.mp ok) error

end

def readCall (answers : StorageAnswers) : StorageCall := ⟨1#32, false, .read "/ext/a".toList, answers⟩

theorem read_three_rightly : ReadRightly [1#8, 2#8, 3#8]
      (responses (rpcSystemStorageRead (readCall { goodAnswers with size := 3, reads := [[1#8, 2#8, 3#8]] }))) :=
  (@rpcSystemStorageRead_rightly_iff _ [1#8, 2#8, 3#8] [3] ⟨rfl, rfl, rfl⟩).mpr (.inl ⟨fun i inside => by
      have first : i = 0 := by
        have inside : 512 * i < 3 := inside
        omega
      rw [first]
      decide, by decide⟩)

/-- A read of one byte of two, without an error: the client is told that this is the file. -/
theorem read_short_unnoticed : ¬ReadRightly [1#8, 2#8]
      (responses (rpcSystemStorageRead (readCall { goodAnswers with size := 2, reads := fileReads [1#8, 2#8] [1] }))) := by
  intro rightly
  have whole := rightly.whole fun last found => by
    obtain rfl : failure (readCall { goodAnswers with size := 2, reads := fileReads [1#8, 2#8] [1] }) = last :=
      Option.some.inj found
    rfl
  cases whole

/-! ## Directories -/

def Response.files (answer : Response) : List ListedFile :=
  match answer.content with
  | .list files => files
  | _ => []

/-- The checksum of an entry by its number. -/
def ownAt (includeMd5 : Bool) (entries : List DirEntry) (i : Nat) : Option String := entries[i]?.bind (ownMd5 includeMd5)

/-- What the place of an entry shows: its checksum, or what the response before has left there. -/
def shownMd5 (count : Nat) (own : Nat → Option String) (i : Nat) : Option String :=
  (own i).or (if 0 < count ∧ count ≤ i then shownMd5 count own (i - count) else none)
termination_by i

/-- A client gets each entry once, and a checksum only where it is the entry's own. -/
structure ListRightly (includeMd5 : Bool) (entries : List DirEntry) (answers : List Response) : Prop where
  ended : Ended answers
  listed : (answers.flatMap Response.files).map (fun file => (file.name, file.isDir, file.size)) =
    entries.map fun entry => (entry.name, entry.isDir, entry.size)
  md5 : ∀ (i : Nat) (file : ListedFile), (answers.flatMap Response.files)[i]? = some file →
    ∀ md5 ∈ file.md5, ownAt includeMd5 entries i = some md5

/-- An entry without a checksum comes at the place of one without. -/
def FreshPlaces (count : Nat) (includeMd5 : Bool) (entries : List DirEntry) : Prop :=
  ∀ i, i + count < entries.length → ownAt includeMd5 entries (i + count) = none → ownAt includeMd5 entries i = none

section
variable {count : Nat} {call : StorageCall} {includeMd5 : Bool} {filterMaxSize : Nat}

/-- The entries as they are sent. -/
def listing (count : Nat) (includeMd5 : Bool) (entries : List DirEntry) : List ListedFile :=
  entries.mapIdx fun i entry => ⟨entry.name, entry.isDir, entry.size, shownMd5 count (ownAt includeMd5 entries) i⟩

theorem shownMd5_eq (some : 0 < count) (own : Nat → Option String) (i : Nat) :
    shownMd5 count own i = (own i).or (if count ≤ i then shownMd5 count own (i - count) else none) := by
  rw [shownMd5]
  congr 1
  exact if_congr (and_iff_right some) rfl rfl

theorem length_listing (entries : List DirEntry) : (listing count includeMd5 entries).length = entries.length :=
  List.length_mapIdx

/-- What has been put into a response, and the arrays of all its places. -/
structure Filling (count : Nat) (includeMd5 : Bool) (all : List DirEntry) (done start : Nat) (files : List ListedFile)
    (slots : Nat → Option String) : Prop where
  length : start + files.length = done
  room : files.length ≤ count
  begun : start = 0 ∨ count ≤ start
  filled : files = ((listing count includeMd5 all).take done).drop start
  left : ∀ place < count, slots place =
    if place < files.length then shownMd5 count (ownAt includeMd5 all) (start + place)
    else if count ≤ start then shownMd5 count (ownAt includeMd5 all) (start - count + place) else none

theorem Filling.put {all : List DirEntry} {done start : Nat} {files : List ListedFile} {slots : Nat → Option String}
    (filling : Filling count includeMd5 all done start files slots) (room : files.length < count) {entry : DirEntry}
    (there : all[done]? = some entry) :
    let md5 := (ownMd5 includeMd5 entry).or (slots files.length)
    Filling count includeMd5 all (done + 1) start (files ++ [⟨entry.name, entry.isDir, entry.size, md5⟩])
      (Function.update slots files.length md5) := by
  have length := filling.length
  have begun := filling.begun
  have shown : (ownMd5 includeMd5 entry).or (slots files.length) = shownMd5 count (ownAt includeMd5 all) done := by
    have own : ownAt includeMd5 all done = ownMd5 includeMd5 entry := by
      rw [ownAt, there, Option.bind_some]
    rw [shownMd5_eq (by omega), own, filling.left _ room, if_neg (Nat.lt_irrefl _)]
    congr 1
    by_cases later : count ≤ start
    · rw [if_pos later, if_pos (by omega)]
      congr 1
      omega
    · rw [if_neg later, if_neg (by omega)]
  rw [shown]
  refine ⟨?_, ?_, begun, ?_, fun place inside => ?_⟩
  · rw [List.length_append, List.length_singleton]
    omega
  · rw [List.length_append, List.length_singleton]
    omega
  · have next : (listing count includeMd5 all)[done]? =
        some ⟨entry.name, entry.isDir, entry.size, shownMd5 count (ownAt includeMd5 all) done⟩ := by
      rw [listing, List.getElem?_mapIdx, there]
      rfl
    have behind : start ≤ ((listing count includeMd5 all).take done).length := by
      have inside := (List.getElem?_eq_some_iff.mp next).1
      rw [List.length_take]
      omega
    rw [List.take_add_one, next, Option.toList_some, List.drop_append_of_le_length behind, ← filling.filled]
  · rw [List.length_append, List.length_singleton]
    by_cases this : place = files.length
    · rw [this, Function.update_self, if_pos (Nat.lt_succ_self _), length]
    · rw [Function.update_of_ne this, filling.left place inside]
      exact if_congr (by omega) rfl rfl

/-- A full response is sent, and its arrays stay. -/
theorem Filling.flush {all : List DirEntry} {done start : Nat} {files : List ListedFile} {slots : Nat → Option String}
    (filling : Filling count includeMd5 all done start files slots) (full : files.length = count) :
    Filling count includeMd5 all done done [] slots := by
  have length := filling.length
  refine ⟨rfl, Nat.zero_le _, .inr (by omega), ?_, fun place inside => ?_⟩
  · rw [List.drop_eq_nil_of_le (List.length_take_le _ _)]
  · rw [filling.left place inside, if_pos (by omega), List.length_nil, if_neg (Nat.not_lt_zero _), if_pos (by omega)]
    congr 1
    omega

theorem listLoop_lists (some : 0 < count) {all entries done : List DirEntry} {start : Nat} {files : List ListedFile}
    {slots : Nat → Option String} (parts : done ++ entries.filter (rpcSystemStorageListFilter filterMaxSize) = all)
    (filling : Filling count includeMd5 all done.length start files slots) :
    let answers := responses (listLoop count call includeMd5 filterMaxSize entries files slots)
    Ended answers ∧ answers.flatMap Response.files = (listing count includeMd5 all).drop start := by
  induction entries generalizing done start files slots with
  | nil =>
    rw [List.filter_nil, List.append_nil] at parts
    have whole := filling.filled
    rw [parts, ← @length_listing count includeMd5, List.take_length] at whole
    rw [← whole]
    exact ⟨ended_last _, List.append_nil _⟩
  | cons entry entries next =>
    rw [listLoop]
    by_cases passes : rpcSystemStorageListFilter filterMaxSize entry = true
    · rw [List.filter_cons_of_pos passes, List.append_cons] at parts
      have there : all[done.length]? = Option.some entry := by
        rw [← parts, List.append_assoc, List.getElem?_append_right (Nat.le_refl _), Nat.sub_self]
        rfl
      have calculated : responses (if (includeMd5 && !entry.isDir) = true then md5CalcFile entry.md5 else []) = [] := by
        split
        · cases entry.md5 <;> rfl
        · rfl
      have size : done.length + 1 = (done ++ [entry]).length := by
        rw [List.length_append, List.length_singleton]
      rw [if_pos passes]
      dsimp only
      by_cases full : files.length = count
      · have put := (filling.flush full).put some there
        rw [size] at put
        obtain ⟨ended, listed⟩ := next parts put
        rw [if_pos full, if_pos full, responses_append, responses_append, calculated, responses_sends]
        refine ⟨ended.more rfl, ?_⟩
        have behind : start ≤ ((listing count includeMd5 all).take done.length).length := by
          have inside := (List.getElem?_eq_some_iff.mp there).1
          have length := filling.length
          rw [List.length_take, length_listing]
          omega
        have whole : (listing count includeMd5 all).drop start =
            files ++ (listing count includeMd5 all).drop done.length := by
          rw [filling.filled, ← List.drop_append_of_le_length behind, List.take_append_drop]
        rw [whole]
        exact congrArg (files ++ ·) listed
      · have put := filling.put (Nat.lt_of_le_of_ne filling.room full) there
        rw [size] at put
        rw [if_neg full, if_neg full, responses_append, responses_append, calculated]
        exact next parts put
    · rw [List.filter_cons_of_neg passes] at parts
      rw [if_neg passes]
      exact next parts filling

theorem responses_list {path : Path} (opens : call.answers.opens = true) (inside : path ≠ ['/']) :
    responses (rpcSystemStorageList count call path includeMd5 filterMaxSize) =
      responses (listLoop count call includeMd5 filterMaxSize call.answers.entries [] fun _ => none) := by
  rw [rpcSystemStorageList, if_neg inside, if_pos opens]
  simp

theorem shownMd5_own {entries : List DirEntry} (some : 0 < count) (fresh : FreshPlaces count includeMd5 entries) {i : Nat}
    (inside : i < entries.length) : shownMd5 count (ownAt includeMd5 entries) i = ownAt includeMd5 entries i := by
  induction i using Nat.strongRecOn
  rename_i i before
  rw [shownMd5_eq some]
  cases own : ownAt includeMd5 entries i with
  | some md5 => rfl
  | none =>
    by_cases later : count ≤ i
    · have sum : i - count + count = i := Nat.sub_add_cancel later
      rw [if_pos later, before (i - count) (by omega) (by omega)]
      exact fresh (i - count) (by rwa [sum]) (by rwa [sum])
    · exact if_neg later

end

def md5Entry (letter : Char) (isDir : Bool) : DirEntry := ⟨[letter], isDir, 0, .computed "00"⟩

def listCall (entries : List DirEntry) : StorageCall :=
  ⟨1#32, false, .list "/ext".toList true 0, { goodAnswers with entries := entries }⟩

end Xtreme.Rpc
