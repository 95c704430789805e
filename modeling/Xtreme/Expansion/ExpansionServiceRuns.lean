import Xtreme.Expansion.ExpansionService
import Xtreme.Expansion.ExpansionFrames

/-! What an error flag stops. As long as the worker does not find all the bytes of a call in its
buffer with a late one among them, every call that takes a late byte comes to the flags; there the
error flag ends it, and after few such calls the worker has left its loop. -/
namespace Xtreme.Expansion
open Library

variable {thread : ThreadFlags}

theorem errorSet_iff : thread.ErrorSet ↔ thread.value.getLsbD 2 = true := by
  rw [ThreadFlags.ErrorSet, expansionWorkerFlagError, BitVec.and_twoPow]
  cases thread.value.getLsbD 2 with
  | true => exact iff_of_true (by decide) rfl
  | false => exact iff_of_false (by decide) (by decide)

theorem ThreadFlags.ErrorSet.set (errorSet : thread.ErrorSet) (flags : BitVec 32) :
    (furiThreadFlagsSet thread flags).ErrorSet := by
  rw [errorSet_iff] at errorSet ⊢
  rw [furiThreadFlagsSet, BitVec.getLsbD_or, errorSet, Bool.true_or]

theorem ThreadFlags.ErrorSet.wait (errorSet : thread.ErrorSet) :
    (furiThreadFlagsWait thread expansionAllFlags).2.ErrorSet := by
  rw [furiThreadFlagsWait]
  cases thread.pending with
  | false => exact errorSet
  | true =>
    rw [errorSet_iff] at errorSet ⊢
    have clears : (~~~expansionAllFlags).getLsbD 2 = true := by decide
    rw [if_pos rfl, BitVec.getLsbD_and, errorSet, clears, Bool.true_and]

theorem furiThreadFlagsWait_returns {flags returned : BitVec 32}
    (returns : (furiThreadFlagsWait thread flags).1 = some returned) : returned = thread.value := by
  rw [furiThreadFlagsWait] at returns
  cases pending : thread.pending with
  | false =>
    rw [pending] at returns
    cases returns
  | true =>
    rw [if_pos pending] at returns
    split at returns
    · exact (Option.some.inj returns).symm
    · cases returns

/-- With the error flag, whatever else is set, the call is left. -/
theorem waitExitReason_of_error {flags : BitVec 32} (error : flags &&& expansionWorkerFlagError ≠ 0) :
    ∃ reason, waitExitReason flags = some reason := by
  rw [waitExitReason]
  split
  · split
    · exact ⟨_, rfl⟩
    · exact ⟨_, rfl⟩
  · split
    · exact ⟨_, rfl⟩
    · exact ⟨_, rfl⟩

variable {queue : BoundedQueue RxByte} {σ : Type}

/-- Behind a late byte all are late, and without an error none is. -/
structure Marked (thread : ThreadFlags) (bytes : List RxByte) : Prop where
  ordered : bytes.Pairwise fun first second => first.late = true → second.late = true
  early : ¬thread.ErrorSet → ∀ byte ∈ bytes, byte.late = false

theorem Marked.append {bytes more : List RxByte} (marked : Marked thread bytes)
    (same : ∀ byte ∈ more, byte.late = decide thread.ErrorSet) : Marked thread (bytes ++ more) := by
  have alike : more.Pairwise fun first second => first.late = true → second.late = true :=
    List.pairwise_of_forall_mem_list fun first member second member' late => by
      rw [same second member', ← same first member, late]
  refine ⟨List.pairwise_append.mpr ⟨marked.ordered, alike, fun first member second member' late => ?_⟩, fun none => ?_⟩
  · rw [same second member', decide_eq_true_iff]
    refine Decidable.byContradiction fun none => ?_
    have early := marked.early none first member
    rw [late] at early
    cases early
  · intro byte member
    rcases List.mem_append.mp member with member | member
    · exact marked.early none byte member
    · rw [same byte member]
      exact decide_eq_false none

theorem Marked.errorSet {bytes : List RxByte} (marked : Marked thread bytes) {byte : RxByte}
    (member : byte ∈ bytes) (late : byte.late = true) : thread.ErrorSet := by
  refine Decidable.byContradiction fun none => ?_
  rw [marked.early none byte member] at late
  cases late

theorem Marked.mono {thread thread' : ThreadFlags} {bytes : List RxByte} (marked : Marked thread bytes)
    (kept : thread.ErrorSet → thread'.ErrorSet) : Marked thread' bytes :=
  ⟨marked.ordered, fun none => marked.early fun errorSet => none (kept errorSet)⟩

theorem Marked.early_of_last {bytes more : List RxByte} {last : RxByte}
    (marked : Marked thread (bytes ++ more)) (member : last ∈ more) (early : last.late = false) :
    ∀ byte ∈ bytes, byte.late = false := by
  intro byte inside
  refine eq_false_of_ne_true fun late => ?_
  have behind := (List.pairwise_append.mp marked.ordered).2.2 byte inside last member late
  rw [early] at behind
  cases behind

theorem contents_sendBytes (late : Bool) (rxBuf : queue.State) (bytes : List (BitVec 8)) :
    ∃ more, queue.contents (sendBytes late rxBuf bytes) = queue.contents rxBuf ++ more ∧
      ∀ byte ∈ more, byte.late = late := by
  induction bytes generalizing rxBuf with
  | nil => exact ⟨[], (List.append_nil _).symm, fun byte member => absurd member List.not_mem_nil⟩
  | cons data bytes ih =>
    obtain ⟨more, contents, same⟩ := ih (queue.send [⟨data, late⟩] rxBuf).2
    rw [queue.contents_send, List.append_assoc] at contents
    refine ⟨_, contents, fun byte member => ?_⟩
    rcases List.mem_append.mp member with member | member
    · rw [List.mem_singleton.mp (List.mem_of_mem_take member)]
    · exact same byte member

/-- A call as the decoder makes it, that has not received all yet. -/
structure Asked (totalSize : Nat) (call : ReceiveCall) : Prop where
  missing : call.received.length < call.dataSize
  content : call.phase = .content → totalSize + call.dataSize ≤ sizeofExpansionFrame
  checksum : call.phase = .checksum → call.dataSize = 1

theorem decodePlace_cases (rxFrame : Memory) (totalSize : Nat) : decodePlace rxFrame totalSize = .left ∨
      ∃ call, decodePlace rxFrame totalSize = .reading call ∧ call.received = [] ∧ Asked totalSize call := by
  rw [decodePlace]
  cases asks : expansionFrameGetRemainingSize rxFrame totalSize with
  | none => exact .inl rfl
  | some remaining =>
    cases remaining with
    | zero => exact .inr ⟨_, rfl, rfl, Nat.one_pos, (fun content => by cases content), fun _ => rfl⟩
    | succ remaining =>
      have fits := remaining_fits asks (Nat.succ_pos remaining)
      exact .inr ⟨_, rfl, rfl, Nat.succ_pos remaining, fun _ => fits, (fun checksum => by cases checksum)⟩

structure Sound (service : ExpansionService queue σ) : Prop where
  marked : Marked service.threadFlags (service.inFrame ++ queue.contents service.rxBuf)
  handled : ∀ frame ∈ service.handled, ∀ byte ∈ frame, byte.late = false
  handling : service.place = .handling → ∀ byte ∈ service.taken, byte.late = false
  asked : ∀ call ∈ service.place.call, Asked service.totalSize call

variable {call : ReceiveCall}

theorem inFrame_of_call {service : ExpansionService queue σ} (at_ : service.place.call = some call) :
    service.inFrame = service.taken ++ call.received := by
  rw [ExpansionService.inFrame, at_]
  rfl

theorem inFrame_of_none {service : ExpansionService queue σ} (none : service.place.call = none) :
    service.inFrame = service.taken := by
  rw [ExpansionService.inFrame, none]
  exact List.append_nil _

theorem sound_decode {service : ExpansionService queue σ}
    (marked : Marked service.threadFlags (service.taken ++ queue.contents service.rxBuf))
    (handled : ∀ frame ∈ service.handled, ∀ byte ∈ frame, byte.late = false)
    (place : service.place = decodePlace service.rxFrame service.totalSize) : Sound service := by
  have cases_ := decodePlace_cases service.rxFrame service.totalSize
  rw [← place] at cases_
  rcases cases_ with left | ⟨call, reading, nothing, asked⟩
  · have none : service.place.call = none := by rw [left]; rfl
    refine ⟨by rwa [inFrame_of_none none], handled, fun handling => ?_, fun call member => ?_⟩
    · rw [left] at handling
      cases handling
    · rw [none] at member
      cases member
  · have some : service.place.call = some call := by rw [reading]; rfl
    refine ⟨by rwa [inFrame_of_call some, nothing, List.append_nil], handled, fun handling => ?_, fun other member => ?_⟩
    · rw [reading] at handling
      cases handling
    · rw [some] at member
      rwa [← Option.some.inj member]

theorem sound_callReturned {service : ExpansionService queue σ}
    (marked : Marked service.threadFlags (service.taken ++ call.received ++ queue.contents service.rxBuf))
    (handled : ∀ frame ∈ service.handled, ∀ byte ∈ frame, byte.late = false)
    (checksum : call.phase = .checksum → call.dataSize = 1)
    (full : call.received.length = call.dataSize → ∀ byte ∈ service.taken ++ call.received, byte.late = false) :
    Sound (callReturned call service) := by
  have leaves : Sound { service with taken := service.taken ++ call.received, place := .left } := by
    refine ⟨?_, handled, (fun handling => by cases handling), (fun call member => by cases member)⟩
    rwa [inFrame_of_none rfl]
  cases phase : call.phase with
  | content =>
    simp only [callReturned, phase]
    split
    · exact leaves
    · exact sound_decode marked handled rfl
  | checksum =>
    simp only [callReturned, phase]
    split
    · exact leaves
    · split
      · exact leaves
      · rename_i one same
        rw [List.length_map] at one
        have early := full ((Decidable.not_not.mp one).trans (checksum phase).symm)
        refine ⟨?_, fun frame member => ?_, fun _ => early, (fun call member => by cases member)⟩
        · rwa [inFrame_of_none rfl]
        · rcases List.mem_append.mp member with member | member
          · exact handled frame member
          · rwa [List.mem_singleton.mp member]

/-- What a read takes was in the buffer, and the rest stays there. -/
theorem receive_splits (service : ExpansionService queue σ) (call : ReceiveCall) (count : Nat) :
    service.taken ++ (call.received ++ (queue.receive count service.rxBuf).1) ++
        queue.contents (queue.receive count service.rxBuf).2 =
      service.taken ++ call.received ++ queue.contents service.rxBuf := by
  rw [queue.received, queue.contents_receive, ← List.append_assoc, List.append_assoc, List.take_append_drop]

theorem Sound.inCall {service : ExpansionService queue σ} (sound : Sound service)
    (inCall : service.place.call = some call) :
    Marked service.threadFlags (service.taken ++ call.received ++ queue.contents service.rxBuf) := by
  rw [← inFrame_of_call inCall]
  exact sound.marked

theorem Sound.readBuffer {service : ExpansionService queue σ} (sound : Sound service)
    (reading : service.place = .reading call) {outcome : Outcome σ} (reads : ReadsEarly service (.worker outcome)) :
    Sound (Expansion.readBuffer call service) := by
  have inCall : service.place.call = some call := by rw [reading]; rfl
  have asked := sound.asked call inCall
  have marked := sound.inCall inCall
  have missing := asked.missing
  have take := queue.received (call.dataSize - call.received.length) service.rxBuf
  have split := receive_splits service call (call.dataSize - call.received.length)
  simp only [Expansion.readBuffer]
  split
  · rename_i complete
    refine sound_callReturned (by rwa [split]) sound.handled asked.checksum fun _ => ?_
    rw [take, List.length_append, List.length_take] at complete
    have enough : call.dataSize - call.received.length ≤ (queue.contents service.rxBuf).length := by omega
    have chunk := reads call (by rw [reading]; rfl) enough
    rw [take, ← List.append_assoc]
    rw [← List.take_append_drop (call.dataSize - call.received.length) (queue.contents service.rxBuf)] at marked
    obtain ⟨last, member⟩ : ∃ last, last ∈ (queue.contents service.rxBuf).take (call.dataSize - call.received.length) := by
      refine List.exists_mem_of_length_pos ?_
      rw [List.length_take]
      omega
    have before := marked.early_of_last (List.mem_append_left _ member) (chunk last member)
    exact fun byte inside => (List.mem_append.mp inside).elim (before byte) (chunk byte)
  · rename_i short
    rw [take, List.length_append, List.length_take] at short
    refine ⟨?_, sound.handled, (fun handling => by cases handling), fun other member => ?_⟩
    · rw [inFrame_of_call rfl]
      rwa [split]
    · have less : (call.received ++ (queue.receive (call.dataSize - call.received.length) service.rxBuf).1).length <
          call.dataSize := by
        rw [take, List.length_append, List.length_take]
        omega
      rw [← Option.some.inj member]
      exact ⟨less, asked.content, asked.checksum⟩

theorem Sound.withFlags {service : ExpansionService queue σ} (sound : Sound service) {threadFlags : ThreadFlags}
    (kept : service.threadFlags.ErrorSet → threadFlags.ErrorSet) : Sound { service with threadFlags := threadFlags } :=
  ⟨sound.marked.mono kept, sound.handled, sound.handling, sound.asked⟩

theorem Sound.waitReturned {service : ExpansionService queue σ} (sound : Sound service)
    (waiting : service.place = .waiting call) (flags : BitVec 32) : Sound (Expansion.waitReturned call flags service) := by
  have inCall : service.place.call = some call := by rw [waiting]; rfl
  have asked := sound.asked call inCall
  have marked := sound.inCall inCall
  simp only [Expansion.waitReturned]
  cases waitExitReason flags with
  | some reason =>
    exact sound_callReturned marked sound.handled asked.checksum fun full => absurd full (Nat.ne_of_lt asked.missing)
  | none =>
    refine ⟨?_, sound.handled, (fun handling => by cases handling), fun other member => ?_⟩
    · rwa [inFrame_of_call rfl]
    · rwa [← Option.some.inj member]

theorem Sound.workerStep {service : ExpansionService queue σ} (sound : Sound service) {outcome : Outcome σ}
    (reads : ReadsEarly service (.worker outcome)) : Sound (Expansion.workerStep outcome service) := by
  rw [Expansion.workerStep]
  cases place : service.place with
  | reading call => exact sound.readBuffer place reads
  | waiting call =>
    have after := sound.withFlags (@ThreadFlags.ErrorSet.wait service.threadFlags)
    dsimp only
    cases (furiThreadFlagsWait service.threadFlags expansionAllFlags).1 with
    | some flags => exact after.waitReturned place flags
    | none =>
      rw [place] at after
      exact after
  | handling =>
    have none : service.place.call = none := by rw [place]; rfl
    have marked : Marked service.threadFlags ([] ++ queue.contents service.rxBuf) := by
      have whole := sound.marked
      exact ⟨(List.pairwise_append.mp whole.ordered).2.1, fun none byte member =>
        whole.early none byte (List.mem_append_right _ member)⟩
    dsimp only
    split
    · exact sound_decode marked sound.handled rfl
    · refine ⟨?_, sound.handled, (fun handling => by cases handling), (fun call member => by cases member)⟩
      rwa [inFrame_of_none rfl]
  | left => exact sound

theorem Sound.step {service : ExpansionService queue σ} (sound : Sound service) {input : ExpansionInput σ}
    (reads : ReadsEarly service input) : Sound (expansionStep service input) := by
  have set (flags : BitVec 32) : Sound (setFlags flags service) := sound.withFlags fun errorSet => errorSet.set flags
  cases input with
  | serialData bytes =>
    obtain ⟨more, contents, same⟩ := @contents_sendBytes queue (decide service.threadFlags.ErrorSet) service.rxBuf bytes
    have filled : Sound { service with rxBuf := sendBytes (decide service.threadFlags.ErrorSet) service.rxBuf bytes } := by
      refine ⟨?_, sound.handled, sound.handling, sound.asked⟩
      have marked := sound.marked.append same
      rwa [List.append_assoc, ← contents] at marked
    exact filled.withFlags fun errorSet => errorSet.set expansionWorkerFlagData
  | serialError => exact set expansionWorkerFlagError
  | unacknowledged => exact set expansionWorkerFlagError
  | stop => exact set expansionWorkerFlagStop
  | timeout =>
    rw [expansionStep]
    cases place : service.place with
    | waiting call =>
      dsimp only
      split
      · exact sound
      · exact sound.waitReturned place furiFlagErrorTimeout
    | reading call => exact sound
    | handling => exact sound
    | left => exact sound
  | worker outcome => exact sound.workerStep reads

/-! ## Leaving -/

/-- How many waits may end before the worker leaves. -/
def callRank (totalSize : Nat) : Option ReceiveCall → Nat
  | some call => if call.phase = .content then sizeofExpansionFrame + 1 - totalSize else 1
  | none => 0

/-- A worker that has taken a late byte handles no more. -/
structure Doomed (handled : List (List RxByte)) (bound : Nat) (service : ExpansionService queue σ) : Prop where
  sound : Sound service
  handled : service.handled = handled
  late : service.place ≠ .left → ∃ byte ∈ service.inFrame, byte.late = true
  bounded : service.waits + callRank service.totalSize service.place.call ≤ bound

theorem callRank_le (totalSize : Nat) (call : Option ReceiveCall) : callRank totalSize call ≤ sizeofExpansionFrame + 1 := by
  cases call with
  | none => exact Nat.zero_le _
  | some call =>
    rw [callRank]
    split
    · exact Nat.sub_le _ _
    · exact Nat.le_add_left 1 _

theorem Asked.callRank_pos {totalSize : Nat} (asked : Asked totalSize call) :
    1 < callRank totalSize (some call) ∨ call.phase = .checksum ∧ callRank totalSize (some call) = 1 := by
  cases phase : call.phase with
  | content =>
    have fits := asked.content phase
    have missing := asked.missing
    rw [callRank, if_pos phase]
    exact .inl (by omega)
  | checksum =>
    rw [callRank, phase]
    exact .inr ⟨rfl, rfl⟩

theorem callReturned_short {service : ExpansionService queue σ} (asked : Asked service.totalSize call)
    (late : ∃ byte ∈ service.taken ++ call.received, byte.late = true) :
    (callReturned call service).handled = service.handled ∧ (callReturned call service).waits = service.waits ∧
      ((callReturned call service).place ≠ .left → ∃ byte ∈ (callReturned call service).inFrame, byte.late = true) ∧
      callRank (callReturned call service).totalSize (callReturned call service).place.call <
        callRank service.totalSize (some call) := by
  have missing := asked.missing
  have positive : 0 < callRank service.totalSize (some call) := by
    rcases asked.callRank_pos with more | ⟨_, one⟩ <;> omega
  cases phase : call.phase with
  | checksum =>
    have nothing : call.received.length = 0 := by
      rw [asked.checksum phase] at missing
      omega
    simp only [callReturned, phase, List.length_map, nothing]
    exact ⟨rfl, rfl, fun stays => absurd rfl stays, positive⟩
  | content =>
    have fits := asked.content phase
    simp only [callReturned, phase, List.length_map]
    split
    · exact ⟨rfl, rfl, fun stays => absurd rfl stays, positive⟩
    · have before : callRank service.totalSize (some call) = sizeofExpansionFrame + 1 - service.totalSize := if_pos phase
      rw [before]
      rcases decodePlace_cases (service.rxFrame.store service.totalSize (call.received.map RxByte.data))
          (service.totalSize + call.received.length) with left | ⟨next, reading, nothing, asked'⟩
      · rw [left]
        exact ⟨rfl, rfl, fun stays => absurd rfl stays, by rw [WorkerPlace.call, callRank]; omega⟩
      · rw [reading]
        refine ⟨rfl, rfl, fun _ => ?_, ?_⟩
        · rw [inFrame_of_call rfl, nothing, List.append_nil]
          exact late
        · rcases phase' : next.phase with _ | _
          · have after : callRank (service.totalSize + call.received.length) (some next) =
                sizeofExpansionFrame + 1 - (service.totalSize + call.received.length) := if_pos phase'
            rw [WorkerPlace.call, after]
            omega
          · have after : callRank (service.totalSize + call.received.length) (some next) = 1 :=
              if_neg (by rw [phase']; exact DecodePhase.noConfusion)
            rw [WorkerPlace.call, after]
            omega

variable {frames : List (List RxByte)}

theorem Doomed.waitReturned {bound : Nat} {service : ExpansionService queue σ}
    (doomed : Doomed frames bound service) (waiting : service.place = .waiting call) {flags : BitVec 32}
    (ends : ∃ reason, waitExitReason flags = some reason) :
    Doomed frames bound (Expansion.waitReturned call flags service) := by
  have inCall : service.place.call = some call := by rw [waiting]; rfl
  have asked := doomed.sound.asked call inCall
  have late : ∃ byte ∈ service.taken ++ call.received, byte.late = true := by
    rw [← inFrame_of_call inCall]
    refine doomed.late ?_
    rw [waiting]
    exact WorkerPlace.noConfusion
  have sound := doomed.sound.waitReturned waiting flags
  have bounded := doomed.bounded
  rw [inCall] at bounded
  obtain ⟨reason, ends⟩ := ends
  have returned : Expansion.waitReturned call flags service =
      callReturned call { service with waits := service.waits + 1, worker := service.worker.noteReason (some reason) } := by
    rw [Expansion.waitReturned, ends]
  rw [returned] at sound ⊢
  have short := @callReturned_short queue σ call
    { service with waits := service.waits + 1, worker := service.worker.noteReason (some reason) } asked late
  obtain ⟨handled, waits, late, rank⟩ := short
  refine ⟨sound, handled.trans doomed.handled, late, ?_⟩
  rw [waits]
  dsimp only at rank ⊢
  omega

theorem Doomed.readBuffer {bound : Nat} {service : ExpansionService queue σ}
    (doomed : Doomed frames bound service) (reading : service.place = .reading call)
    {outcome : Outcome σ} (reads : ReadsEarly service (.worker outcome)) :
    Doomed frames bound (Expansion.readBuffer call service) := by
  have inCall : service.place.call = some call := by rw [reading]; rfl
  have missing := (doomed.sound.asked call inCall).missing
  have sound := doomed.sound.readBuffer reading reads
  have bounded := doomed.bounded
  rw [inCall] at bounded
  obtain ⟨byte, member, late⟩ : ∃ byte ∈ service.taken ++ call.received, byte.late = true := by
    rw [← inFrame_of_call inCall]
    refine doomed.late ?_
    rw [reading]
    exact WorkerPlace.noConfusion
  have take := queue.received (call.dataSize - call.received.length) service.rxBuf
  -- what is behind a late byte is late, so the read does not suffice
  have short : ¬call.dataSize - call.received.length ≤ (queue.contents service.rxBuf).length := by
    intro enough
    obtain ⟨last, inside⟩ :
        ∃ last, last ∈ (queue.contents service.rxBuf).take (call.dataSize - call.received.length) := by
      refine List.exists_mem_of_length_pos ?_
      rw [List.length_take]
      omega
    have early := reads call (by rw [reading]; rfl) enough last inside
    have before := (doomed.sound.inCall inCall).early_of_last (List.mem_of_mem_take inside) early byte member
    rw [late] at before
    cases before
  have incomplete : ¬(call.received ++ (queue.receive (call.dataSize - call.received.length) service.rxBuf).1).length =
      call.dataSize := by
    rw [take, List.length_append, List.length_take]
    omega
  simp only [Expansion.readBuffer, if_neg incomplete] at sound ⊢
  refine ⟨sound, doomed.handled, fun _ => ⟨byte, ?_, late⟩, bounded⟩
  rw [inFrame_of_call rfl]
  rw [← List.append_assoc]
  exact List.mem_append_left _ member

theorem Doomed.step {bound : Nat} {service : ExpansionService queue σ}
    (doomed : Doomed frames bound service) {input : ExpansionInput σ} (reads : ReadsEarly service input) :
    Doomed frames bound (expansionStep service input) := by
  have sound := doomed.sound.step reads
  cases input with
  | serialData bytes => exact ⟨sound, doomed.handled, doomed.late, doomed.bounded⟩
  | serialError => exact ⟨sound, doomed.handled, doomed.late, doomed.bounded⟩
  | unacknowledged => exact ⟨sound, doomed.handled, doomed.late, doomed.bounded⟩
  | stop => exact ⟨sound, doomed.handled, doomed.late, doomed.bounded⟩
  | timeout =>
    rw [expansionStep]
    cases place : service.place with
    | waiting call =>
      dsimp only
      split
      · exact doomed
      · exact doomed.waitReturned place ⟨.timeout, by decide⟩
    | reading call => exact doomed
    | handling => exact doomed
    | left => exact doomed
  | worker outcome =>
    rw [expansionStep, workerStep] at sound ⊢
    cases place : service.place with
    | reading call => exact doomed.readBuffer place reads
    | waiting call =>
      obtain ⟨byte, member, late⟩ := doomed.late (by rw [place]; exact WorkerPlace.noConfusion)
      have errorSet := doomed.sound.marked.errorSet (List.mem_append_left _ member) late
      have flagged : Doomed frames bound
          { service with threadFlags := (furiThreadFlagsWait service.threadFlags expansionAllFlags).2 } :=
        ⟨doomed.sound.withFlags ThreadFlags.ErrorSet.wait, doomed.handled, doomed.late, doomed.bounded⟩
      dsimp only
      cases returns : (furiThreadFlagsWait service.threadFlags expansionAllFlags).1 with
      | some flags =>
        rw [furiThreadFlagsWait_returns returns]
        exact flagged.waitReturned place (waitExitReason_of_error errorSet)
      | none =>
        rw [place] at flagged
        exact flagged
    | handling =>
      obtain ⟨byte, member, late⟩ := doomed.late (by rw [place]; exact WorkerPlace.noConfusion)
      rw [inFrame_of_none (by rw [place]; rfl)] at member
      rw [doomed.sound.handling place byte member] at late
      cases late
    | left => exact doomed

theorem Doomed.left_of_rank {bound : Nat} {service : ExpansionService queue σ}
    (doomed : Doomed frames bound service) (rank : callRank service.totalSize service.place.call = 0) :
    service.place = .left := by
  have inCall (call : ReceiveCall) : service.place.call ≠ some call := by
    intro inCall
    have positive := (doomed.sound.asked call inCall).callRank_pos
    rw [← inCall, rank] at positive
    rcases positive with more | ⟨_, one⟩
    · exact absurd more (Nat.not_lt_zero 1)
    · cases one
  cases place : service.place with
  | reading call => exact absurd (by rw [place]; rfl) (inCall call)
  | waiting call => exact absurd (by rw [place]; rfl) (inCall call)
  | handling =>
    obtain ⟨byte, member, late⟩ := doomed.late (by rw [place]; exact WorkerPlace.noConfusion)
    rw [inFrame_of_none (by rw [place]; rfl)] at member
    rw [doomed.sound.handling place byte member] at late
    cases late
  | left => rfl

theorem sound_start (queue : BoundedQueue RxByte) (rxFrame : Memory) (rpcSession : Option σ) :
    Sound (expansionServiceStart queue rxFrame rpcSession) := by
  refine sound_decode ?_ (fun frame member => absurd member List.not_mem_nil) rfl
  rw [expansionServiceStart, queue.contents_alloc]
  exact ⟨List.Pairwise.nil, fun _ byte member => absurd member List.not_mem_nil⟩

theorem Doomed.run {bound : Nat} {service : ExpansionService queue σ}
    (doomed : Doomed frames bound service) {more : List (ExpansionInput σ)}
    (meets : Machine.RunMeets expansionService ReadsEarly service more) :
    Doomed frames bound (Machine.run expansionService service more).2 :=
  Machine.final_of_step (P := Doomed frames bound) (fun _ _ doomed reads => doomed.step reads) doomed meets

/-- No frame with a late byte is handled. The worker leaves its loop instead, as soon as at most as
many waits have ended as there are bytes in its buffer. -/
theorem expansionService_heeds_error (rxFrame : Memory) (rpcSession : Option σ) {inputs : List (ExpansionInput σ)}
    (meets : Machine.RunMeets expansionService ReadsEarly (expansionServiceStart queue rxFrame rpcSession) inputs) :
    let service := (Machine.run expansionService (expansionServiceStart queue rxFrame rpcSession) inputs).2
    (∀ frame ∈ service.handled, ∀ byte ∈ frame, byte.late = false) ∧ ((∃ byte ∈ service.inFrame, byte.late = true) →
        ∀ more : List (ExpansionInput σ), Machine.RunMeets expansionService ReadsEarly service more →
          let later := (Machine.run expansionService service more).2
          later.handled = service.handled ∧
            (service.waits + expansionWorkerBufferSize ≤ later.waits → later.place = .left)) := by
  have sound : Sound (Machine.run expansionService (expansionServiceStart queue rxFrame rpcSession) inputs).2 :=
    Machine.final_of_step (fun service input sound reads => sound.step reads) (sound_start queue rxFrame rpcSession) meets
  refine ⟨sound.handled, fun taken more meets => ?_⟩
  have start : Doomed _ _ (Machine.run expansionService (expansionServiceStart queue rxFrame rpcSession) inputs).2 :=
    ⟨sound, rfl, fun _ => taken, Nat.add_le_add_left (callRank_le _ _) _⟩
  have doomed := start.run meets
  refine ⟨doomed.handled, fun ended => ?_⟩
  refine doomed.left_of_rank ?_
  have bounded := doomed.bounded
  rw [expansionWorkerBufferSize] at ended
  omega

/-- A frame for a baud rate that is cut by an error, with what comes after it. -/
def brokenFrame (late : List (BitVec 8)) : List (ExpansionInput Unit) :=
  let step := .worker ⟨true, true, none, 0⟩
  [step, .serialData [0x03, 0x80], step, step, step, .serialError, .serialData late, step, step]

theorem expansionService_heeds_error_one : (Machine.run expansionService
      (expansionServiceStart (BoundedQueue.ofList RxByte) (fun _ => 0) none) (brokenFrame [0x25])).2.inFrame =
        [⟨0x03, false⟩, ⟨0x80, false⟩, ⟨0x25, true⟩] ∧
      (Machine.run expansionService (Machine.run expansionService
          (expansionServiceStart (BoundedQueue.ofList RxByte) (fun _ => 0) none) (brokenFrame [0x25])).2 [.timeout]).2.handled =
        (Machine.run expansionService
          (expansionServiceStart (BoundedQueue.ofList RxByte) (fun _ => 0) none) (brokenFrame [0x25])).2.handled := by
  have meets : Machine.RunMeets expansionService ReadsEarly
      (expansionServiceStart (BoundedQueue.ofList RxByte) (fun _ => 0) none) (brokenFrame [0x25]) := by decide +kernel
  have bytes : (Machine.run expansionService
      (expansionServiceStart (BoundedQueue.ofList RxByte) (fun _ => 0) none) (brokenFrame [0x25])).2.inFrame =
        [⟨0x03, false⟩, ⟨0x80, false⟩, ⟨0x25, true⟩] := by decide +kernel
  have late : ∃ byte ∈ (Machine.run expansionService
      (expansionServiceStart (BoundedQueue.ofList RxByte) (fun _ => 0) none) (brokenFrame [0x25])).2.inFrame,
        byte.late = true := by
    decide
  exact ⟨bytes, ((expansionService_heeds_error _ _ meets).2 late [.timeout] ⟨trivial, trivial⟩).1⟩

/-- The call ends with the error and returns one byte. The decoder calls again and finds the rest. -/
theorem expansionService_handles_late :
    (Machine.run expansionService (expansionServiceStart (BoundedQueue.ofList RxByte) (fun _ => 0) none)
      (brokenFrame [0x25, 0x00, 0x00, 0xA6] ++ [.worker ⟨true, true, none, 0⟩])).2.handled =
        [[⟨0x03, false⟩, ⟨0x80, false⟩, ⟨0x25, true⟩, ⟨0x00, true⟩, ⟨0x00, true⟩, ⟨0xA6, true⟩]] ∧
      (Machine.run expansionService (expansionServiceStart (BoundedQueue.ofList RxByte) (fun _ => 0) none)
        (brokenFrame [0x25, 0x00, 0x00, 0xA6])).2.worker.exitReason = .error := by
  refine ⟨by decide +kernel, by decide +kernel⟩

end Xtreme.Expansion
