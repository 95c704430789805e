import Mathlib.Data.Nat.Notation
import Xtreme.Toolbox.BufferPool

/-! Sequences of sends, receptions and resets. What was received, what is queued and what is
being filled are together what was sent, as long as no send finds the buffer that it fills
in the hands of the reader, and no buffer's number is too large (`bufferStream_run`). -/
namespace Xtreme.Toolbox
open Xtreme.Library
open Effect (Yields bind_of_ok)

section
variable {queue : BoundedQueue Nat} {bufferSize : Nat}

/-- The data that is not handed over yet. -/
def filling (stream : BufferStream queue) : List UInt8 :=
  match stream.buffers[stream.index]? with
  | some buffer => if buffer.occupied then [] else buffer.data
  | none => []

def handedOver (stream : BufferStream queue) (buffer : Buffer) : BufferStream queue where
  streamOverrunCount := stream.streamOverrunCount
  stream := (queue.send [stream.index] stream.stream).2
  index := stream.index
  buffers := stream.buffers.set stream.index { buffer with occupied := true }

/-- What a send asks of the stream: the buffer that it would fill was not handed over
already, unless that one cannot be handed over again because the queue is full, the sizes
add up in 32 bits, and the next free buffer has a number that fits. -/
structure Unhindered (data : List UInt8) (stream : BufferStream queue) : Prop where
  full : ∀ buffer : Buffer, stream.buffers[stream.index]? = some buffer → buffer.occupied = true →
    queue.size stream.stream ≤ (queue.contents stream.stream).length
  room : ∀ buffer : Buffer, stream.buffers[stream.index]? = some buffer → buffer.occupied = false →
    buffer.data.length + data.length < 4294967296
  named : ∀ buffer : Buffer, stream.buffers[stream.index]? = some buffer →
    buffer.maxDataSize < buffer.data.length + data.length →
      ∀ place, FirstFree stream.buffers stream.index place → place < 128 ∨ place % 256 = 255

/-- A send of not more than a buffer, and a reset of a buffer that was received. -/
def BufferStreamCall.Fits (bufferSize : Nat) (call : BufferStreamCall) (run : BufferRun queue) : Prop :=
  match call with
  | .send data => data.length ≤ bufferSize ∧ Unhindered data run.stream
  | .receive => True
  | .reset place => place ∈ run.held.map Prod.fst

/-- All that was sent is there, in order and once, also what the reader still has. -/
structure BufferRun.Whole (run : BufferRun queue) : Prop where
  whole : run.received.flatten ++ (queue.contents run.stream.stream).flatMap (dataAt run.stream.buffers) ++
    filling run.stream = run.sent
  once : (queue.contents run.stream.stream).Nodup
  kept : ∀ entry ∈ run.held, dataAt run.stream.buffers entry.1 = entry.2

/-- What every call keeps. -/
structure Sound (bufferSize : Nat) (run : BufferRun queue) : Prop where
  pooled : Pooled bufferSize run.stream.buffers run.stream.index
    (queue.contents run.stream.stream ++ run.held.map Prod.fst)
  size : queue.size run.stream.stream = run.stream.buffers.length
  kept : ∀ entry ∈ run.held, dataAt run.stream.buffers entry.1 = entry.2
  whole : run.received.flatten ++ (queue.contents run.stream.stream).flatMap (dataAt run.stream.buffers) ++
    filling run.stream = run.sent

theorem bufferAt_of_get {stream : BufferStream queue} {place : Nat} {buffer : Buffer}
    (there : stream.buffers[place]? = some buffer) : bufferAt place stream = (.ok buffer, stream) := by
  rw [bufferAt, there]

theorem onBuffers_of_ok {α : Type} {program : BufferStreamM queue α} {run : BufferRun queue} {answer : α}
    {after : BufferStream queue} (ran : program run.stream = (.ok answer, after)) :
    onBuffers program run = (.ok answer, { run with stream := after }) := by
  rw [onBuffers, ran]

theorem filling_of_get {stream : BufferStream queue} {buffer : Buffer} (there : stream.buffers[stream.index]? = some buffer) :
    filling stream = if buffer.occupied then [] else buffer.data := by
  rw [filling, there]

namespace Sound
variable {run : BufferRun queue} {buffer : Buffer} {data : List UInt8}

variable (sound : Sound bufferSize run)
include sound

theorem toWhole : run.Whole :=
  ⟨sound.whole, (List.nodup_append.mp sound.pooled.once).1, sound.kept⟩

/-! ## Sending -/

variable (there : run.stream.buffers[run.stream.index]? = some buffer)
include there

theorem unused (free : buffer.occupied = false) :
    run.stream.index ∉ queue.contents run.stream.stream ++ run.held.map Prod.fst ∧
      (queue.contents run.stream.stream).length < queue.size run.stream.stream := by
  have unused : run.stream.index ∉ queue.contents run.stream.stream ++ run.held.map Prod.fst := by
    rw [← sound.pooled.occupied _ _ there, free]
    exact Bool.false_ne_true
  have fewer := sound.pooled.length_lt sound.pooled.within unused
  rw [List.length_append, ← sound.size] at fewer
  exact ⟨unused, by omega⟩

theorem write (free : buffer.occupied = false) (fits : buffer.data.length + data.length ≤ bufferSize)
    (small : buffer.data.length + data.length < 4294967296) :
    ∃ next, bufferWrite run.stream.index data run.stream = (.ok true, next) ∧
      Sound bufferSize { run with stream := next, sent := run.sent ++ data } := by
  obtain ⟨stream, received, held, sent⟩ := run
  have pooled : Pooled bufferSize stream.buffers stream.index (queue.contents stream.stream ++ held.map Prod.fst) :=
    sound.pooled
  have width : buffer.maxDataSize = bufferSize := pooled.width buffer (List.mem_of_getElem? there)
  have unused : stream.index ∉ queue.contents stream.stream ++ held.map Prod.fst := (sound.unused there free).1
  have elsewhere (place : Nat) (used : place ∈ queue.contents stream.stream ++ held.map Prod.fst) :
      dataAt (stream.buffers.set stream.index { buffer with data := buffer.data ++ data }) place =
        dataAt stream.buffers place :=
    dataAt_set_of_ne _ fun same => unused (same ▸ used)
  have changed : (stream.buffers.set stream.index { buffer with data := buffer.data ++ data })[stream.index]? =
      some { buffer with data := buffer.data ++ data } := List.getElem?_set_self pooled.within
  refine ⟨{ stream with buffers := stream.buffers.set stream.index { buffer with data := buffer.data ++ data } }, ?_,
    pooled.write there _, ?_, ?_, ?_⟩
  · have sum : (buffer.data.length + data.length) % 4294967296 = buffer.data.length + data.length :=
      Nat.mod_eq_of_lt small
    have notMore : ¬buffer.maxDataSize < buffer.data.length + data.length := by omega
    have notBusy : ¬buffer.occupied = true := by
      rw [free]
      exact Bool.false_ne_true
    rw [bufferWrite, bind_of_ok (bufferAt_of_get there), if_neg notBusy, sum, if_neg notMore, if_neg notMore]
    rfl
  · rw [List.length_set]
    exact sound.size
  · exact fun entry member =>
      (elsewhere _ (List.mem_append_right _ (List.mem_map_of_mem member))).trans (sound.kept entry member)
  · have before := sound.whole
    have queued : (queue.contents stream.stream).flatMap
        (dataAt (stream.buffers.set stream.index { buffer with data := buffer.data ++ data })) =
          (queue.contents stream.stream).flatMap (dataAt stream.buffers) :=
      List.flatMap_congr fun place member => elsewhere place (List.mem_append_left _ member)
    have filled : filling stream = buffer.data := by
      rw [filling_of_get there, free]
      rfl
    have more : filling { stream with buffers := stream.buffers.set stream.index { buffer with data := buffer.data ++ data } } =
        buffer.data ++ data := by
      rw [filling_of_get changed, free]
      rfl
    rw [queued, more, ← before, filled, List.append_assoc, List.append_assoc, List.append_assoc]

/-- The buffer that is being filled goes to the queue, if it is not there or with the reader already. -/
theorem handOver
    (full : buffer.occupied = true → queue.size run.stream.stream ≤ (queue.contents run.stream.stream).length) :
    Sound bufferSize { run with stream := handedOver run.stream buffer } := by
  obtain ⟨stream, received, held, sent⟩ := run
  have pooled : Pooled bufferSize stream.buffers stream.index (queue.contents stream.stream ++ held.map Prod.fst) :=
    sound.pooled
  have untouched : ({ buffer with occupied := true } : Buffer).data = buffer.data := rfl
  have same (place : Nat) : dataAt (handedOver stream buffer).buffers place = dataAt stream.buffers place :=
    dataAt_set_same there untouched place
  have handed : (handedOver stream buffer).buffers[(handedOver stream buffer).index]? =
      some { buffer with occupied := true } := List.getElem?_set_self pooled.within
  have none : filling (handedOver stream buffer) = [] := by
    rw [filling_of_get handed]
    rfl
  refine ⟨?_, ?_, fun entry member => (same _).trans (sound.kept entry member), ?_⟩
  · cases occupied : buffer.occupied with
    | true =>
      have unchanged : (handedOver stream buffer).buffers = stream.buffers := by
        have inside := pooled.within
        have itself : { buffer with occupied := true } = stream.buffers[stream.index] := by
          rw [List.getElem?_eq_getElem pooled.within] at there
          rw [Option.some.inj there, ← occupied]
        rw [handedOver, itself, List.set_getElem_self]
      rw [unchanged, handedOver, queue.contents_send_full _ (full occupied)]
      exact pooled
    | false =>
      obtain ⟨unused, room⟩ := sound.unused there occupied
      rw [handedOver, queue.contents_send_one _ room, List.append_assoc]
      exact (pooled.handOver there unused).perm List.perm_middle
  · rw [handedOver, queue.size_send, List.length_set]
    exact sound.size
  · have before : received.flatten ++ (queue.contents stream.stream).flatMap (dataAt stream.buffers) ++ filling stream =
        sent := sound.whole
    rw [none, List.append_nil, List.flatMap_congr fun place _ => same place, ← before, filling_of_get there]
    cases occupied : buffer.occupied with
    | true => rw [handedOver, queue.contents_send_full _ (full occupied), if_pos rfl, List.append_nil]
    | false =>
      rw [handedOver, queue.contents_send_one _ (sound.unused there occupied).2, List.flatMap_append,
        List.flatMap_singleton, dataAt_of_get there, if_neg Bool.false_ne_true, List.append_assoc]

/-- Another buffer is to be filled, once the one before was handed over. -/
theorem move
    (handed : buffer.occupied = true) {place : Nat} {next : Buffer} (found : run.stream.buffers[place]? = some next)
    (free : next.occupied = false) :
    next.data = [] ∧ Sound bufferSize { run with stream := { run.stream with index := place } } := by
  have other : place ≠ run.stream.index := by
    rintro rfl
    rw [there] at found
    rw [← Option.some.inj found, handed] at free
    exact Bool.false_ne_true free.symm
  have empty := sound.pooled.empty place next found free other
  have used := (sound.pooled.occupied _ _ there).mp handed
  refine ⟨empty, sound.pooled.move used (List.getElem?_eq_some_iff.mp found).1, sound.size, sound.kept, ?_⟩
  have before := sound.whole
  have after : filling { run.stream with index := place } = [] := by
    rw [filling_of_get found, free, empty]
    rfl
  rw [filling_of_get there, handed] at before
  rw [after]
  exact before

/-- The buffer that is being filled is handed over, and another one takes the data, if there is one. -/
theorem sendToNext (unhindered : Unhindered data run.stream) (fits : data.length ≤ bufferSize)
    (much : buffer.occupied = false → bufferSize < buffer.data.length + data.length) :
    ∃ done next, Toolbox.sendToNext data run.stream = (.ok done, next) ∧
      Sound bufferSize { run with stream := next, sent := if done then run.sent ++ data else run.sent } := by
  have handed := sound.handOver there (unhindered.full buffer there)
  have pooled := sound.pooled
  have width : buffer.maxDataSize = bufferSize := pooled.width buffer (List.mem_of_getElem? there)
  have start : Toolbox.sendToNext data run.stream =
      (if bufferStreamGetFreeBuffer (handedOver run.stream buffer).buffers = -1 then do
        Effect.update fun state : BufferStream queue => { state with streamOverrunCount := state.streamOverrunCount + 1 }
        pure false
      else do
        let next := (BitVec.ofInt 32 (bufferStreamGetFreeBuffer (handedOver run.stream buffer).buffers)).toNat
        Effect.update fun state : BufferStream queue => { state with index := next }
        let _ ← bufferWrite next data
        pure true) (handedOver run.stream buffer) := by
    rw [Toolbox.sendToNext, Effect.observe_bind, bind_of_ok (bufferAt_of_get there)]
    rfl
  have overrun (none : bufferStreamGetFreeBuffer (handedOver run.stream buffer).buffers = -1) :
      ∃ done next, Toolbox.sendToNext data run.stream = (.ok done, next) ∧
        Sound bufferSize { run with stream := next, sent := if done then run.sent ++ data else run.sent } := by
    rw [start, if_pos none]
    exact ⟨false, _, rfl, handed.pooled, handed.size, handed.kept, handed.whole⟩
  cases found : (handedOver run.stream buffer).buffers.findIdx? fun buffer => !buffer.occupied with
  | none => exact overrun (bufferStreamGetFreeBuffer_of_none found)
  | some place =>
    have first : FirstFree run.stream.buffers run.stream.index place := firstFree_of_find there found
    obtain ⟨next, at_place, free⟩ := first.free
    have unoccupied : buffer.occupied = false := by
      refine Bool.eq_false_iff.mpr fun busy => ?_
      have full := unhindered.full buffer there busy
      have unused : place ∉ queue.contents run.stream.stream ++ run.held.map Prod.fst := by
        rw [← pooled.occupied _ _ at_place, free]
        exact Bool.false_ne_true
      have fewer := pooled.length_lt (List.getElem?_eq_some_iff.mp at_place).1 unused
      rw [List.length_append, ← sound.size] at fewer
      omega
    have named := unhindered.named buffer there (by rw [width]; exact much unoccupied) place first
    rcases bufferStreamGetFreeBuffer_of_first found named with none | ⟨valid, index⟩
    · exact overrun none
    · have elsewhere : (handedOver run.stream buffer).buffers[place]? = some next :=
        (List.getElem?_set_ne first.other.symm).trans at_place
      have current : (handedOver run.stream buffer).buffers[(handedOver run.stream buffer).index]? =
          some { buffer with occupied := true } := List.getElem?_set_self pooled.within
      obtain ⟨empty, moved⟩ := handed.move current rfl elsewhere free
      have small := unhindered.room buffer there unoccupied
      have length : next.data.length = 0 := by rw [empty, List.length_nil]
      have fits : next.data.length + data.length ≤ bufferSize := by omega
      obtain ⟨last, wrote, after⟩ := moved.write elsewhere free fits (by omega)
      refine ⟨true, last, ?_, after⟩
      rw [start, if_neg valid, index]
      exact bind_of_ok wrote

omit there

theorem send (unhindered : Unhindered data run.stream) (fits : data.length ≤ bufferSize) :
    ∃ done next, bufferStreamSendFromIsr data run.stream = (.ok done, next) ∧
      Sound bufferSize { run with stream := next, sent := if done then run.sent ++ data else run.sent } := by
  obtain ⟨buffer, there, width, -⟩ := sound.pooled.current
  have onward (much : buffer.occupied = false → bufferSize < buffer.data.length + data.length)
      (refused : bufferWrite run.stream.index data run.stream = (.ok false, run.stream)) :
      ∃ done next, bufferStreamSendFromIsr data run.stream = (.ok done, next) ∧
        Sound bufferSize { run with stream := next, sent := if done then run.sent ++ data else run.sent } := by
    obtain ⟨done, next, sent, after⟩ := sound.sendToNext there unhindered fits much
    refine ⟨done, next, ?_, after⟩
    rw [bufferStreamSendFromIsr, Effect.observe_bind, bind_of_ok refused, if_neg Bool.false_ne_true, sent]
  cases occupied : buffer.occupied with
  | true =>
    refine onward (fun free => absurd (free.symm.trans occupied) Bool.false_ne_true) ?_
    rw [bufferWrite, bind_of_ok (bufferAt_of_get there), if_pos occupied]
    rfl
  | false =>
    have small := unhindered.room buffer there occupied
    by_cases room : buffer.data.length + data.length ≤ bufferSize
    · obtain ⟨next, wrote, after⟩ := sound.write there occupied room small
      refine ⟨true, next, ?_, after⟩
      rw [bufferStreamSendFromIsr, Effect.observe_bind, bind_of_ok wrote]
      rfl
    · refine onward (fun _ => Nat.lt_of_not_le room) ?_
      have sum : (buffer.data.length + data.length) % 4294967296 = buffer.data.length + data.length :=
        Nat.mod_eq_of_lt small
      have notBusy : ¬buffer.occupied = true := by
        rw [occupied]
        exact Bool.false_ne_true
      rw [bufferWrite, bind_of_ok (bufferAt_of_get there), if_neg notBusy, sum, width, if_pos (Nat.lt_of_not_le room)]
      rfl

theorem receive :
    ∃ next, bufferStreamCall .receive run = (.ok (), next) ∧ Sound bufferSize next := by
  obtain ⟨stream, received, held, sent⟩ := run
  have pooled : Pooled bufferSize stream.buffers stream.index (queue.contents stream.stream ++ held.map Prod.fst) :=
    sound.pooled
  have whole : received.flatten ++ (queue.contents stream.stream).flatMap (dataAt stream.buffers) ++ filling stream = sent :=
    sound.whole
  have size : queue.size (queue.receive 1 stream.stream).2 = stream.buffers.length :=
    (queue.size_receive 1 _).trans sound.size
  have left := queue.contents_receive 1 stream.stream
  have taken : bufferStreamReceive stream =
      (.ok ((queue.contents stream.stream).take 1).head?, { stream with stream := (queue.receive 1 stream.stream).2 }) := by
    rw [bufferStreamReceive, queue.received]
  cases queued : queue.contents stream.stream with
  | nil =>
    rw [queued] at pooled whole left taken
    refine ⟨⟨{ stream with stream := (queue.receive 1 stream.stream).2 }, received, held, sent⟩, ?_, ?_, size,
      sound.kept, ?_⟩
    · rw [bufferStreamCall, bind_of_ok (onBuffers_of_ok taken)]
      rfl
    · rw [left]
      exact pooled
    · rw [left]
      exact whole
  | cons place rest =>
    rw [queued] at pooled whole left taken
    obtain ⟨buffer, there⟩ : ∃ buffer : Buffer, stream.buffers[place]? = some buffer :=
      ⟨_, List.getElem?_eq_getElem (pooled.inside place List.mem_cons_self)⟩
    have data := dataAt_of_get there
    refine ⟨⟨{ stream with stream := (queue.receive 1 stream.stream).2 }, received ++ [buffer.data],
      held ++ [(place, buffer.data)], sent⟩, ?_, ?_, size, ?_, ?_⟩
    · rw [bufferStreamCall, bind_of_ok (onBuffers_of_ok taken)]
      exact bind_of_ok (onBuffers_of_ok (bufferAt_of_get there))
    · rw [left, List.map_append, ← List.append_assoc]
      refine pooled.perm ?_
      exact List.perm_append_comm
    · refine List.forall_mem_append.mpr ⟨sound.kept, List.forall_mem_singleton.mpr data⟩
    · rw [left, ← whole, List.flatten_append, List.flatMap_cons, data]
      simp only [List.flatten_cons, List.append_assoc]
      rfl

theorem reset {place : Nat} (has : place ∈ run.held.map Prod.fst) :
    ∃ next, bufferStreamCall (.reset place) run = (.ok (), next) ∧ Sound bufferSize next := by
  obtain ⟨stream, received, held, sent⟩ := run
  have pooled : Pooled bufferSize stream.buffers stream.index (queue.contents stream.stream ++ held.map Prod.fst) :=
    sound.pooled
  have whole : received.flatten ++ (queue.contents stream.stream).flatMap (dataAt stream.buffers) ++ filling stream = sent :=
    sound.whole
  obtain ⟨-, heldOnce, apart⟩ := List.nodup_append.mp pooled.once
  have used := List.mem_append_right (queue.contents stream.stream) has
  obtain ⟨buffer, there⟩ : ∃ buffer : Buffer, stream.buffers[place]? = some buffer :=
    ⟨_, List.getElem?_eq_getElem (pooled.inside place used)⟩
  have busy := (pooled.occupied place buffer there).mpr used
  have left : (held.filter fun entry => entry.1 ≠ place).map Prod.fst = (held.map Prod.fst).erase place := by
    rw [heldOnce.erase_eq_filter, List.filter_map]
    congr 1
    exact List.filter_congr fun entry _ => Bool.eq_iff_iff.mpr (by simp)
  have back : (queue.contents stream.stream ++ held.map Prod.fst).Perm
      (place :: (queue.contents stream.stream ++ (held.map Prod.fst).erase place)) :=
    ((List.perm_cons_erase has).append_left _).trans List.perm_middle
  have elsewhere {other : Nat} (ne : place ≠ other) :
      dataAt (stream.buffers.set place { buffer with occupied := false, data := [] }) other = dataAt stream.buffers other :=
    dataAt_set_of_ne _ ne
  refine ⟨⟨{ stream with buffers := stream.buffers.set place { buffer with occupied := false, data := [] } }, received,
    held.filter fun entry => entry.1 ≠ place, sent⟩, ?_, ?_, ?_, ?_, ?_⟩
  · have run : bufferReset place stream =
        (.ok (), { stream with buffers := stream.buffers.set place { buffer with occupied := false, data := [] } }) := by
      rw [bufferReset, bind_of_ok (bufferAt_of_get there)]
      rfl
    exact bind_of_ok (onBuffers_of_ok run)
  · rw [left]
    exact (pooled.perm back.symm).reset there
  · rw [List.length_set]
    exact sound.size
  · intro entry member
    obtain ⟨member, ne⟩ := List.mem_filter.mp member
    exact (elsewhere (Ne.symm (of_decide_eq_true ne))).trans (sound.kept entry member)
  · have queued : (queue.contents stream.stream).flatMap
        (dataAt (stream.buffers.set place { buffer with occupied := false, data := [] })) =
          (queue.contents stream.stream).flatMap (dataAt stream.buffers) :=
      List.flatMap_congr fun other member => elsewhere (Ne.symm (apart other member place has))
    have same : filling { stream with buffers := stream.buffers.set place { buffer with occupied := false, data := [] } } =
        filling stream := by
      obtain ⟨current, here, -⟩ := pooled.current
      rw [filling_of_get here]
      by_cases filled : place = stream.index
      · subst filled
        rw [there] at here
        rw [← Option.some.inj here, if_pos busy]
        have freed : (stream.buffers.set stream.index { buffer with occupied := false, data := [] })[stream.index]? =
            some { buffer with occupied := false, data := [] } := List.getElem?_set_self pooled.within
        rw [filling_of_get freed]
        rfl
      · have kept : (stream.buffers.set place { buffer with occupied := false, data := [] })[stream.index]? =
            some current := (List.getElem?_set_ne filled).trans here
        rw [filling_of_get kept]
    rw [queued, same]
    exact whole

theorem call (call : BufferStreamCall) (fits : call.Fits bufferSize run) :
    ∃ next, bufferStreamCall call run = (.ok (), next) ∧ Sound bufferSize next := by
  cases call with
  | send data =>
    obtain ⟨short, unhindered⟩ := fits
    obtain ⟨done, next, sent, after⟩ := sound.send unhindered short
    refine ⟨_, ?_, after⟩
    rw [bufferStreamCall, bind_of_ok (onBuffers_of_ok sent)]
    cases done <;> rfl
  | receive => exact sound.receive
  | reset place => exact sound.reset fits

end Sound

theorem sound_start {buffersCount : Nat} (some : 0 < buffersCount) :
    Sound bufferSize (bufferRunStart bufferSize buffersCount : BufferRun queue) := by
  have empty : queue.contents (queue.alloc buffersCount) = [] := queue.contents_alloc buffersCount
  have all {place : Nat} {buffer : Buffer}
      (there : (List.replicate buffersCount (⟨false, [], bufferSize⟩ : Buffer))[place]? = Option.some buffer) :
      buffer = ⟨false, [], bufferSize⟩ := (List.mem_replicate.mp (List.mem_of_getElem? there)).2
  refine ⟨⟨?_, ?_, ?_, ?_, ?_, ?_⟩, ?_, ?_, ?_⟩
  · exact some.trans_eq List.length_replicate.symm
  · intro buffer member
    rw [(List.mem_replicate.mp member).2]
  · dsimp only [bufferRunStart, bufferStreamAlloc]
    rw [empty]
    exact List.nodup_nil
  · dsimp only [bufferRunStart, bufferStreamAlloc]
    rw [empty]
    exact List.forall_mem_nil _
  · intro place buffer there
    dsimp only [bufferRunStart, bufferStreamAlloc] at there ⊢
    rw [empty, all there]
    exact iff_of_false Bool.false_ne_true List.not_mem_nil
  · intro place buffer there _ _
    rw [all there]
  · exact (queue.size_alloc buffersCount).trans List.length_replicate.symm
  · exact List.forall_mem_nil _
  · have first : (bufferRunStart bufferSize buffersCount : BufferRun queue).stream.buffers[0]? =
        Option.some ⟨false, [], bufferSize⟩ := List.getElem?_replicate_of_lt some
    have none : filling (bufferRunStart bufferSize buffersCount : BufferRun queue).stream = [] := by
      rw [filling_of_get first]
      rfl
    rw [none]
    dsimp only [bufferRunStart, bufferStreamAlloc]
    rw [empty]
    rfl

/-- As long as no send hands a buffer over that is in use, and buffers have small numbers,
everything that was sent is there, once and in its order. -/
theorem bufferStream_run {buffersCount : Nat} (some : 0 < buffersCount) {calls : List BufferStreamCall} {run : BufferRun queue}
    (reached : Effect.Reaches bufferStreamCall (BufferStreamCall.Fits bufferSize) (bufferRunStart bufferSize buffersCount) calls run) :
    run.Whole ∧ ∀ call : BufferStreamCall, call.Fits bufferSize run → Yields (bufferStreamCall call) (fun _ next => next.Whole) run := by
  have sound : Sound bufferSize run := by
    refine Effect.reaches_preserves reached (sound_start some) fun call before fits sound => ?_
    obtain ⟨next, ran, after⟩ := sound.call call fits
    rwa [ran]
  refine ⟨sound.toWhole, fun call fits => ?_⟩
  obtain ⟨next, ran, after⟩ := sound.call call fits
  exact (Yields.iff_of_ok ran).mpr after.toWhole

end

theorem bufferStream_run_one :
    (bufferStreamCall (.send [1]) (bufferRunStart 4 2 : BufferRun (BoundedQueue.ofList Nat))).2.Whole := by
  have unhindered : Unhindered [1] (bufferStreamAlloc 4 2 : BufferStream (BoundedQueue.ofList Nat)) := by
    refine ⟨fun buffer there busy => ?_, fun buffer there _ => ?_, fun buffer there much => ?_⟩
    · cases there
      cases busy
    · cases there
      decide
    · cases there
      exact absurd much (by decide)
  have fits : (BufferStreamCall.send [1]).Fits 4 (bufferRunStart 4 2 : BufferRun (BoundedQueue.ofList Nat)) :=
    ⟨by decide, unhindered⟩
  exact (bufferStream_run Nat.two_pos (.step .start fits rfl)).1

/-- Both buffers are full, one is received, and the other one is handed over for the second time. -/
theorem bufferStream_twice : Yields ([.send [1], .send [2], .send [3], .receive, .send [4]].forM bufferStreamCall)
      (fun _ run => run.sent = [1, 2] ∧ (BoundedQueue.ofList Nat).contents run.stream.stream = [1, 1] ∧ ¬run.Whole)
      (bufferRunStart 1 2 : BufferRun (BoundedQueue.ofList Nat)) := by
  have ran : [BufferStreamCall.send [1], .send [2], .send [3], .receive, .send [4]].forM bufferStreamCall
      (bufferRunStart 1 2 : BufferRun (BoundedQueue.ofList Nat)) = (.ok (), _) := rfl
  rw [Yields.iff_of_ok ran]
  refine ⟨rfl, rfl, fun whole => ?_⟩
  have once : [1, 1].Nodup := whole.once
  exact absurd once (by decide)

end Xtreme.Toolbox
