import Xtreme.U2f.Reassembly

/-! What the packets of the U2F transport come to over whole runs. No run stores a byte
behind the payload buffer (`worker_within`), and the packets of a message, split as a
response is split, put the same message together again (`requests_of_message`). -/
namespace Xtreme.U2f
open Library

section Worker
variable {υ : Type*} (layer : MessageLayer υ)

theorem parseRequest_within (worker : U2fHid υ) (random : BitVec 32) {place : Nat}
    (behind : u2fHidMaxPayloadLen ≤ place) :
    (u2fHidParseRequest layer worker random).2.2.packet.payload place =
      worker.packet.payload place := by
  have written := layer.within worker.u2fInstance worker.packet.payload worker.packet.len place behind
  have initial : (worker.packet.payload.store 8 (initResponse random)) place =
      worker.packet.payload place :=
    ByteMemory.store_outside _ (Nat.le_trans (Nat.le_of_ble_eq_true rfl) behind)
  simp only [u2fHidParseRequest]
  split_ifs <;> first | rfl | exact written | exact initial

theorem finishPacket_within (worker : U2fHid υ) (random : BitVec 32) {place : Nat}
    (behind : u2fHidMaxPayloadLen ≤ place) :
    (finishPacket layer worker random).2.packet.payload place = worker.packet.payload place := by
  have parsed := parseRequest_within layer worker random behind
  rw [finishPacket]
  by_cases complete : worker.reqLenLeft = 0
  · rw [if_pos complete]
    cases result : u2fHidParseRequest layer worker random with
    | mk valid rest =>
      rw [result] at parsed
      cases valid with
      | true => exact parsed
      | false =>
        have inside : 0 + [u2fHidErrInvalidCmd].length ≤ u2fHidMaxPayloadLen := by decide
        exact (ByteMemory.store_outside rest.2.packet.payload (Nat.le_trans inside behind)).trans parsed
  · rw [if_neg complete]

/-- A packet is copied to where there is room for it. -/
theorem handleRequest_within {worker : U2fHid υ} {pending : Option Reassembly.Pending}
    (holds : Holds worker pending) (packet : List (BitVec 8)) (random : BitVec 32) {place : Nat}
    (behind : u2fHidMaxPayloadLen ≤ place) :
    (handleRequest layer worker packet random).2.packet.payload place =
      worker.packet.payload place := by
  rw [handleRequest]
  by_cases empty : packet.length = 0
  · rw [if_pos empty]
  rw [if_neg empty]
  by_cases initial : packetIsInit packet
  · rw [if_pos initial]
    by_cases short : packet.length < 7
    · rw [if_pos short]
    rw [if_neg short]
    by_cases long : u2fHidMaxPayloadLen < packetLen packet
    · rw [if_pos long]
    rw [if_neg long, finishPacket_within layer _ random behind]
    change worker.packet.payload.store 0 _ place = _
    refine ByteMemory.store_outside _ ?_
    simp only [List.length_take]
    omega
  rw [if_neg initial]
  by_cases short : packet.length < 5
  · rw [if_pos short]
  rw [if_neg short, finishPacket_within layer _ random behind]
  by_cases continues : 0 < worker.reqLenLeft ∧ packetCid packet = worker.packet.cid ∧
      packet.getD 4 0#8 = worker.seqIdLast
  · rw [if_pos continues]
    cases pending with
    | none => exact absurd holds (Nat.ne_of_gt continues.1)
    | some pending =>
      obtain ⟨-, total, fits, -⟩ := holds
      refine ByteMemory.store_outside _ ?_
      simp only [List.length_take]
      omega
  · rw [if_neg continues]

/-- **No run stores a byte behind the payload buffer.** -/
theorem worker_within {worker : U2fHid υ} {pending : Option Reassembly.Pending}
    (holds : Holds worker pending) (events : List WorkerEvt) {place : Nat}
    (behind : u2fHidMaxPayloadLen ≤ place) :
    ((u2fHidWorker layer).run worker events).2.packet.payload place =
      worker.packet.payload place := by
  induction events generalizing worker pending with
  | nil => rfl
  | cons event events ih =>
    have next := (worker_reassembles layer holds event).1
    refine (ih next).trans ?_
    cases event with
    | request packet random => exact handleRequest_within layer holds packet random behind
    | _ => rfl

end Worker

theorem packetCid_cidBytes (cid : BitVec 32) (rest : List (BitVec 8)) :
    packetCid (cidBytes cid ++ rest) = cid := by
  have joined : cid.extractLsb' 24 8 ++ cid.extractLsb' 16 8 ++ cid.extractLsb' 8 8 ++ cid.extractLsb' 0 8 = cid := by
    rw [BitVec.extractLsb'_append_extractLsb'_eq_extractLsb' (rfl : 24 = 16 + 8),
      BitVec.extractLsb'_append_extractLsb'_eq_extractLsb' (rfl : 16 = 8 + 8),
      BitVec.extractLsb'_append_extractLsb'_eq_extractLsb' (rfl : 8 = 0 + 8), BitVec.extractLsb'_eq_self]
  exact joined

theorem packetLen_bytes {len : Nat} (small : len < 65536) (cid : BitVec 32) (cmd : BitVec 8)
    (rest : List (BitVec 8)) :
    packetLen (cidBytes cid ++ cmd :: BitVec.ofNat 8 (len >>> 8) :: BitVec.ofNat 8 len :: rest) =
      len := by
  simp only [packetLen, cidBytes, List.cons_append, List.nil_append, List.getD_cons_zero,
    List.getD_cons_succ, BitVec.toNat_ofNat]
  rw [← Nat.shiftLeft_add_eq_or_of_lt (Nat.mod_lt _ (by decide))]
  omega

theorem fillPacket_cid (cid : BitVec 32) (rest : List (BitVec 8)) :
    packetCid (fillPacket (cidBytes cid ++ rest)) = cid := by
  rw [fillPacket, List.append_assoc, packetCid_cidBytes]

theorem take_fillPacket {header chunk : List (BitVec 8)} {wanted : Nat} (fits : chunk.length ≤ wanted)
    (filled : chunk.length = wanted ∨ header.length + chunk.length = hidU2fPacketLen) :
    ((fillPacket (header ++ chunk)).drop header.length).take wanted = chunk := by
  rw [fillPacket, List.append_assoc, List.drop_left]
  obtain whole | full := filled
  · rw [← whole, List.take_left]
  · rw [List.length_append, full, Nat.sub_self, List.replicate_zero, List.append_nil, List.take_of_length_le fits]

theorem fillPacket_length {contents : List (BitVec 8)} (fits : contents.length ≤ hidU2fPacketLen) :
    (fillPacket contents).length = hidU2fPacketLen := by
  rw [fillPacket, List.length_append, List.length_replicate]
  omega

theorem fillPacket_kind (cid : BitVec 32) (kind : BitVec 8) (rest : List (BitVec 8)) :
    (fillPacket (cidBytes cid ++ kind :: rest)).getD 4 0#8 = kind := rfl

section Message
variable {υ : Type*} (layer : MessageLayer υ) {packet : U2fHidPacket}

theorem lowByte_kind : ∀ kind : BitVec 8, kind.toNat < 128 →
    kind &&& u2fHidTypeMask ≠ u2fHidTypeInit := by
  decide +kernel

theorem step_continuation {dataPtr lenCur : Nat} (inside : dataPtr + lenCur ≤ packet.len)
    (fits : lenCur ≤ 59) (filled : dataPtr + lenCur = packet.len ∨ lenCur = 59)
    {seqCnt : BitVec 8} (low : seqCnt.toNat < 128) :
    Reassembly.step (some ⟨packet.cid, packet.cmd, packet.len, packet.payload.bytes 0 dataPtr, seqCnt⟩)
        (fillPacket (cidBytes packet.cid ++ seqCnt :: packet.payload.bytes dataPtr lenCur)) =
      Reassembly.deliver
        { cid := packet.cid
          cmd := packet.cmd
          len := packet.len
          received := packet.payload.bytes 0 (dataPtr + lenCur)
          seq := seqCnt + 1#8 } := by
  have header : (cidBytes packet.cid ++ [seqCnt]).length = 5 := rfl
  have size : (fillPacket (cidBytes packet.cid ++
      seqCnt :: packet.payload.bytes dataPtr lenCur)).length = hidU2fPacketLen := by
    refine fillPacket_length ?_
    rw [List.append_cons, List.length_append, ByteMemory.bytes_length, hidU2fPacketLen]
    omega
  have carried := @take_fillPacket (cidBytes packet.cid ++ [seqCnt])
    (packet.payload.bytes dataPtr lenCur) (packet.len - dataPtr)
    (by rw [ByteMemory.bytes_length]; omega)
    (by rw [ByteMemory.bytes_length, hidU2fPacketLen]; omega)
  rw [header, ← List.append_cons] at carried
  have kind : packetIsInit (fillPacket (cidBytes packet.cid ++
      seqCnt :: packet.payload.bytes dataPtr lenCur)) = false := by
    rw [packetIsInit, decide_eq_false_iff_not]
    exact lowByte_kind seqCnt low
  rw [Reassembly.step.eq_def, if_neg (by rw [← List.length_eq_zero_iff, size]; decide),
    if_neg (by simp [kind]), if_neg (by rw [size]; decide)]
  dsimp only
  rw [if_pos ⟨fillPacket_cid _ _, fillPacket_kind _ _ _⟩, ByteMemory.bytes_length, carried,
    ByteMemory.bytes_append, Nat.zero_add]

theorem step_initial {lenCur : Nat} (inside : lenCur ≤ packet.len) (fits : lenCur ≤ 57)
    (filled : lenCur = packet.len ∨ lenCur = 57)
    (kind : packet.cmd &&& u2fHidTypeMask = u2fHidTypeInit)
    (small : packet.len ≤ u2fHidMaxPayloadLen) (pending : Option Reassembly.Pending) :
    Reassembly.step pending (fillPacket (cidBytes packet.cid ++
          packet.cmd :: BitVec.ofNat 8 (packet.len >>> 8) :: BitVec.ofNat 8 packet.len ::
            packet.payload.bytes 0 lenCur)) =
      Reassembly.deliver
        { cid := packet.cid
          cmd := packet.cmd
          len := packet.len
          received := packet.payload.bytes 0 lenCur
          seq := 0#8 } := by
  have parts : cidBytes packet.cid ++ packet.cmd :: BitVec.ofNat 8 (packet.len >>> 8) ::
      BitVec.ofNat 8 packet.len :: packet.payload.bytes 0 lenCur =
      (cidBytes packet.cid ++ [packet.cmd, BitVec.ofNat 8 (packet.len >>> 8), BitVec.ofNat 8 packet.len]) ++
        packet.payload.bytes 0 lenCur := rfl
  have header : (cidBytes packet.cid ++
      [packet.cmd, BitVec.ofNat 8 (packet.len >>> 8), BitVec.ofNat 8 packet.len]).length = 7 := rfl
  have size : (fillPacket (cidBytes packet.cid ++
      packet.cmd :: BitVec.ofNat 8 (packet.len >>> 8) :: BitVec.ofNat 8 packet.len ::
        packet.payload.bytes 0 lenCur)).length = hidU2fPacketLen := by
    refine fillPacket_length ?_
    rw [parts, List.length_append, ByteMemory.bytes_length, hidU2fPacketLen]
    omega
  have length : packetLen (fillPacket (cidBytes packet.cid ++
      packet.cmd :: BitVec.ofNat 8 (packet.len >>> 8) :: BitVec.ofNat 8 packet.len ::
        packet.payload.bytes 0 lenCur)) = packet.len := by
    have bound : packet.len < 65536 := Nat.lt_of_le_of_lt small (Nat.le_of_ble_eq_true rfl)
    exact packetLen_bytes bound _ _ _
  have carried := @take_fillPacket (cidBytes packet.cid ++
      [packet.cmd, BitVec.ofNat 8 (packet.len >>> 8), BitVec.ofNat 8 packet.len])
    (packet.payload.bytes 0 lenCur) packet.len (by rw [ByteMemory.bytes_length]; exact inside)
    (by rw [ByteMemory.bytes_length, hidU2fPacketLen]; omega)
  rw [header, ← parts] at carried
  have initial : packetIsInit (fillPacket (cidBytes packet.cid ++
      packet.cmd :: BitVec.ofNat 8 (packet.len >>> 8) :: BitVec.ofNat 8 packet.len ::
        packet.payload.bytes 0 lenCur)) = true := by
    rw [packetIsInit, decide_eq_true_iff]
    exact kind
  rw [Reassembly.step.eq_def, if_neg (by rw [← List.length_eq_zero_iff, size]; decide), if_pos initial, length,
    if_neg (not_or.mpr ⟨by rw [size]; decide, Nat.not_lt.mpr small⟩), fillPacket_cid,
    fillPacket_kind, carried]

theorem sendContinuations_done (fuel : Nat) (seqCnt : BitVec 8) (dataPtr : Nat) :
    sendContinuations packet fuel seqCnt dataPtr 0 = [] := by
  cases fuel <;> rfl

/-- **The continuations of a message complete it**, and nothing before the last one does. -/
theorem requests_continuations {worker : U2fHid υ} {fuel dataPtr lenRemain : Nat}
    {seqCnt : BitVec 8}
    (holds : Holds worker (some ⟨packet.cid, packet.cmd, packet.len, packet.payload.bytes 0 dataPtr, seqCnt⟩))
    (more : 0 < lenRemain) (total : dataPtr + lenRemain = packet.len) (enough : lenRemain ≤ fuel)
    (numbered : 59 * seqCnt.toNat + lenRemain ≤ 59 * 128) (random : BitVec 32) :
    requests layer worker ((sendContinuations packet fuel seqCnt dataPtr lenRemain).map (.request · random)) =
      [packet.request] := by
  induction fuel generalizing worker dataPtr lenRemain seqCnt with
  | zero => omega
  | succ fuel ih =>
    rw [sendContinuations, if_neg (Nat.ne_of_gt more), List.map_cons, requests_cons]
    have low : seqCnt.toNat < 128 := by omega
    have lenCur : min lenRemain (hidU2fPacketLen - 5) = min lenRemain 59 := rfl
    obtain ⟨next, same, -⟩ := worker_reassembles layer holds (.request (fillPacket (cidBytes packet.cid ++ seqCnt ::
        packet.payload.bytes dataPtr (min lenRemain (hidU2fPacketLen - 5)))) random)
    rw [same (fun stray => absurd stray.2.2 (Nat.ne_of_gt holds.1))]
    simp only [Reassembly.stepEvent, lenCur] at next ⊢
    rw [step_continuation (by omega) (by omega) (by omega) low] at next ⊢
    rw [Reassembly.deliver, ByteMemory.bytes_length] at next ⊢
    by_cases complete : dataPtr + min lenRemain 59 = packet.len
    · have rest : lenRemain - min lenRemain 59 = 0 := by omega
      rw [if_pos complete, complete, rest, sendContinuations_done]
      rfl
    · rw [if_neg complete] at next ⊢
      have number : (seqCnt + 1#8).toNat = seqCnt.toNat + 1 := by
        exact Nat.mod_eq_of_lt (by simp; omega)
      exact ih next (by omega) (by omega) (by omega) (by omega)

/-- **A message comes through once.** Its packets, split as a response is split, have the
worker process just the message, whatever it has received before. -/
theorem requests_of_message {worker : U2fHid υ} {pending : Option Reassembly.Pending}
    (holds : Holds worker pending) (kind : packet.cmd &&& u2fHidTypeMask = u2fHidTypeInit)
    (small : packet.len ≤ u2fHidMaxPayloadLen) (random : BitVec 32) :
    requests layer worker ((u2fHidSendResponse packet).map (.request · random)) =
      [packet.request] := by
  rw [u2fHidSendResponse, List.map_cons, requests_cons]
  have lenCur : min packet.len (hidU2fPacketLen - 7) = min packet.len 57 := rfl
  obtain ⟨next, same, -⟩ := worker_reassembles layer holds (.request (fillPacket (cidBytes packet.cid ++
      packet.cmd :: BitVec.ofNat 8 (packet.len >>> 8) :: BitVec.ofNat 8 packet.len ::
        packet.payload.bytes 0 (min packet.len (hidU2fPacketLen - 7)))) random)
  rw [same (fun stray => by
    have continuation := stray.2.1
    rw [packetIsInit, decide_eq_false_iff_not] at continuation
    exact continuation kind)]
  simp only [Reassembly.stepEvent, lenCur] at next ⊢
  rw [step_initial (by omega) (by omega) (by omega) kind small] at next ⊢
  rw [Reassembly.deliver, ByteMemory.bytes_length] at next ⊢
  by_cases complete : min packet.len 57 = packet.len
  · rw [if_pos complete, complete, Nat.sub_self, sendContinuations_done]
    rfl
  · rw [if_neg complete] at next ⊢
    rw [u2fHidMaxPayloadLen] at small
    exact requests_continuations layer next (by omega) (by omega) (by omega)
      (by rw [BitVec.toNat_ofNat]; omega) random

end Message

theorem start_holds {υ : Type*} (u2fInst : υ) : Holds (u2fHidStart u2fInst) none := rfl

/-- **The transport keeps to its messages just if no packet is stray.** After any events a
message of any length comes through once; no store goes behind the payload buffer; and the
requests processed in a run are the messages its packets complete if and only if no packet
continues a message that is not pending. -/
theorem requests_are_messages {υ : Type*} (layer : MessageLayer υ) (u2fInst : υ) (events : List WorkerEvt) :
    (∀ (packet : U2fHidPacket) (random : BitVec 32),
        packet.cmd &&& u2fHidTypeMask = u2fHidTypeInit → packet.len ≤ u2fHidMaxPayloadLen →
        requests layer ((u2fHidWorker layer).run (u2fHidStart u2fInst) events).2
            ((u2fHidSendResponse packet).map (.request · random)) = [packet.request]) ∧
    (∀ place, u2fHidMaxPayloadLen ≤ place →
        ((u2fHidWorker layer).run (u2fHidStart u2fInst) events).2.packet.payload place =
          (u2fHidStart u2fInst).packet.payload place) ∧
    (requests layer (u2fHidStart u2fInst) events = Reassembly.messages none events ↔
      (u2fHidWorker layer).RunMeets Welcome (u2fHidStart u2fInst) events) := by
  refine ⟨?_, ?_, ?_⟩
  · intro packet random kind small
    obtain ⟨pending, holds⟩ := run_holds layer (start_holds u2fInst) events
    exact requests_of_message layer holds kind small random
  · intro place behind
    exact worker_within layer (start_holds u2fInst) events behind
  · obtain ⟨equal, -, more⟩ := requests_messages layer (start_holds u2fInst) events
    refine ⟨fun same => Classical.byContradiction fun unmet => ?_, equal⟩
    have longer := more unmet
    rw [same] at longer
    exact Nat.lt_irrefl _ longer

def silentLayer : MessageLayer Unit where
  u2fMsgParse _ buf _ := (0, buf, ())
  u2fWink := id
  u2fSetState u2fInstance _ := u2fInstance
  within _ _ _ _ _ := rfl

def longPing : U2fHidPacket := ⟨7#32, 60, u2fHidPing, fun place => BitVec.ofNat 8 place⟩

theorem long_ping_comes_through :
    requests silentLayer ((u2fHidWorker silentLayer).run (u2fHidStart ()) [.connect]).2
        ((u2fHidSendResponse longPing).map (.request · 0#32)) = [longPing.request] :=
  (requests_are_messages silentLayer () [.connect]).1 longPing 0#32 (by decide) (by decide)

/-- A ping of one byte, and a continuation packet after it. -/
def strayAfterPing : List WorkerEvt :=
  [.request (fillPacket [1#8, 0#8, 0#8, 0#8, u2fHidPing, 0#8, 1#8, 0xAB#8]) 0#32,
    .request (fillPacket [1#8, 0#8, 0#8, 0#8, 0#8]) 0#32]

/-- The continuation packet has the ping answered again. -/
theorem stray_packet_is_processed : requests silentLayer (u2fHidStart ()) strayAfterPing =
        [⟨1#32, u2fHidPing, 1, [0xAB#8]⟩, ⟨1#32, u2fHidPing, 1, [0xAB#8]⟩] ∧
      Reassembly.messages none strayAfterPing = [⟨1#32, u2fHidPing, 1, [0xAB#8]⟩] := by
  decide +kernel

end Xtreme.U2f
