import Xtreme.U2f.KeyHandles

/-! What a message leaves to chance (`u2f_msg_parse`). A message is stored over whatever the
buffer held, and a command looks at fields that a short message does not reach. -/
namespace Xtreme.U2f
open Library

/-- How many bytes of its buffer a token that is ready looks at. -/
def looksAt (system : U2fSystem) (buf : ByteMemory) (env : MessageEnv) : Nat :=
  if buf 1 = u2fCmdRegister ∧ env.dataCheck ∧ system.token.userPresent then 71
  else if buf 1 = u2fCmdAuthenticate ∧ env.dataCheck then
    if !system.token.userPresent && reqP1 buf = u2fEnforce then 3 else 136
  else 2

def Covers (system : U2fSystem) (bytes : Bytes) (env : MessageEnv) : Prop :=
  let buf := ByteMemory.store (fun _ => 0#8) 0 bytes
  system.token.ready = false ∨ 0 < bytes.length ∧
    (buf 0 ≠ 0x00#8 ∧ bytes.length < 5 ∨ looksAt system buf env ≤ bytes.length)

instance (system : U2fSystem) (bytes : Bytes) (env : MessageEnv) : Decidable (Covers system bytes env) :=
  inferInstanceAs (Decidable (_ ∨ _ ∧ (_ ∨ _)))

/-- What happens to a token and its buffer. -/
inductive BufferedEvent
  | message (bytes : Bytes) (env : MessageEnv) (nonce : env.nonce.length = 32)
  | confirm
  | setState
  | restart (env : InitEnv)

def BufferedEvent.Covered (system : U2fSystem) : BufferedEvent → Prop
  | .message bytes env _ => Covers system bytes env
  | _ => True

instance (system : U2fSystem) : (event : BufferedEvent) → Decidable (event.Covered system)
  | .message bytes env _ => inferInstanceAs (Decidable (Covers system bytes env))
  | .confirm | .setState | .restart _ => inferInstanceAs (Decidable True)

/-- The bytes that are sent. -/
def U2fAnswer.response (answer : U2fAnswer) : Bytes := answer.buf.bytes 0 answer.size.toNat

section Runs
variable (crypto : Crypto) (enclave : Enclave)

def bufferedToken : Machine (U2fSystem × ByteMemory) BufferedEvent Bytes
  | (system, buf), .message bytes env _ =>
    let (answer, system) := u2fMsgParseInBuffer crypto enclave system (buf.store 0 bytes) bytes.length env
    (answer.response, system, answer.buf)
  | (system, buf), .confirm => ([], { system with token := u2fConfirmUserPresent system.token }, buf)
  | (system, buf), .setState => ([], { system with token := u2fSetState system.token }, buf)
  | (system, buf), .restart env => ([], (u2fInit enclave system.cntFile env).2, buf)

variable {crypto} {system : U2fSystem} {buf other : ByteMemory} {env : MessageEnv}

theorem bytes_congr {offset size length : Nat} (same : ∀ place < length, buf place = other place)
    (inside : offset + size ≤ length) : buf.bytes offset size = other.bytes offset size := by
  refine List.map_congr_left fun place here => same _ ?_
  have := List.mem_range.mp here
  omega

/-- The answer depends on no other bytes. -/
theorem u2fMsgParse_congr {length : Nat} (same : ∀ place < length, buf place = other place)
    (covers : system.token.ready = false ∨ 0 < length ∧
      (buf 0 ≠ 0x00#8 ∧ length < 5 ∨ looksAt system buf env ≤ length)) :
    u2fMsgParse crypto enclave system buf length env = u2fMsgParse crypto enclave system other length env := by
  rw [u2fMsgParse, u2fMsgParse]
  rcases covers with idle | ⟨some, covers⟩
  · rw [idle]
    rfl
  rw [← same 0 some]
  rcases covers with short | covers
  · rw [if_pos short, if_pos short]
  have two : 2 ≤ looksAt system buf env := by
    rw [looksAt]
    split_ifs <;> decide
  rw [← same 1 (Nat.le_trans two covers)]
  have fields (all : 71 ≤ length) : reqAppId buf = reqAppId other ∧ reqChallenge buf = reqChallenge other :=
    ⟨bytes_congr same all, bytes_congr same (by omega)⟩
  by_cases register : buf 1 = u2fCmdRegister
  · have equal : u2fRegister crypto system buf env = u2fRegister crypto system other env := by
      rw [u2fRegister, u2fRegister]
      by_cases reads : env.dataCheck ∧ system.token.userPresent
      · rw [looksAt, if_pos ⟨register, reads⟩] at covers
        rw [(fields covers).1, (fields covers).2]
      · cases check : env.dataCheck with
        | false => rfl
        | true =>
          cases present : system.token.userPresent with
          | false => rfl
          | true => exact absurd ⟨check, present⟩ reads
    rw [if_pos register, if_pos register, equal]
  rw [if_neg register, if_neg register]
  by_cases authenticate : buf 1 = u2fCmdAuthenticate
  · have equal : u2fAuthenticate crypto enclave system buf env = u2fAuthenticate crypto enclave system other env := by
      rw [u2fAuthenticate, u2fAuthenticate]
      cases check : env.dataCheck with
      | false => rfl
      | true =>
        rw [looksAt, if_neg (fun all => register all.1), if_pos ⟨authenticate, check⟩] at covers
        have three : 3 ≤ length := by
          refine Nat.le_trans ?_ covers
          split <;> decide
        have p1 : reqP1 buf = reqP1 other := same 2 three
        rw [← p1]
        split at covers
        · next missing => simp only [missing, if_true]
        · have handle : reqHandleHash buf = reqHandleHash other ∧ reqHandleNonce buf = reqHandleNonce other :=
            ⟨bytes_congr same (by omega), bytes_congr same covers⟩
          rw [(fields (by omega)).1, (fields (by omega)).2, handle.1, handle.2]
    rw [if_pos authenticate, if_pos authenticate, equal]
  · rw [if_neg authenticate, if_neg authenticate]

theorem answer_response (reply : U2fReply) : (reply.answer buf).response =
    reply.bytes.take (BitVec.ofNat 16 reply.bytes.length).toNat := by
  have part := @ByteMemory.bytes_stored buf 0 reply.bytes 0 (BitVec.ofNat 16 reply.bytes.length).toNat
    (by rw [Nat.zero_add]; exact Nat.mod_le _ _)
  rwa [] at part

theorem store_same (bytes : Bytes) : ∀ place < bytes.length,
    ByteMemory.store buf 0 bytes place = ByteMemory.store other 0 bytes place := by
  intro place inside
  have held := List.getElem?_eq_getElem inside
  rw [ByteMemory.store_inside _ (Nat.zero_le _) held, ByteMemory.store_inside _ (Nat.zero_le _) held]

theorem bufferedToken_agrees (sized : crypto.Sized) : Machine.StepAgrees (bufferedToken crypto enclave)
    (bufferedToken crypto enclave) (fun state event => event.Covered state.1) fun state other => state.1 = other.1 := by
  rintro ⟨system, buf⟩ ⟨_, other⟩ event rfl covered
  cases event with
  | message bytes env nonce =>
    have equal (buf : ByteMemory) : u2fMsgParse crypto enclave system (buf.store 0 bytes) bytes.length env =
        u2fMsgParse crypto enclave system (ByteMemory.store (fun _ => 0#8) 0 bytes) bytes.length env :=
      (u2fMsgParse_congr enclave (store_same bytes) covered).symm
    dsimp only [bufferedToken]
    rw [u2fMsgParseInBuffer_eq enclave sized nonce, u2fMsgParseInBuffer_eq enclave sized nonce, equal buf, equal other]
    exact ⟨(answer_response _).trans (answer_response _).symm, rfl⟩
  | confirm => exact ⟨rfl, rfl⟩
  | setState => exact ⟨rfl, rfl⟩
  | restart env => exact ⟨rfl, rfl⟩

/-- **No stale byte takes part** in runs of messages with all the bytes that are looked at. -/
theorem responses_ignore_buffer (sized : crypto.Sized) (system : U2fSystem) (buf other : ByteMemory)
    {events : List BufferedEvent} (covered : Machine.RunMeets (bufferedToken crypto enclave)
      (fun state event => event.Covered state.1) (system, buf) events) :
    (Machine.run (bufferedToken crypto enclave) (system, buf) events).1 =
        (Machine.run (bufferedToken crypto enclave) (system, other) events).1 ∧
      (Machine.run (bufferedToken crypto enclave) (system, buf) events).2.1.token.counter =
        (Machine.run (bufferedToken crypto enclave) (system, other) events).2.1.token.counter := by
  obtain ⟨responses, final⟩ := Machine.run_agrees (bufferedToken_agrees enclave sized) (s := (system, buf))
    (t := (system, other)) rfl covered
  exact ⟨responses, congrArg (fun system => system.token.counter) final⟩

end Runs

def workingEnv : MessageEnv := ⟨true, List.replicate 32 9#8, 0, [], ⟨[], [], .written⟩⟩

/-- A registration with all its fields. -/
theorem whole_registration_ignores_buffer :
    (Machine.run (bufferedToken shortCrypto plainEnclave) (presentToken, fun _ => 5#8)
      [.message (0x00#8 :: 0x01#8 :: List.replicate 69 3#8) workingEnv rfl]).1 =
    (Machine.run (bufferedToken shortCrypto plainEnclave) (presentToken, fun _ => 6#8)
      [.message (0x00#8 :: 0x01#8 :: List.replicate 69 3#8) workingEnv rfl]).1 ∧
    (Machine.run (bufferedToken shortCrypto plainEnclave) (presentToken, fun _ => 5#8)
      [.message (0x00#8 :: 0x01#8 :: List.replicate 69 3#8) workingEnv rfl]).2.1.token.counter =
    (Machine.run (bufferedToken shortCrypto plainEnclave) (presentToken, fun _ => 6#8)
      [.message (0x00#8 :: 0x01#8 :: List.replicate 69 3#8) workingEnv rfl]).2.1.token.counter :=
  responses_ignore_buffer plainEnclave shortCrypto_sized presentToken (fun _ => 5#8) (fun _ => 6#8)
    ⟨by decide +kernel, trivial⟩

/-- A registration of two bytes takes its application from what the buffer held. -/
theorem short_registration_takes_stale :
    (Machine.run (bufferedToken shortCrypto plainEnclave) (presentToken, fun _ => 5#8)
      [.message [0x00#8, 0x01#8] workingEnv rfl]).1 ≠
    (Machine.run (bufferedToken shortCrypto plainEnclave) (presentToken, fun _ => 6#8)
      [.message [0x00#8, 0x01#8] workingEnv rfl]).1 := by
  decide +kernel

end Xtreme.U2f
