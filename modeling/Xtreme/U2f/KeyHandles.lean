import Xtreme.U2f.TokenRuns

/-! Key handles (`u2f_register`, `u2f_authenticate` on their buffer). A response is written
over the request it answers, and both commands derive the private key of an application on
their own. The bytes that a command leaves are the reply that its request asks for
(`u2fMsgParseInBuffer_eq`), and a key handle that one of them gives away the other one takes. -/
namespace Xtreme.U2f
open Library

/-- What a command leaves: how many bytes to send, and the buffer. -/
structure U2fAnswer where
  size : BitVec 16
  buf : ByteMemory

/-- A status in place of a response. -/
def statusInBuffer (buf : ByteMemory) (state : Bytes) : U2fAnswer := ⟨2#16, buf.store 0 state⟩

section Handlers
variable (crypto : Crypto) (enclave : Enclave)

/-- `u2f_register` with its stores. `U2fRegisterResp` has its key handle at 66 and the
certificate at 131. -/
def u2fRegisterInBuffer (system : U2fSystem) (buf : ByteMemory) (env : MessageEnv) :
    U2fAnswer × U2fSystem :=
  let token := system.token
  if !env.dataCheck then
    (statusInBuffer buf stateNotSupported, { system with token := { token with ready := false } })
  else if !token.userPresent then (statusInBuffer buf stateUserMissing, system)
  else
    let token := { token with userPresent := false }
    let privateKey := crypto.hmac token.deviceKey (reqAppId buf ++ env.nonce)
    let handleHash := crypto.hmac token.deviceKey (privateKey ++ reqAppId buf)
    let pubKey := crypto.publicKey privateKey
    let hash := crypto.sha256 (0#8 :: reqAppId buf ++ reqChallenge buf ++ (handleHash ++ env.nonce) ++ pubKey)
    let signature := crypto.sign token.certKey hash env.random
    let buf := buf.store 0 [0x05#8]
    let buf := buf.store 1 pubKey
    let buf := buf.store 66 (0x40#8 :: handleHash ++ env.nonce)
    let certLen := env.cert.length
    let buf := buf.store 131 env.cert
    let signatureLen := (u2fDerEncodeSignature signature).length
    let buf := buf.store (131 + certLen) (u2fDerEncodeSignature signature)
    let buf := buf.store (131 + certLen + signatureLen) stateNoError
    (⟨BitVec.ofNat 16 (131 + certLen + signatureLen + 2), buf⟩, { system with token })

def u2fAuthenticateInBuffer (system : U2fSystem) (buf : ByteMemory) (env : MessageEnv) :
    U2fAnswer × U2fSystem :=
  let token := system.token
  if !env.dataCheck then
    (statusInBuffer buf stateNotSupported, { system with token := { token with ready := false } })
  else
    let flags := if token.userPresent then 1#8 else 0#8
    if !token.userPresent && reqP1 buf = u2fEnforce then (statusInBuffer buf stateUserMissing, system)
    else
      let token := { token with userPresent := false }
      let counter := token.counter + 1#32
      let hash := crypto.sha256 (reqAppId buf ++ flags :: bigEndian counter ++ reqChallenge buf)
      let privKey := crypto.hmac token.deviceKey (reqAppId buf ++ reqHandleNonce buf)
      let macControl := crypto.hmac token.deviceKey (privKey ++ reqAppId buf)
      if reqHandleHash buf ≠ macControl then (statusInBuffer buf stateWrongData, { system with token })
      else if reqP1 buf = u2fCheckOnly then (statusInBuffer buf stateUserMissing, { system with token })
      else
        let signature := crypto.sign privKey hash env.random
        let buf := buf.store 0 [flags]
        let buf := buf.store 1 (bigEndian counter)
        let signatureLen := (u2fDerEncodeSignature signature).length
        let buf := buf.store 5 (u2fDerEncodeSignature signature)
        let buf := buf.store (5 + signatureLen) stateNoError
        let token := { token with counter }
        let (_, cntFile) := u2fDataCntWrite enclave system.cntFile token.counter env.cntWrite
        (⟨BitVec.ofNat 16 (5 + signatureLen + 2), buf⟩, ⟨token, cntFile⟩)

def u2fMsgParseInBuffer (system : U2fSystem) (buf : ByteMemory) (len : Nat) (env : MessageEnv) :
    U2fAnswer × U2fSystem :=
  if !system.token.ready then (⟨0#16, buf⟩, system)
  else if buf 0 ≠ 0x00#8 ∧ len < 5 then (⟨0#16, buf⟩, system)
  else if buf 1 = u2fCmdRegister then u2fRegisterInBuffer crypto system buf env
  else if buf 1 = u2fCmdAuthenticate then u2fAuthenticateInBuffer crypto enclave system buf env
  else if buf 1 = u2fCmdVersion then (⟨8#16, (buf.store 0 verStr).store 6 stateNoError⟩, system)
  else (statusInBuffer buf stateNotSupported, system)

/-- The sizes of what the cryptographic library returns: those of its buffers. -/
structure Crypto.Sized : Prop where
  hmac : ∀ key data, (crypto.hmac key data).length = 32
  publicKey : ∀ privateKey, (crypto.publicKey privateKey).length = 65

/-- A reply as it is left in the buffer of its request. -/
def U2fReply.answer (reply : U2fReply) (buf : ByteMemory) : U2fAnswer :=
  ⟨BitVec.ofNat 16 reply.bytes.length, buf.store 0 reply.bytes⟩

theorem store_behind {buf : ByteMemory} {offset : Nat} {first : Bytes} (here : first.length = offset) (second : Bytes) :
    (buf.store 0 first).store offset second = buf.store 0 (first ++ second) := by
  have joined := ByteMemory.store_append buf 0 first second
  rwa [Nat.zero_add, here] at joined

theorem registered_answer {pubKey hash nonce : Bytes} (keySize : pubKey.length = 65) (hashSize : hash.length = 32)
    (nonceSize : nonce.length = 32) (cert signature : Bytes) (buf : ByteMemory) :
    (U2fReply.registered pubKey hash nonce cert signature).answer buf =
      ⟨BitVec.ofNat 16 (131 + cert.length + (u2fDerEncodeSignature signature).length + 2),
        ((((((buf.store 0 [0x05#8]).store 1 pubKey).store 66 (0x40#8 :: hash ++ nonce)).store 131 cert).store
          (131 + cert.length) (u2fDerEncodeSignature signature)).store
          (131 + cert.length + (u2fDerEncodeSignature signature).length) stateNoError)⟩ := by
  have size : (U2fReply.registered pubKey hash nonce cert signature).bytes.length =
      131 + cert.length + (u2fDerEncodeSignature signature).length + 2 := by
    simp [U2fReply.bytes, stateNoError]
    omega
  rw [U2fReply.answer, size, store_behind, store_behind, store_behind, store_behind, store_behind]
  · simp [U2fReply.bytes]
  all_goals simp []; try omega

theorem authenticated_answer (flags : BitVec 8) (counter : BitVec 32) (signature : Bytes) (buf : ByteMemory) :
    (U2fReply.authenticated flags counter signature).answer buf =
      ⟨BitVec.ofNat 16 (5 + (u2fDerEncodeSignature signature).length + 2),
        (((buf.store 0 [flags]).store 1 (bigEndian counter)).store 5 (u2fDerEncodeSignature signature)).store
          (5 + (u2fDerEncodeSignature signature).length) stateNoError⟩ := by
  have size : (U2fReply.authenticated flags counter signature).bytes.length =
      5 + (u2fDerEncodeSignature signature).length + 2 := by
    simp [U2fReply.bytes, bigEndian, stateNoError]
    omega
  rw [U2fReply.answer, size, store_behind, store_behind, store_behind]
  · simp [U2fReply.bytes]
  all_goals simp [bigEndian]; try omega

variable {crypto} {system : U2fSystem} {buf : ByteMemory} {env : MessageEnv}

/-- No field of a registration request is needed once its response is begun. -/
theorem u2fRegisterInBuffer_eq (sized : crypto.Sized) (nonce : env.nonce.length = 32) :
    u2fRegisterInBuffer crypto system buf env =
      ((u2fRegister crypto system buf env).1.answer buf, (u2fRegister crypto system buf env).2) := by
  rw [u2fRegisterInBuffer, u2fRegister]
  split
  · rfl
  split
  · rfl
  rw [registered_answer (sized.publicKey _) (sized.hmac _ _) nonce]

/-- No field of an authentication request is needed once its response is begun. -/
theorem u2fAuthenticateInBuffer_eq : u2fAuthenticateInBuffer crypto enclave system buf env =
    ((u2fAuthenticate crypto enclave system buf env).1.answer buf,
      (u2fAuthenticate crypto enclave system buf env).2) := by
  rw [u2fAuthenticateInBuffer, u2fAuthenticate]
  dsimp only
  split
  · rfl
  split
  · rfl
  split
  · rfl
  split
  · rfl
  rw [authenticated_answer]

/-- **A command leaves the bytes of its reply.** That response and request share a buffer
makes no difference. -/
theorem u2fMsgParseInBuffer_eq (sized : crypto.Sized) (nonce : env.nonce.length = 32) (len : Nat) :
    u2fMsgParseInBuffer crypto enclave system buf len env =
      ((u2fMsgParse crypto enclave system buf len env).1.answer buf,
        (u2fMsgParse crypto enclave system buf len env).2) := by
  rw [u2fMsgParseInBuffer, u2fMsgParse]
  split
  · rfl
  split
  · rfl
  split
  · exact u2fRegisterInBuffer_eq sized nonce
  split
  · exact u2fAuthenticateInBuffer_eq enclave
  split
  · rw [store_behind (show verStr.length = 6 from rfl)]
    rfl
  · rfl

/-- The answer ends with `state_no_error`. -/
def U2fAnswer.Succeeds (answer : U2fAnswer) : Prop := answer.buf.bytes (answer.size.toNat - 2) 2 = stateNoError

instance (answer : U2fAnswer) : Decidable answer.Succeeds :=
  inferInstanceAs (Decidable (answer.buf.bytes (answer.size.toNat - 2) 2 = stateNoError))

theorem status_fails {state : Bytes} (twoBytes : state.length = 2) (error : state ≠ stateNoError) :
    ¬ (statusInBuffer buf state).Succeeds := by
  intro succeeds
  have held : (buf.store 0 state).bytes (0 + 0) 2 = (state.drop 0).take 2 := ByteMemory.bytes_stored (by omega)
  rw [List.drop_zero, List.take_of_length_le (Nat.le_of_eq twoBytes)] at held
  exact error (held.symm.trans succeeds)

def privateKeyOf (crypto : Crypto) (deviceKey appId nonce : Bytes) : Bytes := crypto.hmac deviceKey (appId ++ nonce)

def handleHashOf (crypto : Crypto) (deviceKey privateKey appId : Bytes) : Bytes :=
  crypto.hmac deviceKey (privateKey ++ appId)

/-- The reply to a request with a handle that is accepted: a signature, unless the token's
files are gone, the user is needed and missing, or the request asks for the check only. -/
def acceptedReply (crypto : Crypto) (privateKey : Bytes) (system : U2fSystem) (buf : ByteMemory)
    (env : MessageEnv) : U2fReply :=
  let flags := if system.token.userPresent then 1#8 else 0#8
  let counter := system.token.counter + 1#32
  if !env.dataCheck then .status stateNotSupported
  else if !system.token.userPresent && reqP1 buf = u2fEnforce then .status stateUserMissing
  else if reqP1 buf = u2fCheckOnly then .status stateUserMissing
  else .authenticated flags counter
    (crypto.sign privateKey (crypto.sha256 (reqAppId buf ++ flags :: bigEndian counter ++ reqChallenge buf)) env.random)

theorem u2fAuthenticate_accepts {privateKey : Bytes}
    (derived : privateKey = privateKeyOf crypto system.token.deviceKey (reqAppId buf) (reqHandleNonce buf))
    (handle : reqHandleHash buf = handleHashOf crypto system.token.deviceKey privateKey (reqAppId buf)) :
    (u2fAuthenticate crypto enclave system buf env).1 = acceptedReply crypto privateKey system buf env := by
  rw [handleHashOf, derived, privateKeyOf] at handle
  rw [u2fAuthenticate, acceptedReply, derived]
  dsimp only
  split
  · rfl
  split
  · rfl
  rw [if_neg (not_not_intro handle)]
  split <;> rfl

section Fields
variable {pubKey hash nonce : Bytes} (keySize : pubKey.length = 65) (hashSize : hash.length = 32)
  (nonceSize : nonce.length = 32) (cert signature : Bytes) (buf : ByteMemory)
include keySize

theorem registered_publicKey :
    ((U2fReply.registered pubKey hash nonce cert signature).answer buf).buf.bytes 1 65 = pubKey := by
  have split : (U2fReply.registered pubKey hash nonce cert signature).bytes = [0x05#8] ++ (pubKey ++ (0x40#8 :: hash ++
      nonce ++ cert ++ u2fDerEncodeSignature signature ++ stateNoError)) := by
    simp [U2fReply.bytes]
  rw [U2fReply.answer]
  rw [split, ByteMemory.bytes_part (show 0 + [0x05#8].length = 1 from rfl) keySize]

include hashSize

theorem registered_hash :
    ((U2fReply.registered pubKey hash nonce cert signature).answer buf).buf.bytes 67 32 = hash := by
  have split : (U2fReply.registered pubKey hash nonce cert signature).bytes = (0x05#8 :: pubKey ++ [0x40#8]) ++
      (hash ++ (nonce ++ cert ++ u2fDerEncodeSignature signature ++ stateNoError)) := by
    simp [U2fReply.bytes]
  have starts : 0 + (0x05#8 :: pubKey ++ [0x40#8]).length = 67 := by simp [keySize]
  rw [U2fReply.answer]
  rw [split, ByteMemory.bytes_part starts hashSize]

include nonceSize

theorem registered_nonce :
    ((U2fReply.registered pubKey hash nonce cert signature).answer buf).buf.bytes 99 32 = nonce := by
  have split : (U2fReply.registered pubKey hash nonce cert signature).bytes = (0x05#8 :: pubKey ++ 0x40#8 :: hash) ++
      (nonce ++ (cert ++ u2fDerEncodeSignature signature ++ stateNoError)) := by
    simp [U2fReply.bytes]
  have starts : 0 + (0x05#8 :: pubKey ++ 0x40#8 :: hash).length = 99 := by simp [keySize, hashSize]
  rw [U2fReply.answer]
  rw [split, ByteMemory.bytes_part starts nonceSize]

end Fields

structure Registers (crypto : Crypto) (deviceKey appId nonce : Bytes) (response : ByteMemory) : Prop where
  publicKey : response.bytes 1 65 = crypto.publicKey (privateKeyOf crypto deviceKey appId nonce)
  hash : response.bytes 67 32 = handleHashOf crypto deviceKey (privateKeyOf crypto deviceKey appId nonce) appId
  nonce : response.bytes 99 32 = nonce

theorem u2fRegisterInBuffer_registers (sized : crypto.Sized) (nonce : env.nonce.length = 32)
    (succeeds : (u2fRegisterInBuffer crypto system buf env).1.Succeeds) :
    Registers crypto system.token.deviceKey (reqAppId buf) env.nonce
      (u2fRegisterInBuffer crypto system buf env).1.buf := by
  rw [u2fRegisterInBuffer] at succeeds
  split at succeeds
  · exact absurd succeeds (status_fails rfl (by decide))
  rename_i files
  split at succeeds
  · exact absurd succeeds (status_fails rfl (by decide))
  rename_i present
  rw [u2fRegisterInBuffer_eq sized nonce, u2fRegister]
  rw [if_neg files, if_neg present]
  have keySize := sized.publicKey (privateKeyOf crypto system.token.deviceKey (reqAppId buf) env.nonce)
  have hashSize := sized.hmac system.token.deviceKey
    (privateKeyOf crypto system.token.deviceKey (reqAppId buf) env.nonce ++ reqAppId buf)
  exact ⟨registered_publicKey keySize .., registered_hash keySize hashSize .., registered_nonce keySize hashSize nonce ..⟩

/-- **Registered handles sign, and no others.** -/
theorem registered_handles_sign (sized : crypto.Sized) :
    (∀ (system later : U2fSystem) (buf auth : ByteMemory) (env env' : MessageEnv),
      env.nonce.length = 32 → (u2fRegisterInBuffer crypto system buf env).1.Succeeds →
      later.token.deviceKey = system.token.deviceKey → reqAppId auth = reqAppId buf →
      auth.bytes 72 64 = (u2fRegisterInBuffer crypto system buf env).1.buf.bytes 67 64 →
      ∃ privateKey, (u2fRegisterInBuffer crypto system buf env).1.buf.bytes 1 65 = crypto.publicKey privateKey ∧
        (u2fAuthenticateInBuffer crypto enclave later auth env').1 =
          (acceptedReply crypto privateKey later auth env').answer auth) ∧
    ∀ (system : U2fSystem) (auth : ByteMemory) (env : MessageEnv),
      auth.bytes 72 32 ≠ handleHashOf crypto system.token.deviceKey
        (privateKeyOf crypto system.token.deviceKey (reqAppId auth) (auth.bytes 104 32)) (reqAppId auth) →
      ∃ state ∈ [stateNotSupported, stateUserMissing, stateWrongData],
        (u2fAuthenticateInBuffer crypto enclave system auth env).1 = statusInBuffer auth state := by
  constructor
  · intro system later buf auth env env' nonce succeeds device appId handle
    have registers := u2fRegisterInBuffer_registers sized nonce succeeds
    rw [ByteMemory.bytes_append 72 32 32, ByteMemory.bytes_append 67 32 32] at handle
    obtain ⟨hash, nonce'⟩ := List.append_inj handle (by simp)
    rw [registers.hash] at hash
    rw [registers.nonce] at nonce'
    refine ⟨_, registers.publicKey, ?_⟩
    rw [u2fAuthenticateInBuffer_eq]
    refine congrArg (fun reply => reply.answer auth) (u2fAuthenticate_accepts enclave ?_ ?_)
    · rw [device, appId, reqHandleNonce, nonce']
    · rw [device, appId, reqHandleHash, hash]
  · intro system auth env other
    rw [u2fAuthenticateInBuffer]
    dsimp only
    split
    · exact ⟨_, List.mem_cons_self, rfl⟩
    split
    · exact ⟨stateUserMissing, by decide, rfl⟩
    split
    · exact ⟨stateWrongData, by decide, rfl⟩
    · rename_i same
      exact absurd other same

end Handlers

/-- Functions that keep the beginning of their input. -/
def shortCrypto : Crypto where
  hmac _ data := (data ++ List.replicate 32 0#8).take 32
  sha256 _ := List.replicate 32 0#8
  publicKey privateKey := 0x04#8 :: (privateKey ++ List.replicate 64 0#8).take 64
  sign key _ _ := (key ++ List.replicate 64 0#8).take 64

theorem shortCrypto_sized : shortCrypto.Sized := ⟨fun _ _ => by simp [shortCrypto], fun _ => by simp [shortCrypto]⟩

/-- A token whose user is there. -/
def presentToken : U2fSystem := ⟨⟨List.replicate 32 1#8, List.replicate 32 2#8, 0#32, true, true⟩, none⟩

/-- A registration for an application of fives. -/
def registration : U2fAnswer :=
  (u2fRegisterInBuffer shortCrypto presentToken (fun _ => 5#8)
    ⟨true, List.replicate 32 9#8, 0, [], ⟨[], [], .written⟩⟩).1

/-- A request for a signature for that application with the handle that it got. -/
def registeredRequest : ByteMemory := ByteMemory.store (fun _ => 5#8) 72 (registration.buf.bytes 67 64)

theorem registered_handle_signs_once :
    (∃ privateKey, registration.buf.bytes 1 65 = shortCrypto.publicKey privateKey ∧
      (u2fAuthenticateInBuffer shortCrypto plainEnclave presentToken registeredRequest
          ⟨true, [], 0, [], ⟨[], [], .written⟩⟩).1 =
        (acceptedReply shortCrypto privateKey presentToken registeredRequest
          ⟨true, [], 0, [], ⟨[], [], .written⟩⟩).answer registeredRequest) ∧
    ∃ state ∈ [stateNotSupported, stateUserMissing, stateWrongData],
      (u2fAuthenticateInBuffer shortCrypto plainEnclave presentToken (fun place => BitVec.ofNat 8 place)
        ⟨true, [], 0, [], ⟨[], [], .written⟩⟩).1 = statusInBuffer (fun place => BitVec.ofNat 8 place) state :=
  ⟨(registered_handles_sign plainEnclave shortCrypto_sized).1 presentToken presentToken (fun _ => 5#8) registeredRequest
      ⟨true, List.replicate 32 9#8, 0, [], ⟨[], [], .written⟩⟩ ⟨true, [], 0, [], ⟨[], [], .written⟩⟩ rfl
      (by decide +kernel) rfl (by decide +kernel) (by decide +kernel),
    (registered_handles_sign plainEnclave shortCrypto_sized).2 presentToken (fun place => BitVec.ofNat 8 place)
      ⟨true, [], 0, [], ⟨[], [], .written⟩⟩ (by decide +kernel)⟩

end Xtreme.U2f
