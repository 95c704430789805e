import Xtreme.Library.ByteMemory
import Xtreme.Library.Simulation
import Xtreme.U2f.U2fData

/-! The U2F token (`u2f.c`): registration and authentication requests, each of which a user
may have to confirm, and the counter that every signature carries. The cryptographic
functions are parameters; certificate and keys enter with what loading them yields. -/
namespace Xtreme.U2f
open Library

def u2fCmdRegister : BitVec 8 := 0x01#8
def u2fCmdAuthenticate : BitVec 8 := 0x02#8
def u2fCmdVersion : BitVec 8 := 0x03#8

def u2fCheckOnly : BitVec 8 := 0x07#8
def u2fEnforce : BitVec 8 := 0x03#8

/-- `ver_str`: "U2F_V2". -/
def verStr : List (BitVec 8) := [0x55#8, 0x32#8, 0x46#8, 0x5F#8, 0x56#8, 0x32#8]

def stateNoError : List (BitVec 8) := [0x90#8, 0x00#8]
def stateNotSupported : List (BitVec 8) := [0x6D#8, 0x00#8]
def stateUserMissing : List (BitVec 8) := [0x69#8, 0x85#8]
def stateWrongData : List (BitVec 8) := [0x6A#8, 0x80#8]

abbrev Bytes := List (BitVec 8)

/-- The functions of the cryptographic library. A signature is the 64 bytes of r and s. -/
structure Crypto where
  hmac : (key data : Bytes) → Bytes
  sha256 : Bytes → Bytes
  publicKey : (privateKey : Bytes) → Bytes
  sign : (key hash : Bytes) → (random : Nat) → Bytes

structure U2fData where
  deviceKey : Bytes
  certKey : Bytes
  counter : BitVec 32
  ready : Bool
  userPresent : Bool

def u2fAlloc : U2fData := ⟨[], [], 0#32, false, false⟩

/-- What a start of the token finds on the card and in the enclave. -/
structure InitEnv where
  certCheck : Bool
  certKeyLoad : Option Bytes
  keyLoad : Option Bytes
  keyGenerate : Option Bytes
  cntRead : CounterWrite
  cntWrite : CounterWrite

/-- What a message finds besides the token's own state. -/
structure MessageEnv where
  dataCheck : Bool
  nonce : Bytes
  random : Nat
  cert : Bytes
  cntWrite : CounterWrite

/-- The token and the counter file behind it. -/
structure U2fSystem where
  token : U2fData
  cntFile : Option CounterFile

variable (crypto : Crypto) (enclave : Enclave)

/-- The counter a token starts with, or nothing if it cannot be written. -/
def u2fInitCounter (file : Option CounterFile) (env : InitEnv) :
    Option (BitVec 32) × Option CounterFile :=
  match u2fDataCntRead enclave file env.cntRead with
  | (some counter, file) => (some counter, file)
  | (none, file) =>
    let (state, file) := u2fDataCntWrite enclave file 0#32 env.cntWrite
    (if state then some 0#32 else none, file)

/-- Start a token on the given counter file. -/
def u2fInit (file : Option CounterFile) (env : InitEnv) : Bool × U2fSystem :=
  if !env.certCheck then (false, ⟨u2fAlloc, file⟩)
  else
    match env.certKeyLoad with
    | none => (false, ⟨u2fAlloc, file⟩)
    | some certKey =>
      let token := { u2fAlloc with certKey }
      match env.keyLoad <|> env.keyGenerate with
      | none => (false, ⟨token, file⟩)
      | some deviceKey =>
        let token := { token with deviceKey }
        match u2fInitCounter enclave file env with
        | (none, file) => (false, ⟨token, file⟩)
        | (some counter, file) => (true, ⟨{ token with counter, ready := true }, file⟩)

def u2fConfirmUserPresent (token : U2fData) : U2fData := { token with userPresent := true }

def u2fSetState (token : U2fData) : U2fData := { token with userPresent := false }

/-- An integer of a signature: without leading zeros, but with one where it would be negative. -/
def u2fDerEncodeInt : (val : Bytes) → (valLen : Nat) → Bytes
  | val, 0 =>
    let sign : Bytes := if 0x7F < (val.headD 0#8).toNat then [0#8] else []
    [0x02#8, BitVec.ofNat 8 sign.length] ++ sign
  | val, valLen + 1 =>
    if val.headD 0#8 = 0#8 then u2fDerEncodeInt val.tail valLen
    else
      let sign : Bytes := if 0x7F < (val.headD 0#8).toNat then [0#8] else []
      [0x02#8, BitVec.ofNat 8 (sign.length + (valLen + 1))] ++ sign ++ val.take (valLen + 1)

def u2fDerEncodeSignature (sig : Bytes) : Bytes :=
  let ints := u2fDerEncodeInt sig 32 ++ u2fDerEncodeInt (sig.drop 32) 32
  [0x30#8, BitVec.ofNat 8 ints.length] ++ ints

/-- `lfs_tobe32`: the bytes of a word, the most significant first. -/
def bigEndian (word : BitVec 32) : Bytes :=
  [word.extractLsb' 24 8, word.extractLsb' 16 8, word.extractLsb' 8 8, word.extractLsb' 0 8]

/-- How a message is answered. -/
inductive U2fReply
  | nothing
  | status (state : Bytes)
  | version
  | registered (pubKey hash nonce cert signature : Bytes)
  | authenticated (userPresent : BitVec 8) (counter : BitVec 32) (signature : Bytes)

/-- The bytes of a response, from the start of the buffer. -/
def U2fReply.bytes : U2fReply → Bytes
  | .nothing => []
  | .status state => state
  | .version => verStr ++ stateNoError
  | .registered pubKey hash nonce cert signature =>
    0x05#8 :: pubKey ++ 0x40#8 :: hash ++ nonce ++ cert ++ u2fDerEncodeSignature signature ++ stateNoError
  | .authenticated userPresent counter signature =>
    userPresent :: bigEndian counter ++ u2fDerEncodeSignature signature ++ stateNoError

/-- The fields of a request. -/
def reqP1 (buf : ByteMemory) : BitVec 8 := buf 2
def reqChallenge (buf : ByteMemory) : Bytes := buf.bytes 7 32
def reqAppId (buf : ByteMemory) : Bytes := buf.bytes 39 32
def reqHandleHash (buf : ByteMemory) : Bytes := buf.bytes 72 32
def reqHandleNonce (buf : ByteMemory) : Bytes := buf.bytes 104 32

def u2fRegister (system : U2fSystem) (buf : ByteMemory) (env : MessageEnv) :
    U2fReply × U2fSystem :=
  let token := system.token
  if !env.dataCheck then
    (.status stateNotSupported, { system with token := { token with ready := false } })
  else if !token.userPresent then (.status stateUserMissing, system)
  else
    let token := { token with userPresent := false }
    let privateKey := crypto.hmac token.deviceKey (reqAppId buf ++ env.nonce)
    let hash := crypto.hmac token.deviceKey (privateKey ++ reqAppId buf)
    let pubKey := crypto.publicKey privateKey
    let signed :=
      crypto.sha256 (0#8 :: reqAppId buf ++ reqChallenge buf ++ (hash ++ env.nonce) ++ pubKey)
    (.registered pubKey hash env.nonce env.cert (crypto.sign token.certKey signed env.random),
      { system with token })

def u2fAuthenticate (system : U2fSystem) (buf : ByteMemory) (env : MessageEnv) :
    U2fReply × U2fSystem :=
  let token := system.token
  if !env.dataCheck then
    (.status stateNotSupported, { system with token := { token with ready := false } })
  else
    let flags := if token.userPresent then 1#8 else 0#8
    if !token.userPresent && reqP1 buf = u2fEnforce then (.status stateUserMissing, system)
    else
      let token := { token with userPresent := false }
      let counter := token.counter + 1#32
      let hash :=
        crypto.sha256 (reqAppId buf ++ flags :: bigEndian counter ++ reqChallenge buf)
      let privKey := crypto.hmac token.deviceKey (reqAppId buf ++ reqHandleNonce buf)
      let macControl := crypto.hmac token.deviceKey (privKey ++ reqAppId buf)
      if reqHandleHash buf ≠ macControl then (.status stateWrongData, { system with token })
      else if reqP1 buf = u2fCheckOnly then (.status stateUserMissing, { system with token })
      else
        let token := { token with counter }
        -- the result of the write is not looked at
        let (_, cntFile) := u2fDataCntWrite enclave system.cntFile token.counter env.cntWrite
        (.authenticated flags counter (crypto.sign privKey hash env.random), ⟨token, cntFile⟩)

/-- Answer a message in the buffer. -/
def u2fMsgParse (system : U2fSystem) (buf : ByteMemory) (len : Nat) (env : MessageEnv) :
    U2fReply × U2fSystem :=
  if !system.token.ready then (.nothing, system)
  else if buf 0 ≠ 0x00#8 ∧ len < 5 then (.nothing, system)
  else if buf 1 = u2fCmdRegister then u2fRegister crypto system buf env
  else if buf 1 = u2fCmdAuthenticate then u2fAuthenticate crypto enclave system buf env
  else if buf 1 = u2fCmdVersion then (.version, system)
  else (.status stateNotSupported, system)

/-- What happens to a token: a message, a confirmation by its user, a connection or its
end, and a restart. -/
inductive U2fEvent
  | message (buf : ByteMemory) (len : Nat) (env : MessageEnv)
  | confirm
  | setState
  | restart (env : InitEnv)

def u2fToken : Machine U2fSystem U2fEvent U2fReply
  | system, .message buf len env => u2fMsgParse crypto enclave system buf len env
  | system, .confirm => (.nothing, { system with token := u2fConfirmUserPresent system.token })
  | system, .setState => (.nothing, { system with token := u2fSetState system.token })
  | system, .restart env => (.nothing, (u2fInit enclave system.cntFile env).2)

end Xtreme.U2f
