import Mathlib.Tactic.ByContra
import Mathlib.Tactic.SplitIfs
import Xtreme.U2f.U2f

/-! The promises of the U2F token over whole runs. A confirmation is good for one
registration or signature (`presence_is_confirmed`), in every run. The counters of the
signatures increase (`counters_increase`) as long as a restart finds the counter that the
token had: a signature is sent whether or not its counter could be written, and after a
write that failed the next start goes back. -/
namespace Xtreme.U2f
open Library

def U2fReply.usesPresence : U2fReply → Bool
  | .registered .. => true
  | .authenticated userPresent _ _ => userPresent.getLsbD 0
  | _ => false

def U2fReply.signedCounter : U2fReply → Option Nat
  | .authenticated _ counter _ => some counter.toNat
  | _ => none

section Steps
variable (crypto : Crypto) (enclave : Enclave)

/-- A message that signs: the counter goes up by one, and its write may fail. -/
structure Signs (write : CounterWrite) (system next : U2fSystem) (reply : U2fReply) : Prop where
  counter : reply.signedCounter = some (system.token.counter + 1#32).toNat
  presence : reply.usesPresence = system.token.userPresent
  ready : system.token.ready = true
  token : next.token = { system.token with userPresent := false, counter := system.token.counter + 1#32 }
  file : next.cntFile = (u2fDataCntWrite enclave system.cntFile (system.token.counter + 1#32) write).2

/-- A message that does not sign leaves the counter and its file alone. -/
structure Leaves (system next : U2fSystem) (reply : U2fReply) : Prop where
  counter : reply.signedCounter = none
  presence : reply.usesPresence = true → system.token.userPresent = true ∧ next.token.userPresent = false
  spent : next.token.userPresent = true → system.token.userPresent = true
  ready : next.token.ready = true → system.token.ready = true
  same : next.token.counter = system.token.counter
  file : next.cntFile = system.cntFile

variable {system : U2fSystem}

theorem leaves_refl {reply : U2fReply} (counter : reply.signedCounter = none) (presence : reply.usesPresence = false) :
    Leaves system system reply :=
  ⟨counter, fun uses => absurd (presence.symm.trans uses) Bool.false_ne_true, id, id, rfl, rfl⟩

theorem u2fRegister_leaves (system : U2fSystem) (buf : ByteMemory) (env : MessageEnv) :
    Leaves system (u2fRegister crypto system buf env).2 (u2fRegister crypto system buf env).1 := by
  rw [u2fRegister]
  by_cases files : env.dataCheck
  · by_cases present : system.token.userPresent
    · simp only [files, present]
      exact ⟨rfl, fun _ => ⟨present, rfl⟩, fun spent => absurd spent Bool.false_ne_true, id, rfl, rfl⟩
    · simp only [files, present]
      exact leaves_refl rfl rfl
  · simp only [files]
    exact ⟨rfl, fun uses => absurd uses Bool.false_ne_true, id,
      fun ready => absurd ready Bool.false_ne_true, rfl, rfl⟩

theorem u2fAuthenticate_cases (system : U2fSystem) (ready : system.token.ready = true)
    (buf : ByteMemory) (env : MessageEnv) :
    Signs enclave env.cntWrite system (u2fAuthenticate crypto enclave system buf env).2
        (u2fAuthenticate crypto enclave system buf env).1 ∨
      Leaves system (u2fAuthenticate crypto enclave system buf env).2
        (u2fAuthenticate crypto enclave system buf env).1 := by
  rw [u2fAuthenticate]
  by_cases files : env.dataCheck
  · simp only [files]
    by_cases missing : (!system.token.userPresent && reqP1 buf = u2fEnforce) = true
    · rw [if_pos missing]
      exact .inr (leaves_refl rfl rfl)
    rw [if_neg missing]
    -- past the test for the user the confirmation is spent, whatever comes of the message
    by_cases other : reqHandleHash buf ≠ crypto.hmac system.token.deviceKey
        (crypto.hmac system.token.deviceKey (reqAppId buf ++ reqHandleNonce buf) ++ reqAppId buf)
    · rw [if_pos other]
      exact .inr ⟨rfl, fun uses => absurd uses Bool.false_ne_true,
        fun spent => absurd spent Bool.false_ne_true, id, rfl, rfl⟩
    rw [if_neg other]
    by_cases check : reqP1 buf = u2fCheckOnly
    · rw [if_pos check]
      exact .inr ⟨rfl, fun uses => absurd uses Bool.false_ne_true,
        fun spent => absurd spent Bool.false_ne_true, id, rfl, rfl⟩
    · rw [if_neg check]
      refine .inl ⟨rfl, ?_, ready, rfl, rfl⟩
      cases system.token.userPresent <;> rfl
  · simp only [files]
    exact .inr ⟨rfl, fun uses => absurd uses Bool.false_ne_true, id,
      fun ready => absurd ready Bool.false_ne_true, rfl, rfl⟩

/-- **What a message can do.** It signs, if it asks for that and the token is ready, or it
leaves the counter alone. -/
theorem u2fMsgParse_cases (system : U2fSystem) (buf : ByteMemory) (len : Nat) (env : MessageEnv) :
    (buf 1 = u2fCmdAuthenticate ∧
      Signs enclave env.cntWrite system (u2fMsgParse crypto enclave system buf len env).2
        (u2fMsgParse crypto enclave system buf len env).1) ∨
      Leaves system (u2fMsgParse crypto enclave system buf len env).2
        (u2fMsgParse crypto enclave system buf len env).1 := by
  rw [u2fMsgParse]
  by_cases ready : system.token.ready
  · simp only [ready, Bool.not_true, Bool.false_eq_true, if_false]
    split_ifs with short register authenticate version
    · exact .inr (leaves_refl rfl rfl)
    · exact .inr (u2fRegister_leaves crypto system buf env)
    · exact (u2fAuthenticate_cases crypto enclave system ready buf env).imp (fun signs => ⟨authenticate, signs⟩) id
    · exact .inr (leaves_refl rfl rfl)
    · exact .inr (leaves_refl rfl rfl)
  · simp only [ready]
    exact .inr (leaves_refl rfl rfl)

theorem presence_step (system : U2fSystem) (event : U2fEvent)
    (present : (u2fToken crypto enclave system event).2.token.userPresent = true) :
    event = .confirm ∨ system.token.userPresent = true ∧
      (u2fToken crypto enclave system event).1.usesPresence = false := by
  cases event with
  | confirm => exact .inl rfl
  | setState => exact absurd present Bool.false_ne_true
  | restart env =>
    have fresh : (u2fInit enclave system.cntFile env).2.token.userPresent = false := by
      rw [u2fInit]
      split_ifs
      · rfl
      · split
        · rfl
        · split
          · rfl
          · split <;> rfl
    exact absurd present (by simpa [u2fToken] using fresh)
  | message buf len env =>
    right
    obtain ⟨-, signs⟩ | leaves := u2fMsgParse_cases crypto enclave system buf len env
    · have cleared : (u2fMsgParse crypto enclave system buf len env).2.token.userPresent = false := by
        rw [signs.token]
      exact absurd present (by simpa [u2fToken] using cleared)
    · refine ⟨leaves.spent present, Bool.eq_false_iff.mpr fun uses => ?_⟩
      have cleared := (leaves.presence uses).2
      exact absurd present (by simpa [u2fToken] using cleared)

theorem presence_needed (system : U2fSystem) (event : U2fEvent)
    (uses : (u2fToken crypto enclave system event).1.usesPresence = true) :
    system.token.userPresent = true := by
  cases event with
  | message buf len env =>
    obtain ⟨-, signs⟩ | leaves := u2fMsgParse_cases crypto enclave system buf len env
    · exact signs.presence.symm.trans uses
    · exact (leaves.presence uses).1
  | _ => exact absurd uses Bool.false_ne_true

/-- While the flag is set, nothing has used it since it was set: by a confirmation in the
run, or before. -/
theorem present_since (events : List U2fEvent)
    (present : ((u2fToken crypto enclave).run system events).2.token.userPresent = true) :
    (system.token.userPresent = true ∧
      ∀ reply ∈ ((u2fToken crypto enclave).run system events).1, reply.usesPresence = false) ∨
    ∃ earlier since, events = earlier ++ .confirm :: since ∧ ∀ reply ∈ ((u2fToken crypto enclave).run
        ((u2fToken crypto enclave).run system (earlier ++ [.confirm])).2 since).1,
        reply.usesPresence = false := by
  induction events generalizing system with
  | nil => exact .inl ⟨present, fun reply none => absurd none List.not_mem_nil⟩
  | cons event events ih =>
    obtain ⟨set, unused⟩ | ⟨earlier, since, split, unused⟩ := ih present
    · obtain rfl | ⟨before, first⟩ := presence_step crypto enclave system event set
      · exact .inr ⟨[], events, rfl, unused⟩
      · refine .inl ⟨before, fun reply held => ?_⟩
        obtain rfl | later := List.mem_cons.mp held
        · exact first
        · exact unused reply later
    · exact .inr ⟨event :: earlier, since, by rw [split]; rfl, unused⟩

/-- **A confirmation is good for one use.** Every registration and every signature that
vouches for the user comes after a confirmation which nothing else has used. -/
theorem presence_is_confirmed (absent : system.token.userPresent = false) (events : List U2fEvent) (event : U2fEvent)
    (uses : (u2fToken crypto enclave ((u2fToken crypto enclave).run system events).2 event).1.usesPresence = true) :
    ∃ earlier since, events = earlier ++ .confirm :: since ∧ ∀ reply ∈ ((u2fToken crypto enclave).run
        ((u2fToken crypto enclave).run system (earlier ++ [.confirm])).2 since).1,
        reply.usesPresence = false := by
  have present := presence_needed crypto enclave _ event uses
  obtain ⟨set, -⟩ | confirmed := present_since crypto enclave events present
  · exact absurd set (by simp [absent])
  · exact confirmed

/-! ### Counters -/

/-- The counter that a start of the token would take from a file, 0 from an unreadable one. -/
def storedCounter (file : Option CounterFile) : Nat :=
  match counterBlock enclave file with
  | some (version, cnt) =>
    if version = u2fCounterVersionOld then (reverseBytes cnt.counter).toNat else cnt.counter.toNat
  | none => 0

/-- The file is not of the previous version. -/
def Current (file : Option CounterFile) : Prop :=
  ∀ version cnt, counterBlock enclave file = some (version, cnt) → version ≠ u2fCounterVersionOld

theorem counterBlock_written (iv : Bytes) (cnt : U2fCounterData) (control : cnt.control = u2fCounterControlVal) :
    counterBlock enclave (some ⟨some (u2fCounterFileType, u2fCounterVersion), some iv,
      some (enclave.encrypt iv cnt)⟩) = some (u2fCounterVersion, cnt) := by
  simp [counterBlock, enclave.decrypt_encrypt, control]

variable {file : Option CounterFile}

theorem write_current (current : Current enclave file) (cntVal : BitVec 32) (write : CounterWrite) :
    Current enclave (u2fDataCntWrite enclave file cntVal write).2 := by
  rw [u2fDataCntWrite]
  intro version cnt found
  cases outcome : write.outcome with
  | refused =>
    rw [outcome] at found
    exact current version cnt found
  | stopped lines =>
    rw [outcome] at found
    dsimp only at found
    by_cases whole : 3 ≤ lines
    · rw [if_pos whole, if_pos (by omega), if_pos (by omega),
        counterBlock_written enclave write.iv ⟨cntVal, write.randomSalt, u2fCounterControlVal⟩ rfl]
        at found
      obtain ⟨rfl, -⟩ := Prod.mk.inj (Option.some.inj found)
      decide
    · rw [if_neg whole] at found
      simp [counterBlock] at found
  | written =>
    rw [outcome, counterBlock_written enclave write.iv
      ⟨cntVal, write.randomSalt, u2fCounterControlVal⟩ rfl] at found
    obtain ⟨rfl, -⟩ := Prod.mk.inj (Option.some.inj found)
    decide

theorem written_current {cntVal : BitVec 32} {write : CounterWrite}
    (written : (u2fDataCntWrite enclave file cntVal write).1 = true) :
    Current enclave (u2fDataCntWrite enclave file cntVal write).2 := by
  rw [u2fDataCntWrite] at written ⊢
  intro version cnt found
  cases outcome : write.outcome with
  | refused =>
    rw [outcome] at written
    cases written
  | stopped lines =>
    rw [outcome] at written
    cases written
  | written =>
    rw [outcome, counterBlock_written enclave write.iv
      ⟨cntVal, write.randomSalt, u2fCounterControlVal⟩ rfl] at found
    obtain ⟨rfl, -⟩ := Prod.mk.inj (Option.some.inj found)
    decide

theorem u2fInitCounter_current {env : InitEnv} {counter : BitVec 32}
    (known : (u2fInitCounter enclave file env).1 = some counter) :
    Current enclave (u2fInitCounter enclave file env).2 := by
  have read : ∀ value, (u2fDataCntRead enclave file env.cntRead).1 = some value →
      Current enclave (u2fDataCntRead enclave file env.cntRead).2 := by
    intro value known
    rw [u2fDataCntRead] at known ⊢
    cases block : counterBlock enclave file with
    | none => rw [block] at known; cases known
    | some found =>
      obtain ⟨version, cnt⟩ := found
      rw [block] at known
      dsimp only at known ⊢
      by_cases old : version = u2fCounterVersionOld
      · rw [if_pos old] at known ⊢
        refine written_current enclave ?_
        by_contra failed
        simp [failed] at known
      · rw [if_neg old]
        intro version' cnt' found
        obtain ⟨rfl, -⟩ := Prod.mk.inj (Option.some.inj (block.symm.trans found))
        exact old
  rw [u2fInitCounter] at known ⊢
  cases result : u2fDataCntRead enclave file env.cntRead with
  | mk value file' =>
    rw [result] at known read
    cases value with
    | some value => exact read value rfl
    | none =>
      refine written_current enclave ?_
      by_contra failed
      simp [failed] at known

/-- The counters signed so far, the last of which is given, are behind: behind the counter
of the token, or, while it is not ready, behind that of the file. -/
structure Behind (system : U2fSystem) (last : Nat) : Prop where
  counter : last ≤ system.token.counter.toNat ∨
    system.token.ready = false ∧ last ≤ storedCounter enclave system.cntFile
  current : 0 < last ∨ system.token.ready = true → Current enclave system.cntFile

/-- An event after which the counters still increase: a signature has a counter left, and a
restart finds no smaller counter than the token has. -/
def Guarded (system : U2fSystem) : U2fEvent → Prop
  | .message buf _ _ => buf 1 = u2fCmdAuthenticate → system.token.counter ≠ 0xFFFFFFFF#32
  | .restart _ => system.token.counter.toNat ≤ storedCounter enclave system.cntFile
  | _ => True

instance (system : U2fSystem) (event : U2fEvent) : Decidable (Guarded enclave system event) :=
  match event with
  | .message buf _ _ =>
    inferInstanceAs (Decidable (buf 1 = u2fCmdAuthenticate → system.token.counter ≠ 0xFFFFFFFF#32))
  | .restart _ =>
    inferInstanceAs (Decidable (system.token.counter.toNat ≤ storedCounter enclave system.cntFile))
  | .confirm => isTrue trivial
  | .setState => isTrue trivial

theorem u2fInitCounter_read (stored : 0 < storedCounter enclave file) (current : Current enclave file) (env : InitEnv) :
    ∃ counter, u2fInitCounter enclave file env = (some counter, file) ∧
      counter.toNat = storedCounter enclave file := by
  cases block : counterBlock enclave file with
  | none =>
    rw [storedCounter, block] at stored
    exact absurd stored (Nat.lt_irrefl 0)
  | some found =>
    obtain ⟨version, cnt⟩ := found
    have new := current version cnt block
    refine ⟨cnt.counter, ?_, ?_⟩
    · simp only [u2fInitCounter, u2fDataCntRead, block, if_neg new]
    · simp only [storedCounter, block, if_neg new]

/-- A start of the token on a file that holds at least the given counter. -/
theorem u2fInit_behind {last : Nat}
    (stored : last ≤ storedCounter enclave file) (current : 0 < last → Current enclave file) (env : InitEnv) :
    Behind enclave (u2fInit enclave file env).2 last := by
  have idle : ∀ token : U2fData, token.ready = false → Behind enclave ⟨token, file⟩ last :=
    fun token idle => ⟨.inr ⟨idle, stored⟩, fun cause => current (cause.resolve_right (by simp [idle]))⟩
  rw [u2fInit]
  by_cases cert : env.certCheck
  · simp only [cert]
    cases env.certKeyLoad with
    | none => exact idle _ rfl
    | some certKey =>
      cases env.keyLoad <|> env.keyGenerate with
      | none => exact idle _ rfl
      | some deviceKey =>
        have read : 0 < last → ∃ counter, u2fInitCounter enclave file env = (some counter, file) ∧
            counter.toNat = storedCounter enclave file := fun some =>
          u2fInitCounter_read enclave (Nat.lt_of_lt_of_le some stored) (current some) env
        have known := @u2fInitCounter_current enclave file env
        cases result : u2fInitCounter enclave file env with
        | mk counter file' =>
          rw [result] at read known
          cases counter with
          | none =>
            have nothing : last = 0 := by
              refine Nat.eq_zero_of_not_pos fun some => ?_
              obtain ⟨_, same, -⟩ := read some
              cases same
            subst nothing
            exact ⟨.inl (Nat.zero_le _), fun cause =>
              absurd (cause.resolve_left (Nat.lt_irrefl 0)) Bool.false_ne_true⟩
          | some counter =>
            refine ⟨.inl ?_, fun _ => known rfl⟩
            obtain rfl | some := Nat.eq_zero_or_pos last
            · exact Nat.zero_le _
            · obtain ⟨_, same, value⟩ := read some
              cases same
              exact Nat.le_trans stored (Nat.le_of_eq value.symm)
  · simp only [cert]
    exact idle _ rfl

theorem behind_step {last : Nat} (behind : Behind enclave system last)
    {event : U2fEvent} (guarded : Guarded enclave system event) :
    ∃ next, last ≤ next ∧ Behind enclave (u2fToken crypto enclave system event).2 next ∧
      ∀ counter, (u2fToken crypto enclave system event).1.signedCounter = some counter →
        last < counter ∧ counter = next := by
  cases event with
  | confirm => exact ⟨last, Nat.le_refl _, ⟨behind.counter, behind.current⟩, fun _ signed => nomatch signed⟩
  | setState => exact ⟨last, Nat.le_refl _, ⟨behind.counter, behind.current⟩, fun _ signed => nomatch signed⟩
  | restart env =>
    have stored : last ≤ storedCounter enclave system.cntFile := by
      obtain inMemory | ⟨-, onFile⟩ := behind.counter
      · exact Nat.le_trans inMemory guarded
      · exact onFile
    exact ⟨last, Nat.le_refl _, u2fInit_behind enclave stored (fun some => behind.current (.inl some)) env,
      fun _ signed => nomatch signed⟩
  | message buf len env =>
    obtain ⟨authenticate, signs⟩ | leaves := u2fMsgParse_cases crypto enclave system buf len env
    · have unlimited := guarded authenticate
      have next : (system.token.counter + 1#32).toNat = system.token.counter.toNat + 1 := by
        have bound : system.token.counter.toNat + 1 < 2 ^ 32 := by
          have : system.token.counter.toNat ≠ 0xFFFFFFFF := fun full =>
            unlimited (BitVec.eq_of_toNat_eq full)
          omega
        exact Nat.mod_eq_of_lt bound
      have inMemory : last ≤ system.token.counter.toNat := by
        obtain inMemory | ⟨idle, -⟩ := behind.counter
        · exact inMemory
        · exact absurd (idle.symm.trans signs.ready) Bool.false_ne_true
      refine ⟨system.token.counter.toNat + 1, by omega, ⟨.inl ?_, fun _ => ?_⟩, fun counter signed => ?_⟩
      · show _ ≤ (u2fMsgParse crypto enclave system buf len env).2.token.counter.toNat
        exact Nat.le_of_eq (by rw [signs.token, next])
      · show Current enclave (u2fMsgParse crypto enclave system buf len env).2.cntFile
        rw [signs.file]
        exact write_current enclave (behind.current (.inr signs.ready)) _ _
      · have value := Option.some.inj (signs.counter.symm.trans signed)
        omega
    · refine ⟨last, Nat.le_refl _, ⟨?_, ?_⟩, fun counter signed => ?_⟩
      · show _ ≤ (u2fMsgParse crypto enclave system buf len env).2.token.counter.toNat ∨
          (u2fMsgParse crypto enclave system buf len env).2.token.ready = false ∧
            _ ≤ storedCounter enclave (u2fMsgParse crypto enclave system buf len env).2.cntFile
        rw [leaves.same, leaves.file]
        exact behind.counter.imp id fun ⟨idle, onFile⟩ =>
          ⟨Bool.eq_false_iff.mpr fun ready => absurd (leaves.ready ready) (by simp [idle]), onFile⟩
      · show _ → Current enclave (u2fMsgParse crypto enclave system buf len env).2.cntFile
        rw [leaves.file]
        exact fun cause => behind.current (cause.imp id leaves.ready)
      · exact absurd (leaves.counter.symm.trans signed) (by simp)

def signedCounters (system : U2fSystem) (events : List U2fEvent) : List Nat :=
  ((u2fToken crypto enclave).run system events).1.filterMap U2fReply.signedCounter

/-- **The counters increase** in every guarded run. -/
theorem counters_increase {last : Nat} (behind : Behind enclave system last) {events : List U2fEvent}
    (guarded : (u2fToken crypto enclave).RunMeets (Guarded enclave) system events) :
    (signedCounters crypto enclave system events).Pairwise (· < ·) ∧
      ∀ counter ∈ signedCounters crypto enclave system events, last < counter := by
  induction events generalizing system last with
  | nil => exact ⟨.nil, fun _ none => absurd none List.not_mem_nil⟩
  | cons event events ih =>
    obtain ⟨next, least, behind', ahead⟩ := behind_step crypto enclave behind guarded.1
    obtain ⟨sorted, later⟩ := ih behind' guarded.2
    have whole : signedCounters crypto enclave system (event :: events) =
        (u2fToken crypto enclave system event).1.signedCounter.toList ++
          signedCounters crypto enclave (u2fToken crypto enclave system event).2 events := by
      simp only [signedCounters, Machine.run, List.filterMap_cons]
      cases (u2fToken crypto enclave system event).1.signedCounter <;> rfl
    rw [whole]
    cases signed : (u2fToken crypto enclave system event).1.signedCounter with
    | none =>
      exact ⟨sorted, fun counter held => Nat.lt_of_le_of_lt least (later counter held)⟩
    | some counter =>
      obtain ⟨more, rfl⟩ := ahead counter signed
      refine ⟨List.pairwise_cons.mpr ⟨later, sorted⟩, fun other held => ?_⟩
      obtain rfl | held := List.mem_cons.mp held
      · exact more
      · exact Nat.lt_of_le_of_lt least (later other held)

end Steps

/-- **The promises of the token.** From a token that is off, with any counter file: in every
run each registration and each signature that vouches for the user follows a confirmation
which nothing else has used, and in every guarded run the counters of the signatures
increase. -/
theorem token_keeps_promises (crypto : Crypto) (enclave : Enclave) (file : Option CounterFile)
    (events : List U2fEvent) :
    (∀ before event after, events = before ++ event :: after → (u2fToken crypto enclave
        ((u2fToken crypto enclave).run ⟨u2fAlloc, file⟩ before).2 event).1.usesPresence = true →
      ∃ earlier since, before = earlier ++ .confirm :: since ∧ ∀ reply ∈ ((u2fToken crypto enclave).run
          ((u2fToken crypto enclave).run ⟨u2fAlloc, file⟩ (earlier ++ [.confirm])).2 since).1,
          reply.usesPresence = false) ∧
    ((u2fToken crypto enclave).RunMeets (Guarded enclave) ⟨u2fAlloc, file⟩ events →
      (signedCounters crypto enclave ⟨u2fAlloc, file⟩ events).Pairwise (· < ·)) := by
  refine ⟨fun before event after _ uses => ?_, fun guarded => ?_⟩
  · exact presence_is_confirmed crypto enclave rfl before event uses
  · have behind : Behind enclave ⟨u2fAlloc, file⟩ 0 :=
      ⟨.inl (Nat.zero_le _), fun cause =>
        absurd (cause.resolve_left (Nat.lt_irrefl 0)) Bool.false_ne_true⟩
    exact (counters_increase crypto enclave behind guarded).1

/-- An enclave that writes its blocks down as they are. -/
def plainEnclave : Enclave where
  encrypt _ cnt := bigEndian cnt.counter ++ bigEndian cnt.control ++ cnt.randomSalt
  decrypt _ data :=
    { counter := data.getD 0 0#8 ++ data.getD 1 0#8 ++ data.getD 2 0#8 ++ data.getD 3 0#8
      control := data.getD 4 0#8 ++ data.getD 5 0#8 ++ data.getD 6 0#8 ++ data.getD 7 0#8
      randomSalt := data.drop 8 }
  decrypt_encrypt iv cnt := by
    have word : ∀ word : BitVec 32, word.extractLsb' 24 8 ++ word.extractLsb' 16 8 ++
        word.extractLsb' 8 8 ++ word.extractLsb' 0 8 = word := by
      intro word
      refine BitVec.eq_of_getLsbD_eq fun bit small => ?_
      simp only [BitVec.getLsbD_append, BitVec.getLsbD_extractLsb']
      grind
    simp [bigEndian, word]

/-- Functions that accept every key handle of zeros. -/
def plainCrypto : Crypto where
  hmac _ _ := List.replicate 32 0#8
  sha256 _ := []
  publicKey _ := []
  sign _ _ _ := List.replicate 64 1#8

def startEnv : InitEnv :=
  { certCheck := true
    certKeyLoad := some []
    keyLoad := some []
    keyGenerate := none
    cntRead := ⟨[], [], .written⟩
    cntWrite := ⟨[], [], .written⟩ }

/-- A request for a signature without the user, whose counter write goes as given. -/
def signRequest (outcome : WriteOutcome) : U2fEvent :=
  .message (fun place => if place = 1 then 0x02#8 else if place = 2 then 0x08#8 else 0#8) 136
    ⟨true, [], 0, [], ⟨[], [], outcome⟩⟩

/-- A signature that the user confirmed, a restart and a signature without the user. -/
def twoSignatures : List U2fEvent :=
  [.restart startEnv, .confirm, signRequest .written, .restart startEnv, signRequest .refused]

theorem two_signatures_keep_promises :
    (∃ earlier since, [.restart startEnv, .confirm] = earlier ++ U2fEvent.confirm :: since ∧
      ∀ reply ∈ ((u2fToken plainCrypto plainEnclave).run ((u2fToken plainCrypto plainEnclave).run
        ⟨u2fAlloc, none⟩ (earlier ++ [.confirm])).2 since).1, reply.usesPresence = false) ∧
    (signedCounters plainCrypto plainEnclave ⟨u2fAlloc, none⟩ twoSignatures).Pairwise (· < ·) :=
  ⟨(token_keeps_promises plainCrypto plainEnclave none twoSignatures).1
      [.restart startEnv, .confirm] (signRequest .written)
      [.restart startEnv, signRequest .refused] rfl (by decide +kernel),
    (token_keeps_promises plainCrypto plainEnclave none twoSignatures).2 (by decide +kernel)⟩

/-- A counter that could not be written is used again after a restart. -/
theorem unwritten_counter_is_reused : signedCounters plainCrypto plainEnclave ⟨u2fAlloc, none⟩
      [.restart startEnv, signRequest .refused, .restart startEnv, signRequest .written] = [1, 1] := by
  decide +kernel

end Xtreme.U2f
