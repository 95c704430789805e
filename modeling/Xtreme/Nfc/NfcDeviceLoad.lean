import Xtreme.Nfc.NfcDevice

/-! What `nfc_device_load` leaves when it fails. The unified format clears the device then, and the
legacy format does so only where no protocol knows the type: a card whose data cannot be
loaded stays in the device as far as it came. -/
namespace Xtreme.Nfc
open Xtreme.Library Flipper
open Effect (fault observe update)

/-- What `nfc_device_load_uid` finds from a cursor on. -/
def fileUid (ff : FlipperFormat) : Option (List (BitVec 8)) × FlipperFormat :=
  match (flipperFormatStreamSeekToKey nfcDeviceUidKey ff.rest).bind fun text => countValues (text.length + 1) text with
  | none => (none, ff)
  | some uidLenCurrent =>
    if nfcDeviceUidMaxLen < uidLenCurrent then (none, ff)
    else
      match flipperFormatReadHex nfcDeviceUidKey uidLenCurrent ff with
      | (.ok uid, behind) => (some uid, behind)
      | (.error _, behind) => (none, behind)

/-- The UID or the data of a protocol cannot be loaded into an object of it. -/
inductive CardFails {Data : Type} (base : NfcDeviceBase Data) (version : BitVec 32) (content : Data)
    (ff : FlipperFormat) : Prop
  | noUid (absent : (fileUid ff).1 = none)
  | uidRefused {uid : List (BitVec 8)} (found : (fileUid ff).1 = some uid)
      (refused : (base.setUid uid content).1 = .ok false)
  | dataRefused {uid : List (BitVec 8)} {named : Data} (found : (fileUid ff).1 = some uid)
      (uidSet : base.setUid uid content = (.ok true, named))
      (refused : (base.load version (named, (fileUid ff).2)).1 = .ok false)

section
variable {Data : Type}

/-- The first protocol that verifies the type cannot load the card. -/
inductive LoopFails (nfcDevices : NfcProtocol → NfcDeviceBase Data) (deviceType : Text) (version : BitVec 32)
    (ff : FlipperFormat) : List NfcProtocol → Prop
  | here {protocol : NfcProtocol} {rest : List NfcProtocol} {content : Data}
      (verified : (nfcDevices protocol).verify deviceType (nfcDevices protocol).alloc = (.ok true, content))
      (fails : CardFails (nfcDevices protocol) version content ff) :
      LoopFails nfcDevices deviceType version ff (protocol :: rest)
  | later {protocol : NfcProtocol} {rest : List NfcProtocol}
      (other : ((nfcDevices protocol).verify deviceType (nfcDevices protocol).alloc).1 = .ok false)
      (fails : LoopFails nfcDevices deviceType version ff rest) :
      LoopFails nfcDevices deviceType version ff (protocol :: rest)

inductive LegacyFails (nfcDevices : NfcProtocol → NfcDeviceBase Data) : (file : Option Text) → Prop
  | intro {content filetype deviceType : Text} {version : BitVec 32} {headed typed : FlipperFormat}
      (header : flipperFormatReadHeader (.opened content) = (.ok (filetype, version), headed))
      (named : cString filetype = nfcFileHeader)
      (supported : nfcMinimumSupportedFormatVersion ≤ version.toNat)
      (legacy : version.toNat < nfcUnifiedFormatVersion)
      (type : flipperFormatReadString nfcDeviceTypeKey headed = (.ok deviceType, typed))
      (fails : LoopFails nfcDevices deviceType version typed nfcProtocols) :
      LegacyFails nfcDevices (some content)

def Holding (protocol : NfcProtocol) (allocation : Nat) (loading : DeviceLoading Data) : Prop :=
  loading.instanc.protocol = some protocol ∧ ∃ content, loading.instanc.protocolData = some ⟨allocation, content⟩

variable {nfcDevices : NfcProtocol → NfcDeviceBase Data} {loading after : DeviceLoading Data} {protocol : NfcProtocol}
  {version : BitVec 32} {deviceType : Text} {allocation : Nat} {content : Data} {loaded : Bool}

theorem readHex_answers (key : Text) (dataSize : Nat) (ff : FlipperFormat) :
    (∃ uid behind, flipperFormatReadHex key dataSize ff = (.ok uid, behind)) ∨
      flipperFormatReadHex key dataSize ff = (.error .refused, ff) := by
  unfold flipperFormatReadHex flipperFormatStreamReadValueLine
  rw [Effect.observe_bind]
  generalize (flipperFormatStreamSeekToKey key (id ff).rest).bind (readValues scanHex (dataSize % 2 ^ 16)) = items
  cases items with
  | none => exact Or.inr rfl
  | some items => exact Or.inl ⟨_, _, rfl⟩

theorem nfcDeviceLoadUid_run (loading : DeviceLoading Data) : nfcDeviceLoadUid nfcDeviceUidMaxLen loading =
      (.ok (fileUid loading.ff).1, loading.withFile (fileUid loading.ff).2) := by
  have counted : readFile (flipperFormatGetValueCount nfcDeviceUidKey) loading =
      (.ok (some ((flipperFormatStreamSeekToKey nfcDeviceUidKey loading.ff.rest).bind fun text =>
        countValues (text.length + 1) text)), loading) := rfl
  unfold nfcDeviceLoadUid fileUid
  rw [Effect.bind_of_ok counted]
  generalize ((flipperFormatStreamSeekToKey nfcDeviceUidKey loading.ff.rest).bind fun text =>
    countValues (text.length + 1) text) = count
  cases count with
  | none => rfl
  | some uidLenCurrent =>
    by_cases long : nfcDeviceUidMaxLen < uidLenCurrent
    · simp only [Option.join_some, long]
      rfl
    simp only [Option.join_some, long, if_false, readFile]
    rcases readHex_answers nfcDeviceUidKey uidLenCurrent loading.ff with ⟨uid, behind, read⟩ | refused
    · rw [read]
    · rw [refused]

theorem onData_run {α : Type} (program : Effect NfcDeviceFault (Data × FlipperFormat) α)
    (there : loading.instanc.protocolData = some ⟨allocation, content⟩) :
    onData program loading = ((program (content, loading.ff)).1,
        loading.withContent (program (content, loading.ff)).2.1 (program (content, loading.ff)).2.2) := by
  unfold onData
  rw [there]

theorem withContent_data (there : loading.instanc.protocolData = some ⟨allocation, content⟩) (after : Data)
    (ff : FlipperFormat) : (loading.withContent after ff).instanc.protocolData = some ⟨allocation, after⟩ := by
  show loading.instanc.protocolData.map _ = _
  rw [there]
  rfl

theorem onData_holding (program : Effect NfcDeviceFault (Data × FlipperFormat) Bool) :
    Effect.Preserves (Holding protocol allocation) (fun _ => True) (onData program) := by
  rintro loading ⟨named, content, there⟩
  rw [onData_run program there]
  exact ⟨⟨named, _, withContent_data there _ _⟩, fun _ _ => trivial⟩

theorem nfcDeviceLoadCard_holding : Effect.Preserves (Holding protocol allocation) (fun _ => True)
      (nfcDeviceLoadCard nfcDevices protocol version) := by
  refine Effect.Preserves.bind (fun loading held => ?_) fun uid => ?_
  · rw [nfcDeviceLoadUid_run]
    exact ⟨held, fun _ _ => trivial⟩
  cases uid with
  | none => exact .pure _
  | some uid =>
    refine Effect.Preserves.bind (Effect.Preserves.observe_bind fun loading held => ?_) fun uidSet => ?_
    · rw [held.1]
      exact onData_holding _
    · exact Effect.Preserves.ite (fun _ => onData_holding _) fun _ => .pure _

theorem nfcDeviceSetUid_run (uid : List (BitVec 8)) (named : loading.instanc.protocol = some protocol)
    (there : loading.instanc.protocolData = some ⟨allocation, content⟩) :
    nfcDeviceSetUid nfcDevices uid loading = (((nfcDevices protocol).setUid uid content).1,
        loading.withContent ((nfcDevices protocol).setUid uid content).2 loading.ff) := by
  unfold nfcDeviceSetUid
  rw [Effect.observe_bind, named]
  exact onData_run _ there

theorem nfcDeviceLoadCard_iff (named : loading.instanc.protocol = some protocol)
    (there : loading.instanc.protocolData = some ⟨allocation, content⟩) :
    (nfcDeviceLoadCard nfcDevices protocol version loading).1 = .ok false ↔
      CardFails (nfcDevices protocol) version content loading.ff := by
  unfold nfcDeviceLoadCard
  rw [Effect.bind_of_ok (nfcDeviceLoadUid_run loading)]
  rcases found : (fileUid loading.ff).1 with _ | uid
  · exact ⟨fun _ => .noUid found, fun _ => rfl⟩
  have ran : nfcDeviceSetUid nfcDevices uid (loading.withFile (fileUid loading.ff).2) = _ :=
    nfcDeviceSetUid_run uid named there
  show ((nfcDeviceSetUid nfcDevices uid >>= _) _).1 = _ ↔ _
  rw [Effect.bind_run, ran]
  rcases uidSet : (nfcDevices protocol).setUid uid content with ⟨outcome, named'⟩
  have only (fails : CardFails (nfcDevices protocol) version content loading.ff) :
      outcome = .ok false ∨ outcome = .ok true ∧
        ((nfcDevices protocol).load version (named', (fileUid loading.ff).2)).1 = .ok false := by
    cases fails with
    | noUid absent => cases found.symm.trans absent
    | uidRefused found' refused =>
      cases found.symm.trans found'
      rw [uidSet] at refused
      exact Or.inl refused
    | dataRefused found' uidSet' refused =>
      cases found.symm.trans found'
      cases uidSet.symm.trans uidSet'
      exact Or.inr ⟨rfl, refused⟩
  cases outcome with
  | error crash =>
    refine ⟨fun answered => ?_, fun fails => ?_⟩
    · cases answered
    rcases only fails with refused | ⟨accepted, -⟩
    · cases refused
    · cases accepted
  | ok accepted =>
    cases accepted with
    | false => exact ⟨fun _ => .uidRefused found (congrArg Prod.fst uidSet), fun _ => rfl⟩
    | true =>
      have before : (loading.withFile (fileUid loading.ff).2).instanc.protocolData = _ := there
      have held := withContent_data before named' (fileUid loading.ff).2
      show (onData _ ((loading.withFile (fileUid loading.ff).2).withContent named' (fileUid loading.ff).2)).1 = _ ↔ _
      rw [onData_run _ held]
      refine ⟨fun refused => .dataRefused found uidSet refused, fun fails => ?_⟩
      rcases only fails with refused | ⟨-, refused⟩
      · cases refused
      · exact refused

theorem renew_data (loading : DeviceLoading Data) (protocol : NfcProtocol) (alloc : Data) :
    (loading.renew protocol alloc).instanc.protocolData = some ⟨loading.allocations, alloc⟩ := rfl

theorem renewed_data (loading : DeviceLoading Data) (protocol : NfcProtocol) (alloc content : Data)
    (ff : FlipperFormat) : ((loading.renew protocol alloc).withContent content ff).instanc.protocolData =
      some ⟨loading.allocations, content⟩ := withContent_data (renew_data loading protocol alloc) content ff

theorem legacyLoop_round (loading : DeviceLoading Data) (rest : List NfcProtocol) :
    nfcDeviceLegacyLoop nfcDevices deviceType version (protocol :: rest) loading =
      (let renewed := loading.renew protocol (nfcDevices protocol).alloc
      match (nfcDevices protocol).verify deviceType (nfcDevices protocol).alloc with
      | (.ok true, content) => nfcDeviceLoadCard nfcDevices protocol version (renewed.withContent content loading.ff)
      | (.ok false, content) =>
        nfcDeviceLegacyLoop nfcDevices deviceType version rest (renewed.withContent content loading.ff).clear
      | (.error crash, content) => (.error crash, renewed.withContent content loading.ff)) := by
  show ((onData _ >>= _) (loading.renew protocol (nfcDevices protocol).alloc)) = _
  rw [Effect.bind_run]
  rw [onData_run _ (renew_data loading protocol _)]
  unfold ofData
  rcases (nfcDevices protocol).verify deviceType (nfcDevices protocol).alloc with ⟨outcome, content⟩
  cases outcome with
  | error crash => rfl
  | ok verified => cases verified <;> rfl

theorem clear_instanc (loading : DeviceLoading Data) : loading.clear.instanc = .cleared := NfcDevice.clear_eq _

theorem legacyLoop_fails {protocols : List NfcProtocol} (start : loading.instanc = .cleared)
    (ran : nfcDeviceLegacyLoop nfcDevices deviceType version protocols loading = (.ok false, after)) :
    after.instanc = .cleared ∨ LoopFails nfcDevices deviceType version loading.ff protocols := by
  induction protocols generalizing loading with
  | nil =>
    cases ran
    exact Or.inl start
  | cons protocol rest next =>
    rw [legacyLoop_round] at ran
    rcases verified : (nfcDevices protocol).verify deviceType (nfcDevices protocol).alloc with ⟨outcome, content⟩
    rw [verified] at ran
    cases outcome with
    | error crash => cases ran
    | ok accepted =>
      cases accepted with
      | true =>
        have there := renewed_data loading protocol (nfcDevices protocol).alloc content loading.ff
        have fails := (nfcDeviceLoadCard_iff rfl there).mp (congrArg Prod.fst ran)
        exact Or.inr (.here verified fails)
      | false =>
        rcases next (clear_instanc _) ran with cleared | fails
        · exact Or.inl cleared
        · exact Or.inr (.later (congrArg Prod.fst verified) fails)

/-- A card that cannot be loaded stays in the device, as a new object. -/
theorem legacyLoop_keeps {protocols : List NfcProtocol}
    (fails : LoopFails nfcDevices deviceType version loading.ff protocols) :
    ∃ after protocol allocation,
      nfcDeviceLegacyLoop nfcDevices deviceType version protocols loading = (.ok false, after) ∧
        loading.allocations ≤ allocation ∧ Holding protocol allocation after := by
  induction protocols generalizing loading with
  | nil => cases fails
  | cons protocol rest next =>
    rw [legacyLoop_round]
    cases fails with
    | here verified fails =>
      rename_i content
      have there := renewed_data loading protocol (nfcDevices protocol).alloc content loading.ff
      have held : Holding protocol loading.allocations
          ((loading.renew protocol (nfcDevices protocol).alloc).withContent content loading.ff) := ⟨rfl, _, there⟩
      have refused := (nfcDeviceLoadCard_iff rfl there).mpr fails
      have holds : Effect.Preserves (Holding protocol loading.allocations) (fun _ => True)
          (nfcDeviceLoadCard nfcDevices protocol version) := nfcDeviceLoadCard_holding
      have kept := (holds _ held).1
      rw [verified]
      exact ⟨_, protocol, _, Prod.ext refused rfl, Nat.le_refl _, kept⟩
    | later other fails =>
      rcases verified : (nfcDevices protocol).verify deviceType (nfcDevices protocol).alloc with ⟨outcome, content⟩
      rw [verified] at other
      cases other
      have fails : LoopFails nfcDevices deviceType version
          ((loading.renew protocol (nfcDevices protocol).alloc).withContent content loading.ff).clear.ff rest := fails
      obtain ⟨after, last, allocation, ran, fresh, held⟩ := next fails
      exact ⟨after, last, allocation, ran, Nat.le_of_succ_le fresh, held⟩

/-- A load that fails leaves the device as it was, or cleared. -/
def LoadKept (nfcDevices : NfcProtocol → NfcDeviceBase Data) (file : Option Text) (start : DeviceLoading Data) :
    Prop :=
  ∀ after, nfcDeviceLoad nfcDevices file start = (.ok false, after) →
    after.instanc = start.instanc ∨ after.instanc = .cleared

theorem readFile_cases {α : Type} {call : LoadM α} {answer : Option α}
    (ran : readFile call loading = (.ok answer, after)) :
    after.instanc = loading.instanc ∧ ∀ found, answer = some found → call loading.ff = (.ok found, after.ff) := by
  unfold readFile at ran
  rcases called : call loading.ff with ⟨outcome, ff⟩
  rw [called] at ran
  cases outcome with
  | ok found =>
    cases ran
    refine ⟨rfl, ?_⟩
    rintro _ ⟨⟩
    rfl
  | error stop =>
    cases stop with
    | crashed => cases ran
    | refused =>
      cases ran
      exact ⟨rfl, fun _ none => absurd none (Option.some_ne_none _).symm⟩

theorem readFile_ok {α : Type} {call : LoadM α} {answer : α} {ff : FlipperFormat}
    (called : call loading.ff = (.ok answer, ff)) :
    readFile call loading = (.ok (some answer), loading.withFile ff) := by
  rw [readFile, called]

theorem loadUnified_cleared (ran : nfcDeviceLoadUnified nfcDevices version loading = (.ok false, after)) :
    after.instanc = .cleared := by
  unfold nfcDeviceLoadUnified at ran
  rw [Effect.bind_run] at ran
  rcases card : nfcDeviceLoadUnifiedCard nfcDevices version loading with ⟨outcome, middle⟩
  rw [card] at ran
  cases outcome with
  | error crash => cases ran
  | ok loaded =>
    cases loaded with
    | true => cases ran
    | false =>
      cases ran
      exact clear_instanc middle

theorem loadLegacy_fails (ran : nfcDeviceLoadLegacy nfcDevices version loading = (.ok false, after)) :
    after.instanc = loading.instanc ∨ after.instanc = .cleared ∨
      ∃ deviceType typed, flipperFormatReadString nfcDeviceTypeKey loading.ff = (.ok deviceType, typed) ∧
        LoopFails nfcDevices deviceType version typed nfcProtocols := by
  unfold nfcDeviceLoadLegacy at ran
  rw [Effect.bind_run] at ran
  rcases read : readFile (flipperFormatReadString nfcDeviceTypeKey) loading with ⟨outcome, middle⟩
  rw [read] at ran
  cases outcome with
  | error crash => cases ran
  | ok deviceType =>
    obtain ⟨same, called⟩ := readFile_cases read
    cases deviceType with
    | none =>
      cases ran
      exact Or.inl same
    | some deviceType =>
      rcases legacyLoop_fails (clear_instanc middle) ran with cleared | fails
      · exact Or.inr (Or.inl cleared)
      · exact Or.inr (Or.inr ⟨deviceType, middle.ff, called deviceType rfl, fails⟩)

theorem load_kept_of_none (nfcDevices : NfcProtocol → NfcDeviceBase Data) (start : DeviceLoading Data) :
    LoadKept nfcDevices none start := by
  rintro after ⟨⟩
  exact Or.inl rfl

theorem load_kept_of_room {file : Option Text} {start : DeviceLoading Data} (room : ¬ LegacyFails nfcDevices file) :
    LoadKept nfcDevices file start := by
  cases file with
  | none => exact load_kept_of_none nfcDevices start
  | some content =>
    intro after ran
    change (readFile flipperFormatReadHeader >>= _) (start.withFile (.opened content)) = _ at ran
    rw [Effect.bind_run] at ran
    rcases read : readFile flipperFormatReadHeader (start.withFile (.opened content)) with ⟨outcome, headed⟩
    rw [read] at ran
    cases outcome with
    | error crash => cases ran
    | ok header =>
      obtain ⟨kept, called⟩ := readFile_cases read
      cases header with
      | none =>
        cases ran
        exact Or.inl kept
      | some header =>
        dsimp only at ran
        split at ran
        · cases ran
          exact Or.inl kept
        split at ran
        · cases ran
          exact Or.inl kept
        rename_i named supported
        split at ran
        · rename_i legacy
          rcases loadLegacy_fails ran with unchanged | cleared | ⟨deviceType, typed, type, fails⟩
          · exact Or.inl (unchanged.trans kept)
          · exact Or.inr cleared
          · exact absurd (.intro (called _ rfl) (not_not.mp named) (Nat.le_of_not_lt supported) legacy type fails) room
        · exact Or.inr (loadUnified_cleared ran)

theorem load_not_kept {file : Option Text} {start : DeviceLoading Data} (fails : LegacyFails nfcDevices file) :
    ¬ LoadKept nfcDevices file start := by
  cases fails with
  | intro header named supported legacy type fails =>
    rename_i content filetype deviceType version headed typed
    intro kept
    have fails : LoopFails nfcDevices deviceType version ((start.withFile headed).withFile typed).clear.ff _ := fails
    obtain ⟨after, protocol, allocation, ran, fresh, holds, content', there⟩ := legacyLoop_keeps fails
    have legacyRan : nfcDeviceLoadLegacy nfcDevices version (start.withFile headed) = (.ok false, after) := by
      have read : readFile (flipperFormatReadString nfcDeviceTypeKey) (start.withFile headed) = _ := readFile_ok type
      unfold nfcDeviceLoadLegacy
      rw [Effect.bind_of_ok read]
      exact ran
    have loads : nfcDeviceLoad nfcDevices (some content) start = (.ok false, after) := by
      have read : readFile flipperFormatReadHeader (start.withFile (.opened content)) = _ := readFile_ok header
      show (readFile flipperFormatReadHeader >>= _) (start.withFile (.opened content)) = _
      rw [Effect.bind_of_ok read]
      dsimp only
      rw [if_neg (not_not.mpr named), if_neg (Nat.not_lt_of_le supported), if_pos legacy]
      exact legacyRan
    rcases kept after loads with unchanged | cleared
    · rw [unchanged] at there
      have before := start.allocated _ there
      exact Nat.not_lt_of_le fresh before
    · rw [cleared] at there
      exact absurd there.symm (Option.some_ne_none _)

/-- A load that fails leaves the device as it was or clears it, unless the file is of a legacy
format and the protocol that knows its type cannot load the card. -/
theorem load_kept_iff (nfcDevices : NfcProtocol → NfcDeviceBase Data) (file : Option Text)
    (start : DeviceLoading Data) : LoadKept nfcDevices file start ↔ ¬ LegacyFails nfcDevices file :=
  ⟨fun kept fails => load_not_kept fails kept, load_kept_of_room⟩

end

def iso14443_3aVerify {Data : Type} (deviceType : Text) : Effect NfcDeviceFault Data Bool :=
  pure (cString deviceType = "UID".toList)

def partialFile : Text := "Filetype: Flipper NFC device\nVersion: 3\nDevice type: UID\n".toList

def allocatedDevice (Data : Type) : DeviceLoading Data :=
  ⟨.cleared, .opened [], 0, fun _ absent => absurd absent.symm (Option.some_ne_none _)⟩

/-- Behind the version and behind the type. -/
def headedFile : FlipperFormat := ⟨partialFile, "\nDevice type: UID\n".toList⟩
def typedFile : FlipperFormat := ⟨partialFile, "\n".toList⟩

theorem partialFile_seen : flipperFormatReadHeader (.opened partialFile) = (.ok (nfcFileHeader, 3#32), headedFile) ∧
      flipperFormatReadString nfcDeviceTypeKey headedFile = (.ok "UID".toList, typedFile) ∧
      (fileUid typedFile).1 = none := by
  refine ⟨rfl, rfl, rfl⟩

/-- Whatever the protocols do besides, a legacy file with a type but without a UID leaves an object
of ISO14443-3A in a new device. -/
theorem legacy_card_stays : ¬ ∃ (Data : Type) (nfcDevices : NfcProtocol → NfcDeviceBase Data),
    (nfcDevices .iso14443_3a).verify = iso14443_3aVerify ∧
      LoadKept nfcDevices (some partialFile) (allocatedDevice Data) := by
  rintro ⟨Data, nfcDevices, verify, kept⟩
  obtain ⟨header, type, noUid⟩ := partialFile_seen
  have verified : (nfcDevices .iso14443_3a).verify "UID".toList (nfcDevices .iso14443_3a).alloc =
      (.ok true, (nfcDevices .iso14443_3a).alloc) := by
    rw [verify]
    rfl
  exact load_not_kept (.intro header rfl (by decide) (by decide) type (.here verified (.noUid noUid))) kept

end Xtreme.Nfc
