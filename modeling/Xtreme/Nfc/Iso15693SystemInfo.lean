import Xtreme.Nfc.Iso15693Bounds

/-! The system information of an ISO15693-3 card, as the listener sends it and as a reader
of the card takes it out of the response (`iso15693_3_i.c`). -/
namespace Xtreme.Nfc
open Xtreme.Library BitLib Toolbox
open Effect (Yields)

def iso15693_3ErrorResponseParse (buf : BitBuffer) : Option Iso15693_3Error :=
  if buf.sizeBytes = 0 then some .bufferEmpty
  else if (buf.byte 0).getLsbD 0 = false then none
  else if buf.sizeBytes < 2 then some .unexpectedResponse
  else
    let error := buf.byte 1
    if 0xA0#8 ≤ error ∧ error ≤ 0xDF#8 then some .custom
    else if error = 0x01#8 ∨ error = 0x03#8 then some .notSupported
    else if error = 0x02#8 then some .format
    else if 0x10#8 ≤ error ∧ error ≤ 0x14#8 then some .internal
    else some .unknown

def systemInfoLayoutSize : Nat := 2 + iso15693_3UidSize

/-- How many bytes the fields have that some flags announce. -/
def systemInfoExtraSize (flags : BitVec 8) : Nat :=
  (if flags.getLsbD 0 then 1 else 0) + (if flags.getLsbD 1 then 1 else 0) +
    (if flags.getLsbD 2 then 2 else 0) + (if flags.getLsbD 3 then 1 else 0)

def systemInfoFields (data : Iso15693_3SystemInfo) (flags : BitVec 8) (buf : BitBuffer) (extra : Nat) :
    Iso15693_3SystemInfo :=
  let dsfid := if flags.getLsbD 0 then buf.byte extra else data.dsfid
  let extra := if flags.getLsbD 0 then extra + 1 else extra
  let afi := if flags.getLsbD 1 then buf.byte extra else data.afi
  let extra := if flags.getLsbD 1 then extra + 1 else extra
  let blockCount := if flags.getLsbD 2 then (buf.byte extra).setWidth 16 + 1#16 else data.blockCount
  let blockSize := if flags.getLsbD 2 then (buf.byte (extra + 1) &&& 0x1F#8) + 1#8 else data.blockSize
  let extra := if flags.getLsbD 2 then extra + 2 else extra
  let icRef := if flags.getLsbD 3 then buf.byte extra else data.icRef
  ⟨flags, dsfid, afi, icRef, blockCount, blockSize⟩

def iso15693_3SystemInfoResponseParse (data : Iso15693_3SystemInfo) (buf : BitBuffer) :
    Iso15693_3Error × Iso15693_3SystemInfo :=
  match iso15693_3ErrorResponseParse buf with
  | some error => (error, data)
  | none =>
    if buf.sizeBytes < systemInfoLayoutSize then (.unexpectedResponse, data)
    else if systemInfoExtraSize (buf.byte 1) ≠ buf.sizeBytes - systemInfoLayoutSize then (.unexpectedResponse, data)
    else (.none, systemInfoFields data (buf.byte 1) buf systemInfoLayoutSize)

namespace Iso15693_3SystemInfo

/-- Numbers that go into the bytes of a response: a card has 1 to 256 blocks of 1 to 32
bytes each. -/
structure InRange (info : Iso15693_3SystemInfo) : Prop where
  blockCount : 0 < info.blockCount.toNat ∧ info.blockCount.toNat ≤ 256
  blockSize : 0 < info.blockSize.toNat ∧ info.blockSize.toNat ≤ 32

def learning (known told : Iso15693_3SystemInfo) : Iso15693_3SystemInfo where
  flags := told.flags
  dsfid := if told.flags.getLsbD 0 then told.dsfid else known.dsfid
  afi := if told.flags.getLsbD 1 then told.afi else known.afi
  icRef := if told.flags.getLsbD 3 then told.icRef else known.icRef
  blockCount := if told.flags.getLsbD 2 then told.blockCount else known.blockCount
  blockSize := if told.flags.getLsbD 2 then told.blockSize else known.blockSize

end Iso15693_3SystemInfo

def systemInfoResponse (data : Iso15693_3Data) : List (BitVec 8) :=
  [0x00#8, data.systemInfo.flags] ++ iso15693_3UidBytes data ++ systemInfoBytes data.systemInfo

def CutShort (short long : List (BitVec 8)) : Prop := short <+: long ∧ short ≠ long

section
variable {data : Iso15693_3Data} {known : Iso15693_3SystemInfo} {buf : BitBuffer}

theorem length_systemInfoBytes_eq (info : Iso15693_3SystemInfo) :
    (systemInfoBytes info).length = systemInfoExtraSize info.flags := by
  unfold systemInfoBytes systemInfoExtraSize
  split_ifs <;> rfl

theorem length_systemInfoResponse (data : Iso15693_3Data) :
    (systemInfoResponse data).length = systemInfoLayoutSize + systemInfoExtraSize data.systemInfo.flags := by
  unfold systemInfoResponse
  rw [List.length_append, List.length_append, length_uidBytes, length_systemInfoBytes_eq]
  rfl

theorem getSystemInfo_run (instanc : Iso15693_3Listener) :
    iso15693_3ListenerGetSystemInfoHandler { instanc with txBuffer := [0x00#8] } =
      (.ok .none, { instanc with txBuffer := systemInfoResponse instanc.data }) := by
  have uid := length_uidBytes instanc.data
  have extra := length_systemInfoBytes instanc.data.systemInfo
  unfold iso15693_3ListenerGetSystemInfoHandler iso15693_3AppendUid
  refine (Effect.bind_of_ok (appendBytes_run ?_)).trans ?_
  · exact (show 1 + 1 ≤ 64 by decide)
  refine (Effect.bind_of_ok ((Effect.observe_bind _ _ _).trans (appendBytes_run ?_))).trans ?_
  · show 2 + (iso15693_3UidBytes instanc.data).length ≤ 64
    rw [uid]
    decide
  refine (Effect.bind_of_ok (appendBytes_run ?_)).trans rfl
  rw [List.length_append, uid]
  exact Nat.le_trans (Nat.add_le_add_left extra _) (show 2 + 8 + 5 ≤ 64 by decide)

/-- The numbers come back from the bytes that hold one less. -/
theorem blockCount_restored {count : BitVec 16} (some : 0 < count.toNat) (fits : count.toNat ≤ 256) :
    ((count - 1).setWidth 8).setWidth 16 + 1#16 = count := by
  bv_omega

theorem blockSize_restored {size : BitVec 8} (some : 0 < size.toNat) (fits : size.toNat ≤ 32) :
    ((size - 1) &&& 0x1F#8) + 1#8 = size := by
  have less : (size - 1).toNat = size.toNat - 1 := by bv_omega
  apply BitVec.eq_of_toNat_eq
  rw [BitVec.toNat_add, BitVec.toNat_and, less]
  have masked : (size.toNat - 1) &&& 31 = (size.toNat - 1) % 2 ^ 5 := Nat.and_two_pow_sub_one_eq_mod _ 5
  change (((size.toNat - 1) &&& 31) + 1) % 2 ^ 8 = size.toNat
  omega

theorem parse_begun (begins : buf.content <+: systemInfoResponse data ∨ systemInfoResponse data <+: buf.content)
    (long : systemInfoLayoutSize ≤ buf.sizeBytes) :
    iso15693_3ErrorResponseParse buf = none ∧ buf.byte 1 = data.systemInfo.flags := by
  have long : 10 ≤ buf.content.length := by
    rw [BitBuffer.length_content]
    exact long
  obtain ⟨rest, same⟩ : ∃ rest, buf.content = 0x00#8 :: data.systemInfo.flags :: rest := by
    rcases begins with short | ⟨rest, whole⟩
    · cases bytes : buf.content with
      | nil => simp [bytes] at long
      | cons first later =>
        cases later with
        | nil => simp [bytes] at long
        | cons second rest =>
          rw [bytes] at short
          obtain ⟨rfl, later⟩ := List.cons_prefix_cons.mp short
          obtain ⟨rfl, -⟩ := List.cons_prefix_cons.mp later
          exact ⟨rest, rfl⟩
    · exact ⟨_, whole.symm⟩
  have length := congrArg List.length same
  rw [BitBuffer.length_content, List.length_cons] at length
  have flags : buf.byte 0 = 0x00#8 := BitBuffer.byte_of_content same (show 0 < _ by simp)
  refine ⟨?_, BitBuffer.byte_of_content same (show 1 < _ by simp)⟩
  unfold iso15693_3ErrorResponseParse
  rw [if_neg (by omega), flags, if_pos (by decide)]

theorem field_read {flag : Bool} {value other : BitVec 8} {bytes front rest : List (BitVec 8)}
    (is : (if flag then [value] else []) = bytes) (whole : buf.content = front ++ (bytes ++ rest)) :
    (if flag then buf.byte front.length else other) = if flag then value else other := by
  cases flag with
  | false => rfl
  | true =>
    subst is
    exact BitBuffer.byte_behind whole

theorem systemInfoFields_whole (info : data.systemInfo.InRange) (whole : buf.content = systemInfoResponse data) :
    systemInfoFields known data.systemInfo.flags buf systemInfoLayoutSize = known.learning data.systemInfo := by
  have count := blockCount_restored info.blockCount.1 info.blockCount.2
  have size := blockSize_restored info.blockSize.1 info.blockSize.2
  unfold systemInfoResponse systemInfoBytes at whole
  generalize front : [0x00#8, data.systemInfo.flags] ++ iso15693_3UidBytes data = header at whole
  have place : header.length = systemInfoLayoutSize := by
    rw [← front, List.length_append, length_uidBytes]
    rfl
  -- each field stands behind those before it that have a flag
  generalize dsfid : (if data.systemInfo.flags.getLsbD 0 then [data.systemInfo.dsfid] else []) = first at whole
  have afiPlace : (header ++ first).length =
      if data.systemInfo.flags.getLsbD 0 then systemInfoLayoutSize + 1 else systemInfoLayoutSize := by
    rw [List.length_append, place, ← dsfid]
    split <;> rfl
  generalize afi : (if data.systemInfo.flags.getLsbD 1 then [data.systemInfo.afi] else []) = second at whole
  have memoryPlace : (header ++ first ++ second).length =
      if data.systemInfo.flags.getLsbD 1 then (header ++ first).length + 1 else (header ++ first).length := by
    rw [List.length_append, ← afi]
    split <;> rfl
  generalize memory : (if data.systemInfo.flags.getLsbD 2 then
    [(data.systemInfo.blockCount - 1).setWidth 8, data.systemInfo.blockSize - 1] else []) = third at whole
  have icRefPlace : (header ++ first ++ second ++ third).length =
      if data.systemInfo.flags.getLsbD 2 then (header ++ first ++ second).length + 2
      else (header ++ first ++ second).length := by
    rw [List.length_append, ← memory]
    split <;> rfl
  have dsfidRead := @field_read buf _ _ known.dsfid _ header (second ++ third ++ _) dsfid
    (by simpa only [List.append_assoc] using whole)
  have afiRead := @field_read buf _ _ known.afi _ (header ++ first) (third ++ _) afi
    (by simpa only [List.append_assoc] using whole)
  have icRefRead := @field_read buf _ _ known.icRef _ (header ++ first ++ second ++ third) [] rfl
    (by simpa only [List.append_assoc, List.append_nil] using whole)
  have memoryRead : data.systemInfo.flags.getLsbD 2 = true →
      buf.byte (header ++ first ++ second).length = (data.systemInfo.blockCount - 1).setWidth 8 ∧
        buf.byte ((header ++ first ++ second).length + 1) = data.systemInfo.blockSize - 1 := by
    intro announced
    rw [if_pos announced] at memory
    subst memory
    simp only [List.append_assoc, List.cons_append] at whole
    have count : buf.byte (header ++ first ++ second).length = (data.systemInfo.blockCount - 1).setWidth 8 :=
      BitBuffer.byte_behind (by simpa only [List.append_assoc] using whole)
    have size : buf.byte (header ++ first ++ second ++ [(data.systemInfo.blockCount - 1).setWidth 8]).length =
        data.systemInfo.blockSize - 1 :=
      BitBuffer.byte_behind (by simpa only [List.append_assoc, List.cons_append, List.nil_append] using whole)
    rw [List.length_append] at size
    exact ⟨count, size⟩
  unfold systemInfoFields Iso15693_3SystemInfo.learning
  simp only [← afiPlace, ← memoryPlace, ← icRefPlace, afiRead, icRefRead]
  rw [place] at dsfidRead
  rw [dsfidRead]
  by_cases announced : data.systemInfo.flags.getLsbD 2 = true
  · obtain ⟨first, second⟩ := memoryRead announced
    rw [if_pos announced, if_pos announced, if_pos announced, if_pos announced, first, second, count, size]
  · rw [if_neg announced, if_neg announced, if_neg announced, if_neg announced]

theorem errorResponseParse_ne_none (buf : BitBuffer) : iso15693_3ErrorResponseParse buf ≠ some .none := by
  unfold iso15693_3ErrorResponseParse
  dsimp only
  split_ifs <;> simp

theorem parse_whole (info : data.systemInfo.InRange) (whole : buf.content = systemInfoResponse data) :
    iso15693_3SystemInfoResponseParse known buf = (.none, known.learning data.systemInfo) := by
  have size : buf.sizeBytes = systemInfoLayoutSize + systemInfoExtraSize data.systemInfo.flags := by
    rw [← BitBuffer.length_content, whole, length_systemInfoResponse]
  have begins : buf.content <+: systemInfoResponse data := ⟨[], (List.append_nil _).trans whole⟩
  obtain ⟨right, flags⟩ := parse_begun (.inl begins) (size ▸ Nat.le_add_right _ _)
  unfold iso15693_3SystemInfoResponseParse
  rw [right, flags, size, Nat.add_sub_cancel_left]
  rw [if_neg (Nat.not_lt.mpr (Nat.le_add_right _ _)), if_neg (not_not.mpr rfl), systemInfoFields_whole info whole]

theorem parse_other (begins : buf.content <+: systemInfoResponse data ∨ systemInfoResponse data <+: buf.content)
    (other : buf.content.length ≠ (systemInfoResponse data).length) :
    (iso15693_3SystemInfoResponseParse known buf).1 ≠ .none ∧ (iso15693_3SystemInfoResponseParse known buf).2 = known := by
  rw [BitBuffer.length_content, length_systemInfoResponse] at other
  unfold iso15693_3SystemInfoResponseParse
  by_cases short : buf.sizeBytes < systemInfoLayoutSize
  · rcases refused : iso15693_3ErrorResponseParse buf with _ | error
    · rw [if_pos short]
      exact ⟨Iso15693_3Error.noConfusion, rfl⟩
    · exact ⟨fun none => errorResponseParse_ne_none buf (none ▸ refused), rfl⟩
  · obtain ⟨right, flags⟩ := parse_begun begins (Nat.not_lt.mp short)
    rw [right, flags]
    rw [if_neg short, if_pos (by omega)]
    exact ⟨Iso15693_3Error.noConfusion, rfl⟩

end

/-- **The system information that the listener sends is learned by a reader, field by field
that has a flag.** A frame of which the response is the beginning, or that is the beginning
of it, is not taken and teaches nothing. -/
theorem systemInfo_round_trip (instanc : Iso15693_3Listener) (info : instanc.data.systemInfo.InRange) :
    Yields iso15693_3ListenerGetSystemInfoHandler
      (fun error sent => error = .none ∧ ∀ (known : Iso15693_3SystemInfo) (buf : BitBuffer),
        (buf.content = sent.txBuffer →
          iso15693_3SystemInfoResponseParse known buf = (.none, known.learning instanc.data.systemInfo)) ∧
        (CutShort buf.content sent.txBuffer ∨ CutShort sent.txBuffer buf.content →
          (iso15693_3SystemInfoResponseParse known buf).1 ≠ .none ∧
            (iso15693_3SystemInfoResponseParse known buf).2 = known))
      { instanc with txBuffer := [0x00#8] } := by
  refine (Yields.iff_of_ok (getSystemInfo_run instanc)).mpr ⟨rfl, fun known buf => ⟨parse_whole info, ?_⟩⟩
  rintro (⟨short, other⟩ | ⟨long, other⟩)
  · exact parse_other (.inl short) fun same => other (short.eq_of_length same)
  · exact parse_other (.inr long) fun same => other (long.eq_of_length same.symm)

/-- A reader that knows nothing learns the system information of a card that tells all of it. -/
theorem systemInfo_round_trip_full :
    iso15693_3SystemInfoResponseParse ⟨0, 0, 0, 0, 0, 0⟩ (.ofBytes (systemInfoResponse fourBlockCard)) =
      (.none, fourBlockCard.systemInfo) := by
  have told := systemInfo_round_trip (iso15693_3ListenerAlloc releaseBuild fourBlockCard) ⟨by decide, by decide⟩
  exact (told.2 _ _).1 (BitBuffer.content_ofBytes _)

end Xtreme.Nfc
