import Mathlib.Tactic.SplitIfs
import Xtreme.Expansion.ExpansionProtocol

/-! What the decoder of the expansion protocol makes of a byte stream. The stream
comes in chunks of any size (`Delivers`); a chunk is never larger than what is left of
the frame, so the decoder stays inside the frame structure whatever it is sent
(`receiveLoop_stops`), and takes exactly one frame and its checksum
(`decode_stream`). -/
namespace Xtreme.Expansion
open Library

/-- A complete frame of one of the known types. -/
def WellFormed (frame : Memory) : Prop := frameContent frame ≠ none

/-- Two memories hold the same bytes up to the given size. -/
def Agree (frame frame' : Memory) (size : Nat) : Prop := ∀ place < size, frame place = frame' place

/-- A callback that hands over a stream of bytes in chunks of at least one byte, as long
as there are any. -/
structure Delivers {σ : Type*} (receive : Receive σ) (pending : σ → List (BitVec 8)) : Prop where
  next : ∀ context size, (receive context size).1.1 ++ pending (receive context size).2 = pending context
  some : ∀ context size, 0 < size → pending context ≠ [] → (receive context size).1.1 ≠ []

theorem wellFormed_iff (frame : Memory) : WellFormed frame ↔ expansionFrameGetEncodedSize frame ≠ 0 ∧
        (headerType frame = frameTypeData → dataSize frame ≤ expansionProtocolMaxDataSize) := by
  simp only [WellFormed, frameContent, expansionFrameGetEncodedSize]
  by_cases heartbeat : headerType frame = frameTypeHeartbeat
  · simp [heartbeat, frameTypeHeartbeat, frameTypeData]
  by_cases status : headerType frame = frameTypeStatus
  · simp [status, frameTypeHeartbeat, frameTypeStatus, frameTypeData]
  by_cases baud : headerType frame = frameTypeBaudRate
  · simp [baud, frameTypeHeartbeat, frameTypeStatus, frameTypeBaudRate, frameTypeData]
  by_cases control : headerType frame = frameTypeControl
  · simp [control, frameTypeHeartbeat, frameTypeStatus, frameTypeBaudRate, frameTypeControl, frameTypeData]
  by_cases data : headerType frame = frameTypeData
  · simp [data, frameTypeHeartbeat, frameTypeStatus, frameTypeBaudRate, frameTypeControl, frameTypeData]
  · simp [status, baud, control, data]

theorem encodedSize_data {frame : Memory} (data : headerType frame = frameTypeData) :
    expansionFrameGetEncodedSize frame = 1 + 1 + dataSize frame := by
  simp [expansionFrameGetEncodedSize, data, frameTypeHeartbeat, frameTypeStatus, frameTypeBaudRate,
    frameTypeControl, frameTypeData]

theorem contentSize_data {frame : Memory} (data : headerType frame = frameTypeData) (received : Nat) :
    contentSize frame received =
      if received < 1 then some 1
      else if expansionProtocolMaxDataSize < dataSize frame then none
      else some (1 + dataSize frame) := by
  simp [contentSize, data, frameTypeHeartbeat, frameTypeStatus, frameTypeBaudRate, frameTypeControl, frameTypeData]

theorem remaining_fits {frame : Memory} {received remaining : Nat}
    (asks : expansionFrameGetRemainingSize frame received = some remaining) (more : 0 < remaining) :
    received + remaining ≤ sizeofExpansionFrame := by
  rw [expansionFrameGetRemainingSize] at asks
  by_cases start : received < 1
  · rw [if_pos start, Option.some.injEq] at asks
    rw [sizeofExpansionFrame]
    omega
  rw [if_neg start, Option.map_eq_some_iff] at asks
  obtain ⟨content, known, size⟩ := asks
  have small : content ≤ 65 := by
    rw [contentSize, expansionProtocolMaxDataSize] at known
    split_ifs at known <;> have size := Option.some.inj known <;> omega
  rw [sizeofExpansionFrame]
  split at size <;> omega

section Decoder
variable {σ : Type*} {receive : Receive σ} {frame : Memory}

theorem receiveLoop_garbage {passes totalSize : Nat} (context : σ)
    (asks : expansionFrameGetRemainingSize frame totalSize = none) :
    receiveLoop receive (passes + 1) frame totalSize context =
      some ⟨.errorFormat, frame, totalSize, context⟩ := by
  rw [receiveLoop, asks]

theorem receiveLoop_complete {passes totalSize : Nat} (context : σ)
    (asks : expansionFrameGetRemainingSize frame totalSize = some 0) :
    receiveLoop receive (passes + 1) frame totalSize context =
      some ⟨.ok, frame, totalSize, context⟩ := by
  rw [receiveLoop, asks]
  rfl

theorem receiveLoop_asks {passes totalSize remaining : Nat} (context : σ)
    (asks : expansionFrameGetRemainingSize frame totalSize = some remaining) (more : 0 < remaining) :
    receiveLoop receive (passes + 1) frame totalSize context =
      if (receive context remaining).1.1.length = 0 then
        some ⟨.errorCommunication, frame, totalSize, (receive context remaining).2⟩
      else
        receiveLoop receive passes (frame.store totalSize (receive context remaining).1.1)
          (totalSize + (receive context remaining).1.1.length) (receive context remaining).2 := by
  obtain ⟨remaining, rfl⟩ := Nat.exists_eq_succ_of_ne_zero (Nat.ne_of_gt more)
  rw [receiveLoop, asks]
  rfl

/-- **The decoder stops and stays inside the frame structure**, whatever it is sent. -/
theorem receiveLoop_stops (receive : Receive σ) {passes : Nat} (frame : Memory)
    (totalSize : Nat) (context : σ) (within : totalSize ≤ sizeofExpansionFrame)
    (enough : sizeofExpansionFrame < passes + totalSize) :
    ∃ result, receiveLoop receive passes frame totalSize context = some result ∧
      ∀ place, sizeofExpansionFrame ≤ place → result.frame place = frame place := by
  induction passes generalizing frame totalSize context with
  | zero => omega
  | succ passes ih =>
    cases asks : expansionFrameGetRemainingSize frame totalSize with
    | none => exact ⟨_, receiveLoop_garbage context asks, fun _ _ => rfl⟩
    | some remaining =>
      obtain rfl | more := Nat.eq_zero_or_pos remaining
      · exact ⟨_, receiveLoop_complete context asks, fun _ _ => rfl⟩
      rw [receiveLoop_asks context asks more]
      by_cases silent : (receive context remaining).1.1.length = 0
      · rw [if_pos silent]
        exact ⟨_, rfl, fun _ _ => rfl⟩
      · rw [if_neg silent]
        have fits := remaining_fits asks more
        have room := (receive context remaining).1.2
        obtain ⟨result, decoded, kept⟩ := ih (frame.store totalSize (receive context remaining).1.1)
          (totalSize + (receive context remaining).1.1.length)
          (receive context remaining).2 (by omega) (by omega)
        refine ⟨result, decoded, fun place outside => ?_⟩
        rw [kept place outside, frame.store_outside (by omega)]

/-! ### The stream of a frame -/

theorem contentSize_known (wellFormed : WellFormed frame) (received : Nat) : contentSize frame received =
      some (if headerType frame = frameTypeData ∧ received < 1 then 1
        else expansionFrameGetEncodedSize frame - 1) := by
  obtain ⟨known, small⟩ := (wellFormed_iff frame).mp wellFormed
  by_cases data : headerType frame = frameTypeData
  · rw [contentSize_data data, encodedSize_data data]
    by_cases start : received < 1
    · rw [if_pos start, if_pos ⟨data, start⟩]
    · rw [if_neg start, if_neg (Nat.not_lt.mpr (small data)), if_neg (fun both => start both.2)]
      congr 1
      omega
  · rw [if_neg (fun both => data both.1)]
    rw [contentSize, expansionFrameGetEncodedSize] at *
    split_ifs at * <;> first | rfl | contradiction

/-- Of a frame that is partly there the decoder asks for a part of what is missing, and
for nothing only if it is complete. -/
theorem remaining_known {frame other : Memory} (wellFormed : WellFormed frame) {totalSize : Nat}
    (agree : Agree other frame totalSize) (within : totalSize ≤ expansionFrameGetEncodedSize frame) :
    ∃ remaining, expansionFrameGetRemainingSize other totalSize = some remaining ∧
      totalSize + remaining ≤ expansionFrameGetEncodedSize frame ∧
      (remaining = 0 → totalSize = expansionFrameGetEncodedSize frame) := by
  obtain ⟨known, small⟩ := (wellFormed_iff frame).mp wellFormed
  rw [expansionFrameGetRemainingSize]
  by_cases start : totalSize < 1
  · rw [if_pos start]
    exact ⟨1, rfl, by omega, by omega⟩
  have same : contentSize other (totalSize - 1) = contentSize frame (totalSize - 1) := by
    have type : headerType other = headerType frame := agree 0 (by omega)
    rw [contentSize, contentSize, type]
    by_cases unsized : totalSize - 1 < 1
    · rw [if_pos unsized, if_pos unsized]
    · have size : dataSize other = dataSize frame := congrArg BitVec.toNat (agree 1 (by omega))
      rw [size]
  rw [if_neg start]
  dsimp only
  rw [same, contentSize_known wellFormed, Option.map_some]
  refine ⟨_, rfl, ?_⟩
  by_cases unsized : headerType frame = frameTypeData ∧ totalSize - 1 < 1
  · have size := encodedSize_data unsized.1
    rw [if_pos unsized, if_pos unsized.2]
    omega
  · rw [if_neg unsized]
    split <;> omega

theorem frameBytes_length (frame : Memory) (size : Nat) : (frameBytes frame size).length = size := by
  simp [frameBytes]

theorem frameBytes_get (frame : Memory) {size place : Nat} (inside : place < size) :
    (frameBytes frame size)[place]? = some (frame place) := by
  simp [frameBytes, List.getElem?_range inside]

theorem frameBytes_congr {frame frame' : Memory} {size : Nat} (agree : Agree frame frame' size) :
    frameBytes frame size = frameBytes frame' size :=
  List.map_congr_left fun place inside => agree place (List.mem_range.mp inside)

theorem agree_store {frame other : Memory} {totalSize size : Nat} {chunk rest : List (BitVec 8)}
    (agree : Agree other frame totalSize) (fits : totalSize + chunk.length ≤ size)
    (continues : chunk ++ rest = (frameBytes frame size).drop totalSize) :
    Agree (other.store totalSize chunk) frame (totalSize + chunk.length) := by
  intro place inside
  by_cases before : place < totalSize
  · rw [other.store_before before, agree place before]
  · refine other.store_inside (by omega) ?_
    have whole : (chunk ++ rest)[place - totalSize]? = chunk[place - totalSize]? :=
      List.getElem?_append_left (by omega)
    rw [← whole, continues, List.getElem?_drop,
      show totalSize + (place - totalSize) = place by omega, frameBytes_get frame (by omega)]

/-- **The loop takes the frame off the stream**, however it is cut into chunks. -/
theorem receiveLoop_stream {pending : σ → List (BitVec 8)} (delivers : Delivers receive pending) (wellFormed : WellFormed frame) (passes totalSize : Nat) {other : Memory}
    {context : σ} {rest : List (BitVec 8)} (agree : Agree other frame totalSize)
    (within : totalSize ≤ expansionFrameGetEncodedSize frame) (stream : pending context =
      (frameBytes frame (expansionFrameGetEncodedSize frame)).drop totalSize ++ rest)
    (enough : expansionFrameGetEncodedSize frame < passes + totalSize) :
    ∃ decoded context', receiveLoop receive passes other totalSize context =
        some ⟨.ok, decoded, expansionFrameGetEncodedSize frame, context'⟩ ∧
      Agree decoded frame (expansionFrameGetEncodedSize frame) ∧ pending context' = rest := by
  induction passes generalizing totalSize other context with
  | zero => omega
  | succ passes ih =>
    obtain ⟨remaining, asks, fits, complete⟩ := remaining_known wellFormed agree within
    obtain rfl | more := Nat.eq_zero_or_pos remaining
    · have full := complete rfl
      subst full
      rw [List.drop_of_length_le (Nat.le_of_eq (frameBytes_length _ _))] at stream
      exact ⟨other, context, receiveLoop_complete context asks, agree, stream⟩
    have room := (receive context remaining).1.2
    have handed := delivers.next context remaining
    have left : (frameBytes frame (expansionFrameGetEncodedSize frame)).drop totalSize ≠ [] := by
      rw [ne_eq, List.drop_eq_nil_iff, frameBytes_length]
      omega
    have filled := delivers.some context remaining more (by rw [stream]; simp [left])
    rw [receiveLoop_asks context asks more, if_neg (by simpa using filled)]
    generalize (receive context remaining).1.1 = chunk at room handed filled ⊢
    have inside : chunk.length ≤
        ((frameBytes frame (expansionFrameGetEncodedSize frame)).drop totalSize).length := by
      rw [List.length_drop, frameBytes_length]
      omega
    rw [stream] at handed
    have first := congrArg (List.take chunk.length) handed
    rw [List.take_left, List.take_append_of_le_length inside] at first
    have second := congrArg (List.drop chunk.length) handed
    rw [List.drop_left, List.drop_append_of_le_length inside, List.drop_drop] at second
    have continues : chunk ++ (frameBytes frame (expansionFrameGetEncodedSize frame)).drop
        (totalSize + chunk.length) =
        (frameBytes frame (expansionFrameGetEncodedSize frame)).drop totalSize := by
      rw [← List.drop_drop]
      exact (congrArg (· ++ _) first).trans (List.take_append_drop _ _)
    have some := List.length_pos_iff.mpr filled
    exact ih _ (agree_store agree (by omega) continues) (by omega) second (by omega)

theorem frameSize_fits (wellFormed : WellFormed frame) :
    expansionFrameGetEncodedSize frame ≤ sizeofExpansionFrame := by
  have small := ((wellFormed_iff frame).mp wellFormed).2
  by_cases data : headerType frame = frameTypeData
  · have size := small data
    rw [encodedSize_data data, sizeofExpansionFrame]
    rw [expansionProtocolMaxDataSize] at size
    omega
  · rw [expansionFrameGetEncodedSize, sizeofExpansionFrame]
    split_ifs <;> omega

/-- **A frame and one more byte**: the byte is right or wrong as a checksum, and nothing
after it is read. -/
theorem decode_stream {pending : σ → List (BitVec 8)} (delivers : Delivers receive pending) (wellFormed : WellFormed frame) (initial : Memory) {context : σ}
    {checksum : BitVec 8} {rest : List (BitVec 8)} (stream : pending context =
      frameBytes frame (expansionFrameGetEncodedSize frame) ++ checksum :: rest) :
    ∃ decoded context', expansionProtocolDecode receive initial context =
        some (if checksum = expansionProtocolGetChecksum
            (frameBytes frame (expansionFrameGetEncodedSize frame)) then .ok else .errorChecksum,
          decoded, context') ∧
      Agree decoded frame (expansionFrameGetEncodedSize frame) ∧ pending context' = rest := by
  have fits := frameSize_fits wellFormed
  obtain ⟨decoded, before, received, agree, left⟩ := receiveLoop_stream delivers wellFormed
    (sizeofExpansionFrame + 1) 0 (fun _ none => absurd none (Nat.not_lt_zero _)) (Nat.zero_le _)
    stream (by omega)
  have room := (receive before 1).1.2
  have handed := delivers.next before 1
  have filled := delivers.some before 1 Nat.one_pos (by rw [left]; simp)
  rw [left] at handed
  obtain ⟨byte, single⟩ : ∃ byte, (receive before 1).1.1 = [byte] := by
    rw [← List.length_eq_one_iff]
    have := List.length_pos_iff.mpr filled
    omega
  rw [single, List.singleton_append, List.cons.injEq] at handed
  obtain ⟨rfl, rest'⟩ := handed
  refine ⟨decoded, (receive before 1).2, ?_, agree, rest'⟩
  rw [expansionProtocolDecode, received]
  simp only [Option.map_some, ne_eq, not_true_eq_false, if_false, single, List.length_singleton,
    frameBytes_congr agree, List.cons.injEq, and_true]
  by_cases right : byte = expansionProtocolGetChecksum (frameBytes frame (expansionFrameGetEncodedSize frame))
  · rw [if_neg (by simpa using right), if_pos right]
  · rw [if_pos right, if_neg right]

end Decoder

/-! ### Changed bytes -/

theorem checksum_cons (byte : BitVec 8) (data : List (BitVec 8)) :
    expansionProtocolGetChecksum (byte :: data) = byte ^^^ expansionProtocolGetChecksum data := by
  have from_start : ∀ (data : List (BitVec 8)) (start : BitVec 8),
      data.foldl (fun checksum byte => checksum ^^^ byte) start =
        start ^^^ expansionProtocolGetChecksum data := by
    intro data
    induction data with
    | nil => simp [expansionProtocolGetChecksum]
    | cons next data ih =>
      intro start
      rw [expansionProtocolGetChecksum, List.foldl_cons, List.foldl_cons, ih, ih, BitVec.zero_xor, BitVec.xor_assoc]
  rw [expansionProtocolGetChecksum, List.foldl_cons, from_start, BitVec.zero_xor]

theorem checksum_set {data : List (BitVec 8)} {place : Nat} {byte : BitVec 8}
    (inside : place < data.length) (changed : data[place]? ≠ some byte) :
    expansionProtocolGetChecksum (data.set place byte) ≠ expansionProtocolGetChecksum data := by
  induction data generalizing place with
  | nil => exact absurd inside (Nat.not_lt_zero _)
  | cons first data ih =>
    cases place with
    | zero =>
      rw [List.set_cons_zero, checksum_cons, checksum_cons, ne_eq, BitVec.xor_left_inj]
      rintro rfl
      exact changed rfl
    | succ place =>
      rw [List.set_cons_succ, checksum_cons, checksum_cons, ne_eq, BitVec.xor_right_inj]
      exact ih (by simpa using inside) (by simpa using changed)

def changeByte (frame : Memory) (place : Nat) (byte : BitVec 8) : Memory := fun other =>
  if other = place then byte else frame other

theorem frameBytes_change (frame : Memory) (place : Nat) (byte : BitVec 8) (size : Nat) :
    frameBytes (changeByte frame place byte) size = (frameBytes frame size).set place byte := by
  refine List.ext_getElem (by simp [frameBytes]) fun other inside _ => ?_
  simp only [frameBytes, changeByte, List.getElem_map, List.getElem_range, List.getElem_set, @eq_comm _ other]

theorem wellFormed_change {frame : Memory} (wellFormed : WellFormed frame) {place : Nat}
    (content : place ≠ 0) (unsized : headerType frame = frameTypeData → place ≠ 1)
    (byte : BitVec 8) :
    WellFormed (changeByte frame place byte) ∧ expansionFrameGetEncodedSize (changeByte frame place byte) =
        expansionFrameGetEncodedSize frame := by
  have type : headerType (changeByte frame place byte) = headerType frame := if_neg content.symm
  have size : headerType frame = frameTypeData →
      dataSize (changeByte frame place byte) = dataSize frame := fun data =>
    congrArg BitVec.toNat (if_neg (unsized data).symm)
  have same : expansionFrameGetEncodedSize (changeByte frame place byte) =
      expansionFrameGetEncodedSize frame := by
    by_cases data : headerType frame = frameTypeData
    · rw [encodedSize_data data, encodedSize_data (type.trans data), size data]
    · simp only [expansionFrameGetEncodedSize, type, if_neg data]
  refine ⟨?_, same⟩
  rw [wellFormed_iff, same, type]
  obtain ⟨known, small⟩ := (wellFormed_iff frame).mp wellFormed
  exact ⟨known, fun data => by rw [size data]; exact small data⟩

theorem frameContent_congr {frame frame' : Memory} (wellFormed : WellFormed frame)
    (agree : Agree frame' frame (expansionFrameGetEncodedSize frame)) :
    frameContent frame' = frameContent frame := by
  have known := ((wellFormed_iff frame).mp wellFormed).1
  have type : headerType frame' = headerType frame := agree 0 (by omega)
  rw [frameContent, frameContent, type]
  by_cases data : headerType frame = frameTypeData
  · rw [encodedSize_data data] at agree
    have size : dataSize frame' = dataSize frame := congrArg BitVec.toNat (agree 1 (by omega))
    have bytes : (List.range (dataSize frame)).map (fun index => frame' (2 + index)) =
        (List.range (dataSize frame)).map fun index => frame (2 + index) :=
      List.map_congr_left fun index inside =>
        agree (2 + index) (by have := List.mem_range.mp inside; omega)
    rw [size, bytes]
    simp only [data]
    rfl
  rw [expansionFrameGetEncodedSize] at agree
  simp only [data, false_and, if_false] at agree ⊢
  by_cases heartbeat : headerType frame = frameTypeHeartbeat
  · rw [if_pos heartbeat, if_pos heartbeat]
  rw [if_neg heartbeat] at agree
  by_cases status : headerType frame = frameTypeStatus
  · rw [if_pos status] at agree
    rw [if_pos status, if_pos status, agree 1 (by omega)]
  rw [if_neg status] at agree
  rw [if_neg status, if_neg status]
  by_cases baud : headerType frame = frameTypeBaudRate
  · rw [if_pos baud] at agree
    rw [if_pos baud, if_pos baud, agree 1 (by omega), agree 2 (by omega), agree 3 (by omega), agree 4 (by omega)]
  rw [if_neg baud] at agree
  rw [if_neg baud, if_neg baud]
  by_cases control : headerType frame = frameTypeControl
  · rw [if_pos control] at agree
    rw [if_pos control, if_pos control, agree 1 (by omega)]
  · rw [if_neg control, if_neg control]

/-- A sender that takes every byte. -/
def collect : Send (List (BitVec 8)) := fun sent bytes => (bytes.length, sent ++ bytes)

theorem encode_collect {frame : Memory} (wellFormed : WellFormed frame) : expansionProtocolEncode collect frame [] =
      (.ok, frameBytes frame (expansionFrameGetEncodedSize frame) ++
        [expansionProtocolGetChecksum (frameBytes frame (expansionFrameGetEncodedSize frame))]) := by
  have known := ((wellFormed_iff frame).mp wellFormed).1
  simp [expansionProtocolEncode, collect, known, frameBytes_length]

/-- **Frames survive any chunking, and no stream harms the decoder.** What was sent is
decoded to a frame that says the same, from exactly the bytes that were sent; one changed
byte, the type and the size of data apart, is found out by the checksum; and on any stream
whatever the decoder stops without a store beyond the frame structure. -/
theorem frames_decode {σ : Type*} (receive : Receive σ) :
    (∀ pending, Delivers receive pending → ∀ frame, WellFormed frame →
      ∃ sent, expansionProtocolEncode collect frame [] = (.ok, sent) ∧
        (∀ initial context rest, pending context = sent ++ rest →
          ∃ decoded context', expansionProtocolDecode receive initial context = some (.ok, decoded, context') ∧
            frameContent decoded = frameContent frame ∧ pending context' = rest) ∧
        (∀ place byte, place ≠ 0 → (headerType frame = frameTypeData → place ≠ 1) →
          place < sent.length → sent[place]? ≠ some byte →
          ∀ initial context rest, pending context = sent.set place byte ++ rest →
            ∃ decoded context', expansionProtocolDecode receive initial context =
              some (.errorChecksum, decoded, context'))) ∧
    (∀ initial context, ∃ status decoded context',
      expansionProtocolDecode receive initial context = some (status, decoded, context') ∧
        ∀ place, sizeofExpansionFrame ≤ place → decoded place = initial place) := by
  refine ⟨fun pending delivers frame wellFormed => ?_, fun initial context => ?_⟩
  · refine ⟨_, encode_collect wellFormed, ?_, ?_⟩
    · intro initial context rest stream
      rw [List.append_assoc] at stream
      obtain ⟨decoded, context', result, agree, left⟩ :=
        decode_stream delivers wellFormed initial stream
      rw [if_pos rfl] at result
      exact ⟨decoded, context', result, frameContent_congr wellFormed agree, left⟩
    · intro place byte content unsized inside changed initial context rest stream
      rw [List.length_append, frameBytes_length, List.length_singleton] at inside
      by_cases inFrame : place < expansionFrameGetEncodedSize frame
      -- a byte of the frame: the frame sent has another checksum than the one it comes with
      · obtain ⟨wellFormed', size⟩ := wellFormed_change wellFormed content unsized byte
        have listed : place < (frameBytes frame (expansionFrameGetEncodedSize frame)).length := by
          rwa [frameBytes_length]
        rw [List.getElem?_append_left listed] at changed
        have differs := checksum_set listed changed
        rw [List.set_append_left _ _ listed, ← frameBytes_change, ← size, List.append_assoc] at stream
        obtain ⟨decoded, context', result, -⟩ := decode_stream delivers wellFormed' initial stream
        rw [size, frameBytes_change, if_neg differs.symm] at result
        exact ⟨decoded, context', result⟩
      -- the checksum itself
      · obtain rfl : place = expansionFrameGetEncodedSize frame := by omega
        rw [List.getElem?_append_right (Nat.le_of_eq (frameBytes_length _ _)), frameBytes_length,
          Nat.sub_self, List.getElem?_cons_zero, ne_eq, Option.some.injEq] at changed
        rw [List.set_append_right _ _ (Nat.le_of_eq (frameBytes_length _ _)), frameBytes_length,
          Nat.sub_self, List.append_assoc] at stream
        obtain ⟨decoded, context', result, -⟩ := decode_stream delivers wellFormed initial stream
        rw [if_neg (fun right => changed right.symm)] at result
        exact ⟨decoded, context', result⟩
  · obtain ⟨⟨status, frame, totalSize, context'⟩, received, kept⟩ := receiveLoop_stops receive
      initial 0 context (Nat.zero_le _) (Nat.lt_succ_self sizeofExpansionFrame)
    rw [expansionProtocolDecode, received]
    dsimp only [Option.map_some]
    split_ifs
    all_goals exact ⟨_, _, _, rfl, kept⟩

/-- A callback that hands over one byte at a time. -/
def byteByByte : Receive (List (BitVec 8)) := fun stream size =>
  (⟨stream.take (min 1 size), Nat.le_trans (List.length_take_le _ _) (Nat.min_le_right 1 size)⟩,
    stream.drop (min 1 size))

theorem byteByByte_delivers : Delivers byteByByte id where
  next stream size := List.take_append_drop _ _
  some stream size room filled := by
    cases stream with
    | nil => exact absurd rfl filled
    | cons byte stream =>
      have one : min 1 size = 1 := Nat.min_eq_left room
      show (byte :: stream).take (min 1 size) ≠ []
      rw [one]
      exact List.cons_ne_nil _ _

/-- Two bytes of data. -/
def dataFrame : Memory := fun place => [5#8, 2#8, 0xCA#8, 0xFE#8].getD place 0#8

theorem frames_decode_data : ∃ decoded context', expansionProtocolDecode byteByByte (fun _ => 0#8)
        [5#8, 2#8, 0xCA#8, 0xFE#8, 0x33#8, 0xFF#8] = some (.ok, decoded, context') ∧
      frameContent decoded = some (.data [0xCA#8, 0xFE#8]) ∧ context' = [0xFF#8] := by
  have content : frameContent dataFrame = some (.data [0xCA#8, 0xFE#8]) := by decide
  obtain ⟨sent, encoded, decodes, -⟩ := (frames_decode byteByByte).1 id byteByByte_delivers dataFrame
    (fun none => nomatch content.symm.trans none)
  have bytes : expansionProtocolEncode collect dataFrame [] =
      (.ok, [5#8, 2#8, 0xCA#8, 0xFE#8, 0x33#8]) := by decide
  obtain rfl := congrArg Prod.snd (bytes.symm.trans encoded)
  exact decodes (fun _ => 0#8) _ [0xFF#8] rfl

end Xtreme.Expansion
