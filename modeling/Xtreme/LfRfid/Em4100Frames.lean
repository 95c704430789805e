import Xtreme.LfRfid.Em4100

/-! Which words are EM4100 frames, and what the reader makes of a card that
sends its frame over and over. -/
namespace Xtreme.LfRfid
open Xtreme.Library Xtreme.Toolbox
open ShiftRegister (push ofBits)

/-- The bits of a frame in the order they are sent. Row `r` lies at `9 + 5 * r`;
the column parities are what an eleventh row would hold. -/
structure FrameShape (frame : Nat → Bool) : Prop where
  header : ∀ place < 9, frame place = true
  stop : frame 63 = false
  rows : ∀ r < 10, parity ((List.range 5).map fun c => frame (9 + 5 * r + c)) = false
  columns : ∀ c < 4, parity ((List.range 11).map fun r => frame (9 + 5 * r + c)) = false

def dataBit (data : Em4100Data) (r c : Nat) : Bool :=
  (data.getD (r / 2) 0).getLsbD (if r % 2 = 0 then 7 - c else 3 - c)

def Carries (frame : Nat → Bool) (data : Em4100Data) : Prop :=
  ∀ r < 10, ∀ c < 4, frame (9 + 5 * r + c) = dataBit data r c

/-- A frame is its data: header, parities and stop bit add nothing. -/
theorem FrameShape.ext {first second : Nat → Bool} (shaped : FrameShape first) (shaped' : FrameShape second)
    (same : ∀ r < 10, ∀ c < 4, first (9 + 5 * r + c) = second (9 + 5 * r + c)) :
    ∀ place < 64, first place = second place := by
  intro place inside
  have rowParity : ∀ r < 10, first (9 + 5 * r + 4) = second (9 + 5 * r + 4) := by
    intro r row
    have even := shaped.rows r row
    have even' := shaped'.rows r row
    simp only [parity, List.range, List.range.loop, List.map_cons] at even even'
    rw [same r row 0 (by omega), same r row 1 (by omega), same r row 2 (by omega), same r row 3 (by omega)] at even
    simpa using even.trans even'.symm
  have columnParity : ∀ c < 4, first (59 + c) = second (59 + c) := by
    intro c column
    have even := shaped.columns c column
    have even' := shaped'.columns c column
    rw [List.range_succ, List.map_append, parity] at even even'
    have data : (List.range 10).map (fun r => first (9 + 5 * r + c)) =
        (List.range 10).map (fun r => second (9 + 5 * r + c)) :=
      List.map_congr_left fun r row => same r (List.mem_range.mp row) c column
    rw [data] at even
    simpa using even.trans even'.symm
  by_cases header : place < 9
  · rw [shaped.header place header, shaped'.header place header]
  by_cases rows : place < 59
  · obtain ⟨r, c, row, column, rfl⟩ : ∃ r c, r < 10 ∧ c < 5 ∧ place = 9 + 5 * r + c :=
      ⟨(place - 9) / 5, (place - 9) % 5, by omega, by omega, by omega⟩
    by_cases isData : c < 4
    · exact same r row c isData
    · obtain rfl : c = 4 := by omega
      exact rowParity r row
  by_cases columns : place < 63
  · obtain ⟨c, rfl⟩ : ∃ c, place = 59 + c := ⟨place - 59, by omega⟩
    exact columnParity c (by omega)
  · obtain rfl : place = 63 := by omega
    rw [shaped.stop, shaped'.stop]

/-- **No false synchronisation.** A frame looked at from another place of its
endless repetition is not a frame. -/
theorem FrameShape.rotation_rejected {frame : Nat → Bool} (shaped : FrameShape frame) {r : Nat}
    (moved : 0 < r) (inside : r < 64) : ¬ FrameShape fun place => frame ((r + place) % 64) := by
  intro rotated
  have ones : ∀ place, r ≤ place → place < r + 9 → place < 64 → frame place = true := by
    intro place low high small
    have one := rotated.header (place - r) (by omega)
    rwa [show (r + (place - r)) % 64 = place by omega] at one
  have stop : frame (r - 1) = false := by
    have zero := rotated.stop
    rwa [show (r + 63) % 64 = r - 1 by omega] at zero
  by_cases header : r < 10
  · -- the bit in the place of the stop bit is a header one
    rw [shaped.header (r - 1) (by omega)] at stop
    exact Bool.noConfusion stop
  by_cases wraps : 55 ≤ r
  · -- the header of the window would cover the stop zero
    have one := ones 63 (by omega) (by omega) (by omega)
    rw [shaped.stop] at one
    exact Bool.noConfusion one
  · -- the header of the window covers the first row that starts in it
    have even := shaped.rows ((r - 9 + 4) / 5) (by omega)
    have covered : ∀ c, c < 5 → frame (9 + 5 * ((r - 9 + 4) / 5) + c) = true := by
      intro c small
      exact ones _ (by omega) (by omega) (by omega)
    simp only [List.range, List.range.loop, List.map_cons, covered 0 (by omega), covered 1 (by omega), covered 2 (by omega),
      covered 3 (by omega), covered 4 (by omega)] at even
    exact Bool.noConfusion even

variable (data : Em4100Data)

theorem getD_data {i : Nat} (small : i < em4100DecodedDataSize) :
    data.getD i 0 = data[i] := by
  simp [Vector.getD, Vector.getElem?_eq_getElem small]

/-- The even rows hold the high halves of the bytes. -/
theorem dataBit_even {i : Nat} (small : i < em4100DecodedDataSize) (c : Nat) :
    dataBit data (2 * i) c = data[i].getLsbD (7 - c) := by
  rw [dataBit, if_pos (by omega), Nat.mul_div_cancel_left i (by omega), getD_data data small]

/-- The odd rows hold the low halves. -/
theorem dataBit_odd {i : Nat} (small : i < em4100DecodedDataSize) (c : Nat) :
    dataBit data (2 * i + 1) c = data[i].getLsbD (3 - c) := by
  rw [dataBit, if_neg (by omega), show (2 * i + 1) / 2 = i by omega, getD_data data small]

theorem Carries.unique {frame : Nat → Bool} {data data' : Em4100Data} (carries : Carries frame data)
    (carries' : Carries frame data') : data = data' := by
  apply Vector.ext
  intro i small
  have row : i < 5 := small
  apply BitVec.eq_of_getLsbD_eq
  intro b place
  by_cases high : 4 ≤ b
  · have same := (carries (2 * i) (by omega) (7 - b) (by omega)).symm.trans (carries' _ (by omega) _ (by omega))
    rwa [dataBit_even _ small, dataBit_even _ small, show 7 - (7 - b) = b by omega] at same
  · have same := (carries (2 * i + 1) (by omega) (3 - b) (by omega)).symm.trans (carries' _ (by omega) _ (by omega))
    rwa [dataBit_odd _ small, dataBit_odd _ small, show 3 - (3 - b) = b by omega] at same

theorem odd_iff_lsb : ∀ sum : BitVec 8, sum % 2 ≠ 0 ↔ sum.getLsbD 0 = true := by decide

theorem bit_moved_down (word : BitVec 64) (place : Nat) :
    ((word >>> place) &&& 1).setWidth 8 = (BitVec.ofBool (word.getLsbD place)).setWidth 8 := by
  apply BitVec.eq_of_getLsbD_eq
  intro i _
  cases i with
  | zero => simp
  | succ i => simp

variable (cardData : Em4100DecodedData)

theorem em4100ParitySum_odd (places : List Nat) :
    em4100ParitySum cardData places % 2 ≠ 0 ↔ parity (places.map cardData.getLsbD) = true := by
  rw [odd_iff_lsb, em4100ParitySum, ← @lsb_countOnes 8 (by omega), countOnes, List.foldl_map]
  simp only [bit_moved_down]

theorem headerAndStopMask_bits :
    ∀ place < 64, emHeaderAndStopMask.getMsbD place = (decide (place < 9) || decide (place = 63)) := by
  decide

theorem headerAndStopData_bits :
    ∀ place < 64, emHeaderAndStopData.getMsbD place = decide (place < 9) := by
  decide

theorem header_and_stop_iff : cardData &&& emHeaderAndStopMask = emHeaderAndStopData ↔
      (∀ place < 9, cardData.getMsbD place = true) ∧ cardData.getMsbD 63 = false := by
  constructor
  · intro equal
    have bits (place : Nat) := congrArg (fun word : BitVec 64 => word.getMsbD place) equal
    simp only [BitVec.getMsbD_and] at bits
    constructor
    · intro place header
      have bit := bits place
      rw [headerAndStopMask_bits place (by omega), headerAndStopData_bits place (by omega)] at bit
      simpa [header] using bit
    · have bit := bits 63
      rw [headerAndStopMask_bits 63 (by omega), headerAndStopData_bits 63 (by omega)] at bit
      simpa using bit
  · rintro ⟨header, stop⟩
    apply BitVec.eq_of_getMsbD_eq
    intro place inside
    rw [BitVec.getMsbD_and, headerAndStopMask_bits place inside, headerAndStopData_bits place inside]
    by_cases first : place < 9
    · simp [header place first, first]
    · by_cases last : place = 63
      · subst last
        simp [stop]
      · simp [first, last]

theorem getLsbD_eq_getMsbD (word : BitVec 64) {place : Nat} (inside : place < 64) :
    word.getLsbD place = word.getMsbD (63 - place) := by
  rw [BitVec.getMsbD_eq_getLsbD, decide_eq_true (by omega)]
  congr 1
  omega

theorem row_places {r : Nat} (row : r < 10) :
    ((List.range emBitsPerRowCount).map fun j => emFirstRowPos - r * emBitsPerRowCount + j).map cardData.getLsbD =
      ((List.range 5).map fun c => cardData.getMsbD (9 + 5 * r + c)).reverse := by
  simp only [emBitsPerRowCount, emColumnCount, emFirstRowPos, List.range, List.range.loop,
    List.map_cons, List.map_nil, List.reverse_cons, List.reverse_nil, List.nil_append,
    List.cons_append, List.cons.injEq, and_true]
  refine ⟨?_, ?_, ?_, ?_, ?_⟩ <;> rw [getLsbD_eq_getMsbD _ (by omega)] <;> congr 1 <;> omega

theorem column_places {c : Nat} (column : c < 4) :
    ((List.range (emRowCount + 1)).map fun j => emColumnPos - c + j * emBitsPerRowCount).map cardData.getLsbD =
      ((List.range 11).map fun r => cardData.getMsbD (9 + 5 * r + c)).reverse := by
  simp only [emBitsPerRowCount, emColumnCount, emColumnPos, emRowCount, List.range, List.range.loop,
    List.map_cons, List.map_nil, List.reverse_cons, List.reverse_nil, List.nil_append,
    List.cons_append, List.cons.injEq, and_true]
  refine ⟨?_, ?_, ?_, ?_, ?_, ?_, ?_, ?_, ?_, ?_, ?_⟩ <;>
    rw [getLsbD_eq_getMsbD _ (by omega)] <;> congr 1 <;> omega

theorem canBeDecoded_checks : em4100CanBeDecoded cardData = true ↔
      cardData &&& emHeaderAndStopMask = emHeaderAndStopData ∧
      (∀ r < 10, ¬ em4100ParitySum cardData ((List.range emBitsPerRowCount).map fun j =>
        emFirstRowPos - r * emBitsPerRowCount + j) % 2 ≠ 0) ∧
      ∀ c < 4, ¬ em4100ParitySum cardData ((List.range (emRowCount + 1)).map fun j =>
        emColumnPos - c + j * emBitsPerRowCount) % 2 ≠ 0 := by
  unfold em4100CanBeDecoded
  split_ifs with header rows columns
  · simp only [false_iff, not_and]
    exact fun equal => absurd equal header
  · simp only [List.any_eq_true, List.mem_range, decide_eq_true_eq] at rows
    obtain ⟨r, row, odd⟩ := rows
    simp only [false_iff, not_and]
    exact fun _ even => absurd odd (even r row)
  · simp only [List.any_eq_true, List.mem_range, decide_eq_true_eq] at columns
    obtain ⟨c, column, odd⟩ := columns
    simp only [false_iff, not_and]
    exact fun _ _ even => absurd odd (even c column)
  · simp only [List.any_eq_true, List.mem_range, decide_eq_true_eq, not_exists, not_and] at rows columns
    simp only [true_iff]
    exact ⟨not_not.mp header, rows, columns⟩

/-- **The reader's checks.** A window passes exactly when it has the shape of a frame. -/
theorem canBeDecoded_iff :
    em4100CanBeDecoded cardData = true ↔ FrameShape cardData.getMsbD := by
  have rows : (∀ r < 10, ¬ em4100ParitySum cardData ((List.range emBitsPerRowCount).map fun j =>
        emFirstRowPos - r * emBitsPerRowCount + j) % 2 ≠ 0) ↔
      ∀ r < 10, parity ((List.range 5).map fun c => cardData.getMsbD (9 + 5 * r + c)) = false := by
    refine forall₂_congr fun r row => ?_
    rw [em4100ParitySum_odd, row_places cardData row, parity_reverse, Bool.not_eq_true]
  have columns : (∀ c < 4, ¬ em4100ParitySum cardData ((List.range (emRowCount + 1)).map fun j =>
        emColumnPos - c + j * emBitsPerRowCount) % 2 ≠ 0) ↔
      ∀ c < 4, parity ((List.range 11).map fun r => cardData.getMsbD (9 + 5 * r + c)) = false := by
    refine forall₂_congr fun c column => ?_
    rw [em4100ParitySum_odd, column_places cardData column, parity_reverse, Bool.not_eq_true]
  rw [canBeDecoded_checks, header_and_stop_iff, rows, columns]
  constructor
  · rintro ⟨⟨header, stop⟩, evenRows, evenColumns⟩
    exact ⟨header, stop, evenRows, evenColumns⟩
  · rintro ⟨header, stop, evenRows, evenColumns⟩
    exact ⟨⟨header, stop⟩, evenRows, evenColumns⟩

def nibbleBits (word : Em4100DecodedData) (place : Nat) : List Bool :=
  (List.range 4).map fun c => word.getMsbD (place + c)

variable (word : Em4100DecodedData)

theorem highest_bit : (if word &&& (1#64 <<< 63) ≠ 0 then 1 else 0 : BitVec 8) =
      (BitVec.ofBool (word.getMsbD 0)).setWidth 8 := by
  have one : BitVec.twoPow 64 63 ≠ 0#64 := by decide
  rw [← BitVec.twoPow_eq, BitVec.and_twoPow, BitVec.getMsbD_eq_getLsbD, decide_eq_true (by omega)]
  cases word.getLsbD 63 with
  | false => simp
  | true => simp [one]

theorem decodeBit_row (place : Nat) : (List.range 5).foldl em4100DecodeBit (0, word <<< place) =
      (ofBits (nibbleBits word place), word <<< (place + 5)) := by
  have taken (nibble : BitVec 8) (i j : Nat) (data : i < 4) :
      em4100DecodeBit (nibble, word <<< j) i = (push nibble (word.getMsbD j), word <<< (j + 1)) := by
    rw [em4100DecodeBit, if_pos data, highest_bit, BitVec.getMsbD_shiftLeft, Nat.zero_add, ← BitVec.shiftLeft_add]
    rfl
  have skipped (nibble : BitVec 8) (j : Nat) :
      em4100DecodeBit (nibble, word <<< j) 4 = (nibble, word <<< (j + 1)) := by
    rw [em4100DecodeBit, if_neg (by omega), ← BitVec.shiftLeft_add]
  simp only [List.range, List.range.loop, List.foldl_cons]
  rw [taken _ 0 _ (by omega), taken _ 1 _ (by omega), taken _ 2 _ (by omega), taken _ 3 _ (by omega), skipped]
  rfl

theorem nibbles_join (place place' : Nat) :
    (ofBits (nibbleBits word place) <<< 4) ||| (ofBits (nibbleBits word place') : BitVec 8) =
      ofBits (nibbleBits word place ++ nibbleBits word place') := by
  have join : ∀ a b c d e f g h : Bool, (ofBits [a, b, c, d] <<< 4) ||| (ofBits [e, f, g, h] : BitVec 8) =
      ofBits [a, b, c, d, e, f, g, h] := by decide
  exact join _ _ _ _ _ _ _ _

/-- Two rows fill the next byte of the result. -/
theorem decodeRow_pair (decoded : Em4100Data) (place i : Nat) (blank : decoded.getD i 0 = 0) :
    em4100DecodeRow (em4100DecodeRow ⟨0, i, decoded, word <<< place⟩ (2 * i)) (2 * i + 1) =
      ⟨0, i + 1, decoded.setIfInBounds i
        (ofBits (nibbleBits word place ++ nibbleBits word (place + 5))), word <<< (place + 10)⟩ := by
  have first : em4100DecodeRow ⟨0, i, decoded, word <<< place⟩ (2 * i) =
      ⟨ofBits (nibbleBits word place), i, decoded, word <<< (place + 5)⟩ := by
    simp only [em4100DecodeRow, decodeBit_row]
    simp
  rw [first]
  simp only [em4100DecodeRow, decodeBit_row]
  rw [blank, nibbles_join]
  simp

/-- Byte `i` of the result comes from the rows `2 * i` and `2 * i + 1`. -/
theorem em4100Decode_eq : em4100Decode word = Vector.ofFn fun i : Fin 5 =>
      ofBits (nibbleBits word (9 + 10 * i.val) ++ nibbleBits word (14 + 10 * i.val)) := by
  have header : (List.range 9).foldl (fun (cardData : Em4100DecodedData) _ => cardData <<< 1) word =
      word <<< 9 := by
    simp only [List.range, List.range.loop, List.foldl_cons, List.foldl_nil, ← BitVec.shiftLeft_add]
  rw [em4100Decode, header]
  simp only [emRowCount, List.range, List.range.loop, List.foldl_cons]
  rw [decodeRow_pair word _ 9 0 rfl, decodeRow_pair word _ 19 1 rfl, decodeRow_pair word _ 29 2 rfl,
    decodeRow_pair word _ 39 3 rfl, decodeRow_pair word _ 49 4 rfl]
  rfl

theorem joined_nibbles_bits (place place' : Nat) {c : Nat} (column : c < 4) :
    (ofBits (nibbleBits word place ++ nibbleBits word place') : BitVec 8).getLsbD (7 - c) =
        word.getMsbD (place + c) ∧
      (ofBits (nibbleBits word place ++ nibbleBits word place') : BitVec 8).getLsbD (3 - c) =
        word.getMsbD (place' + c) := by
  rw [ShiftRegister.getLsbD_ofBits _ (by omega), ShiftRegister.getLsbD_ofBits _ (by omega)]
  obtain rfl | rfl | rfl | rfl : c = 0 ∨ c = 1 ∨ c = 2 ∨ c = 3 := by omega
  all_goals exact ⟨rfl, rfl⟩

/-- A window carries what the reader takes out of it. -/
theorem carries_decode : Carries word.getMsbD (em4100Decode word) := by
  intro r row c column
  have byte (i : Nat) (small : i < em4100DecodedDataSize) : (em4100Decode word)[i] =
      ofBits (nibbleBits word (9 + 10 * i) ++ nibbleBits word (14 + 10 * i)) := by
    rw [em4100Decode_eq]
    exact Vector.getElem_ofFn small
  obtain ⟨i, rfl | rfl⟩ : ∃ i, r = 2 * i ∨ r = 2 * i + 1 := ⟨r / 2, by omega⟩
  · have small : i < em4100DecodedDataSize := by
      unfold em4100DecodedDataSize
      omega
    rw [dataBit_even _ small, byte i small, (joined_nibbles_bits word _ _ column).1]
    congr 1
    omega
  · have small : i < em4100DecodedDataSize := by
      unfold em4100DecodedDataSize
      omega
    rw [dataBit_odd _ small, byte i small, (joined_nibbles_bits word _ _ column).2]
    congr 1
    omega

/-! ## What a card sends -/

/-- Shifting in a sum of bits modulo two shifts in their parity. -/
theorem push_parity (sum : BitVec 8) :
    (word <<< 1) ||| ((sum % 2) &&& 1).setWidth 64 = push word (sum.getLsbD 0) := by
  have low : ∀ sum : BitVec 8, (sum % 2) &&& 1 = (BitVec.ofBool (sum.getLsbD 0)).setWidth 8 := by
    decide
  rw [low sum]
  cases sum.getLsbD 0 <;> rfl

theorem push_bit (byte : BitVec 8) (i : Nat) :
    (word <<< 1) ||| ((byte >>> i) &&& 1).setWidth 64 = push word (byte.getLsbD i) := by
  have low : ((byte >>> i) &&& 1).setWidth 64 = (BitVec.ofBool (byte.getLsbD i)).setWidth 64 := by
    apply BitVec.eq_of_getLsbD_eq
    intro place _
    cases place with
    | zero =>
      have narrow : byte.getLsbD i = true → i < 64 := fun set => by
        have := BitVec.lt_of_getLsbD set
        omega
      simpa using narrow
    | succ place => simp
  rw [push, low]

theorem add_bit (sum byte : BitVec 8) (i : Nat) :
    sum + ((byte >>> i) &&& 1) = sum + (BitVec.ofBool (byte.getLsbD i)).setWidth 8 := by
  congr 1
  apply BitVec.eq_of_getLsbD_eq
  intro place _
  cases place with
  | zero => simp
  | succ place => simp

def rowBits (data : Em4100Data) (r : Nat) : List Bool :=
  (List.range 4).map (dataBit data r) ++ [parity ((List.range 4).map (dataBit data r))]

@[simp] theorem length_rowBits (data : Em4100Data) (r : Nat) : (rowBits data r).length = 5 := rfl

theorem writeNibble_ofBits (lowNibble : Bool) (byte : BitVec 8) (sent bits : List Bool)
    (nibble : bits = ((List.range 4).reverse.map ((if lowNibble then 0 else 4) + ·)).map byte.getLsbD) :
    em4100WriteNibble lowNibble byte (ofBits sent) = ofBits (sent ++ (bits ++ [parity bits])) := by
  have loop (places : List Nat) (sum : BitVec 8) (word : Em4100DecodedData) :
      places.foldl (fun (state : BitVec 8 × Em4100DecodedData) i =>
        (state.1 + ((byte >>> i) &&& 1), (state.2 <<< 1) ||| ((byte >>> i) &&& 1).setWidth 64)) (sum, word) =
      ((places.map byte.getLsbD).foldl (fun sum bit => sum + (BitVec.ofBool bit).setWidth 8) sum,
        (places.map byte.getLsbD).foldl push word) := by
    induction places generalizing sum word with
    | nil => rfl
    | cons place places ih =>
      rw [List.foldl_cons, ih, push_bit, add_bit]
      rfl
  have written : em4100WriteNibble lowNibble byte (ofBits sent) = _ :=
    congrArg (fun state : BitVec 8 × Em4100DecodedData => (state.2 <<< 1) ||| ((state.1 % 2) &&& 1).setWidth 64)
      (loop ((List.range 4).reverse.map ((if lowNibble then 0 else 4) + ·)) 0 (ofBits sent))
  rw [written]
  simp only [push_parity, ← nibble]
  rw [← countOnes, lsb_countOnes (by omega), ← List.append_assoc, ← ShiftRegister.push_ofBits,
    ofBits, ofBits, List.foldl_append]

theorem write_byte (i : Nat) (sent : List Bool) :
    em4100WriteNibble true (data.getD i 0) (em4100WriteNibble false (data.getD i 0) (ofBits sent)) =
      ofBits (sent ++ (rowBits data (2 * i) ++ rowBits data (2 * i + 1))) := by
  have even (c : Nat) : dataBit data (2 * i) c = (data.getD i 0).getLsbD (7 - c) := by
    rw [dataBit, if_pos (by omega), Nat.mul_div_cancel_left i (by omega)]
  have odd (c : Nat) : dataBit data (2 * i + 1) c = (data.getD i 0).getLsbD (3 - c) := by
    rw [dataBit, if_neg (by omega), show (2 * i + 1) / 2 = i by omega]
  rw [writeNibble_ofBits false _ _ ((List.range 4).map (dataBit data (2 * i))),
    writeNibble_ofBits true _ _ ((List.range 4).map (dataBit data (2 * i + 1))),
    List.append_assoc]
  · rfl
  · simp [List.range, List.range.loop, odd]
  · simp [List.range, List.range.loop, even]

def headerAndRows (data : Em4100Data) : List Bool :=
  List.replicate 9 true ++ (List.range 10).flatMap (rowBits data)

/-- The parity of the fourth bit back from each row's end, seen from the end of what was sent. -/
def columnBit (sent : List Bool) : Bool :=
  parity ((List.range 10).map fun i => (sent.reverse[(i + 1) * 5 - 1]?).getD false)

def withColumn (sent : List Bool) : List Bool := sent ++ [columnBit sent]

theorem writeColumn_ofBits (sent : List Bool) :
    em4100WriteColumn (ofBits sent) = ofBits (withColumn sent) := by
  rw [em4100WriteColumn, push_parity, withColumn, ← ShiftRegister.push_ofBits]
  congr 1
  have odd := em4100ParitySum_odd (ofBits sent)
    ((List.range emRowCount).map fun i => (i + 1) * emBitsPerRowCount - 1)
  rw [odd_iff_lsb, ← Bool.eq_iff_iff] at odd
  rw [odd, List.map_map]
  congr 1
  apply List.map_congr_left
  intro i row
  have row : i < 10 := List.mem_range.mp row
  exact ShiftRegister.getLsbD_ofBits sent (by
    simp only [emBitsPerRowCount, emColumnCount]
    omega)

def frameBits (data : Em4100Data) : List Bool :=
  withColumn (withColumn (withColumn (withColumn (headerAndRows data)))) ++ [false]

theorem em4100Encode_eq : em4100Encode data = ofBits (frameBits data) := by
  have header : (0b111111111 : Em4100DecodedData) = ofBits (List.replicate 9 true) := by decide
  have stop (word : Em4100DecodedData) : (word <<< 1) ||| 0 = push word false := by
    simp [push]
  rw [em4100Encode, header, frameBits, ← ShiftRegister.push_ofBits, ← writeColumn_ofBits,
    ← writeColumn_ofBits, ← writeColumn_ofBits, ← writeColumn_ofBits, stop]
  have bytes : List.range em4100DecodedDataSize = [0, 1, 2, 3, 4] := rfl
  have columns : List.range emColumnCount = [0, 1, 2, 3] := rfl
  have rows : List.range 10 = [0, 1, 2, 3, 4, 5, 6, 7, 8, 9] := rfl
  rw [bytes, columns, headerAndRows, rows]
  simp only [List.foldl_cons, List.foldl_nil, write_byte, List.append_assoc, List.flatMap_cons,
    List.flatMap_nil, List.append_nil]

@[simp] theorem length_headerAndRows (data : Em4100Data) : (headerAndRows data).length = 59 := by
  simp [headerAndRows]

@[simp] theorem length_withColumn (sent : List Bool) :
    (withColumn sent).length = sent.length + 1 := by
  simp [withColumn]

@[simp] theorem length_frameBits (data : Em4100Data) : (frameBits data).length = 64 := by
  simp [frameBits]

def sentBit (data : Em4100Data) (place : Nat) : Bool := ((frameBits data)[place]?).getD false

theorem getMsbD_em4100Encode {place : Nat} (inside : place < 64) :
    (em4100Encode data).getMsbD place = sentBit data place := by
  rw [em4100Encode_eq, ShiftRegister.getMsbD_ofBits _ inside (by simp), length_frameBits, Nat.zero_add, sentBit]

theorem getElem?_rows (rows : Nat → List Bool) (five : ∀ r, (rows r).length = 5) {count r c : Nat}
    (row : r < count) (column : c < 5) :
    ((List.range count).flatMap rows)[5 * r + c]? = (rows r)[c]? := by
  induction count with
  | zero => omega
  | succ count ih =>
    have before : ((List.range count).flatMap rows).length = 5 * count := by
      simp [five, Nat.mul_comm]
    rw [List.range_succ, List.flatMap_append, List.flatMap_singleton]
    by_cases last : r = count
    · subst last
      rw [List.getElem?_append_right (by omega), before, Nat.add_sub_cancel_left]
    · rw [List.getElem?_append_left (by omega), ih (by omega)]

theorem frameBits_prefix : headerAndRows data <+: frameBits data := by
  simp only [frameBits, withColumn, List.append_assoc]
  exact List.prefix_append _ _

theorem sentBit_row {r c : Nat} (row : r < 10) (column : c < 5) :
    sentBit data (9 + 5 * r + c) = ((rowBits data r)[c]?).getD false := by
  obtain ⟨rest, frame⟩ := frameBits_prefix data
  rw [sentBit, ← frame, List.getElem?_append_left (by rw [length_headerAndRows]; omega),
    headerAndRows, List.getElem?_append_right (by simp; omega), List.length_replicate,
    show 9 + 5 * r + c - 9 = 5 * r + c by omega, getElem?_rows _ (length_rowBits data) row column]

theorem carries_sentBit : Carries (sentBit data) data := by
  intro r row c column
  rw [sentBit_row data row (by omega), rowBits, List.getElem?_append_left (by simpa using column),
    List.getElem?_map, List.getElem?_range column]
  rfl

theorem columnBit_eq (sent : List Bool) {c : Nat} (column : c < 4)
    (before : sent <+: frameBits data) (length : sent.length = 59 + c) :
    columnBit sent = parity ((List.range 10).map fun r => sentBit data (9 + 5 * r + c)) := by
  have back (i : Nat) (row : i < 10) : (sent.reverse[(i + 1) * 5 - 1]?).getD false =
      sentBit data (9 + 5 * (9 - i) + c) := by
    obtain ⟨rest, frame⟩ := before
    rw [List.getElem?_reverse (by omega), sentBit, ← frame, List.getElem?_append_left (by omega)]
    congr 2
    omega
  have rows : List.range 10 = [0, 1, 2, 3, 4, 5, 6, 7, 8, 9] := rfl
  rw [columnBit, List.map_congr_left fun i row => back i (List.mem_range.mp row), ← parity_reverse]
  rfl

theorem sentBit_closing (sent : List Bool) {c : Nat} (column : c < 4)
    (before : withColumn sent <+: frameBits data) (length : sent.length = 59 + c) :
    sentBit data (59 + c) = parity ((List.range 10).map fun r => sentBit data (9 + 5 * r + c)) := by
  rw [← columnBit_eq data sent column ((List.prefix_append _ _).trans before) length]
  obtain ⟨rest, frame⟩ := before
  rw [sentBit, ← frame, withColumn, List.append_assoc, List.getElem?_append_right (by omega), length, Nat.sub_self]
  rfl

theorem sentBit_column {c : Nat} (column : c < 4) :
    sentBit data (59 + c) = parity ((List.range 10).map fun r => sentBit data (9 + 5 * r + c)) := by
  have grows (sent : List Bool) : sent <+: withColumn sent := List.prefix_append _ _
  have fourth : withColumn (withColumn (withColumn (withColumn (headerAndRows data)))) <+:
      frameBits data := List.prefix_append _ _
  have third := (grows _).trans fourth
  have second := (grows _).trans third
  have first := (grows _).trans second
  obtain rfl | rfl | rfl | rfl : c = 0 ∨ c = 1 ∨ c = 2 ∨ c = 3 := by omega
  · exact sentBit_closing data _ column first (by simp)
  · exact sentBit_closing data _ column second (by simp)
  · exact sentBit_closing data _ column third (by simp)
  · exact sentBit_closing data _ column fourth (by simp)

theorem frameShape_sentBit : FrameShape (sentBit data) where
  header := by
    intro place header
    obtain ⟨rest, frame⟩ := frameBits_prefix data
    rw [sentBit, ← frame, headerAndRows, List.append_assoc, List.getElem?_append_left (by simpa),
      List.getElem?_replicate_of_lt header, Option.getD_some]
  stop := by
    rw [sentBit, frameBits]
    simp
  rows := by
    intro r row
    have bits (c : Nat) (inside : c < 5) := sentBit_row data row inside
    rw [List.map_congr_left fun c inside => bits c (List.mem_range.mp inside)]
    have all : (List.range 5).map (fun c => ((rowBits data r)[c]?).getD false) = rowBits data r := rfl
    rw [all, rowBits, parity, List.foldl_append, ← parity]
    simp
  columns := by
    intro c column
    rw [List.range_succ, List.map_append, parity, List.foldl_append, ← parity]
    simp [sentBit_column data column]

theorem shaped_encode : FrameShape (em4100Encode data).getMsbD where
  header place header := by
    rw [getMsbD_em4100Encode data (by omega), (frameShape_sentBit data).header place header]
  stop := by rw [getMsbD_em4100Encode data (by omega), (frameShape_sentBit data).stop]
  rows r row := by
    rw [List.map_congr_left fun c inside => getMsbD_em4100Encode data (by
      have := List.mem_range.mp inside
      omega)]
    exact (frameShape_sentBit data).rows r row
  columns c column := by
    rw [List.map_congr_left fun r inside => getMsbD_em4100Encode data (by
      have := List.mem_range.mp inside
      omega)]
    exact (frameShape_sentBit data).columns c column

theorem carries_encode : Carries (em4100Encode data).getMsbD data := by
  intro r row c column
  rw [getMsbD_em4100Encode data (by omega)]
  exact carries_sentBit data r row c column

/-- A card's own frame is read back as its data. -/
theorem decode_encode : em4100Decode (em4100Encode data) = data :=
  (carries_decode _).unique (carries_encode data)

/-- A window that passes the checks is the frame of the data taken out of it. -/
theorem encode_decode {window : Em4100DecodedData} (accepted : em4100CanBeDecoded window = true) :
    em4100Encode (em4100Decode window) = window := by
  have shaped := (canBeDecoded_iff window).mp accepted
  apply BitVec.eq_of_getMsbD_eq
  exact (shaped_encode _).ext shaped fun r row c column => by
    rw [carries_encode _ r row c column, carries_decode window r row c column]

/-! ## A card in the field -/

def yields (card : ProtocolEm4100) : Nat → ProtocolEm4100
  | 0 => card
  | count + 1 => (protocolEm4100EncoderYield (yields card count)).2

/-- Bit `n` of the endlessly repeated frame: the level of the first of its two yields. -/
def streamBit (card : ProtocolEm4100) (n : Nat) : Bool :=
  (protocolEm4100EncoderYield (yields (protocolEm4100EncoderStart card) (2 * n))).1.1

def feedBits (reader : ProtocolEm4100) (bits : List Bool) : ProtocolEm4100 :=
  bits.foldl (fun reader bit => (em4100FeedBit reader bit).2) reader

variable (card : ProtocolEm4100)

theorem yields_twice (n : Nat) : yields (protocolEm4100EncoderStart card) (2 * n) =
      { protocolEm4100EncoderStart card with encodedDataIndex := n % 64 } := by
  induction n with
  | zero => rfl
  | succ n ih =>
    rw [Nat.mul_succ, yields, yields, ih]
    have next : (if 64 ≤ n % 64 + 1 then 0 else n % 64 + 1) = (n + 1) % 64 := by
      split <;> omega
    simp only [protocolEm4100EncoderYield, protocolEm4100EncoderStart, if_true, Bool.false_eq_true, if_false, next]

theorem yield_level (first : card.encodedPolarity = true) : (protocolEm4100EncoderYield card).1.1 =
      card.encodedData.getLsbD (63 - card.encodedDataIndex) := by
  have low (word : BitVec 64) (place : Nat) :
      decide ((word >>> place) &&& 1#64 ≠ 0) = word.getLsbD place := by
    rw [BitVec.and_one_eq_setWidth_ofBool_getLsbD, BitVec.getLsbD_ushiftRight]
    cases word.getLsbD place <;> rfl
  rw [protocolEm4100EncoderYield, if_pos first]
  exact low _ _

/-- The card sends its frame from the highest bit down and starts again. -/
theorem streamBit_eq (n : Nat) :
    streamBit card n = (em4100Encode card.data).getMsbD (n % 64) := by
  rw [streamBit, yield_level _ (by rw [yields_twice]; rfl), yields_twice]
  refine (getLsbD_eq_getMsbD (em4100Encode card.data) (by omega : 63 - n % 64 < 64)).trans ?_
  congr 1
  omega

@[simp] theorem feedBit_encodedData (reader : ProtocolEm4100) (bit : Bool) :
    (em4100FeedBit reader bit).2.encodedData = push reader.encodedData bit := by
  unfold em4100FeedBit
  dsimp only
  split <;> rfl

/-- A report happens exactly when the new window passes, and gives what is in it. -/
theorem feedBit_report (reader : ProtocolEm4100) (bit : Bool) :
    (em4100FeedBit reader bit).1 = em4100CanBeDecoded (push reader.encodedData bit) ∧
      ((em4100FeedBit reader bit).1 = true →
        (em4100FeedBit reader bit).2.data = em4100Decode (push reader.encodedData bit)) := by
  unfold em4100FeedBit
  dsimp only
  split <;> rename_i accepted
  · exact ⟨accepted.symm, fun _ => rfl⟩
  · exact ⟨(Bool.eq_false_iff.mpr accepted).symm, fun reported => Bool.noConfusion reported⟩

theorem feedBits_encodedData (reader : ProtocolEm4100) (cleared : reader.encodedData = 0)
    (bits : List Bool) : (feedBits reader bits).encodedData = ofBits bits := by
  induction bits using List.reverseRecOn with
  | nil => exact cleared
  | append_singleton bits bit ih =>
    rw [← ShiftRegister.push_ofBits, ← ih, ← feedBit_encodedData, feedBits, List.foldl_append]
    rfl

/-- The window after bit `n` of a stream that started `offset` bits into the frame. -/
def window (card : ProtocolEm4100) (offset n : Nat) : Em4100DecodedData :=
  ofBits ((List.range (n + 1)).map fun k => streamBit card (offset + k))

theorem window_unfilled (offset : Nat) {n : Nat} (room : n + 1 < 64) :
    em4100CanBeDecoded (window card offset n) = false := by
  rw [← Bool.not_eq_true, canBeDecoded_iff]
  intro shaped
  have header := shaped.header 0 (by omega)
  rw [window, ShiftRegister.getMsbD_ofBits_partial _ (by simpa using room)] at header
  exact Bool.noConfusion header

theorem window_full (offset : Nat) {n : Nat} (full : 64 ≤ n + 1) {place : Nat} (inside : place < 64) :
    (window card offset n).getMsbD place =
      (em4100Encode card.data).getMsbD (((offset + n + 1) % 64 + place) % 64) := by
  rw [window, ShiftRegister.getMsbD_ofBits _ inside (by simpa using full), List.length_map,
    List.length_range, List.getElem?_map, List.getElem?_range (by omega), Option.map_some,
    Option.getD_some, streamBit_eq]
  congr 1
  omega

theorem frameShape_congr {first second : Nat → Bool} (same : ∀ place < 64, first place = second place)
    (shaped : FrameShape first) : FrameShape second where
  header place header := by rw [← same place (by omega), shaped.header place header]
  stop := by rw [← same 63 (by omega), shaped.stop]
  rows r row := by
    rw [← shaped.rows r row]
    congr 1
    refine List.map_congr_left fun c inside => (same _ ?_).symm
    have := List.mem_range.mp inside
    omega
  columns c column := by
    rw [← shaped.columns c column]
    congr 1
    refine List.map_congr_left fun r inside => (same _ ?_).symm
    have := List.mem_range.mp inside
    omega

/-- Among the windows of a stream exactly the whole frames pass. -/
theorem window_accepted_iff (offset n : Nat) :
    em4100CanBeDecoded (window card offset n) = true ↔ 64 ≤ n + 1 ∧ (offset + n + 1) % 64 = 0 := by
  constructor
  · intro accepted
    have full : 64 ≤ n + 1 := by
      by_contra room
      rw [window_unfilled card offset (by omega)] at accepted
      exact Bool.noConfusion accepted
    refine ⟨full, ?_⟩
    by_contra moved
    refine (shaped_encode card.data).rotation_rejected (Nat.pos_of_ne_zero moved) (by omega) ?_
    exact frameShape_congr (fun place inside => window_full card offset full inside)
      ((canBeDecoded_iff _).mp accepted)
  · rintro ⟨full, aligned⟩
    rw [canBeDecoded_iff]
    refine frameShape_congr (fun place inside => ?_) (shaped_encode card.data)
    rw [window_full card offset full inside, aligned, Nat.zero_add, Nat.mod_eq_of_lt inside]

theorem window_aligned (offset : Nat) {n : Nat} (full : 64 ≤ n + 1) (aligned : (offset + n + 1) % 64 = 0) :
    window card offset n = em4100Encode card.data := by
  apply BitVec.eq_of_getMsbD_eq
  intro place inside
  rw [window_full card offset full inside, aligned, Nat.zero_add, Nat.mod_eq_of_lt inside]

/-- What feeding bit `n` of the stream to a started reader answers. -/
def readStream (reader card : ProtocolEm4100) (offset n : Nat) : Bool × ProtocolEm4100 :=
  em4100FeedBit (feedBits (protocolEm4100DecoderStart reader)
      ((List.range n).map fun k => streamBit card (offset + k)))
    (streamBit card (offset + n))

theorem readStream_window (reader card : ProtocolEm4100) (offset n : Nat) :
    push (feedBits (protocolEm4100DecoderStart reader)
      ((List.range n).map fun k => streamBit card (offset + k))).encodedData
        (streamBit card (offset + n)) = window card offset n := by
  rw [feedBits_encodedData _ rfl, ShiftRegister.push_ofBits, window, List.range_succ, List.map_append]
  rfl

/-- **Reading a card.** From the cleared state and wherever in its frame the
card starts sending, the reader reports it within 127 bits; it reports exactly
at the ends of whole frames, and always the card's data. Any window it accepts
is the frame of the data it takes out of it. -/
theorem em4100_reports_exactly_the_card (reader card : ProtocolEm4100) (offset : Nat) :
    (∃ n, n + 1 ≤ 127 ∧ (readStream reader card offset n).1 = true) ∧
      (∀ n, (readStream reader card offset n).1 = true ↔ 64 ≤ n + 1 ∧ (offset + n + 1) % 64 = 0) ∧
      (∀ n, (readStream reader card offset n).1 = true → (readStream reader card offset n).2.data = card.data) ∧
      ∀ word, em4100CanBeDecoded word = true → em4100Encode (em4100Decode word) = word := by
  have reports (n : Nat) : (readStream reader card offset n).1 = true ↔
      64 ≤ n + 1 ∧ (offset + n + 1) % 64 = 0 := by
    rw [readStream, (feedBit_report _ _).1, readStream_window, window_accepted_iff]
  refine ⟨⟨63 + (64 - offset % 64) % 64, by omega, ?_⟩, reports, ?_, fun _ => encode_decode⟩
  · rw [reports]
    omega
  · intro n reported
    obtain ⟨full, aligned⟩ := (reports n).mp reported
    rw [readStream, (feedBit_report _ _).2 reported, readStream_window,
      window_aligned card offset full aligned, decode_encode]

end Xtreme.LfRfid
