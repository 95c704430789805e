import Xtreme.Library.FeedbackRegister
import Xtreme.Library.Repetition
import Xtreme.Library.WordBytes
import Xtreme.Toolbox.BitBufferParity

/-! Appending to a buffer (`bit_buffer.c`). The size is counted in bits and data
are copied to whole bytes: behind a partial byte, what is appended begins in the
next one, and what the partial byte holds above its size comes between. -/
namespace Xtreme.Toolbox
open Library BitLib

variable {capacity capacity' : Nat}

namespace ParityBuffer

/-- `bit_buffer_alloc`. -/
def alloc (capacityBytes : Nat) : ParityBuffer capacityBytes := ⟨Vector.replicate _ 0, Vector.replicate _ 0, 0⟩

def bytesFrom (buffer : ParityBuffer capacity) (start count : Nat) : List (BitVec 8) :=
  (List.range count).map fun i => byteAt buffer.data (start + i)

/-- The bits up to the size, the lowest of a byte first. -/
def contents (buffer : ParityBuffer capacity) : List Bool := (List.range buffer.sizeBits).map (streamBit buffer.data)

/-- What the last byte holds above the size. -/
def unused (buffer : ParityBuffer capacity) : List Bool :=
  (List.range (8 * buffer.sizeBytes - buffer.sizeBits)).map fun i => streamBit buffer.data (buffer.sizeBits + i)

end ParityBuffer

def bitsOfBytes (data : List (BitVec 8)) : List Bool :=
  (List.range (8 * data.length)).map fun place => (data.getD (place / 8) 0).getLsbD (place % 8)

inductive BufferCall
  | reset
  | copy {capacity' : Nat} (other : ParityBuffer capacity')
  | copyRight {capacity' : Nat} (other : ParityBuffer capacity') (startIndex : Nat)
  | copyLeft {capacity' : Nat} (other : ParityBuffer capacity') (endIndex : Nat)
  | copyBytes (data : List (BitVec 8))
  | copyBits (data : List (BitVec 8)) (sizeBits : Nat)
  | copyBytesWithParity {size : Nat} (data : Bytes size) (sizeBits : Nat)
  | setByte (index : Nat) (byte : BitVec 8)
  | setByteWithParity (index : Nat) (byte : BitVec 8) (parity : Bool)
  | setSize (newSize : Nat)
  | setSizeBytes (newSizeBytes : Nat)
  | append {capacity' : Nat} (other : ParityBuffer capacity')
  | appendRight {capacity' : Nat} (other : ParityBuffer capacity') (startIndex : Nat)
  | appendByte (byte : BitVec 8)
  | appendBytes (data : List (BitVec 8))
  | appendBit (bit : Bool)

def furiAssert (condition : Prop) [Decidable condition] (after : ParityBuffer capacity) :
    Option (ParityBuffer capacity) :=
  if condition then some after else none

variable (buffer : ParityBuffer capacity)

/-- A size below zero wraps around. A start behind the end of the other buffer
is not let through: the size of what is copied would wrap around as well. -/
def bitBufferAppendRight (other : ParityBuffer capacity') (startIndex : Nat) : Option (ParityBuffer capacity) :=
  let sizeBytes := buffer.sizeBytes
  let otherSizeBytes := other.sizeBytes - startIndex
  furiAssert (startIndex ≤ other.sizeBytes ∧ sizeBytes + otherSizeBytes ≤ capacity)
    { buffer with
      data := memcpy buffer.data sizeBytes (other.bytesFrom startIndex otherSizeBytes)
      sizeBits :=
        if startIndex * 8 ≤ buffer.sizeBits + other.sizeBits then buffer.sizeBits + other.sizeBits - startIndex * 8
        else 2 ^ 32 + (buffer.sizeBits + other.sizeBits) - startIndex * 8 }

def bitBufferAppend (other : ParityBuffer capacity') : Option (ParityBuffer capacity) :=
  bitBufferAppendRight buffer other 0

def bitBufferAppendByte (byte : BitVec 8) : Option (ParityBuffer capacity) :=
  let dataSizeBytes := buffer.sizeBytes
  let newDataSizeBytes := dataSizeBytes + 1
  furiAssert (newDataSizeBytes ≤ capacity)
    { buffer with data := buffer.data.setIfInBounds dataSizeBytes byte, sizeBits := newDataSizeBytes * 8 }

def bitBufferAppendBytes (data : List (BitVec 8)) : Option (ParityBuffer capacity) :=
  let bufSizeBytes := buffer.sizeBytes
  furiAssert (bufSizeBytes + data.length ≤ capacity)
    { buffer with data := memcpy buffer.data bufSizeBytes data, sizeBits := buffer.sizeBits + data.length * 8 }

def bitBufferAppendBit (bit : Bool) : Option (ParityBuffer capacity) :=
  let byteIndex := buffer.sizeBits / 8
  let bitOffset := buffer.sizeBits % 8
  furiAssert (buffer.sizeBytes + (if buffer.sizeBits % 8 ≠ 0 then 0 else 1) ≤ capacity)
    { buffer with
      data :=
        if bit then buffer.data.setIfInBounds byteIndex (byteAt buffer.data byteIndex ||| (1#8 <<< bitOffset))
        else buffer.data
      sizeBits := buffer.sizeBits + 1 }

/-- A call, where its assertions let it go on. A copy with parity bits that does
not fit has no assertion, and is left out. -/
def BufferCall.run : BufferCall → Option (ParityBuffer capacity)
  | reset => some (ParityBuffer.alloc capacity)
  | copy other =>
    furiAssert (other.sizeBits ≤ capacity * 8)
      { buffer with data := memcpy buffer.data 0 (other.bytesFrom 0 other.sizeBytes), sizeBits := other.sizeBits }
  | copyRight other startIndex =>
    furiAssert (startIndex < other.sizeBytes ∧ other.sizeBytes - startIndex ≤ capacity)
      { buffer with
        data := memcpy buffer.data 0 (other.bytesFrom startIndex (other.sizeBytes - startIndex))
        sizeBits := other.sizeBits - startIndex * 8 }
  | copyLeft other endIndex =>
    furiAssert (endIndex ≤ capacity ∧ endIndex ≤ other.sizeBytes)
      { buffer with data := memcpy buffer.data 0 (other.bytesFrom 0 endIndex), sizeBits := endIndex * 8 }
  | copyBytes data =>
    furiAssert (data.length ≤ capacity) { buffer with data := memcpy buffer.data 0 data, sizeBits := data.length * 8 }
  | copyBits data sizeBits =>
    furiAssert (sizeBits ≤ capacity * 8)
      { buffer with data := memcpy buffer.data 0 (data.take ((sizeBits + 8 - 1) / 8)), sizeBits }
  | copyBytesWithParity data sizeBits =>
    furiAssert (sizeBits < 9 ∨ sizeBits % 9 = 0 ∧ sizeBits / 9 ≤ capacity)
      (bitBufferCopyBytesWithParity buffer data sizeBits)
  | setByte index byte =>
    furiAssert (index < buffer.sizeBytes) { buffer with data := buffer.data.setIfInBounds index byte }
  | setByteWithParity index byte parity =>
    let bit := (BitVec.ofBool parity).setWidth 8
    furiAssert (index < buffer.sizeBits / 8)
      { buffer with
        data := buffer.data.setIfInBounds index byte
        parity := buffer.parity.setIfInBounds (index / 8) (
          if index % 8 = 0 then bit else byteAt buffer.parity (index / 8) ||| bit <<< (index % 8)) }
  | setSize newSize => furiAssert (newSize ≤ capacity * 8) { buffer with sizeBits := newSize }
  | setSizeBytes newSizeBytes => furiAssert (newSizeBytes ≤ capacity) { buffer with sizeBits := newSizeBytes * 8 }
  | append other => bitBufferAppend buffer other
  | appendRight other startIndex => bitBufferAppendRight buffer other startIndex
  | appendByte byte => bitBufferAppendByte buffer byte
  | appendBytes data => bitBufferAppendBytes buffer data
  | appendBit bit => bitBufferAppendBit buffer bit

def BufferCall.appended : BufferCall → Option (List Bool)
  | append other => some other.contents
  | appendRight other startIndex => some (other.contents.drop (8 * startIndex))
  | appendByte byte => some (bitsOfBytes [byte])
  | appendBytes data => some (bitsOfBytes data)
  | appendBit bit => some [bit]
  | _ => none

/-- The size grows by the bits, and the contents are the old ones and the bits. -/
structure Appends (before after : ParityBuffer capacity) (bits : List Bool) : Prop where
  size : after.sizeBits = before.sizeBits + bits.length
  contents : after.contents = before.contents ++ bits

/-- When a call appends what it is to append: where nothing lies between the
contents and the bits, or what lies there is what the bits repeat. -/
def BufferCall.Keeps (buffer : ParityBuffer capacity) : BufferCall → Prop
  | append other => Repeats buffer.unused other.contents
  | appendRight other startIndex =>
    8 * startIndex ≤ other.sizeBits ∧ Repeats buffer.unused (other.contents.drop (8 * startIndex))
  | appendByte _ => buffer.sizeBits % 8 = 0
  | appendBytes data => Repeats buffer.unused (bitsOfBytes data)
  | appendBit bit => bit = true ∨ streamBit buffer.data buffer.sizeBits = false
  | _ => True

section
variable {buffer : ParityBuffer capacity}

namespace ParityBuffer

@[simp] theorem length_contents : buffer.contents.length = buffer.sizeBits := by
  rw [contents, List.length_map, List.length_range]

@[simp] theorem length_unused : buffer.unused.length = 8 * buffer.sizeBytes - buffer.sizeBits := by
  rw [unused, List.length_map, List.length_range]

theorem sizeBits_le : buffer.sizeBits ≤ 8 * buffer.sizeBytes ∧ 8 * buffer.sizeBytes < buffer.sizeBits + 8 := by
  rw [sizeBytes]
  split <;> omega

@[simp] theorem length_bytesFrom (start count : Nat) : (buffer.bytesFrom start count).length = count := by
  rw [bytesFrom, List.length_map, List.length_range]

theorem unused_eq_nil_iff : buffer.unused = [] ↔ buffer.sizeBits % 8 = 0 := by
  rw [← List.length_eq_zero_iff, length_unused, sizeBytes]
  split <;> omega

end ParityBuffer

@[simp] theorem length_bitsOfBytes (data : List (BitVec 8)) : (bitsOfBytes data).length = 8 * data.length := by
  rw [bitsOfBytes, List.length_map, List.length_range]

theorem streamBit_memcpy {size : Nat} (data : Bytes size) (start : Nat) (source : List (BitVec 8)) {place : Nat}
    (inside : place < 8 * size) :
    streamBit (memcpy data start source) place =
      if 8 * start ≤ place ∧ place < 8 * start + 8 * source.length then
        (source.getD ((place - 8 * start) / 8) 0).getLsbD ((place - 8 * start) % 8)
      else streamBit data place := by
  rw [streamBit, byteAt_memcpy _ _ _ (by omega)]
  by_cases copied : 8 * start ≤ place ∧ place < 8 * start + 8 * source.length
  · have index : (place - 8 * start) / 8 = place / 8 - start := by omega
    have bit : (place - 8 * start) % 8 = place % 8 := by omega
    rw [if_pos copied, if_pos (by omega), index, bit]
  · rw [if_neg copied, if_neg (by omega)]
    rfl

variable {after : ParityBuffer capacity}

theorem contents_copied {source : List (BitVec 8)} {bits : List Bool} (room : buffer.sizeBytes + source.length ≤ capacity)
    (data : after.data = memcpy buffer.data buffer.sizeBytes source)
    (size : after.sizeBits = buffer.sizeBits + bits.length) (part : bits <+: bitsOfBytes source) :
    after.contents = buffer.contents ++ (buffer.unused ++ bits).take bits.length := by
  obtain ⟨least, most⟩ := @ParityBuffer.sizeBits_le capacity buffer
  have few : bits.length ≤ 8 * source.length := by
    have := part.length_le
    rwa [length_bitsOfBytes] at this
  have copied {place : Nat} (inside : place < bits.length) :
      bits[place]? = some ((source.getD (place / 8) 0).getLsbD (place % 8)) := by
    obtain ⟨rest, whole⟩ := part
    rw [← List.getElem?_append_left inside, whole, bitsOfBytes, List.getElem?_map, List.getElem?_range (by omega),
      Option.map_some]
  apply List.ext_getElem?
  intro place
  by_cases inside : place < after.sizeBits
  · rw [ParityBuffer.contents, List.getElem?_map, List.getElem?_range inside, Option.map_some, data,
      streamBit_memcpy _ _ _ (by omega)]
    by_cases old : place < buffer.sizeBits
    · rw [if_neg (by omega), List.getElem?_append_left (by rwa [ParityBuffer.length_contents]), ParityBuffer.contents,
        List.getElem?_map, List.getElem?_range old, Option.map_some]
    · rw [List.getElem?_append_right (by rw [ParityBuffer.length_contents]; omega), ParityBuffer.length_contents,
        List.getElem?_take_of_lt (by omega)]
      by_cases between : place < 8 * buffer.sizeBytes
      · rw [if_neg (by omega), List.getElem?_append_left (by rw [ParityBuffer.length_unused]; omega),
          ParityBuffer.unused, List.getElem?_map, List.getElem?_range (by omega), Option.map_some,
          Nat.add_sub_of_le (by omega)]
      · have index : place - buffer.sizeBits - (8 * buffer.sizeBytes - buffer.sizeBits) =
            place - 8 * buffer.sizeBytes := by
          omega
        rw [if_pos (by omega), List.getElem?_append_right (by rw [ParityBuffer.length_unused]; omega),
          ParityBuffer.length_unused, index, copied (by omega)]
  · rw [List.getElem?_eq_none (by rw [ParityBuffer.length_contents]; omega), List.getElem?_eq_none]
    rw [List.length_append, ParityBuffer.length_contents, List.length_take]
    omega

theorem appends_copied_iff {source : List (BitVec 8)} {bits : List Bool}
    (room : buffer.sizeBytes + source.length ≤ capacity) (data : after.data = memcpy buffer.data buffer.sizeBytes source)
    (size : after.sizeBits = buffer.sizeBits + bits.length) (part : bits <+: bitsOfBytes source) :
    Appends buffer after bits ↔ Repeats buffer.unused bits := by
  have copied := contents_copied room data size part
  rw [← take_append_self_iff]
  constructor
  · intro appends
    rw [appends.contents] at copied
    exact (List.append_cancel_left copied).symm
  · intro same
    rw [same] at copied
    exact ⟨size, copied⟩

theorem contents_dropped {other : ParityBuffer capacity'} {startIndex : Nat}
    (inside : startIndex ≤ other.sizeBytes) :
    other.contents.drop (8 * startIndex) <+:
      bitsOfBytes (other.bytesFrom startIndex (other.sizeBytes - startIndex)) := by
  obtain ⟨least, -⟩ := @ParityBuffer.sizeBits_le capacity' other
  rw [List.prefix_iff_getElem?]
  intro place within
  rw [List.length_drop, ParityBuffer.length_contents] at within
  have index : place / 8 < other.sizeBytes - startIndex := by omega
  have byte : (8 * startIndex + place) / 8 = startIndex + place / 8 := by omega
  have bit : (8 * startIndex + place) % 8 = place % 8 := by omega
  rw [bitsOfBytes, List.getElem?_map, List.getElem?_range (by rw [ParityBuffer.length_bytesFrom]; omega),
    Option.map_some, List.getD_eq_getElem?_getD, ParityBuffer.bytesFrom, List.getElem?_map,
    List.getElem?_range index, Option.map_some, Option.getD_some, List.getElem_drop, ← byte]
  simp only [ParityBuffer.contents, List.getElem_map, List.getElem_range, streamBit, bit]

theorem furiAssert_eq_some {condition : Prop} [Decidable condition] {after result : ParityBuffer capacity} :
    furiAssert condition after = some result ↔ condition ∧ after = result := by
  rw [furiAssert]
  split
  · rename_i holds
    rw [Option.some_inj]
    exact (and_iff_right holds).symm
  · rename_i fails
    exact ⟨fun none => absurd none.symm (Option.some_ne_none result), fun both => absurd both.1 fails⟩

theorem appendRight_iff {other : ParityBuffer capacity'} {startIndex : Nat}
    (done : bitBufferAppendRight buffer other startIndex = some after) :
    Appends buffer after (other.contents.drop (8 * startIndex)) ↔
      8 * startIndex ≤ other.sizeBits ∧ Repeats buffer.unused (other.contents.drop (8 * startIndex)) := by
  obtain ⟨⟨start, room⟩, rfl⟩ := furiAssert_eq_some.mp done
  obtain ⟨least, most⟩ := @ParityBuffer.sizeBits_le capacity' other
  have length : (other.contents.drop (8 * startIndex)).length = other.sizeBits - 8 * startIndex := by
    rw [List.length_drop, ParityBuffer.length_contents]
  by_cases inside : 8 * startIndex ≤ other.sizeBits
  · rw [and_iff_right inside]
    refine appends_copied_iff (by rwa [ParityBuffer.length_bytesFrom]) rfl ?_ (contents_dropped start)
    simp only
    rw [if_pos (by omega)]
    omega
  · refine ⟨fun appends => ?_, fun both => absurd both.1 inside⟩
    have size := appends.size
    simp only at size
    split at size
    · omega
    · omega

theorem appendBytes_iff {data : List (BitVec 8)} (done : bitBufferAppendBytes buffer data = some after) :
    Appends buffer after (bitsOfBytes data) ↔ Repeats buffer.unused (bitsOfBytes data) := by
  obtain ⟨room, rfl⟩ := furiAssert_eq_some.mp done
  refine appends_copied_iff room rfl ?_ List.prefix_rfl
  rw [length_bitsOfBytes, Nat.mul_comm]

theorem appendByte_iff {byte : BitVec 8} (done : bitBufferAppendByte buffer byte = some after) :
    Appends buffer after (bitsOfBytes [byte]) ↔ buffer.sizeBits % 8 = 0 := by
  obtain ⟨room, rfl⟩ := furiAssert_eq_some.mp done
  have eight : (bitsOfBytes [byte]).length = 8 := length_bitsOfBytes [byte]
  constructor
  · intro appends
    have size := appends.size
    simp only [ParityBuffer.sizeBytes] at size
    split at size <;> omega
  · intro whole
    have none := ParityBuffer.unused_eq_nil_iff.mpr whole
    refine (@appends_copied_iff _ buffer _ [byte] _ room rfl ?_ List.prefix_rfl).mpr (none ▸ .inl rfl)
    simp only [ParityBuffer.sizeBytes]
    rw [if_neg (not_not.mpr whole)]
    omega

theorem streamBit_setBit {size : Nat} (data : Bytes size) {position : Nat} (inside : position < 8 * size)
    (place : Nat) :
    streamBit (data.setIfInBounds (position / 8) (byteAt data (position / 8) ||| (1#8 <<< (position % 8)))) place =
      (decide (place = position) || streamBit data place) := by
  have one : ∀ bit < 8, ∀ place < 8, (1#8 <<< bit).getLsbD place = decide (place = bit) := by decide
  rw [streamBit_setIfInBounds _ (by omega), BitVec.getLsbD_or, one _ (by omega) _ (by omega), streamBit]
  by_cases byte : place / 8 = position / 8
  · have same : (place % 8 = position % 8) ↔ place = position := by omega
    rw [if_pos byte, byte, Bool.or_comm, decide_eq_decide.mpr same]
  · rw [if_neg byte, decide_eq_false (by omega), Bool.false_or]

theorem appendBit_iff {bit : Bool} (done : bitBufferAppendBit buffer bit = some after) :
    Appends buffer after [bit] ↔ bit = true ∨ streamBit buffer.data buffer.sizeBits = false := by
  obtain ⟨room, rfl⟩ := furiAssert_eq_some.mp done
  have inside : buffer.sizeBits < 8 * capacity := by
    rw [ParityBuffer.sizeBytes] at room
    split at room <;> omega
  have placed (place : Nat) : streamBit (if bit then buffer.data.setIfInBounds (buffer.sizeBits / 8)
      (byteAt buffer.data (buffer.sizeBits / 8) ||| (1#8 <<< (buffer.sizeBits % 8))) else buffer.data) place =
        ((bit && decide (place = buffer.sizeBits)) || streamBit buffer.data place) := by
    cases bit with
    | true => rw [if_pos rfl, streamBit_setBit _ inside, Bool.true_and]
    | false => rw [if_neg Bool.false_ne_true, Bool.false_and, Bool.false_or]
  generalize (if bit then buffer.data.setIfInBounds (buffer.sizeBits / 8)
    (byteAt buffer.data (buffer.sizeBits / 8) ||| (1#8 <<< (buffer.sizeBits % 8))) else buffer.data) = data at placed
  have contents : ParityBuffer.contents { buffer with data := data, sizeBits := buffer.sizeBits + 1 } =
      buffer.contents ++ [bit || streamBit buffer.data buffer.sizeBits] := by
    rw [ParityBuffer.contents, List.range_succ, List.map_append, List.map_singleton, placed,
      decide_eq_true rfl, Bool.and_true]
    congr 1
    apply List.map_congr_left
    intro place member
    rw [placed, decide_eq_false (Nat.ne_of_lt (List.mem_range.mp member)), Bool.and_false, Bool.false_or]
  have kept : (bit || streamBit buffer.data buffer.sizeBits) = bit ↔
      bit = true ∨ streamBit buffer.data buffer.sizeBits = false := by
    cases bit <;> simp
  rw [← kept]
  constructor
  · intro appends
    exact List.singleton_inj.mp (List.append_cancel_left (contents.symm.trans appends.contents))
  · intro same
    exact ⟨rfl, by rw [contents, same]⟩

end

def Faithful : ParityBuffer capacity → List BufferCall → Prop
  | _, [] => True
  | buffer, call :: calls => ∀ after, call.run buffer = some after →
      (∀ bits, call.appended = some bits → Appends buffer after bits) ∧ Faithful after calls

def Keeping : ParityBuffer capacity → List BufferCall → Prop
  | _, [] => True
  | buffer, call :: calls => ∀ after, call.run buffer = some after → call.Keeps buffer ∧ Keeping after calls

theorem call_appends_iff {call : BufferCall} {buffer after : ParityBuffer capacity}
    (done : call.run buffer = some after) :
    (∀ bits, call.appended = some bits → Appends buffer after bits) ↔ call.Keeps buffer := by
  have known {bits : List Bool} (appended : call.appended = some bits) :
      (∀ bits, call.appended = some bits → Appends buffer after bits) ↔ Appends buffer after bits := by
    rw [appended]
    exact ⟨fun all => all bits rfl, fun appends _ same => Option.some_inj.mp same ▸ appends⟩
  cases call with
  | append other =>
    have iff := appendRight_iff done
    exact (known rfl).trans (iff.trans (and_iff_right (Nat.zero_le _)))
  | appendRight other startIndex => exact (known rfl).trans (appendRight_iff done)
  | appendByte byte => exact (known rfl).trans (appendByte_iff done)
  | appendBytes data => exact (known rfl).trans (appendBytes_iff done)
  | appendBit bit => exact (known rfl).trans (appendBit_iff done)
  | _ => exact ⟨fun _ => trivial, fun _ bits none => by cases none⟩

theorem faithful_iff_keeping (buffer : ParityBuffer capacity) (calls : List BufferCall) :
    Faithful buffer calls ↔ Keeping buffer calls := by
  induction calls generalizing buffer with
  | nil => exact Iff.rfl
  | cons call calls ih =>
    exact forall_congr' fun after => forall_congr' fun done => and_congr (call_appends_iff done) (ih after)

/-- **Appending is by bytes, and the size is by bits.** In a run of calls from a
new buffer every one appends what it is to append exactly where each finds
nothing unused in the last byte, or what the appended bits repeat. -/
theorem bit_buffer_appends_iff (capacity : Nat) (calls : List BufferCall) :
    Faithful (ParityBuffer.alloc capacity) calls ↔ Keeping (ParityBuffer.alloc capacity) calls :=
  faithful_iff_keeping _ calls

theorem not_faithful {first second : BufferCall} {between after : ParityBuffer capacity}
    (begins : first.run (ParityBuffer.alloc capacity) = some between) (done : second.run between = some after)
    (loses : ¬ second.Keeps between) : ¬ Faithful (ParityBuffer.alloc capacity) [first, second] := by
  intro faithful
  have keeping := (faithful_iff_keeping _ _).mp faithful
  exact loses ((keeping between begins).2 after done).1

/-- Behind four bits a byte begins in the next one, behind one bit the size is
rounded up to that of two bytes, and a zero bit is not written. -/
theorem partial_byte_loses : ¬ Faithful (ParityBuffer.alloc 2) [.setSize 4, .appendBytes [0xA5]] ∧
    ¬ Faithful (ParityBuffer.alloc 2) [.appendBit true, .appendByte 0xA5] ∧
    ¬ Faithful (ParityBuffer.alloc 2) [.copyBits [0xFF] 4, .appendBit false] := by
  refine ⟨not_faithful rfl rfl ?_, not_faithful rfl rfl ?_, not_faithful rfl rfl ?_⟩
  · rintro (none | repeats)
    · exact absurd none (by decide)
    · exact absurd (repeats 0 (by decide)) (by decide)
  · intro whole
    have partial' : ¬ (0 + 1) % 8 = 0 := by decide
    exact partial' whole
  · rintro (one | zero)
    · exact absurd one (by decide)
    · exact absurd zero (by decide)

section Register
open FeedbackRegister
variable {width : Nat}

theorem bitsOfBytes_cons (byte : BitVec 8) (data : List (BitVec 8)) :
    bitsOfBytes (byte :: data) = (List.range 8).map byte.getLsbD ++ bitsOfBytes data := by
  have size : 8 * (byte :: data).length = 8 + 8 * data.length := by rw [List.length_cons, Nat.mul_succ, Nat.add_comm]
  rw [bitsOfBytes, size, List.range_add, List.map_append, List.map_map]
  congr 1
  apply List.map_congr_left
  intro place _
  show ((byte :: data).getD ((8 + place) / 8) 0).getLsbD ((8 + place) % 8) = _
  rw [Nat.add_div_left _ (by decide), Nat.add_mod_left, List.getD_cons_succ]

theorem ofBits_bitsOfBytes (data : List (BitVec 8)) :
    (ShiftRegister.ofBits (bitsOfBytes data).reverse : BitVec width) = joinBytes data.reverse := by
  apply BitVec.eq_of_getLsbD_eq
  intro place inside
  rw [ShiftRegister.getLsbD_ofBits _ inside, List.reverse_reverse, getLsbD_joinBytes _ inside, List.reverse_reverse]
  by_cases sent : place < 8 * data.length
  · rw [bitsOfBytes, List.getElem?_map, List.getElem?_range sent]
    simp [List.getD]
  · rw [List.getElem?_eq_none (by simpa using sent), List.getElem?_eq_none (by omega)]
    simp

theorem bitsOfBytes_append (first second : List (BitVec 8)) :
    bitsOfBytes (first ++ second) = bitsOfBytes first ++ bitsOfBytes second := by
  induction first with
  | nil => rfl
  | cons byte first ih => rw [List.cons_append, bitsOfBytes_cons, bitsOfBytes_cons, ih, List.append_assoc]

/-- Bytes that fit enter the register as their word does. -/
theorem feedAll_bytes (poly crc : BitVec width) {data : List (BitVec 8)} (room : 8 * data.length ≤ width) :
    feedAll poly crc (bitsOfBytes data) = (shift poly)^[8 * data.length] (crc ^^^ joinBytes data.reverse) := by
  rw [feedAll_eq poly crc (by rwa [length_bitsOfBytes]), length_bitsOfBytes, ofBits_bitsOfBytes]

theorem joinBytes_byte (byte : BitVec 8) : (joinBytes [byte] : BitVec width) = byte.setWidth width := by
  simp [joinBytes]

theorem feedAll_byte (room : 8 ≤ width) (poly crc : BitVec width) (byte : BitVec 8) :
    feedAll poly crc (bitsOfBytes [byte]) = (shift poly)^[8] (crc ^^^ byte.setWidth width) := by
  rw [@feedAll_bytes _ _ crc [byte] room, List.reverse_singleton, joinBytes_byte, List.length_singleton]

theorem foldl_bytes {poly : BitVec width} {crcByte : BitVec width → BitVec 8 → BitVec width}
    (enters : ∀ crc byte, crcByte crc byte = feedAll poly crc (bitsOfBytes [byte])) (crc : BitVec width)
    (data : List (BitVec 8)) : data.foldl crcByte crc = feedAll poly crc (bitsOfBytes data) := by
  induction data generalizing crc with
  | nil => rfl
  | cons byte data ih =>
    have first : bitsOfBytes [byte] = (List.range 8).map byte.getLsbD := bitsOfBytes_cons byte []
    rw [List.foldl_cons, ih, enters, first, bitsOfBytes_cons, feedAll_append]

end Register

end Xtreme.Toolbox
