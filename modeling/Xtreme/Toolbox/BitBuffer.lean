import Xtreme.BitLib.BitLib

/-! Buffers whose size is counted in bits (`bit_buffer.c`). `data` is the memory
of the buffer, which may hold more bytes than the size says: a byte of which
only some bits were received keeps the others. The parity bits are left out,
as the code that receives a frame does not look at them. -/
namespace Xtreme.Toolbox
open BitLib

structure BitBuffer where
  data : List (BitVec 8)
  sizeBits : Nat
  deriving DecidableEq, Repr

namespace BitBuffer

/-- `bit_buffer_get_size_bytes`: the last byte may be partial. -/
def sizeBytes (buffer : BitBuffer) : Nat :=
  buffer.sizeBits / 8 + if buffer.sizeBits % 8 ≠ 0 then 1 else 0

/-- `bit_buffer_get_byte`. -/
def byte (buffer : BitBuffer) (index : Nat) : BitVec 8 := buffer.data.getD index 0

def bytes (buffer : BitBuffer) (count : Nat) : List (BitVec 8) := (List.range count).map buffer.byte

/-- The bytes that its size takes in. -/
def content (buffer : BitBuffer) : List (BitVec 8) := buffer.bytes buffer.sizeBytes

/-- `bit_buffer_copy_bytes` into a buffer of which nothing else is read. -/
def ofBytes (bytes : List (BitVec 8)) : BitBuffer := ⟨bytes, bytes.length * 8⟩

/-- `bit_buffer_write_bytes_mid`, of four bytes. -/
def word (buffer : BitBuffer) (start : Nat) : Bytes 4 := Vector.ofFn fun i => buffer.byte (start + i)

theorem bytes_length (buffer : BitBuffer) (count : Nat) : (buffer.bytes count).length = count := by
  simp [bytes]

@[simp] theorem sizeBits_ofBytes (bytes : List (BitVec 8)) : (ofBytes bytes).sizeBits = bytes.length * 8 := rfl

@[simp] theorem sizeBytes_ofBytes (bytes : List (BitVec 8)) : (ofBytes bytes).sizeBytes = bytes.length := by
  simp [sizeBytes]

/-- What was copied in is read back. -/
theorem bytes_of_prefix {buffer : BitBuffer} {front rest : List (BitVec 8)} (same : buffer.data = front ++ rest) :
    buffer.bytes front.length = front := by
  apply List.ext_getElem
  · simp [bytes]
  · intro index inside inside'
    simp [bytes, byte, same, List.getElem?_append_left inside', List.getElem?_eq_getElem inside']

@[simp] theorem bytes_ofBytes (bytes : List (BitVec 8)) : (ofBytes bytes).bytes bytes.length = bytes :=
  bytes_of_prefix (List.append_nil bytes).symm

@[simp] theorem length_content (buffer : BitBuffer) : buffer.content.length = buffer.sizeBytes :=
  bytes_length buffer _

@[simp] theorem content_ofBytes (bytes : List (BitVec 8)) : (ofBytes bytes).content = bytes := by
  rw [content, sizeBytes_ofBytes, bytes_ofBytes]

theorem byte_of_content {buffer : BitBuffer} {bytes : List (BitVec 8)} (same : buffer.content = bytes) {index : Nat}
    (inside : index < bytes.length) : buffer.byte index = bytes.getD index 0 := by
  subst same
  rw [List.getD_eq_getElem?_getD, List.getElem?_eq_getElem inside]
  simp [content, BitBuffer.bytes]

theorem byte_behind {buffer : BitBuffer} {front rest : List (BitVec 8)} {value : BitVec 8}
    (same : buffer.content = front ++ value :: rest) : buffer.byte front.length = value := by
  rw [byte_of_content same (by simp), List.getD_eq_getElem?_getD, List.getElem?_append_right (Nat.le_refl _),
    Nat.sub_self]
  rfl

end BitBuffer

end Xtreme.Toolbox
