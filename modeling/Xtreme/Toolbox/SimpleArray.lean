import Xtreme.BitLib.BitLib

/-! Arrays of elements whose size is known at run time (`simple_array.c`).

Every array owns its memory: the `data` of two arrays is the same only where both have
none. What a configuration does to make, copy or reset an element is left out, so these are
the plain arrays, whose elements are copied with `memcpy`; `simple_array_is_equal` looks at
the bytes of the elements in any configuration. -/
namespace Xtreme.Toolbox
open BitLib

/-- A configuration is told from others by where it lies, which its name stands for. -/
structure SimpleArrayConfig where
  name : String
  typeSize : Nat
  occupies : 0 < typeSize

structure SimpleArray (config : SimpleArrayConfig) where
  address : BitVec 32
  data : Option (List (BitVec 8))
  count : Nat
  sized : (data.getD []).length = count * config.typeSize

section
variable {config : SimpleArrayConfig}

namespace SimpleArray
variable (instanc : SimpleArray config)

def bytes : List (BitVec 8) := instanc.data.getD []

/-- `simple_array_cget`. -/
def element (index : Nat) : List (BitVec 8) := (instanc.bytes.drop (index * config.typeSize)).take config.typeSize

theorem length_bytes : instanc.bytes.length = instanc.count * config.typeSize := instanc.sized

end SimpleArray

/-- The first `count` bytes are compared, whatever the size of an element is. -/
def simpleArrayIsEqual {config' : SimpleArrayConfig} (instanc : SimpleArray config) (other : SimpleArray config') :
    Bool :=
  instanc.address = other.address || config.name = config'.name && instanc.count = other.count &&
      (instanc.data = none || other.data = none || instanc.bytes.take other.count = other.bytes.take other.count)

/-- Two arrays have as many elements, each with the same bytes. -/
def SameElements (instanc other : SimpleArray config) : Prop :=
  instanc.count = other.count ∧ ∀ index < instanc.count, instanc.element index = other.element index

/-- If two arrays of as many elements differ, they do so in one of as many bytes at the
beginning. -/
def DifferEarly (instanc other : SimpleArray config) : Prop :=
  instanc.count = other.count → instanc.bytes.take other.count = other.bytes.take other.count →
    instanc.bytes = other.bytes

variable {instanc other : SimpleArray config}

theorem sameElements_iff : SameElements instanc other ↔ instanc.count = other.count ∧ instanc.bytes = other.bytes := by
  refine and_congr_right fun counts => ⟨fun elements => ?_, fun same index _ => ?_⟩
  · apply List.ext_getElem?
    intro place
    by_cases inside : place < instanc.bytes.length
    · have whole := Nat.div_add_mod place config.typeSize
      have within := Nat.mod_lt place config.occupies
      have at' (array : SimpleArray config) : array.bytes[place]? =
          (array.element (place / config.typeSize))[place % config.typeSize]? := by
        rw [SimpleArray.element, List.getElem?_take_of_lt within, List.getElem?_drop, Nat.mul_comm, whole]
      rw [at', at', elements]
      rw [instanc.length_bytes] at inside
      exact Nat.div_lt_of_lt_mul (Nat.mul_comm _ _ ▸ inside)
    · have length : other.bytes.length = instanc.bytes.length := by
        rw [instanc.length_bytes, other.length_bytes, counts]
      rw [List.getElem?_eq_none (Nat.not_lt.mp inside), List.getElem?_eq_none (length ▸ Nat.not_lt.mp inside)]
  · rw [SimpleArray.element, SimpleArray.element, same]

/-- What the comparison sees of two arrays. -/
theorem isEqual_iff (own : instanc.address = other.address → instanc = other) :
    simpleArrayIsEqual instanc other = true ↔
      instanc.count = other.count ∧ instanc.bytes.take other.count = other.bytes.take other.count := by
  by_cases one : instanc.address = other.address
  · cases own one
    simp [simpleArrayIsEqual]
  · have empty (array : SimpleArray config) (null : array.data = none) : array.count = 0 := by
      have size := array.sized
      rw [null] at size
      exact (Nat.mul_eq_zero.mp size.symm).resolve_right (Nat.pos_iff_ne_zero.mp config.occupies)
    have unequal : simpleArrayIsEqual instanc other = true ↔ instanc.count = other.count ∧
        ((instanc.data = none ∨ other.data = none) ∨ instanc.bytes.take other.count = other.bytes.take other.count) := by
      simp [simpleArrayIsEqual, one]
    rw [unequal]
    refine and_congr_right fun counts => or_iff_right_of_imp ?_
    rintro (null | null)
    · rw [← counts, empty _ null]
      rfl
    · rw [empty _ null]
      rfl

theorem isEqual_right_iff (own : instanc.address = other.address → instanc = other) :
    (simpleArrayIsEqual instanc other = true ↔ SameElements instanc other) ↔ DifferEarly instanc other := by
  rw [isEqual_iff own, sameElements_iff]
  constructor
  · intro right counts early
    exact (right.mp ⟨counts, early⟩).2
  · intro early
    refine and_congr_right fun counts => ⟨early counts, fun same => ?_⟩
    rw [same]

theorem differEarly_bytes (single : config.typeSize = 1) : DifferEarly instanc other := by
  intro counts early
  have size := instanc.length_bytes
  have size' := other.length_bytes
  rw [single] at size size'
  rwa [List.take_of_length_le (by omega), List.take_of_length_le (by omega)] at early

end

end Xtreme.Toolbox
