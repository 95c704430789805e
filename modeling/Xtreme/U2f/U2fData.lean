import Mathlib.Tactic.TypeStar
import Mathlib.Data.Nat.Notation

/-! The counter file of the U2F application (`u2f_data.c`). The counter is kept in a block
with a control value, encrypted with a key that does not leave the secure enclave. A write
opens the file anew and can stop at any of its lines. -/
namespace Xtreme.U2f

def u2fCounterFileType : String := "Flipper U2F Counter File"
def u2fCounterVersion : Nat := 2
def u2fCounterVersionOld : Nat := 1
def u2fCounterControlVal : BitVec 32 := 0xAA5500FF#32

structure U2fCounterData where
  counter : BitVec 32
  randomSalt : List (BitVec 8)
  control : BitVec 32

/-- The key in the secure enclave: what it encrypts under an initialisation vector it
decrypts again. -/
structure Enclave where
  encrypt : List (BitVec 8) → U2fCounterData → List (BitVec 8)
  decrypt : List (BitVec 8) → List (BitVec 8) → U2fCounterData
  decrypt_encrypt : ∀ iv counter, decrypt iv (encrypt iv counter) = counter

structure CounterFile where
  header : Option (String × Nat)
  iv : Option (List (BitVec 8))
  data : Option (List (BitVec 8))

/-- How a write of the counter goes: it fails before the file is opened, it stops after a
number of lines, or it succeeds. -/
inductive WriteOutcome
  | refused
  | stopped (lines : Nat)
  | written
  deriving DecidableEq, Repr

structure CounterWrite where
  iv : List (BitVec 8)
  randomSalt : List (BitVec 8)
  outcome : WriteOutcome

variable (enclave : Enclave)

def u2fDataCntWrite (file : Option CounterFile) (cntVal : BitVec 32) (write : CounterWrite) :
    Bool × Option CounterFile :=
  let cnt : U2fCounterData := ⟨cntVal, write.randomSalt, u2fCounterControlVal⟩
  let written : CounterFile :=
    { header := some (u2fCounterFileType, u2fCounterVersion)
      iv := some write.iv
      data := some (enclave.encrypt write.iv cnt) }
  match write.outcome with
  | .refused => (false, file)
  | .stopped lines =>
    (false, some
      { header := if 1 ≤ lines then written.header else none
        iv := if 2 ≤ lines then written.iv else none
        data := if 3 ≤ lines then written.data else none })
  | .written => (true, some written)

def counterBlock (file : Option CounterFile) : Option (Nat × U2fCounterData) := do
  let file ← file
  let (filetype, version) ← file.header
  if filetype ≠ u2fCounterFileType then none
  else if version ≠ u2fCounterVersionOld ∧ version ≠ u2fCounterVersion then none
  else
    let iv ← file.iv
    let data ← file.data
    let cnt := enclave.decrypt iv data
    if cnt.control = u2fCounterControlVal then some (version, cnt) else none

/-- `__REV`: the bytes of a word the other way round. -/
def reverseBytes (word : BitVec 32) : BitVec 32 :=
  word.extractLsb' 0 8 ++ word.extractLsb' 8 8 ++ word.extractLsb' 16 8 ++ word.extractLsb' 24 8

/-- Read the counter. One of the previous version is turned round and written back, and the
read fails if that write does. -/
def u2fDataCntRead (file : Option CounterFile) (write : CounterWrite) :
    Option (BitVec 32) × Option CounterFile :=
  match counterBlock enclave file with
  | none => (none, file)
  | some (version, cnt) =>
    if version = u2fCounterVersionOld then
      let (state, file) := u2fDataCntWrite enclave file (reverseBytes cnt.counter) write
      (if state then some (reverseBytes cnt.counter) else none, file)
    else (some cnt.counter, file)

end Xtreme.U2f
