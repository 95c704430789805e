import Xtreme.Library.Effect
import Xtreme.Stream.StreamEdits
import Xtreme.Stream.StreamLines
import Xtreme.Toolbox.Hex

/-! Key dictionaries (`lib/toolbox/keys_dict.c`): text files with keys of `keySize` bytes,
one on a line, that are read and edited through a buffered stream. -/
namespace Xtreme.Toolbox
open Xtreme.Library Xtreme.Stream BitLib
open Effect (fault observe update)

structure KeysDict (keySize : Nat) where
  stream : AnyStream
  totalKeys : BitVec 32

/-- What ends a call early. -/
inductive KeysDictStop
  /-- A loop does not end. -/
  | endless
  /-- A variable is read that was never set. -/
  | undefined
  deriving DecidableEq, Repr

abbrev KeysDictM (keySize : Nat) (α : Type) := Effect KeysDictStop (KeysDict keySize) α

/-- Two symbols for each byte and the end of the line. -/
def keySizeSymbols (keySize : Nat) : Nat := keySize * 2 + 1

section
variable {keySize : Nat}

def onStream {α : Type} (call : AnyStream → α × AnyStream) : KeysDictM keySize α := fun dict =>
  (.ok (call dict.stream).1, { dict with stream := (call dict.stream).2 })

/-- More rounds than the file has bytes. -/
def rounds : KeysDictM keySize Nat := observe fun dict => streamSize dict.stream + 1

/-- `stream_read_line`. -/
def readLine : KeysDictM keySize (Bool × List UInt8) := fun dict =>
  match streamReadLine (streamSize dict.stream + 1) dict.stream with
  | none => (.error .endless, dict)
  | some (read, line, stream) => (.ok (read, line), { dict with stream })

/-- A character that is the last one and no line feed gets one behind it. -/
def endLine (lastChar : List UInt8) : KeysDictM keySize Unit :=
  if lastChar.length = 1 ∧ lastChar ≠ [10] then do
    let _ ← onStream (streamWriteChar · 10)
    pure ()
  else pure ()

def keysDictAddEndingNewLine : KeysDictM keySize Unit := do
  if ← onStream (streamSeek · (-1) .fromEnd) then
    let lastChar ← onStream (streamRead · 1)
    endLine lastChar
    let _ ← onStream streamRewind
    pure ()
  else pure ()

/-- Whether a key was read, the line that is left, and whether it is the end of the file. -/
def keysDictReadKeyLine : KeysDictM keySize (Bool × List UInt8 × Bool) := do
  let (read, line) ← readLine
  if read then
    let isComment : Bool := line.headD 0 = 35
    let line := if isComment then line else line.take (keySizeSymbols keySize - 1)
    let isCorrectSize : Bool := line.length = keySizeSymbols keySize - 1
    pure (!isComment && isCorrectSize, line, false)
  else pure (false, line, true)

def countKey (readKey : Bool) : KeysDictM keySize Unit :=
  if readKey then update fun dict => { dict with totalKeys := dict.totalKeys + 1 } else pure ()

/-- The loop of `keys_dict_alloc`. -/
def countLoop : Nat → KeysDictM keySize Unit
  | 0 => fault .endless
  | fuel + 1 => do
    let (readKey, _, isEndfile) ← keysDictReadKeyLine
    countKey readKey
    if isEndfile then pure () else countLoop fuel

/-- A file that exists and was opened. -/
def keysDictOpened (text : List UInt8) : KeysDict keySize := ⟨.buffered (bufferedFileStreamOpen (cut [] text)), 0⟩

/-- `keys_dict_alloc` once the file is open. -/
def keysDictAlloc : KeysDictM keySize Unit := do
  keysDictAddEndingNewLine
  let fuel ← rounds
  countLoop fuel
  let _ ← onStream streamRewind
  pure ()

/-- Two characters of which one is no digit leave the byte as it was. -/
def argsCharToHex (h l : UInt8) : Option (BitVec 8) := hexCharToUint8 h.toBitVec l.toBitVec

def keysDictIntToStr (key : Bytes keySize) : List UInt8 := (key.toList.flatMap hexPair).map UInt8.ofBitVec

/-- The loop of `keys_dict_str_to_int`: the byte so far, which is not set at first, and the
bytes that are left. -/
def strToIntLoop : List UInt8 → Option (BitVec 8) → Nat → BitVec 64 → Option (BitVec 64)
  | h :: l :: rest, keyByteTmp, left, keyInt =>
    match (argsCharToHex h l).or keyByteTmp with
    | none => none
    | some byte => strToIntLoop rest (some byte) (left - 1) (keyInt ||| (byte.setWidth 64 <<< (8 * (left - 1))))
  | _, _, _, keyInt => some keyInt

def keysDictStrToInt (keySize : Nat) (keyStr : List UInt8) : Option (BitVec 64) := strToIntLoop keyStr none keySize 0

/-- The loop of `keys_dict_get_next_key`: the last byte is the lowest one. -/
def keyOfInt (keyInt : BitVec 64) : Bytes keySize :=
  Vector.ofFn fun place => (keyInt >>> (8 * (keySize - 1 - place))).setWidth 8

def keysDictGetTotalKeys : KeysDictM keySize (BitVec 32) := observe KeysDict.totalKeys

def keysDictRewind : KeysDictM keySize Bool := onStream streamRewind

def getNextKeyStrLoop : Nat → KeysDictM keySize (Option (List UInt8))
  | 0 => fault .endless
  | fuel + 1 => do
    let (keyRead, key, isEndfile) ← keysDictReadKeyLine
    if keyRead then pure (some key) else if isEndfile then pure none else getNextKeyStrLoop fuel

def keysDictGetNextKeyStr : KeysDictM keySize (Option (List UInt8)) := do
  let fuel ← rounds
  getNextKeyStrLoop fuel

def keysDictGetNextKey : KeysDictM keySize (Option (Bytes keySize)) := do
  match ← keysDictGetNextKeyStr with
  | none => pure none
  | some tempKey =>
    match keysDictStrToInt keySize tempKey with
    | none => fault .undefined
    | some keyInt => pure (some (keyOfInt keyInt))

def isKeyPresentLoop (key : List UInt8) : Nat → KeysDictM keySize Bool
  | 0 => fault .endless
  | fuel + 1 => do
    let (keyRead, line, isEndfile) ← keysDictReadKeyLine
    if keyRead ∧ key = line then pure true else if isEndfile then pure false else isKeyPresentLoop key fuel

def keysDictIsKeyPresent (key : Bytes keySize) : KeysDictM keySize Bool := do
  let actualPos ← observe fun dict => streamTell dict.stream
  let _ ← onStream streamRewind
  let fuel ← rounds
  let lineFound ← isKeyPresentLoop (keysDictIntToStr key) fuel
  let _ ← onStream (streamSeek · (int32 actualPos) .fromStart)
  pure lineFound

/-- `stream_insert_string` at the end, where the seek gets there. -/
def insertAtEnd (key : List UInt8) : KeysDictM keySize Bool := do
  if ← onStream (streamSeek · 0 .fromEnd) then onStream (streamInsertString · key) else pure false

def keysDictAddKey (key : Bytes keySize) : KeysDictM keySize Bool := do
  let actualPos ← observe fun dict => streamTell dict.stream
  let keyAdded ← insertAtEnd (keysDictIntToStr key ++ [10])
  countKey keyAdded
  let _ ← onStream (streamSeek · (int32 actualPos) .fromStart)
  pure keyAdded

/-- The line that ends at the cursor, as wide as it is expected to be. -/
def deleteLine : KeysDictM keySize Bool := do
  let _ ← onStream (streamSeek · (-(keySizeSymbols keySize : Int)) .fromCurrent)
  if ← onStream (streamDelete · (keySizeSymbols keySize)) then
    update fun dict => { dict with totalKeys := dict.totalKeys - 1 }
    pure true
  else pure false

def deleteKeyLoop (key : Bytes keySize) : Nat → KeysDictM keySize Bool
  | 0 => fault .endless
  | fuel + 1 => do
    match ← keysDictGetNextKey with
    | none => pure false
    | some tempKey => if tempKey = key then deleteLine else deleteKeyLoop key fuel

def keysDictDeleteKey (key : Bytes keySize) : KeysDictM keySize Bool := do
  let _ ← onStream streamRewind
  let fuel ← rounds
  let keyRemoved ← deleteKeyLoop key fuel
  let _ ← onStream streamRewind
  pure keyRemoved

end

inductive KeysDictCall (keySize : Nat)
  | getTotalKeys
  | rewind
  | getNextKey
  | isKeyPresent (key : Bytes keySize)
  | addKey (key : Bytes keySize)
  | deleteKey (key : Bytes keySize)

inductive KeysDictAnswer (keySize : Nat)
  | total (count : BitVec 32)
  | done (success : Bool)
  | key (key : Option (Bytes keySize))

section
variable {keySize : Nat}

def keysDictCall : KeysDictCall keySize → KeysDictM keySize (KeysDictAnswer keySize)
  | .getTotalKeys => .total <$> keysDictGetTotalKeys
  | .rewind => .done <$> keysDictRewind
  | .getNextKey => .key <$> keysDictGetNextKey
  | .isKeyPresent key => .done <$> keysDictIsKeyPresent key
  | .addKey key => .done <$> keysDictAddKey key
  | .deleteKey key => .done <$> keysDictDeleteKey key

def keysLoop : Nat → KeysDictM keySize (List (Bytes keySize))
  | 0 => fault .endless
  | fuel + 1 => do
    match ← keysDictGetNextKey with
    | none => pure []
    | some key =>
      let others ← keysLoop fuel
      pure (key :: others)

/-- All keys, from a rewind on. -/
def keyList : KeysDictM keySize (List (Bytes keySize)) := do
  let _ ← keysDictRewind
  let fuel ← rounds
  keysLoop fuel

end

end Xtreme.Toolbox
