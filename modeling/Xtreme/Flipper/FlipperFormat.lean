import Xtreme.Library.Effect
import Xtreme.Library.Numeral

/-! Files of keys and values (`flipper_format.c`, `flipper_format_stream.c`, `hex.c`),
in the mode that is not strict, on a stream that does not fail.

A cursor is known by the text behind it. The functions that read take 32 bytes at a
time and seek back to the one that they stop at, so they are written over single
characters here. Of the types of a value only those are here that a device is saved
with; what a function leaves behind the cursor when it fails is left out. -/
namespace Xtreme.Flipper
open Xtreme.Library
open Effect (fault observe update)

abbrev Text := List Char

/-- `flipper_format_delimiter`, `_comment`, `_eoln` and `_eolr`. -/
def delimiter : Char := ':'
def commentMark : Char := '#'
def eoln : Char := '\n'
def eolr : Char := '\r'

structure FlipperFormat where
  content : Text
  rest : Text
  deriving DecidableEq, Repr

/-- A file with the cursor at its start. -/
def FlipperFormat.opened (content : Text) : FlipperFormat := ⟨content, content⟩

/-- What ends a load or a save early. -/
inductive LoadStop
  /-- The function returns false. -/
  | refused
  /-- A check or an allocation stops the firmware. -/
  | crashed
  deriving DecidableEq, Repr

abbrev LoadM (α : Type) := Effect LoadStop FlipperFormat α

def flipperFormatStreamIsSpace (c : Char) : Bool := c = ' ' || c = '\t' || c = eolr

/-- `flipper_format_stream_read_valid_key` with its flags and the key so far: the
next key, and the text from its delimiter on. -/
def flipperFormatStreamReadValidKey (accumulate newLine : Bool) (key : Text) : Text → Option (Text × Text)
  | [] => none
  | data :: rest =>
    if data = eoln then flipperFormatStreamReadValidKey true true [] rest
    else if data = eolr then flipperFormatStreamReadValidKey accumulate newLine key rest
    else if data = commentMark ∧ newLine then flipperFormatStreamReadValidKey false false key rest
    else if data = delimiter then
      if newLine then flipperFormatStreamReadValidKey false false [] rest
      else if accumulate then some (key, data :: rest)
      else flipperFormatStreamReadValidKey accumulate newLine key rest
    else flipperFormatStreamReadValidKey accumulate false (if accumulate then key ++ [data] else key) rest

/-- A string up to its first zero, as far as the functions on C strings look. -/
def cString (text : Text) : Text := text.takeWhile (· ≠ '\x00')

def nextKey (text : Text) : Option (Text × Text) := flipperFormatStreamReadValidKey true true [] text

/-- The loop of `flipper_format_stream_seek_to_key`: the text behind the key and the
two characters that follow it. Every round goes on by a character at least. -/
def seekToKeyLoop (key : Text) : Nat → Text → Option Text
  | 0, _ => none
  | fuel + 1, text =>
    match nextKey text with
    | none => none
    | some (readKey, behind) =>
      if cString readKey = key then if 2 ≤ behind.length then some (behind.drop 2) else none
      else seekToKeyLoop key fuel behind

def flipperFormatStreamSeekToKey (key : Text) (text : Text) : Option Text := seekToKeyLoop key text.length text

inductive ReadValueState
  | leadingSpace
  | readValue
  | trailingSpace
  deriving DecidableEq, Repr

/-- `flipper_format_stream_read_value` in a state, with the value so far: the value,
whether it is the last one of its line, and the text behind it. -/
def flipperFormatStreamReadValue (state : ReadValueState) (value : Text) : Text → Option (Text × Bool × Text)
  | [] => if state = .leadingSpace then none else some (value, true, [])
  | data :: rest =>
    match state with
    | .leadingSpace =>
      if flipperFormatStreamIsSpace data then flipperFormatStreamReadValue .leadingSpace value rest
      else if data = eoln then none
      else flipperFormatStreamReadValue .readValue (value ++ [data]) rest
    | .readValue =>
      if flipperFormatStreamIsSpace data then flipperFormatStreamReadValue .trailingSpace value rest
      else if data = eoln then some (value, true, data :: rest)
      else flipperFormatStreamReadValue .readValue (value ++ [data]) rest
    | .trailingSpace =>
      if flipperFormatStreamIsSpace data then flipperFormatStreamReadValue .trailingSpace value rest
      else some (value, data = eoln, data :: rest)

def nextValue (text : Text) : Option (Text × Bool × Text) := flipperFormatStreamReadValue .leadingSpace [] text

/-- The loop of `flipper_format_stream_read_value_line` over the values of a line. -/
def readValues {α : Type} (scan : Text → Option α) : Nat → Text → Option (List α × Text)
  | 0, text => some ([], text)
  | size + 1, text =>
    match nextValue text with
    | none => none
    | some (value, last, rest) =>
      match scan value with
      | none => none
      | some item =>
        if last ∧ size ≠ 0 then none
        else (readValues scan size rest).map fun (items, behind) => (item :: items, behind)

/-- The loop of `flipper_format_stream_get_value_count`. -/
def countValues : Nat → Text → Option Nat
  | 0, _ => none
  | fuel + 1, text =>
    match nextValue text with
    | none => none
    | some (_, last, rest) => if last then some 1 else (countValues fuel rest).map (· + 1)

def hexCharToHexNibble (c : Char) : Option Nat :=
  if '0' ≤ c ∧ c ≤ '9' then some (c.toNat - 48)
  else if 'A' ≤ c ∧ c ≤ 'F' then some (c.toNat - 65 + 10)
  else if 'a' ≤ c ∧ c ≤ 'f' then some (c.toNat - 97 + 10)
  else none

def hexCharToUint8 (hi low : Char) : Option (BitVec 8) := do
  let hiNibble ← hexCharToHexNibble hi
  let lowNibble ← hexCharToHexNibble low
  return BitVec.ofNat 8 (16 * hiNibble + lowNibble)

/-- What comes behind two digits does not count. -/
def scanHex : Text → Option (BitVec 8)
  | hi :: low :: _ => hexCharToUint8 hi low
  | _ => none

def isDigit (c : Char) : Bool := '0' ≤ c && c ≤ '9'

/-- The characters that `sscanf` skips and a value can begin with. -/
def isVerticalSpace (c : Char) : Bool := c = '\x0b' || c = '\x0c'

/-- Whether a minus is in front, and what is behind the sign. -/
def scanSign : Text → Bool × Text
  | '-' :: rest => (true, rest)
  | '+' :: rest => (false, rest)
  | rest => (false, rest)

/-- `sscanf` with `PRIu32`: a number that is too large is the largest. -/
def scanUint32 (value : Text) : Option (BitVec 32) :=
  let (negative, rest) := scanSign (value.dropWhile isVerticalSpace)
  let digits := (rest.takeWhile isDigit).map fun c => c.toNat - 48
  let number := numeralValue 10 digits
  if digits = [] then none
  else if 2 ^ 32 ≤ number then some (BitVec.allOnes 32)
  else if negative then some (-BitVec.ofNat 32 number)
  else some (BitVec.ofNat 32 number)

def scanBool (value : Text) : Option Bool := some ((cString value).map Char.toLower = "true".toList)

/-- `flipper_format_key_exist`, from the start of the file. -/
def flipperFormatKeyExist (key : Text) : LoadM Bool :=
  observe fun ff => (flipperFormatStreamSeekToKey key ff.content).isSome

/-- `flipper_format_get_value_count`, which leaves the cursor where it was. -/
def flipperFormatGetValueCount (key : Text) : LoadM (Option Nat) :=
  observe fun ff => (flipperFormatStreamSeekToKey key ff.rest).bind fun text => countValues (text.length + 1) text

def flipperFormatStreamReadValueLine {α : Type} (scan : Text → Option α) (key : Text) (dataSize : Nat) :
    LoadM (List α) := do
  let ff ← observe id
  match (flipperFormatStreamSeekToKey key ff.rest).bind (readValues scan dataSize) with
  | none => fault .refused
  | some (items, behind) =>
    update fun ff => { ff with rest := behind }
    pure items

/-- The size is a number of 16 bits. -/
def flipperFormatReadHex (key : Text) (dataSize : Nat) : LoadM (List (BitVec 8)) :=
  flipperFormatStreamReadValueLine scanHex key (dataSize % 2 ^ 16)

/-- `flipper_format_read_hex` of one byte. -/
def flipperFormatReadHexByte (key : Text) : LoadM (BitVec 8) := do
  let data ← flipperFormatReadHex key 1
  pure (data.headD 0)

/-- `flipper_format_read_uint32` of one number. -/
def flipperFormatReadUint32 (key : Text) : LoadM (BitVec 32) := do
  let data ← flipperFormatStreamReadValueLine scanUint32 key 1
  pure (data.headD 0)

/-- `flipper_format_read_bool` of one value. -/
def flipperFormatReadBool (key : Text) : LoadM Bool := do
  let data ← flipperFormatStreamReadValueLine scanBool key 1
  pure (data.headD false)

/-- `flipper_format_stream_read_line`: the rest of the line but its carriage returns. -/
def flipperFormatStreamReadLine (text : Text) : Option (Text × Text) :=
  let line := (text.takeWhile (· ≠ eoln)).filter (· ≠ eolr)
  if line = [] then none else some (line, text.dropWhile (· ≠ eoln))

def flipperFormatReadString (key : Text) : LoadM Text := do
  let ff ← observe id
  match (flipperFormatStreamSeekToKey key ff.rest).bind flipperFormatStreamReadLine with
  | none => fault .refused
  | some (line, behind) =>
    update fun ff => { ff with rest := behind }
    pure line

/-- `flipper_format_read_header`: the type of the file and the version of its format. -/
def flipperFormatReadHeader : LoadM (Text × BitVec 32) := do
  let filetype ← flipperFormatReadString "Filetype".toList
  let version ← flipperFormatReadUint32 "Version".toList
  pure (filetype, version)

inductive Line
  | comment (data : Text)
  | value (key : Text) (values : List Text)
  deriving DecidableEq, Repr

def valuesText (values : List Text) : Text := List.intercalate [' '] values

/-- `flipper_format_stream_write_comment_cstr`, `flipper_format_stream_write_value_line`. -/
def Line.text : Line → Text
  | comment data => commentMark :: ' ' :: data ++ [eoln]
  | value key values => key ++ delimiter :: ' ' :: valuesText values ++ [eoln]

def fileText (lines : List Line) : Text := lines.flatMap Line.text

def hexDigit (digit : Nat) : Char := "0123456789ABCDEF".toList.getD digit '0'

/-- `%02X`. -/
def hexText (byte : BitVec 8) : Text := [hexDigit (byte.toNat / 16), hexDigit (byte.toNat % 16)]

/-- `PRIu32`. -/
def decimalText (number : Nat) : Text := (numeral 10 9 number).map fun digit => Char.ofNat (digit + 48)

def boolText (data : Bool) : Text := if data then "true".toList else "false".toList

def flipperFormatWriteCommentCstr (data : String) : Line := .comment data.toList

/-- The size is a number of 16 bits. -/
def flipperFormatWriteHex (key : Text) (data : List (BitVec 8)) : Line :=
  .value key ((data.take (data.length % 2 ^ 16)).map hexText)

def flipperFormatWriteUint32 (key : Text) (data : BitVec 32) : Line := .value key [decimalText data.toNat]

def flipperFormatWriteBool (key : Text) (data : Bool) : Line := .value key [boolText data]

def flipperFormatWriteStringCstr (key : Text) (data : Text) : Line := .value key [data]

def flipperFormatWriteHeaderCstr (filetype : Text) (version : BitVec 32) : List Line :=
  [flipperFormatWriteStringCstr "Filetype".toList filetype, flipperFormatWriteUint32 "Version".toList version]

end Xtreme.Flipper
