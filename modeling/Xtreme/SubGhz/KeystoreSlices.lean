import Xtreme.Flipper.TextBehind
import Xtreme.Library.Records
import Xtreme.SubGhz.Keystore

/-! Slices of RAW keystores. What was saved is a chain of blocks in hexadecimal text
(`saved_blocks`), and a slice is read by decrypting whole blocks from that of its first
byte on. Where these are all in the file the slice is the one that was saved, and where
one of them is not an assertion fails (`rawGetData_run`). -/
namespace Xtreme.SubGhz
open Xtreme.Library Xtreme.Flipper BitLib
open Effect (Yields)

theorem length_block (block : Bytes 16) : block.toList.length = 16 := Vector.length_toList

theorem length_blockBytes (blocks : List (Bytes 16)) : (blockBytes blocks).length = 16 * blocks.length :=
  length_records length_block blocks

theorem drop_blockBytes (blocks : List (Bytes 16)) (count : Nat) :
    (blockBytes blocks).drop (16 * count) = blockBytes (blocks.drop count) :=
  drop_records length_block blocks count

theorem take_blockBytes (blocks : List (Bytes 16)) (count : Nat) :
    (blockBytes blocks).take (16 * count) = blockBytes (blocks.take count) :=
  take_records length_block blocks count

theorem blockBytes_append (blocks more : List (Bytes 16)) :
    blockBytes (blocks ++ more) = blockBytes blocks ++ blockBytes more :=
  List.flatMap_append

theorem cryptoBlock_blockBytes {blocks : List (Bytes 16)} {index : Nat} {block : Bytes 16}
    (there : blocks[index]? = some block) : cryptoBlock (blockBytes blocks) index = block := by
  have bytes := record_at length_block blocks index
  rw [there] at bytes
  ext place inside
  have byte : (blockBytes blocks)[16 * index + place]? = some block[place] := by
    calc (blockBytes blocks)[16 * index + place]?
        = (((blockBytes blocks).drop (16 * index)).take 16)[place]? := by
          rw [List.getElem?_take_of_lt inside, List.getElem?_drop]
      _ = block.toList[place]? := congrArg (·[place]?) bytes
      _ = some block[place] := by rw [Vector.getElem?_toList, Vector.getElem?_eq_getElem inside]
  rw [cryptoBlock, Vector.getElem_ofFn, List.getD_eq_getElem?_getD, byte, Option.getD_some]

@[simp] theorem cryptoBlocks_blockBytes (blocks : List (Bytes 16)) : cryptoBlocks (blockBytes blocks) = blocks := by
  have count : (blockBytes blocks).length / 16 = blocks.length := by
    rw [length_blockBytes, Nat.mul_div_cancel_left _ (by decide)]
  apply List.ext_getElem?
  intro index
  rw [cryptoBlocks, count, List.getElem?_map]
  by_cases inside : index < blocks.length
  · have there := List.getElem?_eq_getElem inside
    rw [List.getElem?_range inside, Option.map_some, cryptoBlock_blockBytes there, there]
  · have outside := Nat.le_of_not_lt inside
    rw [List.getElem?_eq_none outside, List.getElem?_eq_none (by rwa [List.length_range]), Option.map_none]

theorem exists_blocks {count : Nat} {data : List (BitVec 8)} (whole : data.length = 16 * count) :
    ∃ blocks, blocks.length = count ∧ blockBytes blocks = data := by
  induction count generalizing data with
  | zero => exact ⟨[], rfl, (List.length_eq_zero_iff.mp whole).symm⟩
  | succ count next =>
    obtain ⟨blocks, many, bytes⟩ := @next (data.drop 16) (by rw [List.length_drop]; omega)
    have one : (data.take 16).toArray.size = 16 := by
      rw [List.size_toArray, List.length_take]
      omega
    refine ⟨⟨(data.take 16).toArray, one⟩ :: blocks, congrArg (· + 1) many, ?_⟩
    calc blockBytes (⟨(data.take 16).toArray, one⟩ :: blocks)
        = data.take 16 ++ blockBytes blocks := rfl
      _ = data := by rw [bytes, List.take_append_drop]

theorem length_hexText (byte : BitVec 8) : (hexText byte).length = 2 := rfl

theorem hexPairs_hexText (byte : BitVec 8) (rest : Text) : hexPairs (hexText byte ++ rest) = byte :: hexPairs rest := by
  have pair : (hexNibble (hexDigit (byte.toNat / 16)) <<< 4) ||| hexNibble (hexDigit (byte.toNat % 16)) = byte := by
    revert byte
    decide +kernel
  rw [hexText, List.cons_append, List.cons_append, List.nil_append, hexPairs, pair]

theorem hexPairs_printed (bytes : List (BitVec 8)) : hexPairs (bytes.flatMap hexText) = bytes := by
  induction bytes with
  | nil => rfl
  | cons byte rest next => rw [List.flatMap_cons, hexPairs_hexText, next]

theorem hexPairs_append {count : Nat} {text : Text} (even : text.length = 2 * count) (more : Text) :
    hexPairs (text ++ more) = hexPairs text ++ hexPairs more := by
  induction count generalizing text with
  | zero =>
    rw [List.length_eq_zero_iff.mp even]
    rfl
  | succ count next =>
    obtain ⟨hi, others, rfl⟩ := List.exists_cons_of_length_pos (by omega : 0 < text.length)
    rw [List.length_cons] at even
    obtain ⟨low, rest, rfl⟩ := List.exists_cons_of_length_pos (by omega : 0 < others.length)
    rw [List.length_cons] at even
    rw [List.cons_append, List.cons_append, hexPairs, hexPairs, next (by omega), List.cons_append]

theorem length_hexPairs {count : Nat} {text : Text} (even : text.length = 2 * count) :
    (hexPairs text).length = count := by
  induction count generalizing text with
  | zero =>
    rw [List.length_eq_zero_iff.mp even]
    rfl
  | succ count next =>
    obtain ⟨hi, others, rfl⟩ := List.exists_cons_of_length_pos (by omega : 0 < text.length)
    rw [List.length_cons] at even
    obtain ⟨low, rest, rfl⟩ := List.exists_cons_of_length_pos (by omega : 0 < others.length)
    rw [List.length_cons] at even
    rw [hexPairs, List.length_cons, next (by omega)]

/-- The text behind the header with zeros up to the end of its last line of 64 characters. -/
def paddedText (input : Text) : Text := input ++ List.replicate ((input.length + 63) / 64 * 64 - input.length) '\x00'

/-- The bytes that a keystore without encryption holds. -/
def plaintext (input : Text) : List (BitVec 8) :=
  match rawKeystoreHeader (FlipperFormat.opened input) with
  | (.ok _, after) => hexPairs (paddedText (after.rest.drop 1))
  | (.error _, _) => []

theorem length_paddedText (input : Text) : (paddedText input).length = 2 * (16 * (2 * ((input.length + 63) / 64))) := by
  rw [paddedText, List.length_append, List.length_replicate]
  omega

def firstLine (input : Text) : Text :=
  input.take fileBufferSize ++ List.replicate (fileBufferSize - (input.take fileBufferSize).length) '\x00'

theorem length_firstLine (input : Text) : (firstLine input).length = 2 * (16 * 2) := by
  rw [firstLine, List.length_append, List.length_replicate, List.length_take, fileBufferSize]
  omega

theorem paddedText_lines {input : Text} (some : input ≠ []) :
    paddedText input = firstLine input ++ paddedText (input.drop fileBufferSize) := by
  have filled := List.length_pos_iff.mpr some
  rw [paddedText, firstLine, paddedText, fileBufferSize, List.length_drop, List.length_take]
  by_cases last : input.length ≤ 64
  · rw [List.take_of_length_le last, List.drop_of_length_le last, Nat.min_eq_right last, Nat.sub_eq_zero_of_le last]
    have one : (input.length + 63) / 64 * 64 = 64 := by omega
    rw [one]
    simp
  · have zeros : (input.length - 64 + 63) / 64 * 64 - (input.length - 64) =
        (input.length + 63) / 64 * 64 - input.length := by omega
    rw [zeros, Nat.min_eq_left (by omega), List.replicate_zero, List.append_nil, ← List.append_assoc,
      List.take_append_drop]

theorem rawEncryptLoop_eq (cipher : BlockCipher (Bytes 16)) {fuel : Nat} {input : Text} (enough : input.length ≤ fuel)
    (iv : Bytes 16) :
    rawEncryptLoop cipher fuel iv input =
      (blockBytes (cipher.chainEncrypt iv (cryptoBlocks (hexPairs (paddedText input))))).flatMap hexText := by
  induction fuel generalizing input iv with
  | zero =>
    rw [List.length_eq_zero_iff.mp (Nat.le_zero.mp enough)]
    rfl
  | succ fuel next =>
    rw [rawEncryptLoop]
    by_cases none : input = []
    · rw [none]
      rfl
    · have some : (input.take fileBufferSize).length ≠ 0 := by
        have filled := List.length_pos_iff.mpr none
        rw [List.length_take, fileBufferSize]
        omega
      have later : (input.drop fileBufferSize).length ≤ fuel := by
        rw [List.length_drop, fileBufferSize]
        omega
      obtain ⟨first, -, here⟩ := exists_blocks (length_hexPairs (length_firstLine input))
      obtain ⟨others, -, there⟩ := exists_blocks (length_hexPairs (length_paddedText (input.drop fileBufferSize)))
      rw [paddedText_lines none, hexPairs_append (length_firstLine input), ← here, ← there, ← blockBytes_append,
        cryptoBlocks_blockBytes, cipher.chainEncrypt_append, blockBytes_append, List.flatMap_append]
      simp only [if_neg some, furiHalCryptoEncrypt, next later, ← firstLine.eq_1, ← here, ← there,
        cryptoBlocks_blockBytes]

/-- What a file of some blocks has behind its lines. -/
def cipherText (cipher : BlockCipher (Bytes 16)) (iv : Bytes 16) (blocks : List (Bytes 16)) : Text :=
  (blockBytes (cipher.chainEncrypt (subghzKeystoreMessWithIv iv) blocks)).flatMap hexText

def rawKeystoreFile (cipher : BlockCipher (Bytes 16)) (iv : Bytes 16) (blocks : List (Bytes 16)) : Text :=
  fileText (rawKeystoreLines subghzKeystoreFileRawType iv) ++ cipherText cipher iv blocks

theorem refuseIf_ok {condition : Prop} [Decidable condition] {state after : FlipperFormat} {answer : Unit}
    (ran : refuseIf condition state = (.ok answer, after)) : ¬ condition ∧ after = state := by
  rw [refuseIf] at ran
  split at ran
  · cases ran
  · rename_i passes
    cases ran
    exact ⟨passes, rfl⟩

theorem rawKeystoreHeader_type {state : FlipperFormat} {filetype : Text} {encryption : BitVec 32}
    (read : (rawKeystoreHeader state).1 = .ok (filetype, encryption)) :
    cString filetype = subghzKeystoreFileRawType := by
  obtain ⟨⟨type, version⟩, after, -, read⟩ := Effect.bind_ok read
  obtain ⟨stated, after', -, read⟩ := Effect.bind_ok read
  obtain ⟨_, last, checked, read⟩ := Effect.bind_ok read
  cases read
  have passes := (refuseIf_ok checked).1
  rw [not_or, not_not] at passes
  exact passes.1

theorem saved_blocks {cipher : BlockCipher (Bytes 16)} {iv : Bytes 16} {input output : Text}
    (saved : (subghzKeystoreRawEncryptedSave cipher iv (FlipperFormat.opened input)).1 = .ok output) :
    ∃ blocks, plaintext input = blockBytes blocks ∧ output = rawKeystoreFile cipher iv blocks := by
  obtain ⟨⟨filetype, encryption⟩, after, header, saved⟩ := Effect.bind_ok saved
  obtain ⟨_, after', checked, written⟩ := Effect.bind_ok saved
  obtain ⟨-, rfl⟩ := refuseIf_ok checked
  have type := rawKeystoreHeader_type (congrArg Prod.fst header)
  obtain ⟨blocks, -, bytes⟩ := exists_blocks (length_hexPairs (length_paddedText (after'.rest.drop 1)))
  refine ⟨blocks, ?_, ?_⟩
  · rw [plaintext, header]
    exact bytes.symm
  · cases written
    rw [type, rawEncryptLoop_eq cipher (Nat.le_refl _), ← bytes, cryptoBlocks_blockBytes]
    rfl

/-! ## Read -/

section
variable (cipher : BlockCipher (Bytes 16)) (iv : Bytes 16) (blocks : List (Bytes 16))

theorem length_cipherText : (cipherText cipher iv blocks).length = 2 * (16 * blocks.length) := by
  rw [cipherText, length_records length_hexText, length_blockBytes, cipher.length_chainEncrypt]

theorem cipherText_slice (index count : Nat) : ((cipherText cipher iv blocks).drop (index * 32)).take (count * 32) =
      (blockBytes (((cipher.chainEncrypt (subghzKeystoreMessWithIv iv) blocks).drop index).take count)).flatMap
        hexText := by
  have past : index * 32 = 2 * (16 * index) := by omega
  have many : count * 32 = 2 * (16 * count) := by omega
  rw [cipherText, past, drop_records length_hexText, drop_blockBytes, many, take_records length_hexText,
    take_blockBytes]

theorem plainLines : ∀ line ∈ rawKeystoreLines subghzKeystoreFileRawType iv, line.Plain := by
  have number (key : Text) (valid : ValidKey key) (data : BitVec 32) := (writeUint32_valid valid data).plain
  intro line member
  simp only [rawKeystoreLines, flipperFormatWriteHeaderCstr, List.cons_append, List.nil_append, List.mem_cons,
    List.not_mem_nil, or_false] at member
  rcases member with rfl | rfl | rfl | rfl | rfl
  · exact ⟨by decide, by decide⟩
  · exact number _ (by decide) _
  · exact number _ (by decide) _
  · exact (writeHex_valid (by decide) _).plain
  · exact ⟨by decide, by decide⟩

def linesBehindHeader : List Line :=
  [flipperFormatWriteHex "IV".toList iv.toList, flipperFormatWriteStringCstr "Encrypt_data".toList "RAW".toList]

def linesBehindVersion : List Line :=
  flipperFormatWriteUint32 "Encryption".toList subghzKeystoreEncryptionAES256 :: linesBehindHeader iv

theorem rawKeystoreHeader_run : rawKeystoreHeader (FlipperFormat.opened (rawKeystoreFile cipher iv blocks)) =
      (.ok (subghzKeystoreFileRawType, subghzKeystoreEncryptionAES256),
        (FlipperFormat.opened (rawKeystoreFile cipher iv blocks)).atLineEnd
          (fileText (linesBehindHeader iv) ++ cipherText cipher iv blocks)) := by
  have start := opened_heads (plainLines iv) (cipherText cipher iv blocks)
  have first : seekLine "Filetype".toList (rawKeystoreLines subghzKeystoreFileRawType iv) =
      some ([subghzKeystoreFileRawType], _) := rfl
  have filetype := start.readString (by decide) (by decide) (by decide) first
  have behindType := start.goesOn first
  have second : seekLine "Version".toList
      (flipperFormatWriteUint32 "Version".toList subghzKeystoreFileVersion :: linesBehindVersion iv) =
      some ([decimalText subghzKeystoreFileVersion.toNat], _) := rfl
  have version := behindType.readUint32 second
  have behindVersion := behindType.goesOn second
  have third : seekLine "Encryption".toList (linesBehindVersion iv) =
      some ([decimalText subghzKeystoreEncryptionAES256.toNat], _) := rfl
  have encryption := behindVersion.readUint32 third
  have header : flipperFormatReadHeader (FlipperFormat.opened (rawKeystoreFile cipher iv blocks)) = _ :=
    (Effect.bind_of_ok filetype).trans (Effect.bind_of_ok version)
  exact (Effect.bind_of_ok header).trans (Effect.bind_of_ok encryption)

theorem readText_run (count : Nat) (ff : FlipperFormat) :
    readText count ff = (.ok (ff.rest.take count), { ff with rest := ff.rest.drop count }) := rfl

theorem keystoreAssert_run {condition : Prop} [Decidable condition] (holds : condition) (state : FlipperFormat) :
    keystoreAssert condition state = (.ok (), state) := by
  rw [keystoreAssert, if_pos holds]
  rfl

theorem refuseIf_run {condition : Prop} [Decidable condition] (passes : ¬ condition) (state : FlipperFormat) :
    refuseIf condition state = (.ok (), state) := by
  rw [refuseIf, if_neg passes]
  rfl

theorem cryptoBlock_toList (block : Bytes 16) : cryptoBlock block.toList 0 = block := by
  have bytes : blockBytes [block] = block.toList := List.append_nil _
  rw [← bytes]
  exact cryptoBlock_blockBytes rfl

/-- The first value is that of the file where it is needed, and the cursor stays in front
of the last line. -/
theorem rawFileIv_run (offset : Nat) {behind : Text} {ff : FlipperFormat}
    (heads : Heads (linesBehindHeader iv) behind ff) :
    ∃ fileIv after, rawFileIv offset ff = (.ok fileIv, after) ∧
      (offset < 16 → fileIv = subghzKeystoreMessWithIv iv) ∧
      ∃ lines, Heads lines behind after ∧ seekLine "Encrypt_data".toList lines = some (["RAW".toList], []) := by
  rw [rawFileIv]
  by_cases first : offset < 16
  · have printed : iv.toList.take (iv.toList.length % 2 ^ 16) = iv.toList := by
      rw [Vector.length_toList]
      exact List.take_of_length_le (Nat.le_of_eq Vector.length_toList)
    have found : seekLine "IV".toList (linesBehindHeader iv) =
        some (iv.toList.map hexText, [flipperFormatWriteStringCstr "Encrypt_data".toList "RAW".toList]) := by
      rw [linesBehindHeader, flipperFormatWriteHex, printed]
      rfl
    have read := heads.readHex (by rw [Vector.length_toList]; decide) found
    rw [Vector.length_toList] at read
    rw [if_pos first]
    refine ⟨_, _, Effect.bind_of_ok read, fun _ => ?_, _, heads.goesOn found, rfl⟩
    rw [cryptoBlock_toList]
  · rw [if_neg first]
    exact ⟨_, ff, rfl, fun later => absurd later first, _, heads, rfl⟩

theorem rawBlockIv_run {offset : Nat} (inside : offset ≤ 16 * blocks.length) {ff : FlipperFormat}
    (ahead : ff.rest = cipherText cipher iv blocks) {fileIv : Bytes 16}
    (first : offset < 16 → fileIv = subghzKeystoreMessWithIv iv) :
    ∃ previous after, rawBlockIv offset fileIv ff = (.ok previous, after) ∧
      after.rest = (cipherText cipher iv blocks).drop (offset / 16 * 32) ∧
      cipher.chainDecrypt previous ((cipher.chainEncrypt (subghzKeystoreMessWithIv iv) blocks).drop (offset / 16)) =
        blocks.drop (offset / 16) := by
  rw [rawBlockIv]
  by_cases early : offset < 16
  · rw [if_pos early, Nat.div_eq_of_lt early]
    refine ⟨fileIv, ff, rfl, ahead, ?_⟩
    rw [first early]
    exact cipher.chainDecrypt_chainEncrypt _ blocks
  · obtain ⟨index, place⟩ := Nat.exists_eq_succ_of_ne_zero (show offset / 16 ≠ 0 by omega)
    have there : index < (cipher.chainEncrypt (subghzKeystoreMessWithIv iv) blocks).length := by
      rw [cipher.length_chainEncrypt]
      omega
    have block := List.getElem?_eq_getElem there
    have read : (ff.rest.drop (index * 32)).take 32 =
        ((cipher.chainEncrypt (subghzKeystoreMessWithIv iv) blocks)[index]).toList.flatMap hexText := by
      have one := cipherText_slice cipher iv blocks index 1
      rw [List.drop_eq_getElem_cons there, List.take_succ_cons, List.take_zero] at one
      rw [ahead, one, blockBytes, List.flatMap_singleton]
    have whole : ((ff.rest.drop (index * 32)).take 32).length = 32 := by
      rw [read, length_records length_hexText, Vector.length_toList]
    rw [if_neg early, place, Nat.succ_sub_one]
    refine ⟨(cipher.chainEncrypt (subghzKeystoreMessWithIv iv) blocks)[index],
      { ff with rest := (ff.rest.drop (index * 32)).drop 32 }, ?_, ?_, cipher.chainDecrypt_drop block⟩
    · refine (Effect.bind_of_ok (keystoreAssert_run whole _)).trans ?_
      dsimp only [id_eq]
      rw [read, hexPairs_printed, cryptoBlock_toList]
      rfl
    · rw [ahead, List.drop_drop, Nat.succ_mul]

theorem behindHeader_heads (ff : FlipperFormat) : Heads (linesBehindHeader iv) (cipherText cipher iv blocks)
      (ff.atLineEnd (fileText (linesBehindHeader iv) ++ cipherText cipher iv blocks)) :=
  atLineEnd_heads (fun line member => plainLines iv line (List.mem_append_right _ (List.mem_cons_of_mem _ member))) ff _

theorem slice_of_blocks {offset len count : Nat} (covered : offset % 16 + len ≤ 16 * count)
    (inside : offset + len ≤ 16 * blocks.length) (zeros : List (BitVec 8)) :
    ((blockBytes ((blocks.drop (offset / 16)).take count) ++ zeros).drop (offset - offset / 16 * 16)).take len =
      ((blockBytes blocks).drop offset).take len := by
  have place : offset - offset / 16 * 16 = offset % 16 := by omega
  have long : offset % 16 + len ≤ (blockBytes ((blocks.drop (offset / 16)).take count)).length := by
    rw [length_blockBytes, List.length_take, List.length_drop]
    omega
  have whole : 16 * (offset / 16) + offset % 16 = offset := Nat.div_add_mod _ _
  rw [place, List.drop_append_of_le_length (by omega), List.take_append_of_le_length (by rw [List.length_drop]; omega),
    ← take_blockBytes, ← drop_blockBytes, List.drop_take, List.drop_drop, whole, List.take_take,
    Nat.min_eq_left (by omega)]

/-- What is read are whole blocks, and the slice is within them. -/
theorem rawBuferSize_blocks {offset len : Nat} (short : len ≤ 480) :
    ∃ count, rawBuferSize offset len = count * 32 ∧ offset % 16 + len ≤ 16 * count ∧
      rawBuferSize offset len / 2 ≤ decryptedLineSize := by
  rw [rawBuferSize, decryptedLineSize]
  split
  · exact ⟨1, rfl, by omega, by decide⟩
  · exact ⟨len / 16 + 2, rfl, by omega, by omega⟩

theorem rawSlice_run {offset len : Nat} (short : len ≤ 480) (inside : offset + len ≤ 16 * blocks.length)
    {ff : FlipperFormat} (ahead : ff.rest = cipherText cipher iv blocks) {fileIv : Bytes 16}
    (first : offset < 16 → fileIv = subghzKeystoreMessWithIv iv) :
    (rawSlice cipher offset len fileIv ff).1 =
      if offset / 16 * 32 + rawBuferSize offset len ≤ 32 * blocks.length then
        .ok (((blockBytes blocks).drop offset).take len)
      else .error .crashed := by
  obtain ⟨count, size, covered, -⟩ := @rawBuferSize_blocks offset len short
  have many := length_cipherText cipher iv blocks
  have enough : ¬ ff.rest.length < offset * 2 + len * 2 := by
    rw [ahead]
    omega
  obtain ⟨previous, after, block, rest, decrypts⟩ :=
    @rawBlockIv_run cipher iv blocks offset (by omega) ff ahead fileIv first
  rw [rawSlice, Effect.observe_bind, Effect.bind_of_ok (refuseIf_run enough ff), Effect.bind_of_ok block,
    Effect.bind_of_ok (readText_run _ after), rest, size, cipherText_slice]
  have taken : ((blockBytes (((cipher.chainEncrypt (subghzKeystoreMessWithIv iv) blocks).drop (offset / 16)).take
      count)).flatMap hexText).length = 2 * (16 * min count (blocks.length - offset / 16)) := by
    rw [length_records length_hexText, length_blockBytes, List.length_take, List.length_drop,
      cipher.length_chainEncrypt]
  by_cases there : offset / 16 * 32 + count * 32 ≤ 32 * blocks.length
  · rw [if_pos there, Effect.bind_of_ok (keystoreAssert_run (by omega) _), hexPairs_printed,
      furiHalCryptoDecrypt, cryptoBlocks_blockBytes, cipher.chainDecrypt_take, decrypts]
    exact congrArg Except.ok (slice_of_blocks blocks covered inside _)
  · rw [if_neg there, keystoreAssert, if_neg (by omega)]
    rfl

/-- What a run comes to: the slice, or an assertion that fails. -/
theorem rawGetData_run {offset len : Nat} (short : len ≤ 480) (inside : offset + len ≤ 16 * blocks.length) :
    (subghzKeystoreRawGetData cipher offset len (FlipperFormat.opened (rawKeystoreFile cipher iv blocks))).1 =
      if offset / 16 * 32 + rawBuferSize offset len ≤ 32 * blocks.length then
        .ok (((blockBytes blocks).drop offset).take len)
      else .error .crashed := by
  have header := rawKeystoreHeader_run cipher iv blocks
  have ahead := behindHeader_heads cipher iv blocks (FlipperFormat.opened (rawKeystoreFile cipher iv blocks))
  obtain ⟨fileIv, after, read, first, lines, heads, found⟩ := rawFileIv_run iv offset ahead
  have data := heads.readString (by decide) (by decide) (by decide) found
  obtain ⟨_, -, -, room⟩ := @rawBuferSize_blocks offset len short
  unfold subghzKeystoreRawGetData
  rw [Effect.bind_of_ok header]
  dsimp only
  rw [Effect.bind_of_ok (refuseIf_run (by decide) _), Effect.bind_of_ok read, Effect.bind_of_ok data,
    Effect.bind_of_ok (keystoreAssert_run room _)]
  exact rawSlice_run cipher iv blocks short inside rfl first

end

/-- Whether the file has every block that a slice of it is decrypted with: one for a slice
within a block, and otherwise two more than the length has whole ones. -/
def BlocksThere (stored offset len : Nat) : Prop :=
  if len ≤ 16 - offset % 16 then offset < stored else 16 * (offset / 16 + len / 16 + 2) ≤ stored

instance (stored offset len : Nat) : Decidable (BlocksThere stored offset len) :=
  inferInstanceAs (Decidable (if len ≤ 16 - offset % 16 then offset < stored
    else 16 * (offset / 16 + len / 16 + 2) ≤ stored))

theorem blocksThere_iff (count offset len : Nat) :
    BlocksThere (16 * count) offset len ↔ offset / 16 * 32 + rawBuferSize offset len ≤ 32 * count := by
  rw [BlocksThere, rawBuferSize]
  split <;> omega

def complementCipher : BlockCipher (Bytes 16) where
  encrypt := Vector.map (~~~ ·)
  decrypt := Vector.map (~~~ ·)
  decrypt_encrypt block := by
    ext i inside
    rw [Vector.getElem_map, Vector.getElem_map, BitVec.not_not]

def evenBlock : Bytes 16 :=
  #v[0x00#8, 0x11#8, 0x22#8, 0x33#8, 0x44#8, 0x55#8, 0x66#8, 0x77#8, 0x88#8, 0x99#8, 0xAA#8, 0xBB#8, 0xCC#8, 0xDD#8,
    0xEE#8, 0xFF#8]

def evenKeystore (count : Nat) : Text :=
  "Filetype: Flipper SubGhz Keystore RAW File\nVersion: 0\nEncryption: 0\n".toList ++
    (blockBytes (List.replicate count evenBlock)).flatMap hexText

end Xtreme.SubGhz
