import Xtreme.BitLib.BitLib
import Xtreme.Flipper.FlipperFormat
import Xtreme.Library.CipherChain

/-! RAW keystores (`subghz_keystore.c`), in a build that has `furi_assert`. The crypto
unit chains the blocks of a cipher, and takes any cipher with any key; it does not
fail, and neither do the files. A file is shorter than 2³² bytes, so that no size or
place in it overflows. -/
namespace Xtreme.SubGhz
open Xtreme.Library Xtreme.Flipper BitLib
open Effect (fault observe update)

def subghzKeystoreFileRawType : Text := "Flipper SubGhz Keystore RAW File".toList
def subghzKeystoreFileVersion : BitVec 32 := 0#32
def subghzKeystoreEncryptionNone : BitVec 32 := 0#32
def subghzKeystoreEncryptionAES256 : BitVec 32 := 1#32

def fileBufferSize : Nat := 64
def decryptedLineSize : Nat := 512

/-- Blocks are mixed bit by bit. -/
def xorBlock (block other : Bytes 16) : Bytes 16 := Vector.zipWith (· ^^^ ·) block other

instance : Mixing (Bytes 16) where
  mix := xorBlock
  mix_mix block other := by
    ext i inside
    rw [xorBlock, xorBlock, Vector.getElem_zipWith, Vector.getElem_zipWith, BitVec.xor_assoc, BitVec.xor_self,
      BitVec.xor_zero]

def cryptoBlock (data : List (BitVec 8)) (index : Nat) : Bytes 16 :=
  Vector.ofFn fun place => data.getD (16 * index + place) 0

def cryptoBlocks (data : List (BitVec 8)) : List (Bytes 16) := (List.range (data.length / 16)).map (cryptoBlock data)

def blockBytes (blocks : List (Bytes 16)) : List (BitVec 8) := blocks.flatMap Vector.toList

/-- `furi_hal_crypto_encrypt`: the output, and the block that the next call starts from. -/
def furiHalCryptoEncrypt (cipher : BlockCipher (Bytes 16)) (iv : Bytes 16) (input : List (BitVec 8)) :
    List (BitVec 8) × Bytes 16 :=
  let blocks := cipher.chainEncrypt iv (cryptoBlocks input)
  (blockBytes blocks, blocks.getLastD iv)

def furiHalCryptoDecrypt (cipher : BlockCipher (Bytes 16)) (iv : Bytes 16) (input : List (BitVec 8)) :
    List (BitVec 8) :=
  blockBytes (cipher.chainDecrypt iv (cryptoBlocks input))

/-- Words are added byte by byte to themselves, shifted by a byte. -/
def subghzKeystoreMessWithIv (iv : Bytes 16) : Bytes 16 :=
  Vector.ofFn fun place => byteAt iv place + if place.val = 0 then 0#8 else byteAt iv (place - 1)

/-- A character that is no digit leaves the zero. -/
def hexNibble (c : Char) : BitVec 8 := BitVec.ofNat 8 ((hexCharToHexNibble c).getD 0)

/-- The loops over two characters at a time. -/
def hexPairs : Text → List (BitVec 8)
  | hi :: low :: rest => ((hexNibble hi <<< 4) ||| hexNibble low) :: hexPairs rest
  | _ => []

/-- `furi_assert`. -/
def keystoreAssert (condition : Prop) [Decidable condition] : LoadM Unit :=
  if condition then pure () else fault .crashed

def refuseIf (condition : Prop) [Decidable condition] : LoadM Unit :=
  if condition then fault .refused else pure ()

/-- `stream_read` behind the cursor. -/
def readText (count : Nat) : LoadM Text := do
  let ff ← observe id
  update fun ff => { ff with rest := ff.rest.drop count }
  pure (ff.rest.take count)

/-- `stream_seek` from the cursor on. -/
def skipText (count : Nat) : LoadM Unit := update fun ff => { ff with rest := ff.rest.drop count }

/-- What both functions read first: the type of the file and its encryption. -/
def rawKeystoreHeader : LoadM (Text × BitVec 32) := do
  let (filetype, version) ← flipperFormatReadHeader
  let encryption ← flipperFormatReadUint32 "Encryption".toList
  refuseIf (cString filetype ≠ subghzKeystoreFileRawType ∨ version ≠ subghzKeystoreFileVersion)
  pure (filetype, encryption)

def rawKeystoreLines (filetype : Text) (iv : Bytes 16) : List Line :=
  flipperFormatWriteHeaderCstr filetype subghzKeystoreFileVersion ++
    [flipperFormatWriteUint32 "Encryption".toList subghzKeystoreEncryptionAES256,
      flipperFormatWriteHex "IV".toList iv.toList,
      flipperFormatWriteStringCstr "Encrypt_data".toList "RAW".toList]

/-- The loop of `subghz_keystore_raw_encrypted_save` over the text of the input. Every
round takes a character at least. -/
def rawEncryptLoop (cipher : BlockCipher (Bytes 16)) : Nat → Bytes 16 → Text → Text
  | 0, _, _ => []
  | fuel + 1, iv, input =>
    let read := input.take fileBufferSize
    if read.length = 0 then []
    else
      let buffer := hexPairs (read ++ List.replicate (fileBufferSize - read.length) '\x00')
      let (encryptedLine, iv') := furiHalCryptoEncrypt cipher iv buffer
      encryptedLine.flatMap hexText ++ rawEncryptLoop cipher fuel iv' (input.drop fileBufferSize)

/-- The text of the file that is written, from the start of the file that is read. -/
def subghzKeystoreRawEncryptedSave (cipher : BlockCipher (Bytes 16)) (iv : Bytes 16) : LoadM Text := do
  let (filetype, encryption) ← rawKeystoreHeader
  refuseIf (encryption ≠ subghzKeystoreEncryptionNone)
  let _ ← readText 1
  let input ← observe FlipperFormat.rest
  pure (fileText (rawKeystoreLines (cString filetype) iv) ++
    rawEncryptLoop cipher input.length (subghzKeystoreMessWithIv iv) input)

/-- The characters that are read from the first block of the slice on. -/
def rawBuferSize (offset len : Nat) : Nat := if len ≤ 16 - offset % 16 then 32 else (len / 16 + 2) * 32

/-- The first value of the file, which only the first block needs. -/
def rawFileIv (offset : Nat) : LoadM (Bytes 16) :=
  if offset < 16 then do
    let iv ← flipperFormatReadHex "IV".toList 16
    pure (subghzKeystoreMessWithIv (cryptoBlock iv 0))
  else pure (Vector.replicate 16 0)

/-- The block in front of that of the slice. -/
def rawBlockIv (offset : Nat) (fileIv : Bytes 16) : LoadM (Bytes 16) :=
  if offset < 16 then pure fileIv
  else do
    skipText ((offset / 16 - 1) * 32)
    let read ← readText 32
    keystoreAssert (read.length = 32)
    pure (cryptoBlock (hexPairs read) 0)

/-- `subghz_keystore_raw_get_data` from the first encrypted character on. The line that is
decrypted is of zeros behind its end. -/
def rawSlice (cipher : BlockCipher (Bytes 16)) (offset len : Nat) (fileIv : Bytes 16) : LoadM (List (BitVec 8)) := do
  let size ← observe fun ff => ff.rest.length
  refuseIf (size < offset * 2 + len * 2)
  let iv ← rawBlockIv offset fileIv
  let read ← readText (rawBuferSize offset len)
  keystoreAssert (read.length = rawBuferSize offset len)
  let decrypted := furiHalCryptoDecrypt cipher iv (hexPairs read)
  let decryptedLine := decrypted ++ List.replicate (decryptedLineSize - decrypted.length) 0#8
  pure ((decryptedLine.drop (offset - offset / 16 * 16)).take len)

def subghzKeystoreRawGetData (cipher : BlockCipher (Bytes 16)) (offset len : Nat) : LoadM (List (BitVec 8)) := do
  let (_, encryption) ← rawKeystoreHeader
  refuseIf (encryption ≠ subghzKeystoreEncryptionAES256)
  let fileIv ← rawFileIv offset
  let _ ← flipperFormatReadString "Encrypt_data".toList
  keystoreAssert (rawBuferSize offset len / 2 ≤ decryptedLineSize)
  let _ ← readText 1
  rawSlice cipher offset len fileIv

end Xtreme.SubGhz
