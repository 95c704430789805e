import Xtreme.Toolbox.BitBufferAppend

/-! The CRC-32 of files (`crc32_calc.c`, `dfu_file_validate_crc`). The register of `lfs_crc` is
that of littlefs, with the polynomial 0x04C11DB7 read from its other end. A DFU file ends with its
register, which leaves nothing of it behind. -/
namespace Xtreme.Toolbox
open Library FeedbackRegister

def lfsPolynomial : BitVec 32 := (0x04C11DB7#32).reverse

def lfsCrcByte (crc : BitVec 32) (byte : BitVec 8) : BitVec 32 := (shift lfsPolynomial)^[8] (crc ^^^ byte.setWidth 32)

def lfsCrc (crc : BitVec 32) (buffer : List (BitVec 8)) : BitVec 32 := buffer.foldl lfsCrcByte crc

def crc32CalcBuffer (crc : BitVec 32) (buffer : List (BitVec 8)) : BitVec 32 := ~~~(lfsCrc (~~~crc) buffer)

def crcDataBufferMaxLen : Nat := 512

/-- The loop of `crc32_calc_file`. A read takes what is there, up to a whole buffer. -/
def crcFileLoop (fileSize : BitVec 32) (ahead : List (BitVec 8)) (fptr fileCrc : BitVec 32) : BitVec 32 :=
  if fptr < fileSize then
    let dataBuffer := ahead.take crcDataBufferMaxLen
    if _taken : dataBuffer.length = 0 then fileCrc
    else
      crcFileLoop fileSize (ahead.drop crcDataBufferMaxLen) (fptr + BitVec.ofNat 32 dataBuffer.length)
        (crc32CalcBuffer fileCrc dataBuffer)
  else fileCrc
termination_by ahead.length
decreasing_by
  have more : (ahead.take crcDataBufferMaxLen).length ≠ 0 := _taken
  rw [List.length_take] at more
  rw [List.length_drop]
  omega

/-- The size of a file has 64 bits, of which 32 are kept. -/
def crc32CalcFile (file : List (BitVec 8)) : BitVec 32 := crcFileLoop (BitVec.ofNat 32 file.length) file 0#32 0#32

def validWholeFileCrc : BitVec 32 := 0xFFFFFFFF#32

def dfuFileValidateCrc (file : List (BitVec 8)) : Bool := crc32CalcFile file = validWholeFileCrc

/-- The last four bytes are, the lowest one first, the complement of the checksum of those before. -/
def EndsWithCrc (file : List (BitVec 8)) : Prop :=
  file.drop (file.length - 4) = (splitBytes 4 (~~~(crc32CalcBuffer 0#32 (file.take (file.length - 4))))).reverse

theorem crc32CalcBuffer_append (crc : BitVec 32) (first second : List (BitVec 8)) :
    crc32CalcBuffer crc (first ++ second) = crc32CalcBuffer (crc32CalcBuffer crc first) second := by
  rw [crc32CalcBuffer, crc32CalcBuffer, crc32CalcBuffer, BitVec.not_not, lfsCrc, List.foldl_append]
  rfl

theorem crc32CalcBuffer_pieces (crc : BitVec 32) (pieces : List (List (BitVec 8))) :
    pieces.foldl crc32CalcBuffer crc = crc32CalcBuffer crc pieces.flatten := by
  induction pieces generalizing crc with
  | nil => exact BitVec.not_not.symm
  | cons piece pieces ih => rw [List.foldl_cons, ih, List.flatten_cons, crc32CalcBuffer_append]

theorem crcFileLoop_eq {fileSize fptr : BitVec 32} (fileCrc : BitVec 32) {ahead : List (BitVec 8)}
    (place : fptr.toNat + ahead.length = fileSize.toNat) :
    crcFileLoop fileSize ahead fptr fileCrc = crc32CalcBuffer fileCrc ahead := by
  induction left : ahead.length using Nat.strongRecOn generalizing ahead fptr fileCrc with
  | ind count ih =>
    rw [crcFileLoop]
    by_cases inside : fptr < fileSize
    · have some : ahead.length ≠ 0 := by
        have := BitVec.lt_def.mp inside
        omega
      have taken : (ahead.take crcDataBufferMaxLen).length = min 512 ahead.length := List.length_take
      have dropped : (ahead.drop crcDataBufferMaxLen).length = ahead.length - 512 := List.length_drop
      rw [if_pos inside]
      rw [dif_neg (by omega), ih _ (by omega) _ ?_ dropped, ← crc32CalcBuffer_append, List.take_append_drop]
      rw [BitVec.toNat_add, BitVec.toNat_ofNat]
      omega
    · have none : ahead = [] := List.eq_nil_of_length_eq_zero (by
        have := BitVec.not_lt.mp inside
        have := BitVec.le_def.mp this
        omega)
      rw [if_neg inside, none]
      exact BitVec.not_not.symm

theorem lfsCrc_eq (crc : BitVec 32) (buffer : List (BitVec 8)) : lfsCrc crc buffer = feedAll lfsPolynomial crc (bitsOfBytes buffer) :=
  foldl_bytes (fun crc byte => (feedAll_byte (by decide) _ crc byte).symm) crc buffer

theorem lfsPolynomial_top : lfsPolynomial.getMsbD 0 = true := by
  rw [lfsPolynomial, BitVec.getMsbD_reverse]
  decide

/-- Only its own word clears the register. -/
theorem crc32CalcBuffer_trailer (message : List (BitVec 8)) {trailer : List (BitVec 8)} (four : trailer.length = 4) :
    crc32CalcBuffer 0#32 (message ++ trailer) = validWholeFileCrc ↔
      trailer = (splitBytes 4 (~~~(crc32CalcBuffer 0#32 message))).reverse := by
  have empty : shift lfsPolynomial 0#32 = 0#32 := by
    decide
  have clears : validWholeFileCrc = ~~~((shift lfsPolynomial)^[8 * trailer.length] 0#32) := by
    rw [Function.iterate_fixed empty]
    decide
  have room : 8 * trailer.reverse.length ≤ 32 := by
    rw [List.length_reverse]
    omega
  rw [crc32CalcBuffer_append, crc32CalcBuffer, clears, BitVec.not_inj, lfsCrc_eq, feedAll_bytes _ _ (by omega),
    ((shift_injective lfsPolynomial_top).iterate _).eq_iff, BitVec.xor_eq_zero_iff]
  constructor
  · intro same
    rw [same, ← four, ← List.length_reverse, splitBytes_joinBytes room, List.reverse_reverse]
  · intro same
    rw [same, List.reverse_reverse, joinBytes_splitBytes (by decide)]

/-- **A file below 4 GiB is valid just if it ends with its checksum**, and a message may be
split into any pieces. -/
theorem dfuFileValidateCrc_iff {file : List (BitVec 8)} (trailer : 4 ≤ file.length) (small : file.length < 2 ^ 32) :
    (dfuFileValidateCrc file = true ↔ EndsWithCrc file) ∧ ∀ (crc : BitVec 32) (pieces : List (List (BitVec 8))),
        pieces.foldl crc32CalcBuffer crc = crc32CalcBuffer crc pieces.flatten := by
  refine ⟨?_, crc32CalcBuffer_pieces⟩
  have four : (file.drop (file.length - 4)).length = 4 := by
    rw [List.length_drop]
    omega
  have size : (0#32).toNat + file.length = (BitVec.ofNat 32 file.length).toNat := by
    have kept : (BitVec.ofNat 32 file.length).toNat = file.length := by rw [BitVec.toNat_ofNat, Nat.mod_eq_of_lt small]
    rw [kept]
    exact Nat.zero_add _
  have whole := crc32CalcBuffer_trailer (file.take (file.length - 4)) four
  rw [List.take_append_drop] at whole
  rw [dfuFileValidateCrc, decide_eq_true_eq, crc32CalcFile, crcFileLoop_eq _ size, whole]
  rfl

theorem four_zeros_validate : (dfuFileValidateCrc [0#8, 0#8, 0#8, 0#8] = true ↔ EndsWithCrc [0#8, 0#8, 0#8, 0#8]) ∧
      ∀ (crc : BitVec 32) (pieces : List (List (BitVec 8))),
        pieces.foldl crc32CalcBuffer crc = crc32CalcBuffer crc pieces.flatten :=
  dfuFileValidateCrc_iff (by decide) (by decide)

/-- Of a file of exactly 4 GiB nothing is read. -/
theorem four_gigabytes_unread : ∃ file : List (BitVec 8), file.length = 2 ^ 32 ∧ EndsWithCrc file ∧
    dfuFileValidateCrc file = false := by
  let message : List (BitVec 8) := List.replicate (2 ^ 32 - 4) 0#8
  let trailer := (splitBytes 4 (~~~(crc32CalcBuffer 0#32 message))).reverse
  have length : message.length = 2 ^ 32 - 4 := List.length_replicate
  have four : trailer.length = 4 := by rw [List.length_reverse, length_splitBytes]
  have total : (message ++ trailer).length = 2 ^ 32 := by
    rw [List.length_append, length]
    decide
  have front : (message ++ trailer).length - 4 = message.length := by rw [total, length]
  refine ⟨message ++ trailer, total, ?_, ?_⟩
  · rw [EndsWithCrc, front, List.drop_left, List.take_left]
  · have unread : ¬ (0#32 < BitVec.ofNat 32 (2 ^ 32)) := by decide
    rw [dfuFileValidateCrc, crc32CalcFile, total, crcFileLoop]
    decide

end Xtreme.Toolbox
