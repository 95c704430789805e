import Mathlib.Data.List.GetD
import Xtreme.Infrared.Payload

/-! The way back from a payload to its message, for the pulse protocols. What an
`interpret` function finds in the data depends on the payload bits only
(`Carries`), and for the payload of a message it is that message. NEC and NEC42
are told from their extended variants by their checksums, so an extended message
that happens to satisfy them is read as the plain variant (`ComplementedForm`). -/
namespace Xtreme.Infrared

/-- The data has these bits from the given place on. -/
def Carries (data : BitVec 64) (start : Nat) (bits : List Bool) : Prop :=
  ∀ i < bits.length, data.getLsbD (start + i) = bits.getD i false

section Carries
variable {data : BitVec 64} {start : Nat}

theorem carries_append {bits bits' : List Bool} : Carries data start (bits ++ bits') ↔
      Carries data start bits ∧ Carries data (start + bits.length) bits' := by
  constructor
  · intro carries
    refine ⟨fun i low => ?_, fun i low => ?_⟩
    · rw [carries i (by rw [List.length_append]; omega), List.getD_append _ _ _ _ low]
    · have there := carries (bits.length + i) (by rw [List.length_append]; omega)
      rw [List.getD_append_right _ _ _ _ (by omega), Nat.add_sub_cancel_left] at there
      rw [Nat.add_assoc, there]
  · rintro ⟨low, high⟩ i inside
    rw [List.length_append] at inside
    by_cases first : i < bits.length
    · rw [low i first, List.getD_append _ _ _ _ first]
    · have there := high (i - bits.length) (by omega)
      rw [List.getD_append_right _ _ _ _ (by omega), ← there]
      congr 1
      omega

theorem carries_map {f : Nat → Bool} {count : Nat} : Carries data start ((List.range count).map f) ↔
      ∀ i < count, data.getLsbD (start + i) = f i := by
  simp only [Carries, List.length_map, List.length_range]
  refine forall₂_congr fun i inside => ?_
  rw [List.getD_eq_getElem _ _ (by simpa using inside), List.getElem_map, List.getElem_range]

theorem carries_fieldBits {field : BitVec 32} {count : Nat} : Carries data start (fieldBits field count) ↔
      ∀ i < count, data.getLsbD (start + i) = field.getLsbD i := carries_map

theorem carries_inverse {field : BitVec 32} {count : Nat} : Carries data start ((fieldBits field count).map not) ↔
      ∀ i < count, data.getLsbD (start + i) = !field.getLsbD i := by
  rw [fieldBits, List.map_map]
  exact carries_map

end Carries

section Fields
variable {data : BitVec 64} {field : BitVec 32}

theorem byteAt_of_carried (index : Nat) (carried : ∀ i < 8, data.getLsbD (8 * index + i) = field.getLsbD i) :
    byteAt data index = field.setWidth 8 := by
  refine BitVec.eq_of_getLsbD_eq fun i inside => ?_
  rw [getLsbD_byteAt _ _ inside, carried i inside]
  simp [inside]

theorem byteAt_of_carried_inverse (index : Nat)
    (carried : ∀ i < 8, data.getLsbD (8 * index + i) = !field.getLsbD i) :
    byteAt data index = ~~~(field.setWidth 8) := by
  refine BitVec.eq_of_getLsbD_eq fun i inside => ?_
  rw [getLsbD_byteAt _ _ inside, carried i inside]
  simp [inside]

variable {width length : Nat}

theorem setWidth_of_fits (fits : field.toNat < 2 ^ length) (holds : length ≤ width) :
    (field.setWidth width).setWidth 32 = field := by
  refine BitVec.eq_of_getLsbD_eq fun i inside => ?_
  simp only [BitVec.getLsbD_setWidth, inside, decide_true, Bool.true_and]
  by_cases low : i < width
  · simp [low]
  · rw [getLsbD_of_fits fits (by omega), Bool.and_false]

theorem getLsbD_masked {width : Nat} (word mask : BitVec width) (length : Nat) {i : Nat}
    (ones : mask = BitVec.ofNat width (2 ^ length - 1)) (short : length ≤ width) :
    (word &&& mask).getLsbD i = (decide (i < length) && word.getLsbD i) := by
  subst ones
  by_cases low : i < length
  · simp [BitVec.getLsbD_ofNat, low, show i < width by omega]
  · simp [BitVec.getLsbD_ofNat, low]

/-- The lowest `length` bits of a word are `f`, the others are zero. -/
def HasBits {width : Nat} (word : BitVec width) (length : Nat) (f : Nat → Bool) : Prop :=
  ∀ i, word.getLsbD i = (decide (i < length) && f i)

theorem HasBits.congr {word : BitVec width} {f g : Nat → Bool}
    (bits : HasBits word length f) (same : ∀ i < length, f i = g i) : HasBits word length g := by
  intro i
  rw [bits i]
  by_cases low : i < length
  · rw [same i low]
  · simp [low]

theorem HasBits.widen {word : BitVec width} (bits : HasBits word length field.getLsbD) (fits : field.toNat < 2 ^ length) :
    word.setWidth 32 = field := by
  refine BitVec.eq_of_getLsbD_eq fun i inside => ?_
  rw [BitVec.getLsbD_setWidth, bits i, decide_eq_true inside, Bool.true_and]
  by_cases low : i < length
  · rw [decide_eq_true low, Bool.true_and]
  · rw [decide_eq_false low, Bool.false_and, getLsbD_of_fits fits (by omega)]

theorem HasBits.setWidth {word : BitVec width} {f : Nat → Bool} (bits : HasBits word length f) (short : length ≤ 32) :
    HasBits (word.setWidth 32) length f := by
  intro i
  rw [BitVec.getLsbD_setWidth, bits i]
  by_cases low : i < length
  · simp [show i < 32 by omega]
  · simp [low]

theorem hasBits_slice (data : BitVec 64) (start length width : Nat) (mask : BitVec 32)
    (ones : mask = BitVec.ofNat 32 (2 ^ length - 1)) (inside : start + length ≤ 32)
    (holds : length ≤ width) :
    HasBits (((wordAt data 0 >>> start) &&& mask).setWidth width) length
      fun i => data.getLsbD (start + i) := by
  intro i
  rw [BitVec.getLsbD_setWidth, getLsbD_masked _ _ length ones (by omega)]
  by_cases low : i < length
  · simp [wordAt, show i < width by omega, show start + i < 32 by omega]
  · simp [low]

theorem hasBits_low (data : BitVec 64) (length width : Nat) (mask : BitVec 32)
    (ones : mask = BitVec.ofNat 32 (2 ^ length - 1)) (inside : length ≤ 32) (holds : length ≤ width) :
    HasBits ((wordAt data 0 &&& mask).setWidth width) length data.getLsbD := by
  have slice := hasBits_slice data 0 length width mask ones (by omega) holds
  simpa using slice

theorem HasBits.inverse_iff {word inverse : BitVec width} {f g : Nat → Bool}
    (bits : HasBits word length f) (inverseBits : HasBits inverse length g) (mask : BitVec width)
    (ones : mask = BitVec.ofNat width (2 ^ length - 1)) (short : length ≤ width) :
    word = (~~~inverse &&& mask) ↔ ∀ i < length, f i = !g i := by
  have masked (i : Nat) (inside : i < width) :
      (~~~inverse &&& mask).getLsbD i = (decide (i < length) && !g i) := by
    rw [getLsbD_masked _ _ length ones short, BitVec.getLsbD_not, inverseBits i]
    by_cases low : i < length <;> simp [low, inside]
  constructor
  · intro same i low
    have bit := bits i
    rw [same, masked i (by omega), decide_eq_true low] at bit
    exact bit.symm
  · intro same
    refine BitVec.eq_of_getLsbD_eq fun i inside => ?_
    rw [bits i, masked i inside]
    by_cases low : i < length
    · rw [same i low]
    · simp [low]

theorem HasBits.eq_not_iff {length : Nat} {word inverse : BitVec length} {f g : Nat → Bool}
    (bits : HasBits word length f) (inverseBits : HasBits inverse length g) :
    word = ~~~inverse ↔ ∀ i < length, f i = !g i := by
  have whole := bits.inverse_iff inverseBits (BitVec.allOnes length)
    (by rw [BitVec.allOnes, BitVec.ofNatLT_eq_ofNat]) (Nat.le_refl length)
  rwa [BitVec.and_allOnes] at whole

theorem extractLsb'_inverse_iff (field : BitVec 32) (length : Nat) :
    field.extractLsb' 0 length = ~~~field.extractLsb' length length ↔
      ∀ i < length, field.getLsbD i = !field.getLsbD (length + i) := by
  constructor
  · intro same i low
    have bit := congrArg (fun word => BitVec.getLsbD word i) same
    simpa only [BitVec.getLsbD_not, BitVec.getLsbD_extractLsb', low, decide_true, Bool.true_and,
      Nat.zero_add] using bit
  · intro same
    refine BitVec.eq_of_getLsbD_eq fun i low => ?_
    simpa only [BitVec.getLsbD_not, BitVec.getLsbD_extractLsb', low, decide_true, Bool.true_and,
      Nat.zero_add] using same i low

theorem join_parts {low high : BitVec 32} (lowLength highLength : Nat)
    (fits : field.toNat < 2 ^ (lowLength + highLength))
    (lowBits : HasBits low lowLength field.getLsbD)
    (highBits : HasBits high highLength fun i => field.getLsbD (lowLength + i)) :
    low ||| (high <<< lowLength) = field := by
  refine BitVec.eq_of_getLsbD_eq fun i inside => ?_
  rw [BitVec.getLsbD_or, BitVec.getLsbD_shiftLeft, lowBits i, highBits (i - lowLength)]
  by_cases inLow : i < lowLength
  · simp only [inLow, decide_true, Bool.true_and, Bool.not_true, Bool.and_false, Bool.false_and, Bool.or_false]
  · by_cases inHigh : i - lowLength < highLength
    · simp only [inLow, decide_false, Bool.false_and, Bool.not_false, inside, inHigh,
        decide_true, Bool.true_and, Bool.false_or, show lowLength + (i - lowLength) = i by omega]
    · rw [getLsbD_of_fits fits (by omega)]
      simp only [inHigh, decide_false, Bool.false_and, Bool.and_false, Bool.or_false]

end Fields

/-- An extended message that has the checksums of the plain variant. -/
def ComplementedForm (message : InfraredMessage) : Prop :=
  match message.protocol with
  | .necExt =>
    message.address.extractLsb' 0 8 = ~~~message.address.extractLsb' 8 8 ∧
      message.command.extractLsb' 0 8 = ~~~message.command.extractLsb' 8 8
  | .nec42Ext =>
    message.address.extractLsb' 0 13 = ~~~message.address.extractLsb' 13 13 ∧
      message.command.extractLsb' 0 8 = ~~~message.command.extractLsb' 8 8
  | _ => False

instance (message : InfraredMessage) : Decidable (ComplementedForm message) := by
  unfold ComplementedForm
  split <;> infer_instance

variable {decoder : InfraredCommonDecoder} {address command : BitVec 32} (table : InfraredProtocolTable)
  (isRepeat toggle : Bool)

theorem nec_interpret_nec (addressFits : address.toNat < 2 ^ 8)
    (commandFits : command.toNat < 2 ^ 8) (count : decoder.databitCnt = 32)
    (carries : Carries decoder.data 0 (payloadLayout ⟨.nec, address, command, isRepeat⟩ toggle)) :
    infraredDecoderNecInterpret table decoder = (true, decoder.withMessage .nec address command) := by
  simp only [payloadLayout, carries_append, carries_fieldBits, carries_inverse] at carries
  obtain ⟨first, second, third, fourth⟩ := carries
  rw [infraredDecoderNecInterpret, if_pos count]
  simp only [byteAt_of_carried 0 first, byteAt_of_carried_inverse 1 second,
    byteAt_of_carried 2 third, byteAt_of_carried_inverse 3 fourth, BitVec.not_not, and_self, if_true, setWidth_of_fits addressFits (Nat.le_refl 8), setWidth_of_fits commandFits (Nat.le_refl 8)]

theorem byteAt_halves {data : BitVec 64} {field : BitVec 32} (index : Nat)
    (carried : ∀ i < 16, data.getLsbD (8 * index + i) = field.getLsbD i) :
    byteAt data index = field.extractLsb' 0 8 ∧ byteAt data (index + 1) = field.extractLsb' 8 8 := by
  constructor <;> refine BitVec.eq_of_getLsbD_eq fun i inside => ?_
  · rw [getLsbD_byteAt _ _ inside, carried i (by omega)]
    simp [inside]
  · rw [getLsbD_byteAt _ _ inside, show 8 * (index + 1) + i = 8 * index + (8 + i) by omega,
      carried (8 + i) (by omega)]
    simp [inside]

theorem nec_interpret_necExt (addressFits : address.toNat < 2 ^ 16)
    (commandFits : command.toNat < 2 ^ 16) (plain : ¬ ComplementedForm ⟨.necExt, address, command, isRepeat⟩)
    (count : decoder.databitCnt = 32)
    (carries : Carries decoder.data 0 (payloadLayout ⟨.necExt, address, command, isRepeat⟩ toggle)) :
    infraredDecoderNecInterpret table decoder =
      (true, decoder.withMessage .necExt address command) := by
  simp only [payloadLayout, carries_append, carries_fieldBits] at carries
  have joined {field : BitVec 32} (fits : field.toNat < 2 ^ 16) :
      (field.extractLsb' 0 8).setWidth 32 ||| ((field.extractLsb' 8 8).setWidth 32 <<< 8) = field := by
    refine join_parts 8 8 fits (fun i => ?_) (fun i => ?_)
    all_goals
      by_cases low : i < 8
      · simp [show i < 32 by omega]
      · simp [low]
  obtain ⟨address0, address1⟩ := byteAt_halves 0 carries.1
  obtain ⟨command0, command1⟩ := byteAt_halves 2 carries.2
  rw [infraredDecoderNecInterpret, if_pos count]
  simp only [address0, address1, command0, command1, joined addressFits, joined commandFits]
  rw [if_neg]
  rintro ⟨commands, addresses⟩
  exact plain ⟨addresses, commands⟩

/-- A payload of 42 bits: the fields are not at byte boundaries. -/
theorem nec_interpret_long (count : decoder.databitCnt = 42) :
    ∃ address addressInverse command commandInverse : BitVec 16, HasBits address 13 decoder.data.getLsbD ∧
      (HasBits addressInverse 13 fun i => decoder.data.getLsbD (13 + i)) ∧
      (HasBits command 8 fun i => decoder.data.getLsbD (26 + i)) ∧
      (HasBits commandInverse 8 fun i => decoder.data.getLsbD (34 + i)) ∧
      infraredDecoderNecInterpret table decoder =
        if address = (~~~addressInverse &&& 0x1FFF) ∧ command = (~~~commandInverse &&& 0xFF) then
          (true, decoder.withMessage .nec42 (address.setWidth 32) (command.setWidth 32))
        else
          (true, decoder.withMessage .nec42Ext (address.setWidth 32 ||| (addressInverse.setWidth 32 <<< 13))
            (command.setWidth 32 ||| (commandInverse.setWidth 32 <<< 8))) := by
  have word0 (i : Nat) (inside : i < 32) : (wordAt decoder.data 0).getLsbD i = decoder.data.getLsbD i := by
    simp [wordAt, inside]
  have word1 (i : Nat) (inside : i < 32) : (wordAt decoder.data 1).getLsbD i = decoder.data.getLsbD (32 + i) := by
    simp [wordAt, inside]
  rw [infraredDecoderNecInterpret, if_neg (by omega), if_pos count]
  refine ⟨_, _, _, _, hasBits_low decoder.data 13 16 0x1FFF rfl (by decide) (by decide),
    hasBits_slice decoder.data 13 13 16 0x1FFF rfl (by decide) (by decide), fun i => ?_, fun i => ?_, rfl⟩
  · rw [BitVec.getLsbD_or, BitVec.getLsbD_setWidth, getLsbD_masked _ 0x3F 6 rfl (by decide),
      BitVec.getLsbD_shiftLeft, getLsbD_masked _ 0x3 2 rfl (by decide)]
    by_cases first : i < 6
    · simp [first, word0 (26 + i) (by omega), show i < 16 by omega, show i < 8 by omega]
    · by_cases second : i < 8
      · have place : 32 + (i - 6) = 26 + i := by omega
        simp [first, second, word1 (i - 6) (by omega), place, show i < 16 by omega,
          show i - 6 < 2 by omega, show i - 6 < 16 by omega]
      · simp [first, second, show ¬ i - 6 < 2 by omega]
  · rw [getLsbD_masked _ 0xFF 8 rfl (by decide), BitVec.getLsbD_ushiftRight]
    by_cases low : i < 8
    · have place : 32 + (2 + i) = 34 + i := by omega
      simp [word1 (2 + i) (by omega), place, show 2 + i < 16 by omega]
    · simp [low]

theorem nec_interpret_nec42 (addressFits : address.toNat < 2 ^ 13)
    (commandFits : command.toNat < 2 ^ 8) (count : decoder.databitCnt = 42)
    (carries : Carries decoder.data 0 (payloadLayout ⟨.nec42, address, command, isRepeat⟩ toggle)) :
    infraredDecoderNecInterpret table decoder =
      (true, decoder.withMessage .nec42 address command) := by
  simp only [payloadLayout, carries_append, carries_fieldBits, carries_inverse, Nat.zero_add] at carries
  obtain ⟨first, second, third, fourth⟩ := carries
  obtain ⟨address', addressInverse, command', commandInverse, addressBits, addressInverseBits,
    commandBits, commandInverseBits, interpreted⟩ := nec_interpret_long table count
  have addressFound := addressBits.congr first
  have commandFound := commandBits.congr third
  rw [interpreted, if_pos, addressFound.widen addressFits, commandFound.widen commandFits]
  constructor
  · rw [addressFound.inverse_iff (addressInverseBits.congr second) 0x1FFF rfl (by decide)]
    simp
  · rw [commandFound.inverse_iff (commandInverseBits.congr fourth) 0xFF rfl (by decide)]
    simp

theorem nec_interpret_nec42Ext (addressFits : address.toNat < 2 ^ 26)
    (commandFits : command.toNat < 2 ^ 16) (plain : ¬ ComplementedForm ⟨.nec42Ext, address, command, isRepeat⟩)
    (count : decoder.databitCnt = 42)
    (carries : Carries decoder.data 0 (payloadLayout ⟨.nec42Ext, address, command, isRepeat⟩ toggle)) :
    infraredDecoderNecInterpret table decoder =
      (true, decoder.withMessage .nec42Ext address command) := by
  simp only [payloadLayout, carries_append, carries_fieldBits, length_fieldBits, Nat.zero_add] at carries
  obtain ⟨address', addressInverse, command', commandInverse, addressBits, addressInverseBits,
    commandBits, commandInverseBits, interpreted⟩ := nec_interpret_long table count
  have addressLow := addressBits.congr fun i low => carries.1 i (by omega)
  have addressHigh := addressInverseBits.congr fun i low => carries.1 (13 + i) (by omega)
  have commandLow := commandBits.congr fun i low => carries.2 i (by omega)
  have commandHigh := commandInverseBits.congr fun i low =>
    (congrArg decoder.data.getLsbD (by omega)).trans (carries.2 (8 + i) (by omega))
  have checksums : ¬ (address' = (~~~addressInverse &&& 0x1FFF) ∧
      command' = (~~~commandInverse &&& 0xFF)) := by
    rw [addressLow.inverse_iff addressHigh 0x1FFF rfl (by decide),
      commandLow.inverse_iff commandHigh 0xFF rfl (by decide)]
    rintro ⟨addresses, commands⟩
    exact plain ⟨(extractLsb'_inverse_iff address 13).mpr addresses,
      (extractLsb'_inverse_iff command 8).mpr commands⟩
  rw [interpreted, if_neg checksums, join_parts 13 13 addressFits (addressLow.setWidth (by decide))
    (addressHigh.setWidth (by decide)), join_parts 8 8 commandFits (commandLow.setWidth (by decide))
    (commandHigh.setWidth (by decide))]

theorem samsung32_interpret (addressFits : address.toNat < 2 ^ 8) (commandFits : command.toNat < 2 ^ 8)
    (carries : Carries decoder.data 0 (payloadLayout ⟨.samsung32, address, command, isRepeat⟩ toggle)) :
    infraredDecoderSamsung32Interpret table decoder =
      (true, decoder.withMessage .samsung32 address command) := by
  simp only [payloadLayout, carries_append, carries_fieldBits, carries_inverse] at carries
  obtain ⟨first, second, third, fourth⟩ := carries
  simp only [infraredDecoderSamsung32Interpret, byteAt_of_carried 0 first, byteAt_of_carried 1 second,
    byteAt_of_carried 2 third, byteAt_of_carried_inverse 3 fourth, BitVec.not_not, and_self, if_true,
    setWidth_of_fits addressFits (Nat.le_refl 8), setWidth_of_fits commandFits (Nat.le_refl 8)]

theorem sirc_interpret {protocol : InfraredProtocol} (length : Nat)
    (known : protocol = .sirc ∧ length = 5 ∨ protocol = .sirc15 ∧ length = 8 ∨ protocol = .sirc20 ∧ length = 13)
    (addressFits : address.toNat < 2 ^ length) (commandFits : command.toNat < 2 ^ 7)
    (count : decoder.databitCnt = 7 + length)
    (carries : Carries decoder.data 0 (payloadLayout ⟨protocol, address, command, isRepeat⟩ toggle)) :
    infraredDecoderSircInterpret table decoder =
      (true, decoder.withMessage protocol address command) := by
  have fields : (∀ i < 7, decoder.data.getLsbD i = command.getLsbD i) ∧
      ∀ i < length, decoder.data.getLsbD (7 + i) = address.getLsbD i := by
    obtain ⟨rfl, rfl⟩ | ⟨rfl, rfl⟩ | ⟨rfl, rfl⟩ := known <;>
      simpa only [payloadLayout, carries_append, carries_fieldBits, length_fieldBits, Nat.zero_add] using carries
  have commandFound := ((hasBits_low decoder.data 7 8 0x7F rfl (by decide) (by decide)).congr
    fields.1).widen commandFits
  obtain ⟨rfl, rfl⟩ | ⟨rfl, rfl⟩ | ⟨rfl, rfl⟩ := known
  · have addressFound := ((hasBits_slice decoder.data 7 5 16 0x1F rfl (by decide)
      (by decide)).congr fields.2).widen addressFits
    simp only [infraredDecoderSircInterpret, count, commandFound, addressFound, if_true]
  · have addressFound := ((hasBits_slice decoder.data 7 8 16 0xFF rfl (by decide)
      (by decide)).congr fields.2).widen addressFits
    simp only [infraredDecoderSircInterpret, count, commandFound, addressFound, Nat.reduceEqDiff, if_true, if_false]
  · have addressFound := ((hasBits_slice decoder.data 7 13 16 0x1FFF rfl (by decide)
      (by decide)).congr fields.2).widen addressFits
    simp only [infraredDecoderSircInterpret, count, commandFound, addressFound, Nat.reduceEqDiff, if_true, if_false]

theorem rca_interpret (addressFits : address.toNat < 2 ^ 4) (commandFits : command.toNat < 2 ^ 8)
    (carries : Carries decoder.data 0 (payloadLayout ⟨.rca, address, command, isRepeat⟩ toggle)) :
    infraredDecoderRcaInterpret table decoder =
      (true, decoder.withMessage .rca address command) := by
  simp only [payloadLayout, carries_append, carries_fieldBits, carries_inverse, Nat.zero_add] at carries
  obtain ⟨first, second, third, fourth⟩ := carries
  have addressBits := (hasBits_low decoder.data 4 8 0xF rfl (by decide) (by decide)).congr first
  have commandBits := (hasBits_slice decoder.data 4 8 8 0xFF rfl (by decide) (by decide)).congr second
  have addressInverse := (hasBits_slice decoder.data 12 4 8 0xF rfl (by decide) (by decide)).congr third
  have commandInverse := (hasBits_slice decoder.data 16 8 8 0xFF rfl (by decide) (by decide)).congr fourth
  have checksums := And.intro ((commandBits.eq_not_iff commandInverse).mpr (by simp))
    ((addressBits.inverse_iff addressInverse 0xF rfl (by decide)).mpr (by simp))
  simp only [infraredDecoderRcaInterpret]
  rw [if_pos checksums, addressBits.widen addressFits, commandBits.widen commandFits]

theorem pioneer_interpret (addressFits : address.toNat < 2 ^ 8) (commandFits : command.toNat < 2 ^ 8)
    (count : decoder.databitCnt = 33)
    (carries : Carries decoder.data 0 (payloadLayout ⟨.pioneer, address, command, isRepeat⟩ toggle)) :
    infraredDecoderPioneerInterpret infraredProtocolPioneer.toInfraredProtocolTable decoder =
      (true, decoder.withMessage .pioneer address command) := by
  simp only [payloadLayout, carries_append, carries_fieldBits, carries_inverse, Nat.zero_add] at carries
  obtain ⟨first, second, third, fourth, -⟩ := carries
  have addressBits := (hasBits_low decoder.data 8 8 0xFF rfl (by decide) (by decide)).congr first
  have checksum := (hasBits_slice decoder.data 8 8 8 0xFF rfl (by decide) (by decide)).congr second
  have commandBits := (hasBits_slice decoder.data 16 8 8 0xFF rfl (by decide) (by decide)).congr third
  have checksum' := (hasBits_slice decoder.data 24 8 8 0xFF rfl (by decide) (by decide)).congr fourth
  have known : decoder.databitCnt =
      infraredProtocolPioneer.toInfraredProtocolTable.databitLen.getD 0 0 := count
  simp only [infraredDecoderPioneerInterpret]
  rw [if_pos (.inl known), if_neg (not_not.mpr ((checksum.eq_not_iff addressBits).mpr (by simp))),
    if_neg (not_not.mpr ((checksum'.eq_not_iff commandBits).mpr (by simp))),
    addressBits.widen addressFits, commandBits.widen commandFits]

theorem kaseikyo_interpret (addressFits : address.toNat < 2 ^ 26) (commandFits : command.toNat < 2 ^ 10)
    (carries : Carries decoder.data 0 (payloadLayout ⟨.kaseikyo, address, command, isRepeat⟩ toggle)) :
    infraredDecoderKaseikyoInterpret table decoder =
      (true, decoder.withMessage .kaseikyo address command) := by
  rw [payloadLayout, carries_append, carries_append] at carries
  obtain ⟨vendor, middle, last⟩ := carries
  have length : (kaseikyoMiddle address command).length = 24 := by simp [kaseikyoMiddle]
  simp only [carries_map, List.length_map, List.length_range, Nat.zero_add, length] at vendor middle last
  have middleBits := middle
  simp only [kaseikyoMiddle, carries_append, carries_map, carries_fieldBits, List.length_append,
    List.length_map, List.length_range, length_fieldBits] at middleBits
  obtain ⟨⟨⟨⟨vendorParity, genre1⟩, genre2⟩, commandBits⟩, id⟩ := middleBits
  generalize found : decoder.data = data at *
  have byte (index : Nat) {i : Nat} (inside : i < 8) :
      (byteAt data index).getLsbD i = data.getLsbD (8 * index + i) := getLsbD_byteAt data index inside
  have vendorCheck : byteAt data 2 &&& 15#8 = ((byteAt data 0 ^^^ byteAt data 1) &&& 15#8) ^^^
      ((byteAt data 0 ^^^ byteAt data 1) >>> 4) := by
    refine BitVec.eq_of_getLsbD_eq fun i inside => ?_
    rw [BitVec.getLsbD_xor, getLsbD_masked _ 15#8 4 rfl (by decide),
      getLsbD_masked _ 15#8 4 rfl (by decide), BitVec.getLsbD_ushiftRight]
    by_cases low : i < 4
    · simp only [low, decide_true, Bool.true_and, BitVec.getLsbD_xor, byte _ inside,
        byte _ (show 4 + i < 8 by omega), vendorParity i low, kaseikyoVendorParity,
        vendor i (by omega), vendor (8 + i) (by omega), vendor (4 + i) (by omega),
        vendor (12 + i) (by omega), ← Nat.add_assoc, Nat.reduceMul, Nat.zero_add]
    · rw [BitVec.getLsbD_of_ge _ (4 + i) (by omega)]
      simp [low]
  have check : byteAt data 5 = byteAt data 2 ^^^ byteAt data 3 ^^^ byteAt data 4 := by
    refine BitVec.eq_of_getLsbD_eq fun i inside => ?_
    have middleBit (j : Nat) (low : j < 24) : (kaseikyoMiddle address command).getD j false =
        data.getLsbD (16 + j) := (middle j (by simpa [kaseikyoMiddle] using low)).symm
    rw [BitVec.getLsbD_xor, BitVec.getLsbD_xor, byte 5 inside, byte 2 inside, byte 3 inside,
      byte 4 inside, last i inside, middleBit i (by omega), middleBit (8 + i) (by omega),
      middleBit (16 + i) (by omega)]
    simp only [← Nat.add_assoc]
  have commandFound : HasBits ((byteAt data 3 >>> 4).setWidth 16 |||
      ((byteAt data 4 &&& 63#8).setWidth 16 <<< 4)) 10 command.getLsbD := by
    intro i
    rw [BitVec.getLsbD_or, BitVec.getLsbD_setWidth, BitVec.getLsbD_shiftLeft, BitVec.getLsbD_setWidth, getLsbD_masked _ 63#8 6 rfl (by decide)]
    by_cases first : i < 4
    · have bit := commandBits i (by omega)
      simp [first, show i < 16 by omega, show i < 10 by omega, byte 3 (show 4 + i < 8 by omega),
        ← Nat.add_assoc, bit]
    · by_cases second : i < 10
      · have bit := commandBits i second
        rw [show 28 + i = 8 * 4 + (i - 4) by omega] at bit
        simp [first, second, show i < 16 by omega, byte 4 (show i - 4 < 8 by omega),
          show i - 4 < 6 by omega, show i - 4 < 16 by omega, bit,
          BitVec.getLsbD_of_ge (byteAt data 3) (4 + i) (by omega)]
      · simp [second, show ¬ i - 4 < 6 by omega, BitVec.getLsbD_of_ge (byteAt data 3) (4 + i) (by omega)]
  have byteBit (index i : Nat) :
      (byteAt data index).getLsbD i = (decide (i < 8) && data.getLsbD (8 * index + i)) := by
    by_cases inside : i < 8
    · rw [byte index inside, decide_eq_true inside, Bool.true_and]
    · rw [BitVec.getLsbD_of_ge _ _ (by omega), decide_eq_false inside, Bool.false_and]
  have addressFound : ((byteAt data 4 >>> 6).setWidth 32 <<< 24) |||
      (((byteAt data 1).setWidth 16 <<< 8 ||| (byteAt data 0).setWidth 16).setWidth 32 <<< 8) |||
      ((byteAt data 2 >>> 4).setWidth 32 <<< 4) ||| (byteAt data 3 &&& 15#8).setWidth 32 =
      address := by
    refine BitVec.eq_of_getLsbD_eq fun i inside => ?_
    simp only [BitVec.getLsbD_or, BitVec.getLsbD_setWidth, BitVec.getLsbD_shiftLeft,
      BitVec.getLsbD_ushiftRight, getLsbD_masked _ 15#8 4 rfl (by decide), byteBit]
    rcases (by omega : i < 4 ∨ (4 ≤ i ∧ i < 8) ∨ (8 ≤ i ∧ i < 16) ∨ (16 ≤ i ∧ i < 24) ∨ i = 24 ∨
      i = 25 ∨ 26 ≤ i) with low | ⟨low, high⟩ | ⟨low, high⟩ | ⟨low, high⟩ | rfl | rfl | low
    all_goals
      simp (disch := omega) only [decide_eq_true, decide_eq_false, Bool.false_and, Bool.and_false, Bool.or_false]
    · exact genre2 i low
    · exact (congrArg data.getLsbD (by omega)).trans
        ((genre1 (i - 4) (by omega)).trans (congrArg address.getLsbD (by omega)))
    · exact (congrArg data.getLsbD (by omega)).trans
        ((vendor (i - 8) (by omega)).trans (congrArg address.getLsbD (by omega)))
    · exact (congrArg data.getLsbD (by omega)).trans
        ((vendor (i - 8) (by omega)).trans (congrArg address.getLsbD (by omega)))
    · exact id 0 (by simp)
    · exact id 1 (by simp)
    · exact (getLsbD_of_fits addressFits low).symm
  have commandWide := commandFound.widen commandFits
  simp only [infraredDecoderKaseikyoInterpret, found]
  rw [if_pos ⟨vendorCheck, check⟩]
  exact congrArg₂ (fun address command => (true, decoder.withMessage .kaseikyo address command))
    addressFound commandWide

/-- Whether a family codes its bits in pulses and not in edges. -/
def InfraredFamily.isPulse : InfraredFamily → Bool
  | .rc5 | .rc6 => false
  | _ => true

theorem interpret_payload {family : InfraredFamily} {message : InfraredMessage} {toggle : Bool} (pulse : family.isPulse = true)
    (known : (family.getProtocolVariant message.protocol).isSome)
    (valid : infraredSignalIsMessageValid message) (plain : ¬ ComplementedForm message)
    (count : decoder.databitCnt = (payloadLayout message toggle).length)
    (carries : Carries decoder.data 0 (payloadLayout message toggle)) :
    family.spec.interpret family.spec.toInfraredProtocolTable decoder =
      (true, decoder.withMessage message.protocol message.address message.command) := by
  obtain ⟨protocol, address, command, isRepeat⟩ := message
  cases family
  case rc5 | rc6 => cases pulse
  all_goals
    cases protocol <;> simp only [InfraredFamily.getProtocolVariant, Option.isSome_none,
      Bool.false_eq_true] at known
  all_goals
    have fits := fits_of_valid valid rfl (by decide) (by decide)
  case nec.nec => exact nec_interpret_nec infraredProtocolNec.toInfraredProtocolTable _ _ fits.1 fits.2 count carries
  case nec.necExt => exact nec_interpret_necExt infraredProtocolNec.toInfraredProtocolTable _ _ fits.1 fits.2 plain count carries
  case nec.nec42 => exact nec_interpret_nec42 infraredProtocolNec.toInfraredProtocolTable _ _ fits.1 fits.2 count carries
  case nec.nec42Ext => exact nec_interpret_nec42Ext infraredProtocolNec.toInfraredProtocolTable _ _ fits.1 fits.2 plain count carries
  case samsung32.samsung32 => exact samsung32_interpret infraredProtocolSamsung32.toInfraredProtocolTable _ _ fits.1 fits.2 carries
  case sirc.sirc =>
    exact sirc_interpret infraredProtocolSirc.toInfraredProtocolTable _ _ 5 (.inl ⟨rfl, rfl⟩) fits.1 fits.2 count carries
  case sirc.sirc15 =>
    exact sirc_interpret infraredProtocolSirc.toInfraredProtocolTable _ _ 8 (.inr (.inl ⟨rfl, rfl⟩)) fits.1 fits.2 count carries
  case sirc.sirc20 =>
    exact sirc_interpret infraredProtocolSirc.toInfraredProtocolTable _ _ 13 (.inr (.inr ⟨rfl, rfl⟩)) fits.1 fits.2 count carries
  case pioneer.pioneer => exact pioneer_interpret _ _ fits.1 fits.2 count carries
  case kaseikyo.kaseikyo => exact kaseikyo_interpret infraredProtocolKaseikyo.toInfraredProtocolTable _ _ fits.1 fits.2 carries
  case rca.rca => exact rca_interpret infraredProtocolRca.toInfraredProtocolTable _ _ fits.1 fits.2 carries

end Xtreme.Infrared
