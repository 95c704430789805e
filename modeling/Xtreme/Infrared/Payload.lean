import Xtreme.Infrared.Dispatch

/-! What a frame carries: for every protocol the bits of its payload in the
order they are sent (`payloadLayout`), and that the encoders pack exactly these
(`reset_payload`). Two messages of a protocol then share a payload only where
the layout leaves a bit out, which is the case for the seventh command bit of
RC5X: its variant declares seven bits and the encoder packs six. -/
namespace Xtreme.Infrared

theorem getLsbD_setWord_zero (data : BitVec 64) (value : BitVec 32) {i : Nat} (inside : i < 64) :
    (setWord data 0 value).getLsbD i = if i < 32 then value.getLsbD i else data.getLsbD i := by
  have mask : ∀ i < 64, (0xFFFFFFFF#64 <<< (32 * 0)).getLsbD i = decide (i < 32) := by decide
  simp only [setWord, BitVec.getLsbD_or, BitVec.getLsbD_and, BitVec.getLsbD_not, mask i inside,
    inside, BitVec.getLsbD_shiftLeft, BitVec.getLsbD_setWidth, Nat.mul_zero, Nat.sub_zero,
    Nat.not_lt_zero, decide_true, decide_false, Bool.not_false, Bool.true_and]
  by_cases low : i < 32
  · simp [low]
  · simp only [low, decide_false, Bool.not_false, Bool.and_true, if_false]
    rw [BitVec.getLsbD_of_ge value i (by omega), Bool.or_false]

theorem getLsbD_setWord_one (data : BitVec 64) (value : BitVec 32) {i : Nat} (inside : i < 64) :
    (setWord data 1 value).getLsbD i = if i < 32 then data.getLsbD i else value.getLsbD (i - 32) := by
  have mask : ∀ i < 64, (0xFFFFFFFF#64 <<< (32 * 1)).getLsbD i = !decide (i < 32) := by decide
  simp only [setWord, BitVec.getLsbD_or, BitVec.getLsbD_and, BitVec.getLsbD_not, mask i inside,
    inside, BitVec.getLsbD_shiftLeft]
  by_cases low : i < 32
  · simp [low]
  · simp [low, show i - 32 < 64 by omega]

theorem getLsbD_byteAt (data : BitVec 64) (index : Nat) {i : Nat} (inside : i < 8) :
    (byteAt data index).getLsbD i = data.getLsbD (8 * index + i) := by
  simp [byteAt, inside]

theorem getLsbD_setByte (data : BitVec 64) {index : Nat} (value : BitVec 8) {i : Nat} (inside : i < 64) :
    (setByte data index value).getLsbD i =
      if 8 * index ≤ i ∧ i < 8 * index + 8 then value.getLsbD (i - 8 * index) else data.getLsbD i := by
  have mask (k : Nat) : (0xFF#64).getLsbD k = decide (k < 8) := by
    by_cases small : k < 64
    · have all : ∀ k < 64, (0xFF#64).getLsbD k = decide (k < 8) := by decide
      exact all k small
    · rw [BitVec.getLsbD_of_ge _ _ (by omega), decide_eq_false (by omega)]
  simp only [setByte, BitVec.getLsbD_or, BitVec.getLsbD_and, BitVec.getLsbD_not,
    BitVec.getLsbD_shiftLeft, inside, mask]
  by_cases low : i < 8 * index
  · simp [low, show ¬ 8 * index ≤ i by omega]
  · by_cases high : i < 8 * index + 8
    · simp [low, high, show i - 8 * index < 8 by omega,
        show i - 8 * index < 64 by omega]
    · have beyond : value.getLsbD (i - 8 * index) = false := BitVec.getLsbD_of_ge _ _ (by omega)
      simp [high, beyond, show ¬ i - 8 * index < 8 by omega]

section Literals
variable {i : Nat}

/-! The same for the places `simp` sees as numerals. -/

@[simp] theorem getElem_setWord_zero (data : BitVec 64) (value : BitVec 32) (inside : i < 64)
    (low : i < 32) : (setWord data 0 value)[i] = value[i] := by
  rw [← BitVec.getLsbD_eq_getElem, getLsbD_setWord_zero _ _ inside, if_pos low, BitVec.getLsbD_eq_getElem]

@[simp] theorem getElem_setWord_one_low (data : BitVec 64) (value : BitVec 32) (inside : i < 64)
    (low : i < 32) : (setWord data 1 value)[i] = data[i] := by
  rw [← BitVec.getLsbD_eq_getElem, getLsbD_setWord_one _ _ inside, if_pos low, BitVec.getLsbD_eq_getElem]

@[simp] theorem getElem_setWord_one_high (data : BitVec 64) (value : BitVec 32) (inside : i < 64)
    (high : 32 ≤ i) : (setWord data 1 value)[i] = value.getLsbD (i - 32) := by
  rw [← BitVec.getLsbD_eq_getElem, getLsbD_setWord_one _ _ inside, if_neg (by omega)]

@[simp] theorem getElem_setByte_same (data : BitVec 64) {index : Nat} (value : BitVec 8)
    (inside : i < 64) (low : 8 * index ≤ i) (high : i < 8 * index + 8) :
    (setByte data index value)[i] = value.getLsbD (i - 8 * index) := by
  rw [← BitVec.getLsbD_eq_getElem, getLsbD_setByte _ _ inside, if_pos ⟨low, high⟩]

@[simp] theorem getElem_setByte_below (data : BitVec 64) {index : Nat} (value : BitVec 8)
    (inside : i < 64) (below : i < 8 * index) : (setByte data index value)[i] = data[i] := by
  rw [← BitVec.getLsbD_eq_getElem, getLsbD_setByte _ _ inside, if_neg (by omega), BitVec.getLsbD_eq_getElem]

@[simp] theorem getElem_setByte_above (data : BitVec 64) {index : Nat} (value : BitVec 8)
    (inside : i < 64) (above : 8 * index + 8 ≤ i) : (setByte data index value)[i] = data[i] := by
  rw [← BitVec.getLsbD_eq_getElem, getLsbD_setByte _ _ inside, if_neg (by omega), BitVec.getLsbD_eq_getElem]

end Literals

def fieldBits (field : BitVec 32) (count : Nat) : List Bool := (List.range count).map field.getLsbD

def kaseikyoVendorParity (address : BitVec 32) (i : Nat) : Bool :=
  (address.getLsbD (8 + i) ^^ address.getLsbD (16 + i)) ^^ (address.getLsbD (12 + i) ^^ address.getLsbD (20 + i))

/-- The bits of Kaseikyo between the vendor and the last byte. -/
def kaseikyoMiddle (address command : BitVec 32) : List Bool :=
  (List.range 4).map (kaseikyoVendorParity address) ++
    ((List.range 4).map fun i => address.getLsbD (4 + i)) ++ fieldBits address 4 ++
    fieldBits command 10 ++ [address.getLsbD 24, address.getLsbD 25]

/-- The payload of a message in the order its bits are sent. Only RC5 and RC6
have a toggle bit. -/
def payloadLayout (message : InfraredMessage) (toggle : Bool) : List Bool :=
  let address := fieldBits message.address
  let command := fieldBits message.command
  let inverse := List.map not
  match message.protocol with
  | .nec => address 8 ++ (inverse (address 8) ++ (command 8 ++ inverse (command 8)))
  | .necExt => address 16 ++ command 16
  | .nec42 => address 13 ++ (inverse (address 13) ++ (command 8 ++ inverse (command 8)))
  | .nec42Ext => address 26 ++ command 16
  | .samsung32 => address 8 ++ (address 8 ++ (command 8 ++ inverse (command 8)))
  | .rc5 => inverse ([true, true, toggle] ++ ((address 5).reverse ++ (command 6).reverse))
  | .rc5x => inverse ([true, false, toggle] ++ ((address 5).reverse ++ (command 6).reverse))
  | .rc6 => [true, false, false, false, toggle] ++ ((address 8).reverse ++ (command 8).reverse)
  | .sirc => command 7 ++ address 5
  | .sirc15 => command 7 ++ address 8
  | .sirc20 => command 7 ++ address 13
  | .kaseikyo =>
    let middle := kaseikyoMiddle message.address message.command
    ((List.range 16).map fun i => message.address.getLsbD (8 + i)) ++ (middle ++ (List.range 8).map fun i =>
        (middle.getD i false ^^ middle.getD (8 + i) false) ^^ middle.getD (16 + i) false)
  | .rca => address 4 ++ (command 8 ++ (inverse (address 4) ++ inverse (command 8)))
  | .pioneer =>
    address 8 ++ (inverse (address 8) ++ (command 8 ++ (inverse (command 8) ++ [false])))
  | .unknown => []

/-- The bits of the frame an encoder is about to send. -/
def framePayload (encoder : InfraredCommonEncoder) : List Bool :=
  (List.range encoder.bitsToEncode).map fun n => (byteAt encoder.data (n / 8)).getLsbD (n % 8)

variable (encoder : InfraredCommonEncoder)

theorem framePayload_eq :
    framePayload encoder = (List.range encoder.bitsToEncode).map encoder.data.getLsbD := by
  refine List.map_congr_left fun n _ => ?_
  rw [getLsbD_byteAt _ _ (by omega)]
  congr 1
  omega

theorem encoderReset_cleared (spec : InfraredCommonProtocolSpec) (encoder : InfraredCommonEncoder)
    {i : Nat} (inside : i < 64) (payload : i < 8 * payloadBytes spec.toInfraredProtocolTable) :
    (infraredCommonEncoderReset spec encoder).data[i] = false := by
  have clear (count : Nat) : i < 8 * count →
      ((List.range count).foldl (fun data index => setByte data index 0) encoder.data).getLsbD i =
        false := by
    induction count with
    | zero => omega
    | succ count ih =>
      intro below
      rw [List.range_succ, List.foldl_append, List.foldl_cons, List.foldl_nil, getLsbD_setByte _ _ inside]
      split
      · simp
      · exact ih (by omega)
  exact clear _ payload

theorem getLsbD_of_fits {field : BitVec 32} {length i : Nat} (fits : field.toNat < 2 ^ length)
    (beyond : length ≤ i) : field.getLsbD i = false :=
  Nat.testBit_lt_two_pow (Nat.lt_of_lt_of_le fits (Nat.pow_le_pow_right (by decide) beyond))

variable {message : InfraredMessage}

theorem nec_payload (toggle : Bool) (known : (InfraredFamily.nec.getProtocolVariant message.protocol).isSome) :
    (infraredEncoderNecReset encoder message).map framePayload =
      some (payloadLayout message toggle) := by
  obtain ⟨protocol, address, command, isRepeat⟩ := message
  cases protocol <;> simp only [InfraredFamily.getProtocolVariant, Option.isSome_none, Bool.false_eq_true] at known
  all_goals
    simp only [infraredEncoderNecReset, Option.map_some, framePayload_eq]
    simp [payloadLayout, fieldBits, List.range, List.range.loop]

variable (address command : BitVec 32) (isRepeat toggle : Bool)

theorem samsung32_payload :
    framePayload (infraredEncoderSamsung32Reset encoder ⟨.samsung32, address, command, isRepeat⟩) =
      payloadLayout ⟨.samsung32, address, command, isRepeat⟩ toggle := by
  have len : infraredProtocolSamsung32.maxLen = 32 := rfl
  have clear (i : Nat) (inside : i < 64) (payload : i < 32) :
      (infraredCommonEncoderReset infraredProtocolSamsung32 encoder).data[i] = false :=
    encoderReset_cleared infraredProtocolSamsung32 encoder inside payload
  rw [framePayload_eq]
  simp [infraredEncoderSamsung32Reset, payloadLayout, fieldBits, List.range, List.range.loop, len, wordAt, clear]

theorem sirc_payload (toggle : Bool) (known : (InfraredFamily.sirc.getProtocolVariant message.protocol).isSome) :
    (infraredEncoderSircReset encoder message).map framePayload =
      some (payloadLayout message toggle) := by
  obtain ⟨protocol, address, command, isRepeat⟩ := message
  cases protocol <;> simp only [InfraredFamily.getProtocolVariant, Option.isSome_none, Bool.false_eq_true] at known
  all_goals
    simp only [infraredEncoderSircReset, Option.map_some, framePayload_eq]
    simp [payloadLayout, fieldBits, List.range, List.range.loop]

theorem rca_payload : framePayload (infraredEncoderRcaReset encoder ⟨.rca, address, command, isRepeat⟩) =
      payloadLayout ⟨.rca, address, command, isRepeat⟩ toggle := by
  have len : infraredProtocolRca.maxLen = 24 := rfl
  rw [framePayload_eq]
  simp [infraredEncoderRcaReset, payloadLayout, fieldBits, List.range, List.range.loop, len]

theorem pioneer_payload :
    (infraredEncoderPioneerReset encoder ⟨.pioneer, address, command, isRepeat⟩).map framePayload =
      some (payloadLayout ⟨.pioneer, address, command, isRepeat⟩ toggle) := by
  have len : infraredProtocolPioneer.maxLen = 33 := rfl
  simp only [infraredEncoderPioneerReset, Option.map_some, framePayload_eq, len]
  simp [payloadLayout, fieldBits, List.range, List.range.loop]

theorem kaseikyo_payload (fits : command.toNat < 2 ^ 10) :
    framePayload (infraredEncoderKaseikyoReset encoder ⟨.kaseikyo, address, command, isRepeat⟩) =
      payloadLayout ⟨.kaseikyo, address, command, isRepeat⟩ toggle := by
  have len : infraredProtocolKaseikyo.maxLen = 48 := rfl
  have none (i : Nat) (inside : i < 32) (beyond : 10 ≤ i) : command[i] = false := by
    exact getLsbD_of_fits fits beyond
  rw [framePayload_eq]
  simp [infraredEncoderKaseikyoReset, payloadLayout, kaseikyoMiddle, kaseikyoVendorParity, fieldBits,
    List.range, List.range.loop, len, none]

@[simp] theorem getElem_reverse (value : BitVec 8) {i : Nat} (inside : i < 8) :
    (reverse value)[i] = value.getLsbD (7 - i) := by
  have all : ∀ value : BitVec 8, ∀ i : Fin 8,
      (reverse value).getLsbD i.val = value.getLsbD (7 - i.val) := by decide +kernel
  exact all value ⟨i, inside⟩

theorem rc5_payload (encoder : InfraredToggleEncoder) (message : InfraredMessage)
    (known : message.protocol = .rc5 ∨ message.protocol = .rc5x) :
    framePayload (infraredEncoderRc5Reset encoder message).commonEncoder =
      payloadLayout message encoder.toggleBit := by
  have len : infraredProtocolRc5.maxLen = 14 := rfl
  have clear (i : Nat) (inside : i < 64) (payload : i < 16) :
      (infraredCommonEncoderReset infraredProtocolRc5 encoder.commonEncoder).data[i] = false :=
    encoderReset_cleared infraredProtocolRc5 encoder.commonEncoder inside payload
  obtain ⟨protocol, address, command, isRepeat⟩ := message
  obtain ⟨encoder, toggleBit⟩ := encoder
  rw [framePayload_eq]
  obtain rfl | rfl := known <;> cases toggleBit
  all_goals simp [infraredEncoderRc5Reset, payloadLayout, fieldBits, List.range, List.range.loop,
    len, wordAt, clear, byteAt]

theorem rc6_payload (encoder : InfraredToggleEncoder) (address command : BitVec 32) (isRepeat : Bool) : framePayload
        (infraredEncoderRc6Reset encoder ⟨.rc6, address, command, isRepeat⟩).commonEncoder =
      payloadLayout ⟨.rc6, address, command, isRepeat⟩ encoder.toggleBit := by
  have len : infraredProtocolRc6.maxLen = 21 := rfl
  have clear (i : Nat) (inside : i < 64) (payload : i < 24) :
      (infraredCommonEncoderReset infraredProtocolRc6 encoder.commonEncoder).data[i] = false :=
    encoderReset_cleared infraredProtocolRc6 encoder.commonEncoder inside payload
  obtain ⟨encoder, toggleBit⟩ := encoder
  rw [framePayload_eq]
  cases toggleBit
  all_goals simp [infraredEncoderRc6Reset, payloadLayout, fieldBits, List.range, List.range.loop,
    len, wordAt, clear]

/-- The mask of a field: as many ones as it is long. -/
theorem toNat_mask {length : Nat} (short : length < 32) :
    ((1#32 <<< length) - 1).toNat = 2 ^ length - 1 := by
  have positive := Nat.two_pow_pos length
  have shifted : (1#32 <<< length).toNat = 2 ^ length := by
    rw [BitVec.toNat_shiftLeft, Nat.shiftLeft_eq, show (1#32).toNat = 1 from rfl, Nat.one_mul,
      Nat.mod_eq_of_lt (Nat.pow_lt_pow_right (by decide) short)]
  rw [BitVec.toNat_sub_of_le (by rw [BitVec.le_def, shifted]; exact positive), shifted]
  rfl

theorem toNat_lt_of_masked {field : BitVec 32} {length : Nat} (short : length < 32)
    (masked : field = field &&& ((1#32 <<< length) - 1)) : field.toNat < 2 ^ length := by
  have cut := congrArg BitVec.toNat masked
  rw [BitVec.toNat_and, toNat_mask short, Nat.and_two_pow_sub_one_eq_mod] at cut
  rw [cut]
  exact Nat.mod_lt _ (Nat.two_pow_pos length)

theorem fits_of_valid {variant : InfraredProtocolVariant} (valid : infraredSignalIsMessageValid message)
    (known : infraredGetVariantByProtocol message.protocol = some variant)
    (addressShort : variant.addressLength < 32) (commandShort : variant.commandLength < 32) :
    message.address.toNat < 2 ^ variant.addressLength ∧
      message.command.toNat < 2 ^ variant.commandLength := by
  simp only [infraredSignalIsMessageValid, known, decide_eq_true_eq] at valid
  exact ⟨toNat_lt_of_masked addressShort valid.1, toNat_lt_of_masked commandShort valid.2⟩

/-- The payload of the frame that `infrared_reset_encoder` prepares. -/
def encodedPayload (handler : InfraredEncoderHandler) (message : InfraredMessage) :
    Option (List Bool) :=
  (infraredResetEncoder handler message).map fun handler =>
    framePayload handler.handler.commonEncoder

def sentToggle (handler : InfraredEncoderHandler) (message : InfraredMessage) : Bool :=
  if handler.encoder = infraredFindIndexByProtocol message.protocol then handler.handler.toggleBit
  else false

theorem sentToggle_alloc (message : InfraredMessage) :
    sentToggle infraredAllocEncoder message = false := by
  rw [sentToggle]
  split <;> rfl

/-- The encoder of a family packs every message of its variants as the layout says;
Kaseikyo lets a command that is too long spill over into the address. -/
theorem encoderReset_payload (family : InfraredFamily) (encoder : InfraredToggleEncoder) (known : (family.getProtocolVariant message.protocol).isSome)
    (fits : message.protocol = .kaseikyo → message.command.toNat < 2 ^ 10) :
    (family.encoderReset encoder message).map (framePayload ·.commonEncoder) =
      some (payloadLayout message encoder.toggleBit) := by
  cases family
  case nec =>
    simpa [InfraredFamily.encoderReset, Function.comp_def]
      using nec_payload encoder.commonEncoder encoder.toggleBit known
  case sirc =>
    simpa [InfraredFamily.encoderReset, Function.comp_def]
      using sirc_payload encoder.commonEncoder encoder.toggleBit known
  all_goals
    obtain ⟨protocol, address, command, isRepeat⟩ := message
    cases protocol <;> simp only [InfraredFamily.getProtocolVariant, Option.isSome_none,
      Bool.false_eq_true] at known
  case samsung32.samsung32 => exact congrArg some (samsung32_payload _ _ _ _ _)
  case rc5.rc5 => exact congrArg some (rc5_payload encoder _ (.inl rfl))
  case rc5.rc5x => exact congrArg some (rc5_payload encoder _ (.inr rfl))
  case rc6.rc6 => exact congrArg some (rc6_payload encoder _ _ _)
  case pioneer.pioneer => exact pioneer_payload _ _ _ _ _
  case kaseikyo.kaseikyo => exact congrArg some (kaseikyo_payload _ _ _ _ _ (fits rfl))
  case rca.rca => exact congrArg some (rca_payload _ _ _ _ _)

theorem family_of_valid (valid : infraredSignalIsMessageValid message) :
    ∃ family, infraredFindIndexByProtocol message.protocol = some family ∧
      (family.getProtocolVariant message.protocol).isSome := by
  cases found : infraredFindIndexByProtocol message.protocol with
  | none => simp [infraredSignalIsMessageValid, infraredGetVariantByProtocol, found] at valid
  | some family =>
    have first := List.find?_some found
    exact ⟨family, rfl, first⟩

theorem kaseikyo_fits (valid : infraredSignalIsMessageValid message) (kaseikyo : message.protocol = .kaseikyo) :
    message.command.toNat < 2 ^ 10 := by
  obtain ⟨_, address, command, isRepeat⟩ := message
  subst kaseikyo
  exact (fits_of_valid valid rfl (by decide) (by decide)).2

/-- Every message the application accepts is packed as its layout says. -/
theorem encodedPayload_of_valid (handler : InfraredEncoderHandler) (valid : infraredSignalIsMessageValid message) :
    encodedPayload handler message =
      some (payloadLayout message (sentToggle handler message)) := by
  obtain ⟨family, found, known⟩ := family_of_valid valid
  have packed := encoderReset_payload family
    (if handler.encoder = some family then handler.handler else infraredEncoderAlloc) known
    (kaseikyo_fits valid)
  simp only [encodedPayload, infraredResetEncoder, found, Option.map_map, Function.comp_def, sentToggle, packed]
  split <;> rfl

@[simp] theorem length_fieldBits (field : BitVec 32) (count : Nat) : (fieldBits field count).length = count := by
  simp [fieldBits]

theorem fieldBits_inj {first second : BitVec 32} {count : Nat}
    (same : fieldBits first count = fieldBits second count) (firstFits : first.toNat < 2 ^ count)
    (secondFits : second.toNat < 2 ^ count) : first = second := by
  apply BitVec.eq_of_getLsbD_eq
  intro i _
  by_cases low : i < count
  · exact List.map_inj_left.mp same i (List.mem_range.mpr low)
  · rw [getLsbD_of_fits firstFits (by omega), getLsbD_of_fits secondFits (by omega)]

theorem map_not_inj {first second : List Bool} :
    first.map not = second.map not ↔ first = second :=
  List.map_inj_right fun _ _ => Bool.not_inj

theorem kaseikyo_address_inj {address address' command command' : BitVec 32}
    (vendor : ∀ i < 16, address.getLsbD (8 + i) = address'.getLsbD (8 + i))
    (middle : kaseikyoMiddle address command = kaseikyoMiddle address' command')
    (fits : address.toNat < 2 ^ 26) (fits' : address'.toNat < 2 ^ 26) :
    address = address' ∧ fieldBits command 10 = fieldBits command' 10 := by
  simp (disch := simp) only [kaseikyoMiddle, List.append_assoc, List.append_eq_append_iff_of_size_eq_left] at middle
  obtain ⟨-, genre1, genre2, command, id⟩ := middle
  refine ⟨BitVec.eq_of_getLsbD_eq fun i _ => ?_, command⟩
  by_cases inGenre2 : i < 4
  · exact List.map_inj_left.mp genre2 i (List.mem_range.mpr inGenre2)
  by_cases inGenre1 : i < 8
  · have same := List.map_inj_left.mp genre1 (i - 4) (List.mem_range.mpr (by omega))
    rwa [show 4 + (i - 4) = i by omega] at same
  by_cases inVendor : i < 24
  · have same := vendor (i - 8) (by omega)
    rwa [show 8 + (i - 8) = i by omega] at same
  by_cases inId : i < 26
  · obtain rfl | rfl : i = 24 ∨ i = 25 := by omega
    · exact (List.cons.inj id).1
    · exact (List.cons.inj (List.cons.inj id).2).1
  · rw [getLsbD_of_fits fits (by omega), getLsbD_of_fits fits' (by omega)]

theorem payloadLayout_inj {first second : InfraredMessage} {toggle toggle' : Bool}
    (firstValid : infraredSignalIsMessageValid first)
    (secondValid : infraredSignalIsMessageValid second) (variant : first.protocol = second.protocol)
    (covered : first.protocol ≠ .rc5x)
    (same : payloadLayout first toggle = payloadLayout second toggle') :
    first.address = second.address ∧ first.command = second.command := by
  obtain ⟨protocol, address, command, isRepeat⟩ := first
  obtain ⟨_, address', command', isRepeat'⟩ := second
  subst variant
  cases protocol
  case unknown => simp [infraredSignalIsMessageValid, infraredGetVariantByProtocol,
    InfraredFamily.getProtocolVariant]
    at firstValid
  case rc5x => exact absurd rfl covered
  all_goals
    have fits := fits_of_valid firstValid rfl (by decide) (by decide)
    have fits' := fits_of_valid secondValid rfl (by decide) (by decide)
    simp (disch := simp) only [payloadLayout, List.append_eq_append_iff_of_size_eq_left,
      List.map_append, List.reverse_inj] at same fits fits' ⊢
  case nec | necExt | nec42 | nec42Ext | samsung32 | rca | pioneer =>
    exact ⟨fieldBits_inj same.1 fits.1 fits'.1, fieldBits_inj (by tauto) fits.2 fits'.2⟩
  case sirc | sirc15 | sirc20 =>
    exact ⟨fieldBits_inj same.2 fits.1 fits'.1, fieldBits_inj same.1 fits.2 fits'.2⟩
  case rc5 =>
    simp only [map_not_inj, List.reverse_inj] at same
    exact ⟨fieldBits_inj same.2.1 fits.1 fits'.1, fieldBits_inj same.2.2 fits.2 fits'.2⟩
  case rc6 =>
    exact ⟨fieldBits_inj same.2.1 fits.1 fits'.1, fieldBits_inj same.2.2 fits.2 fits'.2⟩
  case kaseikyo =>
    have vendor (i : Nat) (low : i < 16) := List.map_inj_left.mp same.1 i (List.mem_range.mpr low)
    have middle := List.append_inj_left same.2 (by simp [kaseikyoMiddle])
    have told := kaseikyo_address_inj vendor middle fits.1 fits'.1
    exact ⟨told.1, fieldBits_inj told.2 fits.2 fits'.2⟩

theorem fieldBits_eq_iff (first second : BitVec 32) :
    fieldBits first 6 = fieldBits second 6 ↔ first &&& 0x3F = second &&& 0x3F := by
  have mask : ∀ i < 32, (0x3F : BitVec 32).getLsbD i = decide (i < 6) := by decide
  constructor
  · intro same
    refine BitVec.eq_of_getLsbD_eq fun i inside => ?_
    rw [BitVec.getLsbD_and, BitVec.getLsbD_and, mask i inside]
    by_cases low : i < 6
    · rw [List.map_inj_left.mp same i (List.mem_range.mpr low)]
    · simp [low]
  · intro same
    refine List.map_congr_left fun i low => ?_
    have bit := congrArg (fun field => BitVec.getLsbD field i) same
    have low : i < 6 := List.mem_range.mp low
    simpa only [BitVec.getLsbD_and, mask i (by omega), low, decide_true, Bool.and_true] using bit

theorem rc5x_payloadLayout_eq_iff {first second : InfraredMessage} {toggle toggle' : Bool}
    (firstValid : infraredSignalIsMessageValid first)
    (secondValid : infraredSignalIsMessageValid second) (variant : first.protocol = .rc5x)
    (variant' : second.protocol = .rc5x) :
    payloadLayout first toggle = payloadLayout second toggle' ↔ toggle = toggle' ∧ first.address = second.address ∧
        first.command &&& 0x3F = second.command &&& 0x3F := by
  obtain ⟨_, address, command, isRepeat⟩ := first
  obtain ⟨_, address', command', isRepeat'⟩ := second
  subst variant variant'
  have fits := fits_of_valid firstValid rfl (by decide) (by decide)
  have fits' := fits_of_valid secondValid rfl (by decide) (by decide)
  have addresses : fieldBits address 5 = fieldBits address' 5 ↔ address = address' :=
    ⟨fun same => fieldBits_inj same fits.1 fits'.1, fun same => congrArg (fieldBits · 5) same⟩
  simp (disch := simp) only [payloadLayout, List.append_eq_append_iff_of_size_eq_left,
    map_not_inj, List.reverse_inj, addresses, fieldBits_eq_iff, List.cons.injEq,
    true_and, and_true]

/-- Two accepted messages of one variant that differ are never sent with the same
payload, whatever the encoders sent before, except for those RC5X messages
whose commands differ in their seventh bit only. -/
theorem accepted_messages_have_their_own_payload (first second : InfraredMessage)
    (firstValid : infraredSignalIsMessageValid first)
    (secondValid : infraredSignalIsMessageValid second) (variant : first.protocol = second.protocol)
    (differ : first.address ≠ second.address ∨ first.command ≠ second.command) :
    (∀ handler handler', encodedPayload handler first ≠ encodedPayload handler' second) ↔
      ¬ (first.protocol = .rc5x ∧ first.address = second.address ∧
        first.command &&& 0x3F = second.command &&& 0x3F) := by
  simp only [encodedPayload_of_valid _ firstValid, encodedPayload_of_valid _ secondValid, ne_eq, Option.some.injEq]
  constructor
  · rintro distinct ⟨rc5x, alike⟩
    apply distinct infraredAllocEncoder infraredAllocEncoder
    rw [rc5x_payloadLayout_eq_iff firstValid secondValid rc5x (variant ▸ rc5x)]
    exact ⟨by rw [sentToggle_alloc, sentToggle_alloc], alike⟩
  · rintro covered handler handler' same
    by_cases rc5x : first.protocol = .rc5x
    · rw [rc5x_payloadLayout_eq_iff firstValid secondValid rc5x (variant ▸ rc5x)] at same
      exact covered ⟨rc5x, same.2⟩
    · have equal := payloadLayout_inj firstValid secondValid variant rc5x same
      exact differ.elim (fun address => address equal.1) (fun command => command equal.2)

theorem accepted_messages_have_their_own_payload_nec :
    encodedPayload infraredAllocEncoder ⟨.nec, 0x12, 0x34, false⟩ ≠
      encodedPayload infraredAllocEncoder ⟨.nec, 0x12, 0x35, false⟩ :=
  (accepted_messages_have_their_own_payload ⟨.nec, 0x12, 0x34, false⟩ ⟨.nec, 0x12, 0x35, false⟩
    (by decide) (by decide) rfl (by decide)).mpr (by decide) infraredAllocEncoder infraredAllocEncoder

/-- RC5X accepts the commands 0x00 and 0x40 and sends both as 0x00. -/
theorem rc5x_drops_the_seventh_command_bit : infraredSignalIsMessageValid ⟨.rc5x, 0, 0x00, false⟩ = true ∧
      infraredSignalIsMessageValid ⟨.rc5x, 0, 0x40, false⟩ = true ∧
      encodedPayload infraredAllocEncoder ⟨.rc5x, 0, 0x00, false⟩ =
        encodedPayload infraredAllocEncoder ⟨.rc5x, 0, 0x40, false⟩ := by
  decide +kernel

end Xtreme.Infrared
