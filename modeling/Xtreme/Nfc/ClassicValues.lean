import Xtreme.Nfc.ClassicWrites

/-! The value commands of a MIFARE Classic card (`mf_classic_listener.c`). The value of a
block is read, an operand is added to it or taken away, and a transfer writes the sum to a
block. The sums are made in `int32_t`, and nothing looks at its bounds. -/
namespace Xtreme.Nfc
open Xtreme.Library BitLib Toolbox

/-- Whether an operation of `mf_classic_listener_value_data_receive_handler` overflows: the
negation of a negative operand, the one for a decrement, or the sum. -/
def valueOverflows (valueCmd : MfClassicValueCommand) (value data : BitVec 32) : Bool :=
  let absolute := if data.toInt < 0 then -data else data
  (decide (data.toInt < 0) && data.negOverflow) || (decide (valueCmd = .decrement) && absolute.negOverflow) ||
    value.saddOverflow (valueDelta valueCmd data)

/-- What a block is to hold after a command and a transfer. -/
def valueAfter (valueCmd : MfClassicValueCommand) (value operand : BitVec 32) : Int :=
  match valueCmd with
  | .decrement => value.toInt - operand.toInt.natAbs
  | .restore => value.toInt
  | _ => value.toInt + operand.toInt.natAbs

def ValueFits (valueCmd : MfClassicValueCommand) (value operand : BitVec 32) : Prop :=
  operand ≠ BitVec.intMin 32 ∧ -2 ^ 31 ≤ valueAfter valueCmd value operand ∧ valueAfter valueCmd value operand < 2 ^ 31

theorem toInt_absolute {operand : BitVec 32} (negatable : operand ≠ BitVec.intMin 32) :
    (if operand.toInt < 0 then -operand else operand).toInt = operand.toInt.natAbs := by
  split
  · rw [BitVec.toInt_neg_of_ne_intMin negatable]
    omega
  · omega

theorem absolute_negatable {operand : BitVec 32} (negatable : operand ≠ BitVec.intMin 32) :
    (if operand.toInt < 0 then -operand else operand) ≠ BitVec.intMin 32 := by
  intro same
  have least : (BitVec.intMin 32).toInt = -2 ^ 31 := by decide
  have absolute := toInt_absolute negatable
  rw [same] at absolute
  omega

/-- What an operand other than the least one adds. -/
theorem toInt_valueDelta (valueCmd : MfClassicValueCommand) (value : BitVec 32) {operand : BitVec 32}
    (negatable : operand ≠ BitVec.intMin 32) :
    value.toInt + (valueDelta valueCmd operand).toInt = valueAfter valueCmd value operand := by
  have absolute := toInt_absolute negatable
  cases valueCmd with
  | decrement =>
    show value.toInt + (-(if operand.toInt < 0 then -operand else operand)).toInt = value.toInt - operand.toInt.natAbs
    rw [BitVec.toInt_neg_of_ne_intMin (absolute_negatable negatable), absolute, Int.sub_eq_add_neg]
  | restore => exact Int.add_zero _
  | increment => exact congrArg (value.toInt + ·) absolute
  | invalid => exact congrArg (value.toInt + ·) absolute

theorem negOverflow_iff (word : BitVec 32) : word.negOverflow = true ↔ word = BitVec.intMin 32 := by
  rw [BitVec.negOverflow_eq]
  simp

theorem valueOverflows_iff (valueCmd : MfClassicValueCommand) (value operand : BitVec 32) :
    valueOverflows valueCmd value operand = false ↔ ValueFits valueCmd value operand := by
  by_cases least : operand = BitVec.intMin 32
  · have overflows : valueOverflows valueCmd value operand = true := by
      rw [least]
      rfl
    rw [overflows]
    exact ⟨fun same => absurd same.symm Bool.false_ne_true, fun fits => absurd least fits.1⟩
  · have first : operand.negOverflow = false := by
      rw [← Bool.not_eq_true, negOverflow_iff]
      exact least
    have negated : (if operand.toInt < 0 then -operand else operand).negOverflow = false := by
      rw [← Bool.not_eq_true, negOverflow_iff]
      exact absolute_negatable least
    simp only [valueOverflows, negated, first, Bool.and_false, Bool.false_or, BitVec.saddOverflow,
      toInt_valueDelta valueCmd value least, Bool.or_eq_false_iff, decide_eq_false_iff_not]
    constructor
    · rintro ⟨below, above⟩
      exact ⟨least, by omega, by omega⟩
    · rintro ⟨-, above, below⟩
      exact ⟨by omega, by omega⟩

theorem toInt_valueSum {valueCmd : MfClassicValueCommand} {value operand : BitVec 32}
    (fits : ValueFits valueCmd value operand) :
    (value + valueDelta valueCmd operand).toInt = valueAfter valueCmd value operand := by
  obtain ⟨negatable, above, below⟩ := fits
  have sum := toInt_valueDelta valueCmd value negatable
  rw [BitVec.toInt_add, sum]
  exact Int.bmod_eq_of_le (by omega) (by omega)

theorem word_of_bytes (word : BitVec 32) :
    word.extractLsb' 24 8 ++ word.extractLsb' 16 8 ++ word.extractLsb' 8 8 ++ word.extractLsb' 0 8 = word := by
  apply BitVec.eq_of_getLsbD_eq
  intro place inside
  simp only [BitVec.getLsbD_append]
  by_cases first : place < 8
  · simp [first]
  by_cases second : place < 16
  · simp [first, show place - 8 < 8 by omega, show 8 + (place - 8) = place by omega]
  by_cases third : place < 24
  · simp [first, show ¬ place - 8 < 8 by omega, show place - 8 - 8 < 8 by omega,
      show 16 + (place - 8 - 8) = place by omega]
  · simp [first, show ¬ place - 8 < 8 by omega, show ¬ place - 8 - 8 < 8 by omega,
      show place - 8 - 8 - 8 < 8 by omega, show 24 + (place - 8 - 8 - 8) = place by omega]

theorem blockToValue_valueToBlock (value : BitVec 32) (addr : BitVec 8) :
    mfClassicBlockToValue (mfClassicValueToBlock value addr) = (true, value) := by
  have words : blockWord (mfClassicValueToBlock value addr) 0 = value ∧
      blockWord (mfClassicValueToBlock value addr) 4 = ~~~value ∧
      blockWord (mfClassicValueToBlock value addr) 8 = value := by
    refine ⟨?_, ?_, ?_⟩ <;> simp [blockWord, byteAt, mfClassicValueToBlock, word_of_bytes]
  obtain ⟨first, inverted, last⟩ := words
  simp only [mfClassicBlockToValue, first, inverted, last]
  simp [byteAt, mfClassicValueToBlock]

/-- The operand of a frame, its first byte last. -/
abbrev operandOf (buff : BitBuffer) : BitVec 32 := buff.byte 3 ++ buff.byte 2 ++ buff.byte 1 ++ buff.byte 0

/-- Three frames that the listener takes one after the other: a command for a block that holds
the value, with ACK, the operand, without an answer, and a transfer to the target, with ACK. -/
structure ValueExchange (valueCmd : MfClassicValueCommand) (value operand : BitVec 32) (target : BitVec 8)
    (before after : MfClassicListener) where
  first : Bytes 4 × ClassicListenerEvent
  second : Bytes 4 × ClassicListenerEvent
  third : Bytes 4 × ClassicListenerEvent
  command : BitBuffer
  data : BitBuffer
  transfer : BitBuffer
  begun : MfClassicListener
  summed : MfClassicListener
  idle : before.cmdInProgress = false
  brings : first.2.buffer? = some command ∧ second.2.buffer? = some data ∧ third.2.buffer? = some transfer
  short : (before.plainFrame command).sizeBits = 16
  named : ∃ action, valueAction ((before.plainFrame command).byte 0) = some (valueCmd, action)
  stored : mfClassicBlockToValue (before.data.blockAt ((before.plainFrame command).byte 1).toNat) = (true, value)
  accepted : mfClassicListenerRun first.1 first.2 before = (.ok .continue, begun)
  operand : operandOf (begun.plainFrame data) = operand
  taken : mfClassicListenerRun second.1 second.2 begun = (.ok .reset, summed)
  target : (summed.plainFrame transfer).byte 1 = target
  transferred : mfClassicListenerRun third.1 third.2 summed = (.ok .continue, after)

section
variable {nt : Bytes 4} {buffer buff : BitBuffer} {instanc after : MfClassicListener} {event : ClassicListenerEvent}
  {place : Nat × Nat} {handler : MfClassicListenerCommandHandler} {answer : NfcCommand}

theorem handled_of_ran (frame : event.buffer? = some buffer)
    (there : instanc.addressed (instanc.plainFrame buffer) = some place)
    (found : handlerAt place.1 place.2 = some handler)
    (ran : mfClassicListenerRun nt event instanc = (.ok answer, after)) :
    ∃ command last, handler.run nt (instanc.plainFrame buffer) ((instanc.cleared.received buffer).at_ place) =
      (.ok command, last) ∧ answer = command.next ∧ after = last.answered command := by
  have framed : mfClassicListenerRun nt event instanc = mfClassicListenerFrame nt buffer instanc.cleared := by
    cases event <;> cases frame <;> rfl
  rw [framed] at ran
  by_cases long : instanc.Overlong buffer
  · have failed : mfClassicListenerReceive buffer instanc.cleared = (.error .rxPlainBuffer, instanc.cleared) :=
      mfClassicListenerReceive_overlong long
    rw [mfClassicListenerFrame, Effect.bind_run, failed] at ran
    cases ran
  · have ends : ∃ command last, handler.run nt (instanc.plainFrame buffer) ((instanc.cleared.received buffer).at_ place) =
        (.ok command, last) ∧ HandlerChange nt _ _ _ _ _ := handler_change handler
    obtain ⟨command, last, handled, -⟩ := ends
    rw [mfClassicListenerFrame_handled long there found handled] at ran
    cases ran
    exact ⟨command, last, handled, rfl, rfl⟩

theorem valueCmd_acked {valueCmd : MfClassicValueCommand} {action : MfClassicAction}
    {command : MfClassicListenerCommand} (named : valueAction (buff.byte 0) = some (valueCmd, action))
    (holdsValue : (mfClassicBlockToValue (instanc.data.blockAt (buff.byte 1).toNat)).1 = true)
    (ran : mfClassicListenerValueCmdHandler buff instanc = (.ok command, after)) (goesOn : command.next = .continue) :
    command = .ack ∧ after =
      { instanc with
        valueCmd := valueCmd
        transferValue := (mfClassicBlockToValue (instanc.data.blockAt (buff.byte 1).toNat)).2
        transferValid := true
        cmdInProgress := true
        currentCmdHandlerIdx := instanc.currentCmdHandlerIdx + 1 } := by
  by_cases accepted : instanc.state = .authComplete ∧ (buff.byte 1).toNat < instanc.totalBlockNum ∧
      instanc.InAuthSector (buff.byte 1).toNat ∧ instanc.allows (buff.byte 1).toNat action = true
  · obtain ⟨authenticated, known, inside, allowed⟩ := accepted
    rw [valueCmd_run authenticated known inside named allowed holdsValue] at ran
    cases ran
    exact ⟨rfl, rfl⟩
  · have refused : (mfClassicListenerValueCmdHandler buff instanc).1 = .ok .nack := by
      unfold mfClassicListenerValueCmdHandler
      simp only [Effect.observe_bind, named]
      split
      · rfl
      split
      · rfl
      split
      · rfl
      split
      · rfl
      rename_i authenticated known inside allowed
      exact absurd ⟨not_not.mp authenticated, Nat.lt_of_not_le known, not_not.mp inside,
        by simpa [MfClassicListener.allows] using allowed⟩ accepted
    rw [ran] at refused
    cases refused
    cases goesOn

theorem valueDataReceive_silent {command : MfClassicListenerCommand}
    (ran : mfClassicListenerValueDataReceiveHandler buff instanc = (.ok command, after)) (goesOn : command.next = .reset) :
    command = .silent ∧ after =
      { instanc with
        transferValue := instanc.transferValue + valueDelta instanc.valueCmd (operandOf buff)
        transferValid := true
        cmdInProgress := true
        currentCmdHandlerIdx := instanc.currentCmdHandlerIdx + 1 } := by
  by_cases whole : buff.sizeBytes = 4
  · rw [valueDataReceive_run whole] at ran
    cases ran
    exact ⟨rfl, rfl⟩
  · simp only [mfClassicListenerValueDataReceiveHandler, whole, ne_eq] at ran
    cases ran
    cases goesOn

theorem valueTransfer_acked {command : MfClassicListenerCommand}
    (ran : mfClassicListenerValueTransferHandler buff instanc = (.ok command, after)) (goesOn : command.next = .continue) :
    command = .ack ∧ after =
      { instanc with
        data := instanc.withBlock (buff.byte 1).toNat (mfClassicValueToBlock instanc.transferValue (buff.byte 1))
        transferValue := 0#32
        transferValid := false
        cmdInProgress := false } := by
  by_cases accepted : buff.sizeBytes = 2 ∧ buff.byte 0 = 0xB0#8 ∧ instanc.allows (buff.byte 1).toNat .dataDec = true
  · obtain ⟨whole, transfers, allowed⟩ := accepted
    rw [valueTransfer_run whole transfers allowed] at ran
    cases ran
    exact ⟨rfl, rfl⟩
  · have refused : (mfClassicListenerValueTransferHandler buff instanc).1 = .ok .nack := by
      unfold mfClassicListenerValueTransferHandler
      rw [Effect.update_bind]
      split
      · rfl
      split
      · rfl
      simp only [Effect.observe_bind]
      split
      · rfl
      rename_i whole transfers allowed
      exact absurd ⟨not_not.mp whole, not_not.mp transfers, by simpa [MfClassicListener.allows] using allowed⟩ accepted
    rw [ran] at refused
    cases refused
    cases goesOn

theorem addressed_value {valueCmd : MfClassicValueCommand} {action : MfClassicAction}
    (idle : instanc.cmdInProgress = false) (short : buff.sizeBits = 16)
    (named : valueAction (buff.byte 0) = some (valueCmd, action)) :
    ∃ i, instanc.addressed buff = some (i, 0) ∧
      (∃ handler, handlerAt i 0 = some handler ∧ ∀ nt, handler.run nt buff = mfClassicListenerValueCmdHandler buff) ∧
      handlerAt i 1 = some .valueDataReceive ∧ handlerAt i 2 = some .valueTransfer := by
  have begins (i : Nat) (handler : MfClassicListenerCommandHandler)
      (found : mfClassicListenerCmdHandlers.findIdx? (·.fits buff) = some i) (first : handlerAt i 0 = some handler)
      (runs : ∀ nt, handler.run nt buff = mfClassicListenerValueCmdHandler buff)
      (later : handlerAt i 1 = some .valueDataReceive ∧ handlerAt i 2 = some .valueTransfer) :
      ∃ i, instanc.addressed buff = some (i, 0) ∧
        (∃ handler, handlerAt i 0 = some handler ∧ ∀ nt, handler.run nt buff = mfClassicListenerValueCmdHandler buff) ∧
        handlerAt i 1 = some .valueDataReceive ∧ handlerAt i 2 = some .valueTransfer := by
    refine ⟨i, ?_, ⟨handler, first, runs⟩, later⟩
    rw [MfClassicListener.addressed, idle, found]
    rfl
  unfold valueAction at named
  split at named
  · rename_i byte
    exact begins 6 .valueDec (by simp only [MfClassicListenerCmd.fits, short, byte]; rfl) rfl
      (fun _ => rfl) ⟨rfl, rfl⟩
  split at named
  · rename_i byte
    exact begins 7 .valueInc (by simp only [MfClassicListenerCmd.fits, short, byte]; rfl) rfl
      (fun _ => rfl) ⟨rfl, rfl⟩
  split at named
  · rename_i byte
    exact begins 8 .valueRestore (by simp only [MfClassicListenerCmd.fits, short, byte]; rfl) rfl
      (fun _ => rfl) ⟨rfl, rfl⟩
  · cases named

end

theorem exchange_sum {valueCmd : MfClassicValueCommand} {value exchanged : BitVec 32} {reached : BitVec 8}
    {before after : MfClassicListener} (exchange : ValueExchange valueCmd value exchanged reached before after) :
    after.data.blockAt reached.toNat = mfClassicValueToBlock (value + valueDelta valueCmd exchanged) reached := by
  obtain ⟨first, second, third, command, data, transfer, begun, summed, idle, ⟨brings, brings', brings''⟩, short, named,
    stored, accepted, operand, taken, target, transferred⟩ := exchange
  obtain ⟨action, named⟩ := named
  obtain ⟨i, there, ⟨handler, found, runs⟩, foundData, foundTransfer⟩ := addressed_value idle short named
  have begins : begun.cmdInProgress = true ∧ begun.currentCmdIdx = i ∧ begun.currentCmdHandlerIdx = 1 ∧
      begun.transferValue = value ∧ begun.valueCmd = valueCmd := by
    obtain ⟨answer, last, handled, goesOn, rfl⟩ := handled_of_ran brings there found accepted
    have shown : mfClassicBlockToValue ((handlerStart before command (i, 0)).data.blockAt
        ((before.plainFrame command).byte 1).toNat) = (true, value) := by
      rw [handlerStart_eq, stored]
    rw [runs] at handled
    obtain ⟨rfl, rfl⟩ := valueCmd_acked named (congrArg Prod.fst shown) handled goesOn.symm
    exact ⟨rfl, rfl, rfl, congrArg Prod.snd shown, rfl⟩
  obtain ⟨busy, index, next, begunValue, begunCmd⟩ := begins
  have thereData : begun.addressed (begun.plainFrame data) = some (i, 1) := by
    rw [MfClassicListener.addressed, if_pos busy, index, next]
  have sums : summed.cmdInProgress = true ∧ summed.currentCmdIdx = i ∧ summed.currentCmdHandlerIdx = 2 ∧
      summed.transferValue = value + valueDelta valueCmd exchanged := by
    obtain ⟨answer, last, handled, goesOn, rfl⟩ := handled_of_ran brings' thereData foundData taken
    obtain ⟨rfl, rfl⟩ := valueDataReceive_silent handled goesOn.symm
    have started := handlerStart_eq begun data (i, 1)
    refine ⟨rfl, rfl, rfl, ?_⟩
    show (handlerStart begun data (i, 1)).transferValue + valueDelta (handlerStart begun data (i, 1)).valueCmd _ = _
    rw [operand, started]
    rw [begunValue, begunCmd]
  obtain ⟨busy', index', next', sum⟩ := sums
  have thereTransfer : summed.addressed (summed.plainFrame transfer) = some (i, 2) := by
    rw [MfClassicListener.addressed, if_pos busy', index', next']
  obtain ⟨answer, last, handled, goesOn, rfl⟩ := handled_of_ran brings'' thereTransfer foundTransfer transferred
  obtain ⟨rfl, rfl⟩ := valueTransfer_acked handled goesOn.symm
  have kept : (handlerStart summed transfer (i, 2)).transferValue = value + valueDelta valueCmd exchanged := by
    rw [handlerStart_eq]
    exact sum
  show ((handlerStart summed transfer (i, 2)).withBlock _ _).blockAt reached.toNat = _
  rw [target, withBlock_same reached.isLt]
  exact congrArg (mfClassicValueToBlock · reached) kept

/-- No operation overflows, and after every exchange the target holds the value that is to be held. -/
def ValueKept (valueCmd : MfClassicValueCommand) (value operand : BitVec 32) : Prop :=
  valueOverflows valueCmd value operand = false ∧
    ∀ (target : BitVec 8) (before after : MfClassicListener), ValueExchange valueCmd value operand target before after →
      ∃ held, mfClassicBlockToValue (after.data.blockAt target.toNat) = (true, held) ∧
        held.toInt = valueAfter valueCmd value operand

/-- The value is kept exactly if the operand is not the least one and the value fits. -/
theorem value_kept_iff (valueCmd : MfClassicValueCommand) (value operand : BitVec 32) :
    ValueKept valueCmd value operand ↔ ValueFits valueCmd value operand := by
  constructor
  · rintro ⟨sound, -⟩
    exact (valueOverflows_iff ..).mp sound
  · intro fits
    refine ⟨(valueOverflows_iff ..).mpr fits, fun target before after exchange => ?_⟩
    rw [exchange_sum exchange]
    exact ⟨_, blockToValue_valueToBlock .., toInt_valueSum fits⟩

/-- One more than the greatest value, and the least operand. -/
theorem value_overflows : ¬ ValueKept .increment 0x7FFFFFFF#32 1#32 ∧ ¬ ValueKept .restore 0#32 0x80000000#32 := by
  have sum : valueOverflows .increment 0x7FFFFFFF#32 1#32 = true := by decide
  have negation : valueOverflows .restore 0#32 0x80000000#32 = true := by decide
  exact ⟨fun kept => absurd (kept.1.symm.trans sum) Bool.false_ne_true,
    fun kept => absurd (kept.1.symm.trans negation) Bool.false_ne_true⟩

end Xtreme.Nfc
