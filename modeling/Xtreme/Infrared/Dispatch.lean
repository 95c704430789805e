import Xtreme.Infrared.PulseProtocols
import Xtreme.Infrared.ManchesterProtocols

/-! The table of protocol families and the handlers over it (`infrared.c`): a
message is encoded by the family that knows its protocol, and every family has
its own decoder. -/
namespace Xtreme.Infrared

structure InfraredProtocolVariant where
  addressLength : Nat
  commandLength : Nat
  deriving DecidableEq, Repr

/-- The rows of `infrared_encoder_decoder`. -/
inductive InfraredFamily where
  | nec
  | samsung32
  | rc5
  | rc6
  | sirc
  | pioneer
  | kaseikyo
  | rca
  deriving DecidableEq, Repr

/-- The rows in the order of the table. -/
def infraredEncoderDecoder : List InfraredFamily :=
  [.nec, .samsung32, .rc5, .rc6, .sirc, .pioneer, .kaseikyo, .rca]

namespace InfraredFamily

def spec : InfraredFamily → InfraredCommonProtocolSpec
  | nec => infraredProtocolNec
  | samsung32 => infraredProtocolSamsung32
  | rc5 => infraredProtocolRc5
  | rc6 => infraredProtocolRc6
  | sirc => infraredProtocolSirc
  | pioneer => infraredProtocolPioneer
  | kaseikyo => infraredProtocolKaseikyo
  | rca => infraredProtocolRca

def getProtocolVariant : InfraredFamily → InfraredProtocol → Option InfraredProtocolVariant
  | nec, .nec => some ⟨8, 8⟩
  | nec, .necExt => some ⟨16, 16⟩
  | nec, .nec42 => some ⟨13, 8⟩
  | nec, .nec42Ext => some ⟨26, 16⟩
  | samsung32, .samsung32 => some ⟨8, 8⟩
  | rc5, .rc5 => some ⟨5, 6⟩
  | rc5, .rc5x => some ⟨5, 7⟩
  | rc6, .rc6 => some ⟨8, 8⟩
  | sirc, .sirc => some ⟨5, 7⟩
  | sirc, .sirc15 => some ⟨8, 7⟩
  | sirc, .sirc20 => some ⟨13, 7⟩
  | pioneer, .pioneer => some ⟨8, 8⟩
  | kaseikyo, .kaseikyo => some ⟨26, 10⟩
  | rca, .rca => some ⟨4, 8⟩
  | _, _ => none

/-- The `..._reset` functions of the encoders. The toggle bit belongs to the
wrappers of RC5 and RC6; the other families have none and leave it alone. -/
def encoderReset (encoder : InfraredToggleEncoder) (message : InfraredMessage) :
    InfraredFamily → Option InfraredToggleEncoder
  | nec => (infraredEncoderNecReset encoder.commonEncoder message).map
      ({ encoder with commonEncoder := · })
  | samsung32 => some { encoder with
      commonEncoder := infraredEncoderSamsung32Reset encoder.commonEncoder message }
  | rc5 => some (infraredEncoderRc5Reset encoder message)
  | rc6 => some (infraredEncoderRc6Reset encoder message)
  | sirc => (infraredEncoderSircReset encoder.commonEncoder message).map
      ({ encoder with commonEncoder := · })
  | pioneer => (infraredEncoderPioneerReset encoder.commonEncoder message).map
      ({ encoder with commonEncoder := · })
  | kaseikyo => some { encoder with
      commonEncoder := infraredEncoderKaseikyoReset encoder.commonEncoder message }
  | rca => some { encoder with
      commonEncoder := infraredEncoderRcaReset encoder.commonEncoder message }

def encode : InfraredFamily → InfraredCommonEncoder → Encoded InfraredCommonEncoder
  | sirc => infraredEncoderSircEncode
  | pioneer => infraredEncoderPioneerEncode
  | family => infraredCommonEncode family.spec

end InfraredFamily

/-- `infrared_find_index_by_protocol`. -/
def infraredFindIndexByProtocol (protocol : InfraredProtocol) : Option InfraredFamily :=
  infraredEncoderDecoder.find? fun family => (family.getProtocolVariant protocol).isSome

/-- `infrared_get_variant_by_protocol`. -/
def infraredGetVariantByProtocol (protocol : InfraredProtocol) : Option InfraredProtocolVariant :=
  (infraredFindIndexByProtocol protocol).bind fun family => family.getProtocolVariant protocol

/-- `infrared_signal_is_message_valid`: the messages the application takes from a
file. The masks are `(1UL << length) - 1`. -/
def infraredSignalIsMessageValid (message : InfraredMessage) : Bool :=
  match infraredGetVariantByProtocol message.protocol with
  | none => false
  | some variant =>
    let addressMask := (1#32 <<< variant.addressLength) - 1
    let commandMask := (1#32 <<< variant.commandLength) - 1
    message.address = message.address &&& addressMask ∧ message.command = message.command &&& commandMask

structure InfraredEncoderHandler where
  encoder : Option InfraredFamily
  handler : InfraredToggleEncoder
  deriving DecidableEq, Repr

def infraredEncoderAlloc : InfraredToggleEncoder := ⟨⟨.silence, false, 0, 0, 0, 0, 0⟩, false⟩

def infraredAllocEncoder : InfraredEncoderHandler := ⟨none, infraredEncoderAlloc⟩

/-- `infrared_reset_encoder`: another family gets an encoder of its own. `none`
is a `furi_check` or `furi_crash`. -/
def infraredResetEncoder (handler : InfraredEncoderHandler) (message : InfraredMessage) :
    Option InfraredEncoderHandler :=
  match infraredFindIndexByProtocol message.protocol with
  | none => none
  | some family =>
    let encoder := if handler.encoder = some family then handler.handler else infraredEncoderAlloc
    (family.encoderReset encoder message).map fun encoder => ⟨some family, encoder⟩

/-- `infrared_encode`, for a handler that was reset. -/
def infraredEncode (handler : InfraredEncoderHandler) : Option (Encoded InfraredEncoderHandler) :=
  handler.encoder.map fun family =>
    let out := family.encode handler.handler.commonEncoder
    ⟨out.status, out.duration, out.level,
      { handler with handler := { handler.handler with commonEncoder := out.encoder } }⟩

end Xtreme.Infrared
