import Mathlib.Tactic.TypeStar
import Mathlib.Data.Nat.Notation

/-! The 1-Wire host (`one_wire_host.c`) and the devices it talks to. Every exchange
is a slot: the host pulls the line low or lets it go, each device may hold it low,
and all of them see the wired AND. Pulse lengths are left out; a read slot is a
write slot of a one in which the host also looks at the line. -/
namespace Xtreme.OneWire

/-- The eight bytes of a ROM code, the family byte first. -/
abbrev Rom := Vector (BitVec 8) 8

theorem Rom.first_inside : 0 < 8 := by decide

/-- The bits of a code in the order of the wire, least significant first. -/
def romBit (rom : Rom) (place : Nat) : Bool :=
  (rom[place / 8]?.getD 0#8).getLsbD (place % 8)

/-- How far a device is in the exchange that a reset pulse opens. -/
inductive DeviceStage
  | command (heard : List Bool)
  | bit (place : Nat)
  | complement (place : Nat)
  | direction (place : Nat)
  | selected
  | dropped
  deriving DecidableEq, Repr

structure Device where
  rom : Rom
  stage : DeviceStage
  deriving DecidableEq

def byteBits (value : BitVec 8) : List Bool :=
  (List.range 8).map value.getLsbD

def commandSearch : BitVec 8 := 0xF0#8
def commandConditionalSearch : BitVec 8 := 0xEC#8

namespace DeviceStage

/-- A device that still takes part before the given bit of its code. -/
def awaiting (place : Nat) : DeviceStage :=
  if place < 64 then .bit place else .selected

end DeviceStage

namespace Device

/-- What a device puts on the line: it holds the line low or leaves it high. -/
def answer (device : Device) : Bool :=
  match device.stage with
  | .bit place => romBit device.rom place
  | .complement place => !romBit device.rom place
  | _ => true

/-- A device after a slot with the given level of the line. -/
def hear (line : Bool) (device : Device) : Device :=
  { device with
    stage :=
      match device.stage with
      | .command heard =>
        let heard := heard ++ [line]
        if heard.length < 8 then .command heard
        else if heard = byteBits commandSearch ∨ heard = byteBits commandConditionalSearch then
          .awaiting 0
        else .dropped
      | .bit place => .complement place
      | .complement place => .direction place
      | .direction place => if line = romBit device.rom place then .awaiting (place + 1) else .dropped
      | .selected => .selected
      | .dropped => .dropped }

def listen (device : Device) : Device := { device with stage := .command [] }

end Device

abbrev Bus := List Device

namespace Bus

/-- The codes on a bus. -/
def roms (bus : Bus) : List Rom := bus.map Device.rom

/-- The line in a slot, and the devices after it. -/
def slot (bus : Bus) (value : Bool) : Bool × Bus :=
  let line := value && bus.all Device.answer
  (line, bus.map (Device.hear line))

end Bus

structure OneWireHost where
  savedRom : Rom
  lastDiscrepancy : Nat
  lastFamilyDiscrepancy : Nat
  lastDeviceFlag : Bool
  deriving DecidableEq

inductive OneWireHostSearchMode
  | conditional
  | normal
  deriving DecidableEq, Repr

def OneWireHostSearchMode.command : OneWireHostSearchMode → BitVec 8
  | .conditional => commandConditionalSearch
  | .normal => commandSearch

/-- The reset pulse, which every device on the bus answers with its presence. -/
def onewireHostReset (bus : Bus) : Bool × Bus :=
  (!bus.isEmpty, bus.map Device.listen)

def onewireHostReadBit (bus : Bus) : Bool × Bus := bus.slot true

def onewireHostWriteBit (bus : Bus) (value : Bool) : Bus := (bus.slot value).2

def onewireHostWrite (bus : Bus) (value : BitVec 8) : Bus :=
  (byteBits value).foldl onewireHostWriteBit bus

def onewireHostResetSearch (host : OneWireHost) : OneWireHost :=
  { host with
    lastDiscrepancy := 0
    lastDeviceFlag := false
    lastFamilyDiscrepancy := 0
    savedRom := Vector.replicate 8 0#8 }

/-- The counters as a search that found nothing leaves them. -/
def resetCounters (host : OneWireHost) : OneWireHost :=
  { host with lastDiscrepancy := 0, lastDeviceFlag := false, lastFamilyDiscrepancy := 0 }

/-- The variables of `onewireHostSearch` inside its loop. -/
structure Search where
  host : OneWireHost
  bus : Bus
  idBitNumber : Nat
  lastZero : Nat
  romByteNumber : Nat
  romByteMask : BitVec 8

namespace Search

def savedByte (search : Search) : BitVec 8 :=
  search.host.savedRom[search.romByteNumber]?.getD 0#8

def searchDirection (search : Search) (idBit cmpIdBit : Bool) : Bool :=
  if idBit ≠ cmpIdBit then idBit
  else if search.idBitNumber < search.host.lastDiscrepancy then
    search.savedByte &&& search.romByteMask ≠ 0#8
  else search.idBitNumber = search.host.lastDiscrepancy

/-- A zero picked at a discrepancy is recorded, also within the family byte. -/
def recordZero (search : Search) : Search :=
  { search with
    lastZero := search.idBitNumber
    host :=
      if search.idBitNumber < 9 then
        { search.host with lastFamilyDiscrepancy := search.idBitNumber }
      else search.host }

/-- Set or clear the bit in the saved code. -/
def setDirection (search : Search) (direction : Bool) : Search :=
  { search with
    host :=
      { search.host with
        savedRom :=
          search.host.savedRom.set! search.romByteNumber (if direction then search.savedByte ||| search.romByteMask
            else search.savedByte &&& ~~~search.romByteMask) } }

/-- On to the next bit of the code. -/
def advance (search : Search) : Search :=
  let mask := search.romByteMask <<< 1
  { search with
    idBitNumber := search.idBitNumber + 1
    romByteNumber := if mask = 0#8 then search.romByteNumber + 1 else search.romByteNumber
    romByteMask := if mask = 0#8 then 1#8 else mask }

/-- One pass of the loop, and whether there is another. -/
def pass (search : Search) : Search × Bool :=
  let (idBit, bus) := onewireHostReadBit search.bus
  let (cmpIdBit, bus) := onewireHostReadBit bus
  if idBit ∧ cmpIdBit then ({ search with bus }, false)
  else
    let direction := search.searchDirection idBit cmpIdBit
    let recorded :=
      if idBit = cmpIdBit ∧ direction = false then search.recordZero else search
    let search :=
      advance { recorded.setDirection direction with bus := onewireHostWriteBit bus direction }
    (search, search.romByteNumber < 8)

/-- The loop. Each pass moves on by a bit, so 64 of them are enough (`loop_ends`). -/
def loop : Nat → Search → Search
  | 0, search => search
  | fuel + 1, search =>
    match search.pass with
    | (search, true) => loop fuel search
    | (search, false) => search

end Search

def onewireHostSearch (host : OneWireHost) (mode : OneWireHostSearchMode) (bus : Bus) :
    Option Rom × OneWireHost × Bus :=
  if host.lastDeviceFlag then (none, resetCounters host, bus)
  else
    let (presence, bus) := onewireHostReset bus
    if !presence then (none, resetCounters host, bus)
    else
      let bus := onewireHostWrite bus mode.command
      let search := Search.loop 64 ⟨host, bus, 1, 0, 0, 1#8⟩
      if search.idBitNumber < 65 then (none, resetCounters search.host, search.bus)
      else
        let host :=
          { search.host with
            lastDiscrepancy := search.lastZero
            lastDeviceFlag := search.lastZero = 0 || search.host.lastDeviceFlag }
        if host.savedRom.get ⟨0, Rom.first_inside⟩ = 0#8 then (none, resetCounters host, search.bus)
        else (some host.savedRom, host, search.bus)

def searches (modes : Nat → OneWireHostSearchMode) (host : OneWireHost) (bus : Bus) :
    Nat → Option Rom × OneWireHost × Bus
  | 0 => onewireHostSearch host (modes 0) bus
  | n + 1 =>
    let (_, host, bus) := searches modes host bus n
    onewireHostSearch host (modes (n + 1)) bus

end Xtreme.OneWire
