import Mathlib.Data.Set.List
import Xtreme.Library.TrieWalk
import Xtreme.OneWire.OneWireHost

/-! The search of a 1-Wire host is a depth-first walk of the trie of the codes on
the bus. A pass of its loop narrows the devices that still answer to those under
one letter (`pass_narrows`), a call is one `descend` from the saved code and its
last discrepancy, and so the calls go through the codes in the order of the walk. -/
namespace Xtreme.OneWire
open Library

/-- The bits of a code as they come over the wire. -/
def romBits (rom : Rom) : List Bool := (List.range 64).map (romBit rom)

@[simp] theorem romBits_length (rom : Rom) : (romBits rom).length = 64 := by
  simp [romBits]

theorem romBits_get (rom : Rom) {place : Nat} (inside : place < 64) :
    (romBits rom)[place]? = some (romBit rom place) := by
  simp [romBits, List.getElem?_range inside]

theorem romBits_drop (rom : Rom) {place : Nat} (inside : place < 64) :
    (romBits rom).drop place = romBit rom place :: (romBits rom).drop (place + 1) := by
  rw [List.drop_eq_getElem_cons (by simpa using inside)]
  simp [romBits]

theorem romBit_byte (rom : Rom) {byte : Nat} (inside : byte < 8) {bit : Nat} (small : bit < 8) :
    romBit rom (8 * byte + bit) = rom[byte].getLsbD bit := by
  rw [romBit, Nat.mul_add_div (by decide), Nat.div_eq_of_lt small, Nat.mul_add_mod,
    Nat.mod_eq_of_lt small, Nat.add_zero, Vector.getElem?_eq_getElem inside, Option.getD_some]

theorem romBits_injective : Function.Injective romBits := by
  intro rom rom' same
  refine Vector.ext fun byte inside => BitVec.eq_of_getLsbD_eq fun bit small => ?_
  have place : 8 * byte + bit < 64 := by omega
  have bits : romBit rom (8 * byte + bit) = romBit rom' (8 * byte + bit) := by
    have at_place := congrArg (fun bits => bits[8 * byte + bit]?) same
    simpa [romBits_get _ place] using at_place
  rwa [romBit_byte rom inside small, romBit_byte rom' inside small] at bits

/-- What is left of the codes that still answer before the given place. -/
def answering (place : Nat) (bus : Bus) : List (List Bool) :=
  bus.filterMap fun device =>
    if device.stage = .awaiting place then some ((romBits device.rom).drop place) else none

/-- Every device awaits the same bit of its code or has dropped out. -/
def InStep (place : Nat) (bus : Bus) : Prop :=
  ∀ device ∈ bus, device.stage = .awaiting place ∨ device.stage = .dropped

theorem answering_sized (place : Nat) (bus : Bus) :
    ∀ word ∈ answering place bus, word.length = 64 - place := by
  intro word held
  obtain ⟨device, -, found⟩ := List.mem_filterMap.mp held
  split at found
  · obtain rfl := Option.some.inj found
    simp
  · cases found

theorem branch_answering {place : Nat} (inside : place < 64) (letter : Bool) (bus : Bus) :
    branch letter (answering place bus) = bus.filterMap fun device =>
        if device.stage = .bit place ∧ romBit device.rom place = letter then
          some ((romBits device.rom).drop (place + 1))
        else none := by
  rw [branch, answering, List.filterMap_filterMap]
  refine List.filterMap_congr fun device _ => ?_
  rw [show DeviceStage.awaiting place = .bit place from if_pos inside]
  by_cases active : device.stage = .bit place
  · simp [active, romBits_drop device.rom inside]
  · simp [active]

theorem branch_answering_empty {place : Nat} (inside : place < 64) (letter : Bool) (bus : Bus) :
    branch letter (answering place bus) = [] ↔
      ∀ device ∈ bus, device.stage = .bit place → romBit device.rom place ≠ letter := by
  simp [branch_answering inside]

/-- The devices after the two read slots of a pass. -/
def afterReads (bus : Bus) : Bus := (onewireHostReadBit (onewireHostReadBit bus).2).2

section Slots
variable {place : Nat} {bus : Bus}

theorem inStep_bit (inside : place < 64) (inStep : InStep place bus) {device : Device}
    (held : device ∈ bus) : device.stage = .bit place ∨ device.stage = .dropped := by
  have stage := inStep device held
  rwa [show DeviceStage.awaiting place = .bit place from if_pos inside] at stage

theorem readBit_bit (inside : place < 64) (inStep : InStep place bus) :
    (onewireHostReadBit bus).1 = decide (branch false (answering place bus) = []) := by
  rw [Bool.eq_iff_iff, decide_eq_true_iff, branch_answering_empty inside]
  simp only [onewireHostReadBit, Bus.slot, Bool.true_and, List.all_eq_true]
  refine forall₂_congr fun device held => ?_
  obtain active | gone := inStep_bit inside inStep held
  · simp [Device.answer, active]
  · simp [Device.answer, gone]

theorem readBit_complement (inside : place < 64) (inStep : InStep place bus) :
    (onewireHostReadBit (onewireHostReadBit bus).2).1 =
      decide (branch true (answering place bus) = []) := by
  rw [Bool.eq_iff_iff, decide_eq_true_iff, branch_answering_empty inside]
  simp only [onewireHostReadBit, Bus.slot, Bool.true_and, List.all_eq_true, List.forall_mem_map]
  refine forall₂_congr fun device held => ?_
  obtain active | gone := inStep_bit inside inStep held
  · simp [Device.answer, Device.hear, active]
  · simp [Device.answer, Device.hear, gone]

/-- After the read slots the devices wait for the direction, and leave the line alone. -/
theorem afterReads_map : ∃ first second,
    afterReads bus = bus.map fun device => (device.hear first).hear second := by
  refine ⟨(onewireHostReadBit bus).1, (onewireHostReadBit (onewireHostReadBit bus).2).1, ?_⟩
  exact List.map_map

theorem hear_direction (inside : place < 64) (inStep : InStep place bus) {device : Device}
    (held : device ∈ bus) (first second direction : Bool) :
    ((device.hear first).hear second).answer = true ∧
    (((device.hear first).hear second).hear direction).rom = device.rom ∧
    (((device.hear first).hear second).hear direction).stage =
      if device.stage = .bit place ∧ romBit device.rom place = direction then
        .awaiting (place + 1)
      else .dropped := by
  obtain active | gone := inStep_bit inside inStep held
  · simp [Device.answer, Device.hear, active, eq_comm]
  · simp [Device.answer, Device.hear, gone]

theorem writeBit_map (inside : place < 64) (inStep : InStep place bus) (direction : Bool) :
    ∃ first second, onewireHostWriteBit (afterReads bus) direction =
      bus.map fun device => ((device.hear first).hear second).hear direction := by
  obtain ⟨first, second, reads⟩ := @afterReads_map bus
  refine ⟨first, second, ?_⟩
  have quiet : (afterReads bus).all Device.answer = true := by
    rw [reads, List.all_map, List.all_eq_true]
    intro device held
    exact (hear_direction inside inStep held first second direction).1
  simp only [onewireHostWriteBit, Bus.slot, quiet, Bool.and_true]
  rw [reads, List.map_map]
  rfl

/-- **One letter more.** The devices that heard their own bit go on, all others drop out. -/
theorem writeBit_narrows (inside : place < 64) (inStep : InStep place bus) (direction : Bool) :
    InStep (place + 1) (onewireHostWriteBit (afterReads bus) direction) ∧
    answering (place + 1) (onewireHostWriteBit (afterReads bus) direction) =
      branch direction (answering place bus) ∧
    Bus.roms (onewireHostWriteBit (afterReads bus) direction) = bus.roms := by
  obtain ⟨first, second, written⟩ := writeBit_map inside inStep direction
  rw [written]
  refine ⟨?_, ?_, ?_⟩
  · intro after present
    obtain ⟨device, held, rfl⟩ := List.mem_map.mp present
    rw [(hear_direction inside inStep held first second direction).2.2]
    split
    · exact .inl rfl
    · exact .inr rfl
  · rw [branch_answering inside, answering, List.filterMap_map]
    refine List.filterMap_congr fun device held => ?_
    obtain ⟨-, same, stage⟩ := hear_direction inside inStep held first second direction
    simp only [Function.comp_apply, same, stage]
    by_cases heard : device.stage = .bit place ∧ romBit device.rom place = direction
    · rw [if_pos heard, if_pos rfl, if_pos heard]
    · have apart : DeviceStage.dropped ≠ .awaiting (place + 1) := by
        rw [DeviceStage.awaiting]
        split <;> simp
      rw [if_neg heard, if_neg apart, if_neg heard]
  · simp only [Bus.roms, List.map_map]
    refine List.map_congr_left fun device held => ?_
    exact (hear_direction inside inStep held first second direction).2.1

end Slots

/-! ### A pass of the loop -/

theorem onehot_shift {bit : Nat} (small : bit < 8) :
    (1#8 <<< bit) <<< 1 = 0#8 ↔ bit = 7 := by
  revert bit
  decide

theorem onehot_test (value : BitVec 8) {bit : Nat} (small : bit < 8) :
    (value &&& (1#8 <<< bit) ≠ 0#8) ↔ value.getLsbD bit = true := by
  have filled : 1#8 <<< bit ≠ 0#8 := by
    revert bit
    decide
  rw [← BitVec.twoPow_eq, BitVec.and_twoPow, BitVec.twoPow_eq]
  cases value.getLsbD bit <;> simp [filled]

theorem onehot_write (value : BitVec 8) {bit : Nat} (small : bit < 8) (direction : Bool)
    {other : Nat} (near : other < 8) :
    (if direction then value ||| (1#8 <<< bit) else value &&& ~~~(1#8 <<< bit)).getLsbD other =
      if other = bit then direction else value.getLsbD other := by
  cases direction <;> by_cases same : other = bit <;> simp [same] <;> omega

structure AtBit (place : Nat) (search : Search) : Prop where
  number : search.idBitNumber = place + 1
  byte : search.romByteNumber = place / 8
  mask : search.romByteMask = 1#8 <<< (place % 8)

structure Takes (place : Nat) (letter : Bool) (before after : Search) : Prop where
  atBit : AtBit (place + 1) after
  inStep : InStep (place + 1) after.bus
  words : answering (place + 1) after.bus = branch letter (answering place before.bus)
  roms : after.bus.roms = before.bus.roms
  saved : ∀ other, romBit after.host.savedRom other =
    if other = place then letter else romBit before.host.savedRom other
  lastZero : after.lastZero =
    if Forks (answering place before.bus) ∧ letter = false then place + 1 else before.lastZero
  discrepancy : after.host.lastDiscrepancy = before.host.lastDiscrepancy
  flag : after.host.lastDeviceFlag = before.host.lastDeviceFlag

section Pass
variable {place : Nat} {search : Search}

theorem savedBit (atBit : AtBit place search) : (search.savedByte &&& search.romByteMask ≠ 0#8) ↔
      romBit search.host.savedRom place = true := by
  rw [Search.savedByte, atBit.byte, atBit.mask, onehot_test _ (Nat.mod_lt _ (by decide))]
  rfl

theorem searchDirection_heading (atBit : AtBit place search) {words : List (List Bool)}
    (some : branch false words ≠ [] ∨ branch true words ≠ []) :
    search.searchDirection (branch false words = []) (branch true words = []) =
      heading words (search.host.lastDiscrepancy - place) (romBit search.host.savedRom place) := by
  rw [Search.searchDirection, heading]
  by_cases forks : Forks words
  · have same : (decide (branch false words = []) : Bool) = decide (branch true words = []) := by
      simp [forks.1, forks.2]
    rw [if_neg (by simpa using same), if_pos forks, atBit.number]
    by_cases before : place + 1 < search.host.lastDiscrepancy
    · rw [if_pos before, if_pos (by omega), Bool.eq_iff_iff, decide_eq_true_iff]
      exact savedBit atBit
    · rw [if_neg before, if_neg (by omega), Bool.eq_iff_iff, decide_eq_true_iff, beq_iff_eq]
      omega
  · have apart : (decide (branch false words = []) : Bool) ≠ decide (branch true words = []) := by
      rw [Forks] at forks
      by_cases left : branch false words = [] <;> by_cases right : branch true words = [] <;>
        simp_all
    rw [if_pos apart, if_neg forks]

theorem setDirection_saved (atBit : AtBit place search) (inside : place < 64) (direction : Bool) (other : Nat) :
    romBit (search.setDirection direction).host.savedRom other =
      if other = place then direction else romBit search.host.savedRom other := by
  have inBytes : place / 8 < 8 := by omega
  have small : place % 8 < 8 := Nat.mod_lt _ (by decide)
  simp only [Search.setDirection, Search.savedByte, atBit.byte, atBit.mask, romBit, Vector.getElem?_set!]
  by_cases sameByte : place / 8 = other / 8
  · rw [if_pos sameByte, if_pos inBytes, Option.getD_some,
      onehot_write _ small direction (Nat.mod_lt _ (by decide)), sameByte]
    by_cases sameBit : other % 8 = place % 8
    · rw [if_pos sameBit, if_pos (by omega)]
    · rw [if_neg sameBit, if_neg (by rintro rfl; exact sameBit rfl)]
  · rw [if_neg sameByte, if_neg (by rintro rfl; exact sameByte rfl)]

theorem advance_atBit (atBit : AtBit place search) : AtBit (place + 1) search.advance := by
  have small : place % 8 < 8 := Nat.mod_lt _ (by decide)
  have shifted := onehot_shift small
  refine ⟨?_, ?_, ?_⟩
  · rw [Search.advance, atBit.number]
  · simp only [Search.advance, atBit.byte, atBit.mask, shifted]
    split <;> omega
  · simp only [Search.advance, atBit.mask, shifted]
    split
    · rw [show (place + 1) % 8 = 0 by omega]
      rfl
    · rw [show (place + 1) % 8 = place % 8 + 1 by omega, BitVec.shiftLeft_add]

theorem nonempty_branches {words : List (List Bool)} {n : Nat}
    (sized : ∀ word ∈ words, word.length = n + 1) (some : words ≠ []) :
    branch false words ≠ [] ∨ branch true words ≠ [] := by
  have filled := heading_nonempty 0 false sized some
  generalize heading words 0 false = letter at filled
  cases letter with
  | false => exact .inl filled
  | true => exact .inr filled

theorem recordZero_keeps (atBit : AtBit place search) (picked : Prop) [Decidable picked] :
    let recorded := if picked then search.recordZero else search
    AtBit place recorded ∧ recorded.host.savedRom = search.host.savedRom ∧
      recorded.lastZero = (if picked then place + 1 else search.lastZero) ∧
      recorded.host.lastDiscrepancy = search.host.lastDiscrepancy ∧
      recorded.host.lastDeviceFlag = search.host.lastDeviceFlag := by
  by_cases zero : picked
  · rw [if_pos zero, if_pos zero]
    refine ⟨⟨atBit.number, atBit.byte, atBit.mask⟩, ?_, atBit.number, ?_, ?_⟩
    all_goals
      rw [Search.recordZero]
      split <;> rfl
  · rw [if_neg zero, if_neg zero]
    exact ⟨atBit, rfl, rfl, rfl, rfl⟩

/-- The search after a pass that writes the given direction. -/
def taking (search : Search) (picked : Prop) [Decidable picked] (direction : Bool) : Search :=
  let recorded := if picked then search.recordZero else search
  Search.advance
    { recorded.setDirection direction with
      bus := onewireHostWriteBit (afterReads search.bus) direction }

theorem taking_atBit (atBit : AtBit place search) (picked : Prop) [Decidable picked]
    (direction : Bool) : AtBit (place + 1) (taking search picked direction) := by
  obtain ⟨⟨number, byte, mask⟩, -⟩ := recordZero_keeps atBit picked
  exact advance_atBit ⟨number, byte, mask⟩

/-- A pass that hears a device, written out with what it reads. -/
theorem pass_eq (inside : place < 64) (inStep : InStep place search.bus)
    (some : branch false (answering place search.bus) ≠ [] ∨
      branch true (answering place search.bus) ≠ []) (letter : Bool)
    (taken : search.searchDirection (branch false (answering place search.bus) = [])
      (branch true (answering place search.bus) = []) = letter) :
    let next := taking search (Forks (answering place search.bus) ∧ letter = false) letter
    search.pass = (next, decide (next.romByteNumber < 8)) := by
  have forked : (decide (branch false (answering place search.bus) = []) : Bool) =
      decide (branch true (answering place search.bus) = []) ↔ Forks (answering place search.bus) := by
    rw [Forks]
    by_cases left : branch false (answering place search.bus) = [] <;>
      by_cases right : branch true (answering place search.bus) = [] <;> simp_all
  have heard : ¬((decide (branch false (answering place search.bus) = []) : Bool) = true ∧
      (decide (branch true (answering place search.bus) = []) : Bool) = true) := by
    simp only [decide_eq_true_iff, not_and_or]
    exact some
  simp only [Search.pass, readBit_bit inside inStep, readBit_complement inside inStep, forked]
  rw [if_neg heard, taken]
  rfl

/-- **A pass narrows the search to one letter**, the heading of the walk, and there is
another pass unless this was the last bit. -/
theorem pass_narrows (inside : place < 64) (atBit : AtBit place search)
    (inStep : InStep place search.bus) (some : answering place search.bus ≠ []) :
    (search.pass).2 = decide (place + 1 < 64) ∧
    Takes place (heading (answering place search.bus) (search.host.lastDiscrepancy - place)
        (romBit search.host.savedRom place))
      search (search.pass).1 := by
  have sized : ∀ word ∈ answering place search.bus, word.length = (63 - place) + 1 := by
    intro word held
    rw [answering_sized place search.bus word held]
    omega
  have filled := nonempty_branches sized some
  have taken := searchDirection_heading atBit filled
  rw [pass_eq inside inStep filled _ taken]
  generalize heading (answering place search.bus) (search.host.lastDiscrepancy - place)
    (romBit search.host.savedRom place) = letter
  obtain ⟨inStep', words', roms'⟩ := writeBit_narrows inside inStep letter
  have kept := recordZero_keeps atBit (Forks (answering place search.bus) ∧ letter = false)
  have next := taking_atBit atBit (Forks (answering place search.bus) ∧ letter = false) letter
  obtain ⟨bitKept, savedKept, lastZero, discrepancy, flag⟩ := kept
  refine ⟨?_, next, inStep', words', roms', fun other => ?_, lastZero, discrepancy, flag⟩
  · rw [next.byte, decide_eq_decide]
    omega
  · rw [← savedKept]
    exact setDirection_saved bitKept inside letter other

end Pass

/-! ### The loop and a call -/

theorem take_saved {place : Nat} {letter : Bool} {rom rom' : Rom} (inside : place < 64)
    (saved : ∀ other, romBit rom' other = if other = place then letter else romBit rom other) :
    (romBits rom').take (place + 1) = (romBits rom).take place ++ [letter] := by
  have before : (romBits rom').take place = (romBits rom).take place := by
    simp only [romBits, ← List.map_take]
    refine List.map_congr_left fun other held => ?_
    have below : other < place := by
      simp only [List.take_range, List.mem_range] at held
      omega
    rw [saved, if_neg (by omega)]
  rw [List.take_add_one, before, romBits_get _ inside, saved, if_pos rfl]
  rfl

theorem drop_saved {place : Nat} {letter : Bool} {rom rom' : Rom}
    (saved : ∀ other, romBit rom' other = if other = place then letter else romBit rom other) :
    (romBits rom').drop (place + 1) = (romBits rom).drop (place + 1) := by
  refine List.ext_getElem (by simp) fun index inside _ => ?_
  simp only [romBits, List.getElem_drop, List.getElem_map, List.getElem_range]
  rw [saved, if_neg (by omega)]

/-- What the loop leaves when it has walked the rest of a code. -/
structure Walked (place : Nat) (before after : Search) (found : List Bool × Nat) : Prop where
  number : after.idBitNumber = 65
  saved : romBits after.host.savedRom = (romBits before.host.savedRom).take place ++ found.1
  lastZero : after.lastZero = if 0 < found.2 then place + found.2 else before.lastZero
  flag : after.host.lastDeviceFlag = before.host.lastDeviceFlag
  roms : after.bus.roms = before.bus.roms

/-- **The loop is the walk** from the saved code and the last discrepancy. -/
theorem loop_walks {place left : Nat} (rest : place + left = 64) {search : Search}
    (atBit : AtBit place search) (inStep : InStep place search.bus)
    (some : answering place search.bus ≠ []) :
    Walked place search (Search.loop left search)
      (descend left (answering place search.bus) (search.host.lastDiscrepancy - place)
        ((romBits search.host.savedRom).drop place)) := by
  induction left generalizing place search with
  | zero =>
    obtain rfl : place = 64 := by omega
    refine ⟨atBit.number, ?_, rfl, rfl, rfl⟩
    rfl
  | succ left ih =>
    have inside : place < 64 := by omega
    obtain ⟨again, takes⟩ := pass_narrows inside atBit inStep some
    have sized : ∀ word ∈ answering place search.bus, word.length = left + 1 := by
      intro word held
      rw [answering_sized place search.bus word held]
      omega
    have filled := heading_nonempty (search.host.lastDiscrepancy - place)
      (romBit search.host.savedRom place) sized some
    rw [descend, romBits_drop _ inside, List.headD_cons, List.tail_cons]
    generalize heading (answering place search.bus) (search.host.lastDiscrepancy - place)
      (romBit search.host.savedRom place) = letter at takes filled ⊢
    have walked := ih (by omega) takes.atBit takes.inStep (by rwa [takes.words])
    rw [takes.words, takes.discrepancy, drop_saved takes.saved] at walked
    have looped : Search.loop (left + 1) search = Search.loop left (search.pass).1 := by
      rw [Search.loop]
      cases passed : search.pass with
      | mk next more =>
        cases more with
        | true => rfl
        | false =>
          obtain rfl : left = 0 := by
            rw [passed, eq_comm, decide_eq_false_iff_not] at again
            omega
          rfl
    rw [looped]
    generalize descend left (branch letter (answering place search.bus))
      (search.host.lastDiscrepancy - place - 1) ((romBits search.host.savedRom).drop (place + 1))
      = found at walked ⊢
    obtain ⟨word, below⟩ := found
    obtain ⟨number, saved, lastZero, flag, roms⟩ := walked
    refine ⟨number, ?_, ?_, flag.trans takes.flag, roms.trans takes.roms⟩
    · rw [saved, take_saved inside takes.saved, List.append_assoc]
      rfl
    · rw [lastZero, takes.lastZero]
      change _ = if 0 < placeAbove below _ then place + placeAbove below _ else search.lastZero
      obtain rfl | found := Nat.eq_zero_or_pos below
      · rw [if_neg (Nat.lt_irrefl 0)]
        by_cases here : Forks (answering place search.bus) ∧ letter = false
        · rw [if_pos here, placeAbove_here here, if_pos Nat.one_pos]
        · rw [if_neg here, placeAbove_none here, if_neg (Nat.lt_irrefl 0)]
      · rw [if_pos found, placeAbove_below found, if_pos (by omega)]
        omega

/-! A search command puts every device at its first bit. -/

def inStage (stage : DeviceStage) (bus : Bus) : Bus :=
  bus.map fun device => { device with stage }

theorem writeBit_command (heard : List Bool) (bus : Bus) (value : Bool) :
    onewireHostWriteBit (inStage (.command heard) bus) value =
      inStage (Device.hear value ⟨Vector.replicate 8 0#8, .command heard⟩).stage bus := by
  have quiet : (inStage (.command heard) bus).all Device.answer = true := by
    simp [inStage, Device.answer]
  simp only [onewireHostWriteBit, Bus.slot, quiet, Bool.and_true]
  simp only [inStage, List.map_map]
  rfl

theorem writeBits_command {heard bits : List Bool} (short : heard.length + bits.length < 8)
    (bus : Bus) : bits.foldl onewireHostWriteBit (inStage (.command heard) bus) =
      inStage (.command (heard ++ bits)) bus := by
  induction bits generalizing heard with
  | nil => rw [List.append_nil, List.foldl_nil]
  | cons value bits ih =>
    rw [List.length_cons] at short
    have more : (Device.hear value ⟨Vector.replicate 8 0#8, .command heard⟩).stage =
        .command (heard ++ [value]) := if_pos (by simp; omega)
    rw [List.foldl_cons, writeBit_command, more, ih (by simp; omega), List.append_assoc]
    rfl

theorem write_search (bus : Bus) (mode : OneWireHostSearchMode) :
    onewireHostWrite (bus.map Device.listen) mode.command = inStage (.awaiting 0) bus := by
  have listening : bus.map Device.listen = inStage (.command []) bus := rfl
  obtain ⟨bits, last, seven, sent⟩ : ∃ bits last, bits.length = 7 ∧
      byteBits mode.command = bits ++ [last] := by
    refine ⟨(byteBits mode.command).take 7, mode.command.getLsbD 7, ?_, ?_⟩ <;> cases mode <;> decide
  have heard : (Device.hear last ⟨Vector.replicate 8 0#8, .command bits⟩).stage = .awaiting 0 := by
    have known : bits ++ [last] = byteBits commandSearch ∨
        bits ++ [last] = byteBits commandConditionalSearch := by
      rw [← sent]
      cases mode with
      | conditional => exact .inr rfl
      | normal => exact .inl rfl
    simp only [Device.hear]
    rw [if_neg (by simp; omega), if_pos known]
  rw [listening, onewireHostWrite, sent, List.foldl_append, writeBits_command (by simp; omega),
    List.nil_append, List.foldl_cons, List.foldl_nil, writeBit_command, heard]

theorem inStage_awaiting (bus : Bus) : InStep 0 (inStage (.awaiting 0) bus) ∧
    answering 0 (inStage (.awaiting 0) bus) = bus.roms.map romBits ∧
    Bus.roms (inStage (.awaiting 0) bus) = bus.roms := by
  refine ⟨?_, ?_, ?_⟩
  · intro device held
    obtain ⟨_, -, rfl⟩ := List.mem_map.mp held
    exact .inl rfl
  · simp [answering, inStage, Bus.roms]
  · simp [inStage, Bus.roms]

/-- **A call finds the next word of the walk**, and remembers where it last turned. -/
theorem onewireHostSearch_descends {host : OneWireHost} (fresh : host.lastDeviceFlag = false)
    (mode : OneWireHostSearchMode) {bus : Bus} (present : bus ≠ [])
    (families : ∀ rom ∈ bus.roms, rom[0] ≠ 0#8) {word : List Bool} (found :
      (descend 64 (bus.roms.map romBits) host.lastDiscrepancy (romBits host.savedRom)).1 = word)
    (known : word ∈ bus.roms.map romBits) :
    ∃ rom host' bus', onewireHostSearch host mode bus = (some rom, host', bus') ∧
      romBits rom = word ∧ host'.savedRom = rom ∧ bus'.roms = bus.roms ∧
      host'.lastDiscrepancy = lastTurn 64 (bus.roms.map romBits) word ∧
      (host'.lastDeviceFlag = true ↔ host'.lastDiscrepancy = 0) := by
  obtain ⟨inStep, words, roms⟩ := inStage_awaiting bus
  have atStart : AtBit 0 ⟨host, inStage (.awaiting 0) bus, 1, 0, 0, 1#8⟩ := ⟨rfl, rfl, rfl⟩
  have walked := loop_walks (Nat.zero_add 64) atStart inStep (by rw [words]; simpa [Bus.roms] using present)
  rw [words, Nat.sub_zero, List.drop_zero] at walked
  have turn := descend_turn 64 (bus.roms.map romBits) host.lastDiscrepancy (romBits host.savedRom)
  obtain ⟨number, saved, lastZero, flag, roms'⟩ := walked
  simp only [found, turn] at saved lastZero
  have lastPlace : (Search.loop 64 ⟨host, inStage (.awaiting 0) bus, 1, 0, 0, 1#8⟩).lastZero =
      lastTurn 64 (bus.roms.map romBits) word := by
    rw [lastZero]
    split <;> omega
  obtain ⟨rom, held, bits⟩ := List.mem_map.mp known
  have same := romBits_injective (saved.trans bits.symm)
  have family := families rom held
  simp only [onewireHostSearch, fresh, onewireHostReset, write_search]
  rw [if_neg Bool.false_ne_true, if_neg (by simpa using present), if_neg (by omega),
    if_neg fun zero => family (by rw [← same]; exact zero)]
  refine ⟨_, _, _, rfl, saved, rfl, roms'.trans roms, lastPlace, ?_⟩
  simp [flag, fresh]

/-! ### The calls one after the other -/

/-- The host before the call of the given number in a round: at the start of a round it
starts afresh, later it remembers the word found last and where that turned. -/
def Standing (bus : Bus) (host : OneWireHost) : Nat → Prop
  | 0 => host.lastDeviceFlag = false ∧ host.lastDiscrepancy = 0
  | found + 1 =>
    (visited 64 (bus.roms.map romBits))[found]? = some (romBits host.savedRom) ∧
    host.lastDiscrepancy = lastTurn 64 (bus.roms.map romBits) (romBits host.savedRom) ∧
    (host.lastDeviceFlag = true ↔ host.lastDiscrepancy = 0)

theorem romBits_sized (bus : Bus) : ∀ word ∈ bus.roms.map romBits, word.length = 64 := by
  intro word held
  obtain ⟨rom, -, rfl⟩ := List.mem_map.mp held
  exact romBits_length rom

theorem standing_descends {bus : Bus} {host : OneWireHost} {number : Nat} {word : List Bool}
    (standing : Standing bus host number)
    (next : (visited 64 (bus.roms.map romBits))[number]? = some word) :
    host.lastDeviceFlag = false ∧
    (descend 64 (bus.roms.map romBits) host.lastDiscrepancy (romBits host.savedRom)).1 = word := by
  have sized := romBits_sized bus
  cases number with
  | zero =>
    obtain ⟨fresh, none⟩ := standing
    have some : bus.roms.map romBits ≠ [] := by
      intro empty
      rw [(visited_nonempty sized).mpr empty] at next
      cases next
    have first := descend_first sized some (romBits host.savedRom)
    rw [next] at first
    exact ⟨fresh, by rw [none, ← Option.some.inj first]⟩
  | succ found =>
    obtain ⟨reached, turn, flag⟩ := standing
    have follows := descend_next sized reached
    rw [next, ← turn] at follows
    by_cases last : host.lastDiscrepancy = 0
    · rw [if_pos last] at follows
      cases follows
    · rw [if_neg last] at follows
      exact ⟨by simpa [last] using flag, (Option.some.inj follows).symm⟩

theorem standing_ends {bus : Bus} {host : OneWireHost} {number : Nat} (standing : Standing bus host number)
    (atEnd : number = (visited 64 (bus.roms.map romBits)).length) :
    host.lastDeviceFlag = true ∨ bus = [] := by
  cases number with
  | zero =>
    have empty := (visited_nonempty (romBits_sized bus)).mp (List.eq_nil_of_length_eq_zero atEnd.symm)
    exact .inr (by simpa [Bus.roms] using empty)
  | succ found =>
    obtain ⟨reached, turn, flag⟩ := standing
    have follows := descend_next (romBits_sized bus) reached
    rw [← turn, List.getElem?_eq_none (by omega)] at follows
    by_cases last : host.lastDiscrepancy = 0
    · exact .inl (flag.mpr last)
    · rw [if_neg last] at follows
      cases follows

/-- A call after the last device, or on an empty bus, finds nothing and starts afresh. -/
theorem onewireHostSearch_exhausted {bus : Bus} {host : OneWireHost}
    (exhausted : host.lastDeviceFlag = true ∨ bus = []) (mode : OneWireHostSearchMode) :
    onewireHostSearch host mode bus = (none, resetCounters host, bus) := by
  rw [onewireHostSearch]
  by_cases last : host.lastDeviceFlag = true
  · rw [if_pos last]
  · obtain rfl := exhausted.resolve_left last
    rw [if_neg last]
    rfl

/-- **One call.** It answers with the word the host stands before, or with nothing at the
end of a round, and leaves the host before the next one. -/
theorem onewireHostSearch_step {bus : Bus} (families : ∀ rom ∈ bus.roms, rom[0] ≠ 0#8)
    {host : OneWireHost} {number : Nat} (standing : Standing bus host number)
    (within : number ≤ (visited 64 (bus.roms.map romBits)).length) (mode : OneWireHostSearchMode) :
    ∃ answer host' bus', onewireHostSearch host mode bus = (answer, host', bus') ∧
      answer.map romBits = (visited 64 (bus.roms.map romBits))[number]? ∧
      bus'.roms = bus.roms ∧
      Standing bus' host' ((number + 1) % ((visited 64 (bus.roms.map romBits)).length + 1)) := by
  obtain before | atEnd := Nat.lt_or_eq_of_le within
  · have next := List.getElem?_eq_getElem before
    obtain ⟨fresh, found⟩ := standing_descends standing next
    have known := (mem_visited (romBits_sized bus)).mp (List.mem_of_getElem? next)
    have present : bus ≠ [] := by
      rintro rfl
      cases known
    obtain ⟨rom, host', bus', searched, bits, saved, roms, turn, flag⟩ :=
      onewireHostSearch_descends fresh mode present families found known
    refine ⟨some rom, host', bus', searched, by rw [next, Option.map_some, bits], roms, ?_⟩
    rw [Nat.mod_eq_of_lt (by omega), Standing, roms, saved, bits]
    exact ⟨next, turn, flag⟩
  · have none := List.getElem?_eq_none (Nat.le_of_eq atEnd.symm)
    rw [atEnd, Nat.mod_self, ← atEnd, none]
    have exhausted := onewireHostSearch_exhausted (standing_ends standing atEnd) mode
    exact ⟨_, _, _, exhausted, Option.map_none _, rfl, rfl, rfl⟩

/-- **The search lists every code once, and then starts again.** The codes of the devices
have an order in which the calls after a reset of the search report them, whatever the host
did before, whichever mode each call has and wherever the devices were: each code once, then
nothing, and so on round after round. -/
theorem search_lists_every_code (bus : Bus) (distinct : bus.roms.Nodup)
    (families : ∀ rom ∈ bus.roms, rom[0] ≠ 0#8) :
    ∃ order : List Rom, order.Perm bus.roms ∧
      ∀ (host : OneWireHost) (modes : Nat → OneWireHostSearchMode) (n : Nat),
        (searches modes (onewireHostResetSearch host) bus n).1 =
          order[n % (order.length + 1)]? := by
  have distinct' := distinct.map romBits_injective
  have listed := visited_perm (romBits_sized bus) distinct'
  obtain ⟨order, bits⟩ : ∃ order : List Rom, order.map romBits = visited 64 (bus.roms.map romBits) := by
    rw [← Set.mem_range, Set.range_list_map]
    intro word held
    obtain ⟨rom, -, same⟩ := List.mem_map.mp (listed.mem_iff.mp held)
    exact ⟨rom, same⟩
  refine ⟨order, (List.map_perm_map_iff romBits_injective).mp (bits ▸ listed), ?_⟩
  intro host modes n
  have length : order.length = (visited 64 (bus.roms.map romBits)).length := by
    rw [← bits, List.length_map]
  -- every call finds the host standing at its number within the round
  suffices stands : ∀ n, ∃ answer host' bus',
      searches modes (onewireHostResetSearch host) bus n = (answer, host', bus') ∧
        answer.map romBits = (visited 64 (bus.roms.map romBits))[n % (order.length + 1)]? ∧
        bus'.roms = bus.roms ∧ Standing bus' host' ((n + 1) % (order.length + 1)) by
    obtain ⟨answer, host', bus', searched, answered, -⟩ := stands n
    rw [searched]
    rw [← bits, List.getElem?_map] at answered
    exact Option.map_injective romBits_injective answered
  intro n
  induction n with
  | zero =>
    have fresh : Standing bus (onewireHostResetSearch host) 0 := ⟨rfl, rfl⟩
    have step := onewireHostSearch_step families fresh (Nat.zero_le _) (modes 0)
    rwa [← length] at step
  | succ n ih =>
    obtain ⟨answer, host', bus', searched, -, roms, standing⟩ := ih
    have small : (n + 1) % (order.length + 1) ≤ order.length := Nat.le_of_lt_succ (Nat.mod_lt _ (by omega))
    have step := onewireHostSearch_step (by rwa [roms]) standing (by rwa [roms, ← length]) (modes (n + 1))
    rw [roms, ← length, Nat.mod_add_mod] at step
    rwa [searches, searched]

/-- Two keys that part in the second bit of their serial numbers. -/
def twoKeys : Bus :=
  [⟨#v[0x01#8, 0x02#8, 0#8, 0#8, 0#8, 0#8, 0#8, 0x5e#8], .dropped⟩,
    ⟨#v[0x01#8, 0x00#8, 0#8, 0#8, 0#8, 0#8, 0#8, 0x9c#8], .selected⟩]

theorem search_lists_two_keys : ∃ order : List Rom, order.Perm twoKeys.roms ∧
      ∀ (host : OneWireHost) (modes : Nat → OneWireHostSearchMode) (n : Nat),
        (searches modes (onewireHostResetSearch host) twoKeys n).1 =
          order[n % (order.length + 1)]? :=
  search_lists_every_code twoKeys (by simp [twoKeys, Bus.roms]) (by
    intro rom held
    simp only [twoKeys, Bus.roms, List.map_cons, List.map_nil, List.mem_cons, List.not_mem_nil, or_false] at held
    obtain rfl | rfl := held <;> decide)

end Xtreme.OneWire
