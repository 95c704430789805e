import Xtreme.Library.Effect
import Xtreme.Nfc.IsoCrc
import Xtreme.Nfc.Iso15693
import Xtreme.Nfc.MfUltralight

/-! The listener that plays an ISO15693-3 card (`iso15693_3_listener_i.c`,
`iso15693_3_listener.c`).

A build with `FURI_DEBUG` stops with an `Iso15693_3Fault` where a `furi_assert`
fails; one without it goes on outside the array, in memory of which only what is
read is modelled. No assertion guards the bytes of a request: the memory of the
receive buffer is read wherever a handler points to, and the places go to `trace`,
with whatever else an event does that does not show in the state. The trace begins
anew with every event. The extension table is the one that a protocol over this one
sets; its handlers are functions of their arguments here. A frame is always sent,
as the error of a transmission reaches nobody. -/
namespace Xtreme.Nfc
open Xtreme.Library BitLib Toolbox
open Effect (fault observe update)

inductive Iso15693_3Fault
  /-- An index outside a table of handlers, which is called in any build. -/
  | handlerTable
  /-- A block number that is not below the number of blocks. -/
  | blockNumber
  /-- A block that is not in `blockData`. -/
  | blockData
  /-- A block that is not in `blockSecurity`. -/
  | blockSecurity
  /-- More than `ISO15693_3_LISTENER_BUFFER_SIZE` bytes to send. -/
  | transmitBuffer
  deriving DecidableEq, Repr

inductive Iso15693_3ListenerState
  | ready
  | selected
  | quiet
  deriving DecidableEq, Repr

structure Iso15693_3ListenerSessionState where
  selected : Bool
  addressed : Bool
  waitForEof : Bool
  deriving DecidableEq, Repr

inductive Iso15693_3RequestHandler
  | inventory
  | stayQuiet
  | readBlock
  | writeBlock
  | lockBlock
  | readMultiBlocks
  | writeMultiBlocks
  | select
  | resetToReady
  | writeAfi
  | lockAfi
  | writeDsfid
  | lockDsfid
  | getSystemInfo
  | getMultiBlocksSecurity
  deriving DecidableEq, Repr

inductive Iso15693_3ExtensionArgument
  | number (value : Nat)
  /-- A pointer, with the memory that it points to. -/
  | memory (byte : Nat → BitVec 8)

abbrev Iso15693_3ExtensionHandler := List Iso15693_3ExtensionArgument → Iso15693_3Error

structure Iso15693_3ExtensionHandlerTable where
  mandatory : Vector (Option Iso15693_3ExtensionHandler) 2
  optional : Vector (Option Iso15693_3ExtensionHandler) 13

inductive Iso15693_3Trace
  /-- A byte of the receive buffer was read. -/
  | requestByte (place : Nat)
  | called (handler : Iso15693_3RequestHandler)
  /-- A response was built, which goes out now or after the next EOF. -/
  | built (response : List (BitVec 8))
  | sent (frame : List (BitVec 8))
  /-- The callback of the application was called. -/
  | reported
  deriving DecidableEq, Repr

/-- The build, and what lies outside the arrays of the card, by the index that
leads there. -/
structure Iso15693_3Surroundings where
  furiDebug : Bool
  outsideData : Nat → BitVec 8
  outsideSecurity : Nat → BitVec 8

structure Iso15693_3Listener where
  surroundings : Iso15693_3Surroundings
  data : Iso15693_3Data
  state : Iso15693_3ListenerState
  sessionState : Iso15693_3ListenerSessionState
  txBuffer : List (BitVec 8)
  extensionTable : Option Iso15693_3ExtensionHandlerTable
  trace : List Iso15693_3Trace

abbrev Iso15693_3M (α : Type) := Effect Iso15693_3Fault Iso15693_3Listener α

/-- The data of a request: `size` bytes of a frame, from `start` on. -/
structure Iso15693_3RequestData where
  frame : BitBuffer
  start : Nat
  size : Nat
  deriving DecidableEq, Repr

namespace Iso15693_3Listener

def traced (instanc : Iso15693_3Listener) (step : Iso15693_3Trace) : Iso15693_3Listener :=
  { instanc with trace := instanc.trace ++ [step] }

def bufferSize : Nat := 64

end Iso15693_3Listener

def note (step : Iso15693_3Trace) : Iso15693_3M Unit := update (·.traced step)

def iso15693_3ListenerAlloc (surroundings : Iso15693_3Surroundings) (data : Iso15693_3Data) :
    Iso15693_3Listener where
  surroundings := surroundings
  data := data
  state := .ready
  sessionState := ⟨false, false, false⟩
  txBuffer := []
  extensionTable := none
  trace := []

def readRequest (request : Iso15693_3RequestData) (index : Nat) : Iso15693_3M (BitVec 8) := do
  note (.requestByte (request.start + index))
  pure (request.frame.byte (request.start + index))

def readRequestBytes (request : Iso15693_3RequestData) (first count : Nat) : Iso15693_3M (List (BitVec 8)) :=
  (List.range' first count).mapM (readRequest request)

/-- `furi_assert`. -/
def furiAssert (condition : Prop) [Decidable condition] (failure : Iso15693_3Fault) : Iso15693_3M Unit := do
  let furiDebug ← observe (·.surroundings.furiDebug)
  if furiDebug ∧ ¬ condition then fault failure else pure ()

/-- `bit_buffer_append_bytes`. -/
def appendBytes (bytes : List (BitVec 8)) : Iso15693_3M Unit := do
  let size ← observe (·.txBuffer.length)
  furiAssert (size + bytes.length ≤ Iso15693_3Listener.bufferSize) .transmitBuffer
  update fun instanc => { instanc with txBuffer := instanc.txBuffer ++ bytes }

/-- `bit_buffer_reset`. -/
def resetTxBuffer : Iso15693_3M Unit := update fun instanc => { instanc with txBuffer := [] }

def checkBlockNumber (blockNum : Nat) : Iso15693_3M Unit := do
  let blockCount ← observe (·.data.blockCount)
  furiAssert (blockNum < blockCount) .blockNumber

/-- The functions for blocks take the low byte of the number they are given. -/
def blockNumber (index : Nat) : Nat := index % 256

def iso15693_3AppendUid : Iso15693_3M Unit := do
  let data ← observe (·.data)
  appendBytes (iso15693_3UidBytes data)

def iso15693_3AppendBlock (index : Nat) : Iso15693_3M Unit := do
  checkBlockNumber (blockNumber index)
  let instanc ← observe id
  furiAssert (instanc.data.HasBlock (blockNumber index)) .blockData
  if instanc.data.HasBlock (blockNumber index) then appendBytes (instanc.data.block (blockNumber index))
  else appendBytes ((List.range' (instanc.data.blockOffset (blockNumber index)) instanc.data.blockSize).map
    instanc.surroundings.outsideData)

def iso15693_3SetBlockLocked (index : Nat) : Iso15693_3M Unit := do
  checkBlockNumber (blockNumber index)
  let data ← observe (·.data)
  furiAssert (blockNumber index < data.blockSecurity.length) .blockSecurity
  update fun instanc => { instanc with data := instanc.data.setLocked (blockNumber index) }

def iso15693_3SetBlockData (index : Nat) (blockData : List (BitVec 8)) : Iso15693_3M Unit := do
  checkBlockNumber (blockNumber index)
  let data ← observe (·.data)
  furiAssert (data.HasBlock (blockNumber index)) .blockData
  if data.HasBlock (blockNumber index) then
    update fun instanc => { instanc with data := instanc.data.setBlock (blockNumber index) blockData }
  else pure ()

/-- `simple_array_cget` of the lock of a block. -/
def blockSecurityAt (blockNum : Nat) : Iso15693_3M (BitVec 8) := do
  let instanc ← observe id
  furiAssert (blockNum < instanc.data.blockSecurity.length) .blockSecurity
  pure (instanc.data.blockSecurity.getD blockNum (instanc.surroundings.outsideSecurity blockNum))

def iso15693_3AppendBlockSecurity (index : Nat) : Iso15693_3M Unit := do
  let security ← blockSecurityAt (blockNumber index)
  appendBytes [security]

def iso15693_3IsBlockLocked (index : Nat) : Iso15693_3M Bool := do
  checkBlockNumber (blockNumber index)
  let data ← observe (·.data)
  if data.blockSecurity = [] then pure false
  else do
    let security ← blockSecurityAt (blockNumber index)
    pure (security ≠ 0)

/-- `command - ISO15693_3_CMD_..._START`, which is unsigned. -/
def tablePlace (command start : BitVec 8) : Nat := (command.setWidth 32 - start.setWidth 32 : BitVec 32).toNat

def tableEntry {α : Type} (table : List α) (command start : BitVec 8) : Iso15693_3M α :=
  match table[tablePlace command start]? with
  | some entry => pure entry
  | none => fault .handlerTable

def iso15693_3ListenerExtensionHandler (command : BitVec 8) (arguments : List Iso15693_3ExtensionArgument) :
    Iso15693_3M Iso15693_3Error := do
  match ← observe (·.extensionTable) with
  | none => pure .none
  | some table => do
    let handler ←
      if command < 0x03#8 then tableEntry table.mandatory.toList command 0x01#8
      else if 0x20#8 ≤ command ∧ command < 0x2D#8 then tableEntry table.optional.toList command 0x20#8
      else pure none
    match handler with
    | none => pure .none
    | some handler => pure (handler arguments)

/-! ## Handlers -/

def optionFlag (flags : BitVec 8) : Bool := flags.getLsbD 6

def setWaitForEof (flags : BitVec 8) : Iso15693_3M Unit :=
  update fun instanc =>
    { instanc with sessionState := { instanc.sessionState with waitForEof := optionFlag flags } }

def setState (state : Iso15693_3ListenerState) : Iso15693_3M Unit :=
  update fun instanc => { instanc with state := state }

def iso15693_3ListenerInventoryHandler (request : Iso15693_3RequestData) (flags : BitVec 8) :
    Iso15693_3M Iso15693_3Error := do
  let afiFlag := flags.getLsbD 4
  let dataSizeMin := if afiFlag then 2 else 1
  if request.size < dataSizeMin then pure .format
  else do
    let systemInfo ← observe (·.data.systemInfo)
    let afi ← if afiFlag then readRequest request 0 else pure systemInfo.afi
    if afi ≠ systemInfo.afi then pure .none
    else do
      let maskLen ← readRequest request (dataSizeMin - 1)
      if request.size ≠ dataSizeMin + maskLen.toNat then pure .format
      else do
        let error ← iso15693_3ListenerExtensionHandler 0x01#8 []
        if error ≠ .none then pure error
        else do
          appendBytes [systemInfo.dsfid]
          iso15693_3AppendUid
          pure .none

def iso15693_3ListenerStayQuietHandler : Iso15693_3M Iso15693_3Error := do
  setState .quiet
  pure .ignore

/-- A block as both commands that read show it. -/
def appendBlockWithSecurity (flags : BitVec 8) (index : Nat) : Iso15693_3M Unit := do
  if optionFlag flags then iso15693_3AppendBlockSecurity index
  iso15693_3AppendBlock index

def iso15693_3ListenerReadBlockHandler (request : Iso15693_3RequestData) (flags : BitVec 8) :
    Iso15693_3M Iso15693_3Error := do
  if request.size ≠ 1 then pure .format
  else do
    let blockNum ← readRequest request 0
    let blockCountMax ← observe (·.data.blockCount)
    if blockCountMax ≤ blockNum.toNat then pure .internal
    else do
      let error ← iso15693_3ListenerExtensionHandler 0x20#8 [.number blockNum.toNat]
      if error ≠ .none then pure error
      else do
        appendBlockWithSecurity flags blockNum.toNat
        pure .none

def iso15693_3ListenerWriteBlockHandler (request : Iso15693_3RequestData) (flags : BitVec 8) :
    Iso15693_3M Iso15693_3Error := do
  setWaitForEof flags
  if request.size ≤ 1 then pure .format
  else do
    let blockNum ← readRequest request 0
    let data ← observe (·.data)
    if data.blockCount ≤ blockNum.toNat then pure .internal
    else if request.size - 1 ≠ data.blockSize then pure .internal
    else if ← iso15693_3IsBlockLocked blockNum.toNat then pure .internal
    else do
      let error ← iso15693_3ListenerExtensionHandler 0x21#8
        [.number blockNum.toNat, .memory fun i => request.frame.byte (request.start + 1 + i)]
      if error ≠ .none then pure error
      else do
        let blockData ← readRequestBytes request 1 (request.size - 1)
        iso15693_3SetBlockData blockNum.toNat blockData
        pure .none

def iso15693_3ListenerLockBlockHandler (request : Iso15693_3RequestData) (flags : BitVec 8) :
    Iso15693_3M Iso15693_3Error := do
  setWaitForEof flags
  if request.size ≠ 1 then pure .format
  else do
    let blockNum ← readRequest request 0
    let blockCountMax ← observe (·.data.blockCount)
    if blockCountMax ≤ blockNum.toNat then pure .internal
    else if ← iso15693_3IsBlockLocked blockNum.toNat then pure .internal
    else do
      let error ← iso15693_3ListenerExtensionHandler 0x22#8 [.number blockNum.toNat]
      if error ≠ .none then pure error
      else do
        iso15693_3SetBlockLocked blockNum.toNat
        pure .none

def blockCountAvailable (blockCountMax blockIndexStart : Nat) : Nat :=
  (2 ^ 32 + blockCountMax - blockIndexStart) % 2 ^ 32

def iso15693_3ListenerReadMultiBlocksHandler (request : Iso15693_3RequestData) (flags : BitVec 8) :
    Iso15693_3M Iso15693_3Error := do
  if request.size ≠ 2 then pure .format
  else do
    let firstBlockNum ← readRequest request 0
    let count ← readRequest request 1
    let blockCountMax ← observe (·.data.blockCount)
    let start := firstBlockNum.toNat
    let blockCount := count.toNat + 1
    if blockCountAvailable blockCountMax start < blockCount then pure .internal
    else do
      let error ← iso15693_3ListenerExtensionHandler 0x23#8 [.number start, .number (start + count.toNat)]
      if error ≠ .none then pure error
      else do
        (List.range' start blockCount).forM (appendBlockWithSecurity flags)
        pure .none

def isAnyBlockLocked : List Nat → Iso15693_3M Bool
  | [] => pure false
  | index :: rest => do
    if ← iso15693_3IsBlockLocked index then pure true else isAnyBlockLocked rest

/-- One round of the loop that writes. The place in the request counts from the
first block of the card, not from the first one of the request. -/
def writeOneOfBlocks (request : Iso15693_3RequestData) (blockSize index : Nat) : Iso15693_3M Unit := do
  let blockData ← readRequestBytes request (2 + blockSize * index) blockSize
  iso15693_3SetBlockData index blockData

def iso15693_3ListenerWriteMultiBlocksHandler (request : Iso15693_3RequestData) (flags : BitVec 8) :
    Iso15693_3M Iso15693_3Error := do
  setWaitForEof flags
  if request.size ≤ 2 then pure .format
  else do
    let firstBlockNum ← readRequest request 0
    let count ← readRequest request 1
    let data ← observe (·.data)
    let start := firstBlockNum.toNat
    let blockCount := count.toNat + 1
    let blockSize := (request.size - 2) / blockCount
    if blockCountAvailable data.blockCount start < blockCount then pure .internal
    else if blockSize ≠ data.blockSize then pure .internal
    else do
      let error ← iso15693_3ListenerExtensionHandler 0x24#8 [.number start, .number (start + count.toNat)]
      if error ≠ .none then pure error
      else if ← isAnyBlockLocked (List.range' start blockCount) then pure .internal
      else do
        (List.range' start blockCount).forM (writeOneOfBlocks request blockSize)
        pure .none

def iso15693_3ListenerSelectHandler (flags : BitVec 8) : Iso15693_3M Iso15693_3Error := do
  if !flags.getLsbD 5 then pure .format
  else do
    setState .selected
    pure .none

def iso15693_3ListenerResetToReadyHandler : Iso15693_3M Iso15693_3Error := do
  setState .ready
  pure .none

def writeInfoHandler (command : BitVec 8) (locked : Iso15693_3LockBits → Bool)
    (write : Iso15693_3SystemInfo → BitVec 8 → Iso15693_3SystemInfo)
    (request : Iso15693_3RequestData) (flags : BitVec 8) : Iso15693_3M Iso15693_3Error := do
  setWaitForEof flags
  let lockBits ← observe (·.data.lockBits)
  if request.size ≤ 1 then pure .format
  else if locked lockBits then pure .internal
  else do
    let error ← iso15693_3ListenerExtensionHandler command []
    if error ≠ .none then pure error
    else do
      let value ← readRequest request 0
      update fun instanc =>
        { instanc with data := { instanc.data with systemInfo := write instanc.data.systemInfo value } }
      pure .none

def lockInfoHandler (command : BitVec 8) (locked : Iso15693_3LockBits → Bool)
    (lock : Iso15693_3LockBits → Iso15693_3LockBits) (flags : BitVec 8) : Iso15693_3M Iso15693_3Error := do
  setWaitForEof flags
  let lockBits ← observe (·.data.lockBits)
  if locked lockBits then pure .internal
  else do
    let error ← iso15693_3ListenerExtensionHandler command []
    if error ≠ .none then pure error
    else do
      update fun instanc =>
        { instanc with data := { instanc.data with lockBits := lock instanc.data.lockBits } }
      pure .none

def iso15693_3ListenerWriteAfiHandler : Iso15693_3RequestData → BitVec 8 → Iso15693_3M Iso15693_3Error :=
  writeInfoHandler 0x27#8 (·.afi) fun info afi => { info with afi := afi }

def iso15693_3ListenerLockAfiHandler : BitVec 8 → Iso15693_3M Iso15693_3Error :=
  lockInfoHandler 0x28#8 (·.afi) fun lockBits => { lockBits with afi := true }

def iso15693_3ListenerWriteDsfidHandler : Iso15693_3RequestData → BitVec 8 → Iso15693_3M Iso15693_3Error :=
  writeInfoHandler 0x29#8 (·.dsfid) fun info dsfid => { info with dsfid := dsfid }

def iso15693_3ListenerLockDsfidHandler : BitVec 8 → Iso15693_3M Iso15693_3Error :=
  lockInfoHandler 0x2A#8 (·.dsfid) fun lockBits => { lockBits with dsfid := true }

/-- The system information as it is sent: the fields that the flags announce. -/
def systemInfoBytes (info : Iso15693_3SystemInfo) : List (BitVec 8) :=
  (if info.flags.getLsbD 0 then [info.dsfid] else []) ++
  (if info.flags.getLsbD 1 then [info.afi] else []) ++
  (if info.flags.getLsbD 2 then [(info.blockCount - 1).setWidth 8, info.blockSize - 1] else []) ++
  (if info.flags.getLsbD 3 then [info.icRef] else [])

def iso15693_3ListenerGetSystemInfoHandler : Iso15693_3M Iso15693_3Error := do
  let info ← observe (·.data.systemInfo)
  appendBytes [info.flags]
  iso15693_3AppendUid
  appendBytes (systemInfoBytes info)
  pure .none

/-- One round of the loop of `iso15693_3_listener_get_multi_blocks_security_handler`. -/
def appendLock (index : Nat) : Iso15693_3M Unit := do
  let locked ← iso15693_3IsBlockLocked index
  appendBytes [if locked then 1 else 0]

def iso15693_3ListenerGetMultiBlocksSecurityHandler (request : Iso15693_3RequestData) :
    Iso15693_3M Iso15693_3Error := do
  if request.size < 2 then pure .format
  else do
    let firstBlockNum ← readRequest request 0
    let count ← readRequest request 1
    let blockCountMax ← observe (·.data.blockCount)
    let start := firstBlockNum.toNat
    if blockCountMax ≤ start + count.toNat then pure .internal
    else do
      (List.range' start (count.toNat + 1)).forM appendLock
      pure .none

/-! ## Requests -/

def Iso15693_3RequestHandler.run (handler : Iso15693_3RequestHandler) (request : Iso15693_3RequestData)
    (flags : BitVec 8) : Iso15693_3M Iso15693_3Error :=
  match handler with
  | inventory => iso15693_3ListenerInventoryHandler request flags
  | stayQuiet => iso15693_3ListenerStayQuietHandler
  | readBlock => iso15693_3ListenerReadBlockHandler request flags
  | writeBlock => iso15693_3ListenerWriteBlockHandler request flags
  | lockBlock => iso15693_3ListenerLockBlockHandler request flags
  | readMultiBlocks => iso15693_3ListenerReadMultiBlocksHandler request flags
  | writeMultiBlocks => iso15693_3ListenerWriteMultiBlocksHandler request flags
  | select => iso15693_3ListenerSelectHandler flags
  | resetToReady => iso15693_3ListenerResetToReadyHandler
  | writeAfi => iso15693_3ListenerWriteAfiHandler request flags
  | lockAfi => iso15693_3ListenerLockAfiHandler flags
  | writeDsfid => iso15693_3ListenerWriteDsfidHandler request flags
  | lockDsfid => iso15693_3ListenerLockDsfidHandler flags
  | getSystemInfo => iso15693_3ListenerGetSystemInfoHandler
  | getMultiBlocksSecurity => iso15693_3ListenerGetMultiBlocksSecurityHandler request

def mandatoryHandlers : List Iso15693_3RequestHandler := [.inventory, .stayQuiet]

def optionalHandlers : List Iso15693_3RequestHandler :=
  [.readBlock, .writeBlock, .lockBlock, .readMultiBlocks, .writeMultiBlocks, .select, .resetToReady,
    .writeAfi, .lockAfi, .writeDsfid, .lockDsfid, .getSystemInfo, .getMultiBlocksSecurity]

def requestHandler (command : BitVec 8) : Iso15693_3M (Option Iso15693_3RequestHandler) :=
  if command < 0x03#8 then some <$> tableEntry mandatoryHandlers command 0x01#8
  else if 0x20#8 ≤ command ∧ command < 0x2D#8 then some <$> tableEntry optionalHandlers command 0x20#8
  else pure none

def iso15693_3ListenerSendFrame : Iso15693_3M Unit := do
  let txBuffer ← observe (·.txBuffer)
  appendBytes (iso13239CrcBytes txBuffer)
  let frame ← observe (·.txBuffer)
  note (.sent frame)

/-- A response is sent, or kept for the next EOF. -/
def finishResponse (error : Iso15693_3Error) : Iso15693_3M Iso15693_3Error := do
  let response ← observe (·.txBuffer)
  note (.built response)
  if ← observe (·.sessionState.waitForEof) then pure error
  else do
    iso15693_3ListenerSendFrame
    pure .none

/-- The answer to a request that a handler has dealt with. -/
def respond (error : Iso15693_3Error) : Iso15693_3M Iso15693_3Error :=
  let error := if error = .fullyHandled then .none else error
  if error = .format ∨ error = .ignore then pure error
  else if error ≠ .none then do
    resetTxBuffer
    -- `ISO15693_3_RESP_FLAG_ERROR`, `ISO15693_3_RESP_ERROR_UNKNOWN`
    appendBytes [0x01#8, 0x0F#8]
    finishResponse error
  else finishResponse error

def iso15693_3ListenerHandleStandardRequest (request : Iso15693_3RequestData) (command flags : BitVec 8) :
    Iso15693_3M Iso15693_3Error := do
  match ← requestHandler command with
  | none => pure .notSupported
  | some handler => do
    resetTxBuffer
    -- `ISO15693_3_RESP_FLAG_NONE`
    appendBytes [0x00#8]
    note (.called handler)
    let error ← handler.run request flags
    respond error

def iso15693_3ListenerHandleCustomRequest (request : Iso15693_3RequestData) : Iso15693_3M Iso15693_3Error := do
  if request.size < 1 then pure .format
  else do
    let manufacturer ← readRequest request 0
    let data ← observe (·.data)
    if manufacturer ≠ iso15693_3GetManufacturerId data then pure .ignore
    else pure .notSupported

def setAddressing (selected addressed : Bool) : Iso15693_3M Unit :=
  update fun instanc =>
    { instanc with sessionState := { instanc.sessionState with selected := selected, addressed := addressed } }

/-- The first part of `iso15693_3_listener_process_request`: an error, if the
flags of the request do not go with the state of the card. -/
def checkRequestFlags (flags : BitVec 8) : Iso15693_3M (Option Iso15693_3Error) := do
  if !flags.getLsbD 2 then do
    let selected := flags.getLsbD 4
    let addressed := flags.getLsbD 5
    setAddressing selected addressed
    let state ← observe (·.state)
    if selected && addressed then pure (some .unknown)
    else if state = .quiet then
      if addressed then pure (some .ignore) else pure none
    else if state ≠ .selected then
      if selected then pure (some .ignore) else pure none
    else pure none
  else do
    if (← observe (·.state)) = .quiet then pure (some .ignore)
    else do
      setAddressing false false
      pure none

/-- The second part: the command is dealt with, if the request is for this card. -/
def dispatchRequest (rxBuffer : BitBuffer) (flags : BitVec 8) : Iso15693_3M Iso15693_3Error := do
  let size := rxBuffer.sizeBytes
  let command ← readRequest ⟨rxBuffer, 0, size⟩ 1
  if 0xA0#8 ≤ command then iso15693_3ListenerHandleCustomRequest ⟨rxBuffer, 2, size - 2⟩
  else if ← observe (·.sessionState.addressed) then
    if size < 2 + iso15693_3UidSize then pure .format
    else do
      let uid ← readRequestBytes ⟨rxBuffer, 2, size - 2⟩ 0 iso15693_3UidSize
      let data ← observe (·.data)
      if uid ≠ iso15693_3UidBytes data then pure .uidMismatch
      else iso15693_3ListenerHandleStandardRequest ⟨rxBuffer, 10, size - 10⟩ command flags
  else iso15693_3ListenerHandleStandardRequest ⟨rxBuffer, 2, size - 2⟩ command flags

def iso15693_3ListenerProcessRequest (rxBuffer : BitBuffer) : Iso15693_3M Iso15693_3Error := do
  if rxBuffer.sizeBytes < 2 then pure .format
  else do
    let flags ← readRequest ⟨rxBuffer, 0, rxBuffer.sizeBytes⟩ 0
    match ← checkRequestFlags flags with
    | some error => pure error
    | none => dispatchRequest rxBuffer flags

def iso15693_3ListenerProcessSingleEof : Iso15693_3M Iso15693_3Error := do
  if !(← observe (·.sessionState.waitForEof)) then pure .unexpectedResponse
  else do
    update fun instanc => { instanc with sessionState := { instanc.sessionState with waitForEof := false } }
    iso15693_3ListenerSendFrame
    pure .none

def iso15693_3ListenerProcessUidMismatch (rxBuffer : BitBuffer) : Iso15693_3M Iso15693_3Error := do
  let command ← readRequest ⟨rxBuffer, 0, rxBuffer.sizeBytes⟩ 1
  if command = 0x25#8 then
    if (← observe (·.state)) = .selected then setState .ready
  pure .none

inductive Iso15693_3NfcEvent
  | rxEnd (rxBuffer : BitBuffer)
  /-- The other events of the transport. -/
  | other

/-- The listener on an event. The application goes on after its callback. -/
def iso15693_3ListenerRun (event : Iso15693_3NfcEvent) : Iso15693_3M Unit := do
  update fun instanc => { instanc with trace := [] }
  match event with
  | .other => pure ()
  | .rxEnd rxBuffer =>
    if iso13239CrcCheck rxBuffer then do
      let request := iso13239CrcTrim rxBuffer
      let error ← iso15693_3ListenerProcessRequest request
      if error = .notSupported then note .reported
      else if error = .uidMismatch then do
        let _ ← iso15693_3ListenerProcessUidMismatch request
        pure ()
      else pure ()
    else if rxBuffer.sizeBits = 0 then do
      let error ← iso15693_3ListenerProcessSingleEof
      if error = .unexpectedResponse then note .reported else pure ()
    else pure ()

/-- The build without assertions, on memory that is empty outside the card. -/
def releaseBuild : Iso15693_3Surroundings := ⟨false, fun _ => 0, fun _ => 0⟩

def fourBlockCard : Iso15693_3Data where
  uid := #v[0xE0, 0x04, 0x01, 0x00, 0x12, 0x34, 0x56, 0x78]
  systemInfo := ⟨0x0F#8, 0x00#8, 0x00#8, 0x01#8, 4#16, 4#8⟩
  lockBits := ⟨false, false⟩
  blockData := List.replicate 16 0x11#8
  blockSecurity := List.replicate 4 0x00#8

theorem fourBlockCard_fits : fourBlockCard.Fits := ⟨by decide, by decide, by decide, .inr (by decide)⟩

def requestEvent (request : List (BitVec 8)) : Iso15693_3NfcEvent :=
  .rxEnd (.ofBytes (request ++ iso13239CrcBytes request))

end Xtreme.Nfc
