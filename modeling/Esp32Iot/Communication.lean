import Esp32Iot.Mailbox

namespace Esp32Iot.Communication

open Esp32Iot.BlockHeap
open Esp32Iot.Mailbox

def c11nMessageHeaderLength : Nat := 3
def c11nMessageHeaderEndpointIdIndex : Nat := 0
def c11nMessageHeaderMessageIdIndex : Nat := 1
def c11nMessageHeaderMessageTypeIndex : Nat := 2

/-- A data event; `dataPtr` is the memory from `data_ptr` on, of which the first
`dataLen` bytes belong to the event. -/
structure EspWebsocketEventData where
  dataPtr : List UInt8
  dataLen : Int

/-- A `char` read as an `int`; plain `char` is unsigned on this target. -/
def charAt (memory : List UInt8) (i : Nat) : Int := (memory.getD i 0).toNat

namespace EspWebsocketEventData

variable (v : EspWebsocketEventData)

def endpointId : Int := charAt v.dataPtr c11nMessageHeaderEndpointIdIndex
def messageType : Int := charAt v.dataPtr c11nMessageHeaderMessageTypeIndex
def messageId : Int := charAt v.dataPtr c11nMessageHeaderMessageIdIndex
def dataBodyPtr : List UInt8 := v.dataPtr.drop c11nMessageHeaderLength
def dataLength : Int := v.dataLen - c11nMessageHeaderLength

end EspWebsocketEventData

def sendStatus (endpointId messageId status : Int) : List UInt8 :=
  [UInt8.ofInt endpointId, UInt8.ofInt status, UInt8.ofInt messageId]

def sendMessageStatus (p : MsgPtr) (message : XMailboxMessage) (status : Int)
    (s : SharedState) : SharedState :=
  s.log (.answered p.serial status
    (sendStatus message.endpointId message.messageId status))

def freeMessage (p : MsgPtr) (s : SharedState) : SharedState :=
  (s.free p.addr).log (.released p.serial)

def onMessageRecieved (p : MsgPtr) (status : Int) (s : SharedState) :
    Option SharedState := do
  let message ← s.message? p
  some (freeMessage p ((sendMessageStatus p message status s).free message.pData))

/-- `pMessage->onRecieve(pMessage, status)` -/
def callOnRecieve (p : MsgPtr) (status : Int) (s : SharedState) :
    Option SharedState := do
  let message ← s.message? p
  match message.onRecieve with
  | .onMessageRecieved => onMessageRecieved p status s
  | .wild => none

def mallocMessage (r : Option Nat) (s : SharedState) : Option MsgPtr × SharedState :=
  match r with
  | some a =>
      let p : MsgPtr := ⟨a, s.frames.length - 1⟩
      (some p, { s with heap := s.heap.alloc a p.serial (.record none) })
  | none => (none, s)

/-- The copy belongs to the message with the given serial; its `malloc` returns `r`. -/
def clone (dataPointer : List UInt8) (length : Int) (serial : Nat) (r : Option Nat)
    (s : SharedState) : Option Nat × SharedState :=
  match r with
  | some str =>
      (some str, { s with
        heap := s.heap.alloc str serial (.body (dataPointer.take length.toNat)) })
  | none => (none, s)

def messageOf (data : EspWebsocketEventData) (pData : Nat) : XMailboxMessage where
  onRecieve := .onMessageRecieved
  pData := pData
  length := data.dataLength
  messageId := data.messageId
  messageType := data.messageType
  endpointId := data.endpointId

def setFields (data : EspWebsocketEventData) (p : MsgPtr) (pData : Nat)
    (s : SharedState) : SharedState :=
  { s with heap := s.heap.write p.addr (.record (some (messageOf data pData))) }

def parseMessage (data : EspWebsocketEventData) (r₁ r₂ : Option Nat)
    (s : SharedState) : Option MsgPtr × SharedState :=
  match mallocMessage r₁ s with
  | (none, s) => (none, s)
  | (some pMessage, s) =>
      match clone data.dataBodyPtr data.dataLength pMessage.serial r₂ s with
      | (none, s) => (some pMessage, s)
      | (some pData, s) => (some pMessage, setFields data pMessage pData s)

def refuseMessage (data : EspWebsocketEventData) (s : SharedState) : SharedState :=
  s.log (.refused (sendStatus data.endpointId data.messageId errNotEnoughMemory))

/-- `xQueueSend(xMailboxIncomingQueue, &pMessage, 0)`, whose result is not looked at. -/
def sendMessage (p : MsgPtr) (s : SharedState) : SharedState :=
  match xQueueSend s.xMailboxIncomingQueue p with
  | (true, queue) => { s with xMailboxIncomingQueue := queue }.log (.sent p.serial)
  | (false, queue) => { s with xMailboxIncomingQueue := queue }.log (.sendFailed p.serial)

def receivePending (s : SharedState) : Option (MsgPtr × SharedState) :=
  match xQueueReceive s.xMailboxIncomingQueue with
  | (some prevMessage, queue) =>
      some (prevMessage,
        { s with xMailboxIncomingQueue := queue }.log (.displaced prevMessage.serial))
  | (none, _) => none

def sendDataToMailboxIncoming (data : EspWebsocketEventData) (r₁ r₂ : Option Nat)
    (s : SharedState) : Option SharedState :=
  match parseMessage data r₁ r₂ s with
  | (none, s) => some (refuseMessage data s)
  | (some pMessage, s) =>
      if uxQueueMessagesWaiting s.xMailboxIncomingQueue ≠ 0 then
        match receivePending s with
        | some (prevMessage, s) =>
            (callOnRecieve prevMessage errNotRecieved s).map (sendMessage pMessage)
        | none => some (sendMessage pMessage s.resetQueue)
      else some (sendMessage pMessage s)

/-- A read of the transport overwrites the start of `rx_buffer`. -/
def readFrame (bytes : List UInt8) (s : SharedState) : SharedState :=
  { s with
    rxBuffer := bytes ++ s.rxBuffer.drop bytes.length
    frames := s.frames ++ [bytes] }

def dataEvent (s : SharedState) (len : Int) : EspWebsocketEventData := ⟨s.rxBuffer, len⟩

def receiveData (bytes : List UInt8) (r₁ r₂ : Option Nat) (s : SharedState) :
    Option SharedState :=
  let s := readFrame bytes s
  sendDataToMailboxIncoming (dataEvent s bytes.length) r₁ r₂ s

end Esp32Iot.Communication
