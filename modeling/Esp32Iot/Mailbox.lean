import Mathlib.Data.List.Basic
import Esp32Iot.BlockHeap
import Esp32Iot.GpioDriver

namespace Esp32Iot.Mailbox

open Esp32Iot.BlockHeap
open Esp32Iot.GpioDriver

def msgOk : Int := 0
def errNotEnoughMemory : Int := 1
def errNotRecieved : Int := 2
def errUnsuportedMessageType : Int := 3

/-- The value of the function pointer `onRecieve`: the one callback the program
installs, or whatever an unset field holds. -/
inductive XMailboxOnRecieve
  | onMessageRecieved
  | wild
  deriving DecidableEq, Repr

structure XMailboxMessage where
  onRecieve : XMailboxOnRecieve
  pData : Nat
  length : Int
  messageId : Int
  messageType : Int
  endpointId : Int
  deriving DecidableEq, Repr

/-- The content of a heap block: a message record, whose fields are unset until
`parseMessage` writes them all, or a copied message body. -/
inductive Cell
  | record (fields : Option XMailboxMessage)
  | body (data : List UInt8)
  deriving DecidableEq, Repr

/-- A pointer to a message record. The serial is ghost: the number of the frame
the record was allocated for. The code only sees the address. -/
structure MsgPtr where
  addr : Nat
  serial : Nat
  deriving DecidableEq, Repr

/-- What a message handler does: its calls of the GPIO driver, and the status it
passes to `onRecieve` at the end. -/
structure HandlerRun where
  calls : List GpioCall
  status : Int
  deriving DecidableEq, Repr

/-- Observable and ghost events, in the order they happen. -/
inductive Event
  | sent (serial : Nat)
  | sendFailed (serial : Nat)
  | displaced (serial : Nat)
  | handled (endpointId : Int) (serial : Nat) (message : XMailboxMessage)
      (data : List UInt8) (calls : List GpioCall)
  | answered (serial : Nat) (status : Int) (reply : List UInt8)
  | refused (reply : List UInt8)
  | released (serial : Nat)
  deriving DecidableEq, Repr

/-- What the tasks share. `frames` and `trace` are ghost: every frame that has
arrived, and every event so far. -/
structure SharedState where
  heap : Heap Cell
  xMailboxIncomingQueue : Option MsgPtr
  rxBuffer : List UInt8
  frames : List (List UInt8)
  trace : List Event

/-- The state `vMailboxInit` leaves: an empty queue, nothing allocated for a
message, and a receive buffer with any content. -/
def vMailboxInit (rxBuffer : List UInt8) : SharedState where
  heap := Heap.empty
  xMailboxIncomingQueue := none
  rxBuffer := rxBuffer
  frames := []
  trace := []

section Queue

variable {α : Type*}

/-! The queue has one slot, and every call on it has a timeout of zero. -/

def uxQueueMessagesWaiting (queue : Option α) : Nat := if queue.isSome then 1 else 0

def xQueuePeek (queue : Option α) : Option α := queue

def xQueueReceive (queue : Option α) : Option α × Option α := (queue, none)

def xQueueReset (_ : Option α) : Option α := none

/-- The flag is `pdTRUE` exactly when the item has been stored. -/
def xQueueSend (queue : Option α) (item : α) : Bool × Option α :=
  match queue with
  | none => (true, some item)
  | some old => (false, some old)

@[simp] theorem uxQueueMessagesWaiting_eq_zero (queue : Option α) :
    uxQueueMessagesWaiting queue = 0 ↔ queue = none := by
  cases queue <;> simp [uxQueueMessagesWaiting]

end Queue

namespace SharedState

def log (s : SharedState) (e : Event) : SharedState := { s with trace := s.trace ++ [e] }

def message? (s : SharedState) (p : MsgPtr) : Option XMailboxMessage :=
  match s.heap.load p.addr with
  | some (.record fields) => fields
  | _ => none

def body? (s : SharedState) (pData : Nat) : Option (List UInt8) :=
  match s.heap.load pData with
  | some (.body data) => some data
  | _ => none

theorem message_of_holds {s : SharedState} {p : MsgPtr} {tag : Nat}
    {fields : Option XMailboxMessage} (h : s.heap.Holds p.addr tag (.record fields)) :
    s.message? p = fields := by
  rw [message?, h.load]

theorem body_of_holds {s : SharedState} {pData tag : Nat} {data : List UInt8}
    (h : s.heap.Holds pData tag (.body data)) : s.body? pData = some data := by
  rw [body?, h.load]

def free (s : SharedState) (a : Nat) : SharedState := { s with heap := s.heap.free a }

def resetQueue (s : SharedState) : SharedState :=
  { s with xMailboxIncomingQueue := xQueueReset s.xMailboxIncomingQueue }

end SharedState

/-- A handler runs on a message pointer; it fails where it would read or jump
through memory that holds no message. -/
abbrev XMailboxMsgHandler := MsgPtr → SharedState → Option SharedState

def vMailboxRecieve (endpointId : Int) (vMailboxMsgHandler : XMailboxMsgHandler)
    (s : SharedState) : Option SharedState :=
  if uxQueueMessagesWaiting s.xMailboxIncomingQueue ≠ 0 then
    match xQueuePeek s.xMailboxIncomingQueue with
    | some pMessage => do
        let message ← s.message? pMessage
        if message.endpointId = endpointId then vMailboxMsgHandler pMessage s.resetQueue
        else some s
    | none => some s
  else some s

end Esp32Iot.Mailbox
