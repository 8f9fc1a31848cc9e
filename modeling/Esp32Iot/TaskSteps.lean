import Mathlib.Logic.Function.Basic
import Esp32Iot.GpioEndpoint
import Esp32Iot.GuardedRun

namespace Esp32Iot.TaskSteps

open Esp32Iot.BlockHeap
open Esp32Iot.Mailbox
open Esp32Iot.Communication
open Esp32Iot.GuardedRun

/-- What the environment supplies to one step: the result of `malloc`, and what
undefined reads of a message record and of a message body find. -/
structure Env where
  malloc : Option Nat
  stale : XMailboxMessage
  staleData : List UInt8

inductive CallBackPc
  | reply
  | freeData
  | freeMessage
  deriving DecidableEq, Repr

/-- Program points of the websocket task; `p` is the message just parsed. -/
inductive WebsocketPc
  | idle
  | mallocMessage (len : Int)
  | clone (len : Int) (p : MsgPtr)
  | setFields (len : Int) (p : MsgPtr) (pData : Nat)
  | refuse (len : Int)
  | testWaiting (p : MsgPtr)
  | receive (p : MsgPtr)
  | callBack (p prevMessage : MsgPtr) (pc : CallBackPc)
  | reset (p : MsgPtr)
  | send (p : MsgPtr)
  | crashed
  deriving DecidableEq, Repr

inductive EndpointPc
  | idle
  | peek
  | compare (p : MsgPtr)
  | reset (p : MsgPtr)
  | handle (p : MsgPtr)
  | callBack (p : MsgPtr) (status : Int) (pc : CallBackPc)
  | crashed
  deriving DecidableEq, Repr

def readMessage (s : SharedState) (env : Env) (p : MsgPtr) : XMailboxMessage :=
  (s.message? p).getD env.stale

def readBody (s : SharedState) (env : Env) (pData : Nat) : List UInt8 :=
  (s.body? pData).getD env.staleData

/-- One step inside `onRecieve`; `none` means that the call has returned, and a
jump through an unset function pointer ends the task. -/
def callBackStep (s : SharedState) (env : Env) (p : MsgPtr) (status : Int) :
    CallBackPc → Option (SharedState × Option CallBackPc)
  | .reply =>
      match (readMessage s env p).onRecieve with
      | .onMessageRecieved =>
          some (sendMessageStatus p (readMessage s env p) status s, some .freeData)
      | .wild => none
  | .freeData => some (s.free (readMessage s env p).pData, some .freeMessage)
  | .freeMessage => some (freeMessage p s, none)

/-- `sizeof(xMailboxMessage)`: six words. -/
def sizeofXMailboxMessage : Int := 24

def websocketStep (s : SharedState) (env : Env) :
    WebsocketPc → Option (SharedState × WebsocketPc)
  | .idle => none
  | .mallocMessage len =>
      if s.heap.MallocAllows sizeofXMailboxMessage env.malloc then
        match mallocMessage env.malloc s with
        | (some p, s') => some (s', .clone len p)
        | (none, s') => some (s', .refuse len)
      else none
  | .clone len p =>
      if s.heap.MallocAllows (dataEvent s len).dataLength env.malloc then
        match clone (dataEvent s len).dataBodyPtr (dataEvent s len).dataLength
            p.serial env.malloc s with
        | (some pData, s') => some (s', .setFields len p pData)
        | (none, s') => some (s', .testWaiting p)
      else none
  | .setFields len p pData =>
      some (setFields (dataEvent s len) p pData s, .testWaiting p)
  | .refuse len => some (refuseMessage (dataEvent s len) s, .idle)
  | .testWaiting p =>
      if uxQueueMessagesWaiting s.xMailboxIncomingQueue ≠ 0 then some (s, .receive p)
      else some (s, .send p)
  | .receive p =>
      match receivePending s with
      | some (prevMessage, s') => some (s', .callBack p prevMessage .reply)
      | none => some (s, .reset p)
  | .callBack p prevMessage pc =>
      match callBackStep s env prevMessage errNotRecieved pc with
      | some (s', some pc') => some (s', .callBack p prevMessage pc')
      | some (s', none) => some (s', .send p)
      | none => some (s, .crashed)
  | .reset p => some (s.resetQueue, .send p)
  | .send p => some (sendMessage p s, .idle)
  | .crashed => none

def endpointStep (endpointId : Int) (handler : XMailboxMessage → List UInt8 → HandlerRun)
    (s : SharedState) (env : Env) : EndpointPc → Option (SharedState × EndpointPc)
  | .idle =>
      if uxQueueMessagesWaiting s.xMailboxIncomingQueue ≠ 0 then some (s, .peek)
      else some (s, .idle)
  | .peek =>
      match xQueuePeek s.xMailboxIncomingQueue with
      | some p => some (s, .compare p)
      | none => some (s, .idle)
  | .compare p =>
      if (readMessage s env p).endpointId = endpointId then some (s, .reset p)
      else some (s, .idle)
  | .reset p => some (s.resetQueue, .handle p)
  | .handle p =>
      let message := readMessage s env p
      let pData := readBody s env message.pData
      let run := handler message pData
      some (s.log (.handled endpointId p.serial message pData run.calls),
        .callBack p run.status .reply)
  | .callBack p status pc =>
      match callBackStep s env p status pc with
      | some (s', some pc') => some (s', .callBack p status pc')
      | some (s', none) => some (s', .idle)
      | none => some (s, .crashed)
  | .crashed => none

/-- The endpoint tasks of a firmware; no two of them serve the same endpoint. -/
structure Endpoints (ι : Type*) where
  endpointId : ι → Int
  distinct : Function.Injective endpointId
  handler : ι → XMailboxMessage → List UInt8 → HandlerRun

structure State (ι : Type*) where
  shared : SharedState
  websocket : WebsocketPc
  endpoint : ι → EndpointPc

inductive Action (ι : Type*)
  | frame (bytes : List UInt8)
  | websocket (env : Env)
  | endpoint (t : ι) (env : Env)

variable {ι : Type*} [DecidableEq ι]

def start (rxBuffer : List UInt8) : State ι where
  shared := vMailboxInit rxBuffer
  websocket := .idle
  endpoint := fun _ => .idle

/-- The next frame is read only after the previous data event has been handled. -/
def step (cfg : Endpoints ι) (s : State ι) : Action ι → Option (State ι)
  | .frame bytes =>
      if s.websocket = .idle then
        some { s with
          shared := readFrame bytes s.shared
          websocket := .mallocMessage bytes.length }
      else none
  | .websocket env =>
      (websocketStep s.shared env s.websocket).map fun r =>
        { s with shared := r.1, websocket := r.2 }
  | .endpoint t env =>
      (endpointStep (cfg.endpointId t) (cfg.handler t) s.shared env (s.endpoint t)).map
        fun r => { s with shared := r.1, endpoint := Function.update s.endpoint t r.2 }

/-- The firmware as it stands: the GPIO endpoint is its only endpoint task. -/
def gpioEndpoints : Endpoints Unit where
  endpointId _ := GpioEndpoint.gpioEndpointId
  distinct _ _ _ := rfl
  handler _ := GpioEndpoint.vMessageHandler

/-- Steps of the websocket task, with the results of `malloc`; undefined reads
find zeros. -/
def websocketSteps (results : List (Option Nat)) : List (Action ι) :=
  results.map fun r => .websocket ⟨r, ⟨.wild, 0, 0, 0, 0, 0⟩, []⟩

def endpointSteps (t : ι) (n : Nat) : List (Action ι) :=
  List.replicate n (.endpoint t ⟨none, ⟨.wild, 0, 0, 0, 0, 0⟩, []⟩)

/-- A frame is received, parsed into blocks `a` and `b`, and, the slot being
free, put in the queue. -/
def storeFrame (bytes : List UInt8) (a b : Nat) : List (Action ι) :=
  .frame bytes :: websocketSteps [some a, some b, none, none, none]

def displaceFrame (bytes : List UInt8) (a b : Nat) : List (Action ι) :=
  .frame bytes :: websocketSteps
    [some a, some b, none, none, none, none, none, none, none]

inductive CallBackMove (s : SharedState) (env : Env) (p : MsgPtr) (status : Int) :
    CallBackPc → SharedState → Option CallBackPc → Prop
  | reply (known : (readMessage s env p).onRecieve = .onMessageRecieved) :
      CallBackMove s env p status .reply
        (sendMessageStatus p (readMessage s env p) status s) (some .freeData)
  | freeData : CallBackMove s env p status .freeData
      (s.free (readMessage s env p).pData) (some .freeMessage)
  | freeMessage : CallBackMove s env p status .freeMessage (freeMessage p s) none

theorem callBackStep_move {s s' : SharedState} {env : Env} {p : MsgPtr} {status : Int}
    {pc : CallBackPc} {next : Option CallBackPc}
    (h : callBackStep s env p status pc = some (s', next)) :
    CallBackMove s env p status pc s' next := by
  cases pc with
  | reply =>
      simp only [callBackStep] at h
      split at h
      · rename_i hknown
        cases h
        exact .reply hknown
      · cases h
  | freeData =>
      cases h
      exact .freeData
  | freeMessage =>
      cases h
      exact .freeMessage

inductive WebsocketMove (s : SharedState) (env : Env) :
    WebsocketPc → SharedState → WebsocketPc → Prop
  | allocated (len : Int) (a : Nat) (unused : s.heap.isLive a = false)
      (given : env.malloc = some a) :
      WebsocketMove s env (.mallocMessage len)
        { s with heap := s.heap.alloc a (s.frames.length - 1) (.record none) }
        (.clone len ⟨a, s.frames.length - 1⟩)
  | notAllocated (len : Int) (given : env.malloc = none) :
      WebsocketMove s env (.mallocMessage len) s (.refuse len)
  | cloned (len : Int) (p : MsgPtr) (str : Nat) (unused : s.heap.isLive str = false)
      (given : env.malloc = some str) (positive : 0 < (dataEvent s len).dataLength) :
      WebsocketMove s env (.clone len p)
        { s with heap := s.heap.alloc str p.serial (.body
            ((dataEvent s len).dataBodyPtr.take (dataEvent s len).dataLength.toNat)) }
        (.setFields len p str)
  | notCloned (len : Int) (p : MsgPtr) (given : env.malloc = none) :
      WebsocketMove s env (.clone len p) s (.testWaiting p)
  | setFields (len : Int) (p : MsgPtr) (pData : Nat) :
      WebsocketMove s env (.setFields len p pData)
        (setFields (dataEvent s len) p pData s) (.testWaiting p)
  | refuse (len : Int) :
      WebsocketMove s env (.refuse len) (refuseMessage (dataEvent s len) s) .idle
  | waiting (p q : MsgPtr) (full : s.xMailboxIncomingQueue = some q) :
      WebsocketMove s env (.testWaiting p) s (.receive p)
  | notWaiting (p : MsgPtr) (empty : s.xMailboxIncomingQueue = none) :
      WebsocketMove s env (.testWaiting p) s (.send p)
  | received (p prevMessage : MsgPtr) (full : s.xMailboxIncomingQueue = some prevMessage) :
      WebsocketMove s env (.receive p)
        ({ s with xMailboxIncomingQueue := none }.log (.displaced prevMessage.serial))
        (.callBack p prevMessage .reply)
  | notReceived (p : MsgPtr) (empty : s.xMailboxIncomingQueue = none) :
      WebsocketMove s env (.receive p) s (.reset p)
  | inCallBack (p prevMessage : MsgPtr) (pc pc' : CallBackPc) (s' : SharedState)
      (move : CallBackMove s env prevMessage errNotRecieved pc s' (some pc')) :
      WebsocketMove s env (.callBack p prevMessage pc) s' (.callBack p prevMessage pc')
  | calledBack (p prevMessage : MsgPtr) (pc : CallBackPc) (s' : SharedState)
      (move : CallBackMove s env prevMessage errNotRecieved pc s' none) :
      WebsocketMove s env (.callBack p prevMessage pc) s' (.send p)
  | jumped (p prevMessage : MsgPtr)
      (wild : (readMessage s env prevMessage).onRecieve = .wild) :
      WebsocketMove s env (.callBack p prevMessage .reply) s .crashed
  | reset (p : MsgPtr) : WebsocketMove s env (.reset p) s.resetQueue (.send p)
  | sent (p : MsgPtr) (empty : s.xMailboxIncomingQueue = none) :
      WebsocketMove s env (.send p)
        ({ s with xMailboxIncomingQueue := some p }.log (.sent p.serial)) .idle
  | notSent (p q : MsgPtr) (full : s.xMailboxIncomingQueue = some q) :
      WebsocketMove s env (.send p) (s.log (.sendFailed p.serial)) .idle

theorem callBackStep_eq_none {s : SharedState} {env : Env} {p : MsgPtr} {status : Int}
    {pc : CallBackPc} (h : callBackStep s env p status pc = none) :
    pc = .reply ∧ (readMessage s env p).onRecieve = .wild := by
  cases pc with
  | reply =>
      simp only [callBackStep] at h
      split at h
      · cases h
      · rename_i hwild
        exact ⟨rfl, hwild⟩
  | freeData => cases h
  | freeMessage => cases h

theorem websocketStep_move {s s' : SharedState} {env : Env} {pc pc' : WebsocketPc}
    (h : websocketStep s env pc = some (s', pc')) : WebsocketMove s env pc s' pc' := by
  cases pc with
  | idle => cases h
  | crashed => cases h
  | mallocMessage len =>
      simp only [websocketStep] at h
      split at h
      · rename_i hallowed
        cases hm : env.malloc with
        | none =>
            simp only [hm, mallocMessage, Option.some.injEq, Prod.mk.injEq] at h
            obtain ⟨rfl, rfl⟩ := h
            exact .notAllocated len hm
        | some a =>
            simp only [hm, mallocMessage, Option.some.injEq, Prod.mk.injEq] at h
            obtain ⟨rfl, rfl⟩ := h
            rw [hm] at hallowed
            exact .allocated len a hallowed.2 hm
      · cases h
  | clone len p =>
      simp only [websocketStep] at h
      split at h
      · rename_i hallowed
        cases hm : env.malloc with
        | none =>
            simp only [hm, clone, Option.some.injEq, Prod.mk.injEq] at h
            obtain ⟨rfl, rfl⟩ := h
            exact .notCloned len p hm
        | some str =>
            simp only [hm, clone, Option.some.injEq, Prod.mk.injEq] at h
            obtain ⟨rfl, rfl⟩ := h
            rw [hm] at hallowed
            exact .cloned len p str hallowed.2 hm hallowed.1
      · cases h
  | setFields len p pData =>
      cases h
      exact .setFields len p pData
  | refuse len =>
      cases h
      exact .refuse len
  | testWaiting p =>
      cases hq : s.xMailboxIncomingQueue with
      | none =>
          simp only [websocketStep, hq, uxQueueMessagesWaiting] at h
          cases h
          exact .notWaiting p hq
      | some q =>
          simp only [websocketStep, hq, uxQueueMessagesWaiting] at h
          cases h
          exact .waiting p q hq
  | receive p =>
      cases hq : s.xMailboxIncomingQueue with
      | none =>
          simp only [websocketStep, receivePending, xQueueReceive, hq] at h
          cases h
          exact .notReceived p hq
      | some q =>
          simp only [websocketStep, receivePending, xQueueReceive, hq] at h
          cases h
          exact .received p q hq
  | callBack p prevMessage pc =>
      simp only [websocketStep] at h
      split at h
      · rename_i hcall
        cases h
        exact .inCallBack p prevMessage pc _ _ (callBackStep_move hcall)
      · rename_i hcall
        cases h
        exact .calledBack p prevMessage pc _ (callBackStep_move hcall)
      · rename_i hcall
        cases h
        obtain ⟨rfl, hwild⟩ := callBackStep_eq_none hcall
        exact .jumped p prevMessage hwild
  | reset p =>
      cases h
      exact .reset p
  | send p =>
      cases hq : s.xMailboxIncomingQueue with
      | none =>
          simp only [websocketStep, sendMessage, xQueueSend, hq] at h
          cases h
          exact .sent p hq
      | some q =>
          have hsame : { s with xMailboxIncomingQueue := some q } = s := by
            rw [← hq]
          simp only [websocketStep, sendMessage, xQueueSend, hq, hsame] at h
          cases h
          exact .notSent p q hq

inductive EndpointMove (endpointId : Int)
    (handler : XMailboxMessage → List UInt8 → HandlerRun) (s : SharedState) (env : Env) :
    EndpointPc → SharedState → EndpointPc → Prop
  | waiting (q : MsgPtr) (full : s.xMailboxIncomingQueue = some q) :
      EndpointMove endpointId handler s env .idle s .peek
  | notWaiting (empty : s.xMailboxIncomingQueue = none) :
      EndpointMove endpointId handler s env .idle s .idle
  | peeked (p : MsgPtr) (full : s.xMailboxIncomingQueue = some p) :
      EndpointMove endpointId handler s env .peek s (.compare p)
  | notPeeked (empty : s.xMailboxIncomingQueue = none) :
      EndpointMove endpointId handler s env .peek s .idle
  | mine (p : MsgPtr) (same : (readMessage s env p).endpointId = endpointId) :
      EndpointMove endpointId handler s env (.compare p) s (.reset p)
  | notMine (p : MsgPtr) (other : (readMessage s env p).endpointId ≠ endpointId) :
      EndpointMove endpointId handler s env (.compare p) s .idle
  | reset (p : MsgPtr) :
      EndpointMove endpointId handler s env (.reset p) s.resetQueue (.handle p)
  | handled (p : MsgPtr) (message : XMailboxMessage) (pData : List UInt8)
      (readsMessage : message = readMessage s env p)
      (readsBody : pData = readBody s env message.pData) :
      EndpointMove endpointId handler s env (.handle p)
        (s.log (.handled endpointId p.serial message pData (handler message pData).calls))
        (.callBack p (handler message pData).status .reply)
  | inCallBack (p : MsgPtr) (status : Int) (pc pc' : CallBackPc) (s' : SharedState)
      (move : CallBackMove s env p status pc s' (some pc')) :
      EndpointMove endpointId handler s env (.callBack p status pc) s'
        (.callBack p status pc')
  | calledBack (p : MsgPtr) (status : Int) (pc : CallBackPc) (s' : SharedState)
      (move : CallBackMove s env p status pc s' none) :
      EndpointMove endpointId handler s env (.callBack p status pc) s' .idle
  | jumped (p : MsgPtr) (status : Int)
      (wild : (readMessage s env p).onRecieve = .wild) :
      EndpointMove endpointId handler s env (.callBack p status .reply) s .crashed

theorem endpointStep_move {endpointId : Int}
    {handler : XMailboxMessage → List UInt8 → HandlerRun} {s s' : SharedState} {env : Env}
    {pc pc' : EndpointPc} (h : endpointStep endpointId handler s env pc = some (s', pc')) :
    EndpointMove endpointId handler s env pc s' pc' := by
  cases pc with
  | crashed => cases h
  | idle =>
      cases hq : s.xMailboxIncomingQueue with
      | none =>
          simp only [endpointStep, hq, uxQueueMessagesWaiting] at h
          cases h
          exact .notWaiting hq
      | some q =>
          simp only [endpointStep, hq, uxQueueMessagesWaiting] at h
          cases h
          exact .waiting q hq
  | peek =>
      cases hq : s.xMailboxIncomingQueue with
      | none =>
          simp only [endpointStep, hq, xQueuePeek] at h
          cases h
          exact .notPeeked hq
      | some q =>
          simp only [endpointStep, hq, xQueuePeek] at h
          cases h
          exact .peeked q hq
  | compare p =>
      simp only [endpointStep] at h
      split at h
      · rename_i hsame
        cases h
        exact .mine p hsame
      · rename_i hother
        cases h
        exact .notMine p hother
  | reset p =>
      cases h
      exact .reset p
  | handle p =>
      cases h
      exact .handled p _ _ rfl rfl
  | callBack p status pc =>
      simp only [endpointStep] at h
      split at h
      · rename_i hcall
        cases h
        exact .inCallBack p status pc _ _ (callBackStep_move hcall)
      · rename_i hcall
        cases h
        exact .calledBack p status pc _ (callBackStep_move hcall)
      · rename_i hcall
        cases h
        obtain ⟨rfl, hwild⟩ := callBackStep_eq_none hcall
        exact .jumped p status hwild

/-- A step of the whole system is the arrival of a frame or a move of one task. -/
theorem step_cases {cfg : Endpoints ι} {s s' : State ι} {a : Action ι}
    (h : step cfg s a = some s') :
    (∃ bytes, a = .frame bytes ∧ s.websocket = .idle ∧
      s' = { s with
        shared := readFrame bytes s.shared
        websocket := .mallocMessage bytes.length }) ∨
    (∃ env shared pc, a = .websocket env ∧
      WebsocketMove s.shared env s.websocket shared pc ∧
      s' = { s with shared := shared, websocket := pc }) ∨
    (∃ t env shared pc, a = .endpoint t env ∧
      EndpointMove (cfg.endpointId t) (cfg.handler t) s.shared env (s.endpoint t) shared pc ∧
      s' = { s with shared := shared, endpoint := Function.update s.endpoint t pc }) := by
  cases a with
  | frame bytes =>
      simp only [step] at h
      split at h
      · rename_i hidle
        cases h
        exact .inl ⟨bytes, rfl, hidle, rfl⟩
      · cases h
  | websocket env =>
      obtain ⟨⟨shared, pc⟩, hstep, rfl⟩ := Option.map_eq_some_iff.mp h
      exact .inr (.inl ⟨env, shared, pc, rfl, websocketStep_move hstep, rfl⟩)
  | endpoint t env =>
      obtain ⟨⟨shared, pc⟩, hstep, rfl⟩ := Option.map_eq_some_iff.mp h
      exact .inr (.inr ⟨t, env, shared, pc, rfl, endpointStep_move hstep, rfl⟩)

end Esp32Iot.TaskSteps
