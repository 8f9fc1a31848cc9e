import Esp32Iot.LatestWins
import Esp32Iot.MessageMemory

namespace Esp32Iot.AtomicCalls

open Esp32Iot.BlockHeap
open Esp32Iot.GpioDriver
open Esp32Iot.Mailbox
open Esp32Iot.Communication
open Esp32Iot.GpioEndpoint
open Esp32Iot.GuardedRun
open Esp32Iot.FrameMessages
open Esp32Iot.MessageMemory
open Esp32Iot.LatestWins

inductive Call
  | frame (bytes : List UInt8) (a b : Nat)
  | poll

def atomicStep (s : SharedState) : Call → Option SharedState
  | .frame bytes a b => receiveData bytes (some a) (some b) s
  | .poll => vEndpointTaskGPIO s

/-- The frame has a body, and `malloc` returns two blocks that are not in use. -/
def Allocates (s : SharedState) : Call → Prop
  | .frame bytes a b =>
      FrameComplete bytes ∧ s.heap.isLive a = false ∧ s.heap.isLive b = false ∧ a ≠ b
  | .poll => True

instance (s : SharedState) : (c : Call) → Decidable (Allocates s c)
  | .frame _ _ _ => inferInstanceAs (Decidable (_ ∧ _))
  | .poll => inferInstanceAs (Decidable True)

section Reference

/-! What the protocol says about a frame, read off its bytes. -/

variable (frame : List UInt8)

def ownFrame : Bool := decide (frame.getD 0 0 = 1)

def typeByte : UInt8 := frame.getD 2 0

def pinByte : Int := (frame.getD 3 0).toNat

def commandStatus : Int :=
  if typeByte frame ∈ [1, 2, 3, 5] then msgOk else errUnsuportedMessageType

def commandCalls : List GpioCall :=
  if typeByte frame = 2 then
    [.resetPin (pinByte frame), .padSelectGpio (pinByte frame),
      .setDirection (pinByte frame) .output, .setLevel (pinByte frame) 1]
  else if typeByte frame = 3 then
    [.resetPin (pinByte frame), .padSelectGpio (pinByte frame),
      .setDirection (pinByte frame) .output, .setLevel (pinByte frame) 0]
  else []

def replyTo (status : Int) : List UInt8 := [frame.getD 0 0, UInt8.ofInt status, frame.getD 1 0]

structure Verdict where
  status : Int
  reply : List UInt8
  calls : Option (List GpioCall)

def executed : Verdict :=
  ⟨commandStatus frame, replyTo frame (commandStatus frame), some (commandCalls frame)⟩

def notRecieved : Verdict := ⟨errNotRecieved, replyTo frame errNotRecieved, none⟩

end Reference

def answer : Event → Option (Nat × Int × List UInt8)
  | .answered serial status reply => some (serial, status, reply)
  | _ => none

def command : Event → Option (Nat × List GpioCall)
  | .handled _ serial _ _ calls => some (serial, calls)
  | _ => none

def answers (s : SharedState) : List (Nat × Int × List UInt8) := s.trace.filterMap answer

def commands (s : SharedState) : List (Nat × List GpioCall) := s.trace.filterMap command

section Bytes

theorem ofInt_charAt (memory : List UInt8) (i : Nat) :
    UInt8.ofInt (charAt memory i) = memory.getD i 0 := by
  apply UInt8.toNat.inj
  have hlt := (memory.getD i 0).toNat_lt
  simp only [charAt, UInt8.ofInt, UInt8.toNat_ofNat']
  omega

theorem charAt_eq_iff {memory : List UInt8} {i n : Nat} (hn : n < 256) :
    charAt memory i = n ↔ memory.getD i 0 = UInt8.ofNat n := by
  rw [charAt, Int.natCast_inj, ← UInt8.toNat_inj]
  simp [Nat.mod_eq_of_lt hn]

theorem sendStatus_frameMessage (frame : List UInt8) (pData : Nat) (status : Int) :
    sendStatus (frameEndpointId frame) (frameMessage frame pData).messageId status =
      replyTo frame status := by
  change [UInt8.ofInt (charAt frame 0), UInt8.ofInt status, UInt8.ofInt (charAt frame 1)] = _
  rw [ofInt_charAt, ofInt_charAt]
  rfl

theorem ownFrame_iff (frame : List UInt8) :
    ownFrame frame = true ↔ frameEndpointId frame = gpioEndpointId := by
  have hbyte : charAt frame 0 = (1 : Nat) ↔ frame.getD 0 0 = UInt8.ofNat 1 :=
    charAt_eq_iff (by omega)
  simp only [ownFrame, decide_eq_true_eq]
  exact hbyte.symm

/-- The GPIO endpoint does with a message what its frame says. -/
theorem vMessageHandler_frame {frame : List UInt8} (pData : Nat) :
    vMessageHandler (frameMessage frame pData) (frameBody frame) =
      ⟨commandCalls frame, commandStatus frame⟩ := by
  have htype : ∀ n : Nat, n < 256 →
      ((frameMessage frame pData).messageType = n ↔ typeByte frame = UInt8.ofNat n) :=
    fun n hn => charAt_eq_iff hn
  have hpin : gpioNumber (frameBody frame) = pinByte frame := by
    simp [gpioNumber, gpioNumberIndex, charAt, frameBody, pinByte, c11nMessageHeaderLength]
  have hinput : (frameMessage frame pData).messageType = gpioSetInput ↔ typeByte frame = 1 :=
    htype 1 (by omega)
  have hhigh : (frameMessage frame pData).messageType = gpioSetHigh ↔ typeByte frame = 2 :=
    htype 2 (by omega)
  have hlow : (frameMessage frame pData).messageType = gpioSetLow ↔ typeByte frame = 3 :=
    htype 3 (by omega)
  have hreset : (frameMessage frame pData).messageType = gpioReset ↔ typeByte frame = 5 :=
    htype 5 (by omega)
  simp only [vMessageHandler, hinput, hhigh, hlow, hreset, hpin, commandCalls, commandStatus,
    List.mem_cons, List.not_mem_nil, or_false]
  by_cases h1 : typeByte frame = 1
  · simp [h1]
  · by_cases h2 : typeByte frame = 2
    · simp [h2, writeLevel]
    · by_cases h3 : typeByte frame = 3
      · simp [h3, writeLevel]
      · by_cases h5 : typeByte frame = 5
        · simp [h5]
        · simp [h1, h2, h3, h5]

end Bytes

section Calls

variable {s : SharedState} {p : MsgPtr}

/-- What a call leaves alone: the frames, and the blocks of every other message. -/
structure Others (s s' : SharedState) (serial : Nat) : Prop where
  frames : s'.frames = s.frames
  heap : ∀ k, k ≠ serial → Heap.Keeps k s.heap s'.heap

theorem parseMessage_stored {len : Int} {frame : List UInt8} {a b : Nat}
    (hcurrent : Current s len frame) (hframe : FrameComplete frame)
    (ha : s.heap.isLive a = false) (hb : s.heap.isLive b = false) (hab : a ≠ b) :
    ∃ s', parseMessage (dataEvent s len) (some a) (some b) s =
        (some ⟨a, s.frames.length - 1⟩, s') ∧
      Stored s' ⟨a, s.frames.length - 1⟩ ∧ Others s s' (s.frames.length - 1) ∧
      s'.xMailboxIncomingQueue = s.xMailboxIncomingQueue ∧ s'.trace = s.trace := by
  let k := s.frames.length - 1
  let h₁ := s.heap.alloc a k (.record none)
  let h₂ := h₁.alloc b k (.body ((dataEvent s len).dataBodyPtr.take
    (dataEvent s len).dataLength.toNat))
  have hb₁ : h₁.isLive b = false := (Heap.isLive_alloc_of_ne (Ne.symm hab)).trans hb
  have hrecord : h₂.Holds a k (.record none) :=
    Heap.alloc_keeps hb₁ _ _ Heap.holds_alloc_self
  have hbody : h₂.Holds b k (.body (frameBody frame)) := by
    rw [← hcurrent.body hframe]
    exact Heap.holds_alloc_self
  refine ⟨_, rfl, ⟨frame, b, hcurrent.newest, ?_, Heap.Holds.update_of_ne hbody (Ne.symm hab)⟩,
    ⟨rfl, ?_⟩, rfl, rfl⟩
  · rw [← hcurrent.messageOf hframe b]
    exact hrecord.write
  · intro j hj
    exact ((Heap.alloc_keeps ha).trans (Heap.alloc_keeps hb₁)).trans
      (hrecord.write_keeps (Ne.symm hj))

theorem callOnRecieve_stored {frame : List UInt8} (status : Int) (h : Stored s p)
    (hframe : s.frames[p.serial]? = some frame) :
    ∃ s', callOnRecieve p status s = some s' ∧
      s'.trace = s.trace ++
        [.answered p.serial status (replyTo frame status), .released p.serial] ∧
      Others s s' p.serial ∧ s'.xMailboxIncomingQueue = s.xMailboxIncomingQueue := by
  obtain ⟨frame', pData, hframe', hrecord, hbody⟩ := h
  cases hframe.symm.trans hframe'
  have hmessage : s.message? p = some (frameMessage frame pData) :=
    SharedState.message_of_holds hrecord
  have hne : p.addr ≠ pData := hrecord.ne_of_content hbody (by simp)
  have hrecord' : (s.heap.free pData).Holds p.addr p.serial
      (.record (some (frameMessage frame pData))) := Heap.Holds.update_of_ne hrecord hne
  refine ⟨freeMessage p ((sendMessageStatus p (frameMessage frame pData) status s).free pData),
    ?_, ?_, ⟨rfl, ?_⟩, rfl⟩
  · simp only [callOnRecieve, onMessageRecieved, hmessage, Option.bind_eq_bind, Option.bind_some]
    rfl
  · simp [freeMessage, sendMessageStatus, SharedState.log, SharedState.free,
      sendStatus_frameMessage]
  · intro k hk
    exact (hbody.free_keeps (Ne.symm hk)).trans (hrecord'.free_keeps (Ne.symm hk))

/-- What `sendDataToMailboxIncoming` does with a message once it is parsed. -/
def storeMessage (p : MsgPtr) (s : SharedState) : Option SharedState :=
  if uxQueueMessagesWaiting s.xMailboxIncomingQueue ≠ 0 then
    match receivePending s with
    | some (prevMessage, s) =>
        (callOnRecieve prevMessage errNotRecieved s).map (sendMessage p)
    | none => some (sendMessage p s.resetQueue)
  else some (sendMessage p s)

theorem sendDataToMailboxIncoming_of_parsed {data : EspWebsocketEventData} {r₁ r₂ : Option Nat}
    {s s₁ : SharedState} {p : MsgPtr} (hparse : parseMessage data r₁ r₂ s = (some p, s₁)) :
    sendDataToMailboxIncoming data r₁ r₂ s = storeMessage p s₁ := by
  rw [sendDataToMailboxIncoming, hparse]
  rfl

theorem sendMessage_empty (hqueue : s.xMailboxIncomingQueue = none) :
    sendMessage p s = { s with xMailboxIncomingQueue := some p }.log (.sent p.serial) := by
  simp only [sendMessage, xQueueSend, hqueue]

theorem storeMessage_empty (hqueue : s.xMailboxIncomingQueue = none) :
    storeMessage p s =
      some ({ s with xMailboxIncomingQueue := some p }.log (.sent p.serial)) := by
  rw [storeMessage, if_neg (by simp [hqueue]), sendMessage_empty hqueue]

/-- A message that finds another one pending completes it in an endpoint's place. -/
theorem storeMessage_displacing {q : MsgPtr} {frame : List UInt8}
    (hqueue : s.xMailboxIncomingQueue = some q) (hstored : Stored s q)
    (hframe : s.frames[q.serial]? = some frame) :
    ∃ s', storeMessage p s = some s' ∧ s'.xMailboxIncomingQueue = some p ∧
      Others s s' q.serial ∧
      s'.trace = s.trace ++ [.displaced q.serial,
        .answered q.serial errNotRecieved (replyTo frame errNotRecieved),
        .released q.serial, .sent p.serial] := by
  let s₁ := { s with xMailboxIncomingQueue := none }.log (.displaced q.serial)
  have hreceive : receivePending s = some (q, s₁) := by
    simp only [receivePending, xQueueReceive, hqueue]
    rfl
  have hstored₁ : Stored s₁ q := hstored
  obtain ⟨s₂, hcall, htrace, hothers, hqueue₂⟩ :=
    callOnRecieve_stored errNotRecieved hstored₁ hframe
  have hothers' : Others s ({ s₂ with xMailboxIncomingQueue := some p }.log (.sent p.serial))
      q.serial := ⟨hothers.frames, hothers.heap⟩
  refine ⟨_, ?_, rfl, hothers', ?_⟩
  · rw [storeMessage, if_pos (by simp [hqueue]), hreceive]
    simp only [hcall, Option.map_some, sendMessage_empty hqueue₂]
  · simp only [SharedState.log, htrace, s₁]
    simp

/-- A data event puts the new message into the queue, and completes the one it
finds there. -/
theorem receiveData_stored {bytes : List UInt8} {a b : Nat} (hframe : FrameComplete bytes)
    (ha : s.heap.isLive a = false) (hb : s.heap.isLive b = false) (hab : a ≠ b)
    (hqueue : ∀ q, s.xMailboxIncomingQueue = some q → Stored s q) :
    ∃ s', receiveData bytes (some a) (some b) s = some s' ∧
      s'.frames = s.frames ++ [bytes] ∧
      s'.xMailboxIncomingQueue = some ⟨a, s.frames.length⟩ ∧
      Stored s' ⟨a, s.frames.length⟩ ∧
      (s.xMailboxIncomingQueue = none → s'.trace = s.trace ++ [.sent s.frames.length]) ∧
      ∀ q frame, s.xMailboxIncomingQueue = some q → s.frames[q.serial]? = some frame →
        s'.trace = s.trace ++ [.displaced q.serial,
          .answered q.serial errNotRecieved (replyTo frame errNotRecieved),
          .released q.serial, .sent s.frames.length] := by
  have hlength : (readFrame bytes s).frames.length - 1 = s.frames.length := by
    simp [readFrame]
  obtain ⟨s₁, hparse, hstored, hothers, hqueue₁, htrace₁⟩ :=
    parseMessage_stored (s := readFrame bytes s) (current_readFrame) hframe ha hb hab
  rw [hlength] at hparse hstored hothers
  have hqueue₁ : s₁.xMailboxIncomingQueue = s.xMailboxIncomingQueue := hqueue₁
  have htrace₁ : s₁.trace = s.trace := htrace₁
  have hframes₁ : s₁.frames = s.frames ++ [bytes] := hothers.frames
  have hreceive : receiveData bytes (some a) (some b) s =
      storeMessage ⟨a, s.frames.length⟩ s₁ := sendDataToMailboxIncoming_of_parsed hparse
  rw [hreceive]
  cases hpending : s.xMailboxIncomingQueue with
  | none =>
      refine ⟨_, storeMessage_empty (hqueue₁.trans hpending), hframes₁, rfl, hstored, ?_, ?_⟩
      · intro _
        exact congrArg (· ++ [_]) htrace₁
      · rintro q frame ⟨⟩
  | some q =>
      obtain ⟨frame, -, hold, -⟩ := hqueue q hpending
      have hne : q.serial ≠ s.frames.length :=
        Nat.ne_of_lt (List.getElem?_eq_some_iff.mp hold).1
      have hextends : Extends s s₁ :=
        extends_readFrame.trans (extends_of_eq hothers.frames)
      have hold₁ : Stored s₁ q := (hqueue q hpending).keep hextends (hothers.heap _ hne)
      obtain ⟨s₂, hstore, hqueue₂, hothers₂, htrace₂⟩ :=
        storeMessage_displacing (hqueue₁.trans hpending) hold₁ (hextends _ _ hold)
      refine ⟨s₂, hstore, hothers₂.frames.trans hframes₁, hqueue₂, ?_, ?_, ?_⟩
      · exact hstored.keep (extends_of_eq hothers₂.frames) (hothers₂.heap _ (Ne.symm hne))
      · rintro ⟨⟩
      · rintro q' frame' ⟨⟩ hframe'
        cases hold.symm.trans hframe'
        rw [htrace₂, htrace₁]

theorem vEndpointTaskGPIO_empty (hqueue : s.xMailboxIncomingQueue = none) :
    vEndpointTaskGPIO s = some s := by
  simp [vMailboxRecieve, vEndpointTaskGPIO, hqueue]

section Poll

variable {frame : List UInt8} (hqueue : s.xMailboxIncomingQueue = some p) (h : Stored s p)
  (hframe : s.frames[p.serial]? = some frame)

include hqueue h hframe

theorem vEndpointTaskGPIO_other (hother : ownFrame frame = false) :
    vEndpointTaskGPIO s = some s := by
  obtain ⟨frame', pData, hframe', hmessage⟩ := h.recorded.message
  cases hframe.symm.trans hframe'
  have hid : frameEndpointId frame ≠ gpioEndpointId := by
    rw [Ne, ← ownFrame_iff, hother]
    simp
  simp [vMailboxRecieve, vEndpointTaskGPIO, hqueue, uxQueueMessagesWaiting, xQueuePeek, hmessage,
    hid]

/-- The endpoint takes its own message, carries out the command and answers it. -/
theorem vEndpointTaskGPIO_own (hown : ownFrame frame = true) :
    ∃ s' pData, vEndpointTaskGPIO s = some s' ∧ s'.frames = s.frames ∧
      s'.xMailboxIncomingQueue = none ∧
      s'.trace = s.trace ++
        [.handled gpioEndpointId p.serial (frameMessage frame pData) (frameBody frame)
            (commandCalls frame),
          .answered p.serial (commandStatus frame) (replyTo frame (commandStatus frame)),
          .released p.serial] := by
  obtain ⟨frame', pData, hframe', hrecord, hbody⟩ := h
  cases hframe.symm.trans hframe'
  have hid := (ownFrame_iff frame).mp hown
  let message := frameMessage frame pData
  let s₁ := s.resetQueue.log
    (.handled gpioEndpointId p.serial message (frameBody frame) (commandCalls frame))
  have hstored₁ : Stored s₁ p := ⟨frame, pData, hframe, hrecord, hbody⟩
  obtain ⟨s₂, hcall, htrace, hothers, hqueue₂⟩ :=
    callOnRecieve_stored (commandStatus frame) hstored₁ hframe
  have hmessage : s.message? p = some message := SharedState.message_of_holds hrecord
  have hmessage' : s.resetQueue.message? p = some message := hmessage
  have hbody' : s.resetQueue.body? message.pData = some (frameBody frame) :=
    SharedState.body_of_holds (s := s.resetQueue) hbody
  refine ⟨s₂, pData, ?_, hothers.frames, hqueue₂, ?_⟩
  · have hown' : message.endpointId = gpioEndpointId := hid
    have hrun : vMessageHandler message (frameBody frame) =
        ⟨commandCalls frame, commandStatus frame⟩ := vMessageHandler_frame pData
    simp only [vMailboxRecieve, vEndpointTaskGPIO, hqueue, uxQueueMessagesWaiting, xQueuePeek,
      asMsgHandler, hmessage, hmessage', hbody', hown', hrun, Option.isSome_some, if_true,
      Option.bind_eq_bind, Option.bind_some, ne_eq, one_ne_zero, not_false_eq_true]
    exact hcall
  · rw [htrace]
    simp [s₁, message, SharedState.log, SharedState.resetQueue]

end Poll

end Calls

def input : Call → Input (List UInt8)
  | .frame bytes _ _ => .put bytes
  | .poll => .poll

structure Agrees (s : SharedState) (r : Register (List UInt8) Verdict) : Prop where
  frames : s.frames.length = r.outputs.length + r.pending.toList.length
  answers : answers s = r.outputs.zipIdx.map fun v => (v.2, v.1.status, v.1.reply)
  commands : commands s = r.outputs.zipIdx.filterMap fun v =>
    v.1.calls.map fun calls => (v.2, calls)
  pending : ∀ frame, r.pending = some frame → ∃ p, s.xMailboxIncomingQueue = some p ∧
    p.serial = r.outputs.length ∧ s.frames[p.serial]? = some frame ∧ Stored s p
  empty : r.pending = none → s.xMailboxIncomingQueue = none

abbrev refStep := LatestWins.step ownFrame executed notRecieved

theorem agrees_put {s : SharedState} {r : Register (List UInt8) Verdict} {bytes : List UInt8}
    {a b : Nat} (h : Agrees s r) (hallocates : Allocates s (.frame bytes a b)) :
    ∃ s', atomicStep s (.frame bytes a b) = some s' ∧ s'.frames = s.frames ++ [bytes] ∧
      Agrees s' (refStep r (.put bytes)) := by
  obtain ⟨hframe, ha, hb, hab⟩ := hallocates
  have hqueue : ∀ q, s.xMailboxIncomingQueue = some q → Stored s q := by
    intro q hq
    cases hpending : r.pending with
    | none =>
        rw [h.empty hpending] at hq
        cases hq
    | some frame =>
        obtain ⟨p, hp, -, -, hstored⟩ := h.pending frame hpending
        cases hp.symm.trans hq
        exact hstored
  obtain ⟨s', hstep, hframes, hnew, hstored, hfree, hdisplace⟩ :=
    receiveData_stored hframe ha hb hab hqueue
  refine ⟨s', hstep, hframes, ?_⟩
  obtain ⟨pending, outputs⟩ := r
  cases pending with
  | none =>
      have htrace := hfree (h.empty rfl)
      have hcount : s.frames.length = outputs.length := by simpa using h.frames
      constructor
      · simp [LatestWins.step, hframes, hcount]
      · rw [answers, htrace, List.filterMap_append, ← answers, h.answers]
        simp [LatestWins.step, answer]
      · rw [commands, htrace, List.filterMap_append, ← commands, h.commands]
        simp [LatestWins.step, command]
      · rintro frame ⟨⟩
        refine ⟨_, hnew, ?_, ?_, hstored⟩
        · simp [LatestWins.step, hcount]
        · simp [hframes]
      · rintro ⟨⟩
  | some old =>
      obtain ⟨q, hq, hserial, hold, -⟩ := h.pending old rfl
      have htrace := hdisplace q old hq hold
      have hcount : s.frames.length = outputs.length + 1 := by simpa using h.frames
      have hserial : q.serial = outputs.length := hserial
      constructor
      · simp [LatestWins.step, hframes, hcount]
      · rw [answers, htrace, List.filterMap_append, ← answers, h.answers]
        simp only [LatestWins.step, notRecieved, hserial, Option.map_some, Option.toList_some,
          List.zipIdx_append, List.map_append, Nat.zero_add]
        rfl
      · rw [commands, htrace, List.filterMap_append, ← commands, h.commands]
        simp [LatestWins.step, command, notRecieved, List.zipIdx_append]
      · rintro frame ⟨⟩
        refine ⟨_, hnew, ?_, ?_, hstored⟩
        · simp [LatestWins.step, hcount]
        · simp [hframes]
      · rintro ⟨⟩

theorem agrees_poll {s : SharedState} {r : Register (List UInt8) Verdict} (h : Agrees s r) :
    ∃ s', atomicStep s .poll = some s' ∧ s'.frames = s.frames ∧
      Agrees s' (refStep r .poll) := by
  obtain ⟨pending, outputs⟩ := r
  cases pending with
  | none => exact ⟨s, vEndpointTaskGPIO_empty (h.empty rfl), rfl, h⟩
  | some frame =>
      obtain ⟨p, hqueue, hserial, hframe, hstored⟩ := h.pending frame rfl
      have hserial : p.serial = outputs.length := hserial
      cases hown : ownFrame frame with
      | false =>
          refine ⟨s, vEndpointTaskGPIO_other hqueue hstored hframe hown, rfl, ?_⟩
          simpa [LatestWins.step, hown] using h
      | true =>
          obtain ⟨s', pData, hstep, hframes, hqueue', htrace⟩ :=
            vEndpointTaskGPIO_own hqueue hstored hframe hown
          have hcount : s.frames.length = outputs.length + 1 := by simpa using h.frames
          refine ⟨s', hstep, hframes, ?_⟩
          have hr : refStep ⟨some frame, outputs⟩ .poll = ⟨none, outputs ++ [executed frame]⟩ := by
            simp [LatestWins.step, hown]
          rw [hr]
          constructor
          · simp [hframes, hcount]
          · rw [answers, htrace, List.filterMap_append, ← answers, h.answers]
            simp only [executed, hserial, List.zipIdx_append, List.map_append,
              Nat.zero_add]
            rfl
          · rw [commands, htrace, List.filterMap_append, ← commands, h.commands]
            simp [command, hserial, executed, List.zipIdx_append]
          · rintro frame' ⟨⟩
          · intro _
            exact hqueue'

section Runs

variable {rx : List UInt8} {calls : List Call} {s : SharedState}

theorem agrees_start : Agrees (vMailboxInit rx) (Register.empty : Register _ Verdict) where
  frames := rfl
  answers := rfl
  commands := rfl
  pending frame hframe := by cases hframe
  empty _ := rfl

theorem agrees_step {r : Register (List UInt8) Verdict} {call : Call} (h : Agrees s r)
    (hallocates : Allocates s call) :
    ∃ s', atomicStep s call = some s' ∧ Agrees s' (refStep r (input call)) ∧
      s'.frames = s.frames ++ (itemOf (input call)).toList := by
  cases call with
  | frame bytes a b =>
      obtain ⟨s', hstep, hframes, hagrees⟩ := agrees_put h hallocates
      exact ⟨s', hstep, hagrees, hframes⟩
  | poll =>
      obtain ⟨s', hstep, hframes, hagrees⟩ := agrees_poll h
      exact ⟨s', hstep, hagrees, by simp [hframes, input, itemOf]⟩

theorem agrees_run (run : Run atomicStep Allocates (vMailboxInit rx) calls s) :
    Agrees s (LatestWins.run ownFrame executed notRecieved (calls.map input)) ∧
      s.frames = (rounds (calls.map input)).map (·.item) := by
  induction run with
  | nil => exact ⟨agrees_start, rfl⟩
  | snoc before allowed next ih =>
      obtain ⟨hagrees, hframes⟩ := ih
      obtain ⟨s', hstep, hagrees', hframes'⟩ := agrees_step hagrees allowed
      cases hstep.symm.trans next
      rw [List.map_append, List.map_singleton, run_concat, rounds_concat, addInput_items]
      exact ⟨hagrees', by rw [hframes', hframes]⟩

/-- What the mailbox and its observable effects are after the given rounds. -/
structure OneSlot (s : SharedState) (rs : List (Round (List UInt8))) : Prop where
  frames : s.frames = rs.map (·.item)
  accounted : rs = settled ownFrame rs ++ (unsettled ownFrame rs).toList
  answers : answers s = (settled ownFrame rs).zipIdx.map fun r =>
    (r.2, (verdict ownFrame executed notRecieved r.1).status,
      (verdict ownFrame executed notRecieved r.1).reply)
  commands : commands s = (settled ownFrame rs).zipIdx.filterMap fun r =>
    if taken ownFrame r.1 then some (r.2, commandCalls r.1.item) else none
  pending : ∀ r, unsettled ownFrame rs = some r → ∃ p,
    s.xMailboxIncomingQueue = some p ∧ p.serial = (settled ownFrame rs).length ∧
      s.frames[p.serial]? = some r.item ∧ Stored s p
  empty : unsettled ownFrame rs = none → s.xMailboxIncomingQueue = none

/-- The mailbox is a one-slot register in which the latest frame wins, and no
call gets stuck in an undefined read. -/
theorem latestWins_run (run : Run atomicStep Allocates (vMailboxInit rx) calls s) :
    OneSlot s (rounds (calls.map input)) ∧
      ∀ call, Allocates s call → ∃ s', atomicStep s call = some s' := by
  obtain ⟨hagrees, hframes⟩ := agrees_run run
  refine ⟨?_, ?_⟩
  · rw [run_eq_after] at hagrees
    constructor
    · exact hframes
    · rw [settled_append_unsettled]
    · rw [hagrees.answers, after, List.zipIdx_map, List.map_map]
      rfl
    · rw [hagrees.commands, after, List.zipIdx_map, List.filterMap_map]
      congr 1
      funext r
      cases htaken : taken ownFrame r.1 <;> simp [verdict, htaken, executed, notRecieved]
    · intro r hr
      obtain ⟨p, hp, hserial, hframe, hstored⟩ :=
        hagrees.pending r.item (by simp [after, hr])
      exact ⟨p, hp, by simpa [after] using hserial, hframe, hstored⟩
    · intro hr
      exact hagrees.empty (by simp [after, hr])
  · intro call hallocates
    obtain ⟨s', hstep, -⟩ := agrees_step hagrees hallocates
    exact ⟨s', hstep⟩

theorem latestWins_polled :
    ∃ s, Run atomicStep Allocates (vMailboxInit [9, 9, 9, 9, 9, 9])
      [.frame [1, 0, 2, 7] 0 1, .poll, .frame [2, 1, 2, 7, 7] 0 1, .poll,
        .frame [1, 2, 9, 7] 2 3, .poll, .frame [1, 3, 3, 4] 0 1] s ∧
      OneSlot s [⟨[1, 0, 2, 7], true⟩, ⟨[2, 1, 2, 7, 7], true⟩, ⟨[1, 2, 9, 7], true⟩,
        ⟨[1, 3, 3, 4], false⟩] := by
  obtain ⟨s, run⟩ := Run.exists_of_exec atomicStep Allocates (vMailboxInit [9, 9, 9, 9, 9, 9])
    [.frame [1, 0, 2, 7] 0 1, .poll, .frame [2, 1, 2, 7, 7] 0 1, .poll,
      .frame [1, 2, 9, 7] 2 3, .poll, .frame [1, 3, 3, 4] 0 1] (by decide)
  exact ⟨s, run, (latestWins_run run).1⟩

end Runs

end Esp32Iot.AtomicCalls
