import Esp32Iot.AtomicCalls
import Esp32Iot.TaskOrder

namespace Esp32Iot.Segmentation

open Esp32Iot.BlockHeap
open Esp32Iot.Mailbox
open Esp32Iot.Communication
open Esp32Iot.TaskOrder
open Esp32Iot.FrameMessages
open Esp32Iot.MessageMemory
open Esp32Iot.AtomicCalls

structure Portion where
  bytes : List UInt8
  record : Nat
  body : Nat

/-- What `malloc` returns for the body of a portion: a block, unless the portion
has no byte after the header. -/
def Portion.bodyBlock (portion : Portion) : Option Nat :=
  if FrameComplete portion.bytes then some portion.body else none

def receivePortion (s : SharedState) (portion : Portion) : Option SharedState :=
  receiveData portion.bytes (some portion.record) portion.bodyBlock s

def receivePortions (s : SharedState) (portions : List Portion) : Option SharedState :=
  portions.foldlM receivePortion s

/-- The payload is read in consecutive portions of at most `bufferSize` bytes. -/
structure ReadInPortions (bufferSize : Nat) (payload : List UInt8)
    (portions : List Portion) : Prop where
  nonempty : ∀ portion ∈ portions, portion.bytes ≠ []
  fits : ∀ portion ∈ portions, portion.bytes.length ≤ bufferSize
  inOrder : (portions.map (·.bytes)).flatten = payload

/-- The mailbox activity of one data event with the whole payload: it displaces
what is pending, and one message, with that payload, enters the queue. -/
structure OneMessage (s s' : SharedState) (payload : List UInt8) : Prop where
  sent : sentSerials s' = sentSerials s ++ [s.frames.length]
  displaced : displacedSerials s' =
    displacedSerials s ++ (s.xMailboxIncomingQueue.map (·.serial)).toList
  pending : ∃ p pData, s'.xMailboxIncomingQueue = some p ∧
    s'.message? p = some (frameMessage payload pData) ∧
    s'.body? pData = some (frameBody payload)

theorem callOnRecieve_log {p : MsgPtr} {status : Int} {s s' : SharedState}
    (h : callOnRecieve p status s = some s') :
    s'.xMailboxIncomingQueue = s.xMailboxIncomingQueue ∧ sentSerials s' = sentSerials s := by
  obtain ⟨message, -, hcall⟩ := Option.bind_eq_some_iff.mp h
  cases hknown : message.onRecieve with
  | wild =>
      rw [hknown] at hcall
      cases hcall
  | onMessageRecieved =>
      rw [hknown] at hcall
      obtain ⟨message', -, hmessage⟩ := Option.bind_eq_some_iff.mp hcall
      cases hmessage
      refine ⟨rfl, ?_⟩
      simp [sentSerials, freeMessage, sendMessageStatus, SharedState.log, SharedState.free,
        sentSerial]

theorem parseMessage_log (data : EspWebsocketEventData) (a : Nat) (r : Option Nat)
    (s : SharedState) :
    ∃ p s', parseMessage data (some a) r s = (some p, s') ∧ s'.trace = s.trace := by
  cases r with
  | none => exact ⟨_, _, rfl, rfl⟩
  | some b => exact ⟨_, _, rfl, rfl⟩

theorem storeMessage_sent {p : MsgPtr} {s s' : SharedState} (h : storeMessage p s = some s') :
    sentSerials s' = sentSerials s ++ [p.serial] := by
  have hsend : ∀ x, x.xMailboxIncomingQueue = none →
      sentSerials (sendMessage p x) = sentSerials x ++ [p.serial] := by
    intro x hempty
    rw [sendMessage_empty hempty]
    simp [sentSerials, SharedState.log, sentSerial]
  cases hpending : s.xMailboxIncomingQueue with
  | none =>
      simp only [storeMessage, hpending, uxQueueMessagesWaiting] at h
      cases h
      exact hsend s hpending
  | some q =>
      simp only [storeMessage, receivePending, xQueueReceive, hpending, uxQueueMessagesWaiting,
        Option.isSome_some, if_true, ne_eq, one_ne_zero, not_false_eq_true] at h
      obtain ⟨s₁, hcall, rfl⟩ := Option.map_eq_some_iff.mp h
      obtain ⟨hqueue, hsent⟩ := callOnRecieve_log hcall
      rw [hsend s₁ hqueue, hsent]
      simp [sentSerials, SharedState.log, sentSerial]

theorem receivePortion_sent {portion : Portion} {s s' : SharedState}
    (h : receivePortion s portion = some s') :
    (sentSerials s').length = (sentSerials s).length + 1 := by
  obtain ⟨p, s₁, hparse, htrace⟩ :=
    parseMessage_log (dataEvent (readFrame portion.bytes s) portion.bytes.length)
      portion.record portion.bodyBlock (readFrame portion.bytes s)
  have hsent : sentSerials s₁ = sentSerials s := by
    simp [sentSerials, htrace, readFrame]
  have hstore : storeMessage p s₁ = some s' :=
    (sendDataToMailboxIncoming_of_parsed hparse).symm.trans h
  rw [storeMessage_sent hstore, hsent, List.length_append, List.length_singleton]

theorem receivePortions_sent {portions : List Portion} {s s' : SharedState}
    (h : receivePortions s portions = some s') :
    (sentSerials s').length = (sentSerials s).length + portions.length := by
  induction portions generalizing s with
  | nil =>
      cases h
      rfl
  | cons portion portions ih =>
      rw [receivePortions, List.foldlM_cons] at h
      obtain ⟨s₁, hfirst, hrest⟩ := Option.bind_eq_some_iff.mp h
      rw [ih hrest, receivePortion_sent hfirst, List.length_cons]
      omega

theorem oneMessage_iff {bufferSize : Nat} {payload : List UInt8} {portions : List Portion}
    {s : SharedState} (hlength : 4 ≤ payload.length)
    (hsegments : ReadInPortions bufferSize payload portions)
    (hmailbox : ∀ q, s.xMailboxIncomingQueue = some q → Stored s q)
    (hmemory : ∀ portion ∈ portions.head?, s.heap.isLive portion.record = false ∧
      s.heap.isLive portion.body = false ∧ portion.record ≠ portion.body) :
    (∃ s', receivePortions s portions = some s' ∧ OneMessage s s' payload) ↔
      portions.length = 1 := by
  constructor
  · rintro ⟨s', hreceive, hone⟩
    have hcount := receivePortions_sent hreceive
    rw [hone.sent, List.length_append, List.length_singleton] at hcount
    omega
  · intro hsingle
    obtain ⟨portion, rfl⟩ := List.length_eq_one_iff.mp hsingle
    obtain ⟨ha, hb, hab⟩ := hmemory portion rfl
    have hbytes : portion.bytes = payload := by simpa using hsegments.inOrder
    have hframe : FrameComplete portion.bytes := by
      rw [hbytes]
      exact hlength
    obtain ⟨s', hstep, hframes, hqueue, hstored, hfree, hdisplace⟩ :=
      receiveData_stored hframe ha hb hab hmailbox
    have hreceive : receivePortions s [portion] = some s' := by
      rw [receivePortions, List.foldlM_cons, receivePortion, Portion.bodyBlock, if_pos hframe,
        hstep]
      rfl
    have hnewest : s'.frames[s.frames.length]? = some payload := by
      rw [hframes, hbytes]
      simp
    obtain ⟨pData, hmessage, hbody⟩ := hstored.contents hnewest
    have hpending : ∃ p pData, s'.xMailboxIncomingQueue = some p ∧
        s'.message? p = some (frameMessage payload pData) ∧
        s'.body? pData = some (frameBody payload) := ⟨_, pData, hqueue, hmessage, hbody⟩
    refine ⟨s', hreceive, ?_⟩
    cases hold : s.xMailboxIncomingQueue with
    | none =>
        have htrace := hfree hold
        refine ⟨?_, ?_, hpending⟩
        · simp [sentSerials, htrace, sentSerial]
        · simp [displacedSerials, htrace, displacedSerial, hold]
    | some q =>
        obtain ⟨frame, -, hframe', -⟩ := hmailbox q hold
        have htrace := hdisplace q frame hold hframe'
        refine ⟨?_, ?_, hpending⟩
        · rw [sentSerials, htrace, List.filterMap_append]
          rfl
        · rw [displacedSerials, htrace, List.filterMap_append, hold]
          rfl

theorem oneMessage_whole :
    ∃ s', receivePortions (vMailboxInit []) [⟨[1, 0, 2, 7, 8, 9], 0, 1⟩] = some s' ∧
      OneMessage (vMailboxInit []) s' [1, 0, 2, 7, 8, 9] := by
  have hsegments : ReadInPortions 4096 [1, 0, 2, 7, 8, 9] [⟨[1, 0, 2, 7, 8, 9], 0, 1⟩] :=
    ⟨by simp, by simp, rfl⟩
  refine (oneMessage_iff (by decide) hsegments ?_ ?_).mpr rfl
  · rintro q ⟨⟩
  · rintro portion ⟨⟩
    exact ⟨rfl, rfl, by decide⟩

/-- A payload of eight bytes in two reads. The second portion is taken for a
header of its own: its message displaces the one with the first portion, which is
answered `ERR_NOT_RECIEVED`. -/
theorem twoMessages :
    ReadInPortions 4096 [1, 0, 2, 7, 1, 1, 2, 9] [⟨[1, 0, 2, 7], 0, 1⟩, ⟨[1, 1, 2, 9], 2, 3⟩] ∧
      ((receivePortions (vMailboxInit []) [⟨[1, 0, 2, 7], 0, 1⟩, ⟨[1, 1, 2, 9], 2, 3⟩]).map
        (·.trace)) = some [.sent 0, .displaced 0, .answered 0 errNotRecieved [1, 2, 0],
          .released 0, .sent 1] ∧
      ¬ ∃ s', receivePortions (vMailboxInit [])
          [⟨[1, 0, 2, 7], 0, 1⟩, ⟨[1, 1, 2, 9], 2, 3⟩] = some s' ∧
        OneMessage (vMailboxInit []) s' [1, 0, 2, 7, 1, 1, 2, 9] := by
  refine ⟨⟨by simp, by simp, rfl⟩, by decide, ?_⟩
  rintro ⟨s', hreceive, hone⟩
  have hcount := receivePortions_sent hreceive
  rw [hone.sent] at hcount
  cases hcount

end Esp32Iot.Segmentation
