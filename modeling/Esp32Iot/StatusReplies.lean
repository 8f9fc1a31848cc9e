import Esp32Iot.MailboxCalls

namespace Esp32Iot.StatusReplies

open Esp32Iot.AtomicCalls
open Esp32Iot.Communication
open Esp32Iot.FrameMessages
open Esp32Iot.GuardedRun
open Esp32Iot.Mailbox
open Esp32Iot.MailboxCalls
open Esp32Iot.MessageMemory
open Esp32Iot.UndisturbedCalls

structure StatusReply where
  serial : Nat
  status : Int
  bytes : List UInt8
  deriving DecidableEq, Repr

/-- A refusal answers the frame that has just arrived. -/
def statusReply (s' : SharedState) : Event → Option StatusReply
  | .answered serial status reply => some ⟨serial, status, reply⟩
  | .refused reply => some ⟨s'.frames.length - 1, errNotEnoughMemory, reply⟩
  | _ => none

def newEvents (s s' : SharedState) : List Event := s'.trace.drop s.trace.length

def statusReplies (s s' : SharedState) : List StatusReply :=
  (newEvents s s').filterMap (statusReply s')

/-- Bytes of a message, seen through the header macros. -/
def decoded (bytes : List UInt8) : EspWebsocketEventData := ⟨bytes, bytes.length⟩

/-- Decoded by the message format, the reply has the ids of the frame and the status. -/
structure GivesBack (frame : List UInt8) (r : StatusReply) : Prop where
  complete : r.bytes.length = c11nMessageHeaderLength
  endpointId : (decoded r.bytes).endpointId = (decoded frame).endpointId
  messageId : (decoded r.bytes).messageId = (decoded frame).messageId
  messageType : (decoded r.bytes).messageType = r.status

/-- The reply is the one of `sendStatus` for the ids of the frame. -/
structure Answers (frames : List (List UInt8)) (r : StatusReply) (frame : List UInt8) :
    Prop where
  arrived : frames[r.serial]? = some frame
  bytes : c11nMessageHeaderLength ≤ frame.length → r.bytes = replyTo frame r.status
  status : r.status ∈ [msgOk, errNotEnoughMemory, errNotRecieved, errUnsuportedMessageType]

section Layout

variable {frame : List UInt8} {status : Int}

theorem status_of_ofInt
    (h : status ∈ [msgOk, errNotEnoughMemory, errNotRecieved, errUnsuportedMessageType]) :
    ((UInt8.ofInt status).toNat : Int) = status := by
  simp only [List.mem_cons, List.not_mem_nil, or_false] at h
  rcases h with rfl | rfl | rfl | rfl <;> rfl

@[simp] theorem decoded_replyTo_endpointId :
    (decoded (replyTo frame status)).endpointId = (decoded frame).endpointId := rfl

@[simp] theorem decoded_replyTo_messageId :
    (decoded (replyTo frame status)).messageId = (UInt8.ofInt status).toNat := rfl

@[simp] theorem decoded_replyTo_messageType :
    (decoded (replyTo frame status)).messageType = (decoded frame).messageId := rfl

theorem Answers.restores {frames : List (List UInt8)} {r : StatusReply}
    (h : Answers frames r frame) (hheader : c11nMessageHeaderLength ≤ frame.length) :
    GivesBack frame r ↔ (decoded frame).messageId = r.status := by
  have hbytes := h.bytes hheader
  have hstatus := status_of_ofInt h.status
  constructor
  · intro hback
    have htype := hback.messageType
    rw [hbytes, decoded_replyTo_messageType] at htype
    exact htype
  · intro hsame
    constructor
    · rw [hbytes]
      rfl
    · rw [hbytes, decoded_replyTo_endpointId]
    · rw [hbytes, decoded_replyTo_messageId, hstatus, hsame]
    · rw [hbytes, decoded_replyTo_messageType, hsame]

end Layout

section Runs

variable {s s' : SharedState} {rx bytes : List UInt8} {c : MailboxCalls.Call}
  {cs : List MailboxCalls.Call} {events : List Event}

theorem newEvents_of_append (h : s'.trace = s.trace ++ events) : newEvents s s' = events := by
  rw [newEvents, h, List.drop_left]

theorem commandStatus_mem (frame : List UInt8) :
    commandStatus frame ∈ [msgOk, errNotEnoughMemory, errNotRecieved,
      errUnsuportedMessageType] := by
  unfold commandStatus
  split <;> simp

theorem sendStatus_charAt (frame : List UInt8) (status : Int) :
    sendStatus (charAt frame 0) (charAt frame 1) status = replyTo frame status :=
  sendStatus_frameMessage frame 0 status

theorem answers_displacement {p : MsgPtr} (h : MailboxInv s) (hset : PendingSet s)
    (hframes : s'.frames = s.frames ++ [bytes])
    (htrace : s'.trace = s.trace ++ displacement s ++ [.sent p.serial]) {r : StatusReply}
    (hr : r ∈ statusReplies s s') : ∃ frame, Answers s'.frames r frame := by
  rw [List.append_assoc] at htrace
  rw [statusReplies, newEvents_of_append htrace] at hr
  cases hpending : s.xMailboxIncomingQueue with
  | none => simp [displacement, hpending, statusReply] at hr
  | some q =>
      obtain ⟨frame, -, hframe, -⟩ := h.stored hset q hpending
      simp only [displacement, hpending, hframe, Option.getD_some, List.filterMap_cons,
        statusReply, List.filterMap_nil, List.cons_append, List.nil_append,
        List.mem_singleton] at hr
      cases hr
      refine ⟨frame, ?_, fun _ => rfl, by simp⟩
      rw [hframes]
      exact frame_later hframe

theorem answers_step (h : MailboxInv s) (move : CallMove s c s') {r : StatusReply}
    (hr : r ∈ statusReplies s s') : ∃ frame, Answers s'.frames r frame := by
  cases move with
  | refused bytes r₂ nonempty =>
      let data := dataEvent (readFrame bytes s) bytes.length
      let reply := sendStatus data.endpointId data.messageId errNotEnoughMemory
      have htrace : (refuseMessage data (readFrame bytes s)).trace =
          s.trace ++ [.refused reply] := rfl
      rw [statusReplies, newEvents_of_append htrace] at hr
      simp only [List.filterMap_cons, statusReply, List.filterMap_nil, List.mem_singleton] at hr
      cases hr
      refine ⟨bytes, ?_, ?_, by simp⟩
      · simp [refuseMessage, readFrame, SharedState.log]
      · intro hheader
        have hids : 2 ≤ bytes.length := Nat.le_of_succ_le hheader
        have hsame := congrArg SharedState.trace (refuseMessage_readFrame (s := s) hids)
        rw [htrace] at hsame
        have hreply : reply = sendStatus (charAt bytes 0) (charAt bytes 1) errNotEnoughMemory := by
          simpa [SharedState.log, readFrame] using hsame
        exact hreply.trans (sendStatus_charAt bytes _)
  | unset bytes a s' set frames queue record trace =>
      exact answers_displacement (p := ⟨a, s.frames.length⟩) h set frames trace hr
  | parsed bytes a b s' set complete frames queue stored trace =>
      exact answers_displacement (p := ⟨a, s.frames.length⟩) h set frames trace hr
  | notMine =>
      have htrace : s.trace = s.trace ++ [] := (List.append_nil _).symm
      rw [statusReplies, newEvents_of_append htrace] at hr
      cases hr
  | handled p frame pData s' pending stored arrived own frames queue trace =>
      rw [statusReplies, newEvents_of_append trace] at hr
      simp only [List.filterMap_cons, statusReply, List.filterMap_nil, List.mem_singleton] at hr
      cases hr
      refine ⟨frame, ?_, fun _ => rfl, commandStatus_mem frame⟩
      rw [frames]
      exact arrived

theorem givesBack_iff (run : Run MailboxCalls.step Allowed (vMailboxInit rx) cs s)
    (hallowed : Allowed s c) (hstep : MailboxCalls.step s c = some s') {r : StatusReply}
    (hr : r ∈ statusReplies s s') :
    ∃ frame, s'.frames[r.serial]? = some frame ∧
      (c11nMessageHeaderLength ≤ frame.length →
        (GivesBack frame r ↔ (decoded frame).messageId = r.status)) := by
  have hinv := mailboxInv_run run
  obtain ⟨frame, hanswers⟩ := answers_step hinv (step_move hinv hallowed hstep) hr
  exact ⟨frame, hanswers.arrived, hanswers.restores⟩

end Runs

theorem givesBack_zero :
    ∃ s s' frame, Run MailboxCalls.step Allowed (vMailboxInit [])
        [.frame [1, 0, 2, 7] (some 0) (some 1)] s ∧
      MailboxCalls.step s .poll = some s' ∧ statusReplies s s' = [⟨0, msgOk, [1, 0, 0]⟩] ∧
      s'.frames[0]? = some frame ∧
      (c11nMessageHeaderLength ≤ frame.length →
        (GivesBack frame ⟨0, msgOk, [1, 0, 0]⟩ ↔ (decoded frame).messageId = msgOk)) := by
  obtain ⟨s, run, htest⟩ := Run.exists_of_exec_any MailboxCalls.step Allowed (vMailboxInit [])
    [.frame [1, 0, 2, 7] (some 0) (some 1)]
    (fun s => (MailboxCalls.step s .poll).any fun s' : SharedState =>
      decide (statusReplies s s' = [⟨0, msgOk, [1, 0, 0]⟩])) (by decide)
  obtain ⟨s', hstep, hs'⟩ := (Option.any_eq_true _ _).mp htest
  have hreplies := of_decide_eq_true hs'
  obtain ⟨frame, h⟩ := givesBack_iff (c := .poll) (r := ⟨0, msgOk, [1, 0, 0]⟩) run trivial hstep
    (hreplies ▸ List.mem_singleton_self _)
  exact ⟨s, s', frame, run, hstep, hreplies, h⟩

/-- Request 7 is carried out. By the message format the reply says that it answers
request 0, with the status 7. -/
theorem idAndStatusSwapped :
    ∃ s s', Run MailboxCalls.step Allowed (vMailboxInit [])
        [.frame [1, 7, 2, 5] (some 0) (some 1)] s ∧
      MailboxCalls.step s .poll = some s' ∧ statusReplies s s' = [⟨0, msgOk, [1, 0, 7]⟩] ∧
      s'.frames[0]? = some [1, 7, 2, 5] ∧
      (decoded [1, 0, 7]).messageId = 0 ∧ (decoded [1, 0, 7]).messageType = 7 ∧
      ¬ GivesBack [1, 7, 2, 5] ⟨0, msgOk, [1, 0, 7]⟩ := by
  obtain ⟨s, run, htest⟩ := Run.exists_of_exec_any MailboxCalls.step Allowed (vMailboxInit [])
    [.frame [1, 7, 2, 5] (some 0) (some 1)]
    (fun s => (MailboxCalls.step s .poll).any fun s' : SharedState =>
      decide (statusReplies s s' = [⟨0, msgOk, [1, 0, 7]⟩] ∧
        s'.frames[0]? = some [1, 7, 2, 5])) (by decide)
  obtain ⟨s', hstep, hs'⟩ := (Option.any_eq_true _ _).mp htest
  obtain ⟨hreplies, hframe⟩ := of_decide_eq_true hs'
  refine ⟨s, s', run, hstep, hreplies, hframe, by decide, by decide, ?_⟩
  intro hback
  exact absurd hback.messageType (by decide)

end Esp32Iot.StatusReplies
