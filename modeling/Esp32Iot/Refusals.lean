import Mathlib.Data.List.Forall2
import Esp32Iot.AnsweredFrames
import Esp32Iot.AtomicCalls

namespace Esp32Iot.Refusals

open Esp32Iot.AnsweredFrames
open Esp32Iot.AtomicCalls
open Esp32Iot.Communication
open Esp32Iot.FrameMessages
open Esp32Iot.GuardedRun
open Esp32Iot.Mailbox
open Esp32Iot.MessageMemory
open Esp32Iot.TaskHistory
open Esp32Iot.TaskOrder
open Esp32Iot.TaskOwnership
open Esp32Iot.TaskSteps

/-- The frame whose message an event is about. -/
def messageSerial : Event → Option Nat
  | .sent serial | .sendFailed serial | .displaced serial | .handled _ serial _ _ _
  | .answered serial _ _ | .released serial => some serial
  | .refused _ => none

def refusal : Event → Option (List UInt8)
  | .refused reply => some reply
  | _ => none

def refusals (s : SharedState) : List (List UInt8) := s.trace.filterMap refusal

/-- `ERR_NOT_ENOUGH_MEMORY` for frame `k`, with its ids if the frame has them. -/
structure Refuses (frames : List (List UInt8)) (k : Nat) (reply : List UInt8) : Prop where
  status : reply[1]? = some (UInt8.ofInt errNotEnoughMemory)
  frame : ∃ frame, frames[k]? = some frame ∧
    (2 ≤ frame.length → reply = replyTo frame errNotEnoughMemory)

/-- Each refusal is of a frame of its own, from which no message was made. -/
structure Refused (s : SharedState) (ks : List Nat) : Prop where
  replies : List.Forall₂ (Refuses s.frames) ks (refusals s)
  increasing : ks.Pairwise (· < ·)
  noMessage : ∀ k ∈ ks, ∀ x ∈ s.trace, messageSerial x ≠ some k

/-- A refusal answers a frame of which nothing has been logged. -/
def RefusalCaused (frames : List (List UInt8)) (before : List Event) (reply : List UInt8) :
    Prop :=
  ∃ k, Refuses frames k reply ∧ ∀ x ∈ before, messageSerial x ≠ some k

variable {ι : Type*}

structure RefusalInv (s : State ι) (ks : List Nat) : Prop where
  refused : Refused s.shared ks
  done : ∀ k ∈ ks, k < doneFrames s.shared s.websocket
  sent : ∀ x ∈ s.shared.trace, ∀ k, messageSerial x = some k → k ∈ sentSerials s.shared
  current : ∀ len, s.websocket = .refuse len → ∃ frame, Current s.shared len frame

section Frames

variable {s s' : SharedState} {frames frames' : List (List UInt8)} {k : Nat}
  {reply : List UInt8} {ks : List Nat}

theorem Refuses.mono (h : Refuses frames k reply)
    (hframes : ∀ frame, frames[k]? = some frame → frames'[k]? = some frame) :
    Refuses frames' k reply := by
  obtain ⟨frame, hframe, hreply⟩ := h.frame
  exact ⟨h.status, frame, hframes _ hframe, hreply⟩

theorem Refused.unsent (h : Refused s ks) (hk : k ∈ sentSerials s) : k ∉ ks := by
  intro hmem
  obtain ⟨x, hx, hserial⟩ := List.mem_filterMap.mp hk
  cases x with
  | sent serial => exact h.noMessage k hmem _ hx hserial
  | _ => cases hserial

theorem refuses_current {len : Int} {frame : List UInt8} (h : Current s len frame) :
    Refuses s.frames (s.frames.length - 1)
      (sendStatus (dataEvent s len).endpointId (dataEvent s len).messageId
        errNotEnoughMemory) := by
  refine ⟨rfl, frame, h.newest, ?_⟩
  intro hids
  obtain ⟨rest, hbuffer⟩ := h.buffer
  have hbyte : ∀ i, i < frame.length → charAt s.rxBuffer i = charAt frame i := by
    intro i hi
    rw [hbuffer]
    exact charAt_append hi
  have hendpointId : (dataEvent s len).endpointId = frameEndpointId frame := hbyte 0 (by omega)
  have hmessageId : (dataEvent s len).messageId = (frameMessage frame 0).messageId :=
    hbyte 1 (by omega)
  rw [hendpointId, hmessageId]
  exact sendStatus_frameMessage frame 0 _

end Frames

section Logs

variable {s s' : SharedState} {env : Env}

theorem CallBackMove.about {p : MsgPtr} {status : Int} {pc : CallBackPc}
    {next : Option CallBackPc} (move : CallBackMove s env p status pc s' next) :
    ∃ e : Option Event, s'.trace = s.trace ++ e.toList ∧
      ∀ x ∈ e, refusal x = none ∧ messageSerial x = some p.serial := by
  cases move with
  | freeData =>
      refine ⟨none, by simp [SharedState.free], ?_⟩
      rintro x ⟨⟩
  | reply | freeMessage =>
      refine ⟨some _, rfl, ?_⟩
      rintro x ⟨⟩
      exact ⟨rfl, rfl⟩

theorem EndpointMove.about {endpointId : Int}
    {handler : XMailboxMessage → List UInt8 → HandlerRun} {pc pc' : EndpointPc}
    (move : EndpointMove endpointId handler s env pc s' pc') :
    ∃ e : Option Event, s'.trace = s.trace ++ e.toList ∧
      ∀ x ∈ e, refusal x = none ∧ ∃ p, taken pc = some p ∧ messageSerial x = some p.serial := by
  cases move with
  | handled p message pData readsMessage readsBody =>
      refine ⟨some _, rfl, ?_⟩
      rintro x ⟨⟩
      exact ⟨rfl, p, rfl, rfl⟩
  | inCallBack p status pc pc' s' move =>
      obtain ⟨e, htrace, he⟩ := CallBackMove.about move
      exact ⟨e, htrace, fun x hx => ⟨(he x hx).1, p, rfl, (he x hx).2⟩⟩
  | calledBack p status pc s' move =>
      obtain ⟨e, htrace, he⟩ := CallBackMove.about move
      exact ⟨e, htrace, fun x hx => ⟨(he x hx).1, p, rfl, (he x hx).2⟩⟩
  | _ =>
      refine ⟨none, by simp [SharedState.resetQueue], ?_⟩
      rintro x ⟨⟩

/-- Besides refusing, the websocket task logs what becomes of a message that has been
sent, and the message it sends. -/
theorem WebsocketMove.about {pc pc' : WebsocketPc} (move : WebsocketMove s env pc s' pc')
    (hslot : SlotInv s pc) (hrefuse : ∀ len, pc ≠ .refuse len) :
    ∃ e : Option Event, s'.trace = s.trace ++ e.toList ∧
      ∀ x ∈ e, refusal x = none ∧ ∃ k, messageSerial x = some k ∧
        ((∃ p, pc = .send p ∧ k = p.serial ∧ x = .sent k) ∨
          (∃ p, displacing pc = some p ∧ k = p.serial) ∨
          ∃ p, s.xMailboxIncomingQueue = some p ∧ k = p.serial) := by
  cases move with
  | refuse len => exact absurd rfl (hrefuse len)
  | received p prevMessage full =>
      refine ⟨some _, rfl, ?_⟩
      rintro x ⟨⟩
      exact ⟨rfl, _, rfl, .inr (.inr ⟨_, full, rfl⟩)⟩
  | inCallBack p prevMessage pc pc' s' move =>
      obtain ⟨e, htrace, he⟩ := CallBackMove.about move
      exact ⟨e, htrace, fun x hx =>
        ⟨(he x hx).1, _, (he x hx).2, .inr (.inl ⟨prevMessage, rfl, rfl⟩)⟩⟩
  | calledBack p prevMessage pc s' move =>
      obtain ⟨e, htrace, he⟩ := CallBackMove.about move
      exact ⟨e, htrace, fun x hx =>
        ⟨(he x hx).1, _, (he x hx).2, .inr (.inl ⟨prevMessage, rfl, rfl⟩)⟩⟩
  | sent p empty =>
      refine ⟨some _, rfl, ?_⟩
      rintro x ⟨⟩
      exact ⟨rfl, _, rfl, .inl ⟨p, rfl, rfl, rfl⟩⟩
  | notSent p q full =>
      rw [hslot.2] at full
      cases full
  | _ =>
      refine ⟨none, by simp [setFields, SharedState.resetQueue], ?_⟩
      rintro x ⟨⟩

end Logs

section Steps

variable {cfg : Endpoints ι} {s s' : State ι} {ks : List Nat}

/-- A step that refuses nothing, and logs events of messages that have been sent. -/
theorem RefusalInv.follow {e : Option Event} (h : RefusalInv s ks)
    (htrace : s'.shared.trace = s.shared.trace ++ e.toList)
    (hframes : Extends s.shared s'.shared) (hrefusal : ∀ x ∈ e, refusal x = none)
    (hserial : ∀ x ∈ e, ∀ k, messageSerial x = some k →
      k ∈ sentSerials s'.shared ∧ k ∉ ks)
    (hdone : doneFrames s.shared s.websocket ≤ doneFrames s'.shared s'.websocket)
    (hcurrent : ∀ len, s'.websocket = .refuse len → ∃ frame, Current s'.shared len frame) :
    RefusalInv s' ks := by
  have hreplies : refusals s'.shared = refusals s.shared := filterMap_log htrace hrefusal
  refine ⟨⟨?_, h.refused.increasing, ?_⟩, ?_, ?_, hcurrent⟩
  · rw [hreplies]
    exact h.refused.replies.imp fun k reply hk => hk.mono (hframes k)
  · intro k hk x hx hxk
    rw [htrace] at hx
    rcases List.mem_append.mp hx with hold | hnew
    · exact h.refused.noMessage k hk x hold hxk
    · exact (hserial x (Option.mem_toList.mp hnew) k hxk).2 hk
  · exact fun k hk => Nat.lt_of_lt_of_le (h.done k hk) hdone
  · intro x hx k hxk
    rw [htrace] at hx
    rcases List.mem_append.mp hx with hold | hnew
    · rw [sentSerials, htrace, List.filterMap_append]
      exact List.mem_append_left _ (h.sent x hold k hxk)
    · exact (hserial x (Option.mem_toList.mp hnew) k hxk).1

variable {s s' : SharedState} {env : Env} {wpc wpc' : WebsocketPc} {ep : ι → EndpointPc}

/-- The frame that is refused is the newest one, and it has left no trace. -/
theorem refusalInv_refuse {len : Int} {serials : List Nat}
    (h : RefusalInv (⟨s, .refuse len, ep⟩ : State ι) ks)
    (hanswered : AnsweredInv (⟨s, .refuse len, ep⟩ : State ι) serials) :
    RefusalInv (⟨refuseMessage (dataEvent s len) s, .idle, ep⟩ : State ι)
      (ks ++ [s.frames.length - 1]) := by
  obtain ⟨frame, hcurrent⟩ := h.current len rfl
  have hpos : 0 < s.frames.length := hanswered.arrived (by simp)
  have hnew : s.frames.length - 1 ∉ sentSerials s := by
    intro hk
    exact Nat.lt_irrefl _ (hanswered.done _ hk)
  have htrace : (refuseMessage (dataEvent s len) s).trace = s.trace ++
      [.refused (sendStatus (dataEvent s len).endpointId (dataEvent s len).messageId
        errNotEnoughMemory)] := rfl
  refine ⟨⟨?_, ?_, ?_⟩, ?_, ?_, ?_⟩
  · have hreplies : refusals (refuseMessage (dataEvent s len) s) = refusals s ++
        [sendStatus (dataEvent s len).endpointId (dataEvent s len).messageId
          errNotEnoughMemory] := by
      rw [refusals, htrace, List.filterMap_append]
      rfl
    rw [hreplies]
    exact List.rel_append h.refused.replies (.cons (refuses_current hcurrent) .nil)
  · refine List.pairwise_append.mpr ⟨h.refused.increasing, List.pairwise_singleton _ _, ?_⟩
    intro k hk j hj
    rw [List.mem_singleton.mp hj]
    exact h.done k hk
  · intro k hk x hx hxk
    have hold : x ∈ s.trace := by
      rw [htrace] at hx
      rcases List.mem_append.mp hx with hold | hrefused
      · exact hold
      · rw [List.mem_singleton.mp hrefused] at hxk
        cases hxk
    rcases List.mem_append.mp hk with hk | hk
    · exact h.refused.noMessage k hk x hold hxk
    · rw [List.mem_singleton.mp hk] at hxk
      exact hnew (h.sent x hold _ hxk)
  · intro k hk
    show k < s.frames.length
    rcases List.mem_append.mp hk with hk | hk
    · have hlt : k < s.frames.length - 1 := h.done k hk
      omega
    · rw [List.mem_singleton.mp hk]
      omega
  · intro x hx k hxk
    have hsent : sentSerials (refuseMessage (dataEvent s len) s) = sentSerials s := by
      rw [sentSerials, htrace, List.filterMap_append]
      exact List.append_nil _
    rw [hsent]
    rw [htrace] at hx
    rcases List.mem_append.mp hx with hold | hrefused
    · exact h.sent x hold k hxk
    · rw [List.mem_singleton.mp hrefused] at hxk
      cases hxk
  · rintro len' ⟨⟩

theorem refusalInv_websocket {serials : List Nat} (move : WebsocketMove s env wpc s' wpc')
    (hslot : SlotInv s wpc) (hmemory : WebsocketMemory s wpc)
    (hanswered : AnsweredInv (⟨s, wpc, ep⟩ : State ι) serials)
    (h : RefusalInv (⟨s, wpc, ep⟩ : State ι) ks) :
    ∃ ks, RefusalInv (⟨s', wpc', ep⟩ : State ι) ks := by
  by_cases hrefuse : ∃ len, wpc = .refuse len
  · obtain ⟨len, rfl⟩ := hrefuse
    cases move with
    | refuse => exact ⟨_, refusalInv_refuse h hanswered⟩
  · have hframes := WebsocketMove.frames move
    have hbusy := WebsocketMove.busy move
    obtain ⟨e, htrace, he⟩ :=
      WebsocketMove.about move hslot fun len hpc => hrefuse ⟨len, hpc⟩
    have hgrows : ∀ k ∈ sentSerials s, k ∈ sentSerials s' :=
      WebsocketMove.sentGrows move hslot
    refine ⟨ks, h.follow htrace (extends_of_eq hframes) (fun x hx => (he x hx).1) ?_ ?_ ?_⟩
    · intro x hx k hxk
      obtain ⟨-, k', hk', hcase⟩ := he x hx
      cases hxk.symm.trans hk'
      rcases hcase with ⟨p, rfl, rfl, rfl⟩ | ⟨p, hp, rfl⟩ | ⟨p, hp, rfl⟩
      · constructor
        · refine List.mem_filterMap.mpr ⟨.sent p.serial, ?_, rfl⟩
          show Event.sent p.serial ∈ s'.trace
          rw [htrace]
          exact List.mem_append_right _ (Option.mem_toList.mpr hx)
        · intro hk
          have hlt : p.serial < s.frames.length - 1 := h.done _ hk
          have hnew : p.serial + 1 = s.frames.length := hslot.1
          omega
      · have hsent := hanswered.sent.displacing p hp
        exact ⟨hgrows _ hsent, h.refused.unsent hsent⟩
      · have hsent := hanswered.sent.pending p hp
        exact ⟨hgrows _ hsent, h.refused.unsent hsent⟩
    · show doneFrames s wpc ≤ doneFrames s' wpc'
      rw [doneFrames_busy hbusy, ← hframes]
      cases wpc' with
      | idle => exact Nat.sub_le _ _
      | _ => exact Nat.le_refl _
    · rintro len rfl
      cases move with
      | notAllocated len given => exact hmemory

theorem refusalInv_step [DecidableEq ι] {s s' : State ι} {a : Action ι} {serials : List Nat}
    (hslot : SlotInv s.shared s.websocket) (hmemory : MemoryInv cfg s)
    (hanswered : AnsweredInv s serials) (h : RefusalInv s ks)
    (hstep : step cfg s a = some s') : ∃ ks, RefusalInv s' ks := by
  obtain ⟨shared, wpc, ep⟩ := s
  rcases step_cases hstep with ⟨bytes, -, hidle, rfl⟩ | ⟨env, shared', pc, -, move, rfl⟩ |
    ⟨t, env, shared', pc, -, move, rfl⟩
  · cases hidle
    refine ⟨ks, h.follow (e := none) (by simp [readFrame]) extends_readFrame ?_ ?_ ?_ ?_⟩
    · rintro x ⟨⟩
    · rintro x ⟨⟩
    · simp [doneFrames, readFrame]
    · rintro len ⟨⟩
  · exact refusalInv_websocket move hslot hmemory.websocket hanswered h
  · have hframes := EndpointMove.frames move
    obtain ⟨e, htrace, he⟩ := EndpointMove.about move
    refine ⟨ks, h.follow htrace (extends_of_eq hframes) (fun x hx => (he x hx).1) ?_ ?_ ?_⟩
    · intro x hx k hxk
      obtain ⟨-, p, hp, hserial⟩ := he x hx
      cases hxk.symm.trans hserial
      have hsent := hanswered.sent.taken t p hp
      refine ⟨?_, h.refused.unsent hsent⟩
      show p.serial ∈ sentSerials shared'
      rw [(EndpointMove.report move).sent_eq]
      exact hsent
    · show doneFrames shared wpc ≤ doneFrames shared' wpc
      cases wpc <;> simp [doneFrames, hframes]
    · intro len hpc
      obtain ⟨frame, hcurrent⟩ := h.current len hpc
      exact ⟨frame, hcurrent.transfer (EndpointMove.buffer move) hframes⟩

end Steps

section Runs

variable [DecidableEq ι] {cfg : Endpoints ι} {guard : State ι → Action ι → Prop}
  {rx : List UInt8} {as : List (Action ι)} {s : State ι}

omit [DecidableEq ι] in
theorem refusalInv_start : RefusalInv (start rx : State ι) [] where
  refused := ⟨.nil, .nil, by simp⟩
  done k hk := by cases hk
  sent x hx := by cases hx
  current len hpc := by cases hpc

theorem refusing_run (run : Run (step cfg) guard (start rx) as s)
    (hguard : ∀ u a, guard u a → BodyCopied u a ∧ TakesAlone cfg u a) :
    (∃ serials, AnsweredInv s serials) ∧ ∃ ks, RefusalInv s ks := by
  apply run.invariant (P := fun u => (∃ serials, AnsweredInv u serials) ∧ ∃ ks, RefusalInv u ks)
  · exact ⟨⟨[], answeredInv_start⟩, [], refusalInv_start⟩
  · rintro bs u a v hbefore ⟨⟨serials, hanswered⟩, ks, hrefusals⟩ hallowed hstep
    have hslot := (orderInv_run hbefore).slot
    have hmemory := (owns_run hbefore hguard).1
    have hcompleted := MessageFates.completedOnce_of_guard (hbefore.snoc hallowed hstep) hguard
    exact ⟨⟨_, answeredInv_step hanswered hslot hmemory hcompleted.answeredOnce hstep⟩,
      refusalInv_step hslot hmemory hanswered hrefusals hstep⟩

/-- No two refusals answer the same frame. -/
theorem refused_run (run : Run (step cfg) guard (start rx) as s)
    (hguard : ∀ u a, guard u a → BodyCopied u a ∧ TakesAlone cfg u a) :
    ∃ ks, Refused s.shared ks := by
  obtain ⟨-, ks, h⟩ := refusing_run run hguard
  exact ⟨ks, h.refused⟩

theorem refusalCaused_run (run : Run (step cfg) guard (start rx) as s)
    (hguard : ∀ u a, guard u a → BodyCopied u a ∧ TakesAlone cfg u a) {len : Int}
    (hpc : s.websocket = .refuse len) :
    RefusalCaused s.shared.frames s.shared.trace
      (sendStatus (dataEvent s.shared len).endpointId (dataEvent s.shared len).messageId
        errNotEnoughMemory) := by
  obtain ⟨⟨serials, hanswered⟩, ks, h⟩ := refusing_run run hguard
  obtain ⟨frame, hcurrent⟩ := h.current len hpc
  refine ⟨_, refuses_current hcurrent, ?_⟩
  intro x hx hserial
  have hlt := hanswered.done _ (h.sent x hx _ hserial)
  rw [hpc] at hlt
  exact Nat.lt_irrefl _ hlt

end Runs

end Esp32Iot.Refusals
