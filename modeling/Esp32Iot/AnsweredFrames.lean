import Esp32Iot.MessageFates
import Esp32Iot.StatusReplies

namespace Esp32Iot.AnsweredFrames

open Esp32Iot.Communication
open Esp32Iot.FrameMessages
open Esp32Iot.GuardedRun
open Esp32Iot.Mailbox
open Esp32Iot.MessageFates
open Esp32Iot.MessageMemory
open Esp32Iot.StatusReplies
open Esp32Iot.TaskHistory
open Esp32Iot.TaskOrder
open Esp32Iot.TaskOwnership
open Esp32Iot.TaskSteps

/-- The numbers of the frames that a step answers. -/
def replySerials (s s' : SharedState) : List Nat := (statusReplies s s').map (·.serial)

/-- How many frames the websocket task is done with. -/
def doneFrames (s : SharedState) : WebsocketPc → Nat
  | .idle => s.frames.length
  | _ => s.frames.length - 1

theorem doneFrames_busy {s : SharedState} {pc : WebsocketPc} (hpc : pc ≠ .idle) :
    doneFrames s pc = s.frames.length - 1 := by
  cases pc with
  | idle => exact absurd rfl hpc
  | _ => rfl

section Reports

variable {s s' : SharedState} {env : Env}

/-- What a step says about the messages: nothing, or that a message held by the
task is answered. -/
inductive Report (s s' : SharedState) (held : Option MsgPtr) : Prop
  | silent (sent : sentSerials s' = sentSerials s)
      (answered : answeredSerials s' = answeredSerials s) (replies : replySerials s s' = [])
  | answer (p : MsgPtr) (mine : held = some p) (sent : sentSerials s' = sentSerials s)
      (answered : answeredSerials s' = answeredSerials s ++ [p.serial])
      (replies : replySerials s s' = [p.serial])

theorem replySerials_of_append {events : List Event} (h : s'.trace = s.trace ++ events) :
    replySerials s s' = (events.filterMap (statusReply s')).map (·.serial) := by
  rw [replySerials, statusReplies, newEvents_of_append h]

theorem replySerials_of_concat {e : Event} (h : s'.trace = s.trace ++ [e]) :
    replySerials s s' = ([e].filterMap (statusReply s')).map (·.serial) :=
  replySerials_of_append h

theorem report_of_silent {held : Option MsgPtr} {e : Option Event}
    (htrace : s'.trace = s.trace ++ e.toList)
    (hsilent : ∀ x ∈ e, sentSerial x = none ∧ answeredSerial x = none ∧
      statusReply s' x = none) : Report s s' held := by
  refine .silent (filterMap_log htrace fun x hx => (hsilent x hx).1)
    (filterMap_log htrace fun x hx => (hsilent x hx).2.1) ?_
  rw [replySerials_of_append htrace, filterMap_silent fun x hx => (hsilent x hx).2.2]
  rfl

theorem report_of_same {held : Option MsgPtr} (htrace : s'.trace = s.trace) :
    Report s s' held := by
  refine report_of_silent (e := none) (by simp [htrace]) ?_
  rintro x ⟨⟩

theorem CallBackMove.report {p : MsgPtr} {status : Int} {pc : CallBackPc}
    {next : Option CallBackPc} (move : CallBackMove s env p status pc s' next) :
    Report s s' (some p) := by
  cases move with
  | reply known =>
      refine .answer p rfl ?_ ?_ ?_
      · simp [sentSerials, sendMessageStatus, SharedState.log, sentSerial]
      · simp [answeredSerials, sendMessageStatus, SharedState.log, answeredSerial]
      · rw [replySerials_of_concat rfl]
        rfl
  | freeData => exact report_of_same rfl
  | freeMessage =>
      refine report_of_silent (e := some _) rfl ?_
      rintro x ⟨⟩
      exact ⟨rfl, rfl, rfl⟩

/-- When the websocket task is done with a frame, it has sent the message or
refused the frame. -/
inductive Finished (s s' : SharedState) : WebsocketPc → Prop
  | sent (p : MsgPtr) (sent : sentSerials s' = sentSerials s ++ [p.serial])
      (answered : answeredSerials s' = answeredSerials s) (replies : replySerials s s' = []) :
      Finished s s' (.send p)
  | refused (len : Int) (sent : sentSerials s' = sentSerials s)
      (answered : answeredSerials s' = answeredSerials s)
      (replies : replySerials s s' = [s.frames.length - 1]) : Finished s s' (.refuse len)

theorem WebsocketMove.report {pc pc' : WebsocketPc} (move : WebsocketMove s env pc s' pc')
    (hslot : SlotInv s pc) :
    pc' ≠ .idle ∧ Report s s' (displacing pc) ∨ pc' = .idle ∧ Finished s s' pc := by
  cases move with
  | sent p empty =>
      refine .inr ⟨rfl, .sent p ?_ ?_ ?_⟩
      · simp [sentSerials, SharedState.log, sentSerial]
      · simp [answeredSerials, SharedState.log, answeredSerial]
      · rw [replySerials_of_concat rfl]
        rfl
  | refuse len =>
      refine .inr ⟨rfl, .refused len ?_ ?_ ?_⟩
      · simp [sentSerials, refuseMessage, SharedState.log, sentSerial]
      · simp [answeredSerials, refuseMessage, SharedState.log, answeredSerial]
      · rw [replySerials_of_concat rfl]
        rfl
  | notSent p q full =>
      rw [hslot.2] at full
      cases full
  | received p prevMessage full =>
      refine .inl ⟨by simp, report_of_silent (e := some _) rfl ?_⟩
      rintro x ⟨⟩
      exact ⟨rfl, rfl, rfl⟩
  | inCallBack p prevMessage pc pc' s' move => exact .inl ⟨by simp, CallBackMove.report move⟩
  | calledBack p prevMessage pc s' move => exact .inl ⟨by simp, CallBackMove.report move⟩
  | _ => exact .inl ⟨by simp, report_of_same rfl⟩

theorem EndpointMove.report {endpointId : Int}
    {handler : XMailboxMessage → List UInt8 → HandlerRun} {pc pc' : EndpointPc}
    (move : EndpointMove endpointId handler s env pc s' pc') : Report s s' (taken pc) := by
  cases move with
  | handled p message pData readsMessage readsBody =>
      refine report_of_silent (e := some _) rfl ?_
      rintro x ⟨⟩
      exact ⟨rfl, rfl, rfl⟩
  | inCallBack p status pc pc' s' move => exact CallBackMove.report move
  | calledBack p status pc s' move => exact CallBackMove.report move
  | _ => exact report_of_same rfl

end Reports

section Runs

variable {ι : Type*}

/-- Every message past the websocket task's parsing has been sent. -/
structure SentInv (s : State ι) : Prop where
  pending : ∀ q, s.shared.xMailboxIncomingQueue = some q → q.serial ∈ sentSerials s.shared
  displacing : ∀ p, displacing s.websocket = some p → p.serial ∈ sentSerials s.shared
  taken : ∀ t p, taken (s.endpoint t) = some p → p.serial ∈ sentSerials s.shared
  answered : ∀ k ∈ answeredSerials s.shared, k ∈ sentSerials s.shared

/-- The frames answered so far are those of the answered messages, and those that
the websocket task is done with without having sent a message. -/
structure AnsweredInv (s : State ι) (serials : List Nat) : Prop where
  sent : SentInv s
  arrived : s.websocket ≠ .idle → 0 < s.shared.frames.length
  done : ∀ k ∈ sentSerials s.shared, k < doneFrames s.shared s.websocket
  accounted : ∀ k, k ∈ serials ↔ k ∈ answeredSerials s.shared ∨
    k < doneFrames s.shared s.websocket ∧ k ∉ sentSerials s.shared
  once : serials.Nodup

/-- The message of frame `k` is in the mailbox, or in the hands of a task that has
not answered it. -/
def Outstanding (s : State ι) (k : Nat) : Prop :=
  (∃ q, s.shared.xMailboxIncomingQueue = some q ∧ q.serial = k) ∨ InHands s false k

theorem sentInv_start {rx : List UInt8} : SentInv (start rx : State ι) := by
  constructor
  · rintro q ⟨⟩
  · rintro p ⟨⟩
  · rintro t p ⟨⟩
  · intro k hk
    cases hk

theorem answeredInv_start {rx : List UInt8} : AnsweredInv (start rx : State ι) [] := by
  refine ⟨sentInv_start, fun h => absurd rfl h, ?_, ?_, List.nodup_nil⟩
  · intro k hk
    cases hk
  · intro k
    simp [answeredSerials, doneFrames, start, vMailboxInit]

variable {s s' : SharedState} {env : Env} {wpc wpc' : WebsocketPc} {ep : ι → EndpointPc}
  {held : Option MsgPtr} {serials : List Nat}

theorem Report.sent_eq (h : Report s s' held) : sentSerials s' = sentSerials s := by
  cases h with
  | silent sent answered replies => exact sent
  | answer p mine sent answered replies => exact sent

theorem Report.answeredSent (h : Report s s' held)
    (hheld : ∀ p, held = some p → p.serial ∈ sentSerials s)
    (hanswered : ∀ k ∈ answeredSerials s, k ∈ sentSerials s) :
    ∀ k ∈ answeredSerials s', k ∈ sentSerials s' := by
  rw [h.sent_eq]
  cases h with
  | silent sent answered replies =>
      rw [answered]
      exact hanswered
  | answer p mine sent answered replies =>
      rw [answered]
      intro k hk
      rcases List.mem_append.mp hk with hk | hk
      · exact hanswered k hk
      · rw [List.mem_singleton.mp hk]
        exact hheld p mine

theorem Finished.answered_eq (h : Finished s s' wpc) :
    answeredSerials s' = answeredSerials s := by
  cases h with
  | sent p sent answered replies => exact answered
  | refused len sent answered replies => exact answered

theorem WebsocketMove.sentGrows (move : WebsocketMove s env wpc s' wpc')
    (hslot : SlotInv s wpc) : ∀ k ∈ sentSerials s, k ∈ sentSerials s' := by
  intro k hk
  rcases WebsocketMove.report move hslot with ⟨-, hreport⟩ | ⟨-, hfinished⟩
  · rw [hreport.sent_eq]
    exact hk
  · cases hfinished with
    | sent p sent answered replies =>
        rw [sent]
        exact List.mem_append_left _ hk
    | refused len sent answered replies =>
        rw [sent]
        exact hk

/-- The websocket task only ever displaces the message it has found in the queue. -/
theorem WebsocketMove.displacing {p : MsgPtr} (move : WebsocketMove s env wpc s' wpc')
    (hp : displacing wpc' = some p) :
    displacing wpc = some p ∨ s.xMailboxIncomingQueue = some p := by
  cases move with
  | received p prevMessage full =>
      cases hp
      exact .inr full
  | inCallBack p prevMessage pc pc' s' move => exact .inl hp
  | _ => cases hp

theorem sentInv_websocket (move : WebsocketMove s env wpc s' wpc') (hslot : SlotInv s wpc)
    (h : SentInv ⟨s, wpc, ep⟩) : SentInv ⟨s', wpc', ep⟩ := by
  have hgrows := WebsocketMove.sentGrows move hslot
  refine ⟨?_, ?_, fun t p hp => hgrows _ (h.taken t p hp), ?_⟩
  · intro q hq
    rcases WebsocketMove.queued move hq with hold | rfl
    · exact hgrows _ (h.pending q hold)
    · cases move with
      | sent p empty => simp [sentSerials, SharedState.log, sentSerial]
      | notSent p q' full => exact hgrows _ (h.pending q hq)
  · intro p hp
    rcases WebsocketMove.displacing move hp with hold | hpending
    · exact hgrows _ (h.displacing p hold)
    · exact hgrows _ (h.pending p hpending)
  · rcases WebsocketMove.report move hslot with ⟨-, hreport⟩ | ⟨-, hfinished⟩
    · exact hreport.answeredSent h.displacing h.answered
    · intro k hk
      rw [hfinished.answered_eq] at hk
      exact hgrows k (h.answered k hk)

/-- While the number of frames done is the same, only messages are answered. -/
theorem AnsweredInv.reported {s s' : State ι} (h : AnsweredInv s serials) (hsent : SentInv s')
    (hreport : Report s.shared s'.shared held)
    (hheld : ∀ p, held = some p → p.serial ∈ sentSerials s.shared)
    (honce : (answeredSerials s'.shared).Nodup)
    (hdone : doneFrames s'.shared s'.websocket = doneFrames s.shared s.websocket)
    (harrived : s'.websocket ≠ .idle → 0 < s'.shared.frames.length) :
    AnsweredInv s' (serials ++ replySerials s.shared s'.shared) := by
  have hsame := hreport.sent_eq
  refine ⟨hsent, harrived, ?_, ?_, ?_⟩
  · rw [hsame, hdone]
    exact h.done
  · intro k
    rw [hdone, hsame]
    cases hreport with
    | silent sent answered replies =>
        rw [replies, answered, List.append_nil]
        exact h.accounted k
    | answer p mine sent answered replies =>
        rw [replies, answered, List.mem_append, List.mem_append, h.accounted k]
        tauto
  · cases hreport with
    | silent sent answered replies =>
        rw [replies, List.append_nil]
        exact h.once
    | answer p mine sent answered replies =>
        rw [answered] at honce
        have hnew : p.serial ∉ answeredSerials s.shared := by
          intro hold
          exact (List.nodup_append.mp honce).2.2 _ hold _ (List.mem_singleton_self _) rfl
        rw [replies, ← List.concat_eq_append]
        apply h.once.concat
        rw [h.accounted]
        rintro (hold | ⟨-, hnot⟩)
        · exact hnew hold
        · exact hnot (hheld p mine)

/-- The frame the websocket task has just finished has been sent. -/
theorem AnsweredInv.frameSent {s s' : State ι} {n : Nat} (h : AnsweredInv s serials)
    (hsent : SentInv s') (hbefore : doneFrames s.shared s.websocket = n)
    (hdone : doneFrames s'.shared s'.websocket = n + 1) (hidle : s'.websocket = .idle)
    (hserials : sentSerials s'.shared = sentSerials s.shared ++ [n])
    (hanswered : answeredSerials s'.shared = answeredSerials s.shared) :
    AnsweredInv s' serials := by
  refine ⟨hsent, fun hbusy => absurd hidle hbusy, ?_, ?_, h.once⟩
  · intro k hk
    rw [hserials] at hk
    rw [hdone]
    rcases List.mem_append.mp hk with hold | hnew
    · have hlt := h.done k hold
      omega
    · rw [List.mem_singleton.mp hnew]
      exact Nat.lt_succ_self n
  · intro k
    rw [h.accounted, hanswered, hdone, hserials, hbefore, List.mem_append, List.mem_singleton]
    have hlast : k < n + 1 ∧ ¬ (k ∈ sentSerials s.shared ∨ k = n) ↔
        k < n ∧ k ∉ sentSerials s.shared := by
      constructor
      · rintro ⟨hlt, hnot⟩
        refine ⟨?_, fun hk => hnot (.inl hk)⟩
        have hne : k ≠ n := fun hk => hnot (.inr hk)
        omega
      · rintro ⟨hlt, hnot⟩
        refine ⟨Nat.lt_succ_of_lt hlt, ?_⟩
        rintro (hk | rfl)
        · exact hnot hk
        · exact Nat.lt_irrefl _ hlt
    rw [hlast]

/-- The frame the websocket task has just finished has been refused. -/
theorem AnsweredInv.frameRefused {s s' : State ι} {n : Nat} (h : AnsweredInv s serials)
    (hsent : SentInv s') (hbefore : doneFrames s.shared s.websocket = n)
    (hdone : doneFrames s'.shared s'.websocket = n + 1) (hidle : s'.websocket = .idle)
    (hserials : sentSerials s'.shared = sentSerials s.shared)
    (hanswered : answeredSerials s'.shared = answeredSerials s.shared) :
    AnsweredInv s' (serials ++ [n]) := by
  have hunsent : n ∉ sentSerials s.shared := by
    intro hn
    have hlt := h.done n hn
    omega
  refine ⟨hsent, fun hbusy => absurd hidle hbusy, ?_, ?_, ?_⟩
  · intro k hk
    rw [hserials] at hk
    have hlt := h.done k hk
    omega
  · intro k
    rw [List.mem_append, List.mem_singleton, h.accounted, hanswered, hdone, hserials, hbefore]
    have hlast : k < n + 1 ∧ k ∉ sentSerials s.shared ↔
        (k < n ∧ k ∉ sentSerials s.shared) ∨ k = n := by
      constructor
      · rintro ⟨hlt, hnot⟩
        rcases Nat.lt_succ_iff_lt_or_eq.mp hlt with hlt | rfl
        · exact .inl ⟨hlt, hnot⟩
        · exact .inr rfl
      · rintro (⟨hlt, hnot⟩ | rfl)
        · exact ⟨Nat.lt_succ_of_lt hlt, hnot⟩
        · exact ⟨Nat.lt_succ_self _, hunsent⟩
    rw [hlast, or_assoc]
  · rw [← List.concat_eq_append]
    apply h.once.concat
    rw [h.accounted, hbefore]
    rintro (hn | ⟨hlt, -⟩)
    · exact hunsent (h.sent.answered n hn)
    · exact Nat.lt_irrefl _ hlt

theorem AnsweredInv.finished {wpc : WebsocketPc} (h : AnsweredInv ⟨s, wpc, ep⟩ serials)
    (hsent : SentInv ⟨s', .idle, ep⟩) (hfinished : Finished s s' wpc) (hslot : SlotInv s wpc)
    (hframes : s'.frames = s.frames) :
    AnsweredInv ⟨s', .idle, ep⟩ (serials ++ replySerials s s') := by
  have hpos : 0 < s.frames.length := by
    apply h.arrived
    cases hfinished <;> simp
  have hdone : s'.frames.length = s.frames.length - 1 + 1 := by
    rw [hframes]
    omega
  cases hfinished with
  | sent p sent answered replies =>
      have hserial : p.serial = s.frames.length - 1 := by
        have hnew : p.serial + 1 = s.frames.length := hslot.1
        omega
      rw [hserial] at sent
      rw [replies, List.append_nil]
      exact h.frameSent hsent rfl hdone rfl sent answered
  | refused len sent answered replies =>
      rw [replies]
      exact h.frameRefused hsent rfl hdone rfl sent answered

theorem doneFrames_le (s : SharedState) (pc : WebsocketPc) :
    doneFrames s pc ≤ s.frames.length := by
  cases pc with
  | idle => exact Nat.le_refl _
  | _ => exact Nat.sub_le _ _

theorem AnsweredInv.lt {s : State ι} {k : Nat} (h : AnsweredInv s serials) (hk : k ∈ serials) :
    k < s.shared.frames.length := by
  have hdone : k < doneFrames s.shared s.websocket := by
    rcases (h.accounted k).mp hk with hanswered | ⟨hlt, -⟩
    · exact h.done k (h.sent.answered k hanswered)
    · exact hlt
  exact Nat.lt_of_lt_of_le hdone (doneFrames_le _ _)

/-- Between two data events, every frame has been answered or its message is
outstanding. -/
theorem AnsweredInv.answered_or_outstanding {s : State ι} {k : Nat} (h : AnsweredInv s serials)
    (haccounted : ∀ k ∈ sentSerials s.shared, Outstanding s k ∨ k ∈ answeredSerials s.shared)
    (hidle : s.websocket = .idle) (hk : k < s.shared.frames.length) :
    k ∈ serials ∨ Outstanding s k := by
  by_cases hsent : k ∈ sentSerials s.shared
  · rcases haccounted k hsent with houtstanding | hanswered
    · exact .inr houtstanding
    · exact .inl ((h.accounted k).mpr (.inl hanswered))
  · refine .inl ((h.accounted k).mpr (.inr ⟨?_, hsent⟩))
    rw [hidle]
    exact hk

variable [DecidableEq ι] {endpointId : Int}
  {handler : XMailboxMessage → List UInt8 → HandlerRun} {t : ι} {pc pc' : EndpointPc}

/-- A polling task only ever takes the message it has found in the queue. -/
theorem EndpointMove.takes {p : MsgPtr} (move : EndpointMove endpointId handler s env pc s' pc')
    (hmemory : EndpointMemory endpointId s pc) (hp : taken pc' = some p) :
    taken pc = some p ∨ s.xMailboxIncomingQueue = some p := by
  cases move with
  | reset q =>
      cases hp
      exact .inr hmemory.2
  | handled q message pData readsMessage readsBody => exact .inl hp
  | inCallBack q status pc pc' s' move => exact .inl hp
  | _ => cases hp

theorem sentInv_endpoint (move : EndpointMove endpointId handler s env pc s' pc')
    (hpc : ep t = pc) (hmemory : EndpointMemory endpointId s pc)
    (h : SentInv ⟨s, wpc, ep⟩) : SentInv ⟨s', wpc, Function.update ep t pc'⟩ := by
  have hreport := EndpointMove.report move
  have hsent := hreport.sent_eq
  have htaken : ∀ p, taken pc = some p → p.serial ∈ sentSerials s :=
    fun p hp => h.taken t p ((congrArg taken hpc).trans hp)
  constructor
  · intro q hq
    rw [hsent]
    exact h.pending q (queue_of_drain (EndpointMove.queue move) hq)
  · intro p hp
    rw [hsent]
    exact h.displacing p hp
  · intro u p hp
    rw [hsent]
    by_cases hu : u = t
    · subst u
      simp only [Function.update_self] at hp
      rcases EndpointMove.takes move hmemory hp with hold | hpending
      · exact htaken p hold
      · exact h.pending p hpending
    · simp only [Function.update_of_ne hu] at hp
      exact h.taken u p hp
  · exact hreport.answeredSent htaken h.answered

theorem WebsocketMove.busy (move : WebsocketMove s env wpc s' wpc') : wpc ≠ .idle := by
  rintro rfl
  cases move

theorem answeredInv_step {cfg : Endpoints ι} {s s' : State ι} {a : Action ι}
    (h : AnsweredInv s serials) (hslot : SlotInv s.shared s.websocket)
    (hmemory : MemoryInv cfg s) (honce : (answeredSerials s'.shared).Nodup)
    (hstep : step cfg s a = some s') :
    AnsweredInv s' (serials ++ replySerials s.shared s'.shared) := by
  obtain ⟨shared, wpc, ep⟩ := s
  rcases step_cases hstep with ⟨bytes, -, hidle, rfl⟩ | ⟨env, shared', pc, -, move, rfl⟩ |
    ⟨t, env, shared', pc, -, move, rfl⟩
  · cases hidle
    have hsent : SentInv (⟨readFrame bytes shared, .mallocMessage bytes.length, ep⟩ : State ι) :=
      ⟨h.sent.pending, by rintro p ⟨⟩, h.sent.taken, h.sent.answered⟩
    have hreport : Report shared (readFrame bytes shared) none := report_of_same rfl
    refine h.reported hsent hreport (by rintro p ⟨⟩) honce ?_ ?_
    · simp [doneFrames, readFrame]
    · simp [readFrame]
  · have hframes := WebsocketMove.frames move
    have hsent := sentInv_websocket move hslot h.sent
    have hbusy := WebsocketMove.busy move
    rcases WebsocketMove.report move hslot with ⟨hbusy', hreport⟩ | ⟨rfl, hfinished⟩
    · refine h.reported hsent hreport h.sent.displacing honce ?_ ?_
      · change doneFrames shared' pc = doneFrames shared wpc
        rw [doneFrames_busy hbusy', doneFrames_busy hbusy, hframes]
      · intro _
        change 0 < shared'.frames.length
        rw [hframes]
        exact h.arrived hbusy
    · exact h.finished hsent hfinished hslot hframes
  · have hframes := EndpointMove.frames move
    have hsent := sentInv_endpoint move rfl (hmemory.task t) h.sent
    refine h.reported hsent (EndpointMove.report move) (h.sent.taken t) honce ?_ ?_
    · change doneFrames shared' wpc = doneFrames shared wpc
      by_cases hidle : wpc = .idle
      · rw [hidle, doneFrames, doneFrames, hframes]
      · rw [doneFrames_busy hidle, doneFrames_busy hidle, hframes]
    · intro hbusy
      change 0 < shared'.frames.length
      rw [hframes]
      exact h.arrived hbusy

end Runs

end Esp32Iot.AnsweredFrames
