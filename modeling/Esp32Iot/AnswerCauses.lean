import Esp32Iot.Refusals

namespace Esp32Iot.AnswerCauses

open Esp32Iot.AnsweredFrames
open Esp32Iot.AtomicCalls
open Esp32Iot.BlockHeap
open Esp32Iot.Communication
open Esp32Iot.Custody
open Esp32Iot.FrameMessages
open Esp32Iot.GuardedRun
open Esp32Iot.Mailbox
open Esp32Iot.MessageMemory
open Esp32Iot.Refusals
open Esp32Iot.TaskHistory
open Esp32Iot.TaskOrder
open Esp32Iot.TaskOwnership
open Esp32Iot.TaskSteps

def executedSerial : Event → Option Nat
  | .handled _ serial _ _ _ => some serial
  | _ => none

def executedSerials (s : SharedState) : List Nat := s.trace.filterMap executedSerial

variable {ι : Type*}

/-- The handler of task `t` has been called on the message of frame `k`, which is
addressed to it, and has returned `status`. -/
def Executed (cfg : Endpoints ι) (frames : List (List UInt8)) (log : List Event) (t : ι)
    (k : Nat) (status : Int) : Prop :=
  ∃ frame pData, frames[k]? = some frame ∧ frameEndpointId frame = cfg.endpointId t ∧
    status = (cfg.handler t (frameMessage frame pData) (frameBody frame)).status ∧
    .handled (cfg.endpointId t) k (frameMessage frame pData) (frameBody frame)
      (cfg.handler t (frameMessage frame pData) (frameBody frame)).calls ∈ log

/-- An answer is the reply to its frame, and what was logged before it says why it
has this status. -/
def AnswerCaused (cfg : Endpoints ι) (frames : List (List UInt8)) (before : List Event) :
    Event → Prop
  | .answered k status reply =>
      (∃ frame, frames[k]? = some frame ∧ reply = replyTo frame status) ∧
        (status = errNotRecieved ∧ .displaced k ∈ before ∨
          ∃ t, Executed cfg frames before t k status)
  | .refused reply => RefusalCaused frames before reply
  | _ => True

structure AnswersCaused (cfg : Endpoints ι) (s : SharedState) : Prop where
  answered : Ordered (AnswerCaused cfg s.frames) s.trace
  exclusive : ∀ k ∈ displacedSerials s, k ∉ executedSerials s
  executedOnce : (executedSerials s).Nodup

/-- What the tasks know of the messages in their hands. -/
structure CauseInv (cfg : Endpoints ι) (s : State ι) : Prop where
  caused : AnswersCaused cfg s.shared
  addressed : ∀ k ∈ executedSerials s.shared,
    ∃ t, k ∈ handledSerials (cfg.endpointId t) s.shared
  undisplaced : ∀ t p, taken (s.endpoint t) = some p → p.serial ∉ displacedSerials s.shared
  unexecuted : ∀ t p, s.endpoint t = .handle p → p.serial ∉ executedSerials s.shared
  displacing : ∀ p, displacing s.websocket = some p →
    .displaced p.serial ∈ s.shared.trace ∧ p.serial ∉ executedSerials s.shared
  executing : ∀ t p status pc, s.endpoint t = .callBack p status pc →
    Executed cfg s.shared.frames s.shared.trace t p.serial status

variable {cfg : Endpoints ι}

section Logs

variable {s s' : SharedState} {frames frames' : List (List UInt8)} {log log' : List Event}
  {e : Option Event} {t : ι} {k : Nat} {status : Int}

theorem Executed.mono (h : Executed cfg frames log t k status)
    (hframes : ∀ frame, frames[k]? = some frame → frames'[k]? = some frame)
    (hlog : ∀ x ∈ log, x ∈ log') : Executed cfg frames' log' t k status := by
  obtain ⟨frame, pData, hframe, hid, hstatus, hmem⟩ := h
  exact ⟨frame, pData, hframes _ hframe, hid, hstatus, hlog _ hmem⟩

theorem AnswerCaused.mono {before : List Event} {x : Event}
    (h : AnswerCaused cfg frames before x)
    (hframes : ∀ (k : Nat) frame, frames[k]? = some frame → frames'[k]? = some frame) :
    AnswerCaused cfg frames' before x := by
  cases x with
  | answered k status reply =>
      obtain ⟨⟨frame, hframe, hreply⟩, hcause⟩ := h
      refine ⟨⟨frame, hframes _ _ hframe, hreply⟩, ?_⟩
      rcases hcause with hdisplaced | ⟨t, hexecuted⟩
      · exact .inl hdisplaced
      · exact .inr ⟨t, hexecuted.mono (hframes k) fun _ hx => hx⟩
  | refused reply =>
      obtain ⟨k, hrefuses, hnone⟩ := h
      exact ⟨k, hrefuses.mono (hframes k), hnone⟩
  | _ => trivial

theorem serials_append {f : Event → Option Nat} (htrace : s'.trace = s.trace ++ e.toList)
    (hk : k ∈ s'.trace.filterMap f) :
    k ∈ s.trace.filterMap f ∨ ∃ x ∈ e, f x = some k := by
  rw [htrace, List.filterMap_append] at hk
  rcases List.mem_append.mp hk with hold | hnew
  · exact .inl hold
  · obtain ⟨x, hx, hfx⟩ := List.mem_filterMap.mp hnew
    exact .inr ⟨x, Option.mem_toList.mp hx, hfx⟩

/-- A step that logs at most one event keeps the causes in order, provided that what
it displaces or executes is new. -/
theorem AnswersCaused.follow (h : AnswersCaused cfg s)
    (htrace : s'.trace = s.trace ++ e.toList) (hframes : Extends s s')
    (hcaused : ∀ x ∈ e, AnswerCaused cfg s'.frames s.trace x)
    (hdisplaces : ∀ x ∈ e, ∀ k, displacedSerial x = some k → k ∉ executedSerials s)
    (hexecutes : ∀ x ∈ e, ∀ k, executedSerial x = some k →
      k ∉ displacedSerials s ∧ k ∉ executedSerials s) : AnswersCaused cfg s' := by
  constructor
  · rw [htrace]
    apply Ordered.append
    · intro before x after hsplit
      exact (h.answered before x after hsplit).mono hframes
    · exact hcaused
  · intro k hdisplaced hexecuted
    rcases serials_append htrace hdisplaced with hd | ⟨x, hx, hd⟩ <;>
      rcases serials_append htrace hexecuted with he | ⟨y, hy, he⟩
    · exact h.exclusive k hd he
    · exact (hexecutes y hy k he).1 hd
    · exact hdisplaces x hx k hd he
    · cases hx.symm.trans hy
      cases x with
      | displaced => cases he
      | _ => cases hd
  · rw [executedSerials, htrace, List.filterMap_append]
    apply List.Nodup.append h.executedOnce
    · cases e with
      | none => exact List.nodup_nil
      | some x =>
          cases hx : executedSerial x with
          | none => simp [hx]
          | some k => simp [hx]
    · intro k hold hnew
      obtain ⟨x, hx, hfx⟩ := List.mem_filterMap.mp hnew
      exact (hexecutes x (Option.mem_toList.mp hx) k hfx).2 hold

end Logs

section Steps

variable {s s' : SharedState} {env : Env} {wpc wpc' : WebsocketPc} {ep : ι → EndpointPc}

/-- Neither an answer nor a fate of a message. -/
def Quiet (x : Event) : Prop :=
  (answeredSerial x = none ∧ refusal x = none) ∧ displacedSerial x = none ∧
    executedSerial x = none

theorem Quiet.caused {frames : List (List UInt8)} {before : List Event} {x : Event}
    (h : Quiet x) : AnswerCaused cfg frames before x := by
  cases x with
  | answered => cases h.1.1
  | refused => cases h.1.2
  | _ => trivial

theorem AnswersCaused.quiet {e : Option Event} (h : AnswersCaused cfg s)
    (htrace : s'.trace = s.trace ++ e.toList) (hframes : Extends s s')
    (hquiet : ∀ x ∈ e, Quiet x) : AnswersCaused cfg s' := by
  apply h.follow htrace hframes
  · exact fun x hx => (hquiet x hx).caused
  · intro x hx k hk
    rw [(hquiet x hx).2.1] at hk
    cases hk
  · intro x hx k hk
    rw [(hquiet x hx).2.2] at hk
    cases hk

theorem handledSerials_append {e : Option Event} {endpointId : Int} {k : Nat}
    (htrace : s'.trace = s.trace ++ e.toList) (hk : k ∈ handledSerials endpointId s) :
    k ∈ handledSerials endpointId s' := by
  rw [handledSerials, htrace, List.filterMap_append]
  exact List.mem_append_left _ hk

/-- A step of the websocket task, by what it logs and what it holds afterwards. -/
theorem causeInv_of_log {e : Option Event} (h : CauseInv cfg ⟨s, wpc, ep⟩)
    (htrace : s'.trace = s.trace ++ e.toList) (hframes : s'.frames = s.frames)
    (hcaused : AnswersCaused cfg s') (hunexecuted : ∀ x ∈ e, executedSerial x = none)
    (hundisplaced : ∀ x ∈ e, ∀ t p, taken (ep t) = some p →
      displacedSerial x ≠ some p.serial)
    (hdisplacing : ∀ p, displacing wpc' = some p →
      .displaced p.serial ∈ s'.trace ∧ p.serial ∉ executedSerials s) :
    CauseInv cfg ⟨s', wpc', ep⟩ := by
  have hexecuted : executedSerials s' = executedSerials s := filterMap_log htrace hunexecuted
  refine ⟨hcaused, ?_, ?_, ?_, ?_, ?_⟩
  · intro k hk
    rw [hexecuted] at hk
    obtain ⟨t, ht⟩ := h.addressed k hk
    exact ⟨t, handledSerials_append htrace ht⟩
  · intro t p hp hdisplaced
    rcases serials_append htrace hdisplaced with hold | ⟨x, hx, hnew⟩
    · exact h.undisplaced t p hp hold
    · exact hundisplaced x hx t p hp hnew
  · intro t p hp
    rw [hexecuted]
    exact h.unexecuted t p hp
  · intro p hp
    rw [hexecuted]
    exact hdisplacing p hp
  · intro t p status pc hpc
    refine (h.executing t p status pc hpc).mono ?_ ?_
    · intro frame hframe
      rw [hframes]
      exact hframe
    · intro x hx
      rw [htrace]
      exact List.mem_append_left _ hx

/-- What is pending has neither been displaced nor executed. -/
theorem CauseInv.pending {s : State ι} {q : MsgPtr} (h : CauseInv cfg s)
    (horder : OrderInv cfg s) (hq : s.shared.xMailboxIncomingQueue = some q) :
    q.serial ∉ displacedSerials s.shared ∧ q.serial ∉ executedSerials s.shared := by
  constructor
  · intro hk
    exact Nat.lt_irrefl _ ((horder.displaced.2 _ hk).2 q hq)
  · intro hk
    obtain ⟨t, ht⟩ := h.addressed _ hk
    exact Nat.lt_irrefl _ (((horder.handled t).2 _ ht).2 q hq)

theorem caused_reply {p : MsgPtr} {status : Int} {before : List Event}
    (hstored : Stored s p)
    (hcause : status = errNotRecieved ∧ .displaced p.serial ∈ before ∨
      ∃ t, Executed cfg s.frames before t p.serial status) :
    AnswerCaused cfg s.frames before (.answered p.serial status
      (sendStatus (readMessage s env p).endpointId (readMessage s env p).messageId status)) := by
  obtain ⟨frame, pData, hframe, hmessage, -, -⟩ := hstored.read env
  refine ⟨⟨frame, hframe, ?_⟩, hcause⟩
  rw [hmessage]
  exact sendStatus_frameMessage frame pData status

theorem causeInv_websocket (move : WebsocketMove s env wpc s' wpc')
    (hmem : WebsocketMemory s wpc) (h : CauseInv cfg ⟨s, wpc, ep⟩)
    (hpending : ∀ q, s.xMailboxIncomingQueue = some q →
      q.serial ∉ displacedSerials s ∧ q.serial ∉ executedSerials s)
    (hdistinct : ∀ q t p, s.xMailboxIncomingQueue = some q → taken (ep t) = some p →
      q.serial ≠ p.serial)
    (hrefused : ∀ len, wpc = .refuse len → RefusalCaused s.frames s.trace
      (sendStatus (dataEvent s len).endpointId (dataEvent s len).messageId
        errNotEnoughMemory)) : CauseInv cfg ⟨s', wpc', ep⟩ := by
  have hframes := WebsocketMove.frames move
  have hextends := extends_of_eq hframes
  have hquiet : ∀ e : Option Event, s'.trace = s.trace ++ e.toList → (∀ x ∈ e, Quiet x) →
      (∀ p, displacing wpc' = some p → displacing wpc = some p) →
      CauseInv cfg ⟨s', wpc', ep⟩ := by
    intro e htrace he hheld
    refine causeInv_of_log h htrace hframes (h.caused.quiet htrace hextends he)
      (fun x hx => (he x hx).2.2) ?_ ?_
    · intro x hx t p _ hk
      rw [(he x hx).2.1] at hk
      cases hk
    · intro p hp
      obtain ⟨hdisplaced, hunexecuted⟩ := h.displacing p (hheld p hp)
      refine ⟨?_, hunexecuted⟩
      rw [htrace]
      exact List.mem_append_left _ hdisplaced
  cases move with
  | received p prevMessage full =>
      obtain ⟨-, hunexecuted⟩ := hpending prevMessage full
      refine causeInv_of_log h (e := some _) rfl rfl ?_ ?_ ?_ ?_
      · apply h.caused.follow (e := some _) rfl hextends
        · rintro x ⟨⟩
          trivial
        · rintro x ⟨⟩ k ⟨⟩
          exact hunexecuted
        · rintro x ⟨⟩ k ⟨⟩
      · rintro x ⟨⟩
        rfl
      · rintro x ⟨⟩ t q hq hsame
        exact hdistinct prevMessage t q full hq (Option.some.inj hsame)
      · rintro q ⟨⟩
        exact ⟨List.mem_append_right _ (List.mem_singleton_self _), hunexecuted⟩
  | inCallBack p prevMessage pc pc' s' move =>
      cases move with
      | reply known =>
          have hdisplacing := h.displacing prevMessage rfl
          refine causeInv_of_log h (e := some _) rfl rfl ?_ ?_ ?_ ?_
          · apply h.caused.follow (e := some _) rfl hextends
            · rintro x ⟨⟩
              exact caused_reply hmem.2 (.inl ⟨rfl, hdisplacing.1⟩)
            · rintro x ⟨⟩ k ⟨⟩
            · rintro x ⟨⟩ k ⟨⟩
          · rintro x ⟨⟩
            rfl
          · rintro x ⟨⟩ t q hq ⟨⟩
          · rintro q ⟨⟩
            exact ⟨List.mem_append_left _ hdisplacing.1, hdisplacing.2⟩
      | freeData =>
          apply hquiet none
          · simp [SharedState.free]
          · rintro x ⟨⟩
          · exact fun q hq => hq
  | calledBack p prevMessage pc s' move =>
      cases move with
      | freeMessage =>
          apply hquiet (some _) rfl
          · rintro x ⟨⟩
            exact ⟨⟨rfl, rfl⟩, rfl, rfl⟩
          · rintro q ⟨⟩
  | refuse len =>
      refine causeInv_of_log h (e := some _) rfl rfl ?_ ?_ ?_ ?_
      · apply h.caused.follow (e := some _) rfl hextends
        · rintro x ⟨⟩
          exact hrefused len rfl
        · rintro x ⟨⟩ k ⟨⟩
        · rintro x ⟨⟩ k ⟨⟩
      · rintro x ⟨⟩
        rfl
      · rintro x ⟨⟩ t q hq ⟨⟩
      · rintro q ⟨⟩
  | sent p empty | notSent p q full =>
      apply hquiet (some _) rfl
      · rintro x ⟨⟩
        exact ⟨⟨rfl, rfl⟩, rfl, rfl⟩
      · rintro q ⟨⟩
  | _ =>
      apply hquiet none
      · simp [setFields, SharedState.resetQueue]
      · rintro x ⟨⟩
      · rintro q ⟨⟩

variable [DecidableEq ι] {t : ι} {pc pc' : EndpointPc}

/-- A step of task `t`, by what it logs and where it stands afterwards. -/
theorem causeInv_of_poll {e : Option Event} (h : CauseInv cfg ⟨s, wpc, ep⟩)
    (htrace : s'.trace = s.trace ++ e.toList) (hframes : s'.frames = s.frames)
    (hcaused : AnswersCaused cfg s')
    (hexecutes : ∀ x ∈ e, ∀ k, executedSerial x = some k →
      k ∈ handledSerials (cfg.endpointId t) s' ∧
      (∀ u p, u ≠ t → ep u = .handle p → p.serial ≠ k) ∧
      ∀ p, displacing wpc = some p → p.serial ≠ k)
    (hundisplaced : ∀ x ∈ e, displacedSerial x = none)
    (htaken : ∀ p, taken pc' = some p → p.serial ∉ displacedSerials s)
    (hunexecuted : ∀ p, pc' = .handle p → p.serial ∉ executedSerials s')
    (hexecuting : ∀ p status cpc, pc' = .callBack p status cpc →
      Executed cfg s.frames s'.trace t p.serial status) :
    CauseInv cfg ⟨s', wpc, Function.update ep t pc'⟩ := by
  have hdisplaced : displacedSerials s' = displacedSerials s := filterMap_log htrace hundisplaced
  refine ⟨hcaused, ?_, ?_, ?_, ?_, ?_⟩
  · intro k hk
    rcases serials_append htrace hk with hold | ⟨x, hx, hnew⟩
    · obtain ⟨u, hu⟩ := h.addressed k hold
      exact ⟨u, handledSerials_append htrace hu⟩
    · exact ⟨t, (hexecutes x hx k hnew).1⟩
  · intro u p hp
    rw [hdisplaced]
    by_cases hu : u = t
    · subst u
      simp only [Function.update_self] at hp
      exact htaken p hp
    · simp only [Function.update_of_ne hu] at hp
      exact h.undisplaced u p hp
  · intro u p hp
    by_cases hu : u = t
    · subst u
      simp only [Function.update_self] at hp
      exact hunexecuted p hp
    · simp only [Function.update_of_ne hu] at hp
      intro hk
      rcases serials_append htrace hk with hold | ⟨x, hx, hnew⟩
      · exact h.unexecuted u p hp hold
      · exact (hexecutes x hx _ hnew).2.1 u p hu hp rfl
  · intro p hp
    obtain ⟨hgone, hunhandled⟩ := h.displacing p hp
    constructor
    · rw [htrace]
      exact List.mem_append_left _ hgone
    · intro hk
      rcases serials_append htrace hk with hold | ⟨x, hx, hnew⟩
      · exact hunhandled hold
      · exact (hexecutes x hx _ hnew).2.2 p hp rfl
  · intro u p status cpc hp
    simp only [hframes]
    by_cases hu : u = t
    · subst u
      simp only [Function.update_self] at hp
      exact hexecuting p status cpc hp
    · simp only [Function.update_of_ne hu] at hp
      refine (h.executing u p status cpc hp).mono (fun _ hframe => hframe) ?_
      intro x hx
      rw [htrace]
      exact List.mem_append_left _ hx

theorem causeInv_endpoint
    (move : EndpointMove (cfg.endpointId t) (cfg.handler t) s env pc s' pc') (hpc : ep t = pc)
    (hmem : EndpointMemory (cfg.endpointId t) s pc) (h : CauseInv cfg ⟨s, wpc, ep⟩)
    (hpending : ∀ q, s.xMailboxIncomingQueue = some q →
      q.serial ∉ displacedSerials s ∧ q.serial ∉ executedSerials s)
    (hothers : ∀ p, taken pc = some p → ∀ u q, u ≠ t → taken (ep u) = some q →
      q.serial ≠ p.serial)
    (hdistinct : ∀ p q, taken pc = some p → displacing wpc = some q →
      q.serial ≠ p.serial) :
    CauseInv cfg ⟨s', wpc, Function.update ep t pc'⟩ := by
  have hframes := EndpointMove.frames move
  have hextends := extends_of_eq hframes
  have hundisplaced : ∀ p, taken pc = some p → p.serial ∉ displacedSerials s :=
    fun p hp => h.undisplaced t p ((congrArg taken hpc).trans hp)
  have hquiet : ∀ e : Option Event, s'.trace = s.trace ++ e.toList → (∀ x ∈ e, Quiet x) →
      (∀ p, taken pc' = some p → p.serial ∉ displacedSerials s) →
      (∀ p, pc' = .handle p → p.serial ∉ executedSerials s) →
      (∀ p status cpc, pc' = .callBack p status cpc →
        Executed cfg s.frames s.trace t p.serial status) →
      CauseInv cfg ⟨s', wpc, Function.update ep t pc'⟩ := by
    intro e htrace he htaken hhandle hcall
    have hexecuted : executedSerials s' = executedSerials s :=
      filterMap_log htrace fun x hx => (he x hx).2.2
    refine causeInv_of_poll h htrace hframes (h.caused.quiet htrace hextends he) ?_
      (fun x hx => (he x hx).2.1) htaken ?_ ?_
    · intro x hx k hk
      rw [(he x hx).2.2] at hk
      cases hk
    · intro p hp
      rw [hexecuted]
      exact hhandle p hp
    · intro p status cpc hp
      refine (hcall p status cpc hp).mono (fun _ hframe => hframe) ?_
      intro x hx
      rw [htrace]
      exact List.mem_append_left _ hx
  cases move with
  | reset p =>
      obtain ⟨hdisplaced, hexecuted⟩ := hpending p hmem.2
      apply hquiet none
      · simp [SharedState.resetQueue]
      · rintro x ⟨⟩
      · rintro q ⟨⟩
        exact hdisplaced
      · rintro q ⟨⟩
        exact hexecuted
      · rintro q status cpc ⟨⟩
  | handled p message pData readsMessage readsBody =>
      have hunexecuted := h.unexecuted t p hpc
      obtain ⟨⟨frame, hframe, hid⟩, hstored⟩ := hmem
      obtain ⟨frame', addr, hframe', hmessage, hdata, -⟩ := hstored.read env
      cases hframe.symm.trans hframe'
      rw [hmessage] at readsMessage
      rw [readsMessage] at readsBody
      rw [hmessage] at hdata
      rw [hdata] at readsBody
      subst readsMessage readsBody
      refine causeInv_of_poll h (e := some _) rfl rfl ?_ ?_ ?_ ?_ ?_ ?_
      · apply h.caused.follow (e := some _) rfl hextends
        · rintro x ⟨⟩
          trivial
        · rintro x ⟨⟩ k ⟨⟩
        · rintro x ⟨⟩ k ⟨⟩
          exact ⟨hundisplaced p rfl, hunexecuted⟩
      · rintro x ⟨⟩ k ⟨⟩
        refine ⟨?_, ?_, fun q hq => hdistinct p q rfl hq⟩
        · simp [handledSerials, SharedState.log, handledSerial]
        · intro u q hu hq
          exact hothers p rfl u q hu (congrArg taken hq)
      · rintro x ⟨⟩
        rfl
      · rintro q ⟨⟩
        exact hundisplaced p rfl
      · rintro q ⟨⟩
      · rintro q status cpc ⟨⟩
        exact ⟨frame, addr, hframe, hid, rfl,
          List.mem_append_right _ (List.mem_singleton_self _)⟩
  | inCallBack p status cpc cpc' s' move =>
      have hexecuting := h.executing t p status cpc hpc
      cases move with
      | reply known =>
          refine causeInv_of_poll h (e := some _) rfl rfl ?_ ?_ ?_ (hundisplaced) ?_ ?_
          · apply h.caused.follow (e := some _) rfl hextends
            · rintro x ⟨⟩
              exact caused_reply hmem (.inr ⟨t, hexecuting⟩)
            · rintro x ⟨⟩ k ⟨⟩
            · rintro x ⟨⟩ k ⟨⟩
          · rintro x ⟨⟩ k ⟨⟩
          · rintro x ⟨⟩
            rfl
          · rintro q ⟨⟩
          · rintro q status' cpc ⟨⟩
            refine hexecuting.mono (fun _ hframe => hframe) ?_
            exact fun x hx => List.mem_append_left _ hx
      | freeData =>
          apply hquiet none
          · simp [SharedState.free]
          · rintro x ⟨⟩
          · exact hundisplaced
          · rintro q ⟨⟩
          · rintro q status' cpc ⟨⟩
            exact hexecuting
  | calledBack p status cpc s' move =>
      cases move with
      | freeMessage =>
          apply hquiet (some _) rfl
          · rintro x ⟨⟩
            exact ⟨⟨rfl, rfl⟩, rfl, rfl⟩
          · rintro q ⟨⟩
          · rintro q ⟨⟩
          · rintro q status' cpc ⟨⟩
  | _ =>
      apply hquiet none
      · simp
      · rintro x ⟨⟩
      · rintro q ⟨⟩
      · rintro q ⟨⟩
      · rintro q status' cpc ⟨⟩

end Steps

section Runs

variable [DecidableEq ι] {rx : List UInt8} {as : List (Action ι)} {s : State ι}
  {guard : State ι → Action ι → Prop}

omit [DecidableEq ι] in
theorem causeInv_start : CauseInv cfg (start rx) where
  caused := ⟨ordered_nil, (fun k hk => by cases hk), List.nodup_nil⟩
  addressed k hk := by cases hk
  undisplaced t p hp := by cases hp
  unexecuted t p hp := by cases hp
  displacing p hp := by cases hp
  executing t p status pc hpc := by cases hpc

omit [DecidableEq ι] in
theorem causeInv_frame {bytes : List UInt8} (h : CauseInv cfg s) :
    CauseInv cfg { s with
      shared := readFrame bytes s.shared
      websocket := .mallocMessage bytes.length } where
  caused := h.caused.quiet (e := none) (by simp [readFrame]) extends_readFrame
    (by rintro x ⟨⟩)
  addressed := h.addressed
  undisplaced := h.undisplaced
  unexecuted := h.unexecuted
  displacing p hp := by cases hp
  executing t p status pc hpc := (h.executing t p status pc hpc).mono
    (fun _ hframe => frame_later hframe) fun _ hx => hx

theorem causeInv_run (run : Run (step cfg) guard (start rx) as s)
    (hguard : ∀ u a, guard u a → BodyCopied u a ∧ TakesAlone cfg u a) : CauseInv cfg s := by
  apply run.invariant causeInv_start
  intro bs u a v hbefore hu hallowed hstep
  have horder := orderInv_run hbefore
  obtain ⟨hmemory, ms, l, hledger, howns⟩ := owns_run hbefore hguard
  have hinv := ledgerInv_run hledger
  have hpending := fun q => hu.pending (q := q) horder
  obtain ⟨shared, wpc, ep⟩ := u
  rcases step_cases hstep with ⟨bytes, rfl, -, rfl⟩ | ⟨env, shared', pc, rfl, move, rfl⟩ |
    ⟨t, env, shared', pc, rfl, move, rfl⟩
  · exact causeInv_frame hu
  · apply causeInv_websocket move hmemory.websocket hu hpending
    · intro q t p hq hp
      obtain ⟨b, hplaced⟩ := placed_taken (s := ⟨shared, wpc, ep⟩) hp
      exact howns.ne hinv (a := .mailbox) hq hplaced (by simp)
    · exact fun len hpc => refusalCaused_run hbefore hguard hpc
  · refine causeInv_endpoint move rfl (hmemory.task t) hu hpending ?_ ?_
    · intro p hp v q hv hq
      obtain ⟨b, hp⟩ := placed_taken (s := ⟨shared, wpc, ep⟩) hp
      obtain ⟨b', hq⟩ := placed_taken (s := ⟨shared, wpc, ep⟩) hq
      refine howns.ne hinv hq hp ?_
      rintro ⟨⟩
      exact hv rfl
    · intro p q hp hq
      obtain ⟨b, hp⟩ := placed_taken (s := ⟨shared, wpc, ep⟩) hp
      obtain ⟨b', hq⟩ := placed_displacing (s := ⟨shared, wpc, ep⟩) hq
      exact howns.ne hinv hq hp (by simp)

/-- Every answer is the reply to its own frame and has a cause: the message was
displaced, and is never executed, or the endpoint it is addressed to executed it
before, and no message is executed twice; or no memory was found for the frame. -/
theorem answersCaused_run
    (run : Run (step cfg) (fun s a => BodyCopied s a ∧ TakesAlone cfg s a) (start rx) as s) :
    AnswersCaused cfg s.shared ∧ ∃ ks, Refused s.shared ks :=
  ⟨(causeInv_run run fun _ _ hua => hua).caused, refused_run run fun _ _ hua => hua⟩

/-- One message is displaced, one executed, and one frame refused. -/
theorem answersCaused_all :
    ∃ s, Run (step gpioEndpoints) (fun s a => BodyCopied s a ∧ TakesAlone gpioEndpoints s a)
      (start []) (storeFrame [1, 0, 2, 7] 0 1 ++ displaceFrame [1, 1, 3, 7] 2 3 ++
        endpointSteps () 8 ++ .frame [1, 2, 3, 7] :: websocketSteps [none, none]) s ∧
      (s.shared.trace.filterMap answer =
          [(0, errNotRecieved, [1, 2, 0]), (1, msgOk, [1, 0, 1])] ∧
        refusals s.shared = [[1, 1, 2]]) ∧
      AnswersCaused gpioEndpoints s.shared ∧ ∃ ks, Refused s.shared ks := by
  obtain ⟨s, run, htest⟩ := Run.exists_of_exec_any (step gpioEndpoints)
    (fun s a => BodyCopied s a ∧ TakesAlone gpioEndpoints s a) (start [])
    (storeFrame [1, 0, 2, 7] 0 1 ++ displaceFrame [1, 1, 3, 7] 2 3 ++
      endpointSteps () 8 ++ .frame [1, 2, 3, 7] :: websocketSteps [none, none])
    (fun s => decide (s.shared.trace.filterMap answer =
        [(0, errNotRecieved, [1, 2, 0]), (1, msgOk, [1, 0, 1])] ∧
      refusals s.shared = [[1, 1, 2]])) (by decide)
  exact ⟨s, run, of_decide_eq_true htest, answersCaused_run run⟩

end Runs

end Esp32Iot.AnswerCauses
