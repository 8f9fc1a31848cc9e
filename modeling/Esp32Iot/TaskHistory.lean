import Esp32Iot.TaskSteps

namespace Esp32Iot.TaskHistory

open Esp32Iot.Mailbox
open Esp32Iot.Communication
open Esp32Iot.GuardedRun
open Esp32Iot.TaskSteps

def isHandled : Event → Bool
  | .handled _ _ _ _ _ => true
  | _ => false

def isCompletion : Event → Bool
  | .answered _ _ _ | .released _ => true
  | _ => false

theorem not_isHandled_of_isCompletion {e : Event} (he : isCompletion e = true) :
    isHandled e = false := by
  cases e with
  | answered | released => rfl
  | _ => cases he

variable {s s' : SharedState} {env : Env}

theorem CallBackMove.log {p : MsgPtr} {status : Int} {pc : CallBackPc}
    {next : Option CallBackPc} (move : CallBackMove s env p status pc s' next) :
    ∃ e : Option Event, s'.trace = s.trace ++ e.toList ∧ ∀ x ∈ e, isCompletion x = true := by
  cases move with
  | freeData =>
      refine ⟨none, by simp [SharedState.free], ?_⟩
      rintro x ⟨⟩
  | reply | freeMessage =>
      refine ⟨some _, rfl, ?_⟩
      rintro x ⟨⟩
      rfl

theorem CallBackMove.log_unhandled {p : MsgPtr} {status : Int} {pc : CallBackPc}
    {next : Option CallBackPc} (move : CallBackMove s env p status pc s' next) :
    ∃ e : Option Event, s'.trace = s.trace ++ e.toList ∧ ∀ x ∈ e, isHandled x = false := by
  obtain ⟨e, htrace, hcompletion⟩ := CallBackMove.log move
  exact ⟨e, htrace, fun x hx => not_isHandled_of_isCompletion (hcompletion x hx)⟩

theorem WebsocketMove.log {pc pc' : WebsocketPc} (move : WebsocketMove s env pc s' pc') :
    ∃ e : Option Event, s'.trace = s.trace ++ e.toList ∧ ∀ x ∈ e, isHandled x = false := by
  cases move with
  | inCallBack p prevMessage pc pc' s' move => exact CallBackMove.log_unhandled move
  | calledBack p prevMessage pc s' move => exact CallBackMove.log_unhandled move
  | refuse | received | sent | notSent =>
      refine ⟨some _, rfl, ?_⟩
      rintro x ⟨⟩
      rfl
  | _ =>
      refine ⟨none, by simp [setFields, SharedState.resetQueue], ?_⟩
      rintro x ⟨⟩

theorem CallBackMove.frames {p : MsgPtr} {status : Int} {pc : CallBackPc}
    {next : Option CallBackPc} (move : CallBackMove s env p status pc s' next) :
    s'.frames = s.frames := by
  cases move <;> rfl

theorem WebsocketMove.frames {pc pc' : WebsocketPc}
    (move : WebsocketMove s env pc s' pc') : s'.frames = s.frames := by
  cases move with
  | inCallBack p prevMessage pc pc' s' move => exact CallBackMove.frames move
  | calledBack p prevMessage pc s' move => exact CallBackMove.frames move
  | _ => rfl

theorem EndpointMove.frames {endpointId : Int}
    {handler : XMailboxMessage → List UInt8 → HandlerRun} {pc pc' : EndpointPc}
    (move : EndpointMove endpointId handler s env pc s' pc') : s'.frames = s.frames := by
  cases move with
  | inCallBack p status pc pc' s' move => exact CallBackMove.frames move
  | calledBack p status pc s' move => exact CallBackMove.frames move
  | _ => rfl

theorem EndpointMove.log {endpointId : Int}
    {handler : XMailboxMessage → List UInt8 → HandlerRun} {pc pc' : EndpointPc}
    (move : EndpointMove endpointId handler s env pc s' pc') :
    ∃ e : Option Event, s'.trace = s.trace ++ e.toList ∧
      ∀ x ∈ e, isCompletion x = true ∨ ∃ p message data, pc = .handle p ∧
        message = readMessage s env p ∧ data = readBody s env message.pData ∧
        x = .handled endpointId p.serial message data (handler message data).calls := by
  cases move with
  | handled p message pData readsMessage readsBody =>
      refine ⟨some _, rfl, ?_⟩
      rintro x ⟨⟩
      exact .inr ⟨p, message, pData, rfl, readsMessage, readsBody, rfl⟩
  | inCallBack p status pc pc' s' move =>
      obtain ⟨e, htrace, hcompletion⟩ := CallBackMove.log move
      exact ⟨e, htrace, fun x hx => .inl (hcompletion x hx)⟩
  | calledBack p status pc s' move =>
      obtain ⟨e, htrace, hcompletion⟩ := CallBackMove.log move
      exact ⟨e, htrace, fun x hx => .inl (hcompletion x hx)⟩
  | _ =>
      refine ⟨none, by simp [SharedState.resetQueue], ?_⟩
      rintro x ⟨⟩

section Projections

variable {β : Type*} {f : Event → Option β} {e : Option Event}

theorem filterMap_silent (hf : ∀ x ∈ e, f x = none) : e.toList.filterMap f = [] := by
  cases e with
  | none => rfl
  | some x => simp [hf x rfl]

theorem filterMap_log (htrace : s'.trace = s.trace ++ e.toList) (hf : ∀ x ∈ e, f x = none) :
    s'.trace.filterMap f = s.trace.filterMap f := by
  rw [htrace, List.filterMap_append, filterMap_silent hf, List.append_nil]

/-- What an endpoint's step does not log, the step leaves as it was. -/
theorem EndpointMove.filterMap_trace {endpointId : Int}
    {handler : XMailboxMessage → List UInt8 → HandlerRun} {pc pc' : EndpointPc}
    (move : EndpointMove endpointId handler s env pc s' pc')
    (hcompletion : ∀ x, isCompletion x = true → f x = none)
    (hhandled : ∀ serial message data calls,
      f (.handled endpointId serial message data calls) = none) :
    s'.trace.filterMap f = s.trace.filterMap f := by
  obtain ⟨e, htrace, hlogged⟩ := EndpointMove.log move
  refine filterMap_log htrace ?_
  intro x hx
  rcases hlogged x hx with hdone | ⟨p, message, data, -, -, -, rfl⟩
  · exact hcompletion x hdone
  · exact hhandled _ _ _ _

end Projections

section Runs

variable {ι : Type*} [DecidableEq ι] {cfg : Endpoints ι} {rx : List UInt8}
  {guard : State ι → Action ι → Prop} {as : List (Action ι)} {s : State ι}

/-- A property of handled commands holds throughout a run if it holds of each
command when its handler is called, and later frames do not affect it. -/
theorem handled_run {Q : List (List UInt8) → Event → Prop}
    (run : Run (step cfg) guard (start rx) as s)
    (hother : ∀ frames e, isHandled e = false → Q frames e)
    (hlater : ∀ frames bytes e, Q frames e → Q (frames ++ [bytes]) e)
    (hcalled : ∀ bs u t env p message data, Run (step cfg) guard (start rx) bs u →
      guard u (.endpoint t env) → u.endpoint t = .handle p →
      message = readMessage u.shared env p → data = readBody u.shared env message.pData →
      Q u.shared.frames (.handled (cfg.endpointId t) p.serial message data
        (cfg.handler t message data).calls)) :
    ∀ e ∈ s.shared.trace, Q s.shared.frames e := by
  apply run.invariant (P := fun u => ∀ e ∈ u.shared.trace, Q u.shared.frames e)
  · intro e he
    cases he
  · intro bs u a v hbefore hu hallowed hstep
    rcases step_cases hstep with ⟨bytes, rfl, -, rfl⟩ | ⟨env, shared, pc, rfl, move, rfl⟩ |
      ⟨t, env, shared, pc, rfl, move, rfl⟩
    · intro e he
      exact hlater _ _ _ (hu e he)
    · obtain ⟨x, htrace, hnot⟩ := WebsocketMove.log move
      intro e he
      have hframes : shared.frames = u.shared.frames := WebsocketMove.frames move
      simp only [htrace, hframes] at he ⊢
      rcases List.mem_append.mp he with hold | hnew
      · exact hu e hold
      · exact hother _ _ (hnot e (Option.mem_toList.mp hnew))
    · obtain ⟨x, htrace, hlogged⟩ := EndpointMove.log move
      intro e he
      have hframes : shared.frames = u.shared.frames := EndpointMove.frames move
      simp only [htrace, hframes] at he ⊢
      rcases List.mem_append.mp he with hold | hnew
      · exact hu e hold
      · rcases hlogged e (Option.mem_toList.mp hnew) with
          hdone | ⟨p, message, data, hpc, hmessage, hdata, rfl⟩
        · exact hother _ _ (not_isHandled_of_isCompletion hdone)
        · exact hcalled _ _ _ _ _ _ _ hbefore hallowed hpc hmessage hdata

end Runs

end Esp32Iot.TaskHistory
