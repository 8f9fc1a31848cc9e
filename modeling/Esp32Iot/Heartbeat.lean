import Esp32Iot.AppState
import Esp32Iot.GpioCommands
import Esp32Iot.GuardedRun
import Esp32Iot.Interference

namespace Esp32Iot.Heartbeat

open Esp32Iot.AppState
open Esp32Iot.GpioCommands
open Esp32Iot.GpioDriver
open Esp32Iot.GpioEndpoint
open Esp32Iot.GuardedRun
open Esp32Iot.Interference
open Esp32Iot.Mailbox

def ledGpio : Int := 18

/-- Program points of the heartbeat; `left` is the number of blinks after this one. -/
inductive HeartbeatPc
  | padSelect
  | setDirection
  | getBits
  | blinkHigh (left : Nat)
  | blinkLow (left : Nat)
  | light
  deriving DecidableEq, Repr

def blinkTimes : Nat → HeartbeatPc
  | 0 => .getBits
  | count + 1 => .blinkHigh count

/-- One step of `vTaskHeartbeat`: a driver call, or a look at the event bits. -/
def vTaskHeartbeat (bits : EventBits) : HeartbeatPc → Option GpioCall × HeartbeatPc
  | .padSelect => (some (.padSelectGpio ledGpio), .setDirection)
  | .setDirection => (some (.setDirection ledGpio .output), .getBits)
  | .getBits => (none, if connectedToServer bits then blinkTimes 1 else .light)
  | .blinkHigh left => (some (.setLevel ledGpio 1), .blinkLow left)
  | .blinkLow left => (some (.setLevel ledGpio 0), blinkTimes left)
  | .light => (some (.setLevel ledGpio 1), .getBits)

inductive HandlerPc
  | idle
  | handling (c : Command) (calls : List GpioCall)
  deriving DecidableEq, Repr

inductive HandlerEvent
  | started (c : Command)
  | answered (c : Command) (status : Int)
  deriving DecidableEq, Repr

structure State where
  pins : Pins
  xAppStateEventGroup : EventBits
  heartbeat : HeartbeatPc
  endpoint : HandlerPc
  events : List HandlerEvent

inductive Action
  | appState (bits : EventBits)
  | heartbeat
  | message (c : Command)
  | endpoint

def start (pins : Pins) (bits : EventBits) : State where
  pins := pins
  xAppStateEventGroup := bits
  heartbeat := .padSelect
  endpoint := .idle
  events := []

/-- Other tasks set the event bits at any time, and the endpoint is given any
message as soon as it has answered the last one. -/
def step (port : GpioPort) (s : State) : Action → Option State
  | .appState bits => some { s with xAppStateEventGroup := bits }
  | .heartbeat =>
      match vTaskHeartbeat s.xAppStateEventGroup s.heartbeat with
      | (some call, pc) => some { s with pins := (port.call s.pins call).1, heartbeat := pc }
      | (none, pc) => some { s with heartbeat := pc }
  | .message c =>
      match s.endpoint with
      | .idle => some { s with
          endpoint := .handling c c.run.calls
          events := s.events ++ [.started c] }
      | .handling _ _ => none
  | .endpoint =>
      match s.endpoint with
      | .idle => none
      | .handling c (call :: calls) => some { s with
          pins := (port.call s.pins call).1
          endpoint := .handling c calls }
      | .handling c [] => some { s with
          endpoint := .idle
          events := s.events ++ [.answered c c.run.status] }

def Drives (c : Command) (pin : Int) : Prop := c.writes = true ∧ c.pin = pin

def level (c : Command) : Bool := decide (c.messageType = gpioSetHigh)

/-- The command was answered `MSG_OK`, and no write to the pin has started since. -/
def Standing (pin : Int) (c : Command) (events : List HandlerEvent) : Prop :=
  ∃ before after, events = before ++ .answered c msgOk :: after ∧
    ∀ c', HandlerEvent.started c' ∈ after → ¬ Drives c' pin

/-- The pin is as the command left it; on its own pin the heartbeat sees to the
level. -/
def Kept (pin : Int) (c : Command) (state : PinState) : Prop :=
  state.mode = .output ∧ (pin ≠ ledGpio → state.level = level c)

def Disturbed (pin : Int) (state state' : PinState) : Prop :=
  state' = state ∨ (pin = ledGpio ∧ (state'.mode = state.mode ∨ state'.mode = .output))

def callAt (port : GpioPort) (pin : Int) (call : GpioCall) (state : PinState) : PinState :=
  if port.accepts call = true ∧ call.pin = pin then port.effect call state else state

variable {port : GpioPort} {pins : Pins} {pin : Int} {c : Command} {s s' : State}

theorem call_at {call : GpioCall} :
    (port.call pins call).1 pin = callAt port pin call (pins pin) := by
  unfold GpioPort.call callAt
  by_cases haccepts : port.accepts call = true
  · rw [if_pos haccepts]
    by_cases hpin : call.pin = pin
    · subst hpin
      rw [if_pos ⟨haccepts, rfl⟩]
      exact Function.update_self _ _ _
    · rw [if_neg fun h => hpin h.2]
      exact Function.update_of_ne (Ne.symm hpin) _ _
  · rw [if_neg haccepts, if_neg fun h => haccepts h.1]

theorem Disturbed.refl (state : PinState) : Disturbed pin state state := .inl rfl

theorem Disturbed.trans (a b c : PinState) (hab : Disturbed pin a b) (hbc : Disturbed pin b c) :
    Disturbed pin a c := by
  rcases hab with rfl | ⟨hpin, hab⟩
  · exact hbc
  · rcases hbc with rfl | ⟨-, hbc⟩
    · exact .inr ⟨hpin, hab⟩
    · refine .inr ⟨hpin, ?_⟩
      rcases hbc with hbc | hbc
      · rw [hbc]
        exact hab
      · exact .inr hbc

theorem Disturbed.mode {state state' : PinState} (h : Disturbed pin state state')
    (hmode : state.mode = .output) : state'.mode = .output := by
  rcases h with rfl | ⟨-, hsame | hout⟩
  · exact hmode
  · rw [hsame, hmode]
  · exact hout

theorem Disturbed.eq {state state' : PinState} (h : Disturbed pin state state')
    (hne : pin ≠ ledGpio) : state' = state := by
  rcases h with rfl | ⟨hpin, -⟩
  · rfl
  · exact absurd hpin hne

/-- The heartbeat calls the driver for its own pin only, and never ends a pin's
being an output. -/
theorem vTaskHeartbeat_disturbs {bits : EventBits} {pc : HeartbeatPc} {call : GpioCall}
    {state : PinState} (h : (vTaskHeartbeat bits pc).1 = some call) :
    Disturbed pin state (callAt port pin call state) := by
  unfold callAt
  split
  · rename_i haccepts
    obtain ⟨-, hpin⟩ := haccepts
    cases pc with
    | getBits => cases h
    | padSelect =>
        cases h
        exact .inl rfl
    | setDirection =>
        cases h
        exact .inr ⟨hpin.symm, .inr rfl⟩
    | blinkHigh _ | blinkLow _ | light =>
        cases h
        exact .inr ⟨hpin.symm, .inl rfl⟩
  · exact .inl rfl

/-- The calls of a write set its pin up whatever the heartbeat does meanwhile. -/
theorem writeLevel_establishes {n : Int} (hvalid : port.isValidOutputGpio pin = true)
    (hlevel : decide (n ≠ 0) = level c) (state : PinState) :
    Establishes (Disturbed pin) (callAt port pin) (Kept pin c) (writeLevel pin n) state := by
  intro s₁ _ s₂ _ s₃ _ s₄ hdirected s₅ hleveled
  have hdirection : callAt port pin (.setDirection pin .output) s₃ = { s₃ with mode := .output } :=
    if_pos ⟨hvalid, rfl⟩
  have hset : callAt port pin (.setLevel pin n) s₄ = { s₄ with level := decide (n ≠ 0) } :=
    if_pos ⟨hvalid, rfl⟩
  rw [hdirection] at hdirected
  rw [hset] at hleveled
  have hmode : s₄.mode = .output := hdirected.mode rfl
  constructor
  · exact hleveled.mode hmode
  · intro hne
    rw [hleveled.eq hne]
    exact hlevel

theorem run_establishes (hvalid : port.isValidOutputGpio pin = true) (hdrives : Drives c pin)
    (state : PinState) :
    Establishes (Disturbed pin) (callAt port pin) (Kept pin c) c.run.calls state := by
  obtain ⟨hwrites, rfl⟩ := hdrives
  by_cases hhigh : c.messageType = gpioSetHigh
  · rw [run_of_setHigh hhigh]
    exact writeLevel_establishes hvalid (by simp [level, hhigh]) state
  · have hlow : c.messageType = gpioSetLow := by simpa [Command.writes, hhigh] using hwrites
    rw [run_of_setLow hlow]
    exact writeLevel_establishes hvalid (by simp [level, hhigh]) state

theorem drives_of_mem_calls {call : GpioCall} (hcall : call ∈ c.run.calls) :
    Drives c call.pin := by
  have hwrite : ∀ n, call ∈ writeLevel c.pin n → call.pin = c.pin := by
    intro n hmem
    simp only [writeLevel, List.mem_cons, List.not_mem_nil, or_false] at hmem
    rcases hmem with rfl | rfl | rfl | rfl <;> rfl
  by_cases hhigh : c.messageType = gpioSetHigh
  · rw [run_of_setHigh hhigh] at hcall
    exact ⟨by simp [Command.writes, hhigh], (hwrite 1 hcall).symm⟩
  · by_cases hlow : c.messageType = gpioSetLow
    · rw [run_of_setLow hlow] at hcall
      exact ⟨by simp [Command.writes, hlow], (hwrite 0 hcall).symm⟩
    · have hwrites : c.writes = false := by simp [Command.writes, hhigh, hlow]
      rw [run_calls_of_not_writes hwrites] at hcall
      cases hcall

theorem not_standing_nil : ¬ Standing pin c [] := by
  rintro ⟨before, after, hlog, -⟩
  simp at hlog

theorem standing_concat {events : List HandlerEvent} {e : HandlerEvent} :
    Standing pin c (events ++ [e]) ↔ e = .answered c msgOk ∨
      (Standing pin c events ∧ ∀ c', e = .started c' → ¬ Drives c' pin) := by
  constructor
  · rintro ⟨before, after, hlog, hafter⟩
    rcases List.eq_nil_or_concat after with rfl | ⟨init, last, rfl⟩
    · obtain ⟨-, heq⟩ := List.append_inj' hlog rfl
      cases heq
      exact .inl rfl
    · have hlog' : events ++ [e] = (before ++ .answered c msgOk :: init) ++ [last] := by
        simpa using hlog
      obtain ⟨rfl, heq⟩ := List.append_inj' hlog' rfl
      cases heq
      refine .inr ⟨⟨before, init, rfl, fun c' hc' => hafter c' (by simp [hc'])⟩, ?_⟩
      rintro c' rfl
      exact hafter c' (by simp)
  · rintro (rfl | ⟨⟨before, after, rfl, hafter⟩, he⟩)
    · exact ⟨events, [], rfl, by simp⟩
    · refine ⟨before, after ++ [e], by simp, ?_⟩
      intro c' hc'
      rcases List.mem_append.mp hc' with hc' | hc'
      · exact hafter c' hc'
      · exact he c' (List.mem_singleton.mp hc').symm

/-- What holds of one pin between the steps: a standing command, and one that is
being carried out, is safe from the heartbeat. -/
structure PinInv (port : GpioPort) (pin : Int) (s : State) : Prop where
  standing : ∀ c, Drives c pin → Standing pin c s.events →
    Establishes (Disturbed pin) (callAt port pin) (Kept pin c) [] (s.pins pin)
  handling : ∀ c calls, s.endpoint = .handling c calls → Drives c pin →
    Establishes (Disturbed pin) (callAt port pin) (Kept pin c) calls (s.pins pin)
  overruled : ∀ c calls, s.endpoint = .handling c calls → Drives c pin →
    ∀ c', ¬ Standing pin c' s.events
  remaining : ∀ c calls, s.endpoint = .handling c calls → calls <:+ c.run.calls

theorem pinInv_start (bits : EventBits) : PinInv port pin (start pins bits) where
  standing _ _ h := absurd h not_standing_nil
  handling _ _ h := by cases h
  overruled _ _ h := by cases h
  remaining _ _ h := by cases h

theorem PinInv.disturbed (h : PinInv port pin s)
    (hpins : Disturbed pin (s.pins pin) (s'.pins pin)) (hendpoint : s'.endpoint = s.endpoint)
    (hevents : s'.events = s.events) : PinInv port pin s' where
  standing c hdrives hstanding := by
    rw [hevents] at hstanding
    exact (h.standing c hdrives hstanding).interfere Disturbed.trans hpins
  handling c calls hpc hdrives := by
    rw [hendpoint] at hpc
    exact (h.handling c calls hpc hdrives).interfere Disturbed.trans hpins
  overruled c calls hpc := by
    rw [hendpoint] at hpc
    rw [hevents]
    exact h.overruled c calls hpc
  remaining c calls hpc := by
    rw [hendpoint] at hpc
    exact h.remaining c calls hpc

theorem PinInv.message (h : PinInv port pin s) (hvalid : port.isValidOutputGpio pin = true) :
    PinInv port pin { s with
      endpoint := .handling c c.run.calls, events := s.events ++ [.started c] } where
  standing c' hdrives hstanding := by
    rcases standing_concat.mp hstanding with heq | ⟨hbefore, -⟩
    · cases heq
    · exact h.standing c' hdrives hbefore
  handling c' calls hpc hdrives := by
    cases hpc
    exact run_establishes hvalid hdrives _
  overruled c' calls hpc hdrives c₀ hstanding := by
    cases hpc
    rcases standing_concat.mp hstanding with heq | ⟨-, hnot⟩
    · cases heq
    · exact hnot _ rfl hdrives
  remaining c' calls hpc := by
    cases hpc
    exact List.suffix_rfl

theorem PinInv.performed {call : GpioCall} {calls : List GpioCall} (h : PinInv port pin s)
    (hendpoint : s.endpoint = .handling c (call :: calls)) :
    PinInv port pin { s with
      pins := (port.call s.pins call).1, endpoint := .handling c calls } := by
  have hsuffix := h.remaining c _ hendpoint
  have hother : ¬ Drives c pin → (port.call s.pins call).1 pin = s.pins pin := by
    intro hdrives
    have hmine : Drives c call.pin := drives_of_mem_calls (hsuffix.subset List.mem_cons_self)
    refine port.call_other _ _ ?_
    rintro rfl
    exact hdrives hmine
  refine ⟨?_, ?_, ?_, ?_⟩
  · intro c' hdrives' hstanding
    by_cases hdrives : Drives c pin
    · exact absurd hstanding (h.overruled c _ hendpoint hdrives c')
    · change Establishes _ _ _ [] ((port.call s.pins call).1 pin)
      rw [hother hdrives]
      exact h.standing c' hdrives' hstanding
  · intro c' calls' hpc hdrives
    cases hpc
    change Establishes _ _ _ calls ((port.call s.pins call).1 pin)
    rw [call_at]
    exact (h.handling c _ hendpoint hdrives).perform Disturbed.refl
  · intro c' calls' hpc hdrives
    cases hpc
    exact h.overruled c _ hendpoint hdrives
  · intro c' calls' hpc
    cases hpc
    exact (List.suffix_cons call calls).trans hsuffix

theorem PinInv.answered {status : Int} (h : PinInv port pin s)
    (hendpoint : s.endpoint = .handling c []) :
    PinInv port pin { s with
      endpoint := .idle, events := s.events ++ [.answered c status] } where
  standing c' hdrives hstanding := by
    rcases standing_concat.mp hstanding with heq | ⟨hbefore, -⟩
    · cases heq
      exact h.handling _ _ hendpoint hdrives
    · exact h.standing c' hdrives hbefore
  handling _ _ hpc := by cases hpc
  overruled _ _ hpc := by cases hpc
  remaining _ _ hpc := by cases hpc

theorem pinInv_step {a : Action} (hvalid : port.isValidOutputGpio pin = true)
    (h : PinInv port pin s) (hstep : step port s a = some s') : PinInv port pin s' := by
  cases a with
  | appState bits =>
      cases hstep
      exact h.disturbed (.refl _) rfl rfl
  | heartbeat =>
      simp only [step] at hstep
      split at hstep
      · rename_i call pc hcall
        cases hstep
        refine h.disturbed ?_ rfl rfl
        change Disturbed pin (s.pins pin) ((port.call s.pins call).1 pin)
        rw [call_at]
        exact vTaskHeartbeat_disturbs (congrArg Prod.fst hcall)
      · cases hstep
        exact h.disturbed (.refl _) rfl rfl
  | message c =>
      simp only [step] at hstep
      split at hstep
      · cases hstep
        exact h.message hvalid
      · cases hstep
  | endpoint =>
      simp only [step] at hstep
      split at hstep
      · cases hstep
      · rename_i c call calls hendpoint
        cases hstep
        exact h.performed hendpoint
      · rename_i c hendpoint
        cases hstep
        exact h.answered hendpoint

/-- A pin that the server has set stays as it was set until the endpoint starts
on the next write to it, except that the heartbeat drives the level of its own. -/
theorem serverPins_run {bits : EventBits} {as : List Action}
    (run : Run (step port) Free (start pins bits) as s)
    (hvalid : port.isValidOutputGpio pin = true) (hdrives : Drives c pin)
    (hstanding : Standing pin c s.events) :
    (s.pins pin).mode = .output ∧ (pin ≠ ledGpio → (s.pins pin).level = level c) := by
  have hinv : PinInv port pin s :=
    run.invariant (pinInv_start bits) fun _ _ _ _ _ h _ hstep => pinInv_step hvalid h hstep
  have hkept : Kept pin c (s.pins pin) := (hinv.standing c hdrives hstanding).done Disturbed.refl
  exact hkept

def write (c : Command) : List Action :=
  [.message c, .endpoint, .endpoint, .endpoint, .endpoint, .endpoint]

def firstLight : List Action := [.heartbeat, .heartbeat, .heartbeat, .heartbeat]

theorem standing_of_concat {e : HandlerEvent} :
    Standing pin c [e, .answered c msgOk] := by
  change Standing pin c ([e] ++ [.answered c msgOk])
  exact standing_concat.mpr (.inl rfl)

theorem serverPins_beside : ∃ s,
    Run (step esp32Port) Free (start (fun _ => ⟨.disable, false⟩) 0)
      (write (command 2 4) ++ firstLight) s ∧
    (s.pins 4).mode = .output ∧ ((4 : Int) ≠ ledGpio → (s.pins 4).level = true) := by
  obtain ⟨s, hrun, hevents⟩ := Run.exists_of_exec_any (step esp32Port) Free
    (start (fun _ => ⟨.disable, false⟩) 0) (write (command 2 4) ++ firstLight)
    (fun s => s.events = [.started (command 2 4), .answered (command 2 4) msgOk]) (by decide)
  have hstanding : Standing 4 (command 2 4) s.events := by
    rw [of_decide_eq_true hevents]
    exact standing_of_concat
  exact ⟨s, hrun, serverPins_run hrun (by decide) (by unfold Drives; decide) hstanding⟩

/-- On its own pin the heartbeat lights what the server has just been told is low. -/
theorem serverPins_led : ∃ s,
    Run (step esp32Port) Free (start (fun _ => ⟨.disable, false⟩) 0)
      (write (command 3 18) ++ firstLight) s ∧
    esp32Port.isValidOutputGpio 18 = true ∧ Drives (command 3 18) 18 ∧
    Standing 18 (command 3 18) s.events ∧ (s.pins 18).level ≠ level (command 3 18) := by
  obtain ⟨s, hrun, htest⟩ := Run.exists_of_exec_any (step esp32Port) Free
    (start (fun _ => ⟨.disable, false⟩) 0) (write (command 3 18) ++ firstLight)
    (fun s => s.events = [.started (command 3 18), .answered (command 3 18) msgOk] ∧
      (s.pins 18).level ≠ level (command 3 18)) (by decide)
  obtain ⟨hevents, hlevel⟩ := of_decide_eq_true htest
  refine ⟨s, hrun, by decide, by unfold Drives; decide, ?_, hlevel⟩
  rw [hevents]
  exact standing_of_concat

end Esp32Iot.Heartbeat
