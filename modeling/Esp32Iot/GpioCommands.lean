import Esp32Iot.FrameMessages

namespace Esp32Iot.GpioCommands

open Esp32Iot.GpioDriver
open Esp32Iot.Mailbox
open Esp32Iot.Communication
open Esp32Iot.GpioEndpoint
open Esp32Iot.FrameMessages

/-- A message together with the body its handler sees. -/
structure Command where
  message : XMailboxMessage
  pData : List UInt8
  deriving DecidableEq, Repr

namespace Command

variable (c : Command)

def messageType : Int := c.message.messageType

def pin : Int := gpioNumber c.pData

def run : HandlerRun := vMessageHandler c.message c.pData

def acknowledged : Bool := decide (c.run.status = msgOk)

def writes : Bool := decide (c.messageType = gpioSetHigh ∨ c.messageType = gpioSetLow)

end Command

section Meaning

variable (port : GpioPort)

/-- What an acknowledged command is to make of the state of its pin. -/
def stated (messageType : Int) (state : PinState) : PinState :=
  if messageType = gpioSetInput then { state with mode := .input }
  else if messageType = gpioSetHigh then ⟨.output, true⟩
  else if messageType = gpioSetLow then ⟨.output, false⟩
  else if messageType = gpioReset then port.resetState state
  else state

def canCarryOut (c : Command) : Bool :=
  if c.writes then port.isValidOutputGpio c.pin else port.isValidGpio c.pin

def statedStep (pins : Pins) (c : Command) : Pins :=
  if c.acknowledged then Function.update pins c.pin (stated port c.messageType (pins c.pin))
  else pins

/-- The fold of the acknowledged commands at their stated meaning. -/
def statedAfter : Pins → List Command → Pins := List.foldl (statedStep port)

def hardwareStep (pins : Pins) (c : Command) : Pins := port.perform pins c.run.calls

def hardwareAfter : Pins → List Command → Pins := List.foldl (hardwareStep port)

/-- The pins are as the acknowledgements say. -/
structure Faithful (pins : Pins) (cs : List Command) : Prop where
  state : hardwareAfter port pins cs = statedAfter port pins cs
  unnamed : ∀ pin, (∀ c ∈ cs, c.acknowledged = true → c.pin ≠ pin) →
    hardwareAfter port pins cs pin = pins pin
  carriedOut : ∀ c ∈ cs, c.acknowledged = true → canCarryOut port c = true

/-- The commands that the handler treats as they are meant: unknown types, writes
to a pin with an output driver, and commands that ask for the state the pin is
in already. -/
def Meets (pins : Pins) (c : Command) : Prop :=
  if c.messageType = gpioSetInput then
    port.isValidGpio c.pin = true ∧ (pins c.pin).mode = .input
  else if c.messageType = gpioSetHigh ∨ c.messageType = gpioSetLow then
    port.isValidOutputGpio c.pin = true
  else if c.messageType = gpioReset then
    port.isValidGpio c.pin = true ∧ port.resetState (pins c.pin) = pins c.pin
  else True

def AllMeet : Pins → List Command → Prop
  | _, [] => True
  | pins, c :: cs => Meets port pins c ∧ AllMeet (hardwareStep port pins c) cs

end Meaning

variable {port : GpioPort} {pins : Pins} {c : Command} {cs : List Command}

theorem run_of_setHigh (hhigh : c.messageType = gpioSetHigh) :
    c.run = ⟨writeLevel c.pin 1, msgOk⟩ := by
  have hinput : c.messageType ≠ gpioSetInput := by
    rw [hhigh]
    decide
  exact (if_neg hinput).trans (if_pos hhigh)

theorem run_of_setLow (hlow : c.messageType = gpioSetLow) :
    c.run = ⟨writeLevel c.pin 0, msgOk⟩ := by
  have hinput : c.messageType ≠ gpioSetInput := by
    rw [hlow]
    decide
  have hhigh : c.messageType ≠ gpioSetHigh := by
    rw [hlow]
    decide
  exact (if_neg hinput).trans ((if_neg hhigh).trans (if_pos hlow))

theorem run_calls_of_not_writes (hwrites : c.writes = false) : c.run.calls = [] := by
  obtain ⟨hhigh, hlow⟩ := not_or.mp (of_decide_eq_false hwrites)
  simp only [Command.messageType] at hhigh hlow
  simp only [Command.run, vMessageHandler, if_neg hhigh, if_neg hlow]
  split
  · rfl
  · split <;> rfl

theorem call_accepted {call : GpioCall} (haccepts : port.accepts call = true) :
    (port.call pins call).1 = Function.update pins call.pin (port.effect call (pins call.pin)) := by
  simp only [GpioPort.call, haccepts, if_true]

theorem perform_writeLevel {pin level : Int} (hvalid : port.isValidOutputGpio pin = true) :
    port.perform pins (writeLevel pin level) =
      Function.update pins pin ⟨.output, decide (level ≠ 0)⟩ := by
  have hgpio := port.valid_of_output pin hvalid
  have hreset : port.accepts (.resetPin pin) = true := hgpio
  have hselect : port.accepts (.padSelectGpio pin) = true := rfl
  have hdirection : port.accepts (.setDirection pin .output) = true := hvalid
  have hlevel : port.accepts (.setLevel pin level) = true := hvalid
  simp only [GpioPort.perform, writeLevel, List.foldl_cons, List.foldl_nil,
    call_accepted hreset, call_accepted hselect,
    call_accepted hdirection, call_accepted hlevel, GpioCall.pin, GpioPort.effect,
    Function.update_self, Function.update_idem]

theorem hardwareAfter_cons :
    hardwareAfter port pins (c :: cs) = hardwareAfter port (hardwareStep port pins c) cs := rfl

theorem statedAfter_cons :
    statedAfter port pins (c :: cs) = statedAfter port (statedStep port pins c) cs := rfl

theorem statedStep_other {pin : Int} (hne : c.acknowledged = true → c.pin ≠ pin) :
    statedStep port pins c pin = pins pin := by
  unfold statedStep
  split
  · rename_i hack
    exact Function.update_of_ne (Ne.symm (hne hack)) _ _
  · rfl

theorem statedAfter_other {pin : Int}
    (hne : ∀ c ∈ cs, c.acknowledged = true → c.pin ≠ pin) :
    statedAfter port pins cs pin = pins pin := by
  induction cs generalizing pins with
  | nil => rfl
  | cons c cs ih =>
      rw [statedAfter_cons, ih fun c' hc' => hne c' (List.mem_cons_of_mem _ hc')]
      exact statedStep_other (hne c List.mem_cons_self)

/-- An acknowledged command that leaves the pins alone is right only where it
asks for what is there already. -/
theorem untouched_iff (hrun : c.run = ⟨[], msgOk⟩) (hwrites : c.writes = false) :
    (hardwareStep port pins c = statedStep port pins c ∧
      (c.acknowledged = true → canCarryOut port c = true)) ↔
    port.isValidGpio c.pin = true ∧ stated port c.messageType (pins c.pin) = pins c.pin := by
  have hack : c.acknowledged = true := by simp [Command.acknowledged, hrun]
  have hhardware : hardwareStep port pins c = pins := by
    simp [hardwareStep, hrun, GpioPort.perform]
  have hcan : canCarryOut port c = port.isValidGpio c.pin := by
    simp [canCarryOut, hwrites]
  rw [hhardware, statedStep, if_pos hack, hcan, eq_comm, Function.update_eq_self_iff]
  constructor
  · rintro ⟨hstate, hvalid⟩
    exact ⟨hvalid hack, hstate⟩
  · rintro ⟨hvalid, hstate⟩
    exact ⟨hstate, fun _ => hvalid⟩

theorem written_iff {level : Int} (hrun : c.run = ⟨writeLevel c.pin level, msgOk⟩)
    (hwrites : c.writes = true)
    (hstated : stated port c.messageType (pins c.pin) = ⟨.output, decide (level ≠ 0)⟩) :
    (hardwareStep port pins c = statedStep port pins c ∧
      (c.acknowledged = true → canCarryOut port c = true)) ↔
    port.isValidOutputGpio c.pin = true := by
  have hack : c.acknowledged = true := by simp [Command.acknowledged, hrun]
  have hcan : canCarryOut port c = port.isValidOutputGpio c.pin := by
    simp [canCarryOut, hwrites]
  rw [hcan]
  constructor
  · rintro ⟨-, hvalid⟩
    exact hvalid hack
  · intro hvalid
    refine ⟨?_, fun _ => hvalid⟩
    rw [hardwareStep, hrun, perform_writeLevel hvalid, statedStep, if_pos hack, hstated]

theorem meets_iff : Meets port pins c ↔
    hardwareStep port pins c = statedStep port pins c ∧
      (c.acknowledged = true → canCarryOut port c = true) := by
  unfold Meets
  by_cases hinput : c.messageType = gpioSetInput
  · have hrun : c.run = ⟨[], msgOk⟩ := if_pos hinput
    have hwrites : c.writes = false := by
      simp [Command.writes, hinput, gpioSetInput, gpioSetHigh, gpioSetLow]
    rw [if_pos hinput, untouched_iff hrun hwrites, stated, if_pos hinput, PinState.ext_iff]
    exact and_congr_right fun _ => ⟨fun h => ⟨h.symm, rfl⟩, fun h => h.1.symm⟩
  · rw [if_neg hinput]
    by_cases hhigh : c.messageType = gpioSetHigh
    · have hrun := run_of_setHigh hhigh
      have hstated : stated port c.messageType (pins c.pin) = ⟨.output, decide ((1 : Int) ≠ 0)⟩ :=
        (if_neg hinput).trans (if_pos hhigh)
      rw [if_pos (.inl hhigh), written_iff hrun (by simp [Command.writes, hhigh]) hstated]
    · by_cases hlow : c.messageType = gpioSetLow
      · have hrun := run_of_setLow hlow
        have hstated : stated port c.messageType (pins c.pin) =
            ⟨.output, decide ((0 : Int) ≠ 0)⟩ :=
          (if_neg hinput).trans ((if_neg hhigh).trans (if_pos hlow))
        rw [if_pos (.inr hlow), written_iff hrun (by simp [Command.writes, hlow]) hstated]
      · have hwrites : c.writes = false := by simp [Command.writes, hhigh, hlow]
        rw [if_neg (by simp [hhigh, hlow])]
        by_cases hreset : c.messageType = gpioReset
        · have hrun : c.run = ⟨[], msgOk⟩ :=
            (if_neg hinput).trans ((if_neg hhigh).trans ((if_neg hlow).trans (if_pos hreset)))
          have hstated : stated port c.messageType (pins c.pin) = port.resetState (pins c.pin) :=
            (if_neg hinput).trans ((if_neg hhigh).trans ((if_neg hlow).trans (if_pos hreset)))
          rw [if_pos hreset, untouched_iff hrun hwrites, hstated]
        · have hrun : c.run = ⟨[], errUnsuportedMessageType⟩ :=
            (if_neg hinput).trans ((if_neg hhigh).trans ((if_neg hlow).trans (if_neg hreset)))
          have hack : c.acknowledged = false := by
            simp [Command.acknowledged, hrun, errUnsuportedMessageType, msgOk]
          rw [if_neg hreset]
          simp [hardwareStep, statedStep, hrun, hack, GpioPort.perform]

/-- The pins agree with the acknowledgements all along a run exactly when every
command finds a state in which the handler treats it as it is meant. -/
theorem faithful_iff :
    (∀ done, done <+: cs → Faithful port pins done) ↔ AllMeet port pins cs := by
  induction cs generalizing pins with
  | nil =>
      constructor
      · intro _
        trivial
      · intro _ done hdone
        rw [List.prefix_nil.mp hdone]
        exact ⟨rfl, fun _ _ => rfl, by simp⟩
  | cons c cs ih =>
      constructor
      · intro hfaithful
        have hsingle := hfaithful [c] ⟨cs, rfl⟩
        have hmeets : Meets port pins c :=
          meets_iff.mpr ⟨hsingle.state, hsingle.carriedOut c (by simp)⟩
        refine ⟨hmeets, ih.mp ?_⟩
        intro done hdone
        have hcons := hfaithful (c :: done) ((List.cons_prefix_cons).mpr ⟨rfl, hdone⟩)
        have hstate : hardwareAfter port (hardwareStep port pins c) done =
            statedAfter port (hardwareStep port pins c) done := by
          rw [← hardwareAfter_cons, hcons.state, statedAfter_cons, (meets_iff.mp hmeets).1]
        refine ⟨hstate, ?_, fun c' hc' => hcons.carriedOut c' (List.mem_cons_of_mem _ hc')⟩
        intro pin hpin
        rw [hstate]
        exact statedAfter_other hpin
      · rintro ⟨hmeets, hall⟩ done hdone
        obtain ⟨hstep, hcan⟩ := meets_iff.mp hmeets
        rcases done with _ | ⟨c', done⟩
        · exact ⟨rfl, fun _ _ => rfl, by simp⟩
        · obtain ⟨rfl, hprefix⟩ := List.cons_prefix_cons.mp hdone
          have hrest := ih.mpr hall done hprefix
          have hstate : hardwareAfter port pins (c' :: done) =
              statedAfter port pins (c' :: done) := by
            rw [hardwareAfter_cons, hrest.state, statedAfter_cons, hstep]
          refine ⟨hstate, ?_, ?_⟩
          · intro pin hpin
            rw [hstate]
            exact statedAfter_other hpin
          · intro d hd
            rcases List.mem_cons.mp hd with rfl | hd
            · exact hcan
            · exact hrest.carriedOut d hd

def command (messageType pin : UInt8) : Command :=
  ⟨frameMessage [1, 0, messageType, pin] 0, [pin]⟩

/-- `SET_INPUT` is acknowledged and leaves an output pin an output; and
`SET_HIGH` is acknowledged for a pin that has no output driver. -/
theorem acknowledgedUnfaithful :
    (command 1 4).acknowledged = true ∧ (command 2 34).acknowledged = true ∧
      ¬ Faithful esp32Port (fun _ => ⟨.output, false⟩) [command 1 4] ∧
      ¬ Faithful esp32Port (fun _ => ⟨.disable, false⟩) [command 2 34] := by
  refine ⟨by decide, by decide, ?_, ?_⟩
  · intro hfaithful
    have hpin := congrFun hfaithful.state 4
    exact absurd hpin (by decide)
  · intro hfaithful
    have hcarried := hfaithful.carriedOut _ List.mem_cons_self (by decide)
    exact absurd hcarried (by decide)

end Esp32Iot.GpioCommands
