import Mathlib.Logic.Function.Basic

namespace Esp32Iot.GpioDriver

inductive GpioMode
  | disable
  | input
  | output
  deriving DecidableEq, Repr

@[ext]
structure PinState where
  mode : GpioMode
  level : Bool
  deriving DecidableEq, Repr

abbrev Pins := Int → PinState

structure GpioPort where
  isValidGpio : Int → Bool
  isValidOutputGpio : Int → Bool
  valid_of_output : ∀ pin, isValidOutputGpio pin = true → isValidGpio pin = true
  resetState : PinState → PinState

inductive EspErr
  | ok
  | invalidArg
  deriving DecidableEq, Repr

/-- One call of the driver. `gpio_pad_select_gpio` only routes the pad. -/
inductive GpioCall
  | resetPin (pin : Int)
  | padSelectGpio (pin : Int)
  | setDirection (pin : Int) (mode : GpioMode)
  | setLevel (pin : Int) (level : Int)
  deriving DecidableEq, Repr

def GpioCall.pin : GpioCall → Int
  | .resetPin pin | .padSelectGpio pin | .setDirection pin _ | .setLevel pin _ => pin

def GpioPort.accepts (port : GpioPort) : GpioCall → Bool
  | .resetPin pin => port.isValidGpio pin
  | .padSelectGpio _ => true
  | .setDirection pin mode =>
      if mode = .output then port.isValidOutputGpio pin else port.isValidGpio pin
  | .setLevel pin _ => port.isValidOutputGpio pin

/-- What an accepted call makes of the state of its pin. -/
def GpioPort.effect (port : GpioPort) : GpioCall → PinState → PinState
  | .resetPin _, state => port.resetState state
  | .padSelectGpio _, state => state
  | .setDirection _ mode, state => { state with mode := mode }
  | .setLevel _ level, state => { state with level := decide (level ≠ 0) }

def GpioPort.call (port : GpioPort) (pins : Pins) (c : GpioCall) : Pins × EspErr :=
  if port.accepts c then
    (Function.update pins c.pin (port.effect c (pins c.pin)), .ok)
  else (pins, .invalidArg)

def GpioPort.perform (port : GpioPort) : Pins → List GpioCall → Pins :=
  List.foldl fun pins c => (port.call pins c).1

theorem GpioPort.call_other (port : GpioPort) (pins : Pins) (c : GpioCall) {pin : Int}
    (hne : pin ≠ c.pin) : (port.call pins c).1 pin = pins pin := by
  unfold GpioPort.call
  split
  · exact Function.update_of_ne hne _ _
  · rfl

/-- The pins of the ESP32: 20, 24 and 28 to 31 do not exist, 34 to 39 have no
output driver. -/
def esp32Port : GpioPort where
  isValidGpio pin := decide (0 ≤ pin ∧ pin < 40 ∧ pin ≠ 20 ∧ pin ≠ 24 ∧
    ¬ (28 ≤ pin ∧ pin ≤ 31))
  isValidOutputGpio pin := decide (0 ≤ pin ∧ pin < 34 ∧ pin ≠ 20 ∧ pin ≠ 24 ∧
    ¬ (28 ≤ pin ∧ pin ≤ 31))
  valid_of_output pin h := by
    simp only [decide_eq_true_eq] at h ⊢
    omega
  resetState state := { state with mode := .disable }

end Esp32Iot.GpioDriver
