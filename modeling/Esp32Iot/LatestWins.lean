import Mathlib.Data.List.Basic
import Mathlib.Data.List.Induction

namespace Esp32Iot.LatestWins

variable {α ω : Type*}

inductive Input (α : Type*)
  | put (item : α)
  | poll

structure Register (α ω : Type*) where
  pending : Option α
  outputs : List ω

/-- An item, and whether a poll came before the next item. -/
structure Round (α : Type*) where
  item : α
  polled : Bool
  deriving DecidableEq

def Register.empty : Register α ω := ⟨none, []⟩

section Definitions

variable (mine : α → Bool) (onPoll onDisplace : α → ω)

def step (r : Register α ω) : Input α → Register α ω
  | .put item => ⟨some item, r.outputs ++ (r.pending.map onDisplace).toList⟩
  | .poll =>
      match r.pending with
      | some item => if mine item then ⟨none, r.outputs ++ [onPoll item]⟩ else r
      | none => r

def run (inputs : List (Input α)) : Register α ω :=
  inputs.foldl (step mine onPoll onDisplace) Register.empty

/-- A put opens a round; a poll is noted in the round that is open. -/
def addInput (rs : List (Round α)) : Input α → List (Round α)
  | .put item => rs ++ [⟨item, false⟩]
  | .poll => rs.dropLast ++ (rs.getLast?.map fun r => { r with polled := true }).toList

def rounds (inputs : List (Input α)) : List (Round α) := inputs.foldl addInput []

def taken (r : Round α) : Bool := r.polled && mine r.item

def verdict (r : Round α) : ω := if taken mine r then onPoll r.item else onDisplace r.item

/-- All rounds but the last, and the last one too if its item was taken. -/
def settled (rs : List (Round α)) : List (Round α) :=
  rs.dropLast ++ (rs.getLast?.filter (taken mine)).toList

/-- The last round, unless its item was taken. -/
def unsettled (rs : List (Round α)) : Option (Round α) :=
  rs.getLast?.filter fun r => !taken mine r

end Definitions

variable {mine : α → Bool} {onPoll onDisplace : α → ω} {rs : List (Round α)} {r : Round α}

theorem settled_concat_taken (hr : taken mine r = true) :
    settled mine (rs ++ [r]) = rs ++ [r] := by
  simp [settled, hr]

theorem settled_concat_open (hr : taken mine r = false) : settled mine (rs ++ [r]) = rs := by
  simp [settled, hr]

theorem unsettled_concat_taken (hr : taken mine r = true) :
    unsettled mine (rs ++ [r]) = none := by
  simp [unsettled, hr]

theorem unsettled_concat_open (hr : taken mine r = false) :
    unsettled mine (rs ++ [r]) = some r := by
  simp [unsettled, hr]

theorem settled_append_unsettled (rs : List (Round α)) :
    settled mine rs ++ (unsettled mine rs).toList = rs := by
  rcases List.eq_nil_or_concat' rs with rfl | ⟨init, r, rfl⟩
  · rfl
  · cases hr : taken mine r with
    | true => rw [settled_concat_taken hr, unsettled_concat_taken hr, Option.toList_none,
        List.append_nil]
    | false => rw [settled_concat_open hr, unsettled_concat_open hr, Option.toList_some]

theorem verdict_taken (hr : taken mine r = true) :
    verdict mine onPoll onDisplace r = onPoll r.item := if_pos hr

theorem verdict_open (hr : taken mine r = false) :
    verdict mine onPoll onDisplace r = onDisplace r.item := by
  rw [verdict, hr]
  rfl

def after (mine : α → Bool) (onPoll onDisplace : α → ω) (rs : List (Round α)) :
    Register α ω :=
  ⟨(unsettled mine rs).map (·.item),
    (settled mine rs).map (verdict mine onPoll onDisplace)⟩

theorem step_put (item : α) :
    step mine onPoll onDisplace (after mine onPoll onDisplace rs) (.put item) =
      after mine onPoll onDisplace (addInput rs (.put item)) := by
  have hopen : taken mine ⟨item, false⟩ = false := rfl
  simp only [step, after, addInput]
  rw [settled_concat_open hopen, unsettled_concat_open hopen]
  refine congrArg (Register.mk _) ?_
  rcases List.eq_nil_or_concat' rs with rfl | ⟨init, r, rfl⟩
  · rfl
  · cases hr : taken mine r with
    | true =>
        rw [settled_concat_taken hr, unsettled_concat_taken hr]
        simp
    | false =>
        rw [settled_concat_open hr, unsettled_concat_open hr]
        simp [verdict_open hr]

theorem step_poll :
    step mine onPoll onDisplace (after mine onPoll onDisplace rs) .poll =
      after mine onPoll onDisplace (addInput rs .poll) := by
  rcases List.eq_nil_or_concat' rs with rfl | ⟨init, r, rfl⟩
  · rfl
  · have hlast : addInput (init ++ [r]) .poll = init ++ [{ r with polled := true }] := by
      simp [addInput]
    rw [hlast]
    cases hr : taken mine r with
    | true =>
        -- the item is gone already
        have hpolled : r.polled = true := (Bool.and_eq_true_iff.mp hr).1
        have hsame : ({ r with polled := true } : Round α) = r := by
          rw [← hpolled]
        rw [hsame, after, unsettled_concat_taken hr]
        rfl
    | false =>
        cases hmine : mine r.item with
        | true =>
            have htaken : taken mine { r with polled := true } = true := by
              simp [taken, hmine]
            simp only [after]
            rw [settled_concat_open hr, unsettled_concat_open hr, settled_concat_taken htaken,
              unsettled_concat_taken htaken]
            simp [step, hmine, verdict_taken htaken]
        | false =>
            have hopen : taken mine { r with polled := true } = false := by
              simp [taken, hmine]
            simp only [after]
            rw [settled_concat_open hr, unsettled_concat_open hr, settled_concat_open hopen,
              unsettled_concat_open hopen]
            simp [step, hmine]

theorem run_concat (inputs : List (Input α)) (input : Input α) :
    run mine onPoll onDisplace (inputs ++ [input]) =
      step mine onPoll onDisplace (run mine onPoll onDisplace inputs) input := by
  simp [run]

theorem rounds_concat (inputs : List (Input α)) (input : Input α) :
    rounds (inputs ++ [input]) = addInput (rounds inputs) input := by
  simp [rounds]

def itemOf : Input α → Option α
  | .put item => some item
  | .poll => none

/-- The items of the rounds are those that were put, in order. -/
theorem addInput_items (input : Input α) :
    (addInput rs input).map (·.item) = rs.map (·.item) ++ (itemOf input).toList := by
  cases input with
  | put item => simp [addInput, itemOf]
  | poll =>
      rcases List.eq_nil_or_concat' rs with rfl | ⟨init, r, rfl⟩
      · rfl
      · simp [addInput, itemOf]

/-- The outputs are the verdicts on the settled rounds, in order; the item of
the unsettled round, if there is one, is pending. -/
theorem run_eq_after (inputs : List (Input α)) :
    run mine onPoll onDisplace inputs = after mine onPoll onDisplace (rounds inputs) := by
  induction inputs using List.reverseRecOn with
  | nil => rfl
  | append_singleton inputs input ih =>
      rw [run_concat, ih, rounds_concat]
      cases input with
      | put item => exact step_put item
      | poll => exact step_poll

end Esp32Iot.LatestWins
