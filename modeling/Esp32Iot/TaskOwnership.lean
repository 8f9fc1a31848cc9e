import Esp32Iot.Custody
import Esp32Iot.MessageMemory

namespace Esp32Iot.TaskOwnership

open Esp32Iot.BlockHeap
open Esp32Iot.Mailbox
open Esp32Iot.Communication
open Esp32Iot.GuardedRun
open Esp32Iot.Custody
open Esp32Iot.TaskSteps
open Esp32Iot.TaskHistory
open Esp32Iot.TaskOrder
open Esp32Iot.FrameMessages
open Esp32Iot.MessageMemory

/-- Where a message can be, and whether it has been answered there. -/
inductive Place (ι : Type*)
  | building
  | mailbox
  | websocket (answered : Bool)
  | endpoint (t : ι) (answered : Bool)
  deriving DecidableEq

def isAnswered {ι : Type*} : Place ι → Bool
  | .building | .mailbox => false
  | .websocket answered | .endpoint _ answered => answered

/-- Whether the status has been sent at a program point inside `onRecieve`. -/
def replied : CallBackPc → Bool
  | .reply => false
  | .freeData | .freeMessage => true

def websocketReplied : WebsocketPc → Bool
  | .callBack _ _ pc => replied pc
  | _ => false

def endpointReplied : EndpointPc → Bool
  | .callBack _ _ pc => replied pc
  | _ => false

variable {ι : Type*}

def placed (s : State ι) : Place ι → Option MsgPtr
  | .building => building s.websocket
  | .mailbox => s.shared.xMailboxIncomingQueue
  | .websocket answered =>
      if websocketReplied s.websocket = answered then displacing s.websocket else none
  | .endpoint t answered =>
      if endpointReplied (s.endpoint t) = answered then taken (s.endpoint t) else none

def heldSerials (s : State ι) (a : Place ι) : Option Nat := (placed s a).map (·.serial)

def answeredSerial : Event → Option Nat
  | .answered serial _ _ => some serial
  | _ => none

def releasedSerial : Event → Option Nat
  | .released serial => some serial
  | _ => none

/-- No command is executed once its message has been answered. -/
def Unanswered (before : List Event) : Event → Prop
  | .handled _ serial _ _ _ => serial ∉ before.filterMap answeredSerial
  | _ => True

def createdBound (s : SharedState) : WebsocketPc → Nat
  | .mallocMessage _ => s.frames.length - 1
  | _ => s.frames.length

structure Owns (s : State ι) (l : Ledger (Place ι) Nat) : Prop where
  held : l.held = heldSerials s
  created : ∀ k ∈ l.created, k < createdBound s.shared s.websocket
  sent : ∀ k ∈ s.shared.trace.filterMap sentSerial, k ∈ l.created
  answered : l.answered = s.shared.trace.filterMap answeredSerial
  removed : l.removed = s.shared.trace.filterMap releasedSerial
  unanswered : Ordered Unanswered s.shared.trace

theorem owns_start {rx : List UInt8} : Owns (start rx : State ι) Ledger.empty := by
  constructor
  · funext a
    rcases a with _ | _ | (_ | _) | ⟨t, _ | _⟩ <;> rfl
  · intro k hk
    cases hk
  · intro k hk
    cases hk
  · rfl
  · rfl
  · exact ordered_nil

section Moves

variable {s s' : State ι} {l l' : Ledger (Place ι) Nat} {e : Option Event}

/-- The ledger after a step that logs at most one event. -/
theorem Owns.follow (h : Owns s l) (htrace : s'.shared.trace = s.shared.trace ++ e.toList)
    (hheld : l'.held = heldSerials s')
    (hcreated : ∀ k ∈ l'.created, k < createdBound s'.shared s'.websocket)
    (hsub : ∀ k ∈ l.created, k ∈ l'.created)
    (hsent : ∀ k ∈ e.toList.filterMap sentSerial, k ∈ l'.created)
    (hanswered : l'.answered = l.answered ++ e.toList.filterMap answeredSerial)
    (hremoved : l'.removed = l.removed ++ e.toList.filterMap releasedSerial)
    (hunanswered : ∀ x ∈ e, Unanswered s.shared.trace x) : Owns s' l' := by
  constructor
  · exact hheld
  · exact hcreated
  · intro k hk
    rw [htrace, List.filterMap_append] at hk
    rcases List.mem_append.mp hk with hold | hnew
    · exact hsub k (h.sent k hold)
    · exact hsent k hnew
  · rw [hanswered, h.answered, htrace, List.filterMap_append]
  · rw [hremoved, h.removed, htrace, List.filterMap_append]
  · rw [htrace]
    exact h.unanswered.append hunanswered

theorem Owns.held_eq (h : Owns s l) (a : Place ι) :
    l.held a = (placed s a).map (·.serial) := congrFun h.held a

theorem Owns.held_some (h : Owns s l) {a : Place ι} {p : MsgPtr} (ha : placed s a = some p) :
    l.held a = some p.serial := by
  rw [h.held_eq, ha]
  rfl

theorem Owns.held_none (h : Owns s l) {a : Place ι} (ha : placed s a = none) :
    l.held a = none := by
  rw [h.held_eq, ha]
  rfl

theorem Owns.ne (h : Owns s l) (hinv : LedgerInv isAnswered l) {a b : Place ι}
    {p q : MsgPtr} (ha : placed s a = some p) (hb : placed s b = some q) (hab : a ≠ b) :
    p.serial ≠ q.serial := by
  intro hserial
  refine hab (hinv.exclusive a b p.serial (h.held_some ha) ?_)
  rw [hserial]
  exact h.held_some hb

variable [DecidableEq ι]

theorem relocate_heldSerials {a b : Place ι} {p : MsgPtr} (ha : placed s' a = none)
    (hb : placed s' b = some p)
    (hother : ∀ c, c ≠ a → c ≠ b → placed s' c = placed s c) :
    relocate (heldSerials s) a b p.serial = heldSerials s' := by
  funext c
  unfold relocate heldSerials
  by_cases hcb : c = b
  · subst c
    rw [Function.update_self, hb]
    rfl
  · rw [Function.update_of_ne hcb]
    by_cases hca : c = a
    · subst c
      rw [Function.update_self, ha]
      rfl
    · rw [Function.update_of_ne hca, hother c hca hcb]

def Matched (l : Ledger (Place ι) Nat) (s' : State ι) : Prop :=
  ∃ ms l', Run (Custody.step isAnswered) Free l ms l' ∧ Owns s' l'

theorem Owns.stutter (h : Owns s l) (hplaced : placed s' = placed s)
    (htrace : s'.shared.trace = s.shared.trace ++ e.toList)
    (hbound : createdBound s.shared s.websocket ≤ createdBound s'.shared s'.websocket)
    (hsilent : ∀ x ∈ e, sentSerial x = none ∧ answeredSerial x = none ∧
      releasedSerial x = none ∧ Unanswered s.shared.trace x) : Matched l s' := by
  refine ⟨[], l, .nil, h.follow htrace ?_ ?_ (fun _ hk => hk) ?_ ?_ ?_ ?_⟩
  · rw [h.held]
    unfold heldSerials
    rw [hplaced]
  · exact fun k hk => Nat.lt_of_lt_of_le (h.created k hk) hbound
  · simp [filterMap_silent fun x hx => (hsilent x hx).1]
  · simp [filterMap_silent fun x hx => (hsilent x hx).2.1]
  · simp [filterMap_silent fun x hx => (hsilent x hx).2.2.1]
  · exact fun x hx => (hsilent x hx).2.2.2

theorem Owns.create (h : Owns s l) {p : MsgPtr} (hbuilding : placed s .building = none)
    (hnew : createdBound s.shared s.websocket ≤ p.serial)
    (hbound : p.serial < createdBound s'.shared s'.websocket)
    (hbuilt : placed s' .building = some p)
    (hother : ∀ c, c ≠ .building → placed s' c = placed s c)
    (htrace : s'.shared.trace = s.shared.trace) : Matched l s' := by
  have hfresh : p.serial ∉ l.created := fun hk => absurd (h.created _ hk) (by omega)
  have hempty := h.held_none hbuilding
  have hstep : Custody.step isAnswered l (.create .building p.serial) =
      some { l with
        held := Function.update l.held .building (some p.serial)
        created := l.created ++ [p.serial] } := if_pos ⟨rfl, hempty, hfresh⟩
  refine ⟨_, _, Run.single hstep, h.follow (e := none) (by simp [htrace]) ?_ ?_ ?_ ?_ ?_ ?_ ?_⟩
  · funext c
    by_cases hc : c = .building
    · subst c
      simp [heldSerials, hbuilt]
    · simp only [Function.update_of_ne hc, h.held_eq, heldSerials, hother c hc]
  · intro k hk
    rcases List.mem_append.mp hk with hold | hk
    · have hlt := h.created k hold
      omega
    · rw [List.mem_singleton.mp hk]
      exact hbound
  · exact fun k hk => List.mem_append_left _ hk
  · simp
  · simp
  · simp
  · simp

theorem Owns.pass (h : Owns s l) {a b : Place ι} {p : MsgPtr} (ha : placed s a = some p)
    (hb : placed s b = none) (hdone : isAnswered b = isAnswered a)
    (ha' : placed s' a = none) (hb' : placed s' b = some p)
    (hother : ∀ c, c ≠ a → c ≠ b → placed s' c = placed s c)
    (htrace : s'.shared.trace = s.shared.trace ++ e.toList)
    (hbound : createdBound s.shared s.websocket ≤ createdBound s'.shared s'.websocket)
    (hsilent : ∀ x ∈ e, (sentSerial x = none ∨ sentSerial x = some p.serial) ∧
      answeredSerial x = none ∧ releasedSerial x = none ∧ Unanswered s.shared.trace x)
    (hinv : LedgerInv isAnswered l) : Matched l s' := by
  have hheld := h.held_some ha
  have hempty := h.held_none hb
  have hstep : Custody.step isAnswered l (.pass a b) =
      some { l with held := relocate l.held a b p.serial } := by
    simp only [Custody.step, hheld, hempty, hdone, and_self, if_true]
  refine ⟨_, _, Run.single hstep, h.follow htrace ?_ ?_ (fun _ hk => hk) ?_ ?_ ?_ ?_⟩
  · rw [h.held]
    exact relocate_heldSerials ha' hb' hother
  · exact fun k hk => Nat.lt_of_lt_of_le (h.created k hk) hbound
  · cases e with
    | none => simp
    | some x =>
        rcases (hsilent x rfl).1 with hnone | hsome
        · simp [hnone]
        · simpa [hsome] using hinv.created a _ hheld
  · simp [filterMap_silent fun x hx => (hsilent x hx).2.1]
  · simp [filterMap_silent fun x hx => (hsilent x hx).2.2.1]
  · exact fun x hx => (hsilent x hx).2.2.2

theorem Owns.answer (h : Owns s l) {a b : Place ι} {p : MsgPtr} {status : Int}
    {reply : List UInt8} (ha : placed s a = some p) (hb : placed s b = none)
    (hopen : isAnswered a = false) (hdone : isAnswered b = true)
    (ha' : placed s' a = none) (hb' : placed s' b = some p)
    (hother : ∀ c, c ≠ a → c ≠ b → placed s' c = placed s c)
    (htrace : s'.shared.trace = s.shared.trace ++ [.answered p.serial status reply])
    (hbound : createdBound s.shared s.websocket ≤ createdBound s'.shared s'.websocket) :
    Matched l s' := by
  have hheld := h.held_some ha
  have hempty := h.held_none hb
  have hstep : Custody.step isAnswered l (.answer a b) =
      some { l with
        held := relocate l.held a b p.serial
        answered := l.answered ++ [p.serial] } := by
    simp only [Custody.step, hheld, hempty, hopen, hdone, and_self, if_true]
  refine ⟨_, _, Run.single hstep,
    h.follow (e := some _) htrace ?_ ?_ (fun _ hk => hk) ?_ ?_ ?_ ?_⟩
  · rw [h.held]
    exact relocate_heldSerials ha' hb' hother
  · exact fun k hk => Nat.lt_of_lt_of_le (h.created k hk) hbound
  · simp [sentSerial]
  · simp [answeredSerial]
  · simp [releasedSerial]
  · rintro x ⟨⟩
    trivial

theorem Owns.remove (h : Owns s l) {a : Place ι} {p : MsgPtr} (ha : placed s a = some p)
    (hdone : isAnswered a = true) (ha' : placed s' a = none)
    (hother : ∀ c, c ≠ a → placed s' c = placed s c)
    (htrace : s'.shared.trace = s.shared.trace ++ [.released p.serial])
    (hbound : createdBound s.shared s.websocket ≤ createdBound s'.shared s'.websocket) :
    Matched l s' := by
  have hheld := h.held_some ha
  have hstep : Custody.step isAnswered l (.remove a) =
      some { l with
        held := Function.update l.held a none
        removed := l.removed ++ [p.serial] } := by
    simp only [Custody.step, hheld, hdone, if_true]
  refine ⟨_, _, Run.single hstep,
    h.follow (e := some _) htrace ?_ ?_ (fun _ hk => hk) ?_ ?_ ?_ ?_⟩
  · funext c
    by_cases hc : c = a
    · subst c
      simp [heldSerials, ha']
    · simp only [Function.update_of_ne hc, h.held_eq, heldSerials, hother c hc]
  · exact fun k hk => Nat.lt_of_lt_of_le (h.created k hk) hbound
  · simp [sentSerial]
  · simp [answeredSerial]
  · simp [releasedSerial]
  · rintro x ⟨⟩
    trivial

end Moves

section Tasks

variable [DecidableEq ι] {s s' : SharedState} {env : Env} {wpc wpc' : WebsocketPc}
  {ep : ι → EndpointPc} {l : Ledger (Place ι) Nat}

theorem owns_frame (bytes : List UInt8) (h : Owns ⟨s, .idle, ep⟩ l) :
    Matched l ⟨readFrame bytes s, .mallocMessage bytes.length, ep⟩ := by
  refine h.stutter (e := none) ?_ (by simp [readFrame]) ?_ ?_
  · funext c
    rcases c with _ | _ | (_ | _) | ⟨t, _ | _⟩ <;> rfl
  · simp [createdBound, readFrame]
  · rintro x ⟨⟩

theorem WebsocketMove.matched (move : WebsocketMove s env wpc s' wpc')
    (hslot : SlotInv s wpc) (hmem : WebsocketMemory s wpc) (h : Owns ⟨s, wpc, ep⟩ l)
    (hinv : LedgerInv isAnswered l) : Matched l ⟨s', wpc', ep⟩ := by
  cases move with
  | allocated len a unused given =>
      refine h.create (p := ⟨a, s.frames.length - 1⟩) rfl (Nat.le_refl _) ?_ rfl ?_ rfl
      · have hpos := hslot.1
        simp only [createdBound]
        omega
      · rintro (_ | _ | (_ | _) | ⟨t, _ | _⟩) hc
        · exact absurd rfl hc
        all_goals rfl
  | notAllocated len given =>
      refine h.stutter (e := none) ?_ (by simp) (Nat.sub_le _ _) ?_
      · funext c
        rcases c with _ | _ | (_ | _) | ⟨t, _ | _⟩ <;> rfl
      · rintro x ⟨⟩
  | refuse len =>
      refine h.stutter (e := some _) ?_ rfl (Nat.le_refl _) ?_
      · funext c
        rcases c with _ | _ | (_ | _) | ⟨t, _ | _⟩ <;> rfl
      · rintro x ⟨⟩
        exact ⟨rfl, rfl, rfl, trivial⟩
  | received p prevMessage full =>
      refine h.pass (a := .mailbox) (b := .websocket false) (p := prevMessage) (e := some _)
        full rfl rfl rfl rfl ?_ rfl (Nat.le_refl _) ?_ hinv
      · rintro (_ | _ | (_ | _) | ⟨t, _ | _⟩) ha hb
        · rfl
        · exact absurd rfl ha
        · exact absurd rfl hb
        all_goals rfl
      · rintro x ⟨⟩
        exact ⟨.inl rfl, rfl, rfl, trivial⟩
  | inCallBack p prevMessage pc pc' s' move =>
      cases move with
      | reply known =>
          refine h.answer (a := .websocket false) (b := .websocket true) (p := prevMessage)
            rfl rfl rfl rfl rfl rfl ?_ rfl (Nat.le_refl _)
          rintro (_ | _ | (_ | _) | ⟨t, _ | _⟩) ha hb
          · rfl
          · rfl
          · exact absurd rfl ha
          · exact absurd rfl hb
          all_goals rfl
      | freeData =>
          refine h.stutter (e := none) ?_ (by simp [SharedState.free]) (Nat.le_refl _) ?_
          · funext c
            rcases c with _ | _ | (_ | _) | ⟨t, _ | _⟩ <;> rfl
          · rintro x ⟨⟩
  | calledBack p prevMessage pc s' move =>
      cases move with
      | freeMessage =>
          refine h.remove (a := .websocket true) (p := prevMessage)
            rfl rfl rfl ?_ rfl (Nat.le_refl _)
          rintro (_ | _ | (_ | _) | ⟨t, _ | _⟩) ha
          · rfl
          · rfl
          · rfl
          · exact absurd rfl ha
          all_goals rfl
  | jumped p prevMessage wild => exact absurd wild (CallBackMemory.not_wild hmem.2)
  | reset p =>
      refine h.stutter (e := none) ?_ (by simp [SharedState.resetQueue]) (Nat.le_refl _) ?_
      · funext c
        rcases c with _ | _ | (_ | _) | ⟨t, _ | _⟩
        · rfl
        · exact hslot.2.symm
        all_goals rfl
      · rintro x ⟨⟩
  | sent p empty =>
      refine h.pass (a := .building) (b := .mailbox) (p := p) (e := some _)
        rfl empty rfl rfl rfl ?_ rfl (Nat.le_refl _) ?_ hinv
      · rintro (_ | _ | (_ | _) | ⟨t, _ | _⟩) ha hb
        · exact absurd rfl ha
        · exact absurd rfl hb
        all_goals rfl
      · rintro x ⟨⟩
        exact ⟨.inr rfl, rfl, rfl, trivial⟩
  | notSent p q full =>
      rw [hslot.2] at full
      cases full
  | _ =>
      refine h.stutter (e := none) ?_ (by simp [setFields]) (Nat.le_refl _) ?_
      · funext c
        rcases c with _ | _ | (_ | _) | ⟨t, _ | _⟩ <;> rfl
      · rintro x ⟨⟩

variable {t : ι} {endpointId : Int} {handler : XMailboxMessage → List UInt8 → HandlerRun}
  {pc pc' : EndpointPc}

theorem createdBound_frames (hframes : s'.frames = s.frames) :
    createdBound s wpc ≤ createdBound s' wpc := by
  cases wpc <;> simp [createdBound, hframes]

theorem placed_other {c : Place ι} (hmailbox : c ≠ .mailbox)
    (hother : ∀ answered, c ≠ .endpoint t answered) :
    placed ⟨s', wpc, Function.update ep t pc'⟩ c = placed ⟨s, wpc, ep⟩ c := by
  rcases c with _ | _ | answered | ⟨u, answered⟩
  · rfl
  · exact absurd rfl hmailbox
  · rfl
  · have hu : u ≠ t := by
      rintro rfl
      exact hother answered rfl
    simp only [placed, Function.update_of_ne hu]

theorem placed_self {answered : Bool} :
    placed ⟨s', wpc, Function.update ep t pc'⟩ (.endpoint t answered) =
      if endpointReplied pc' = answered then taken pc' else none := by
  simp only [placed, Function.update_self]

/-- A step that neither takes nor completes a message leaves every place as it was. -/
theorem placed_same (hpc : ep t = pc) (hqueue : s'.xMailboxIncomingQueue = s.xMailboxIncomingQueue)
    (htaken : taken pc' = taken pc)
    (hreplied : taken pc = none ∨ endpointReplied pc' = endpointReplied pc) :
    placed ⟨s', wpc, Function.update ep t pc'⟩ = placed ⟨s, wpc, ep⟩ := by
  funext c
  by_cases hmailbox : c = .mailbox
  · subst c
    exact hqueue
  · by_cases hself : ∃ answered, c = .endpoint t answered
    · obtain ⟨answered, rfl⟩ := hself
      rw [placed_self]
      simp only [placed, hpc]
      rcases hreplied with hnone | hsame
      · rw [htaken, hnone, ite_self, ite_self]
      · rw [htaken, hsame]
    · exact placed_other hmailbox fun answered hc => hself ⟨answered, hc⟩

theorem EndpointMove.matched (move : EndpointMove endpointId handler s env pc s' pc')
    (hpc : ep t = pc) (hmem : EndpointMemory endpointId s pc) (h : Owns ⟨s, wpc, ep⟩ l)
    (hinv : LedgerInv isAnswered l) :
    Matched l ⟨s', wpc, Function.update ep t pc'⟩ := by
  have hbound : createdBound s wpc ≤ createdBound s' wpc :=
    createdBound_frames (EndpointMove.frames move)
  cases move with
  | reset p =>
      refine h.pass (a := .mailbox) (b := .endpoint t false) (p := p) (e := none)
        hmem.2 ?_ rfl rfl ?_ ?_ (by simp [SharedState.resetQueue]) hbound ?_ hinv
      · simp only [placed, hpc]
        rfl
      · rw [placed_self]
        rfl
      · intro c ha hb
        by_cases hdone : c = .endpoint t true
        · subst c
          rw [placed_self]
          simp only [placed, hpc]
          rfl
        · refine placed_other ha ?_
          rintro (_ | _)
          · exact hb
          · exact hdone
      · rintro x ⟨⟩
  | handled p message pData readsMessage readsBody =>
      have hheld : l.held (.endpoint t false) = some p.serial := by
        rw [h.held_eq]
        simp only [placed, hpc]
        rfl
      have hnot : p.serial ∉ s.trace.filterMap answeredSerial := by
        rw [← h.answered, hinv.answered _ _ hheld]
        simp [isAnswered]
      refine h.stutter (e := some _) (placed_same hpc rfl rfl (.inr rfl)) rfl hbound ?_
      rintro x ⟨⟩
      exact ⟨rfl, rfl, rfl, hnot⟩
  | inCallBack p status pc pc' s' move =>
      cases move with
      | reply known =>
          refine h.answer (a := .endpoint t false) (b := .endpoint t true) (p := p)
            ?_ ?_ rfl rfl ?_ ?_ ?_ rfl hbound
          · simp only [placed, hpc]
            rfl
          · simp only [placed, hpc]
            rfl
          · rw [placed_self]
            rfl
          · rw [placed_self]
            rfl
          · intro c ha hb
            by_cases hmailbox : c = .mailbox
            · subst c
              rfl
            · refine placed_other hmailbox ?_
              rintro (_ | _)
              · exact ha
              · exact hb
      | freeData =>
          refine h.stutter (e := none) (placed_same hpc rfl rfl (.inr rfl))
            (by simp [SharedState.free]) hbound ?_
          rintro x ⟨⟩
  | calledBack p status pc s' move =>
      cases move with
      | freeMessage =>
          refine h.remove (a := .endpoint t true) (p := p) ?_ rfl ?_ ?_ rfl hbound
          · simp only [placed, hpc]
            rfl
          · rw [placed_self]
            rfl
          · intro c ha
            by_cases hmailbox : c = .mailbox
            · subst c
              rfl
            · by_cases hopen : c = .endpoint t false
              · subst c
                rw [placed_self]
                simp only [placed, hpc]
                rfl
              · refine placed_other hmailbox ?_
                rintro (_ | _)
                · exact hopen
                · exact ha
  | jumped p status wild => exact absurd wild (CallBackMemory.not_wild hmem)
  | _ =>
      refine h.stutter (e := none) (placed_same hpc rfl rfl (.inl rfl)) (by simp) hbound ?_
      rintro x ⟨⟩

end Tasks

section Runs

variable {cfg : Endpoints ι} {s : State ι} {l : Ledger (Place ι) Nat}

/-- The messages in the queue and in the hands of the tasks are allocated. -/
structure MemoryInv (cfg : Endpoints ι) (s : State ι) : Prop where
  websocket : WebsocketMemory s.shared s.websocket
  queue : ∀ q, s.shared.xMailboxIncomingQueue = some q → Stored s.shared q
  task : ∀ t, EndpointMemory (cfg.endpointId t) s.shared (s.endpoint t)

theorem memoryInv_start {rx : List UInt8} : MemoryInv cfg (start rx) where
  websocket := trivial
  queue q hq := by cases hq
  task t := trivial

theorem placed_touched {p : MsgPtr} (hp : websocketTouches s.websocket = some p) :
    placed s .building = some p ∨ ∃ answered, placed s (.websocket answered) = some p := by
  simp only [placed]
  cases hpc : s.websocket with
  | setFields len p pData =>
      rw [hpc] at hp
      exact .inl hp
  | callBack p prevMessage pc =>
      rw [hpc] at hp
      exact .inr ⟨replied pc, (if_pos rfl).trans hp⟩
  | _ =>
      rw [hpc] at hp
      cases hp

theorem placed_taken {t : ι} {p : MsgPtr} (hp : taken (s.endpoint t) = some p) :
    ∃ answered, placed s (.endpoint t answered) = some p :=
  ⟨endpointReplied (s.endpoint t), (if_pos rfl).trans hp⟩

theorem placed_displacing {p : MsgPtr} (hp : displacing s.websocket = some p) :
    ∃ answered, placed s (.websocket answered) = some p :=
  ⟨websocketReplied s.websocket, (if_pos rfl).trans hp⟩

theorem memoryInv_frame {bytes : List UInt8} (h : MemoryInv cfg s) :
    MemoryInv cfg { s with
      shared := readFrame bytes s.shared
      websocket := .mallocMessage bytes.length } where
  websocket := ⟨bytes, current_readFrame⟩
  queue q hq := (h.queue q hq).keep extends_readFrame Heap.Keeps.refl
  task t := (h.task t).keep extends_readFrame (fun _ _ => Heap.Keeps.refl)
    (fun _ _ hp => hp.keep extends_readFrame Heap.Keeps.refl) (fun _ _ hq => hq)

theorem memoryInv_websocket {env : Env} {shared : SharedState} {pc : WebsocketPc}
    (move : WebsocketMove s.shared env s.websocket shared pc) (h : MemoryInv cfg s)
    (hslot : SlotInv s.shared s.websocket) (howns : Owns s l)
    (hinv : LedgerInv isAnswered l) (hcopied : BodyCopied s (.websocket env))
    (htakes : TakesAlone cfg s (.websocket env)) :
    MemoryInv cfg { s with shared := shared, websocket := pc } := by
  have hframes := extends_of_eq (WebsocketMove.frames move)
  have hkeeps : ∀ {c q}, placed s c = some q → c ≠ .building → (∀ b, c ≠ .websocket b) →
      Heap.Keeps q.serial s.shared.heap shared.heap := by
    intro c q hq hbuilding hwebsocket
    refine WebsocketMove.keeps move h.websocket ?_
    intro p hp
    rcases placed_touched hp with hplaced | ⟨b, hplaced⟩
    · exact howns.ne hinv hplaced hq (Ne.symm hbuilding)
    · exact howns.ne hinv hplaced hq (Ne.symm (hwebsocket b))
  refine ⟨?_, ?_, ?_⟩
  · refine WebsocketMove.memory move hslot h.websocket h.queue hcopied ?_
    intro p prevMessage cpc hpc
    have hbuilding : placed s .building = some p := by
      simp only [placed, hpc, building]
    obtain ⟨b, hplaced⟩ : ∃ b, placed s (.websocket b) = some prevMessage :=
      placed_displacing (by rw [hpc]; rfl)
    exact howns.ne hinv hplaced hbuilding (by simp)
  · intro q hq
    rcases WebsocketMove.queued move hq with hold | hsend
    · exact (h.queue q hold).keep hframes
        (hkeeps (c := .mailbox) hold (by simp) (by simp))
    · have hstored := h.websocket
      rw [hsend] at hstored move
      refine Stored.keep hstored hframes ?_
      refine WebsocketMove.keeps move hstored ?_
      rintro p ⟨⟩
  · intro t
    refine (h.task t).keep hframes ?_ ?_ ?_
    · intro p hp
      obtain ⟨b, hplaced⟩ := placed_taken hp
      exact hkeeps hplaced (by simp) (by simp)
    · intro p hpc hrecorded
      refine WebsocketMove.recorded move h.websocket ?_ hrecorded
      intro hrelease
      have hnot := (htakes t).2
      rw [hpc, hrelease] at hnot
      simp [compares] at hnot
    · intro htakesNext q hq
      refine WebsocketMove.queueKept move hslot ?_ hq
      have hnot := (htakes t).1
      rw [htakesNext, Bool.and_true] at hnot
      exact hnot

theorem memoryInv_endpoint [DecidableEq ι] {t : ι} {env : Env} {shared : SharedState}
    {pc : EndpointPc}
    (move : EndpointMove (cfg.endpointId t) (cfg.handler t) s.shared env (s.endpoint t)
      shared pc) (h : MemoryInv cfg s) (howns : Owns s l) (hinv : LedgerInv isAnswered l)
    (htakes : TakesAlone cfg s (.endpoint t env)) :
    MemoryInv cfg { s with
      shared := shared
      endpoint := Function.update s.endpoint t pc } := by
  have hframesEq := EndpointMove.frames move
  have hqueue := EndpointMove.queue move
  have hframes := extends_of_eq hframesEq
  have hkeeps : ∀ {c q}, placed s c = some q → (∀ b, c ≠ .endpoint t b) →
      Heap.Keeps q.serial s.shared.heap shared.heap := by
    intro c q hq hother
    refine EndpointMove.keeps move (h.task t) ?_
    intro p hp
    have htaken : taken (s.endpoint t) = some p := by
      cases hpc : s.endpoint t <;> rw [hpc] at hp <;> first | exact hp | cases hp
    obtain ⟨b, hplaced⟩ := placed_taken htaken
    exact howns.ne hinv hplaced hq (Ne.symm (hother b))
  refine ⟨?_, ?_, ?_⟩
  · refine h.websocket.keep hframesEq (EndpointMove.buffer move) ?_
    rintro p (hp | hp)
    · exact hkeeps (c := .building) hp (by simp)
    · obtain ⟨b, hplaced⟩ := placed_displacing hp
      exact hkeeps hplaced (by simp)
  · intro q hq
    have hold := queue_of_drain hqueue hq
    exact (h.queue q hold).keep hframes (hkeeps (c := .mailbox) hold (by simp))
  · intro u
    by_cases hu : u = t
    · subst u
      simpa using EndpointMove.memory move (h.task t) h.queue
    · simp only [Function.update_of_ne hu]
      refine (h.task u).keep hframes ?_ ?_ ?_
      · intro p hp
        obtain ⟨b, hplaced⟩ := placed_taken hp
        refine hkeeps hplaced ?_
        rintro b' ⟨⟩
        exact hu rfl
      · intro p hpc hrecorded
        refine EndpointMove.recorded move (h.task t) ?_ hrecorded
        intro hrelease
        have hnot := htakes u
        rw [hpc, hrelease] at hnot
        simp [compares] at hnot
      · -- a task that takes the pending message is the only one it is addressed to
        intro htakesNext q hq
        rcases hqueue with hsame | hempty
        · rw [hsame]
          exact hq
        · obtain ⟨p, hp, haddressed⟩ := EndpointMemory.pending (h.task u) htakesNext
          obtain ⟨p', hp', haddressed'⟩ :=
            EndpointMove.drains move (h.task t) hp hempty
          cases hp.symm.trans hp'
          exact absurd (cfg.distinct (haddressed.unique haddressed')) hu

variable [DecidableEq ι] {guard : State ι → Action ι → Prop} {rx : List UInt8}
  {as : List (Action ι)}

/-- The tasks keep the ledger through every run in which bodies are copied and
messages are taken alone. -/
theorem owns_run (run : Run (step cfg) guard (start rx) as s)
    (hguard : ∀ u a, guard u a → BodyCopied u a ∧ TakesAlone cfg u a) :
    MemoryInv cfg s ∧ ∃ ms l, Run (Custody.step isAnswered) Free Ledger.empty ms l ∧
      Owns s l := by
  suffices hsim : ∃ ms l, Run (Custody.step isAnswered) Free Ledger.empty ms l ∧
      (MemoryInv cfg s ∧ Owns s l) by
    obtain ⟨ms, l, hrun, hmemory, howns⟩ := hsim
    exact ⟨hmemory, ms, l, hrun, howns⟩
  refine run.simulates (R := fun u d => MemoryInv cfg u ∧ Owns u d)
    ⟨memoryInv_start, owns_start⟩ ?_
  rintro bs u a v ms d hbefore hledger ⟨hmemory, howns⟩ hallowed hstep
  have horder := orderInv_run hbefore
  have hinv := ledgerInv_run hledger
  obtain ⟨hcopied, htakes⟩ := hguard u a hallowed
  obtain ⟨shared, wpc, ep⟩ := u
  rcases step_cases hstep with ⟨bytes, rfl, hidle, rfl⟩ | ⟨env, shared', pc, rfl, move, rfl⟩ |
    ⟨t, env, shared', pc, rfl, move, rfl⟩
  · cases hidle
    obtain ⟨cs, e, hrun, howns'⟩ := owns_frame bytes howns
    exact ⟨cs, e, hrun, memoryInv_frame hmemory, howns'⟩
  · obtain ⟨cs, e, hrun, howns'⟩ :=
      WebsocketMove.matched move horder.slot hmemory.websocket howns hinv
    exact ⟨cs, e, hrun,
      memoryInv_websocket move hmemory horder.slot howns hinv hcopied htakes, howns'⟩
  · obtain ⟨cs, e, hrun, howns'⟩ :=
      EndpointMove.matched move rfl (hmemory.task t) howns hinv
    exact ⟨cs, e, hrun, memoryInv_endpoint move hmemory howns hinv htakes, howns'⟩

end Runs

end Esp32Iot.TaskOwnership
