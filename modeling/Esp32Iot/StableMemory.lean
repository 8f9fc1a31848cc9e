import Esp32Iot.FrameMessages
import Esp32Iot.TaskHistory
import Esp32Iot.TaskOrder

namespace Esp32Iot.StableMemory

open Esp32Iot.BlockHeap
open Esp32Iot.Mailbox
open Esp32Iot.Communication
open Esp32Iot.GuardedRun
open Esp32Iot.TaskSteps
open Esp32Iot.TaskHistory
open Esp32Iot.TaskOrder
open Esp32Iot.FrameMessages

variable {ι : Type*}

/-- Reads through `p`, and through the body pointer found there, see what the
memory still contains. -/
def remembers (s : SharedState) (env : Env) (p : MsgPtr) : Bool :=
  match s.heap.residue p.addr with
  | some (.record (some message)) =>
      decide (readMessage s env p = message) &&
        match s.heap.residue message.pData with
        | some (.body data) => decide (readBody s env message.pData = data)
        | _ => true
  | _ => true

def inHand : EndpointPc → Option MsgPtr
  | .compare p | .reset p | .handle p | .callBack p _ _ => some p
  | .idle | .peek | .crashed => none

def neverUsed (s : SharedState) (env : Env) : Bool :=
  env.malloc.all fun a => (s.heap.block a).isNone

/-- The contents of released memory stay readable, and `malloc` hands out only
addresses that were never in use. -/
def stableMemory (s : State ι) : Action ι → Bool
  | .frame _ => true
  | .websocket env => neverUsed s.shared env
  | .endpoint t env => (inHand (s.endpoint t)).all (remembers s.shared env)

/-- The record and the body of the message a pointer was made for are still in
memory, freed or not. -/
def Written (s : SharedState) (p : MsgPtr) : Prop :=
  ∃ frame pData, s.frames[p.serial]? = some frame ∧
    s.heap.residue p.addr = some (.record (some (frameMessage frame pData))) ∧
    s.heap.residue pData = some (.body (frameBody frame))

structure Retains (s s' : SharedState) : Prop where
  frames : ∀ (k : Nat) (frame : List UInt8), s.frames[k]? = some frame →
    s'.frames[k]? = some frame
  heap : ∀ (a : Nat) (content : Cell), content ≠ .record none →
    s.heap.residue a = some content → s'.heap.residue a = some content

theorem Written.retain {s s' : SharedState} {p : MsgPtr} (h : Written s p)
    (hretain : Retains s s') : Written s' p := by
  obtain ⟨frame, pData, hframe, hrecord, hbody⟩ := h
  exact ⟨frame, pData, hretain.frames _ _ hframe, hretain.heap _ _ (by simp) hrecord,
    hretain.heap _ _ (by simp) hbody⟩

structure Unwritten (s s' : SharedState) : Prop where
  frames : s'.frames = s.frames
  buffer : s'.rxBuffer = s.rxBuffer
  heap : ∀ a, s'.heap.residue a = s.heap.residue a

theorem Unwritten.retains {s s' : SharedState} (h : Unwritten s s') : Retains s s' := by
  refine ⟨?_, fun a _ _ ha => (h.heap a).trans ha⟩
  intro k frame hk
  rw [h.frames]
  exact hk

theorem retains_readFrame {s : SharedState} {bytes : List UInt8} :
    Retains s (readFrame bytes s) :=
  ⟨fun _ _ hk => frame_later hk, fun _ _ _ h => h⟩

theorem ne_of_neverUsed {s : SharedState} {env : Env} {a b : Nat} {content : Cell}
    (hnever : neverUsed s env = true) (hgiven : env.malloc = some a)
    (hb : s.heap.residue b = some content) : b ≠ a := by
  rintro rfl
  simp only [neverUsed, hgiven, Option.all_some, Option.isNone_iff_eq_none] at hnever
  simp [Heap.residue, hnever] at hb

theorem retains_alloc {s : SharedState} {env : Env} {a tag : Nat} {content : Cell}
    (hnever : neverUsed s env = true) (hgiven : env.malloc = some a) :
    Retains s { s with heap := s.heap.alloc a tag content } := by
  refine ⟨fun _ _ h => h, ?_⟩
  intro b old _ hb
  exact (Heap.residue_alloc_of_ne (ne_of_neverUsed hnever hgiven hb)).trans hb

theorem CallBackMove.unwritten {s s' : SharedState} {env : Env} {p : MsgPtr}
    {status : Int} {pc : CallBackPc} {next : Option CallBackPc}
    (move : CallBackMove s env p status pc s' next) : Unwritten s s' := by
  cases move with
  | reply known => exact ⟨rfl, rfl, fun _ => rfl⟩
  | freeData => exact ⟨rfl, rfl, fun _ => Heap.residue_free⟩
  | freeMessage => exact ⟨rfl, rfl, fun _ => Heap.residue_free⟩

theorem EndpointMove.unwritten {endpointId : Int}
    {handler : XMailboxMessage → List UInt8 → HandlerRun} {s s' : SharedState} {env : Env}
    {pc pc' : EndpointPc} (move : EndpointMove endpointId handler s env pc s' pc') :
    Unwritten s s' := by
  cases move with
  | inCallBack p status pc pc' s' move => exact CallBackMove.unwritten move
  | calledBack p status pc s' move => exact CallBackMove.unwritten move
  | _ => exact ⟨rfl, rfl, fun _ => rfl⟩

/-- What the memory contains at each program point of the websocket task. -/
def WebsocketContent (s : SharedState) : WebsocketPc → Prop
  | .idle | .refuse _ | .crashed => True
  | .mallocMessage len => ∃ frame, Current s len frame
  | .clone len p =>
      (∃ frame, Current s len frame) ∧ p.serial = s.frames.length - 1 ∧
        s.heap.residue p.addr = some (.record none)
  | .setFields len p pData =>
      (∃ frame, Current s len frame ∧ FrameComplete frame ∧
          s.heap.residue pData = some (.body (frameBody frame))) ∧
        p.serial = s.frames.length - 1 ∧ s.heap.residue p.addr = some (.record none)
  | .testWaiting p | .receive p | .reset p | .send p => Written s p
  | .callBack p prevMessage _ => Written s p ∧ Written s prevMessage

theorem Unwritten.content {s s' : SharedState} {pc : WebsocketPc} (hsame : Unwritten s s')
    (h : WebsocketContent s pc) : WebsocketContent s' pc := by
  have hretain := hsame.retains
  have hcurrent : ∀ {len frame}, Current s len frame → Current s' len frame :=
    fun hc => hc.transfer hsame.buffer hsame.frames
  cases pc with
  | idle | refuse | crashed => trivial
  | mallocMessage len =>
      obtain ⟨frame, hframe⟩ := h
      exact ⟨frame, hcurrent hframe⟩
  | clone len p =>
      obtain ⟨⟨frame, hframe⟩, hserial, hunset⟩ := h
      refine ⟨⟨frame, hcurrent hframe⟩, ?_, (hsame.heap _).trans hunset⟩
      rw [hsame.frames]
      exact hserial
  | setFields len p pData =>
      obtain ⟨⟨frame, hframe, hcomplete, hbody⟩, hserial, hunset⟩ := h
      refine ⟨⟨frame, hcurrent hframe, hcomplete, (hsame.heap _).trans hbody⟩, ?_,
        (hsame.heap _).trans hunset⟩
      rw [hsame.frames]
      exact hserial
  | testWaiting | receive | reset | send => exact Written.retain h hretain
  | callBack => exact ⟨h.1.retain hretain, h.2.retain hretain⟩

theorem retains_setFields {s : SharedState} {data : EspWebsocketEventData} {p : MsgPtr}
    {pData : Nat} (hunset : s.heap.residue p.addr = some (.record none)) :
    Retains s (setFields data p pData s) := by
  refine ⟨fun _ _ h => h, ?_⟩
  intro a old hold ha
  have hne : a ≠ p.addr := by
    rintro rfl
    rw [hunset] at ha
    cases ha
    exact hold rfl
  exact (Heap.residue_write_of_ne hne).trans ha

theorem WebsocketMove.retains {s s' : SharedState} {env : Env} {pc pc' : WebsocketPc}
    (move : WebsocketMove s env pc s' pc') (h : WebsocketContent s pc)
    (hnever : neverUsed s env = true) : Retains s s' := by
  cases move with
  | allocated len a unused given => exact retains_alloc hnever given
  | cloned len p str unused given positive => exact retains_alloc hnever given
  | setFields len p pData => exact retains_setFields h.2.2
  | inCallBack p prevMessage pc pc' s' move => exact (CallBackMove.unwritten move).retains
  | calledBack p prevMessage pc s' move => exact (CallBackMove.unwritten move).retains
  | _ => exact Unwritten.retains ⟨rfl, rfl, fun _ => rfl⟩

/-- Parsing leaves the frame's message in memory, and displacing keeps it there. -/
theorem WebsocketMove.content {s s' : SharedState} {env : Env} {pc pc' : WebsocketPc}
    (move : WebsocketMove s env pc s' pc') (h : WebsocketContent s pc)
    (hqueue : ∀ q, s.xMailboxIncomingQueue = some q → Written s q)
    (hcopied : copies pc = true → env.malloc.isSome = true)
    (hnever : neverUsed s env = true) : WebsocketContent s' pc' := by
  have hretain := WebsocketMove.retains move h hnever
  cases move with
  | allocated len a unused given =>
      obtain ⟨frame, hcurrent⟩ := h
      exact ⟨⟨frame, hcurrent.transfer rfl rfl⟩, rfl, Heap.residue_alloc_self⟩
  | notAllocated len given => trivial
  | cloned len p str unused given positive =>
      obtain ⟨⟨frame, hcurrent⟩, hserial, hunset⟩ := h
      have hcomplete := hcurrent.frameComplete positive
      refine ⟨⟨frame, hcurrent.transfer rfl rfl, hcomplete, ?_⟩, hserial, ?_⟩
      · rw [← hcurrent.body hcomplete]
        exact Heap.residue_alloc_self
      · have hne : p.addr ≠ str := ne_of_neverUsed hnever given hunset
        exact (Heap.residue_alloc_of_ne hne).trans hunset
  | notCloned len p given =>
      rw [given] at hcopied
      exact absurd (hcopied rfl) (by simp)
  | setFields len p pData =>
      obtain ⟨⟨frame, hcurrent, hcomplete, hbody⟩, hserial, hunset⟩ := h
      refine ⟨frame, pData, ?_, ?_, hretain.heap _ _ (by simp) hbody⟩
      · rw [hserial]
        exact hcurrent.newest
      · rw [← hcurrent.messageOf hcomplete pData]
        exact Heap.residue_write_self hunset
  | refuse len => trivial
  | waiting p q full => exact h
  | notWaiting p empty => exact h
  | received p prevMessage full =>
      exact ⟨h.retain hretain, (hqueue prevMessage full).retain hretain⟩
  | notReceived p empty => exact h
  | inCallBack p prevMessage pc pc' s' move =>
      exact ⟨h.1.retain hretain, h.2.retain hretain⟩
  | calledBack p prevMessage pc s' move => exact h.1.retain hretain
  | jumped p prevMessage wild => trivial
  | reset p => exact h.retain hretain
  | sent p empty => trivial
  | notSent p q full => trivial

/-- A handled event shows the message of the frame with its number. -/
def HandledFrame (frames : List (List UInt8)) : Event → Prop
  | .handled _ serial message data _ =>
      ∃ frame pData, frames[serial]? = some frame ∧
        message = frameMessage frame pData ∧ data = frameBody frame
  | _ => True

theorem handledFrame_later {frames : List (List UInt8)} {bytes : List UInt8} {e : Event}
    (h : HandledFrame frames e) : HandledFrame (frames ++ [bytes]) e := by
  cases e with
  | handled id serial message data calls =>
      obtain ⟨frame, pData, hserial, hmessage, hdata⟩ := h
      exact ⟨frame, pData, frame_later hserial, hmessage, hdata⟩
  | _ => trivial

/-- A handler sees the message its pointer was made for, released or not. -/
theorem Written.seen {s : SharedState} {env : Env} {p : MsgPtr} (h : Written s p)
    (hremembers : remembers s env p = true) :
    ∃ frame pData, s.frames[p.serial]? = some frame ∧
      readMessage s env p = frameMessage frame pData ∧
      readBody s env (readMessage s env p).pData = frameBody frame := by
  obtain ⟨frame, pData, hframe, hrecord, hbody⟩ := h
  have hpData : (frameMessage frame pData).pData = pData := rfl
  simp only [remembers, hrecord, hpData, hbody, Bool.and_eq_true, decide_eq_true_eq]
    at hremembers
  obtain ⟨hmessage, hdata⟩ := hremembers
  refine ⟨frame, pData, hframe, hmessage, ?_⟩
  rw [hmessage]
  exact hdata

/-- A polling task only ever holds a message it has found in the queue. -/
theorem EndpointMove.inHand {endpointId : Int}
    {handler : XMailboxMessage → List UInt8 → HandlerRun} {s s' : SharedState} {env : Env}
    {pc pc' : EndpointPc} {p : MsgPtr}
    (move : EndpointMove endpointId handler s env pc s' pc')
    (hp : inHand pc' = some p) :
    inHand pc = some p ∨ s.xMailboxIncomingQueue = some p := by
  cases move with
  | peeked q full =>
      cases hp
      exact .inr full
  | mine | reset | handled | inCallBack => exact .inl hp
  | _ => cases hp

structure ContentInv (s : State ι) : Prop where
  websocket : WebsocketContent s.shared s.websocket
  queue : ∀ q, s.shared.xMailboxIncomingQueue = some q → Written s.shared q
  task : ∀ t p, inHand (s.endpoint t) = some p → Written s.shared p

theorem contentInv_start {rx : List UInt8} : ContentInv (start rx : State ι) where
  websocket := trivial
  queue q hq := by cases hq
  task t p hp := by cases hp

variable [DecidableEq ι] {cfg : Endpoints ι}

theorem contentInv_step {s s' : State ι} {a : Action ι} (h : ContentInv s)
    (hcopied : BodyCopied s a) (hstable : stableMemory s a = true)
    (hstep : step cfg s a = some s') : ContentInv s' := by
  rcases step_cases hstep with ⟨bytes, rfl, hidle, rfl⟩ | ⟨env, shared, pc, rfl, move, rfl⟩ |
    ⟨t, env, shared, pc, rfl, move, rfl⟩
  · have hretain : Retains s.shared (readFrame bytes s.shared) := retains_readFrame
    exact ⟨⟨bytes, current_readFrame⟩, fun q hq => (h.queue q hq).retain hretain,
      fun t p hp => (h.task t p hp).retain hretain⟩
  · have hretain := WebsocketMove.retains move h.websocket hstable
    refine ⟨WebsocketMove.content move h.websocket h.queue hcopied hstable, ?_,
      fun t p hp => (h.task t p hp).retain hretain⟩
    intro q hq
    rcases WebsocketMove.queued move hq with hold | hsend
    · exact (h.queue q hold).retain hretain
    · have hcontent := h.websocket
      rw [hsend] at hcontent
      exact hcontent.retain hretain
  · have hsame := EndpointMove.unwritten move
    have hretain := hsame.retains
    refine ⟨?_, ?_, ?_⟩
    · exact hsame.content h.websocket
    · intro q hq
      exact (h.queue q (queue_of_drain (EndpointMove.queue move) hq)).retain hretain
    · intro u p hp
      by_cases hu : u = t
      · subst u
        simp only [Function.update_self] at hp
        rcases EndpointMove.inHand move hp with hold | hqueued
        · exact (h.task t p hold).retain hretain
        · exact (h.queue p hqueued).retain hretain
      · simp only [Function.update_of_ne hu] at hp
        exact (h.task u p hp).retain hretain

section Runs

variable {rx : List UInt8} {as : List (Action ι)} {s : State ι}

theorem contentInv_run (run : Run (step cfg)
    (fun s a => BodyCopied s a ∧ stableMemory s a = true) (start rx) as s) :
    ContentInv s := by
  apply run.invariant contentInv_start
  rintro bs u a v _ hu ⟨hcopied, hstable⟩ hstep
  exact contentInv_step hu hcopied hstable hstep

/-- Every endpoint executes a selection of the messages, in the order of their
frames; and where released memory stays as it is, what it executes for each is
what that frame says. -/
theorem commandsInOrder_run (run : Run (step cfg) Free (start rx) as s) (t : ι) :
    (handledSerials (cfg.endpointId t) s.shared).Sublist
        (List.range s.shared.frames.length) ∧
      (Run (step cfg) (fun s a => BodyCopied s a ∧ stableMemory s a = true) (start rx) as s →
        ∀ e ∈ s.shared.trace, HandledFrame s.shared.frames e) := by
  have hinv := orderInv_run run
  refine ⟨(hinv.handled t).sublist_range hinv.slot.sentBound_le, ?_⟩
  intro hstable
  refine handled_run hstable ?_ ?_ ?_
  · intro frames e he
    cases e with
    | handled => cases he
    | _ => trivial
  · exact fun frames bytes e he => handledFrame_later he
  · rintro bs u t env p message data hbefore ⟨-, hremembers⟩ hpc rfl rfl
    have hhand : inHand (u.endpoint t) = some p := by
      rw [hpc]
      rfl
    simp only [stableMemory, hhand, Option.all_some] at hremembers
    exact ((contentInv_run hbefore).task t p hhand).seen hremembers

/-- A command is displaced and released after the endpoint has peeked it; the
endpoint still executes it, and takes the newer one out of the queue unseen. -/
theorem commandsInOrder_released :
    ∃ s, Run (step gpioEndpoints) Free (start [])
      (storeFrame [1, 0, 2, 7] 0 1 ++ endpointSteps () 2 ++
        displaceFrame [1, 1, 3, 7] 2 3 ++
        List.replicate 6 (.endpoint () ⟨none, frameMessage [1, 0, 2, 7] 1, [7]⟩)) s ∧
      (handledSerials 1 s.shared).Sublist (List.range s.shared.frames.length) ∧
      ∀ e ∈ s.shared.trace, HandledFrame s.shared.frames e := by
  obtain ⟨s, run⟩ := Run.exists_of_exec (step gpioEndpoints)
    (fun s a => BodyCopied s a ∧ stableMemory s a = true) (start [])
    (storeFrame [1, 0, 2, 7] 0 1 ++ endpointSteps () 2 ++
      displaceFrame [1, 1, 3, 7] 2 3 ++
      List.replicate 6 (.endpoint () ⟨none, frameMessage [1, 0, 2, 7] 1, [7]⟩)) (by decide)
  obtain ⟨horder, hfaithful⟩ := commandsInOrder_run run.free ()
  exact ⟨s, run.free, horder, hfaithful run⟩

end Runs

end Esp32Iot.StableMemory
