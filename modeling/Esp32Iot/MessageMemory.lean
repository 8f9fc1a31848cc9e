import Mathlib.Data.Fintype.Basic
import Esp32Iot.FrameMessages
import Esp32Iot.TaskHistory
import Esp32Iot.TaskOrder

namespace Esp32Iot.MessageMemory

open Esp32Iot.BlockHeap
open Esp32Iot.Mailbox
open Esp32Iot.Communication
open Esp32Iot.TaskSteps
open Esp32Iot.TaskHistory
open Esp32Iot.TaskOrder
open Esp32Iot.FrameMessages

section Guard

variable {ι : Type*}

def receives : WebsocketPc → Bool
  | .receive _ => true
  | _ => false

/-- The task has peeked a message of its own and has not taken it yet. -/
def takesNext (endpointId : Int) (s : SharedState) : EndpointPc → Bool
  | .compare p => (s.message? p).any fun message => decide (message.endpointId = endpointId)
  | .reset _ => true
  | _ => false

def releasesNext (p : MsgPtr) : CallBackPc → Option Nat
  | .freeMessage => some p.addr
  | .reply | .freeData => none

def websocketReleases : WebsocketPc → Option Nat
  | .callBack _ prevMessage pc => releasesNext prevMessage pc
  | _ => none

def endpointReleases : EndpointPc → Option Nat
  | .callBack p _ pc => releasesNext p pc
  | _ => none

/-- The task is about to read the record at an address it has peeked. -/
def compares (released : Option Nat) : EndpointPc → Bool
  | .compare p => decide (released = some p.addr)
  | _ => false

/-- The websocket task displaces no message that its own endpoint has peeked and
is about to take, and no record is released that a task is about to compare. -/
def TakesAlone (cfg : Endpoints ι) (s : State ι) : Action ι → Prop
  | .frame _ => True
  | .websocket _ => ∀ t,
      (receives s.websocket && takesNext (cfg.endpointId t) s.shared (s.endpoint t)) = false ∧
        compares (websocketReleases s.websocket) (s.endpoint t) = false
  | .endpoint t _ => ∀ u, compares (endpointReleases (s.endpoint t)) (s.endpoint u) = false

instance [Fintype ι] (cfg : Endpoints ι) (s : State ι) :
    (a : Action ι) → Decidable (TakesAlone cfg s a)
  | .frame _ => inferInstanceAs (Decidable True)
  | .websocket _ => inferInstanceAs (Decidable (∀ _, _ ∧ _))
  | .endpoint _ _ => inferInstanceAs (Decidable (∀ _, _ = _))

end Guard

def Recorded (s : SharedState) (p : MsgPtr) : Prop :=
  ∃ frame pData, s.frames[p.serial]? = some frame ∧
    s.heap.Holds p.addr p.serial (.record (some (frameMessage frame pData)))

/-- The record and the body of the message made from a frame are allocated. -/
def Stored (s : SharedState) (p : MsgPtr) : Prop :=
  ∃ frame pData, s.frames[p.serial]? = some frame ∧
    s.heap.Holds p.addr p.serial (.record (some (frameMessage frame pData))) ∧
    s.heap.Holds pData p.serial (.body (frameBody frame))

def AddressedTo (endpointId : Int) (s : SharedState) (p : MsgPtr) : Prop :=
  ∃ frame, s.frames[p.serial]? = some frame ∧ frameEndpointId frame = endpointId

def building : WebsocketPc → Option MsgPtr
  | .clone _ p | .setFields _ p _ | .testWaiting p | .receive p | .callBack p _ _
  | .reset p | .send p => some p
  | .idle | .mallocMessage _ | .refuse _ | .crashed => none

def displacing : WebsocketPc → Option MsgPtr
  | .callBack _ prevMessage _ => some prevMessage
  | _ => none

def taken : EndpointPc → Option MsgPtr
  | .handle p | .callBack p _ _ => some p
  | .idle | .peek | .compare _ | .reset _ | .crashed => none

def CallBackMemory (s : SharedState) (p : MsgPtr) : CallBackPc → Prop
  | .reply | .freeData => Stored s p
  | .freeMessage => Recorded s p

def WebsocketMemory (s : SharedState) : WebsocketPc → Prop
  | .idle | .refuse _ => True
  | .mallocMessage len => ∃ frame, Current s len frame
  | .clone len p =>
      (∃ frame, Current s len frame) ∧ s.heap.Holds p.addr p.serial (.record none)
  | .setFields len p pData =>
      (∃ frame, Current s len frame ∧ FrameComplete frame ∧
          s.heap.Holds pData p.serial (.body (frameBody frame))) ∧
        s.heap.Holds p.addr p.serial (.record none)
  | .testWaiting p | .receive p | .reset p | .send p => Stored s p
  | .callBack p prevMessage pc => Stored s p ∧ CallBackMemory s prevMessage pc
  | .crashed => False

def EndpointMemory (endpointId : Int) (s : SharedState) : EndpointPc → Prop
  | .idle | .peek => True
  | .compare p =>
      Recorded s p ∧ (AddressedTo endpointId s p → s.xMailboxIncomingQueue = some p)
  | .reset p => AddressedTo endpointId s p ∧ s.xMailboxIncomingQueue = some p
  | .handle p => AddressedTo endpointId s p ∧ Stored s p
  | .callBack p _ pc => CallBackMemory s p pc
  | .crashed => False

theorem Stored.recorded {s : SharedState} {p : MsgPtr} (h : Stored s p) : Recorded s p := by
  obtain ⟨frame, pData, hframe, hrecord, -⟩ := h
  exact ⟨frame, pData, hframe, hrecord⟩

theorem Recorded.message {s : SharedState} {p : MsgPtr} (h : Recorded s p) :
    ∃ frame pData, s.frames[p.serial]? = some frame ∧
      s.message? p = some (frameMessage frame pData) := by
  obtain ⟨frame, pData, hframe, hrecord⟩ := h
  exact ⟨frame, pData, hframe, SharedState.message_of_holds hrecord⟩

theorem Stored.contents {s : SharedState} {p : MsgPtr} {frame : List UInt8} (h : Stored s p)
    (hframe : s.frames[p.serial]? = some frame) :
    ∃ pData, s.message? p = some (frameMessage frame pData) ∧
      s.body? pData = some (frameBody frame) := by
  obtain ⟨frame', pData, hframe', hrecord, hbody⟩ := h
  cases hframe.symm.trans hframe'
  exact ⟨pData, SharedState.message_of_holds hrecord, SharedState.body_of_holds hbody⟩

/-- A handler that reads a stored message sees the frame it was made from. -/
theorem Stored.read {s : SharedState} {p : MsgPtr} (h : Stored s p) (env : Env) :
    ∃ frame pData, s.frames[p.serial]? = some frame ∧
      readMessage s env p = frameMessage frame pData ∧
      readBody s env (readMessage s env p).pData = frameBody frame ∧
      s.heap.Holds pData p.serial (.body (frameBody frame)) := by
  obtain ⟨frame, pData, hframe, hrecord, hbody⟩ := h
  have hmessage : readMessage s env p = frameMessage frame pData := by
    rw [readMessage, SharedState.message_of_holds hrecord]
    rfl
  have hdata : readBody s env pData = frameBody frame := by
    rw [readBody, SharedState.body_of_holds hbody]
    rfl
  refine ⟨frame, pData, hframe, hmessage, ?_, hbody⟩
  rw [hmessage]
  exact hdata

section Keep

variable {s s' : SharedState} {p : MsgPtr}

def Extends (s s' : SharedState) : Prop :=
  ∀ (k : Nat) (frame : List UInt8), s.frames[k]? = some frame → s'.frames[k]? = some frame

theorem Extends.trans {s'' : SharedState} (h : Extends s s') (h' : Extends s' s'') :
    Extends s s'' := fun k frame hk => h' k frame (h k frame hk)

theorem extends_of_eq (hframes : s'.frames = s.frames) : Extends s s' := by
  intro k frame hk
  rw [hframes]
  exact hk

theorem extends_readFrame {bytes : List UInt8} : Extends s (readFrame bytes s) :=
  fun _ _ hk => frame_later hk

theorem Recorded.keep (h : Recorded s p) (hframes : Extends s s')
    (hkeeps : Heap.Keeps p.serial s.heap s'.heap) : Recorded s' p := by
  obtain ⟨frame, pData, hframe, hrecord⟩ := h
  exact ⟨frame, pData, hframes _ _ hframe, hkeeps _ _ hrecord⟩

theorem Stored.keep (h : Stored s p) (hframes : Extends s s')
    (hkeeps : Heap.Keeps p.serial s.heap s'.heap) : Stored s' p := by
  obtain ⟨frame, pData, hframe, hrecord, hbody⟩ := h
  exact ⟨frame, pData, hframes _ _ hframe, hkeeps _ _ hrecord, hkeeps _ _ hbody⟩

theorem CallBackMemory.keep {pc : CallBackPc} (h : CallBackMemory s p pc)
    (hframes : Extends s s') (hkeeps : Heap.Keeps p.serial s.heap s'.heap) :
    CallBackMemory s' p pc := by
  cases pc with
  | reply | freeData => exact Stored.keep h hframes hkeeps
  | freeMessage => exact Recorded.keep h hframes hkeeps

theorem AddressedTo.extend {endpointId : Int} (h : AddressedTo endpointId s p)
    (hframes : Extends s s') : AddressedTo endpointId s' p := by
  obtain ⟨frame, hframe, hid⟩ := h
  exact ⟨frame, hframes _ _ hframe, hid⟩

/-- Which endpoint an old message is for does not depend on later frames. -/
theorem AddressedTo.restrict {endpointId : Int} (h : AddressedTo endpointId s' p)
    (hframes : Extends s s') (hrecorded : Recorded s p) : AddressedTo endpointId s p := by
  obtain ⟨frame, pData, hframe, -⟩ := hrecorded
  obtain ⟨frame', hframe', hid⟩ := h
  have hsame : some frame = some frame' := (hframes _ _ hframe).symm.trans hframe'
  cases hsame
  exact ⟨frame, hframe, hid⟩

theorem takesNext_compare {endpointId : Int} (h : Recorded s p) :
    takesNext endpointId s (.compare p) = true ↔ AddressedTo endpointId s p := by
  obtain ⟨frame, pData, hframe, hmessage⟩ := h.message
  simp only [takesNext, hmessage, Option.any_some, AddressedTo, hframe, Option.some.injEq,
    exists_eq_left']
  exact decide_eq_true_iff

end Keep

/-- A step of a polling task keeps what the websocket task relies on. -/
theorem WebsocketMemory.keep {s s' : SharedState} {pc : WebsocketPc}
    (h : WebsocketMemory s pc) (hframes : s'.frames = s.frames)
    (hbuffer : s'.rxBuffer = s.rxBuffer)
    (hkeeps : ∀ p, building pc = some p ∨ displacing pc = some p →
      Heap.Keeps p.serial s.heap s'.heap) : WebsocketMemory s' pc := by
  have hextends := extends_of_eq hframes
  cases pc with
  | idle | refuse => trivial
  | mallocMessage len =>
      obtain ⟨frame, hcurrent⟩ := h
      exact ⟨frame, hcurrent.transfer hbuffer hframes⟩
  | clone len p =>
      obtain ⟨⟨frame, hcurrent⟩, hunset⟩ := h
      exact ⟨⟨frame, hcurrent.transfer hbuffer hframes⟩, hkeeps p (.inl rfl) _ _ hunset⟩
  | setFields len p pData =>
      obtain ⟨⟨frame, hcurrent, hcomplete, hbody⟩, hunset⟩ := h
      exact ⟨⟨frame, hcurrent.transfer hbuffer hframes, hcomplete,
        hkeeps p (.inl rfl) _ _ hbody⟩, hkeeps p (.inl rfl) _ _ hunset⟩
  | testWaiting p | receive p | reset p | send p =>
      exact Stored.keep h hextends (hkeeps p (.inl rfl))
  | callBack p prevMessage pc =>
      exact ⟨h.1.keep hextends (hkeeps p (.inl rfl)),
        h.2.keep hextends (hkeeps prevMessage (.inr rfl))⟩
  | crashed => exact h

theorem EndpointMemory.keep {endpointId : Int} {s s' : SharedState} {pc : EndpointPc}
    (h : EndpointMemory endpointId s pc) (hframes : Extends s s')
    (htaken : ∀ p, taken pc = some p → Heap.Keeps p.serial s.heap s'.heap)
    (hwatched : ∀ p, pc = .compare p → Recorded s p → Recorded s' p)
    (hqueue : takesNext endpointId s pc = true → ∀ q, s.xMailboxIncomingQueue = some q →
      s'.xMailboxIncomingQueue = some q) : EndpointMemory endpointId s' pc := by
  cases pc with
  | idle | peek => trivial
  | compare p =>
      refine ⟨hwatched p rfl h.1, ?_⟩
      intro haddressed
      have hold := haddressed.restrict hframes h.1
      exact hqueue ((takesNext_compare h.1).mpr hold) p (h.2 hold)
  | reset p => exact ⟨h.1.extend hframes, hqueue rfl p h.2⟩
  | handle p => exact ⟨h.1.extend hframes, h.2.keep hframes (htaken p rfl)⟩
  | callBack p status pc =>
      exact CallBackMemory.keep h hframes (htaken p rfl)
  | crashed => exact h

section CallBack

variable {s s' : SharedState} {env : Env} {p : MsgPtr} {status : Int} {pc pc' : CallBackPc}
  {next : Option CallBackPc}

theorem CallBackMove.keeps {k : Nat} (move : CallBackMove s env p status pc s' next)
    (h : CallBackMemory s p pc) (hne : p.serial ≠ k) : Heap.Keeps k s.heap s'.heap := by
  cases move with
  | reply known => exact Heap.Keeps.refl
  | freeData =>
      obtain ⟨frame, pData, -, hmessage, -, hbody⟩ := Stored.read h env
      rw [hmessage]
      exact hbody.free_keeps hne
  | freeMessage =>
      obtain ⟨frame, pData, -, hrecord⟩ := h
      exact hrecord.free_keeps hne

theorem CallBackMove.memory (move : CallBackMove s env p status pc s' (some pc'))
    (h : CallBackMemory s p pc) : CallBackMemory s' p pc' := by
  cases move with
  | reply known => exact h
  | freeData =>
      obtain ⟨frame, pData, hframe, hmessage, -, hbody⟩ := Stored.read h env
      obtain ⟨frame', pData', hframe', hrecord⟩ := Stored.recorded h
      rw [hmessage]
      have hne := hrecord.ne_of_content hbody (by simp)
      exact ⟨frame', pData', hframe', Heap.Holds.update_of_ne hrecord hne⟩

/-- Only a release of the record itself takes it from a task that compares it. -/
theorem CallBackMove.recorded {q : MsgPtr} (move : CallBackMove s env p status pc s' next)
    (h : CallBackMemory s p pc) (hguard : releasesNext p pc ≠ some q.addr)
    (hq : Recorded s q) : Recorded s' q := by
  cases move with
  | reply known => exact hq
  | freeData =>
      obtain ⟨frame, pData, hframe, hmessage, -, hbody⟩ := Stored.read h env
      obtain ⟨frame', pData', hframe', hrecord⟩ := hq
      rw [hmessage]
      have hne := hrecord.ne_of_content hbody (by simp)
      exact ⟨frame', pData', hframe', Heap.Holds.update_of_ne hrecord hne⟩
  | freeMessage =>
      obtain ⟨frame, pData, hframe, hrecord⟩ := hq
      refine ⟨frame, pData, hframe, Heap.Holds.update_of_ne hrecord ?_⟩
      intro hsame
      exact hguard (congrArg some hsame.symm)

theorem CallBackMemory.not_wild (h : CallBackMemory s p .reply) :
    (readMessage s env p).onRecieve ≠ .wild := by
  obtain ⟨frame, pData, -, hmessage, -, -⟩ := Stored.read h env
  rw [hmessage]
  simp [frameMessage, messageOf]

end CallBack

section Moves

variable {s s' : SharedState} {env : Env}

def websocketTouches : WebsocketPc → Option MsgPtr
  | .setFields _ p _ => some p
  | .callBack _ prevMessage _ => some prevMessage
  | _ => none

def endpointTouches : EndpointPc → Option MsgPtr
  | .callBack p _ _ => some p
  | _ => none

theorem WebsocketMove.keeps {pc pc' : WebsocketPc} {k : Nat}
    (move : WebsocketMove s env pc s' pc') (h : WebsocketMemory s pc)
    (hk : ∀ p, websocketTouches pc = some p → p.serial ≠ k) :
    Heap.Keeps k s.heap s'.heap := by
  cases move with
  | allocated len a unused given => exact Heap.alloc_keeps unused
  | cloned len p str unused given positive => exact Heap.alloc_keeps unused
  | setFields len p pData => exact h.2.write_keeps (hk p rfl)
  | inCallBack p prevMessage pc pc' s' move =>
      exact CallBackMove.keeps move h.2 (hk prevMessage rfl)
  | calledBack p prevMessage pc s' move =>
      exact CallBackMove.keeps move h.2 (hk prevMessage rfl)
  | _ => exact Heap.Keeps.refl

theorem WebsocketMove.memory {pc pc' : WebsocketPc}
    (move : WebsocketMove s env pc s' pc') (hslot : SlotInv s pc)
    (h : WebsocketMemory s pc)
    (hqueue : ∀ q, s.xMailboxIncomingQueue = some q → Stored s q)
    (hcopied : copies pc = true → env.malloc.isSome = true)
    (hdistinct : ∀ p prevMessage cpc, pc = .callBack p prevMessage cpc →
      prevMessage.serial ≠ p.serial) : WebsocketMemory s' pc' := by
  cases move with
  | allocated len a unused given =>
      obtain ⟨frame, hcurrent⟩ := h
      exact ⟨⟨frame, hcurrent.transfer rfl rfl⟩, Heap.holds_alloc_self⟩
  | notAllocated len given => trivial
  | cloned len p str unused given positive =>
      obtain ⟨⟨frame, hcurrent⟩, hunset⟩ := h
      have hcomplete := hcurrent.frameComplete positive
      refine ⟨⟨frame, hcurrent.transfer rfl rfl, hcomplete, ?_⟩, ?_⟩
      · rw [← hcurrent.body hcomplete]
        exact Heap.holds_alloc_self
      · exact Heap.alloc_keeps unused _ _ hunset
  | notCloned len p given =>
      rw [given] at hcopied
      exact absurd (hcopied rfl) (by simp)
  | setFields len p pData =>
      obtain ⟨⟨frame, hcurrent, hcomplete, hbody⟩, hunset⟩ := h
      have hserial : p.serial = s.frames.length - 1 := by
        have hnew := hslot.1
        omega
      have hne := hbody.ne_of_content hunset (by simp)
      refine ⟨frame, pData, ?_, ?_, Heap.Holds.update_of_ne hbody hne⟩
      · rw [hserial]
        exact hcurrent.newest
      · rw [← hcurrent.messageOf hcomplete pData]
        exact hunset.write
  | refuse len => trivial
  | waiting p q full => exact h
  | notWaiting p empty => exact h
  | received p prevMessage full => exact ⟨h, hqueue prevMessage full⟩
  | notReceived p empty => exact h
  | inCallBack p prevMessage pc pc' s' move =>
      have hframes := extends_of_eq (CallBackMove.frames move)
      have hkeeps := CallBackMove.keeps move h.2 (hdistinct _ _ _ rfl)
      exact ⟨h.1.keep hframes hkeeps, CallBackMove.memory move h.2⟩
  | calledBack p prevMessage pc s' move =>
      have hframes := extends_of_eq (CallBackMove.frames move)
      have hkeeps := CallBackMove.keeps move h.2 (hdistinct _ _ _ rfl)
      exact h.1.keep hframes hkeeps
  | jumped p prevMessage wild => exact absurd wild (CallBackMemory.not_wild h.2)
  | reset p => exact h
  | sent p empty => trivial
  | notSent p q full => trivial

theorem WebsocketMove.recorded {pc pc' : WebsocketPc} {q : MsgPtr}
    (move : WebsocketMove s env pc s' pc') (h : WebsocketMemory s pc)
    (hguard : websocketReleases pc ≠ some q.addr) (hq : Recorded s q) : Recorded s' q := by
  cases move with
  | allocated len a unused given => exact hq.keep (extends_of_eq rfl) (Heap.alloc_keeps unused)
  | cloned len p str unused given positive =>
      exact hq.keep (extends_of_eq rfl) (Heap.alloc_keeps unused)
  | setFields len p pData =>
      obtain ⟨frame, pData', hframe, hrecord⟩ := hq
      have hne := hrecord.ne_of_content h.2 (by simp)
      exact ⟨frame, pData', hframe, Heap.Holds.update_of_ne hrecord hne⟩
  | inCallBack p prevMessage pc pc' s' move => exact CallBackMove.recorded move h.2 hguard hq
  | calledBack p prevMessage pc s' move => exact CallBackMove.recorded move h.2 hguard hq
  | _ => exact hq

/-- Only the displacement takes a message out of a queue that holds one. -/
theorem WebsocketMove.queueKept {pc pc' : WebsocketPc}
    (move : WebsocketMove s env pc s' pc') (hslot : SlotInv s pc)
    (hpc : receives pc = false) {q : MsgPtr} (hq : s.xMailboxIncomingQueue = some q) :
    s'.xMailboxIncomingQueue = some q := by
  cases move with
  | received p prevMessage full => cases hpc
  | inCallBack p prevMessage pc pc' s' move =>
      rw [CallBackMove.queue move]
      exact hq
  | calledBack p prevMessage pc s' move =>
      rw [CallBackMove.queue move]
      exact hq
  | reset p =>
      rw [hslot.2] at hq
      cases hq
  | sent p empty =>
      rw [empty] at hq
      cases hq
  | _ => exact hq

variable {endpointId : Int} {handler : XMailboxMessage → List UInt8 → HandlerRun}
  {pc pc' : EndpointPc}

theorem EndpointMove.buffer (move : EndpointMove endpointId handler s env pc s' pc') :
    s'.rxBuffer = s.rxBuffer := by
  cases move with
  | inCallBack p status pc pc' s' move => cases move <;> rfl
  | calledBack p status pc s' move =>
      cases move
      rfl
  | _ => rfl

theorem EndpointMove.recorded {q : MsgPtr}
    (move : EndpointMove endpointId handler s env pc s' pc')
    (h : EndpointMemory endpointId s pc)
    (hguard : endpointReleases pc ≠ some q.addr) (hq : Recorded s q) : Recorded s' q := by
  cases move with
  | inCallBack p status pc pc' s' move => exact CallBackMove.recorded move h hguard hq
  | calledBack p status pc s' move => exact CallBackMove.recorded move h hguard hq
  | _ => exact hq

/-- Two tasks are never both about to take the pending message. -/
theorem EndpointMemory.pending (h : EndpointMemory endpointId s pc)
    (htakes : takesNext endpointId s pc = true) :
    ∃ q, s.xMailboxIncomingQueue = some q ∧ AddressedTo endpointId s q := by
  cases pc with
  | compare p =>
      have haddressed := (takesNext_compare h.1).mp htakes
      exact ⟨p, h.2 haddressed, haddressed⟩
  | reset p => exact ⟨p, h.2, h.1⟩
  | _ => cases htakes

/-- A task that empties the queue takes a message addressed to it. -/
theorem EndpointMove.drains {q : MsgPtr}
    (move : EndpointMove endpointId handler s env pc s' pc')
    (h : EndpointMemory endpointId s pc) (hfull : s.xMailboxIncomingQueue = some q)
    (hempty : s'.xMailboxIncomingQueue = none) :
    ∃ p, s.xMailboxIncomingQueue = some p ∧ AddressedTo endpointId s p := by
  cases move with
  | reset p => exact ⟨p, h.2, h.1⟩
  | inCallBack p status pc pc' s' move =>
      rw [CallBackMove.queue move, hfull] at hempty
      cases hempty
  | calledBack p status pc s' move =>
      rw [CallBackMove.queue move, hfull] at hempty
      cases hempty
  | _ => cases hfull.symm.trans hempty

theorem AddressedTo.unique {endpointId' : Int} {q : MsgPtr}
    (h : AddressedTo endpointId s q) (h' : AddressedTo endpointId' s q) :
    endpointId = endpointId' := by
  obtain ⟨frame, hframe, rfl⟩ := h
  obtain ⟨frame', hframe', rfl⟩ := h'
  have hsame := Option.some.inj (hframe.symm.trans hframe')
  rw [hsame]

theorem EndpointMove.keeps {k : Nat} (move : EndpointMove endpointId handler s env pc s' pc')
    (h : EndpointMemory endpointId s pc)
    (hk : ∀ p, endpointTouches pc = some p → p.serial ≠ k) :
    Heap.Keeps k s.heap s'.heap := by
  cases move with
  | inCallBack p status pc pc' s' move => exact CallBackMove.keeps move h (hk p rfl)
  | calledBack p status pc s' move => exact CallBackMove.keeps move h (hk p rfl)
  | _ => exact Heap.Keeps.refl

/-- A task that finds its own endpoint in the record it peeked is about to take
exactly that message. -/
theorem EndpointMove.memory (move : EndpointMove endpointId handler s env pc s' pc')
    (h : EndpointMemory endpointId s pc)
    (hqueue : ∀ q, s.xMailboxIncomingQueue = some q → Stored s q) :
    EndpointMemory endpointId s' pc' := by
  cases move with
  | waiting q full => trivial
  | notWaiting empty => trivial
  | peeked p full => exact ⟨(hqueue p full).recorded, fun _ => full⟩
  | notPeeked empty => trivial
  | mine p same =>
      obtain ⟨frame, pData, hframe, hmessage⟩ := h.1.message
      have hread : readMessage s env p = frameMessage frame pData := by
        rw [readMessage, hmessage]
        rfl
      rw [hread] at same
      have haddressed : AddressedTo endpointId s p := ⟨frame, hframe, same⟩
      exact ⟨haddressed, h.2 haddressed⟩
  | notMine p other => trivial
  | reset p => exact ⟨h.1, hqueue p h.2⟩
  | handled p message pData readsMessage readsBody => exact h.2
  | inCallBack p status pc pc' s' move => exact CallBackMove.memory move h
  | calledBack p status pc s' move => trivial
  | jumped p status wild => exact absurd wild (CallBackMemory.not_wild h)

end Moves

end Esp32Iot.MessageMemory
