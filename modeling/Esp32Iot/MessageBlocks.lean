import Mathlib.Data.Finset.Union
import Mathlib.Algebra.Order.BigOperators.Group.Finset
import Esp32Iot.TaskOwnership

namespace Esp32Iot.MessageBlocks

open Esp32Iot.BlockHeap
open Esp32Iot.Communication
open Esp32Iot.Custody
open Esp32Iot.FrameMessages
open Esp32Iot.GuardedRun
open Esp32Iot.Mailbox
open Esp32Iot.MessageMemory
open Esp32Iot.TaskHistory
open Esp32Iot.TaskOrder
open Esp32Iot.TaskOwnership
open Esp32Iot.TaskSteps

section Blocks

variable (s : SharedState)

/-- The addresses of the record and of the body of a message. -/
def messageBlocks (p : MsgPtr) : List Nat :=
  p.addr :: ((s.message? p).map (·.pData)).toList

def callBackBlocks (p : MsgPtr) : CallBackPc → List Nat
  | .reply | .freeData => messageBlocks s p
  | .freeMessage => [p.addr]

def websocketBlocks : WebsocketPc → List Nat
  | .clone _ p => [p.addr]
  | .setFields _ p pData => [p.addr, pData]
  | .testWaiting p | .receive p | .reset p | .send p => messageBlocks s p
  | .callBack p prevMessage pc => messageBlocks s p ++ callBackBlocks s prevMessage pc
  | .idle | .mallocMessage _ | .refuse _ | .crashed => []

def endpointBlocks : EndpointPc → List Nat
  | .handle p => messageBlocks s p
  | .callBack p _ pc => callBackBlocks s p pc
  | .idle | .peek | .compare _ | .reset _ | .crashed => []

def queueBlocks : List Nat := s.xMailboxIncomingQueue.toList.flatMap (messageBlocks s)

end Blocks

variable {ι : Type*}

/-- Some task, or the mailbox, will have the block at `a` released. -/
def Owned (s : State ι) (a : Nat) : Prop :=
  a ∈ websocketBlocks s.shared s.websocket ∨ a ∈ queueBlocks s.shared ∨
    ∃ t, a ∈ endpointBlocks s.shared (s.endpoint t)

def LiveOwned (s : State ι) : Prop := ∀ a, s.shared.heap.isLive a = true → Owned s a

section Messages

variable {s s' : SharedState} {p q : MsgPtr} {a : Nat}

theorem messageBlocks_of_record {tag : Nat} {message : XMailboxMessage}
    (h : s.heap.Holds p.addr tag (.record (some message))) :
    messageBlocks s p = [p.addr, message.pData] := by
  rw [messageBlocks, SharedState.message_of_holds h]
  rfl

theorem messageBlocks_keep (h : Recorded s p)
    (hkeeps : Heap.Keeps p.serial s.heap s'.heap) : messageBlocks s' p = messageBlocks s p := by
  obtain ⟨frame, pData, -, hrecord⟩ := h
  rw [messageBlocks_of_record hrecord, messageBlocks_of_record (hkeeps _ _ hrecord)]

theorem callBackBlocks_keep {pc : CallBackPc} (h : CallBackMemory s p pc)
    (hkeeps : Heap.Keeps p.serial s.heap s'.heap) :
    callBackBlocks s' p pc = callBackBlocks s p pc := by
  cases pc with
  | reply | freeData => exact messageBlocks_keep (Stored.recorded h) hkeeps
  | freeMessage => rfl

theorem endpointBlocks_keep {endpointId : Int} {pc : EndpointPc}
    (h : EndpointMemory endpointId s pc)
    (hkeeps : ∀ p, taken pc = some p → Heap.Keeps p.serial s.heap s'.heap) :
    endpointBlocks s' pc = endpointBlocks s pc := by
  cases pc with
  | handle p => exact messageBlocks_keep h.2.recorded (hkeeps p rfl)
  | callBack p status pc => exact callBackBlocks_keep h (hkeeps p rfl)
  | _ => rfl

theorem queueBlocks_of_some (hq : s.xMailboxIncomingQueue = some q) :
    queueBlocks s = messageBlocks s q := by
  simp [queueBlocks, hq]

theorem queueBlocks_of_none (hq : s.xMailboxIncomingQueue = none) : queueBlocks s = [] := by
  simp [queueBlocks, hq]

theorem queueBlocks_keep (hqueue : s'.xMailboxIncomingQueue = s.xMailboxIncomingQueue)
    (hstored : ∀ q, s.xMailboxIncomingQueue = some q → Stored s q)
    (hkeeps : ∀ q, s.xMailboxIncomingQueue = some q →
      Heap.Keeps q.serial s.heap s'.heap) : queueBlocks s' = queueBlocks s := by
  cases hq : s.xMailboxIncomingQueue with
  | none => rw [queueBlocks_of_none hq, queueBlocks_of_none (hqueue.trans hq)]
  | some q =>
      rw [queueBlocks_of_some hq, queueBlocks_of_some (hqueue.trans hq)]
      exact messageBlocks_keep (hstored q hq).recorded (hkeeps q hq)

/-- Inside `onRecieve` blocks are only released, each as the task comes to it. -/
theorem CallBackMove.blocks {env : Env} {status : Int} {pc : CallBackPc}
    {next : Option CallBackPc} (move : CallBackMove s env p status pc s' next)
    (h : CallBackMemory s p pc) (hlive : s'.heap.isLive a = true) :
    s.heap.isLive a = true ∧ (a ∈ callBackBlocks s p pc →
      ∃ pc', next = some pc' ∧ a ∈ callBackBlocks s' p pc') := by
  cases move with
  | reply known => exact ⟨hlive, fun ha => ⟨_, rfl, ha⟩⟩
  | freeData =>
      obtain ⟨hne, hold⟩ := Heap.isLive_free hlive
      refine ⟨hold, fun ha => ⟨_, rfl, ?_⟩⟩
      obtain ⟨frame, pData, -, hmessage, -, -⟩ := Stored.read h env
      obtain ⟨frame', pData', -, hrecord⟩ := Stored.recorded h
      have hread : readMessage s env p = frameMessage frame' pData' := by
        rw [readMessage, SharedState.message_of_holds hrecord]
        rfl
      rw [callBackBlocks, messageBlocks_of_record hrecord] at ha
      rw [hread] at hne
      rcases List.mem_cons.mp ha with rfl | ha
      · exact List.mem_singleton_self _
      · exact absurd (List.mem_singleton.mp ha) hne
  | freeMessage =>
      obtain ⟨hne, hold⟩ := Heap.isLive_free hlive
      refine ⟨hold, fun ha => ?_⟩
      exact absurd (List.mem_singleton.mp ha) hne

end Messages

section Steps

variable {cfg : Endpoints ι} {s s' : SharedState} {env : Env} {wpc wpc' : WebsocketPc}
  {ep ep' : ι → EndpointPc}

/-- The blocks in use stay owned if whoever owned one still does, or hands it on. -/
theorem LiveOwned.step (h : LiveOwned (⟨s, wpc, ep⟩ : State ι))
    (hlive : ∀ a, s'.heap.isLive a = true →
      s.heap.isLive a = true ∨ Owned (⟨s', wpc', ep'⟩ : State ι) a)
    (hwebsocket : ∀ a, s'.heap.isLive a = true → a ∈ websocketBlocks s wpc →
      Owned (⟨s', wpc', ep'⟩ : State ι) a)
    (hqueue : ∀ a ∈ queueBlocks s, Owned (⟨s', wpc', ep'⟩ : State ι) a)
    (hendpoint : ∀ a t, s'.heap.isLive a = true → a ∈ endpointBlocks s (ep t) →
      Owned (⟨s', wpc', ep'⟩ : State ι) a) : LiveOwned (⟨s', wpc', ep'⟩ : State ι) := by
  intro a ha
  rcases hlive a ha with hold | hnew
  · rcases h a hold with hw | hq | ⟨t, ht⟩
    · exact hwebsocket a ha hw
    · exact hqueue a hq
    · exact hendpoint a t ha ht
  · exact hnew

theorem liveOwned_websocket (move : WebsocketMove s env wpc s' wpc')
    (hmem : MemoryInv cfg ⟨s, wpc, ep⟩) (hslot : SlotInv s wpc)
    (hcopied : copies wpc = true → env.malloc.isSome = true)
    (hkeeps : ∀ q, (s.xMailboxIncomingQueue = some q ∨ ∃ t, taken (ep t) = some q) →
      Heap.Keeps q.serial s.heap s'.heap)
    (hdistinct : ∀ p prevMessage pc, wpc = .callBack p prevMessage pc →
      prevMessage.serial ≠ p.serial)
    (h : LiveOwned (⟨s, wpc, ep⟩ : State ι)) : LiveOwned (⟨s', wpc', ep⟩ : State ι) := by
  have hendpoint : ∀ a t, s'.heap.isLive a = true → a ∈ endpointBlocks s (ep t) →
      Owned (⟨s', wpc', ep⟩ : State ι) a := by
    intro a t _ ha
    refine .inr (.inr ⟨t, ?_⟩)
    rw [endpointBlocks_keep (hmem.task t) fun p hp => hkeeps p (.inr ⟨t, hp⟩)]
    exact ha
  have hqueue : s'.xMailboxIncomingQueue = s.xMailboxIncomingQueue →
      ∀ a ∈ queueBlocks s, Owned (⟨s', wpc', ep⟩ : State ι) a := by
    intro hsame a ha
    refine .inr (.inl ?_)
    rw [queueBlocks_keep hsame hmem.queue fun q hq => hkeeps q (.inl hq)]
    exact ha
  have hcallBack : ∀ {p prevMessage status pc next},
      wpc = .callBack p prevMessage pc →
      CallBackMove s env prevMessage status pc s' next →
      (∀ a, a ∈ messageBlocks s' p → Owned (⟨s', wpc', ep⟩ : State ι) a) →
      (∀ a pc', next = some pc' → a ∈ callBackBlocks s' prevMessage pc' →
        Owned (⟨s', wpc', ep⟩ : State ι) a) → LiveOwned (⟨s', wpc', ep⟩ : State ι) := by
    intro p prevMessage status pc next hpc hmove hbuilt hleft
    subst hpc
    obtain ⟨hstored, hmemory⟩ := hmem.websocket
    have hpkeeps := CallBackMove.keeps hmove hmemory (hdistinct _ _ _ rfl)
    refine h.step (fun a ha => .inl (CallBackMove.blocks hmove hmemory ha).1) ?_
      (hqueue (CallBackMove.queue hmove)) hendpoint
    intro a ha hmem
    rcases List.mem_append.mp hmem with hp | hprev
    · apply hbuilt
      rw [messageBlocks_keep hstored.recorded hpkeeps]
      exact hp
    · obtain ⟨pc', hnext, hleft'⟩ := (CallBackMove.blocks hmove hmemory ha).2 hprev
      exact hleft a pc' hnext hleft'
  cases move with
  | allocated len a unused given =>
      refine h.step ?_ ?_ (hqueue rfl) hendpoint
      · intro b hb
        rcases Heap.isLive_alloc hb with rfl | hold
        · exact .inr (.inl (List.mem_singleton_self _))
        · exact .inl hold
      · rintro b _ ⟨⟩
  | cloned len p str unused given positive =>
      refine h.step ?_ ?_ (hqueue rfl) hendpoint
      · intro b hb
        rcases Heap.isLive_alloc hb with rfl | hold
        · exact .inr (.inl (List.mem_cons_of_mem _ (List.mem_singleton_self _)))
        · exact .inl hold
      · intro b _ hb
        rw [List.mem_singleton.mp hb]
        exact .inl List.mem_cons_self
  | notCloned len p given =>
      rw [given] at hcopied
      exact absurd (hcopied rfl) (by simp)
  | setFields len p pData =>
      have hrecord : (setFields (dataEvent s len) p pData s).heap.Holds p.addr p.serial
          (.record (some (messageOf (dataEvent s len) pData))) := hmem.websocket.2.write
      refine h.step ?_ ?_ (hqueue rfl) hendpoint
      · intro b hb
        exact .inl (Heap.isLive_write.symm.trans hb)
      · intro b _ hb
        refine .inl ?_
        rw [websocketBlocks, messageBlocks_of_record hrecord]
        exact hb
  | received p prevMessage full =>
      refine h.step (fun _ hb => .inl hb) ?_ ?_ hendpoint
      · exact fun b _ hb => .inl (List.mem_append_left _ hb)
      · intro b hb
        rw [queueBlocks_of_some full] at hb
        exact .inl (List.mem_append_right _ hb)
  | inCallBack p prevMessage pc pc' s' move =>
      apply hcallBack rfl move
      · exact fun a ha => .inl (List.mem_append_left _ ha)
      · rintro a pc'' ⟨⟩ ha
        exact .inl (List.mem_append_right _ ha)
  | calledBack p prevMessage pc s' move =>
      apply hcallBack rfl move
      · exact fun a ha => .inl ha
      · rintro a pc'' ⟨⟩
  | jumped p prevMessage wild => exact absurd wild (CallBackMemory.not_wild hmem.websocket.2)
  | sent p empty =>
      refine h.step (fun _ hb => .inl hb) ?_ ?_ hendpoint
      · intro b _ hb
        refine .inr (.inl ?_)
        rw [queueBlocks_of_some rfl]
        exact hb
      · intro b hb
        rw [queueBlocks_of_none empty] at hb
        cases hb
  | notSent p q full =>
      rw [hslot.2] at full
      cases full
  | reset p =>
      refine h.step (fun _ hb => .inl hb) (fun b _ hb => .inl hb) ?_ hendpoint
      apply hqueue
      exact hslot.2.symm
  | _ =>
      exact h.step (fun _ hb => .inl hb) (fun b _ hb => .inl hb) (hqueue rfl) hendpoint

variable [DecidableEq ι] {t : ι} {pc pc' : EndpointPc}

theorem liveOwned_endpoint
    (move : EndpointMove (cfg.endpointId t) (cfg.handler t) s env pc s' pc') (hpc : ep t = pc)
    (hmem : MemoryInv cfg ⟨s, wpc, ep⟩)
    (hkeeps : ∀ q, (building wpc = some q ∨ displacing wpc = some q ∨
        s.xMailboxIncomingQueue = some q ∨ ∃ u, u ≠ t ∧ taken (ep u) = some q) →
      Heap.Keeps q.serial s.heap s'.heap)
    (hwebsocket : websocketBlocks s' wpc = websocketBlocks s wpc)
    (h : LiveOwned (⟨s, wpc, ep⟩ : State ι)) :
    LiveOwned (⟨s', wpc, Function.update ep t pc'⟩ : State ι) := by
  have hbuilt : ∀ a, s'.heap.isLive a = true → a ∈ websocketBlocks s wpc →
      Owned (⟨s', wpc, Function.update ep t pc'⟩ : State ι) a := by
    intro a _ ha
    rw [← hwebsocket] at ha
    exact .inl ha
  have hqueue : s'.xMailboxIncomingQueue = s.xMailboxIncomingQueue →
      ∀ a ∈ queueBlocks s, Owned (⟨s', wpc, Function.update ep t pc'⟩ : State ι) a := by
    intro hsame a ha
    refine .inr (.inl ?_)
    rw [queueBlocks_keep hsame hmem.queue fun q hq => hkeeps q (.inr (.inr (.inl hq)))]
    exact ha
  have hmine : ∀ a, a ∈ endpointBlocks s' pc' →
      Owned (⟨s', wpc, Function.update ep t pc'⟩ : State ι) a := by
    intro a ha
    refine .inr (.inr ⟨t, ?_⟩)
    simp only [Function.update_self]
    exact ha
  have hendpoint : (∀ a, s'.heap.isLive a = true → a ∈ endpointBlocks s pc →
        a ∈ endpointBlocks s' pc') → ∀ a u, s'.heap.isLive a = true →
      a ∈ endpointBlocks s (ep u) →
      Owned (⟨s', wpc, Function.update ep t pc'⟩ : State ι) a := by
    intro hown a u ha hu
    by_cases hut : u = t
    · subst u
      rw [hpc] at hu
      exact hmine a (hown a ha hu)
    · refine .inr (.inr ⟨u, ?_⟩)
      simp only [Function.update_of_ne hut]
      rw [endpointBlocks_keep (hmem.task u) fun p hp =>
        hkeeps p (.inr (.inr (.inr ⟨u, hut, hp⟩)))]
      exact hu
  have hmemory := hmem.task t
  simp only [hpc] at hmemory
  cases move with
  | reset p =>
      refine h.step (fun _ hb => .inl hb) hbuilt ?_ (hendpoint ?_)
      · intro b hb
        rw [queueBlocks_of_some hmemory.2] at hb
        exact hmine b hb
      · rintro b _ ⟨⟩
  | inCallBack p status pc pc' s' move =>
      refine h.step (fun a ha => .inl (CallBackMove.blocks move hmemory ha).1) hbuilt
        (hqueue (CallBackMove.queue move)) (hendpoint ?_)
      intro a ha hold
      obtain ⟨pc'', ⟨⟩, hleft⟩ := (CallBackMove.blocks move hmemory ha).2 hold
      exact hleft
  | calledBack p status pc s' move =>
      refine h.step (fun a ha => .inl (CallBackMove.blocks move hmemory ha).1) hbuilt
        (hqueue (CallBackMove.queue move)) (hendpoint ?_)
      intro a ha hold
      obtain ⟨pc'', ⟨⟩, -⟩ := (CallBackMove.blocks move hmemory ha).2 hold
  | jumped p status wild => exact absurd wild (CallBackMemory.not_wild hmemory)
  | _ => exact h.step (fun _ hb => .inl hb) hbuilt (hqueue rfl) (hendpoint fun _ _ ha => ha)

end Steps

section Runs

variable {cfg : Endpoints ι} {s : State ι}

theorem holds_messageBlocks {s : SharedState} {p : MsgPtr} {a : Nat} (h : Stored s p)
    (ha : a ∈ messageBlocks s p) : ∃ content, s.heap.Holds a p.serial content := by
  obtain ⟨frame, pData, -, hrecord, hbody⟩ := h
  rw [messageBlocks_of_record hrecord] at ha
  rcases List.mem_cons.mp ha with rfl | ha
  · exact ⟨_, hrecord⟩
  · rw [List.mem_singleton.mp ha]
    exact ⟨_, hbody⟩

theorem holds_callBackBlocks {s : SharedState} {p : MsgPtr} {a : Nat} {pc : CallBackPc}
    (h : CallBackMemory s p pc) (ha : a ∈ callBackBlocks s p pc) :
    ∃ content, s.heap.Holds a p.serial content := by
  cases pc with
  | reply | freeData => exact holds_messageBlocks h ha
  | freeMessage =>
      obtain ⟨frame, pData, -, hrecord⟩ := h
      rw [List.mem_singleton.mp ha]
      exact ⟨_, hrecord⟩

/-- What is owned is in use for the message in whose place it is. -/
theorem holds_of_owned {a : Nat} (hmem : MemoryInv cfg s) (h : Owned s a) :
    ∃ c q content, placed s c = some q ∧ s.shared.heap.Holds a q.serial content := by
  rcases h with hw | hq | ⟨t, ht⟩
  · have hmemory := hmem.websocket
    have hbuilt : ∀ {p}, building s.websocket = some p →
        (∃ content, s.shared.heap.Holds a p.serial content) →
        ∃ c q content, placed s c = some q ∧ s.shared.heap.Holds a q.serial content := by
      rintro p hp ⟨content, hholds⟩
      exact ⟨.building, p, content, hp, hholds⟩
    cases hpc : s.websocket with
    | clone len p =>
        rw [hpc] at hw hmemory
        rw [List.mem_singleton.mp hw] at hbuilt ⊢
        exact hbuilt (by rw [hpc]; rfl) ⟨_, hmemory.2⟩
    | setFields len p pData =>
        rw [hpc] at hw hmemory
        obtain ⟨⟨frame, -, -, hbody⟩, hrecord⟩ := hmemory
        apply hbuilt (p := p) (by rw [hpc]; rfl)
        rcases List.mem_cons.mp hw with rfl | hw
        · exact ⟨_, hrecord⟩
        · rw [List.mem_singleton.mp hw]
          exact ⟨_, hbody⟩
    | testWaiting p | receive p | reset p | send p =>
        rw [hpc] at hw hmemory
        exact hbuilt (by rw [hpc]; rfl) (holds_messageBlocks hmemory hw)
    | callBack p prevMessage pc =>
        rw [hpc] at hw hmemory
        rcases List.mem_append.mp hw with hp | hprev
        · exact hbuilt (by rw [hpc]; rfl) (holds_messageBlocks hmemory.1 hp)
        · obtain ⟨content, hholds⟩ := holds_callBackBlocks hmemory.2 hprev
          obtain ⟨b, hplaced⟩ : ∃ b, placed s (.websocket b) = some prevMessage :=
            placed_displacing (by rw [hpc]; rfl)
          exact ⟨_, _, content, hplaced, hholds⟩
    | idle | mallocMessage | refuse | crashed =>
        rw [hpc] at hw
        cases hw
  · obtain ⟨q, hq', ha⟩ := List.mem_flatMap.mp hq
    have hqueue : s.shared.xMailboxIncomingQueue = some q := Option.mem_toList.mp hq'
    obtain ⟨content, hholds⟩ := holds_messageBlocks (hmem.queue q hqueue) ha
    exact ⟨.mailbox, q, content, hqueue, hholds⟩
  · have hmemory := hmem.task t
    have hheld : ∀ {p}, taken (s.endpoint t) = some p →
        (∃ content, s.shared.heap.Holds a p.serial content) →
        ∃ c q content, placed s c = some q ∧ s.shared.heap.Holds a q.serial content := by
      rintro p hp ⟨content, hholds⟩
      obtain ⟨b, hplaced⟩ := placed_taken hp
      exact ⟨_, p, content, hplaced, hholds⟩
    cases hpc : s.endpoint t with
    | handle p =>
        rw [hpc] at ht hmemory
        exact hheld (by rw [hpc]; rfl) (holds_messageBlocks hmemory.2 ht)
    | callBack p status pc =>
        rw [hpc] at ht hmemory
        exact hheld (by rw [hpc]; rfl) (holds_callBackBlocks hmemory ht)
    | idle | peek | compare | reset | crashed =>
        rw [hpc] at ht
        cases ht

theorem live_of_owned {a : Nat} (hmem : MemoryInv cfg s) (h : Owned s a) :
    s.shared.heap.isLive a = true := by
  obtain ⟨_, _, _, _, hholds⟩ := holds_of_owned hmem h
  exact hholds.isLive

theorem websocketBlocks_keep {s s' : SharedState} {pc : WebsocketPc}
    (h : WebsocketMemory s pc)
    (hkeeps : ∀ q, (building pc = some q ∨ displacing pc = some q) →
      Heap.Keeps q.serial s.heap s'.heap) : websocketBlocks s' pc = websocketBlocks s pc := by
  cases pc with
  | testWaiting p | receive p | reset p | send p =>
      exact messageBlocks_keep (Stored.recorded h) (hkeeps p (.inl rfl))
  | callBack p prevMessage pc =>
      rw [websocketBlocks, messageBlocks_keep h.1.recorded (hkeeps p (.inl rfl)),
        callBackBlocks_keep h.2 (hkeeps prevMessage (.inr rfl))]
      rfl
  | _ => rfl

/-- A step of the websocket task keeps the messages at other places. -/
theorem keeps_of_websocket {l : Ledger (Place ι) Nat} {env : Env} {shared : SharedState}
    {pc : WebsocketPc} (move : WebsocketMove s.shared env s.websocket shared pc)
    (hmem : MemoryInv cfg s) (howns : Owns s l) (hinv : LedgerInv isAnswered l)
    {c : Place ι} {q : MsgPtr} (hq : placed s c = some q) (hbuilding : c ≠ .building)
    (hother : ∀ b, c ≠ .websocket b) : Heap.Keeps q.serial s.shared.heap shared.heap := by
  refine WebsocketMove.keeps move hmem.websocket ?_
  intro p hp
  rcases placed_touched hp with hplaced | ⟨b, hplaced⟩
  · exact howns.ne hinv hplaced hq (Ne.symm hbuilding)
  · exact howns.ne hinv hplaced hq (Ne.symm (hother b))

/-- A step of task `t` keeps the messages it has not taken. -/
theorem keeps_of_endpoint {l : Ledger (Place ι) Nat} {env : Env} {shared : SharedState}
    {t : ι} {pc : EndpointPc}
    (move : EndpointMove (cfg.endpointId t) (cfg.handler t) s.shared env (s.endpoint t) shared pc)
    (hmem : MemoryInv cfg s) (howns : Owns s l) (hinv : LedgerInv isAnswered l)
    {c : Place ι} {q : MsgPtr} (hq : placed s c = some q) (hother : ∀ b, c ≠ .endpoint t b) :
    Heap.Keeps q.serial s.shared.heap shared.heap := by
  refine EndpointMove.keeps move (hmem.task t) ?_
  intro p hp
  have htaken : taken (s.endpoint t) = some p := by
    cases hpc : s.endpoint t with
    | callBack p' status pc =>
        rw [hpc] at hp
        exact hp
    | _ =>
        rw [hpc] at hp
        cases hp
  obtain ⟨b, hplaced⟩ := placed_taken htaken
  exact howns.ne hinv hplaced hq (Ne.symm (hother b))

variable [DecidableEq ι] {guard : State ι → Action ι → Prop} {rx : List UInt8}
  {as : List (Action ι)}

theorem liveOwned_run (run : Run (step cfg) guard (start rx) as s)
    (hguard : ∀ u a, guard u a → BodyCopied u a ∧ TakesAlone cfg u a) : LiveOwned s := by
  apply run.invariant (P := LiveOwned)
  · intro a ha
    cases ha
  · intro bs u a v hbefore hu hallowed hstep
    have horder := orderInv_run hbefore
    obtain ⟨hmem, ms, l, hledger, howns⟩ := owns_run hbefore hguard
    have hinv := ledgerInv_run hledger
    rcases step_cases hstep with ⟨bytes, rfl, hidle, rfl⟩ | ⟨env, shared', pc, rfl, move, rfl⟩ |
      ⟨t, env, shared', pc, rfl, move, rfl⟩
    · obtain ⟨shared, wpc, ep⟩ := u
      cases hidle
      exact hu
    · refine liveOwned_websocket move hmem horder.slot (hguard _ _ hallowed).1 ?_ ?_ hu
      · rintro q (hq | ⟨t, ht⟩)
        · exact keeps_of_websocket move hmem howns hinv (c := .mailbox) hq (by simp) (by simp)
        · obtain ⟨b, hplaced⟩ := placed_taken ht
          exact keeps_of_websocket move hmem howns hinv hplaced (by simp) (by simp)
      · intro p prevMessage cpc hpc
        have hbuilding : placed u .building = some p := by
          simp only [placed, hpc, building]
        obtain ⟨b, hplaced⟩ : ∃ b, placed u (.websocket b) = some prevMessage :=
          placed_displacing (by rw [hpc]; rfl)
        exact howns.ne hinv hplaced hbuilding (by simp)
    · have hkeeps : ∀ q, (building u.websocket = some q ∨ displacing u.websocket = some q ∨
          u.shared.xMailboxIncomingQueue = some q ∨
            ∃ v, v ≠ t ∧ taken (u.endpoint v) = some q) →
          Heap.Keeps q.serial u.shared.heap shared'.heap := by
        rintro q (hq | hq | hq | ⟨v, hv, hq⟩)
        · exact keeps_of_endpoint move hmem howns hinv (c := .building) hq (by simp)
        · obtain ⟨b, hplaced⟩ := placed_displacing hq
          exact keeps_of_endpoint move hmem howns hinv hplaced (by simp)
        · exact keeps_of_endpoint move hmem howns hinv (c := .mailbox) hq (by simp)
        · obtain ⟨b, hplaced⟩ := placed_taken hq
          refine keeps_of_endpoint move hmem howns hinv hplaced ?_
          rintro b' ⟨⟩
          exact hv rfl
      refine liveOwned_endpoint move rfl hmem hkeeps ?_ hu
      apply websocketBlocks_keep hmem.websocket
      rintro q (hq | hq)
      · exact hkeeps q (.inl hq)
      · exact hkeeps q (.inr (.inl hq))

/-- A message that has been released has neither a record nor a body any more. -/
theorem freed_of_released (run : Run (step cfg) guard (start rx) as s)
    (hguard : ∀ u a, guard u a → BodyCopied u a ∧ TakesAlone cfg u a) {k : Nat}
    (hk : .released k ∈ s.shared.trace) (a : Nat) (content : Cell) :
    ¬ s.shared.heap.Holds a k content := by
  intro hholds
  obtain ⟨hmem, ms, l, hledger, howns⟩ := owns_run run hguard
  have hlive := liveOwned_run run hguard a hholds.isLive
  obtain ⟨c, q, content', hplaced, hheld⟩ := holds_of_owned hmem hlive
  have hserial : k = q.serial := (hholds.unique hheld).1
  apply (ledgerInv_run hledger).kept c q.serial (howns.held_some hplaced)
  rw [howns.removed, ← hserial]
  exact List.mem_filterMap.mpr ⟨_, hk, rfl⟩

theorem length_messageBlocks (s : SharedState) (p : MsgPtr) :
    (messageBlocks s p).length ≤ 2 := by
  unfold messageBlocks
  cases s.message? p <;> simp

theorem length_callBackBlocks (s : SharedState) (p : MsgPtr) (pc : CallBackPc) :
    (callBackBlocks s p pc).length ≤ 2 := by
  cases pc with
  | reply | freeData => exact length_messageBlocks s p
  | freeMessage => exact Nat.le_succ 1

theorem length_endpointBlocks (s : SharedState) (pc : EndpointPc) :
    (endpointBlocks s pc).length ≤ 2 := by
  cases pc with
  | handle p => exact length_messageBlocks s p
  | callBack p status pc => exact length_callBackBlocks s p pc
  | _ => exact Nat.zero_le 2

theorem length_queueBlocks (s : SharedState) : (queueBlocks s).length ≤ 2 := by
  cases hq : s.xMailboxIncomingQueue with
  | none =>
      rw [queueBlocks_of_none hq]
      exact Nat.zero_le 2
  | some q =>
      rw [queueBlocks_of_some hq]
      exact length_messageBlocks s q

/-- While the websocket task displaces a message, the slot is empty. -/
theorem length_producerBlocks {s : SharedState} {pc : WebsocketPc} (h : SlotInv s pc) :
    (websocketBlocks s pc).length + (queueBlocks s).length ≤ 4 := by
  have hqueue := length_queueBlocks s
  cases pc with
  | callBack p prevMessage pc =>
      have hp := length_messageBlocks s p
      have hprev := length_callBackBlocks s prevMessage pc
      rw [queueBlocks_of_none h.2, websocketBlocks, List.length_append, List.length_nil]
      omega
  | testWaiting p | receive p | reset p | send p =>
      have hp := length_messageBlocks s p
      rw [websocketBlocks]
      omega
  | _ =>
      simp only [websocketBlocks, List.length_cons, List.length_nil]
      omega

/-- The blocks in use are those of the messages that are being built, pending, or in
the hands of a task, and there are at most two for each of these. -/
structure BlocksExact [Fintype ι] (s : State ι) : Prop where
  inUse : ∀ a, s.shared.heap.isLive a = true ↔ Owned s a
  bounded : ∃ blocks : Finset Nat, (∀ a, s.shared.heap.isLive a = true ↔ a ∈ blocks) ∧
    blocks.card ≤ 2 * (Fintype.card ι + 2)
  released : s.websocket = .idle → s.shared.xMailboxIncomingQueue = none →
    (∀ t, taken (s.endpoint t) = none) → ∀ a, s.shared.heap.isLive a = false

def ownedBlocks [Fintype ι] (s : State ι) : Finset Nat :=
  (websocketBlocks s.shared s.websocket ++ queueBlocks s.shared).toFinset ∪
    Finset.univ.biUnion fun t => (endpointBlocks s.shared (s.endpoint t)).toFinset

omit [DecidableEq ι] in
theorem mem_ownedBlocks [Fintype ι] {a : Nat} : a ∈ ownedBlocks s ↔ Owned s a := by
  simp [ownedBlocks, Owned]

omit [DecidableEq ι] in
theorem card_ownedBlocks [Fintype ι] (hslot : SlotInv s.shared s.websocket) :
    (ownedBlocks s).card ≤ 2 * (Fintype.card ι + 2) := by
  have hproducer : (websocketBlocks s.shared s.websocket ++
      queueBlocks s.shared).toFinset.card ≤ 4 := by
    refine le_trans (List.toFinset_card_le _) ?_
    rw [List.length_append]
    exact length_producerBlocks hslot
  have htasks : (Finset.univ.biUnion fun t =>
      (endpointBlocks s.shared (s.endpoint t)).toFinset).card ≤ Fintype.card ι * 2 := by
    apply Finset.card_biUnion_le_card_mul
    intro t _
    exact le_trans (List.toFinset_card_le _) (length_endpointBlocks _ _)
  have hunion := Finset.card_union_le
    (websocketBlocks s.shared s.websocket ++ queueBlocks s.shared).toFinset
    (Finset.univ.biUnion fun t => (endpointBlocks s.shared (s.endpoint t)).toFinset)
  unfold ownedBlocks
  omega

/-- No block is leaked, and none is released while a task still needs it. -/
theorem blocksExact_run [Fintype ι]
    (run : Run (step cfg) (fun s a => BodyCopied s a ∧ TakesAlone cfg s a) (start rx) as s) :
    BlocksExact s := by
  have hlive := liveOwned_run run fun _ _ hua => hua
  have hmem := (owns_run run fun _ _ hua => hua).1
  have hexact : ∀ a, s.shared.heap.isLive a = true ↔ Owned s a :=
    fun a => ⟨hlive a, live_of_owned hmem⟩
  refine ⟨hexact, ⟨ownedBlocks s, ?_, card_ownedBlocks (orderInv_run run).slot⟩, ?_⟩
  · intro a
    rw [hexact, mem_ownedBlocks]
  · intro hidle hqueue htaken a
    rw [← Bool.not_eq_true, hexact]
    rintro (hw | hq | ⟨t, ht⟩)
    · rw [hidle] at hw
      cases hw
    · rw [queueBlocks_of_none hqueue] at hq
      cases hq
    · have hnone := htaken t
      cases hpc : s.endpoint t with
      | handle p | callBack p status pc =>
          rw [hpc] at hnone
          cases hnone
      | idle | peek | compare | reset | crashed =>
          rw [hpc] at ht
          cases ht

theorem blocksExact_reused :
    ∃ s, Run (step gpioEndpoints) (fun s a => BodyCopied s a ∧ TakesAlone gpioEndpoints s a)
      (start []) (storeFrame [1, 0, 2, 7] 0 1 ++ endpointSteps () 8 ++
        storeFrame [2, 1, 3, 7] 0 1 ++ displaceFrame [1, 1, 3, 7] 2 3 ++ endpointSteps () 8) s ∧
      BlocksExact s := by
  obtain ⟨s, run⟩ := Run.exists_of_exec (step gpioEndpoints)
    (fun s a => BodyCopied s a ∧ TakesAlone gpioEndpoints s a) (start [])
    (storeFrame [1, 0, 2, 7] 0 1 ++ endpointSteps () 8 ++
      storeFrame [2, 1, 3, 7] 0 1 ++ displaceFrame [1, 1, 3, 7] 2 3 ++ endpointSteps () 8)
    (by decide)
  exact ⟨s, run, blocksExact_run run⟩

end Runs

end Esp32Iot.MessageBlocks
