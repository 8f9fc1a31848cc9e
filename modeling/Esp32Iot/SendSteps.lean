import Mathlib.Logic.Function.Basic
import Esp32Iot.CriticalSection
import Esp32Iot.StatusSend

namespace Esp32Iot.SendSteps

open Esp32Iot.CriticalSection
open Esp32Iot.GuardedRun
open Esp32Iot.StatusSend
open Esp32Iot.WebsocketClient

/-- A call under way. `client` is what its tests have found, and `writes` what its
writes have returned so far. -/
structure Call where
  client : Client
  data : List UInt8
  writes : List Int
  deriving DecidableEq, Repr

inductive SendPc
  | idle
  | isConnected (data : List UInt8)
  | testTransport (c : Call)
  | takeLock (c : Call)
  | loop (c : Call) (widx needWrite : Int)
  | write (c : Call) (widx needWrite : Int)
  | give (c : Call) (result : Int)
  deriving DecidableEq, Repr

structure Finished (τ : Type*) where
  sender : τ
  client : Client
  data : List UInt8
  sendEnv : SendEnv
  sendExit : SendExit

/-- What the senders share. `wire` and `finished` are ghost: what the transport has
taken, and the calls that have returned. -/
structure Shared (τ : Type*) where
  client : Client
  lock : Option τ
  txBuffer : List UInt8
  wire : List UInt8
  finished : List (Finished τ)

structure State (τ : Type*) where
  shared : Shared τ
  pc : τ → SendPc

/-- Whether the lock is given to the call in time, and what a write returns. -/
structure StepEnv where
  granted : Bool
  wlen : Int

inductive Action (τ : Type*)
  | call (t : τ) (data : List UInt8)
  | send (t : τ) (env : StepEnv)
  | client (state : WebsocketState) (transport : Bool)

def memcpy (dst src : List UInt8) (n : Int) : List UInt8 :=
  src.take n.toNat ++ dst.drop n.toNat

variable {τ : Type*}

def Shared.finish (s : Shared τ) (t : τ) (c : Call) (locked : Bool) (sendExit : SendExit) :
    Shared τ :=
  { s with finished := s.finished ++ [⟨t, c.client, c.data, ⟨locked, c.writes⟩, sendExit⟩] }

section Steps

variable [DecidableEq τ]

def sendStep (t : τ) (s : Shared τ) (env : StepEnv) : SendPc → Option (Shared τ × SendPc)
  | .idle => none
  | .isConnected data =>
      let c : Call := ⟨s.client, data, []⟩
      if espWebsocketClientIsConnected s.client = false then
        some (s.finish t c false .notConnected, .idle)
      else some (s, .testTransport c)
  | .testTransport c =>
      let c := { c with client := { c.client with transport := s.client.transport } }
      if s.client.transport = false then some (s.finish t c false .invalidTransport, .idle)
      else some (s, .takeLock c)
  | .takeLock c =>
      if env.granted = false then some (s.finish t c false .notLocked, .idle)
      else if s.lock = none then some ({ s with lock := some t }, .loop c 0 c.data.length)
      else none
  | .loop c widx needWrite =>
      if widx < c.data.length then
        let needWrite := min needWrite s.client.bufferSize
        some ({ s with txBuffer := memcpy s.txBuffer (c.data.drop widx.toNat) needWrite },
          .write c widx needWrite)
      else some (s, .give c widx)
  | .write c widx needWrite =>
      if env.wlen > needWrite then none
      else
        let chunk := (s.txBuffer.take needWrite.toNat).take env.wlen.toNat
        let s := { s with wire := s.wire ++ chunk }
        let c := { c with writes := c.writes ++ [env.wlen] }
        if env.wlen ≤ 0 then some (s, .give c env.wlen)
        else some (s, .loop c (widx + env.wlen) (c.data.length - (widx + env.wlen)))
  | .give c result =>
      some ({ s with lock := none }.finish t c true (.returned result), .idle)

def step (s : State τ) : Action τ → Option (State τ)
  | .call t data =>
      if s.pc t = .idle then
        if data.length = 0 then
          some { s with shared :=
            s.shared.finish t ⟨s.shared.client, data, []⟩ false .invalidArguments }
        else some { s with pc := Function.update s.pc t (.isConnected data) }
      else none
  | .send t env =>
      (sendStep t s.shared env (s.pc t)).map fun r =>
        { s with shared := r.1, pc := Function.update s.pc t r.2 }
  | .client state transport =>
      some { s with shared := { s.shared with
        client := { s.shared.client with state := state, transport := transport } } }

def start (config : ClientConfig) (reconnectTickMs pingTickMs : UInt64)
    (txBuffer : List UInt8) : State τ where
  shared := ⟨espWebsocketClientInit config reconnectTickMs pingTickMs, none, txBuffer, [], []⟩
  pc := fun _ => .idle

end Steps

section Loop

variable {bufferSize : Int} {data : List UInt8} {writes : List Int} {widx wlen : Int}

/-- The writes so far have come to `widx`: whatever they are followed by, the call
goes on from there. -/
structure Underway (bufferSize : Int) (data : List UInt8) (writes : List Int)
    (widx : Int) : Prop where
  nonneg : 0 ≤ widx
  loop : ∀ rest, sendLoop bufferSize data.length 0 data.length (writes ++ rest) =
    sendLoop bufferSize data.length widx (data.length - widx) rest
  taken : ∀ rest, taken bufferSize data 0 data.length (writes ++ rest) =
    taken bufferSize data 0 data.length writes ++
      taken bufferSize data widx (data.length - widx) rest
  answers : ∀ rest, Answers bufferSize data.length widx (data.length - widx) rest →
    Answers bufferSize data.length 0 data.length (writes ++ rest)

theorem underway_nil : Underway bufferSize data [] 0 where
  nonneg := Int.le_refl 0
  loop rest := by simp
  taken rest := by simp [StatusSend.taken]
  answers rest h := by simpa using h

theorem Underway.step (h : Underway bufferSize data writes widx) (hmore : widx < data.length)
    (hpos : 0 < wlen) (hwlen : wlen ≤ min (data.length - widx) bufferSize) :
    Underway bufferSize data (writes ++ [wlen]) (widx + wlen) := by
  have hnonneg := h.nonneg
  constructor
  · omega
  · intro rest
    rw [List.append_assoc, h.loop, List.singleton_append, sendLoop, if_pos hmore,
      if_neg (by omega), if_neg (by omega)]
  · intro rest
    rw [List.append_assoc, h.taken, h.taken [wlen], List.singleton_append,
      StatusSend.taken, StatusSend.taken, if_pos hmore, if_neg (by omega), if_pos hmore,
      if_neg (by omega), StatusSend.taken, List.append_nil, List.append_assoc]
  · intro rest hrest
    rw [List.append_assoc]
    apply h.answers
    exact fun _ => ⟨hwlen, fun _ => hrest⟩

theorem Underway.taken_concat (h : Underway bufferSize data writes widx)
    (hmore : widx < data.length) :
    StatusSend.taken bufferSize data 0 data.length (writes ++ [wlen]) =
      StatusSend.taken bufferSize data 0 data.length writes ++
        ((data.drop widx.toNat).take (min (data.length - widx) bufferSize).toNat).take
          wlen.toNat := by
  rw [h.taken, StatusSend.taken, if_pos hmore]
  split
  · rename_i hnonpos
    have hzero : wlen.toNat = 0 := by omega
    rw [hzero, List.take_zero]
  · rw [StatusSend.taken, List.append_nil]

theorem Underway.stopped (h : Underway bufferSize data writes widx) (hmore : widx < data.length)
    (hwlen : wlen ≤ min (data.length - widx) bufferSize) (hstop : wlen ≤ 0) :
    sendLoop bufferSize data.length 0 data.length (writes ++ [wlen]) = some wlen ∧
      Answers bufferSize data.length 0 data.length (writes ++ [wlen]) := by
  constructor
  · rw [h.loop, sendLoop, if_pos hmore, if_neg (by omega), if_pos hstop]
  · apply h.answers
    exact fun _ => ⟨hwlen, fun hpos => absurd hstop (by omega)⟩

theorem Underway.done (h : Underway bufferSize data writes widx) (hdone : ¬ widx < data.length) :
    sendLoop bufferSize data.length 0 data.length writes = some widx ∧
      Answers bufferSize data.length 0 data.length writes := by
  have hloop := h.loop []
  have hanswers := h.answers [] (by simp only [Answers]; omega)
  rw [List.append_nil] at hloop hanswers
  refine ⟨?_, hanswers⟩
  rw [hloop, sendLoop, if_neg hdone]

end Loop

section Moves

def chunk (s : Shared τ) (needWrite wlen : Int) : List UInt8 :=
  (s.txBuffer.take needWrite.toNat).take wlen.toNat

inductive SendMove (t : τ) (s : Shared τ) : SendPc → Shared τ → SendPc → Prop
  | notConnected (data : List UInt8) (state : s.client.state ≠ .connected) :
      SendMove t s (.isConnected data) (s.finish t ⟨s.client, data, []⟩ false .notConnected)
        .idle
  | connected (data : List UInt8) (state : s.client.state = .connected) :
      SendMove t s (.isConnected data) s (.testTransport ⟨s.client, data, []⟩)
  | invalidTransport (c : Call) : SendMove t s (.testTransport c)
      (s.finish t { c with client := { c.client with transport := false } } false
        .invalidTransport) .idle
  | validTransport (c : Call) : SendMove t s (.testTransport c) s
      (.takeLock { c with client := { c.client with transport := true } })
  | notLocked (c : Call) : SendMove t s (.takeLock c) (s.finish t c false .notLocked) .idle
  | locked (c : Call) (free : s.lock = none) :
      SendMove t s (.takeLock c) { s with lock := some t } (.loop c 0 c.data.length)
  | copied (c : Call) (widx needWrite : Int) (more : widx < c.data.length) :
      SendMove t s (.loop c widx needWrite)
        { s with
          txBuffer := memcpy s.txBuffer (c.data.drop widx.toNat)
            (min needWrite s.client.bufferSize) }
        (.write c widx (min needWrite s.client.bufferSize))
  | sent (c : Call) (widx needWrite : Int) (done : ¬ widx < c.data.length) :
      SendMove t s (.loop c widx needWrite) s (.give c widx)
  | stopped (c : Call) (widx needWrite wlen : Int) (bound : wlen ≤ needWrite)
      (stop : wlen ≤ 0) : SendMove t s (.write c widx needWrite)
        { s with wire := s.wire ++ chunk s needWrite wlen }
        (.give { c with writes := c.writes ++ [wlen] } wlen)
  | written (c : Call) (widx needWrite wlen : Int) (bound : wlen ≤ needWrite)
      (positive : 0 < wlen) : SendMove t s (.write c widx needWrite)
        { s with wire := s.wire ++ chunk s needWrite wlen }
        (.loop { c with writes := c.writes ++ [wlen] } (widx + wlen)
          (c.data.length - (widx + wlen)))
  | given (c : Call) (result : Int) : SendMove t s (.give c result)
      ({ s with lock := none }.finish t c true (.returned result)) .idle

theorem sendStep_move {t : τ} {s s' : Shared τ} {env : StepEnv} {pc pc' : SendPc}
    (h : sendStep t s env pc = some (s', pc')) : SendMove t s pc s' pc' := by
  cases pc with
  | idle => cases h
  | isConnected data =>
      simp only [sendStep, espWebsocketClientIsConnected, decide_eq_false_iff_not] at h
      split at h
      · rename_i hstate
        cases h
        exact .notConnected data hstate
      · rename_i hstate
        cases h
        exact .connected data (not_not.mp hstate)
  | testTransport c =>
      simp only [sendStep] at h
      split at h
      · rename_i htransport
        rw [htransport] at h
        cases h
        exact .invalidTransport c
      · rename_i htransport
        rw [Bool.not_eq_false] at htransport
        rw [htransport] at h
        cases h
        exact .validTransport c
  | takeLock c =>
      simp only [sendStep] at h
      split at h
      · cases h
        exact .notLocked c
      · split at h
        · rename_i hfree
          cases h
          exact .locked c hfree
        · cases h
  | loop c widx needWrite =>
      simp only [sendStep] at h
      split at h
      · rename_i hmore
        cases h
        exact .copied c widx needWrite hmore
      · rename_i hdone
        cases h
        exact .sent c widx needWrite hdone
  | write c widx needWrite =>
      simp only [sendStep] at h
      split at h
      · cases h
      · rename_i hbound
        split at h
        · rename_i hstop
          cases h
          exact .stopped c widx needWrite env.wlen (Int.not_lt.mp hbound) hstop
        · rename_i hpositive
          cases h
          exact .written c widx needWrite env.wlen (Int.not_lt.mp hbound)
            (Int.not_le.mp hpositive)
  | give c result =>
      cases h
      exact .given c result

end Moves

section Invariant

def inside : SendPc → Bool
  | .loop _ _ _ | .write _ _ _ | .give _ _ => true
  | .idle | .isConnected _ | .testTransport _ | .takeLock _ => false

structure Ready (bufferSize : Int) (c : Call) : Prop where
  nonempty : c.data.length ≠ 0
  connected : c.client.state = .connected
  transport : c.client.transport = true
  bufferSize_eq : c.client.bufferSize = bufferSize

/-- What has been copied is still in the buffer when it is written, and the writes
so far are those of the sequential loop. -/
def CallInv (s : Shared τ) : SendPc → Prop
  | .idle => True
  | .isConnected data => data.length ≠ 0
  | .testTransport c => c.data.length ≠ 0 ∧ c.client.state = .connected ∧
      c.client.bufferSize = s.client.bufferSize ∧ c.writes = []
  | .takeLock c => Ready s.client.bufferSize c ∧ c.writes = []
  | .loop c widx needWrite => Ready s.client.bufferSize c ∧
      needWrite = c.data.length - widx ∧ Underway s.client.bufferSize c.data c.writes widx
  | .write c widx needWrite => Ready s.client.bufferSize c ∧
      needWrite = min (c.data.length - widx) s.client.bufferSize ∧ widx < c.data.length ∧
      Underway s.client.bufferSize c.data c.writes widx ∧
      s.txBuffer.take needWrite.toNat = (c.data.drop widx.toNat).take needWrite.toNat
  | .give c result => Ready s.client.bufferSize c ∧
      sendLoop s.client.bufferSize c.data.length 0 c.data.length c.writes = some result ∧
      Answers s.client.bufferSize c.data.length 0 c.data.length c.writes

/-- The call has returned what it would have returned alone. -/
structure Sequential (f : Finished τ) : Prop where
  returned : espWebsocketClientSend f.client f.data f.sendEnv = some f.sendExit
  answers : writesReached f.client f.sendEnv = true →
    Answers f.client.bufferSize f.data.length 0 f.data.length f.sendEnv.writes

structure SendInv (s : State τ) : Prop where
  holder : ∀ t, inside (s.pc t) = true ↔ s.shared.lock = some t
  call : ∀ t, CallInv s.shared (s.pc t)
  finished : ∀ f ∈ s.shared.finished, Sequential f

/-- Another task's program point is not affected by a step that leaves it the buffer. -/
theorem CallInv.other {s s' : Shared τ} {pc : SendPc} (h : CallInv s pc)
    (hsize : s'.client.bufferSize = s.client.bufferSize)
    (hbuffer : inside pc = true → s'.txBuffer = s.txBuffer) : CallInv s' pc := by
  cases pc with
  | idle | isConnected => exact h
  | testTransport | takeLock | loop | give =>
      simp only [CallInv, hsize]
      exact h
  | write c widx needWrite =>
      simp only [CallInv, hsize, hbuffer rfl]
      exact h

theorem take_memcpy {dst src : List UInt8} {n : Int} (hn : n.toNat ≤ src.length) :
    (memcpy dst src n).take n.toNat = src.take n.toNat := by
  rw [memcpy, List.take_append_of_le_length]
  · rw [List.take_take, Nat.min_self]
  · rw [List.length_take, Nat.min_eq_left hn]

theorem writesReached_of_ready {bufferSize : Int} {c : Call} (h : Ready bufferSize c)
    (writes : List Int) : writesReached c.client ⟨true, writes⟩ = true := by
  simp [writesReached, espWebsocketClientIsConnected, h.connected, h.transport]

variable {t : τ} {s s' : Shared τ} {pc pc' : SendPc}

theorem SendMove.callInv (move : SendMove t s pc s' pc') (h : CallInv s pc) :
    CallInv s' pc' := by
  cases move with
  | notConnected data state | invalidTransport c | notLocked c | given c result => trivial
  | connected data state => exact ⟨h, state, rfl, rfl⟩
  | validTransport c => exact ⟨⟨h.1, h.2.1, rfl, h.2.2.1⟩, h.2.2.2⟩
  | locked c free =>
      obtain ⟨hready, hwrites⟩ := h
      refine ⟨hready, by simp, ?_⟩
      rw [hwrites]
      exact underway_nil
  | copied c widx needWrite more =>
      obtain ⟨hready, rfl, hunderway⟩ := h
      refine ⟨hready, rfl, more, hunderway, ?_⟩
      apply take_memcpy
      have hnonneg := hunderway.nonneg
      rw [List.length_drop]
      omega
  | sent c widx needWrite done =>
      obtain ⟨hready, -, hunderway⟩ := h
      exact ⟨hready, hunderway.done done⟩
  | stopped c widx needWrite wlen bound stop =>
      obtain ⟨hready, rfl, hmore, hunderway, -⟩ := h
      exact ⟨⟨hready.nonempty, hready.connected, hready.transport, hready.bufferSize_eq⟩,
        hunderway.stopped hmore bound stop⟩
  | written c widx needWrite wlen bound positive =>
      obtain ⟨hready, rfl, hmore, hunderway, -⟩ := h
      exact ⟨⟨hready.nonempty, hready.connected, hready.transport, hready.bufferSize_eq⟩, rfl,
        hunderway.step hmore positive bound⟩

theorem SendMove.bufferSize (move : SendMove t s pc s' pc') :
    s'.client.bufferSize = s.client.bufferSize := by
  cases move <;> rfl

/-- Only a task that is inside writes into the buffer. -/
theorem SendMove.txBuffer (move : SendMove t s pc s' pc') :
    s'.txBuffer = s.txBuffer ∨ inside pc = true := by
  cases move with
  | copied c widx needWrite more => exact .inr rfl
  | _ => exact .inl rfl

theorem SendMove.lock (move : SendMove t s pc s' pc') :
    (s'.lock = s.lock ∧ inside pc' = inside pc) ∨
      (s.lock = none ∧ s'.lock = some t ∧ inside pc' = true) ∨
      (inside pc = true ∧ s'.lock = none ∧ inside pc' = false) := by
  cases move with
  | locked c free => exact .inr (.inl ⟨free, rfl, rfl⟩)
  | given c result => exact .inr (.inr ⟨rfl, rfl, rfl⟩)
  | _ => exact .inl ⟨rfl, rfl⟩

theorem sequential_alone {c : Call} {sendExit : SendExit}
    (hsend : espWebsocketClientSend c.client c.data ⟨false, c.writes⟩ = some sendExit) :
    Sequential (⟨t, c.client, c.data, ⟨false, c.writes⟩, sendExit⟩ : Finished τ) := by
  refine ⟨hsend, ?_⟩
  simp [writesReached]

theorem SendMove.finished (move : SendMove t s pc s' pc') (h : CallInv s pc)
    (hfinished : ∀ f ∈ s.finished, Sequential f) : ∀ f ∈ s'.finished, Sequential f := by
  have hone : ∀ f : Finished τ, Sequential f → ∀ g ∈ s.finished ++ [f], Sequential g := by
    intro f hf g hg
    rcases List.mem_append.mp hg with hold | hnew
    · exact hfinished g hold
    · rw [List.mem_singleton.mp hnew]
      exact hf
  cases move with
  | notConnected data state =>
      apply hone
      apply sequential_alone (c := ⟨s.client, data, []⟩)
      have hcheck : espWebsocketClientIsConnected s.client = false := by
        simp [espWebsocketClientIsConnected, state]
      simp only [CallInv] at h
      simp [espWebsocketClientSend, h, hcheck]
  | invalidTransport c =>
      obtain ⟨hdata, hstate, -, -⟩ := h
      apply hone
      apply sequential_alone (c := { c with client := { c.client with transport := false } })
      simp [espWebsocketClientSend, espWebsocketClientIsConnected, hdata, hstate]
  | notLocked c =>
      obtain ⟨hready, -⟩ := h
      apply hone
      apply sequential_alone
      simp [espWebsocketClientSend, espWebsocketClientIsConnected, hready.nonempty,
        hready.connected, hready.transport]
  | given c result =>
      obtain ⟨hready, hloop, hanswers⟩ := h
      apply hone
      refine ⟨?_, ?_⟩
      · rw [← hready.bufferSize_eq] at hloop
        simp [espWebsocketClientSend, espWebsocketClientIsConnected, hready.nonempty,
          hready.connected, hready.transport, hloop]
      · intro _
        rw [hready.bufferSize_eq]
        exact hanswers
  | _ => exact hfinished

end Invariant

section Runs

variable [DecidableEq τ] {s s' : State τ} {config : ClientConfig} {r p : UInt64}
  {tx : List UInt8} {as : List (Action τ)}

/-- A step of the system is a call, a move of one call, or a change of the connection. -/
inductive Step (s : State τ) : State τ → Prop
  | invalid (t : τ) (data : List UInt8) (empty : data.length = 0) (idle : s.pc t = .idle) :
      Step s { s with shared :=
        s.shared.finish t ⟨s.shared.client, data, []⟩ false .invalidArguments }
  | called (t : τ) (data : List UInt8) (nonempty : data.length ≠ 0) (idle : s.pc t = .idle) :
      Step s { s with pc := Function.update s.pc t (.isConnected data) }
  | moved (t : τ) (shared : Shared τ) (pc : SendPc)
      (move : SendMove t s.shared (s.pc t) shared pc) :
      Step s { s with shared := shared, pc := Function.update s.pc t pc }
  | client (state : WebsocketState) (transport : Bool) :
      Step s { s with shared := { s.shared with
        client := { s.shared.client with state := state, transport := transport } } }

theorem step_cases {a : Action τ} (h : step s a = some s') : Step s s' := by
  cases a with
  | call t data =>
      simp only [step] at h
      split at h
      · rename_i hidle
        split at h
        · rename_i hempty
          cases h
          exact .invalid t data hempty hidle
        · rename_i hnonempty
          cases h
          exact .called t data hnonempty hidle
      · cases h
  | send t env =>
      obtain ⟨⟨shared, pc⟩, hsend, rfl⟩ := Option.map_eq_some_iff.mp h
      exact .moved t shared pc (sendStep_move hsend)
  | client state transport =>
      cases h
      exact .client state transport

omit [DecidableEq τ] in
theorem sendInv_start : SendInv (start config r p tx : State τ) where
  holder t := by simp [start, inside]
  call t := trivial
  finished f hf := by cases hf

omit [DecidableEq τ] in
theorem SendInv.exclusive {t u : τ} (h : SendInv s) (ht : inside (s.pc t) = true)
    (hu : inside (s.pc u) = true) : t = u := by
  have hlock := (h.holder t).mp ht
  rw [(h.holder u).mp hu] at hlock
  exact (Option.some.inj hlock).symm

theorem sendInv_step (h : SendInv s) (hstep : Step s s') : SendInv s' := by
  cases hstep with
  | invalid t data empty idle =>
      refine ⟨h.holder, fun u => (h.call u).other rfl fun _ => rfl, ?_⟩
      intro f hf
      rcases List.mem_append.mp hf with hold | hnew
      · exact h.finished f hold
      · rw [List.mem_singleton.mp hnew]
        apply sequential_alone
        rw [espWebsocketClientSend, if_pos empty]
  | called t data nonempty idle =>
      refine ⟨?_, ?_, h.finished⟩
      · intro u
        by_cases hu : u = t
        · subst u
          have hout := h.holder t
          rw [idle] at hout
          simpa [inside] using hout
        · simp only [Function.update_of_ne hu]
          exact h.holder u
      · intro u
        by_cases hu : u = t
        · subst u
          simpa [CallInv] using nonempty
        · simp only [Function.update_of_ne hu]
          exact h.call u
  | moved t shared pc move =>
      refine ⟨?_, ?_, SendMove.finished move (h.call t) h.finished⟩
      · intro u
        have hlock := SendMove.lock move
        by_cases hu : u = t
        · subst u
          simp only [Function.update_self]
          rcases hlock with ⟨hsame, hpc⟩ | ⟨-, htaken, hpc⟩ | ⟨-, hgiven, hpc⟩
          · rw [hsame, hpc]
            exact h.holder t
          · simp [htaken, hpc]
          · simp [hgiven, hpc]
        · simp only [Function.update_of_ne hu]
          rcases hlock with ⟨hsame, -⟩ | ⟨hfree, htaken, -⟩ | ⟨hin, hgiven, -⟩
          · rw [hsame]
            exact h.holder u
          · rw [h.holder u, hfree, htaken]
            simpa using Ne.symm hu
          · rw [h.holder u, (h.holder t).mp hin, hgiven]
            simpa using Ne.symm hu
      · intro u
        by_cases hu : u = t
        · subst u
          simp only [Function.update_self]
          exact SendMove.callInv move (h.call t)
        · simp only [Function.update_of_ne hu]
          refine (h.call u).other (SendMove.bufferSize move) ?_
          intro hin
          rcases SendMove.txBuffer move with hsame | hinside
          · exact hsame
          · exact absurd (h.exclusive hin hinside) hu
  | client state transport =>
      exact ⟨h.holder, fun u => (h.call u).other rfl fun _ => rfl, h.finished⟩

end Runs

section Sections

def writtenBy : SendPc → List UInt8
  | .loop c _ _ | .write c _ _ | .give c _ =>
      taken c.client.bufferSize c.data 0 c.data.length c.writes
  | .idle | .isConnected _ | .testTransport _ | .takeLock _ => []

def sectionOf (f : Finished τ) : Option (Section τ UInt8) :=
  if f.sendEnv.locked then some ⟨f.sender, transmitted f.client f.data f.sendEnv⟩ else none

/-- The wire is the log that the lock protects. -/
structure Abstracts (s : State τ) (l : Log τ UInt8) : Prop where
  entries : l.entries = s.shared.wire
  closed : l.closed = s.shared.finished.filterMap sectionOf
  opened : l.opened = s.shared.lock.map fun t => ⟨t, writtenBy (s.pc t)⟩

theorem filterMap_finish {s : Shared τ} {t : τ} {c : Call} {sendExit : SendExit} :
    (s.finish t c false sendExit).finished.filterMap sectionOf =
      s.finished.filterMap sectionOf := by
  simp [Shared.finish, sectionOf]

variable {s s' : State τ} {l : Log τ UInt8}

theorem writtenBy_concat {s : Shared τ} {c : Call} {widx needWrite wlen : Int}
    (h : CallInv s (.write c widx needWrite)) :
    taken c.client.bufferSize c.data 0 c.data.length (c.writes ++ [wlen]) =
      taken c.client.bufferSize c.data 0 c.data.length c.writes ++ chunk s needWrite wlen := by
  obtain ⟨hready, rfl, hmore, hunderway, hbuffer⟩ := h
  rw [hready.bufferSize_eq, hunderway.taken_concat hmore, chunk, hbuffer]

theorem transmitted_of_ready {bufferSize : Int} {c : Call} (h : Ready bufferSize c) :
    transmitted c.client c.data ⟨true, c.writes⟩ =
      taken c.client.bufferSize c.data 0 c.data.length c.writes := by
  rw [transmitted, if_pos (writesReached_of_ready h c.writes)]

/-- A step that neither takes nor gives the lock, nor writes. -/
theorem Abstracts.same (h : Abstracts s l) (hwire : s'.shared.wire = s.shared.wire)
    (hfinished : s'.shared.finished.filterMap sectionOf =
      s.shared.finished.filterMap sectionOf) (hlock : s'.shared.lock = s.shared.lock)
    (hwritten : ∀ t, s.shared.lock = some t → writtenBy (s'.pc t) = writtenBy (s.pc t)) :
    Abstracts s' l := by
  refine ⟨h.entries.trans hwire.symm, h.closed.trans hfinished.symm, ?_⟩
  rw [h.opened, hlock]
  cases hheld : s.shared.lock with
  | none => rfl
  | some t => simp [hwritten t hheld]

variable [DecidableEq τ]

theorem abstracts_move {t : τ} {shared : Shared τ} {pc : SendPc} (hinv : SendInv s)
    (h : Abstracts s l) (move : SendMove t s.shared (s.pc t) shared pc) :
    ∃ ms l', Run CriticalSection.step Free l ms l' ∧
      Abstracts { s with shared := shared, pc := Function.update s.pc t pc } l' := by
  have hcall := hinv.call t
  have hquiet : shared.wire = s.shared.wire →
      shared.finished.filterMap sectionOf = s.shared.finished.filterMap sectionOf →
      shared.lock = s.shared.lock → writtenBy pc = writtenBy (s.pc t) →
      ∃ ms l', Run CriticalSection.step Free l ms l' ∧
        Abstracts { s with shared := shared, pc := Function.update s.pc t pc } l' := by
    intro hwire hfinished hlock hwritten
    refine ⟨[], l, .nil, h.same hwire hfinished hlock ?_⟩
    intro u _
    by_cases hu : u = t
    · subst u
      simp only [Function.update_self]
      exact hwritten
    · simp only [Function.update_of_ne hu]
  have hheld : inside (s.pc t) = true → l.opened = some ⟨t, writtenBy (s.pc t)⟩ := by
    intro hin
    rw [h.opened, (hinv.holder t).mp hin]
    rfl
  have hlocked : inside (s.pc t) = true → s.shared.lock = some t := (hinv.holder t).mp
  generalize hpc : s.pc t = before at move hcall hquiet hheld hlocked
  have hwrite : ∀ c widx needWrite wlen pc', before = .write c widx needWrite →
      pc = pc' → writtenBy pc' =
        taken c.client.bufferSize c.data 0 c.data.length (c.writes ++ [wlen]) →
      shared = { s.shared with wire := s.shared.wire ++ chunk s.shared needWrite wlen } →
      ∃ ms l', Run CriticalSection.step Free l ms l' ∧
        Abstracts { s with shared := shared, pc := Function.update s.pc t pc } l' := by
    rintro c widx needWrite wlen pc' rfl rfl hwritten rfl
    refine ⟨_, _, add_run (chunk s.shared needWrite wlen) (hheld rfl), ?_, ?_, ?_⟩
    · rw [h.entries]
    · exact h.closed
    · simp only [hlocked rfl, Option.map_some, Function.update_self, hwritten,
        writtenBy_concat hcall]
      rfl
  cases move with
  | notConnected data state => exact hquiet rfl filterMap_finish rfl rfl
  | connected data state => exact hquiet rfl rfl rfl rfl
  | invalidTransport c => exact hquiet rfl filterMap_finish rfl rfl
  | validTransport c => exact hquiet rfl rfl rfl rfl
  | notLocked c => exact hquiet rfl filterMap_finish rfl rfl
  | locked c free =>
      obtain ⟨-, hwrites⟩ := hcall
      have hopened : l.opened = none := by
        rw [h.opened, free]
        rfl
      refine ⟨_, _, enter_run (t := t) hopened, h.entries, h.closed, ?_⟩
      simp [writtenBy, hwrites, taken]
  | copied c widx needWrite more => exact hquiet rfl rfl rfl rfl
  | sent c widx needWrite done => exact hquiet rfl rfl rfl rfl
  | stopped c widx needWrite wlen bound stop =>
      exact hwrite c widx needWrite wlen _ rfl rfl rfl rfl
  | written c widx needWrite wlen bound positive =>
      exact hwrite c widx needWrite wlen _ rfl rfl rfl rfl
  | given c result =>
      obtain ⟨hready, -, -⟩ := hcall
      refine ⟨_, _, leave_run (hheld rfl), h.entries, ?_, rfl⟩
      rw [h.closed]
      simp [Shared.finish, sectionOf, writtenBy, transmitted_of_ready hready]

theorem abstracts_step (hinv : SendInv s) (h : Abstracts s l) (hstep : Step s s') :
    ∃ ms l', Run CriticalSection.step Free l ms l' ∧ Abstracts s' l' := by
  cases hstep with
  | invalid t data empty idle =>
      exact ⟨[], l, .nil, h.same rfl filterMap_finish rfl fun _ _ => rfl⟩
  | called t data nonempty idle =>
      refine ⟨[], l, .nil, h.same rfl rfl rfl ?_⟩
      intro u hu
      have hut : u ≠ t := by
        rintro rfl
        have hin := (hinv.holder u).mpr hu
        rw [idle] at hin
        cases hin
      simp only [Function.update_of_ne hut]
  | moved t shared pc move => exact abstracts_move hinv h move
  | client state transport => exact ⟨[], l, .nil, h.same rfl rfl rfl fun _ _ => rfl⟩

end Sections

section Runs

variable [DecidableEq τ] {s : State τ} {config : ClientConfig} {r p : UInt64}
  {tx : List UInt8} {as : List (Action τ)}

/-- The bytes on the wire of the call that holds the lock. -/
def underway (s : State τ) : List UInt8 :=
  s.shared.lock.toList.flatMap fun t => writtenBy (s.pc t)

/-- The wire carries the calls one after the other, each with a prefix of its data;
every call returns and sends what it would return and send alone; and no two calls
are inside at once. -/
structure SendsApart (s : State τ) : Prop where
  wire : s.shared.wire =
    (s.shared.finished.flatMap fun f => transmitted f.client f.data f.sendEnv) ++ underway s
  sequential : ∀ f ∈ s.shared.finished,
    espWebsocketClientSend f.client f.data f.sendEnv = some f.sendExit
  prefixes : ∀ f ∈ s.shared.finished, transmitted f.client f.data f.sendEnv <+: f.data
  exclusive : ∀ t u, inside (s.pc t) = true → inside (s.pc u) = true → t = u

omit [DecidableEq τ] in
theorem flatMap_sections (finished : List (Finished τ)) :
    (finished.filterMap sectionOf).flatMap (·.entries) =
      finished.flatMap fun f => transmitted f.client f.data f.sendEnv := by
  induction finished with
  | nil => rfl
  | cons f rest ih =>
      rw [List.filterMap_cons, List.flatMap_cons, ← ih]
      cases hlocked : f.sendEnv.locked with
      | true => simp [sectionOf, hlocked]
      | false => simp [sectionOf, hlocked, transmitted, writesReached]

theorem sendsApart_run (run : Run step Free (start config r p tx) as s) : SendsApart s := by
  obtain ⟨ms, l, hlog, hinv, habstracts⟩ : ∃ ms l, Run CriticalSection.step Free Log.empty ms l ∧
      SendInv s ∧ Abstracts s l := by
    refine run.simulates (R := fun u l => SendInv u ∧ Abstracts u l)
      ⟨sendInv_start, rfl, rfl, rfl⟩ ?_
    rintro bs u a v ms l - - ⟨hu, habstracts⟩ - hstep
    obtain ⟨ms', l', hrun, habstracts'⟩ := abstracts_step hu habstracts (step_cases hstep)
    exact ⟨ms', l', hrun, sendInv_step hu (step_cases hstep), habstracts'⟩
  have hcontiguous : l.entries = l.closed.flatMap (·.entries) ++
      l.opened.toList.flatMap (·.entries) := contiguous_run hlog
  refine ⟨?_, fun f hf => (hinv.finished f hf).returned, ?_, fun t u => hinv.exclusive⟩
  · rw [← habstracts.entries, hcontiguous, habstracts.closed, flatMap_sections,
      habstracts.opened, underway]
    cases s.shared.lock <;> simp
  · intro f hf
    exact transmitted_prefix (hinv.finished f hf).answers

/-- Two tasks send at the same time, through a buffer of two bytes; the second waits
for the lock while the first is between its writes, and the client then loses its
connection. -/
def sendBoth : List (Action Bool) :=
  [.client .connected true, .call false [1, 0, 7], .call true [1, 2, 8],
    .send false ⟨true, 0⟩, .send true ⟨true, 0⟩, .send false ⟨true, 0⟩, .send true ⟨true, 0⟩,
    .send false ⟨true, 0⟩, .send false ⟨true, 0⟩, .send false ⟨true, 2⟩,
    .client .waitTimeout true, .send false ⟨true, 0⟩, .send false ⟨true, 1⟩,
    .send false ⟨true, 0⟩, .send false ⟨true, 0⟩, .send true ⟨true, 0⟩, .send true ⟨true, 0⟩,
    .send true ⟨true, -1⟩, .send true ⟨true, 0⟩]

theorem sendsApart_both :
    ∃ s, Run step Free (start ⟨false, 2⟩ 0 0 []) sendBoth s ∧
      (s.shared.wire = [1, 0, 7] ∧
        s.shared.finished.map (·.sendExit) = [.returned 3, .returned (-1)]) ∧
      SendsApart s := by
  obtain ⟨s, run, htest⟩ := Run.exists_of_exec_any step Free (start ⟨false, 2⟩ 0 0 []) sendBoth
    (fun s => s.shared.wire = [1, 0, 7] ∧
      s.shared.finished.map (·.sendExit) = [.returned 3, .returned (-1)]) (by decide)
  exact ⟨s, run, of_decide_eq_true htest, sendsApart_run run⟩

end Runs

end Esp32Iot.SendSteps
