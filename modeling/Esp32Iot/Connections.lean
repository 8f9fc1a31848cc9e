import Esp32Iot.AnsweredFrames
import Esp32Iot.ServerConnection

namespace Esp32Iot.Connections

open Esp32Iot.AnsweredFrames
open Esp32Iot.Firmware
open Esp32Iot.FrameMessages
open Esp32Iot.GuardedRun
open Esp32Iot.Mailbox
open Esp32Iot.MessageFates
open Esp32Iot.MessageMemory
open Esp32Iot.ServerConnection
open Esp32Iot.StatusReplies
open Esp32Iot.TaskOrder
open Esp32Iot.TaskOwnership
open Esp32Iot.TaskSteps (Env)
open Esp32Iot.WebsocketClient

/-- A call of `esp_websocket_client_send` for the status of a frame, and the
connection that is up when it is made. -/
structure Answer where
  serial : Nat
  connection : Option Nat
  sendExit : SendExit
  deriving DecidableEq, Repr

def Answer.Written (a : Answer) : Prop := ∃ wlen, a.sendExit = .returned wlen

/-- What the tasks had in hand when a connection dropped. -/
structure Drop (ι : Type*) where
  connection : Nat
  tasks : TaskSteps.State ι

/-- The firmware, and a record of its connections that the firmware itself does not
keep: how many there have been, and on which one each frame was received. -/
structure Observed (ι : Type*) where
  firmware : Firmware.State ι
  connection : Nat
  receivedOn : List Nat
  answers : List Answer
  drops : List (Drop ι)

variable {ι : Type*}

def connected (s : Firmware.State ι) : Bool := espWebsocketClientIsConnected s.client

def current (o : Observed ι) : Option Nat :=
  if connected o.firmware then some o.connection else none

/-- The replies of a step, each with the call that sends it. -/
def newAnswers (o : Observed ι) (s' : Firmware.State ι) : List Answer :=
  ((statusReplies o.firmware.tasks.shared s'.tasks.shared).zip
      (s'.sends.drop o.firmware.sends.length)).map
    fun x => ⟨x.1.serial, current o, x.2.sendExit⟩

def newFrames (s s' : Firmware.State ι) : List (List UInt8) :=
  s'.tasks.shared.frames.drop s.tasks.shared.frames.length

def observe (o : Observed ι) (s' : Firmware.State ι) : Observed ι where
  firmware := s'
  connection := if connected s' && !connected o.firmware then o.connection + 1 else o.connection
  receivedOn := o.receivedOn ++ (newFrames o.firmware s').map fun _ => o.connection
  answers := o.answers ++ newAnswers o s'
  drops :=
    if connected o.firmware && !connected s' then o.drops ++ [⟨o.connection, o.firmware.tasks⟩]
    else o.drops

def start (network : Bool) (reconnectTickMs pingTickMs : UInt64) (rxBuffer : List UInt8) :
    Observed ι where
  firmware := Firmware.start network reconnectTickMs pingTickMs rxBuffer
  connection := 0
  receivedOn := []
  answers := []
  drops := []

/-- Message `k` was in the mailbox, or taken and not answered, when connection `c`
dropped. -/
def LeftBehind (o : Observed ι) (c k : Nat) : Prop :=
  ∃ drop ∈ o.drops, drop.connection = c ∧ Outstanding drop.tasks k

/-- The reply is written on the connection its frame was received on, or on a later
one if the message was left behind when that connection dropped. -/
def Matched (o : Observed ι) (a : Answer) : Prop :=
  ∃ n c, a.connection = some n ∧ o.receivedOn[a.serial]? = some c ∧
    (n = c ∨ c < n ∧ LeftBehind o c a.serial)

def OnOwnConnection (o : Observed ι) (a : Answer) : Prop :=
  ∃ n, a.connection = some n ∧ o.receivedOn[a.serial]? = some n

structure RepliesMatch (o : Observed ι) : Prop where
  once : (o.answers.map (·.serial)).Nodup
  matched : ∀ a ∈ o.answers, a.Written → Matched o a

def Closed (o : Observed ι) (c : Nat) : Prop := c < o.connection ∨ connected o.firmware = false

structure ConnectionsInv (o : Observed ι) : Prop where
  received : o.receivedOn.length = o.firmware.tasks.shared.frames.length
  bounded : ∀ c ∈ o.receivedOn, c ≤ o.connection
  answered : AnsweredInv o.firmware.tasks (o.answers.map (·.serial))
  closed : ∀ k c, o.receivedOn[k]? = some c → Closed o c →
    k ∈ o.answers.map (·.serial) ∨ LeftBehind o c k
  matched : ∀ a ∈ o.answers, a.Written → Matched o a

section Record

/-! What a step adds to the record. -/

variable {o o' : Observed ι} {s' : Firmware.State ι} {c k : Nat}

theorem connectionsInv_start {network : Bool} {r p : UInt64} {rx : List UInt8} :
    ConnectionsInv (start network r p rx : Observed ι) := by
  refine ⟨rfl, ?_, answeredInv_start, ?_, ?_⟩
  · intro c hc
    cases hc
  · intro k c hc
    cases hc
  · intro a ha
    cases ha

theorem LeftBehind.mono (h : LeftBehind o c k) (hdrops : ∀ d ∈ o.drops, d ∈ o'.drops) :
    LeftBehind o' c k := by
  obtain ⟨d, hd, hc, houtstanding⟩ := h
  exact ⟨d, hdrops d hd, hc, houtstanding⟩

theorem drops_observe : ∀ d ∈ o.drops, d ∈ (observe o s').drops := by
  intro d hd
  simp only [observe]
  split
  · exact List.mem_append_left _ hd
  · exact hd

theorem connection_observe : o.connection ≤ (observe o s').connection := by
  simp only [observe]
  split
  · exact Nat.le_succ _
  · exact Nat.le_refl _

theorem connection_of_connected (hup : connected o.firmware = true) :
    (observe o s').connection = o.connection := by
  simp [observe, hup]

theorem connection_of_same (hsame : connected s' = connected o.firmware) :
    (observe o s').connection = o.connection := by
  simp [observe, hsame]

theorem Matched.observe {a : Answer} (h : Matched o a) : Matched (observe o s') a := by
  obtain ⟨n, c, hn, hc, hmatch⟩ := h
  refine ⟨n, c, hn, ?_, ?_⟩
  · exact (List.getElem?_append_left (List.getElem?_eq_some_iff.mp hc).1).trans hc
  · rcases hmatch with hsame | ⟨hlater, hleft⟩
    · exact .inl hsame
    · exact .inr ⟨hlater, hleft.mono drops_observe⟩

theorem map_bytes_statusReplies (before after : SharedState) :
    (statusReplies before after).map (·.bytes) = newReplies before after := by
  rw [statusReplies, newReplies, List.map_filterMap]
  congr 1
  funext e
  cases e <;> rfl

theorem newAnswers_of_idle (htasks : s'.tasks = o.firmware.tasks) : newAnswers o s' = [] := by
  have hreplies : statusReplies o.firmware.tasks.shared s'.tasks.shared = [] := by
    rw [htasks, statusReplies, newEvents_of_append (List.append_nil _).symm]
    rfl
  rw [newAnswers, hreplies, List.zip_nil_left, List.map_nil]

theorem connected_of_returned {client : Client} {data : List UInt8} {sendEnv : SendEnv}
    {wlen : Int} (h : espWebsocketClientSend client data sendEnv = some (.returned wlen)) :
    espWebsocketClientIsConnected client = true := by
  cases hconnected : espWebsocketClientIsConnected client with
  | true => rfl
  | false =>
      simp only [espWebsocketClientSend, hconnected] at h
      split at h <;> cases h

end Record

variable [DecidableEq ι]

def step (cfg : TaskSteps.Endpoints ι) (o : Observed ι) (a : Firmware.Action ι) :
    Option (Observed ι) :=
  (Firmware.step cfg o.firmware a).map (observe o)

/-- Bodies are copied, and messages are taken by one task alone. -/
def Undisturbed (cfg : TaskSteps.Endpoints ι) (o : Observed ι) (a : Firmware.Action ι) : Prop :=
  ∀ b ∈ tasksAction o.firmware a,
    BodyCopied o.firmware.tasks b ∧ TakesAlone cfg o.firmware.tasks b

instance [Fintype ι] (cfg : TaskSteps.Endpoints ι) (o : Observed ι) (a : Firmware.Action ι) :
    Decidable (Undisturbed cfg o a) :=
  inferInstanceAs (Decidable (∀ b ∈ tasksAction o.firmware a, _ ∧ _))

structure FirmwareFacts (cfg : TaskSteps.Endpoints ι) (s : Firmware.State ι) : Prop where
  connection : ConnectionInv s
  memory : MemoryInv cfg s.tasks
  slot : SlotInv s.tasks.shared s.tasks.websocket
  once : (answeredSerials s.tasks.shared).Nodup
  accounted : ∀ k ∈ sentSerials s.tasks.shared,
    Outstanding s.tasks k ∨ k ∈ answeredSerials s.tasks.shared

variable {cfg : TaskSteps.Endpoints ι} {network : Bool} {r p : UInt64} {rx : List UInt8}
  {as : List (Firmware.Action ι)} {o o' : Observed ι} {a : Firmware.Action ι}

section Steps

variable {s s' : Firmware.State ι} {b : TaskSteps.Action ι} {c k : Nat}

theorem idle_of_client_ne (h : ConnectionInv s) (move : Move cfg s s')
    (hclient : s'.client ≠ s.client) : s.tasks.websocket = .idle := by
  cases move with
  | turn env client pc hnext => exact idle_of_turn h hnext
  | handler env tasks sends s' hpc hmove =>
      rw [hmove.result] at hclient
      exact absurd rfl hclient
  | endpoint t env tasks sends s' hmove =>
      rw [hmove.result] at hclient
      exact absurd rfl hclient
  | _ => exact absurd rfl hclient

omit [DecidableEq ι] in
theorem connected_of_frame {bytes : List UInt8} (h : ConnectionInv s)
    (ha : tasksAction s a = some (.frame bytes)) : connected s = true := by
  cases a with
  | client env =>
      simp only [tasksAction] at ha
      split at ha
      · rename_i bytes' hpc
        have hstate : s.client.state = .connected := (h.at hpc).2
        simp [connected, espWebsocketClientIsConnected, hstate]
      · cases ha
  | handler => cases ha
  | endpoint => cases ha
  | system => cases ha

theorem frames_of_step {t t' : TaskSteps.State ι} (h : TaskSteps.step cfg t b = some t') :
    t'.shared.frames = t.shared.frames ∨
      ∃ bytes, b = .frame bytes ∧ t'.shared.frames = t.shared.frames ++ [bytes] := by
  rcases TaskSteps.step_cases h with ⟨bytes, rfl, -, rfl⟩ | ⟨env, shared, pc, -, move, rfl⟩ |
    ⟨u, env, shared, pc, -, move, rfl⟩
  · exact .inr ⟨bytes, rfl, rfl⟩
  · exact .inl (TaskHistory.WebsocketMove.frames move)
  · exact .inl (TaskHistory.EndpointMove.frames move)

theorem newAnswers_serials (h : StepsTasks cfg o.firmware b s') :
    (newAnswers o s').map (·.serial) =
      replySerials o.firmware.tasks.shared s'.tasks.shared := by
  obtain ⟨sends, hsends, hreplies, -⟩ := h.sends
  rw [← map_bytes_statusReplies] at hreplies
  have hlength : sends.length =
      (statusReplies o.firmware.tasks.shared s'.tasks.shared).length := by
    simpa using congrArg List.length hreplies
  rw [newAnswers, hsends, List.drop_left, List.map_map]
  change List.map (StatusReply.serial ∘ Prod.fst) _ = _
  rw [← List.map_map, List.map_fst_zip (Nat.le_of_eq hlength.symm), replySerials]

theorem newAnswers_connection (h : StepsTasks cfg o.firmware b s') {x : Answer}
    (hx : x ∈ newAnswers o s') (hwritten : x.Written) : x.connection = some o.connection := by
  obtain ⟨sends, hsends, -, hexits⟩ := h.sends
  rw [newAnswers, hsends, List.drop_left] at hx
  obtain ⟨⟨reply, sent⟩, hmem, rfl⟩ := List.mem_map.mp hx
  obtain ⟨sendEnv, hexit⟩ := hexits sent (List.of_mem_zip hmem).2
  obtain ⟨wlen, hreturned⟩ : ∃ wlen, sent.sendExit = .returned wlen := hwritten
  rw [hreturned] at hexit
  exact if_pos (connected_of_returned hexit)

theorem receivedOn_observe (h : ConnectionsInv o) (hconnection : ConnectionInv o.firmware)
    (ha : tasksAction o.firmware a = some b) (hsteps : StepsTasks cfg o.firmware b s') :
    (observe o s').receivedOn.length = s'.tasks.shared.frames.length ∧
      ∃ new, (observe o s').receivedOn = o.receivedOn ++ new ∧
        ∀ c ∈ new, c = o.connection ∧ connected o.firmware = true := by
  rcases frames_of_step hsteps.next with hframes | ⟨bytes, rfl, hframes⟩
  · have hnew : newFrames o.firmware s' = [] := by
      rw [newFrames, hframes, List.drop_length]
    refine ⟨?_, [], ?_, ?_⟩
    · simp [observe, hnew, hframes, h.received]
    · simp [observe, hnew]
    · simp
  · have hnew : newFrames o.firmware s' = [bytes] := by
      rw [newFrames, hframes, List.drop_left]
    refine ⟨?_, [o.connection], ?_, ?_⟩
    · simp [observe, hnew, hframes, h.received]
    · simp [observe, hnew]
    · intro c hc
      exact ⟨List.mem_singleton.mp hc, connected_of_frame hconnection ha⟩

/-- What is not answered when the connection drops is left behind. -/
theorem connectionsInv_idle (h : ConnectionsInv o) (hfacts : FirmwareFacts cfg o.firmware)
    (move : Move cfg o.firmware s') (htasks : s'.tasks = o.firmware.tasks) :
    ConnectionsInv (observe o s') := by
  have hreceived : (observe o s').receivedOn = o.receivedOn := by
    simp [observe, newFrames, htasks]
  have hanswers : (observe o s').answers = o.answers := by
    simp [observe, newAnswers_of_idle htasks]
  constructor
  · rw [hreceived]
    exact h.received.trans (congrArg (·.shared.frames.length) htasks.symm)
  · rw [hreceived]
    exact fun c hc => Nat.le_trans (h.bounded c hc) connection_observe
  · rw [hanswers]
    change AnsweredInv s'.tasks _
    rw [htasks]
    exact h.answered
  · intro k c hc hclosed
    rw [hreceived] at hc
    rw [hanswers]
    by_cases hbefore : Closed o c
    · rcases h.closed k c hc hbefore with hanswered | hleft
      · exact .inl hanswered
      · exact .inr (hleft.mono drops_observe)
    · simp only [Closed, not_or, Nat.not_lt, Bool.not_eq_false] at hbefore
      obtain ⟨hle, hup⟩ := hbefore
      have hcurrent : c = o.connection :=
        Nat.le_antisymm (h.bounded c (List.mem_of_getElem? hc)) hle
      have hdown : connected s' = false := by
        rcases hclosed with hlt | hdown
        · rw [connection_of_connected hup] at hlt
          omega
        · exact hdown
      have hidle : o.firmware.tasks.websocket = .idle := by
        apply idle_of_client_ne hfacts.connection move
        intro hclient
        rw [connected, hclient] at hdown
        rw [connected, hdown] at hup
        cases hup
      have hk : k < o.firmware.tasks.shared.frames.length := by
        rw [← h.received]
        exact (List.getElem?_eq_some_iff.mp hc).1
      rcases h.answered.answered_or_outstanding hfacts.accounted hidle hk with hanswered | hleft
      · exact .inl hanswered
      · refine .inr ⟨⟨o.connection, o.firmware.tasks⟩, ?_, hcurrent.symm, hleft⟩
        simp [observe, hup, hdown]
  · rw [hanswers]
    exact fun x hx hwritten => (h.matched x hx hwritten).observe

theorem connectionsInv_tasks (h : ConnectionsInv o) (hfacts : FirmwareFacts cfg o.firmware)
    (honce : (answeredSerials s'.tasks.shared).Nodup) (ha : tasksAction o.firmware a = some b)
    (hsteps : StepsTasks cfg o.firmware b s') : ConnectionsInv (observe o s') := by
  have hsame : connected s' = connected o.firmware :=
    congrArg espWebsocketClientIsConnected hsteps.client
  have hconnection : (observe o s').connection = o.connection := connection_of_same hsame
  obtain ⟨hreceived, new, hnew, hcurrent⟩ := receivedOn_observe h hfacts.connection ha hsteps
  have hanswered : AnsweredInv s'.tasks ((observe o s').answers.map (·.serial)) := by
    have hserials : (observe o s').answers.map (·.serial) = o.answers.map (·.serial) ++
        replySerials o.firmware.tasks.shared s'.tasks.shared := by
      rw [← newAnswers_serials hsteps, ← List.map_append]
      rfl
    rw [hserials]
    exact answeredInv_step h.answered hfacts.slot hfacts.memory honce hsteps.next
  have hbounded : ∀ c ∈ (observe o s').receivedOn, c ≤ o.connection := by
    intro c hc
    rw [hnew] at hc
    rcases List.mem_append.mp hc with hold | hlast
    · exact h.bounded c hold
    · exact Nat.le_of_eq (hcurrent c hlast).1
  -- a connection that has dropped has received nothing in this step
  have hbefore : ∀ k c, (observe o s').receivedOn[k]? = some c → Closed o c →
      k ∈ o.answers.map (·.serial) ∨ LeftBehind (observe o s') c k := by
    intro k c hc hclosed
    rw [hnew, List.getElem?_append] at hc
    split at hc
    · rcases h.closed k c hc hclosed with hold | hleft
      · exact .inl hold
      · exact .inr (hleft.mono drops_observe)
    · obtain ⟨rfl, hup⟩ := hcurrent c (List.mem_of_getElem? hc)
      rcases hclosed with hlt | hdown
      · exact absurd hlt (Nat.lt_irrefl _)
      · rw [hup] at hdown
        cases hdown
  refine ⟨hreceived, ?_, hanswered, ?_, ?_⟩
  · rw [hconnection]
    exact hbounded
  · intro k c hc hclosed
    have hclosed' : Closed o c := by
      rw [Closed, hconnection] at hclosed
      rw [Closed, ← hsame]
      exact hclosed
    rcases hbefore k c hc hclosed' with hold | hleft
    · refine .inl ?_
      rw [observe, List.map_append]
      exact List.mem_append_left _ hold
    · exact .inr hleft
  · intro x hx hwritten
    rcases List.mem_append.mp hx with hold | hlast
    · exact (h.matched x hold hwritten).observe
    · have hserial : x.serial ∈ (observe o s').answers.map (·.serial) :=
        List.mem_map_of_mem hx
      have hlt : x.serial < (observe o s').receivedOn.length := by
        rw [hreceived]
        exact hanswered.lt hserial
      obtain ⟨c, hc⟩ : ∃ c, (observe o s').receivedOn[x.serial]? = some c :=
        ⟨_, List.getElem?_eq_getElem hlt⟩
      refine ⟨o.connection, c, newAnswers_connection hsteps hlast hwritten, hc, ?_⟩
      rcases Nat.lt_or_eq_of_le (hbounded c (List.mem_of_getElem? hc)) with hearlier | hsame
      · rcases hbefore x.serial c hc (.inl hearlier) with hold | hleft
        · have honce' := hanswered.once
          rw [observe, List.map_append] at honce'
          have hlast' : x.serial ∈ (newAnswers o s').map (·.serial) := List.mem_map_of_mem hlast
          exact absurd rfl ((List.nodup_append.mp honce').2.2 _ hold _ hlast')
        · exact .inr ⟨hearlier, hleft⟩
      · exact .inl hsame.symm

end Steps

section Runs

/-- The record changes nothing: a run with it is a run of the firmware. -/
theorem firmware_run
    (run : Run (step cfg) (Undisturbed cfg) (start network r p rx) as o) :
    Run (Firmware.step cfg) (fun s a => ∀ b ∈ tasksAction s a,
        BodyCopied s.tasks b ∧ TakesAlone cfg s.tasks b)
      (Firmware.start network r p rx) as o.firmware := by
  induction run with
  | nil => exact .nil
  | snoc _ allowed next ih =>
      obtain ⟨s', hstep, rfl⟩ := Option.map_eq_some_iff.mp next
      exact .snoc ih allowed hstep

theorem firmwareFacts_run
    (run : Run (step cfg) (Undisturbed cfg) (start network r p rx) as o) :
    FirmwareFacts cfg o.firmware := by
  have hrun := firmware_run run
  have hconnection : ConnectionInv o.firmware :=
    hrun.invariant connectionInv_start fun _ _ _ _ _ h _ hstep =>
      connectionInv_step h (step_move hstep)
  obtain ⟨bs, htasks⟩ : ∃ bs, Run (TaskSteps.step cfg)
      (fun u b => BodyCopied u b ∧ TakesAlone cfg u b) (TaskSteps.start rx) bs o.firmware.tasks :=
    tasks_run_of_guard hrun fun _ _ hua => hua
  refine ⟨hconnection, (owns_run htasks fun _ _ hub => hub).1, (orderInv_run htasks).slot,
    (completedOnce_of_guard htasks fun _ _ hub => hub).answeredOnce, ?_⟩
  intro k hk
  rcases accounted_of_guard htasks (fun _ _ hub => hub) hk with
    hpending | hhands | ⟨hanswered, -⟩
  · exact .inl (.inl hpending)
  · exact .inl (.inr hhands)
  · exact .inr hanswered

theorem connectionsInv_run
    (run : Run (step cfg) (Undisturbed cfg) (start network r p rx) as o) : ConnectionsInv o := by
  apply run.invariant connectionsInv_start
  intro bs u a v hbefore hu hallowed hstep
  have hfacts := firmwareFacts_run hbefore
  have hfacts' := firmwareFacts_run (.snoc hbefore hallowed hstep)
  obtain ⟨s', hfirmware, rfl⟩ := Option.map_eq_some_iff.mp hstep
  rcases step_tasks hfirmware with ⟨-, htasks, -⟩ | ⟨b, hb, hsteps⟩
  · exact connectionsInv_idle hu hfacts (step_move hfirmware) htasks
  · exact connectionsInv_tasks hu hfacts hfacts'.once hb hsteps

theorem repliesMatch_run
    (run : Run (step cfg) (Undisturbed cfg) (start network r p rx) as o) : RepliesMatch o := by
  have hinv := connectionsInv_run run
  exact ⟨hinv.answered.once, hinv.matched⟩

end Runs

def quiet : Env := ⟨none, ⟨.wild, 0, 0, 0, 0, 0⟩, []⟩

/-- A frame is received and stored by a client that is connected and at the head of
its loop. -/
def receiveAndStore (bytes : List UInt8) (a b : Nat) : List (Firmware.Action ι) :=
  [turn 0 [], turn 1 [], turn 1 [], turn 0 bytes, turn 0 [],
    .handler { quiet with malloc := some a } ⟨true, []⟩,
    .handler { quiet with malloc := some b } ⟨true, []⟩,
    .handler quiet ⟨true, []⟩, .handler quiet ⟨true, []⟩, .handler quiet ⟨true, []⟩, turn 0 []]

def dropAndReconnect : List (Firmware.Action ι) :=
  [turn 0 [], turn (-1) [], turn 0 [], turn 0 [], .client ⟨true, 0, [], 2000, 2000⟩,
    turn 0 [], turn 0 [], turn 0 []]

/-- The endpoint takes a message, and its reply is written. -/
def pollAndAnswer (t : ι) : List (Firmware.Action ι) :=
  List.replicate 8 (.endpoint t quiet ⟨true, [3]⟩)

def connectFirst : List (Firmware.Action ι) := [turn 0 [], turn 0 [], turn 0 [], turn 0 []]

theorem repliesMatch_reconnected :
    ∃ o, Run (step TaskSteps.gpioEndpoints) (Undisturbed TaskSteps.gpioEndpoints)
        (start true 0 0 [])
        (connectFirst ++ receiveAndStore [1, 7, 2, 4] 0 1 ++ pollAndAnswer () ++
          receiveAndStore [1, 8, 3, 4] 0 1 ++ dropAndReconnect ++ pollAndAnswer ()) o ∧
      o.answers = [⟨0, some 1, .returned 3⟩, ⟨1, some 2, .returned 3⟩] ∧ RepliesMatch o := by
  obtain ⟨o, run, htest⟩ := Run.exists_of_exec_any (step TaskSteps.gpioEndpoints)
    (Undisturbed TaskSteps.gpioEndpoints) (start true 0 0 [])
    (connectFirst ++ receiveAndStore [1, 7, 2, 4] 0 1 ++ pollAndAnswer () ++
      receiveAndStore [1, 8, 3, 4] 0 1 ++ dropAndReconnect ++ pollAndAnswer ())
    (fun o => o.answers = [⟨0, some 1, .returned 3⟩, ⟨1, some 2, .returned 3⟩]) (by decide)
  exact ⟨o, run, of_decide_eq_true htest, repliesMatch_run run⟩

/-- A message that is in the mailbox when its connection drops is answered on the
next one. -/
theorem answeredOnNext :
    ∃ o, Run (step TaskSteps.gpioEndpoints) (Undisturbed TaskSteps.gpioEndpoints)
        (start true 0 0 [])
        (connectFirst ++ receiveAndStore [1, 7, 2, 4] 0 1 ++ dropAndReconnect ++
          pollAndAnswer ()) o ∧
      o.receivedOn = [1] ∧ o.answers = [⟨0, some 2, .returned 3⟩] ∧
      ¬ ∀ a ∈ o.answers, a.Written → OnOwnConnection o a := by
  obtain ⟨o, run, htest⟩ := Run.exists_of_exec_any (step TaskSteps.gpioEndpoints)
    (Undisturbed TaskSteps.gpioEndpoints) (start true 0 0 [])
    (connectFirst ++ receiveAndStore [1, 7, 2, 4] 0 1 ++ dropAndReconnect ++ pollAndAnswer ())
    (fun o => o.receivedOn = [1] ∧ o.answers = [⟨0, some 2, .returned 3⟩]) (by decide)
  obtain ⟨hreceived, hanswers⟩ := of_decide_eq_true htest
  refine ⟨o, run, hreceived, hanswers, ?_⟩
  intro hown
  obtain ⟨n, hconnection, hn⟩ :=
    hown ⟨0, some 2, .returned 3⟩ (hanswers ▸ List.mem_singleton_self _) ⟨3, rfl⟩
  rw [hreceived] at hn
  cases hconnection
  cases hn

end Esp32Iot.Connections
