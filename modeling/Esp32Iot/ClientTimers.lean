import Esp32Iot.Deadlines
import Esp32Iot.Firmware

namespace Esp32Iot.ClientTimers

open Esp32Iot.Deadlines
open Esp32Iot.Firmware
open Esp32Iot.GuardedRun
open Esp32Iot.TaskSteps
open Esp32Iot.WebsocketClient

/-- What the client task has been seen to do with its timers, and when; a ping is
noted down with a time read after the comparison. -/
inductive TimerEvent
  | created (tickMs : UInt64)
  | connecting (tickMs : UInt64)
  | aborted (tickMs : UInt64)
  | waited (tickMs : UInt64)
  | resumed (tickMs : UInt64)
  | pinged (tickMs notedMs : UInt64)
  | notPinged (tickMs : UInt64)
  | pingWritten
  | heard (notedMs : UInt64)
  deriving DecidableEq, Repr

def attemptNote : TimerEvent → Option UInt64
  | .connecting tickMs | .aborted tickMs => some tickMs
  | _ => none

/-- There is traffic: the client has been created, a ping is sent, or something can be read. -/
def trafficNote : TimerEvent → Option UInt64
  | .created tickMs => some tickMs
  | .pinged _ notedMs => some notedMs
  | .heard notedMs => some notedMs
  | _ => none

def notes (note : TimerEvent → Option UInt64) (log : List TimerEvent) : Set UInt64 :=
  { t | ∃ e ∈ log, note e = some t }

-- A pause goes on or ends; what the task has decided is told from the state it leaves.
def waitTurn (client client' : Client) (env : ClientEnv) : List TimerEvent :=
  if client.state = .waitTimeout ∧ client'.run = true then
    if client'.state = .waitTimeout then [.waited env.tickMs] else [.resumed env.tickMs]
  else []

def pingTurn (env : ClientEnv) : ClientPc → TimerEvent
  | .writePing _ => .pinged env.tickMs env.nextTickMs
  | _ => .notPinged env.tickMs

def heardTurn (env : ClientEnv) (pc' : ClientPc) : List TimerEvent :=
  if pc' = .read then [.heard env.nextTickMs] else []

/-- What a step from `pc` to `pc'` has done with the timers. -/
def turnEvents (client client' : Client) (env : ClientEnv) (pc' : ClientPc) :
    ClientPc → List TimerEvent
  | .loopHead => waitTurn client client' env
  | .connect => [.connecting env.tickMs]
  | .ping _ => pingTurn env pc' :: heardTurn env pc'
  | .writePing _ => .pingWritten :: heardTurn env pc'
  | .abortConnection => [.aborted env.tickMs]
  | _ => []

/-- An attempt to connect comes more than a second after every earlier attempt and
every end of a connection, and is put off only within that second; a connection is
pinged exactly when there has been no traffic for more than ten seconds. -/
def DeadlineKept (before : List TimerEvent) : TimerEvent → Prop
  | .connecting tickMs | .resumed tickMs =>
      ∀ t ∈ notes attemptNote before, t.toNat + 1000 < tickMs.toNat
  | .waited tickMs => ∃ t, .aborted t ∈ before ∧ tickMs.toNat ≤ t.toNat + 1000
  | .pinged tickMs _ => ∀ t ∈ notes trafficNote before, t.toNat + 10000 < tickMs.toNat
  | .notPinged tickMs => ∃ t ∈ notes trafficNote before, tickMs.toNat ≤ t.toNat + 10000
  | .created _ | .aborted _ | .pingWritten | .heard _ => True

def isPinged : TimerEvent → Bool
  | .pinged _ _ => true
  | _ => false

def pingDue (log : List TimerEvent) : Bool :=
  log.getLast?.any isPinged

/-- The empty frame of a ping is written right after the decision, and never otherwise. -/
structure TimerKept (before : List TimerEvent) (e : TimerEvent) : Prop where
  deadline : DeadlineKept before e
  written : e = .pingWritten ↔ pingDue before = true

theorem pingDue_concat (log : List TimerEvent) (e : TimerEvent) :
    pingDue (log ++ [e]) = isPinged e := by
  simp [pingDue]

section Notes

variable {note : TimerEvent → Option UInt64} {log : List TimerEvent} {e : TimerEvent}
  {tickMs : UInt64}

theorem notes_concat_some (he : note e = some tickMs) :
    notes note (log ++ [e]) = insert tickMs (notes note log) := by
  ext t
  simp only [notes, List.mem_append, List.mem_singleton, Set.mem_ofPred_eq, Set.mem_insert_iff]
  constructor
  · rintro ⟨e', hmem | rfl, ht⟩
    · exact .inr ⟨e', hmem, ht⟩
    · rw [he] at ht
      exact .inl (Option.some.inj ht).symm
  · rintro (rfl | ⟨e', hmem, ht⟩)
    · exact ⟨e, .inr rfl, he⟩
    · exact ⟨e', .inl hmem, ht⟩

theorem notes_concat_none (he : note e = none) : notes note (log ++ [e]) = notes note log := by
  ext t
  simp only [notes, List.mem_append, List.mem_singleton, Set.mem_ofPred_eq]
  constructor
  · rintro ⟨e', hmem | rfl, ht⟩
    · exact ⟨e', hmem, ht⟩
    · cases he.symm.trans ht
  · rintro ⟨e', hmem, ht⟩
    exact ⟨e', .inl hmem, ht⟩

end Notes

def atWritePing : ClientPc → Bool
  | .writePing _ => true
  | _ => false

/-- What the client's fields say of the events so far, while the client stands at `pc`. -/
structure TimerInv (client : Client) (pc : ClientPc) (now : UInt64) (log : List TimerEvent) :
    Prop where
  kept : Ordered TimerKept log
  traffic : Noted (notes trafficNote log) client.pingTickMs now
  past : ∀ t ∈ notes attemptNote log, t ≤ now
  waiting : client.state = .waitTimeout → client.waitTimeoutMs = websocketReconnectTimeoutMs ∧
    Noted (notes attemptNote log) client.reconnectTickMs now ∧
    .aborted client.reconnectTickMs ∈ log
  ready : pc = .enter ∨ (client.state = .init ∧ pc ≠ .abortConnection) →
    ∀ t ∈ notes attemptNote log, t.toNat + 1000 < now.toNat
  connecting : pc = .connect → client.state = .init
  writing : pingDue log = atWritePing pc

variable {client client' : Client} {pc pc' : ClientPc} {now : UInt64} {log : List TimerEvent}
  {env : ClientEnv} {later : UInt64}

/-- Time passes and nothing is noted down. -/
theorem TimerInv.idle (h : TimerInv client pc now log) (hnow : now ≤ later)
    (hping : client'.pingTickMs = client.pingTickMs)
    (hwaiting : client'.state = .waitTimeout → client.state = .waitTimeout ∧
      client'.waitTimeoutMs = client.waitTimeoutMs ∧
      client'.reconnectTickMs = client.reconnectTickMs)
    (hready : pc' = .enter ∨ (client'.state = .init ∧ pc' ≠ .abortConnection) →
      pc = .enter ∨ (client.state = .init ∧ pc ≠ .abortConnection))
    (hconnecting : pc' = .connect → client'.state = .init)
    (hwriting : atWritePing pc' = atWritePing pc) :
    TimerInv client' pc' later log where
  kept := h.kept
  traffic := by
    rw [hping]
    exact h.traffic.later hnow
  past t ht := UInt64.le_trans (h.past t ht) hnow
  waiting hstate := by
    obtain ⟨hbefore, hms, htick⟩ := hwaiting hstate
    obtain ⟨hwait, hnoted, haborted⟩ := h.waiting hbefore
    rw [hms, htick]
    exact ⟨hwait, hnoted.later hnow, haborted⟩
  ready hpc t ht := by
    have hlt := h.ready (hready hpc) t ht
    have hle : now.toNat ≤ later.toNat := hnow
    omega
  connecting := hconnecting
  writing := h.writing.trans hwriting.symm

theorem TimerInv.goto (h : TimerInv client pc now log) (hnow : now ≤ later)
    (habort : pc ≠ .abortConnection) (henter : pc' ≠ .enter)
    (hconnect : pc' = .connect → client.state = .init)
    (hwriting : atWritePing pc' = atWritePing pc) :
    TimerInv client pc' later log := by
  refine h.idle hnow rfl (fun hstate => ⟨hstate, rfl, rfl⟩) ?_ hconnect hwriting
  rintro (hpc | ⟨hstate, -⟩)
  · exact absurd hpc henter
  · exact .inr ⟨hstate, habort⟩

/-- An event that is no attempt to connect, and may be traffic. -/
theorem TimerInv.event {e : TimerEvent} {pingTickMs : UInt64} (h : TimerInv client pc now log)
    (hnow : now ≤ later) (habort : pc ≠ .abortConnection)
    (hpc' : pc' ≠ .enter ∧ pc' ≠ .connect ∧ atWritePing pc' = isPinged e)
    (hdeadline : DeadlineKept log e) (hwritten : e = .pingWritten ↔ atWritePing pc = true)
    (hattempt : attemptNote e = none)
    (htraffic : Noted (notes trafficNote (log ++ [e])) pingTickMs later) :
    TimerInv { client with pingTickMs := pingTickMs } pc' later (log ++ [e]) := by
  have hsame : notes attemptNote (log ++ [e]) = notes attemptNote log := notes_concat_none hattempt
  rw [← h.writing] at hwritten
  refine ⟨ordered_concat.mpr ⟨h.kept, hdeadline, hwritten⟩, htraffic, ?_, ?_, ?_, ?_, ?_⟩
  · intro t ht
    rw [hsame] at ht
    exact UInt64.le_trans (h.past t ht) hnow
  · intro hstate
    obtain ⟨hms, hnoted, haborted⟩ := h.waiting hstate
    rw [hsame]
    exact ⟨hms, hnoted.later hnow, List.mem_append_left _ haborted⟩
  · rintro (hpc | ⟨hstate, -⟩) t ht
    · exact absurd hpc hpc'.1
    · rw [hsame] at ht
      have hlt := h.ready (.inr ⟨hstate, habort⟩) t ht
      have hle : now.toNat ≤ later.toNat := hnow
      omega
  · intro hpc
    exact absurd hpc hpc'.2.1
  · rw [pingDue_concat]
    exact hpc'.2.2.symm

theorem TimerInv.unwrapped (h : TimerInv client pc now log) (htick : now ≤ later) :
    client.pingTickMs ≤ later ∧
      (client.state = .waitTimeout → client.reconnectTickMs ≤ later) := by
  refine ⟨UInt64.le_trans h.traffic.past htick, ?_⟩
  intro hstate
  obtain ⟨-, hnoted, -⟩ := h.waiting hstate
  exact UInt64.le_trans hnoted.past htick

theorem timeouts_toNat : websocketPingTimeoutMs.toNat = 10000 ∧
    (UInt64.ofInt websocketReconnectTimeoutMs).toNat = 1000 := by
  decide

theorem timerInv_afterPing {e : TimerEvent} {readSelect : Int}
    (hafter : ∀ pc', pc' = .loopHead ∨ pc' = .read →
      TimerInv client pc' env.nextTickMs (log ++ [e])) :
    TimerInv (afterPing client env readSelect).1 (afterPing client env readSelect).2
      env.nextTickMs (log ++ e :: heardTurn env (afterPing client env readSelect).2) := by
  unfold afterPing
  split
  · exact hafter .loopHead (.inl rfl)
  · have hread := hafter .read (.inr rfl)
    have hheard : Noted (notes trafficNote (log ++ [e] ++ [.heard env.nextTickMs]))
        env.nextTickMs env.nextTickMs := by
      rw [notes_concat_some (e := .heard env.nextTickMs) rfl]
      exact hread.traffic.insert (UInt64.le_refl _)
    have hevents : log ++ e :: heardTurn env .read = log ++ [e] ++ [.heard env.nextTickMs] := by
      simp [heardTurn]
    show TimerInv _ .read _ (log ++ e :: heardTurn env .read)
    rw [hevents]
    exact hread.event (UInt64.le_refl _) (by simp) ⟨by simp, by simp, rfl⟩ trivial
      (by simp [atWritePing]) rfl hheard

theorem pingTurn_afterPing {readSelect : Int} :
    pingTurn env (afterPing client env readSelect).2 = .notPinged env.tickMs := by
  unfold afterPing
  split <;> rfl

theorem timerInv_ping {readSelect : Int} (h : TimerInv client (.ping readSelect) now log)
    (htick : now ≤ env.tickMs) (hnext : env.tickMs ≤ env.nextTickMs) :
    TimerInv (pingStep client env readSelect).1 (pingStep client env readSelect).2
      env.nextTickMs (log ++ turnEvents client (pingStep client env readSelect).1 env
        (pingStep client env readSelect).2 (.ping readSelect)) := by
  have hnow := UInt64.le_trans htick hnext
  have hnoted := h.traffic.later htick
  unfold pingStep
  split
  · rename_i hexpired
    have hall := hnoted.expired_iff.mp hexpired
    rw [timeouts_toNat.1] at hall
    have htraffic : Noted (notes trafficNote (log ++ [.pinged env.tickMs env.nextTickMs]))
        env.nextTickMs env.nextTickMs := by
      rw [notes_concat_some (e := .pinged env.tickMs env.nextTickMs) rfl]
      exact hnoted.insert hnext
    exact h.event hnow (by simp) ⟨by simp, by simp, rfl⟩ hall (by simp [pingTurn, atWritePing]) rfl
      htraffic
  · rename_i hnot
    have hpending := hnoted.pending hnot
    rw [timeouts_toNat.1] at hpending
    have htraffic : Noted (notes trafficNote (log ++ [.notPinged env.tickMs]))
        client.pingTickMs env.nextTickMs := by
      rw [notes_concat_none (e := .notPinged env.tickMs) rfl]
      exact h.traffic.later hnow
    simp only [turnEvents, pingTurn_afterPing]
    apply timerInv_afterPing
    rintro pc' (rfl | rfl)
    · exact h.event hnow (by simp) ⟨by simp, by simp, rfl⟩ ⟨_, hnoted.member, hpending⟩
        (by simp [atWritePing]) rfl htraffic
    · exact h.event hnow (by simp) ⟨by simp, by simp, rfl⟩ ⟨_, hnoted.member, hpending⟩
        (by simp [atWritePing]) rfl htraffic

theorem timerInv_writePing {readSelect : Int}
    (h : TimerInv client (.writePing readSelect) now log) (hnow : now ≤ env.nextTickMs) :
    TimerInv (afterPing client env readSelect).1 (afterPing client env readSelect).2
      env.nextTickMs (log ++ turnEvents client (afterPing client env readSelect).1 env
        (afterPing client env readSelect).2 (.writePing readSelect)) := by
  have htraffic : Noted (notes trafficNote (log ++ [.pingWritten])) client.pingTickMs
      env.nextTickMs := by
    rw [notes_concat_none (e := .pingWritten) rfl]
    exact h.traffic.later hnow
  apply timerInv_afterPing
  rintro pc' (rfl | rfl)
  · exact h.event hnow (by simp) ⟨by simp, by simp, rfl⟩ trivial (by simp [atWritePing]) rfl
      htraffic
  · exact h.event hnow (by simp) ⟨by simp, by simp, rfl⟩ trivial (by simp [atWritePing]) rfl
      htraffic

theorem waitTurn_quiet (hquiet : client.state ≠ .waitTimeout ∨ client'.run = false) :
    waitTurn client client' env = [] := by
  apply if_neg
  rintro ⟨hstate, hrun⟩
  rcases hquiet with hne | hoff
  · exact hne hstate
  · cases hoff.symm.trans hrun

theorem timerInv_switch (h : TimerInv client .loopHead now log) (hrun : client.run = true)
    (htick : now ≤ env.tickMs) (hnext : env.tickMs ≤ env.nextTickMs) :
    TimerInv (switchStep client env).1 (switchStep client env).2 env.nextTickMs
      (log ++ waitTurn client (switchStep client env).1 env) := by
  have hnow := UInt64.le_trans htick hnext
  have hsame : ∀ pc', (pc' = .connect → client.state = .init) → pc' ≠ .enter →
      atWritePing pc' = false → client.state ≠ .waitTimeout →
      TimerInv client pc' env.nextTickMs (log ++ waitTurn client client env) := by
    intro pc' hconnect henter hwriting hstate
    rw [waitTurn_quiet (.inl hstate), List.append_nil]
    exact h.goto hnow (by simp) henter hconnect hwriting
  have hstopped : TimerInv { client with run := false } .loopHead env.nextTickMs
      (log ++ waitTurn client { client with run := false } env) := by
    rw [waitTurn_quiet (.inr rfl), List.append_nil]
    refine h.idle hnow rfl ?_ ?_ ?_ rfl
    · exact fun hstate => ⟨hstate, rfl, rfl⟩
    · exact fun hpc => hpc
    · intro hpc
      cases hpc
  unfold switchStep
  split
  · rename_i hstate
    split
    · exact hsame .connect (fun _ => hstate) (by simp) rfl (by simp [hstate])
    · exact hstopped
  · rename_i hstate
    exact hsame .pollRead (fun hpc => by cases hpc) (by simp) rfl (by simp [hstate])
  · rename_i hstate
    obtain ⟨hms, hnoted, haborted⟩ := h.waiting hstate
    have hnoted' := hnoted.later htick
    have hfree : ∀ {e : TimerEvent}, trafficNote e = none →
        Noted (notes trafficNote (log ++ [e])) client.pingTickMs env.nextTickMs := by
      intro e he
      rw [notes_concat_none he]
      exact h.traffic.later hnow
    split
    · split
      · rename_i hexpired
        have hall := hnoted'.expired_iff.mp hexpired
        rw [hms, timeouts_toNat.2] at hall
        have hturn : waitTurn client { client with
            state := .init, reconnectTickMs := env.nextTickMs } env = [.resumed env.tickMs] := by
          simp [waitTurn, hstate, hrun]
        have hwritten : TimerEvent.resumed env.tickMs = .pingWritten ↔ pingDue log = true := by
          simp [h.writing, atWritePing]
        show TimerInv _ _ _ (log ++ waitTurn _ _ env)
        rw [hturn]
        refine ⟨ordered_concat.mpr ⟨h.kept, hall, hwritten⟩, hfree rfl, ?_, ?_, ?_, ?_, ?_⟩
        · intro t ht
          rw [notes_concat_none (e := .resumed env.tickMs) rfl] at ht
          exact UInt64.le_trans (h.past t ht) hnow
        · intro hinit
          cases hinit
        · intro _ t ht
          rw [notes_concat_none (e := .resumed env.tickMs) rfl] at ht
          have hlt := hall t ht
          have hle : env.tickMs.toNat ≤ env.nextTickMs.toNat := hnext
          omega
        · intro hpc
          cases hpc
        · rw [pingDue_concat]
          rfl
      · rename_i hnot
        have hpending := hnoted'.pending hnot
        rw [hms, timeouts_toNat.2] at hpending
        have hturn : waitTurn client client env = [.waited env.tickMs] := by
          simp [waitTurn, hstate, hrun]
        show TimerInv _ _ _ (log ++ waitTurn _ _ env)
        rw [hturn]
        exact h.event hnow (by simp) ⟨by simp, by simp, rfl⟩ ⟨_, haborted, hpending⟩
          (by simp [atWritePing]) rfl (hfree rfl)
    · exact hstopped
  · rename_i hstate
    exact hsame .loopHead (fun hpc => by cases hpc) (by simp) rfl (by simp [hstate])
  · rename_i hstate
    exact hsame .loopHead (fun hpc => by cases hpc) (by simp) rfl (by simp [hstate])

theorem timerInv_connect (h : TimerInv client .connect now log) (htick : now ≤ env.tickMs)
    (hnext : env.tickMs ≤ env.nextTickMs)
    (hclient : client' = client ∧ pc' = .abortConnection ∨
      client' = { client with state := .connected } ∧ pc' = .dispatch .connected) :
    TimerInv client' pc' env.nextTickMs (log ++ [.connecting env.tickMs]) := by
  have hinit := h.connecting rfl
  have hready := h.ready (.inr ⟨hinit, by simp⟩)
  have hnone : trafficNote (.connecting env.tickMs) = none := rfl
  have hping : client'.pingTickMs = client.pingTickMs := by
    rcases hclient with ⟨rfl, -⟩ | ⟨rfl, -⟩ <;> rfl
  have hstate : client'.state ≠ .waitTimeout := by
    rcases hclient with ⟨rfl, -⟩ | ⟨rfl, -⟩
    · simp [hinit]
    · simp
  have hwritten : TimerEvent.connecting env.tickMs = .pingWritten ↔ pingDue log = true := by
    simp [h.writing, atWritePing]
  refine ⟨ordered_concat.mpr ⟨h.kept, ?_, hwritten⟩, ?_, ?_, fun hwait => absurd hwait hstate, ?_,
    ?_, ?_⟩
  · intro t ht
    have hlt := hready t ht
    have hle : now.toNat ≤ env.tickMs.toNat := htick
    omega
  · rw [hping, notes_concat_none hnone]
    exact h.traffic.later (UInt64.le_trans htick hnext)
  · intro t ht
    rw [notes_concat_some (e := .connecting env.tickMs) rfl] at ht
    rcases ht with rfl | ht
    · exact hnext
    · exact UInt64.le_trans (h.past t ht) (UInt64.le_trans htick hnext)
  · rcases hclient with ⟨-, rfl⟩ | ⟨rfl, rfl⟩
    · rintro (hpc | ⟨-, hpc⟩)
      · cases hpc
      · exact absurd rfl hpc
    · rintro (hpc | ⟨hpc, -⟩)
      · cases hpc
      · cases hpc
  · intro hpc
    rcases hclient with ⟨-, rfl⟩ | ⟨-, rfl⟩ <;> cases hpc
  · rw [pingDue_concat]
    rcases hclient with ⟨-, rfl⟩ | ⟨-, rfl⟩ <;> rfl

theorem timerInv_abort (h : TimerInv client .abortConnection now log) (htick : now ≤ env.tickMs)
    (hnext : env.tickMs ≤ env.nextTickMs) :
    TimerInv { client with
        waitTimeoutMs := websocketReconnectTimeoutMs
        reconnectTickMs := env.tickMs
        state := .waitTimeout } (.dispatch .disconnected) env.nextTickMs
      (log ++ [.aborted env.tickMs]) := by
  have hnone : trafficNote (.aborted env.tickMs) = none := rfl
  have hpast : ∀ t ∈ notes attemptNote log, t ≤ env.tickMs := by
    intro t ht
    exact UInt64.le_trans (h.past t ht) htick
  have hnoted : Noted (notes attemptNote (log ++ [.aborted env.tickMs])) env.tickMs
      env.nextTickMs := by
    rw [notes_concat_some (e := .aborted env.tickMs) rfl]
    exact (noted_insert hpast).later hnext
  have hwritten : TimerEvent.aborted env.tickMs = .pingWritten ↔ pingDue log = true := by
    simp [h.writing, atWritePing]
  refine ⟨ordered_concat.mpr ⟨h.kept, trivial, hwritten⟩, ?_, ?_, ?_, ?_, ?_, ?_⟩
  · rw [notes_concat_none hnone]
    exact h.traffic.later (UInt64.le_trans htick hnext)
  · intro t ht
    exact UInt64.le_trans (hnoted.newest t ht) hnext
  · intro _
    exact ⟨rfl, hnoted, List.mem_append_right _ (List.mem_singleton.mpr rfl)⟩
  · rintro (hpc | ⟨hpc, -⟩)
    · cases hpc
    · cases hpc
  · intro hpc
    cases hpc
  · rw [pingDue_concat]
    rfl

theorem timerInv_turn (h : TimerInv client pc now log) (htick : now ≤ env.tickMs)
    (hnext : env.tickMs ≤ env.nextTickMs)
    (hturn : clientStep client env pc = some (client', pc')) :
    TimerInv client' pc' env.nextTickMs (log ++ turnEvents client client' env pc' pc) := by
  have hnow := UInt64.le_trans htick hnext
  have hpassed : (log ++ ([] : List TimerEvent)) = log := List.append_nil log
  cases pc with
  | enter =>
      cases hturn
      simp only [turnEvents, hpassed]
      refine h.idle hnow rfl ?_ ?_ ?_ rfl
      · intro hstate
        cases hstate
      · exact fun _ => .inl rfl
      · intro hpc
        cases hpc
  | loopHead =>
      simp only [clientStep] at hturn
      split at hturn
      · rename_i hrun
        have hswitch : switchStep client env = (client', pc') := Option.some.inj hturn
        have hinv := timerInv_switch h hrun htick hnext
        rw [hswitch] at hinv
        exact hinv
      · rename_i hrun
        cases hturn
        have hnone : waitTurn client client env = [] := waitTurn_quiet (.inr (by simpa using hrun))
        simp only [turnEvents, hnone, hpassed]
        exact h.goto hnow (by simp) (by simp) (fun hpc => by cases hpc) rfl
  | connect =>
      simp only [clientStep] at hturn
      split at hturn
      · cases hturn
        exact timerInv_connect h htick hnext (.inl ⟨rfl, rfl⟩)
      · cases hturn
        exact timerInv_connect h htick hnext (.inr ⟨rfl, rfl⟩)
  | pollRead =>
      simp only [turnEvents, hpassed]
      simp only [clientStep] at hturn
      split at hturn
      · cases hturn
        exact h.goto hnow (by simp) (by simp) (fun hpc => by cases hpc) rfl
      · cases hturn
        exact h.goto hnow (by simp) (by simp) (fun hpc => by cases hpc) rfl
  | ping readSelect =>
      have hping : pingStep client env readSelect = (client', pc') := Option.some.inj hturn
      have hinv := timerInv_ping h htick hnext
      rw [hping] at hinv
      exact hinv
  | writePing readSelect =>
      have hping : afterPing client env readSelect = (client', pc') := Option.some.inj hturn
      have hinv := timerInv_writePing h hnow
      rw [hping] at hinv
      exact hinv
  | read =>
      simp only [turnEvents, hpassed]
      simp only [clientStep] at hturn
      split at hturn
      · cases hturn
        exact h.goto hnow (by simp) (by simp) (fun hpc => by cases hpc) rfl
      · split at hturn
        · cases hturn
        · split at hturn
          · cases hturn
            exact h.goto hnow (by simp) (by simp) (fun hpc => by cases hpc) rfl
          · cases hturn
            exact h.goto hnow (by simp) (by simp) (fun hpc => by cases hpc) rfl
  | abortConnection =>
      cases hturn
      exact timerInv_abort h htick hnext
  | leave =>
      cases hturn
      simp only [turnEvents, hpassed]
      refine h.idle hnow rfl ?_ ?_ ?_ rfl
      · intro hstate
        cases hstate
      · rintro (hpc | ⟨hstate, -⟩)
        · cases hpc
        · cases hstate
      · intro hpc
        cases hpc
  | dispatch _ | handling | stopped => cases hturn

section Firmware

variable {ι : Type*} [DecidableEq ι]

/-- The firmware with a clock beside it; `now` and `log` are ghost. -/
structure State (ι : Type*) where
  firmware : Firmware.State ι
  now : UInt64
  log : List TimerEvent

def start (network : Bool) (createdMs : UInt64) (rxBuffer : List UInt8) : State ι where
  firmware := Firmware.start network createdMs createdMs rxBuffer
  now := createdMs
  log := [.created createdMs]

def eventsOf (s s' : Firmware.State ι) : Firmware.Action ι → List TimerEvent
  | .client env => turnEvents s.client s'.client env s'.pc s.pc
  | .handler _ _ | .endpoint _ _ _ | .system _ => []

def clockAfter (now : UInt64) : Firmware.Action ι → UInt64
  | .client env => env.nextTickMs
  | .handler _ _ | .endpoint _ _ _ | .system _ => now

def step (cfg : Endpoints ι) (s : State ι) (a : Firmware.Action ι) : Option (State ι) :=
  (Firmware.step cfg s.firmware a).map fun firmware =>
    { firmware := firmware
      now := clockAfter s.now a
      log := s.log ++ eventsOf s.firmware firmware a }

def Monotone (s : State ι) : Firmware.Action ι → Prop
  | .client env => s.now ≤ env.tickMs ∧ env.tickMs ≤ env.nextTickMs
  | .handler _ _ | .endpoint _ _ _ | .system _ => True

instance (s : State ι) : (a : Firmware.Action ι) → Decidable (Monotone s a)
  | .client env =>
      inferInstanceAs (Decidable (s.now ≤ env.tickMs ∧ env.tickMs ≤ env.nextTickMs))
  | .handler _ _ | .endpoint _ _ _ | .system _ => inferInstanceAs (Decidable True)

omit [DecidableEq ι] in
theorem now_le_clockAfter {s : State ι} {a : Firmware.Action ι} (h : Monotone s a) :
    s.now ≤ clockAfter s.now a := by
  cases a with
  | client env => exact UInt64.le_trans h.1 h.2
  | _ => exact UInt64.le_refl s.now

variable {cfg : Endpoints ι} {s s' : Firmware.State ι} {a : Firmware.Action ι}

/-- Where the client task stands after a step that is not one of its own, or in which
an event is delivered. -/
theorem client_of_step (h : Firmware.step cfg s a = some s') :
    (∃ env, a = .client env ∧ clientStep s.client env s.pc = some (s'.client, s'.pc)) ∨
      (eventsOf s s' a = [] ∧ s'.client = s.client ∧ (s'.pc = s.pc ∨
        (s.pc ≠ .abortConnection ∧ s'.pc ≠ .enter ∧ s'.pc ≠ .connect ∧
          atWritePing s'.pc = atWritePing s.pc))) := by
  cases a with
  | client env =>
      simp only [Firmware.step] at h
      split at h
      · rename_i event hpc
        refine .inr ⟨?_, ?_, .inr ⟨?_, ?_⟩⟩
        · simp only [eventsOf, hpc, turnEvents]
        · cases event with
          | connected | disconnected =>
              cases h
              rfl
          | data bytes =>
              obtain ⟨tasks, -, rfl⟩ := Option.map_eq_some_iff.mp h
              rfl
        · simp [hpc]
        · cases event with
          | connected | disconnected =>
              cases h
              simp [hpc, atWritePing]
          | data bytes =>
              obtain ⟨tasks, -, rfl⟩ := Option.map_eq_some_iff.mp h
              simp [hpc, atWritePing]
      · rename_i hpc
        split at h
        · cases h
          refine .inr ⟨?_, rfl, .inr ?_⟩
          · simp only [eventsOf, hpc, turnEvents]
          · simp [hpc, atWritePing]
        · cases h
      · obtain ⟨r, hturn, rfl⟩ := Option.map_eq_some_iff.mp h
        exact .inl ⟨env, rfl, hturn⟩
  | handler env sendEnv =>
      simp only [Firmware.step] at h
      split at h
      · obtain ⟨tasks, sends, move⟩ := tasksStep_move h
        rw [move.result]
        exact .inr ⟨rfl, rfl, .inl rfl⟩
      · cases h
  | endpoint t env sendEnv =>
      obtain ⟨tasks, sends, move⟩ := tasksStep_move h
      rw [move.result]
      exact .inr ⟨rfl, rfl, .inl rfl⟩
  | system event =>
      cases h
      exact .inr ⟨rfl, rfl, .inl rfl⟩

omit [DecidableEq ι] in
theorem timerInv_start (network : Bool) (createdMs : UInt64) (rx : List UInt8) :
    TimerInv (start (ι := ι) network createdMs rx).firmware.client .enter createdMs
      [.created createdMs] := by
  have hattempts : ∀ t, t ∉ notes attemptNote [.created createdMs] := by
    rintro t ⟨e, hmem, ht⟩
    cases List.mem_singleton.mp hmem
    cases ht
  have hkept : Ordered TimerKept ([] ++ [.created createdMs]) :=
    ordered_concat.mpr ⟨ordered_nil, trivial, by simp [pingDue]⟩
  have htraffic : notes trafficNote ([] ++ [.created createdMs]) = insert createdMs ∅ := by
    have hnil : notes trafficNote [] = ∅ := by
      ext t
      simp [notes]
    rw [← hnil]
    exact notes_concat_some rfl
  rw [List.nil_append] at htraffic
  refine ⟨hkept, ?_, ?_, ?_, ?_, ?_, rfl⟩
  · rw [htraffic]
    exact noted_insert fun t ht => absurd ht (Set.notMem_empty t)
  · intro t ht
    exact absurd ht (hattempts t)
  · intro hstate
    cases hstate
  · intro _ t ht
    exact absurd ht (hattempts t)
  · intro hpc
    cases hpc

theorem timerInv_run {network : Bool} {createdMs : UInt64} {rx : List UInt8}
    {as : List (Firmware.Action ι)} {s : State ι}
    (run : Run (step cfg) Monotone (start network createdMs rx) as s) :
    TimerInv s.firmware.client s.firmware.pc s.now s.log := by
  apply run.invariant (P := fun u => TimerInv u.firmware.client u.firmware.pc u.now u.log)
  · exact timerInv_start network createdMs rx
  · intro bs u a v _ hu hallowed hstep
    obtain ⟨firmware, hfirmware, rfl⟩ := Option.map_eq_some_iff.mp hstep
    rcases client_of_step hfirmware with ⟨env, rfl, hturn⟩ | ⟨hevents, hclient, hpc⟩
    · exact timerInv_turn hu hallowed.1 hallowed.2 hturn
    · show TimerInv firmware.client firmware.pc (clockAfter u.now a)
        (u.log ++ eventsOf u.firmware firmware a)
      rw [hevents, List.append_nil, hclient]
      have hnow := now_le_clockAfter hallowed
      rcases hpc with hpc | ⟨habort, henter, hconnect, hwriting⟩
      · rw [hpc]
        exact hu.idle hnow rfl (fun hstate => ⟨hstate, rfl, rfl⟩) (fun hready => hready)
          hu.connecting rfl
      · exact hu.goto hnow habort henter (fun hpc => absurd hpc hconnect) hwriting

/-- The client task has kept its deadlines so far, and whenever it next compares a
deadline with the clock, the unsigned difference is the time that has passed. -/
structure TimersKept (s : State ι) : Prop where
  kept : Ordered TimerKept s.log
  unwrapped : ∀ env, Monotone s (.client env) → s.firmware.client.pingTickMs ≤ env.tickMs ∧
    (s.firmware.client.state = .waitTimeout → s.firmware.client.reconnectTickMs ≤ env.tickMs)

theorem timersKept_run {network : Bool} {createdMs : UInt64} {rx : List UInt8}
    {as : List (Firmware.Action ι)} {s : State ι}
    (run : Run (step cfg) Monotone (start network createdMs rx) as s) : TimersKept s where
  kept := (timerInv_run run).kept
  unwrapped _ hclock := (timerInv_run run).unwrapped hclock.1

def turnAt (ms : UInt64) (result : Int) : Firmware.Action Unit :=
  .client ⟨true, result, [], ms, ms⟩

/-- A connection is refused, tried again a second later, and pinged when nothing comes. -/
def refusedThenPinged : List (Firmware.Action Unit) :=
  [turnAt 1 0, turnAt 2 0, turnAt 3 (-1), turnAt 5 0, turnAt 5 0, turnAt 600 0, turnAt 1005 0,
    turnAt 1006 0, turnAt 1007 0, turnAt 1008 0, turnAt 1009 0, turnAt 1010 0, turnAt 2010 0,
    turnAt 2010 0, turnAt 2011 0, turnAt 13000 0, turnAt 13000 0, turnAt 13001 (-1)]

theorem timersKept_pinged : ∃ s,
    Run (step gpioEndpoints) Monotone (start true 0 []) refusedThenPinged s ∧
    (.waited 600 ∈ s.log ∧ .resumed 1006 ∈ s.log ∧ .pinged 13000 13000 ∈ s.log ∧
      .pingWritten ∈ s.log) ∧ TimersKept s := by
  obtain ⟨s, run, hevents⟩ := Run.exists_of_exec_any (step gpioEndpoints) Monotone
    (start true 0 []) refusedThenPinged (fun s => TimerEvent.waited 600 ∈ s.log ∧
      TimerEvent.resumed 1006 ∈ s.log ∧ TimerEvent.pinged 13000 13000 ∈ s.log ∧
      TimerEvent.pingWritten ∈ s.log) (by decide)
  exact ⟨s, run, of_decide_eq_true hevents, timersKept_run run⟩

end Firmware

end Esp32Iot.ClientTimers
