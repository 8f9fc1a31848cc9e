import Mathlib.Algebra.BigOperators.Group.List.Basic
import Mathlib.Algebra.Order.BigOperators.Group.List
import Esp32Iot.Communication
import Esp32Iot.WebsocketClient

namespace Esp32Iot.StatusSend

open Esp32Iot.Communication
open Esp32Iot.WebsocketClient

/-- What the transport takes of `data` from `widx` on; each write is given a chunk
of the send buffer's size at most. -/
def taken (bufferSize : Int) (data : List UInt8) (widx needWrite : Int) :
    List Int → List UInt8
  | [] => []
  | wlen :: writes =>
      if widx < data.length then
        if wlen ≤ 0 then []
        else
          ((data.drop widx.toNat).take (min needWrite bufferSize).toNat).take wlen.toNat ++
            taken bufferSize data (widx + wlen) (data.length - (widx + wlen)) writes
      else []

def writesReached (client : Client) (env : SendEnv) : Bool :=
  espWebsocketClientIsConnected client && client.transport && env.locked

def transmitted (client : Client) (data : List UInt8) (env : SendEnv) : List UInt8 :=
  if writesReached client env then taken client.bufferSize data 0 data.length env.writes
  else []

/-- Whether `sendStatus` takes its failure branch. -/
def sendStatusFails (client : Client) (endpointId messageId status : Int) (env : SendEnv) :
    Option Bool :=
  (espWebsocketClientSend client (sendStatus endpointId messageId status) env).map
    fun sendExit => decide (sendExit.result = espFail)

/-- The results of the writes are such as the transport gives: none says that more
was taken than was offered, and there is one for each write the loop makes. -/
def Answers (bufferSize len widx needWrite : Int) : List Int → Prop
  | [] => len ≤ widx
  | wlen :: writes => widx < len → wlen ≤ min needWrite bufferSize ∧
      (0 < wlen → Answers bufferSize len (widx + wlen) (len - (widx + wlen)) writes)

/-- A write that stops the loop with bytes left to send returns `ESP_FAIL`. -/
def StopsWithEspFail (left : Int) (writes : List Int) : Prop :=
  ∀ before wlen after, writes = before ++ wlen :: after → (∀ w ∈ before, 0 < w) →
    before.sum < left → wlen ≤ 0 → wlen = espFail

theorem stopsWithEspFail_nil {left : Int} : StopsWithEspFail left [] := by
  intro before wlen after h
  simp at h

theorem stopsWithEspFail_done {left : Int} {writes : List Int} (hleft : left ≤ 0) :
    StopsWithEspFail left writes := by
  intro before wlen after _ hbefore hsum
  have hnonneg : 0 ≤ before.sum := List.sum_nonneg fun w hw => (hbefore w hw).le
  omega

theorem stopsWithEspFail_cons {left wlen : Int} {writes : List Int} (hleft : 0 < left) :
    StopsWithEspFail left (wlen :: writes) ↔
      (wlen ≤ 0 → wlen = espFail) ∧ (0 < wlen → StopsWithEspFail (left - wlen) writes) := by
  constructor
  · intro h
    refine ⟨h [] wlen writes rfl (by simp) (by simpa using hleft), ?_⟩
    intro hpos before w after hwrites hbefore hsum
    refine h (wlen :: before) w after (by simp [hwrites]) ?_ ?_
    · rintro v (_ | ⟨_, hv⟩)
      · exact hpos
      · exact hbefore v hv
    · rw [List.sum_cons]
      omega
  · rintro ⟨hstop, hgo⟩ before w after hwrites hbefore hsum
    cases before with
    | nil =>
        obtain ⟨rfl, -⟩ := List.cons.inj hwrites
        exact hstop
    | cons v before =>
        obtain ⟨rfl, rfl⟩ := List.cons.inj hwrites
        rw [List.sum_cons] at hsum
        refine hgo (hbefore _ (by simp)) before w after rfl ?_ (by omega)
        exact fun x hx => hbefore x (by simp [hx])

variable {bufferSize : Int} {data : List UInt8} {widx needWrite : Int} {writes : List Int}

theorem chunk_length {wlen : Int} (hwidx : 0 ≤ widx) (hneed : needWrite = data.length - widx)
    (hwlen : wlen ≤ min needWrite bufferSize) (hpos : 0 < wlen) :
    (((data.drop widx.toNat).take (min needWrite bufferSize).toNat).take wlen.toNat).length =
      wlen.toNat := by
  simp only [List.length_take, List.length_drop]
  omega

theorem sendLoop_spec (hwidx : 0 ≤ widx) (hle : widx ≤ data.length)
    (hneed : needWrite = data.length - widx)
    (hanswers : Answers bufferSize data.length widx needWrite writes) :
    ∃ wlen, sendLoop bufferSize data.length widx needWrite writes = some wlen ∧
      ((wlen = data.length ∧
          ((taken bufferSize data widx needWrite writes).length : Int) = data.length - widx ∧
          StopsWithEspFail (data.length - widx) writes) ∨
        (wlen ≤ 0 ∧ widx < data.length ∧
          ((taken bufferSize data widx needWrite writes).length : Int) < data.length - widx ∧
          (StopsWithEspFail (data.length - widx) writes ↔ wlen = espFail))) := by
  induction writes generalizing widx needWrite with
  | nil =>
      have hdone : widx = data.length := le_antisymm hle hanswers
      refine ⟨widx, ?_, .inl ⟨hdone, ?_, stopsWithEspFail_nil⟩⟩
      · rw [sendLoop, if_neg (by omega)]
      · simp [taken, hdone]
  | cons wlen writes ih =>
      by_cases hmore : widx < data.length
      · obtain ⟨hwlen, hrest⟩ := hanswers hmore
        by_cases hpos : 0 < wlen
        · have hadvanced : widx + wlen ≤ data.length := by omega
          obtain ⟨r, hloop, hcases⟩ := ih (by omega) hadvanced rfl (hrest hpos)
          have hlength := chunk_length hwidx hneed hwlen hpos
          have htaken : ((taken bufferSize data widx needWrite (wlen :: writes)).length : Int) =
              wlen + (taken bufferSize data (widx + wlen) (data.length - (widx + wlen))
                writes).length := by
            rw [taken, if_pos hmore, if_neg (by omega), List.length_append, hlength]
            omega
          have hstops : StopsWithEspFail (data.length - widx) (wlen :: writes) ↔
              StopsWithEspFail (data.length - (widx + wlen)) writes := by
            have hleft : (data.length : Int) - widx - wlen = data.length - (widx + wlen) := by
              omega
            rw [stopsWithEspFail_cons (by omega), hleft]
            constructor
            · exact fun h => h.2 hpos
            · exact fun h => ⟨fun hnot => absurd hpos (by omega), fun _ => h⟩
          refine ⟨r, ?_, ?_⟩
          · rw [sendLoop, if_pos hmore, if_neg (by omega), if_neg (by omega)]
            exact hloop
          · rw [hstops, htaken]
            rcases hcases with ⟨hr, hall, hfail⟩ | ⟨hr, hbefore, hsome, hfail⟩
            · exact .inl ⟨hr, by omega, hfail⟩
            · exact .inr ⟨hr, hmore, by omega, hfail⟩
        · refine ⟨wlen, ?_, .inr ⟨by omega, hmore, ?_, ?_⟩⟩
          · rw [sendLoop, if_pos hmore, if_neg (by omega), if_pos (by omega)]
          · rw [taken, if_pos hmore, if_pos (by omega)]
            simp only [List.length_nil]
            omega
          · rw [stopsWithEspFail_cons (by omega)]
            constructor
            · exact fun h => h.1 (by omega)
            · exact fun h => ⟨fun _ => h, fun hnot => absurd hnot hpos⟩
      · have hdone : widx = data.length := by omega
        refine ⟨widx, ?_, .inl ⟨hdone, ?_, stopsWithEspFail_done (by omega)⟩⟩
        · rw [sendLoop, if_neg hmore]
        · rw [taken, if_neg hmore]
          simp [hdone]

theorem taken_prefix (hwidx : 0 ≤ widx) (hneed : needWrite = data.length - widx)
    (hanswers : Answers bufferSize data.length widx needWrite writes) :
    taken bufferSize data widx needWrite writes <+: data.drop widx.toNat := by
  induction writes generalizing widx needWrite with
  | nil => exact List.nil_prefix
  | cons wlen writes ih =>
      rw [taken]
      split
      · rename_i hmore
        obtain ⟨hwlen, hrest⟩ := hanswers hmore
        split
        · exact List.nil_prefix
        · rename_i hpos
          have hnext : (widx + wlen).toNat = widx.toNat + wlen.toNat := by omega
          have hchunk : ((data.drop widx.toNat).take (min needWrite bufferSize).toNat).take
              wlen.toNat = (data.drop widx.toNat).take wlen.toNat := by
            rw [List.take_take, min_eq_left (by omega)]
          have htail := ih (by omega) rfl (hrest (by omega))
          rw [hnext, ← List.drop_drop] at htail
          rw [hchunk]
          exact (List.prefix_append_right_inj _).mpr htail |>.trans
            (by rw [List.take_append_drop])
      · exact List.nil_prefix

section Reply

variable {client : Client} {endpointId messageId status : Int} {env : SendEnv}

theorem sendStatus_length : (sendStatus endpointId messageId status).length = 3 := rfl

theorem transmitted_prefix {data : List UInt8}
    (hanswers : writesReached client env = true →
      Answers client.bufferSize data.length 0 data.length env.writes) :
    transmitted client data env <+: data := by
  unfold transmitted
  split
  · rename_i hreached
    have hwhole : (data.length : Int) = data.length - 0 := by omega
    have hprefix := taken_prefix (le_refl (0 : Int)) hwhole (hanswers hreached)
    simpa using hprefix
  · exact List.nil_prefix

theorem send_unreached (hreached : writesReached client env = false) :
    ∃ sendExit, espWebsocketClientSend client (sendStatus endpointId messageId status) env =
      some sendExit ∧ sendExit.result = espFail := by
  unfold espWebsocketClientSend
  rw [if_neg (by simp [sendStatus_length])]
  split
  · exact ⟨_, rfl, rfl⟩
  · split
    · exact ⟨_, rfl, rfl⟩
    · split
      · exact ⟨_, rfl, rfl⟩
      · simp_all [writesReached]

theorem send_reached (hreached : writesReached client env = true) :
    espWebsocketClientSend client (sendStatus endpointId messageId status) env =
      (sendLoop client.bufferSize 3 0 3 env.writes).map .returned := by
  simp only [writesReached, Bool.and_eq_true] at hreached
  obtain ⟨⟨hconnected, htransport⟩, hlocked⟩ := hreached
  simp [espWebsocketClientSend, sendStatus_length, hconnected, htransport, hlocked]

/-- The failure branch of `sendStatus` says that fewer than three bytes of the reply
have been transmitted. -/
def ReportsLoss (client : Client) (endpointId messageId status : Int) (env : SendEnv) : Prop :=
  ∃ fails, sendStatusFails client endpointId messageId status env = some fails ∧
    (fails = true ↔ (transmitted client (sendStatus endpointId messageId status) env).length < 3)

theorem reportsLoss_iff
    (hanswers : writesReached client env = true → Answers client.bufferSize 3 0 3 env.writes) :
    ReportsLoss client endpointId messageId status env ↔
      (writesReached client env = true → StopsWithEspFail 3 env.writes) := by
  cases hreached : writesReached client env with
  | false =>
      obtain ⟨sendExit, hsend, hresult⟩ : ∃ sendExit,
          espWebsocketClientSend client (sendStatus endpointId messageId status) env =
            some sendExit ∧ sendExit.result = espFail := send_unreached hreached
      have hreports : ReportsLoss client endpointId messageId status env :=
        ⟨true, by rw [sendStatusFails, hsend]; simp [hresult], by simp [transmitted, hreached]⟩
      simp [hreports]
  | true =>
      let reply := sendStatus endpointId messageId status
      have htransmitted : transmitted client reply env =
          taken client.bufferSize reply 0 3 env.writes := if_pos hreached
      have hspec := @sendLoop_spec client.bufferSize reply 0 3 env.writes (le_refl 0)
        (by simp) rfl (hanswers hreached)
      have hlength : (reply.length : Int) = 3 := rfl
      simp only [hlength, sub_zero] at hspec
      obtain ⟨wlen, hloop, hcases⟩ := hspec
      have hfails : sendStatusFails client endpointId messageId status env =
          some (decide (wlen = espFail)) := by
        rw [sendStatusFails, send_reached hreached, hloop]
        rfl
      have hreports : ReportsLoss client endpointId messageId status env ↔
          (wlen = espFail ↔ (transmitted client reply env).length < 3) := by
        simp only [ReportsLoss, hfails, Option.some.injEq, exists_eq_left', decide_eq_true_eq]
        rfl
      rw [hreports, htransmitted]
      simp only [true_imp_iff]
      rcases hcases with ⟨rfl, hall, hstops⟩ | ⟨hwlen, -, hfewer, hstops⟩
      · have hfew : ¬ (taken client.bufferSize reply 0 3 env.writes).length < 3 := by omega
        simp [hfew, hstops, espFail]
      · have hfew : (taken client.bufferSize reply 0 3 env.writes).length < 3 := by omega
        rw [hstops]
        simp only [hfew, iff_true]

theorem reportsLoss_twoWrites :
    ReportsLoss ⟨true, .connected, 0, 0, 0, true, true, 2⟩ 1 7 0 ⟨true, [2, 1]⟩ := by
  refine (reportsLoss_iff ?_).mpr ?_
  · intro _
    simp [Answers]
  · intro _
    rw [stopsWithEspFail_cons (by decide)]
    refine ⟨by decide, fun _ => ?_⟩
    rw [stopsWithEspFail_cons (by decide)]
    exact ⟨by decide, fun _ => stopsWithEspFail_nil⟩

/-- After two bytes the transport times out. The send returns zero, which
`sendStatus` takes for success. -/
theorem lossUnreported :
    sendStatusFails ⟨true, .connected, 0, 0, 0, true, true, 2⟩ 1 7 0 ⟨true, [2, 0]⟩ =
      some false ∧
    transmitted ⟨true, .connected, 0, 0, 0, true, true, 2⟩ (sendStatus 1 7 0) ⟨true, [2, 0]⟩ =
      [1, 0] ∧
    ¬ ReportsLoss ⟨true, .connected, 0, 0, 0, true, true, 2⟩ 1 7 0 ⟨true, [2, 0]⟩ := by
  have hfails : sendStatusFails ⟨true, .connected, 0, 0, 0, true, true, 2⟩ 1 7 0
      ⟨true, [2, 0]⟩ = some false := by decide
  have htransmitted : transmitted ⟨true, .connected, 0, 0, 0, true, true, 2⟩ (sendStatus 1 7 0)
      ⟨true, [2, 0]⟩ = [1, 0] := by decide
  refine ⟨hfails, htransmitted, ?_⟩
  rintro ⟨fails, hsend, hreports⟩
  cases hfails.symm.trans hsend
  rw [htransmitted] at hreports
  exact absurd (hreports.mpr (by decide)) (by decide)

end Reply

end Esp32Iot.StatusSend
