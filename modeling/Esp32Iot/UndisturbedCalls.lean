import Esp32Iot.AtomicCalls

namespace Esp32Iot.UndisturbedCalls

open Esp32Iot.AtomicCalls
open Esp32Iot.BlockHeap
open Esp32Iot.Communication
open Esp32Iot.FrameMessages
open Esp32Iot.GpioEndpoint
open Esp32Iot.GuardedRun
open Esp32Iot.Mailbox
open Esp32Iot.TaskSteps

def websocketAlone (x : SharedState × WebsocketPc) (env : Env) :
    Option (SharedState × WebsocketPc) :=
  websocketStep x.1 env x.2

def endpointAlone (endpointId : Int) (handler : XMailboxMessage → List UInt8 → HandlerRun)
    (x : SharedState × EndpointPc) (env : Env) : Option (SharedState × EndpointPc) :=
  endpointStep endpointId handler x.1 env x.2

def supply (r : Option Nat) : Env := ⟨r, ⟨.wild, 0, 0, 0, 0, 0⟩, []⟩

section Lifting

variable {ι : Type*} [DecidableEq ι] {cfg : Endpoints ι} {s s' : SharedState}
  {wpc wpc' : WebsocketPc} {ep : ι → EndpointPc}

theorem reaches_websocket (h : Reaches websocketAlone (s, wpc) (s', wpc')) :
    Reaches (step cfg) ⟨s, wpc, ep⟩ ⟨s', wpc', ep⟩ := by
  refine h.map (fun x => (⟨x.1, x.2, ep⟩ : State ι)) ?_
  intro x env y hstep
  refine .head (.websocket env) ?_ .refl
  exact Option.map_eq_some_iff.mpr ⟨y, hstep, rfl⟩

theorem reaches_endpoint {t : ι} {pc pc' : EndpointPc} (hpc : ep t = pc)
    (h : Reaches (endpointAlone (cfg.endpointId t) (cfg.handler t)) (s, pc) (s', pc')) :
    Reaches (step cfg) ⟨s, wpc, ep⟩ ⟨s', wpc, Function.update ep t pc'⟩ := by
  have hlift : Reaches (step cfg) ⟨s, wpc, Function.update ep t pc⟩
      ⟨s', wpc, Function.update ep t pc'⟩ := by
    refine h.map (fun x => (⟨x.1, wpc, Function.update ep t x.2⟩ : State ι)) ?_
    intro x env y hstep
    refine .head (.endpoint t env) ?_ .refl
    refine Option.map_eq_some_iff.mpr ⟨y, ?_, ?_⟩
    · change endpointStep _ _ x.1 env (Function.update ep t x.2 t) = some y
      rw [Function.update_self]
      exact hstep
    · simp only [Function.update_idem]
  rw [← hpc, Function.update_eq_self] at hlift
  exact hlift

end Lifting

variable {s s' : SharedState} {p : MsgPtr} {status : Int}

/-- `onRecieve` as a whole is its three steps. -/
theorem callBackStep_of_callOnRecieve (env : Env) (h : callOnRecieve p status s = some s') :
    ∃ s₁ s₂, callBackStep s env p status .reply = some (s₁, some .freeData) ∧
      callBackStep s₁ env p status .freeData = some (s₂, some .freeMessage) ∧
      callBackStep s₂ env p status .freeMessage = some (s', none) := by
  obtain ⟨message, hmessage, h⟩ := Option.bind_eq_some_iff.mp h
  have hread : readMessage s env p = message := by
    rw [readMessage, hmessage, Option.getD_some]
  cases hknown : message.onRecieve with
  | wild => simp [hknown] at h
  | onMessageRecieved =>
      rw [hknown] at h
      obtain ⟨message', hmessage', h⟩ := Option.bind_eq_some_iff.mp h
      cases hmessage.symm.trans hmessage'
      cases h
      refine ⟨sendMessageStatus p message status s, _, ?_, ?_, rfl⟩
      · simp only [callBackStep, hread, hknown]
      · have hread' : readMessage (sendMessageStatus p message status s) env p = message := hread
        simp only [callBackStep, hread']

theorem callBack_alone {prevMessage : MsgPtr}
    (h : callOnRecieve prevMessage errNotRecieved s = some s') :
    Reaches websocketAlone (s, .callBack p prevMessage .reply) (s', .send p) := by
  obtain ⟨s₁, s₂, hreply, hdata, hmessage⟩ := callBackStep_of_callOnRecieve (supply none) h
  have hfirst : websocketAlone (s, .callBack p prevMessage .reply) (supply none) =
      some (s₁, .callBack p prevMessage .freeData) := by
    simp only [websocketAlone, websocketStep, hreply]
  have hsecond : websocketAlone (s₁, .callBack p prevMessage .freeData) (supply none) =
      some (s₂, .callBack p prevMessage .freeMessage) := by
    simp only [websocketAlone, websocketStep, hdata]
  have hthird : websocketAlone (s₂, .callBack p prevMessage .freeMessage) (supply none) =
      some (s', .send p) := by
    simp only [websocketAlone, websocketStep, hmessage]
  exact .head _ hfirst (.head _ hsecond (.head _ hthird .refl))

variable {endpointId : Int} {handler : XMailboxMessage → List UInt8 → HandlerRun}
  {len : Int} {r₁ r₂ : Option Nat}

structure MallocsAllow (s : SharedState) (len : Int) (r₁ r₂ : Option Nat) : Prop where
  message : s.heap.MallocAllows sizeofXMailboxMessage r₁
  body : (mallocMessage r₁ s).2.heap.MallocAllows (dataEvent s len).dataLength r₂

theorem parseMessage_alone (hmallocs : MallocsAllow s len r₁ r₂) :
    (∃ p s', parseMessage (dataEvent s len) r₁ r₂ s = (some p, s') ∧
      Reaches websocketAlone (s, .mallocMessage len) (s', .testWaiting p)) ∨
    (parseMessage (dataEvent s len) r₁ r₂ s = (none, s) ∧
      Reaches websocketAlone (s, .mallocMessage len) (s, .refuse len)) := by
  obtain ⟨hmessage, hbody⟩ := hmallocs
  rcases r₁ with _ | a
  · have hfirst : websocketAlone (s, .mallocMessage len) (supply none) = some (s, .refuse len) :=
      rfl
    exact .inr ⟨rfl, .head _ hfirst .refl⟩
  · have hfirst : websocketAlone (s, .mallocMessage len) (supply (some a)) =
        some ((mallocMessage (some a) s).2, .clone len ⟨a, s.frames.length - 1⟩) :=
      if_pos hmessage
    rcases r₂ with _ | str
    · have hclone : websocketAlone
          ((mallocMessage (some a) s).2, .clone len ⟨a, s.frames.length - 1⟩) (supply none) =
          some ((mallocMessage (some a) s).2, .testWaiting ⟨a, s.frames.length - 1⟩) := rfl
      exact .inl ⟨_, _, rfl, .head _ hfirst (.head _ hclone .refl)⟩
    · have hclone : websocketAlone
          ((mallocMessage (some a) s).2, .clone len ⟨a, s.frames.length - 1⟩)
            (supply (some str)) =
          some ((clone (dataEvent s len).dataBodyPtr (dataEvent s len).dataLength
              (s.frames.length - 1) (some str) (mallocMessage (some a) s).2).2,
            .setFields len ⟨a, s.frames.length - 1⟩ str) := if_pos hbody
      have hset : ∀ x, websocketAlone (x, .setFields len ⟨a, s.frames.length - 1⟩ str)
          (supply none) = some (setFields (dataEvent x len) ⟨a, s.frames.length - 1⟩ str x,
            .testWaiting ⟨a, s.frames.length - 1⟩) := fun _ => rfl
      exact .inl ⟨_, _, rfl, .head _ hfirst (.head _ hclone (.head _ (hset _) .refl))⟩

theorem storeMessage_alone (h : storeMessage p s = some s') :
    Reaches websocketAlone (s, .testWaiting p) (s', .idle) := by
  have hsend : ∀ x, websocketAlone (x, .send p) (supply none) = some (sendMessage p x, .idle) :=
    fun _ => rfl
  cases hqueue : s.xMailboxIncomingQueue with
  | none =>
      have htest : websocketAlone (s, .testWaiting p) (supply none) = some (s, .send p) := by
        simp [websocketAlone, websocketStep, uxQueueMessagesWaiting, hqueue]
      simp only [storeMessage, uxQueueMessagesWaiting, hqueue] at h
      cases h
      exact .head _ htest (.head _ (hsend s) .refl)
  | some prevMessage =>
      obtain ⟨s₀, hreceive⟩ : ∃ s₀, receivePending s = some (prevMessage, s₀) := by
        simp [receivePending, xQueueReceive, hqueue]
      have htest : websocketAlone (s, .testWaiting p) (supply none) = some (s, .receive p) := by
        simp [websocketAlone, websocketStep, uxQueueMessagesWaiting, hqueue]
      have htake : websocketAlone (s, .receive p) (supply none) =
          some (s₀, .callBack p prevMessage .reply) := by
        simp only [websocketAlone, websocketStep, hreceive]
      have hwaiting : uxQueueMessagesWaiting s.xMailboxIncomingQueue ≠ 0 := by simp [hqueue]
      simp only [storeMessage, if_pos hwaiting, hreceive] at h
      obtain ⟨s₁, hcall, rfl⟩ := Option.map_eq_some_iff.mp h
      exact .head _ htest (.head _ htake ((callBack_alone hcall).trans (.head _ (hsend s₁) .refl)))

theorem sendDataToMailboxIncoming_alone (hmallocs : MallocsAllow s len r₁ r₂)
    (h : sendDataToMailboxIncoming (dataEvent s len) r₁ r₂ s = some s') :
    Reaches websocketAlone (s, .mallocMessage len) (s', .idle) := by
  rcases parseMessage_alone hmallocs with ⟨p, s₁, hparse, hreach⟩ | ⟨hparse, hreach⟩
  · rw [sendDataToMailboxIncoming_of_parsed hparse] at h
    exact hreach.trans (storeMessage_alone h)
  · rw [sendDataToMailboxIncoming, hparse] at h
    cases h
    have hrefuse : websocketAlone (s, .refuse len) (supply none) =
        some (refuseMessage (dataEvent s len) s, .idle) := rfl
    exact hreach.trans (.head _ hrefuse .refl)

theorem endpointCallBack_alone (h : callOnRecieve p status s = some s') :
    Reaches (endpointAlone endpointId handler) (s, .callBack p status .reply) (s', .idle) := by
  obtain ⟨s₁, s₂, hreply, hdata, hmessage⟩ := callBackStep_of_callOnRecieve (supply none) h
  have hfirst : endpointAlone endpointId handler (s, .callBack p status .reply) (supply none) =
      some (s₁, .callBack p status .freeData) := by
    simp only [endpointAlone, endpointStep, hreply]
  have hsecond : endpointAlone endpointId handler (s₁, .callBack p status .freeData)
      (supply none) = some (s₂, .callBack p status .freeMessage) := by
    simp only [endpointAlone, endpointStep, hdata]
  have hthird : endpointAlone endpointId handler (s₂, .callBack p status .freeMessage)
      (supply none) = some (s', .idle) := by
    simp only [endpointAlone, endpointStep, hmessage]
  exact .head _ hfirst (.head _ hsecond (.head _ hthird .refl))

theorem handler_alone (h : asMsgHandler endpointId handler p s = some s') :
    Reaches (endpointAlone endpointId handler) (s, .handle p) (s', .idle) := by
  obtain ⟨message, hmessage, h⟩ := Option.bind_eq_some_iff.mp h
  obtain ⟨pData, hbody, h⟩ := Option.bind_eq_some_iff.mp h
  have hread : readMessage s (supply none) p = message := by
    rw [readMessage, hmessage, Option.getD_some]
  have hreadBody : readBody s (supply none) message.pData = pData := by
    rw [readBody, hbody, Option.getD_some]
  have hhandle : endpointAlone endpointId handler (s, .handle p) (supply none) =
      some (s.log (.handled endpointId p.serial message pData (handler message pData).calls),
        .callBack p (handler message pData).status .reply) := by
    simp only [endpointAlone, endpointStep, hread, hreadBody]
  exact .head _ hhandle (endpointCallBack_alone h)

/-- A poll of the mailbox, as a whole and step by step. -/
theorem vMailboxRecieve_alone
    (h : vMailboxRecieve endpointId (asMsgHandler endpointId handler) s = some s') :
    Reaches (endpointAlone endpointId handler) (s, .idle) (s', .idle) := by
  cases hqueue : s.xMailboxIncomingQueue with
  | none =>
      simp only [vMailboxRecieve, uxQueueMessagesWaiting, hqueue] at h
      cases h
      exact .refl
  | some p =>
      have hwaiting : uxQueueMessagesWaiting s.xMailboxIncomingQueue ≠ 0 := by simp [hqueue]
      rw [vMailboxRecieve, if_pos hwaiting, hqueue] at h
      obtain ⟨message, hmessage, h⟩ := Option.bind_eq_some_iff.mp h
      have hread : readMessage s (supply none) p = message := by
        rw [readMessage, hmessage, Option.getD_some]
      have htest : endpointAlone endpointId handler (s, .idle) (supply none) = some (s, .peek) :=
        if_pos hwaiting
      have hpeek : endpointAlone endpointId handler (s, .peek) (supply none) =
          some (s, .compare p) := by
        simp only [endpointAlone, endpointStep, xQueuePeek, hqueue]
      split at h
      · rename_i hsame
        have hcompare : endpointAlone endpointId handler (s, .compare p) (supply none) =
            some (s, .reset p) := by
          simp only [endpointAlone, endpointStep, hread, if_pos hsame]
        have hreset : endpointAlone endpointId handler (s, .reset p) (supply none) =
            some (s.resetQueue, .handle p) := rfl
        exact .head _ htest (.head _ hpeek (.head _ hcompare (.head _ hreset (handler_alone h))))
      · cases h
        exact .refl

section Runs

variable {rx : List UInt8} {cs : List Call}

def between (s : SharedState) : State Unit := ⟨s, .idle, fun _ => .idle⟩

theorem mallocsAllow_of_allocates {bytes : List UInt8} {a b : Nat}
    (h : Allocates s (.frame bytes a b)) :
    MallocsAllow (readFrame bytes s) bytes.length (some a) (some b) := by
  obtain ⟨hcomplete, ha, hb, hne⟩ := h
  constructor
  · exact ⟨by decide, ha⟩
  · constructor
    · have hlength : 4 ≤ bytes.length := hcomplete
      simp only [EspWebsocketEventData.dataLength, dataEvent, c11nMessageHeaderLength]
      omega
    · change ((readFrame bytes s).heap.alloc a _ _).isLive b = false
      rw [Heap.isLive_alloc_of_ne hne.symm]
      exact hb

theorem reaches_atomicStep {c : Call} (hallocates : Allocates s c)
    (h : atomicStep s c = some s') : Reaches (step gpioEndpoints) (between s) (between s') := by
  cases c with
  | frame bytes a b =>
      have hframe : step gpioEndpoints (between s) (.frame bytes) =
          some ⟨readFrame bytes s, .mallocMessage bytes.length, fun _ => .idle⟩ := rfl
      have halone := sendDataToMailboxIncoming_alone (mallocsAllow_of_allocates hallocates) h
      exact .head _ hframe (reaches_websocket halone)
  | poll =>
      have halone : Reaches (endpointAlone (gpioEndpoints.endpointId ()) (gpioEndpoints.handler ()))
          (s, .idle) (s', .idle) := vMailboxRecieve_alone h
      have hreach : Reaches (step gpioEndpoints) (between s)
          ⟨s', .idle, Function.update (fun _ => .idle) () .idle⟩ := reaches_endpoint rfl halone
      rw [Function.update_eq_self] at hreach
      exact hreach

/-- Every run of indivisible calls is a run of the interleaved tasks. -/
theorem atomic_run (run : Run atomicStep Allocates (vMailboxInit rx) cs s) :
    Reaches (step gpioEndpoints) (start rx) (between s) := by
  refine run.invariant (P := fun u => Reaches (step gpioEndpoints) (start rx) (between u)) ?_ ?_
  · exact .refl
  · intro _ u c v _ hreach hallocates hstep
    exact hreach.trans (reaches_atomicStep hallocates hstep)

end Runs

end Esp32Iot.UndisturbedCalls
