import Esp32Iot.TaskSteps

namespace Esp32Iot.FrameMessages

open Esp32Iot.Mailbox
open Esp32Iot.Communication
open Esp32Iot.TaskSteps

def frameMessage (frame : List UInt8) (pData : Nat) : XMailboxMessage :=
  messageOf ⟨frame, frame.length⟩ pData

def frameEndpointId (frame : List UInt8) : Int :=
  charAt frame c11nMessageHeaderEndpointIdIndex

@[simp] theorem frameMessage_endpointId {frame : List UInt8} {pData : Nat} :
    (frameMessage frame pData).endpointId = frameEndpointId frame := rfl

def frameBody (frame : List UInt8) : List UInt8 := frame.drop c11nMessageHeaderLength

theorem frame_later {frames : List (List UInt8)} {bytes frame : List UInt8} {k : Nat}
    (h : frames[k]? = some frame) : (frames ++ [bytes])[k]? = some frame := by
  rw [List.getElem?_append_left (List.getElem?_eq_some_iff.mp h).1]
  exact h

/-- A complete header and at least one byte of body. -/
def FrameComplete (frame : List UInt8) : Prop := c11nMessageHeaderLength < frame.length

instance (frame : List UInt8) : Decidable (FrameComplete frame) :=
  inferInstanceAs (Decidable (_ < _))

theorem charAt_append {frame rest : List UInt8} {i : Nat} (hi : i < frame.length) :
    charAt (frame ++ rest) i = charAt frame i := by
  simp [charAt, List.getD_eq_getElem?_getD, List.getElem?_append_left hi]

theorem messageOf_append {frame rest : List UInt8} (hframe : FrameComplete frame)
    (pData : Nat) :
    messageOf ⟨frame ++ rest, frame.length⟩ pData = frameMessage frame pData := by
  unfold FrameComplete c11nMessageHeaderLength at hframe
  have hendpoint : charAt (frame ++ rest) 0 = charAt frame 0 := charAt_append (by omega)
  have hid : charAt (frame ++ rest) 1 = charAt frame 1 := charAt_append (by omega)
  have htype : charAt (frame ++ rest) 2 = charAt frame 2 := charAt_append (by omega)
  simp only [frameMessage, messageOf, EspWebsocketEventData.dataLength,
    EspWebsocketEventData.endpointId, EspWebsocketEventData.messageId,
    EspWebsocketEventData.messageType, c11nMessageHeaderEndpointIdIndex,
    c11nMessageHeaderMessageIdIndex, c11nMessageHeaderMessageTypeIndex,
    hendpoint, hid, htype]

theorem body_append {frame rest : List UInt8} (hframe : FrameComplete frame) :
    (EspWebsocketEventData.mk (frame ++ rest) frame.length).dataBodyPtr.take
        (EspWebsocketEventData.mk (frame ++ rest) frame.length).dataLength.toNat =
      frameBody frame := by
  unfold FrameComplete at hframe
  have hlength : ((frame.length : Int) - (c11nMessageHeaderLength : Int)).toNat =
      frame.length - c11nMessageHeaderLength := by omega
  simp only [EspWebsocketEventData.dataBodyPtr, EspWebsocketEventData.dataLength, hlength,
    frameBody]
  rw [List.drop_append_of_le_length (by omega)]
  rw [← List.length_drop, List.take_left]

/-- The receive buffer starts with the newest frame, which is `len` bytes long. -/
structure Current (s : SharedState) (len : Int) (frame : List UInt8) : Prop where
  buffer : ∃ rest, s.rxBuffer = frame ++ rest
  length : len = frame.length
  newest : s.frames[s.frames.length - 1]? = some frame

theorem current_readFrame {s : SharedState} {frame : List UInt8} :
    Current (readFrame frame s) frame.length frame where
  buffer := ⟨s.rxBuffer.drop frame.length, rfl⟩
  length := rfl
  newest := by simp [readFrame]

/-- Memory for a body is only ever given to a frame that has one. -/
theorem Current.frameComplete {s : SharedState} {len : Int} {frame : List UInt8}
    (h : Current s len frame) (hpositive : 0 < (dataEvent s len).dataLength) :
    FrameComplete frame := by
  have hlength := h.length
  simp only [dataEvent, EspWebsocketEventData.dataLength] at hpositive
  unfold FrameComplete
  omega

theorem Current.messageOf {s : SharedState} {len : Int} {frame : List UInt8}
    (h : Current s len frame) (hframe : FrameComplete frame) (pData : Nat) :
    messageOf (dataEvent s len) pData = frameMessage frame pData := by
  obtain ⟨rest, hbuffer⟩ := h.buffer
  rw [dataEvent, hbuffer, h.length]
  exact messageOf_append hframe pData

theorem Current.body {s : SharedState} {len : Int} {frame : List UInt8}
    (h : Current s len frame) (hframe : FrameComplete frame) :
    (dataEvent s len).dataBodyPtr.take (dataEvent s len).dataLength.toNat =
      frameBody frame := by
  obtain ⟨rest, hbuffer⟩ := h.buffer
  rw [dataEvent, hbuffer, h.length]
  exact body_append hframe

theorem Current.transfer {s s' : SharedState} {len : Int} {frame : List UInt8}
    (h : Current s len frame) (hbuffer : s'.rxBuffer = s.rxBuffer)
    (hframes : s'.frames = s.frames) : Current s' len frame where
  buffer := hbuffer ▸ h.buffer
  length := h.length
  newest := hframes ▸ h.newest

section Guards

variable {ι : Type*}

def allocates : WebsocketPc → Bool
  | .mallocMessage _ | .clone _ _ => true
  | _ => false

def copies : WebsocketPc → Bool
  | .clone _ _ => true
  | _ => false

def BodyCopied (s : State ι) : Action ι → Prop
  | .websocket env => copies s.websocket = true → env.malloc.isSome = true
  | .frame _ | .endpoint _ _ => True

def WellFormed (s : State ι) : Action ι → Prop
  | .frame bytes => FrameComplete bytes
  | .websocket env => allocates s.websocket = true → env.malloc.isSome = true
  | .endpoint _ _ => True

instance (s : State ι) : (a : Action ι) → Decidable (WellFormed s a)
  | .frame bytes => inferInstanceAs (Decidable (FrameComplete bytes))
  | .websocket env =>
      inferInstanceAs (Decidable (allocates s.websocket = true → env.malloc.isSome = true))
  | .endpoint _ _ => inferInstanceAs (Decidable True)

instance (s : State ι) : (a : Action ι) → Decidable (BodyCopied s a)
  | .websocket env =>
      inferInstanceAs (Decidable (copies s.websocket = true → env.malloc.isSome = true))
  | .frame _ | .endpoint _ _ => inferInstanceAs (Decidable True)

theorem WellFormed.bodyCopied {s : State ι} {a : Action ι} (h : WellFormed s a) :
    BodyCopied s a := by
  cases a with
  | websocket env =>
      intro hcopies
      apply h
      cases hpc : s.websocket <;> simp_all [copies, allocates]
  | _ => trivial

end Guards

end Esp32Iot.FrameMessages
