import Mathlib.Data.BitVec

namespace Esp32Iot.AppState

abbrev EventBits := BitVec 32

def statusConnectedToNetwork : EventBits := BitVec.twoPow 32 0
def statusConnectedToServer : EventBits := BitVec.twoPow 32 1

def xEventGroupSetBits (bits mask : EventBits) : EventBits := bits ||| mask

def xEventGroupClearBits (bits mask : EventBits) : EventBits := bits &&& ~~~mask

def connectedToServer (bits : EventBits) : Bool := decide (bits &&& statusConnectedToServer ≠ 0)

variable {bits mask : EventBits}

theorem connectedToServer_eq : connectedToServer bits = bits.getLsbD 1 := by
  rw [connectedToServer, statusConnectedToServer, BitVec.and_twoPow]
  cases bits.getLsbD 1 <;> decide

theorem connectedToServer_set :
    connectedToServer (xEventGroupSetBits bits statusConnectedToServer) = true := by
  rw [connectedToServer_eq, xEventGroupSetBits, BitVec.getLsbD_or]
  simp [statusConnectedToServer]

theorem connectedToServer_clear :
    connectedToServer (xEventGroupClearBits bits statusConnectedToServer) = false := by
  rw [connectedToServer_eq, xEventGroupClearBits, BitVec.getLsbD_and, BitVec.getLsbD_not]
  simp [statusConnectedToServer]

/-- The bits of another mask do not matter. -/
theorem connectedToServer_set_other (hother : mask.getLsbD 1 = false) :
    connectedToServer (xEventGroupSetBits bits mask) = connectedToServer bits := by
  rw [connectedToServer_eq, connectedToServer_eq, xEventGroupSetBits, BitVec.getLsbD_or, hother,
    Bool.or_false]

theorem connectedToServer_clear_other (hother : mask.getLsbD 1 = false) :
    connectedToServer (xEventGroupClearBits bits mask) = connectedToServer bits := by
  rw [connectedToServer_eq, connectedToServer_eq, xEventGroupClearBits, BitVec.getLsbD_and,
    BitVec.getLsbD_not, hother]
  simp

theorem network_getLsbD_one : statusConnectedToNetwork.getLsbD 1 = false := by
  decide

end Esp32Iot.AppState
