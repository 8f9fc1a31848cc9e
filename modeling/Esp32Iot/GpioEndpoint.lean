import Esp32Iot.Communication

namespace Esp32Iot.GpioEndpoint

open Esp32Iot.GpioDriver
open Esp32Iot.Mailbox
open Esp32Iot.Communication

def gpioEndpointId : Int := 1

def gpioSetInput : Int := 1
def gpioSetHigh : Int := 2
def gpioSetLow : Int := 3
def gpioReset : Int := 5

def gpioNumberIndex : Nat := 0

def gpioNumber (pData : List UInt8) : Int := charAt pData gpioNumberIndex

def writeLevel (pin level : Int) : List GpioCall :=
  [.resetPin pin, .padSelectGpio pin, .setDirection pin .output, .setLevel pin level]

def vMessageHandler (message : XMailboxMessage) (pData : List UInt8) : HandlerRun :=
  if message.messageType = gpioSetInput then
    { calls := [], status := msgOk }
  else if message.messageType = gpioSetHigh then
    { calls := writeLevel (gpioNumber pData) 1, status := msgOk }
  else if message.messageType = gpioSetLow then
    { calls := writeLevel (gpioNumber pData) 0, status := msgOk }
  else if message.messageType = gpioReset then
    { calls := [], status := msgOk }
  else
    { calls := [], status := errUnsuportedMessageType }

/-- Run a handler body on a message pointer: read the message and its body,
perform the calls, then call `onRecieve` with the resulting status. -/
def asMsgHandler (endpointId : Int)
    (handler : XMailboxMessage → List UInt8 → HandlerRun) : XMailboxMsgHandler :=
  fun pMessage s => do
    let message ← s.message? pMessage
    let pData ← s.body? message.pData
    let run := handler message pData
    callOnRecieve pMessage run.status
      (s.log (.handled endpointId pMessage.serial message pData run.calls))

def vEndpointTaskGPIO (s : SharedState) : Option SharedState :=
  vMailboxRecieve gpioEndpointId (asMsgHandler gpioEndpointId vMessageHandler) s

end Esp32Iot.GpioEndpoint
