import Esp32Iot.AtomicCalls
import Esp32Iot.Custody
import Esp32Iot.Firmware
import Esp32Iot.Footprint
import Esp32Iot.FrameMessages
import Esp32Iot.FrameOutcomes
import Esp32Iot.FrameReads
import Esp32Iot.GpioCommands
import Esp32Iot.Heartbeat
import Esp32Iot.LatestWins
import Esp32Iot.MailboxCalls
import Esp32Iot.MessageFates
import Esp32Iot.MessageMemory
import Esp32Iot.Segmentation
import Esp32Iot.ServerConnection
import Esp32Iot.StableMemory
import Esp32Iot.StatusSend
import Esp32Iot.TaskOwnership
import Esp32Iot.UndisturbedCalls
import Esp32Iot.HandlerReads
import Esp32Iot.StatusReplies
import Esp32Iot.AnsweredFrames
import Esp32Iot.Connections
import Esp32Iot.AnswerCauses
import Esp32Iot.MessageBlocks
import Esp32Iot.CriticalSection
import Esp32Iot.ReplyCount
import Esp32Iot.SendSteps
import Esp32Iot.TaskProgress
import Esp32Iot.ClientTimers
import Esp32Iot.ClientEvents
import Esp32Iot.Startup
import Esp32Iot.BlockLedger
import Esp32Iot.ClientResources
import Esp32Iot.ClientBlocks
import Esp32Iot.ClientSettings
import Esp32Iot.ClientConfiguring
import Esp32Iot.ClientLifetime
