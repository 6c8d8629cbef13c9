import Sesivo.Server.ChatHistory
import Sesivo.Server.AdminRequest
import Sesivo.Client.Secrecy
import Sesivo.Server.Registration
import Sesivo.Client.ControlReplay
import Sesivo.Client.AudioAgreement
import Sesivo.Client.JitterTarget
import Sesivo.Server.FanOutDelivery
import Sesivo.Client.Delivery
import Sesivo.Server.EndpointTable
import Sesivo.Server.TokenBuckets
import Sesivo.RedundantEncoder
import Sesivo.Client.ChatList
import Sesivo.Client.ChatGaps
import Sesivo.Server.TicketSize
import Sesivo.HandoffAck
import Sesivo.Client.LossEstimate
import Sesivo.Client.SendFraming
import Sesivo.Client.ParticipantManager
import Sesivo.Client.Metronome
import Sesivo.Client.PingPath
import Sesivo.Client.ClockOffset
import Sesivo.Client.CongestionPolicy
import Sesivo.Client.Occupancy
