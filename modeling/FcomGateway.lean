import FcomGateway.Siren
import FcomGateway.AlarmFlag
import FcomGateway.Fragmentation
import FcomGateway.Addressing
import FcomGateway.Backlog
import FcomGateway.Publication
import FcomGateway.Confirmation
import FcomGateway.RfMode
import FcomGateway.HeartbeatTasks
import FcomGateway.PlantControl
import FcomGateway.Coverage
import FcomGateway.IndexSafety
import FcomGateway.Burst
import FcomGateway.Grammar
import FcomGateway.ClientHandle
import FcomGateway.AlarmReset
import FcomGateway.Credentials
import FcomGateway.JobDelivery
import FcomGateway.WiredLimiter
import FcomGateway.HeartbeatStore
import FcomGateway.HeartbeatSweep
import FcomGateway.Silence
import FcomGateway.Removal
import FcomGateway.CertificateResponse
import FcomGateway.SsJob
import FcomGateway.Button
import FcomGateway.OtaProcess
import FcomGateway.ReceiveBuffer
import FcomGateway.BleWrite
import FcomGateway.Provisioning
import FcomGateway.CredentialText
import FcomGateway.TableSave
import FcomGateway.Download
import FcomGateway.NetworkSwitch
import FcomGateway.Uuid
import FcomGateway.TickCounter
import FcomGateway.FlashStreams
import FcomGateway.OutgoingText
import FcomGateway.SentPackets
import FcomGateway.MqttReception
import FcomGateway.MqttSession
import FcomGateway.ModemMode
