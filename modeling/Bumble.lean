import Bumble.ByteOrder
import Bumble.Outcome
import Bumble.Chunks
import Bumble.FifoNet
import Bumble.PartyLog
import Bumble.OrderedMap
import Bumble.GoBackN
import Bumble.GoBackNRecovery
import Bumble.L2capFrame
import Bumble.ErtmEngine
import Bumble.ErtmEngineCalls
import Bumble.ErtmSegmentation
import Bumble.ErtmStall
import Bumble.ErtmRefinement
import Bumble.ErtmDelivery
import Bumble.ErtmSingleLoss
import Bumble.LeCreditChannel
import Bumble.LeCreditManager
import Bumble.LeCreditCalls
import Bumble.LeCreditIntegrity
import Bumble.LeCreditGrants
import Bumble.LeCreditIdentifiers
import Bumble.RfcommFrame
import Bumble.RfcommMux
import Bumble.RfcommTransmit
import Bumble.RfcommEvents
import Bumble.RfcommSession
import Bumble.RfcommCredits
import Bumble.RfcommStream
import Bumble.ClassicChannel
import Bumble.ClassicManager
import Bumble.ClassicCalls
import Bumble.ClassicLifecycle
import Bumble.ClassicRenegotiation
import Bumble.ErtmSizes
import Bumble.ClassicSendable
import Bumble.RfcommCalls
import Bumble.RfcommRobust
import Bumble.RfcommHandshake
import Bumble.RfcommTeardown
import Bumble.AclFragments
import Bumble.AclReassembly
import Bumble.Aes128
import Bumble.SmpToolbox
import Bumble.SmpPdu
import Bumble.SmpPairing
import Bumble.SmpTestSetup
import Bumble.SmpDistribution
import Bumble.ScSession
import Bumble.ScSteps
import Bumble.ScTranscript
import Bumble.ScRounds
import Bumble.ScAuthentication
import Bumble.ScOobSecret
import Bumble.ScAgreement
import Bumble.LegacySession
import Bumble.LegacyTranscript
import Bumble.LegacyRuns
import Bumble.SmpBond
import Bumble.KeyPhases
import Bumble.Reflection
import Bumble.KeyMirror
import Bumble.PairingAgreement
import Bumble.ScHonest
import Bumble.ScHonestRun
import Bumble.StepRuns
import Bumble.AvdtpMessage
import Bumble.AvdtpSession
import Bumble.AvdtpReplay
import Bumble.AvdtpFraming
import Bumble.AvdtpRoundTrip
import Bumble.ExternalHost
import Bumble.HostDelivery
import Bumble.HostCommandFlow
import Bumble.OctetReader
import Bumble.AvcFrame
import Bumble.AvrcpMessage
import Bumble.AvrcpResponse
import Bumble.AvctpMessage
import Bumble.AvrcpRuntime
import Bumble.AvrcpLabels
import Bumble.AvrcpAnswers
import Bumble.AvctpRoundTrip
import Bumble.AvrcpCodec
import Bumble.AvrcpRoundTrip
import Bumble.PacketQueue
import Bumble.FramedStream
import Bumble.PacketFraming
import Bumble.PacketChunking
import Bumble.DeviceQueues
import Bumble.QueueRuns
import Bumble.QueueStall
import Bumble.QueueHandles
import Bumble.DeviceKeys
import Bumble.BondReuse
import Bumble.ChangeCounter
import Bumble.AudioControls
import Bumble.DecimalText
import Bumble.AncsResponse
import Bumble.AncsClient
import Bumble.KeyStores
import Bumble.KeyStoreAgreement
import Bumble.FirstMatch
import Bumble.ControllerState
import Bumble.ControllerLinks
import Bumble.ControllerIso
import Bumble.ControllerClassic
import Bumble.ControllerRuns
import Bumble.HandleGrants
import Bumble.ControllerHandles
import Bumble.KeyNamespaces
import Bumble.L2capCodec
import Bumble.ClassicPsm
import Bumble.ClassicConfiguration
import Bumble.LeCreditReconfigure
import Bumble.HciDataPackets
import Bumble.RfcommCodec
import Bumble.AttPdu
import Bumble.GattDatabase
import Bumble.GattListing
import Bumble.GattServer
import Bumble.GattQueuedWrites
import Bumble.GattClient
import Bumble.AttCodec
import Bumble.AvcCodec
import Bumble.ReaderInversion
import Bumble.AvrcpReencoding
import Bumble.AvrcpInverse
import Bumble.SdpElement
import Bumble.SdpIntegers
import Bumble.SdpRoundTrip
import Bumble.SdpPdu
import Bumble.SdpResend
import Bumble.SdpServer
import Bumble.SdpSelection
import Bumble.SdpResponses
import Bumble.RtpPacket
import Bumble.SbcMedia
import Bumble.BitOctets
import Bumble.AacCodecs
import Bumble.AacMedia
import Bumble.AacLatm
import Bumble.RtpCodec
import Bumble.OggOpus
import Bumble.AtParameters
import Bumble.AtQuoting
import Bumble.DelimitedStream
import Bumble.AtStreams
import Bumble.IsoReassembly
import Bumble.AdvertisingData
import Bumble.Snoop
import Bumble.ShiftRegister
import Bumble.ExactReader
import Bumble.ProfileReader
import Bumble.Bass
import Bumble.L2capFcs
import Bumble.RfcommFcs
import Bumble.LengthEntries
import Bumble.HciCursor
import Bumble.CheckedRun
import Bumble.RtkFirmware
import Bumble.LeAudio
import Bumble.Ascs
import Bumble.Bap
import Bumble.CisCreation
import Bumble.Hid
import Bumble.ClassicReceived
import Bumble.HidTransport
import Bumble.SignedWrites
import Bumble.AncsReassembly
