import NabtoDevice.Lib.Machine
import NabtoDevice.Lib.Sticky
import NabtoDevice.Spec.Policy
import NabtoDevice.Spec.Iam
import NabtoDevice.Sanity.Policy
import NabtoDevice.Proofs.Iam
import NabtoDevice.Spec.Dtls
import NabtoDevice.Spec.Attacher
import NabtoDevice.Sanity.Attacher
import NabtoDevice.Sanity.AttacherCases
import NabtoDevice.Proofs.Attacher
import NabtoDevice.Lib.Oneshot
import NabtoDevice.Spec.Platform
import NabtoDevice.Spec.Stream
import NabtoDevice.Spec.StreamManager
import NabtoDevice.Sanity.Stream
import NabtoDevice.Proofs.StreamManager
import NabtoDevice.Proofs.Stream
import NabtoDevice.Spec.StreamApi
import NabtoDevice.Sanity.StreamApi
import NabtoDevice.Proofs.StreamApi
import NabtoDevice.Spec.ClientConnection
import NabtoDevice.Proofs.ClientConnection
import NabtoDevice.Lib.Sha256
import NabtoDevice.Proofs.Spake2
import NabtoDevice.Spec.DnsMultiResolver
import NabtoDevice.Spec.Stun
import NabtoDevice.Proofs.Stun
import NabtoDevice.Lib.Traced
import NabtoDevice.Spec.ClientConnectionDispatch
import NabtoDevice.Sanity.ClientConnectionDispatch
import NabtoDevice.Proofs.ClientConnectionDispatch
import NabtoDevice.Proofs.UdpDispatch
import NabtoDevice.Lib.CString
import NabtoDevice.Spec.AttacherNames
import NabtoDevice.Proofs.AttacherNames
import NabtoDevice.Spec.CoapPacketPrinter
import NabtoDevice.Proofs.CoapPacketPrinter
import NabtoDevice.Sanity.DeviceFutures
import NabtoDevice.Proofs.DeviceFutures
import NabtoDevice.Sanity.Listener
import NabtoDevice.Proofs.Listener
import NabtoDevice.Lib.Phases
import NabtoDevice.Sanity.Authorization
import NabtoDevice.Proofs.Authorization
import NabtoDevice.Spec.PasswordRequests
import NabtoDevice.Proofs.PasswordRequests
import NabtoDevice.Spec.CoapRequests
import NabtoDevice.Sanity.CoapRequests
import NabtoDevice.Proofs.CoapRequests
import NabtoDevice.Sanity.CoapServer
import NabtoDevice.Proofs.CoapServer
import NabtoDevice.Proofs.CoapClient
import NabtoDevice.Lib.Stamp
import NabtoDevice.Spec.CoapTimer
import NabtoDevice.Proofs.CoapTimer
import NabtoDevice.Lib.TicketQueue
import NabtoDevice.Spec.DtlsClient
import NabtoDevice.Spec.DtlsServer
import NabtoDevice.Sanity.DtlsClient
import NabtoDevice.Sanity.DtlsServer
import NabtoDevice.Proofs.DtlsClient
import NabtoDevice.Proofs.DtlsServer
import NabtoDevice.Proofs.DtlsClosing
import NabtoDevice.Proofs.DtlsSends
import NabtoDevice.Spec.DtlsSessions
import NabtoDevice.Sanity.DtlsSessions
import NabtoDevice.Proofs.DtlsSessions
import NabtoDevice.Spec.DtlsLifetime
import NabtoDevice.Sanity.DtlsLifetime
import NabtoDevice.Proofs.DtlsLifetime
import NabtoDevice.Lib.ByteOrder
import NabtoDevice.Spec.OpenedConnection
import NabtoDevice.Spec.RoamingConnection
import NabtoDevice.Proofs.OpenedConnection
import NabtoDevice.Proofs.RoamingConnection
import NabtoDevice.Sanity.AttacherMoves
import NabtoDevice.Sanity.AttacherOrder
import NabtoDevice.Spec.ClosedAttacher
import NabtoDevice.Proofs.AttacherClosing
import NabtoDevice.Proofs.ClosedAttacher
import NabtoDevice.Proofs.AttacherActivity
import NabtoDevice.Sanity.AttacherUpdates
import NabtoDevice.Sanity.AttacherRedirects
import NabtoDevice.Proofs.AttacherRedirects
import NabtoDevice.Proofs.AttacherKeepAlive
import NabtoDevice.Lib.VersionedUpload
import NabtoDevice.Spec.AttacherTokens
import NabtoDevice.Spec.AttachRequests
import NabtoDevice.Sanity.AttacherTokens
import NabtoDevice.Proofs.AttacherTokens
import NabtoDevice.Proofs.AttachRequests
import NabtoDevice.Lib.HandleTable
import NabtoDevice.Spec.ConnectionReferences
import NabtoDevice.Sanity.ConnectionReferences
import NabtoDevice.Proofs.ConnectionReferences
import NabtoDevice.Proofs.StreamSends
import NabtoDevice.Spec.TcpTunnelConnection
import NabtoDevice.Sanity.TcpTunnelConnection
import NabtoDevice.Proofs.TcpTunnelConnection
import NabtoDevice.Lib.Relay
import NabtoDevice.Proofs.TcpTunnelRelay
import NabtoDevice.Spec.TcpTunnel
import NabtoDevice.Sanity.TcpTunnel
import NabtoDevice.Lib.Registry
import NabtoDevice.Proofs.TcpTunnelServices
import NabtoDevice.Proofs.TcpTunnelStreams
import NabtoDevice.Lib.Json
import NabtoDevice.Lib.Unordered
import NabtoDevice.Spec.PolicyJson
import NabtoDevice.Spec.IamJson
import NabtoDevice.Sanity.PolicyJson
import NabtoDevice.Proofs.PolicyConditions
import NabtoDevice.Proofs.JsonRoundTrip
import NabtoDevice.Proofs.IamVerdict
import NabtoDevice.Lib.FirstFree
import NabtoDevice.Spec.IamUsers
import NabtoDevice.Sanity.IamUsers
import NabtoDevice.Proofs.IamUsers
import NabtoDevice.Proofs.IamIsolation
import NabtoDevice.Spec.PairingPassword
import NabtoDevice.Proofs.PairingPassword
import NabtoDevice.Lib.PasswordGroup
import NabtoDevice.Spec.CalculateKey
import NabtoDevice.Proofs.CalculateKey
import NabtoDevice.Spec.Spake2Attempts
import NabtoDevice.Proofs.Spake2Attempts
import NabtoDevice.Spec.ListenerInit
import NabtoDevice.Proofs.ListenerInit
import NabtoDevice.Lib.Agenda
import NabtoDevice.Lib.Simulation
import NabtoDevice.Lib.Alternation
import NabtoDevice.Spec.EventQueue
import NabtoDevice.Sanity.EventQueue
import NabtoDevice.Proofs.EventQueue
import NabtoDevice.Spec.ThreadEventQueue
import NabtoDevice.Proofs.ThreadEventQueue
import NabtoDevice.Spec.UnixDns
import NabtoDevice.Proofs.UnixDns
import NabtoDevice.Spec.StreamPackets
import NabtoDevice.Proofs.StreamPackets
import NabtoDevice.Spec.KeepAliveRuns
import NabtoDevice.Spec.MdnsServer
import NabtoDevice.Spec.Rendezvous
import NabtoDevice.Spec.Future
import NabtoDevice.Spec.StreamResets
import NabtoDevice.Spec.AttachEndpoints
import NabtoDevice.Proofs.KeepAlive
import NabtoDevice.Proofs.MdnsServer
import NabtoDevice.Proofs.Rendezvous
import NabtoDevice.Proofs.FutureWait
import NabtoDevice.Proofs.StreamResets
import NabtoDevice.Proofs.DnsResolutions
import NabtoDevice.Proofs.InitialPacket
import NabtoDevice.Lib.Positional
import NabtoDevice.Spec.Hex
import NabtoDevice.Proofs.Hex
import NabtoDevice.Spec.IpAddress
import NabtoDevice.Proofs.IpAddress
import NabtoDevice.Spec.Timestamp
import NabtoDevice.Proofs.Timestamp
import NabtoDevice.Spec.Packet
import NabtoDevice.Proofs.VarUint
import NabtoDevice.Proofs.Transcript
import NabtoDevice.Spec.AppInfo
import NabtoDevice.Proofs.AppInfo
import NabtoDevice.Spec.Device
import NabtoDevice.Proofs.Device
