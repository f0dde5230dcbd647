import Rmuduo.Lib.Bytes
import Rmuduo.Lib.OrderedMap
import Rmuduo.Lib.Reader
import Rmuduo.Lib.System
import Rmuduo.Lib.Text
import Rmuduo.Lib.Demux
import Rmuduo.Lib.ExpiringStore
import Rmuduo.Lib.Copy
import Rmuduo.Lib.Recent
import Rmuduo.Rtmp.Types
import Rmuduo.Rtmp.ChunkParser
import Rmuduo.Rtmp.ChunkReader
import Rmuduo.Rtmp.Segmentation
import Rmuduo.Rtmp.ChunkWriter
import Rmuduo.Rtmp.WriterAgreement
import Rmuduo.Rtmp.Relay
import Rmuduo.Rtmp.ChunkStreams
import Rmuduo.Rtmp.Documented
import Rmuduo.Rtmp.Amf0
import Rmuduo.Rtmp.Command
import Rmuduo.Rtmp.Session
import Rmuduo.Rtmp.Server
import Rmuduo.Rtmp.ServerRun
import Rmuduo.Rtmp.SessionStore
import Rmuduo.Rtmp.PublisherBinding
import Rmuduo.Rtmp.Occupancy
import Rmuduo.Rtmp.Authorization
import Rmuduo.Rtmp.Membership
import Rmuduo.Rtmp.MemberAgreement
import Rmuduo.Rtmp.Departure
import Rmuduo.Rtmp.MediaCache
import Rmuduo.Rtmp.MediaFlow
import Rmuduo.Rtmp.LateJoin
import Rmuduo.Rtmp.DecodeContext
import Rmuduo.Rtmp.DepartedReplay
import Rmuduo.Rtmp.Loops
import Rmuduo.Rtmp.Registration
import Rmuduo.Rtmp.Handshake
import Rmuduo.Rtmp.HandshakeSegments
import Rmuduo.Rtmp.OnMessage
import Rmuduo.Rtmp.FailStop
import Rmuduo.Rtmp.ChunkSizeChange
import Rmuduo.Rtmp.TransportFrame
import Rmuduo.Rtmp.ProtocolError
import Rmuduo.Rtmp.Decoding
import Rmuduo.Rtmp.ReceivedBytes
import Rmuduo.Auth.AuthTypes
import Rmuduo.Auth.RtmpTicketManager
import Rmuduo.Api.JsonResponse
import Rmuduo.Auth.LoginServer
import Rmuduo.Rtmp.TicketUrl
import Rmuduo.Http.HttpRequest
import Rmuduo.Http.HttpContext
import Rmuduo.Http.WireFormat
import Rmuduo.Http.Soundness
import Rmuduo.Http.HttpServer
import Rmuduo.Http.Pipelining
import Rmuduo.Http.HeaderCase
import Rmuduo.Http.AfterClose
import Rmuduo.Net.Buffer
import Rmuduo.Net.BufferQueue
import Rmuduo.Net.Channel
import Rmuduo.Net.EPollPoller
import Rmuduo.Lib.FdTable
import Rmuduo.Net.Acceptor
import Rmuduo.Net.TcpConnection
import Rmuduo.Net.OrderedOutput
import Rmuduo.Lib.SortedSet
import Rmuduo.Net.TimerQueue
import Rmuduo.Net.TimerOwnership
import Rmuduo.Net.TimerCancellation
import Rmuduo.Net.TimerArming
import Rmuduo.Net.EventLoop
import Rmuduo.Net.Wakeup
import Rmuduo.Net.Quit
import Rmuduo.Net.Lifecycle
import Rmuduo.Auth.TokenManager
import Rmuduo.Lib.SecondaryIndex
import Rmuduo.Auth.UserStore
import Rmuduo.Auth.AuthService
import Rmuduo.Api.JsonRequest
import Rmuduo.Api.JsonGrammar
import Rmuduo.Api.JsonFields
import Rmuduo.Rtmp.RejectedRequest
import Rmuduo.Rtmp.ChunkBounds
import Rmuduo.Lib.Delimited
import Rmuduo.Rtmp.Amf0Framing
import Rmuduo.Rtmp.ChunkCount
import Rmuduo.Rtmp.ChunkProgress
import Rmuduo.Rtmp.ParsedMessages
import Rmuduo.Rtmp.OutputStream
import Rmuduo.Rtmp.ClientView
import Rmuduo.Rtmp.ClientReads
import Rmuduo.Api.Router
import Rmuduo.Auth.LoginApi
import Rmuduo.Auth.LoginTrace
import Rmuduo.Rtmp.Questions
import Rmuduo.Auth.LoginProcess
import Rmuduo.Lib.Lines
import Rmuduo.Http.ResponseReader
import Rmuduo.Http.ResponseStream
import Rmuduo.Lib.Json
import Rmuduo.Api.JsonAnswers
import Rmuduo.Auth.LoginAnswers
import Rmuduo.Net.TcpServer
import Rmuduo.Net.ServerConnections
import Rmuduo.Net.ServerClosing
import Rmuduo.Rtmp.EndToEnd
import Rmuduo.Lib.Gate
import Rmuduo.Net.EventLoopThreadPool
import Rmuduo.Auth.LoginEntitled
import Rmuduo.Net.TimerFiring
import Rmuduo.Net.FlowControl
