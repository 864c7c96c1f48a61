import PyTokio.F64
import PyTokio.Utils
import PyTokio.EventLoop.Clock
import PyTokio.EventLoop.Core
import PyTokio.EventLoop.Settings
import PyTokio.Transport.Framed
import PyTokio.Transport.TcpTransport
import PyTokio.Transport.Connection
import PyTokio.Transport.Protocol
import PyTokio.Http.Dispatcher
import PyTokio.Server.AcceptLoop
import PyTokio.Server.Create
import PyTokio.EventLoop.Network
