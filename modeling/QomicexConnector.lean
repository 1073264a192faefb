import QomicexConnector.Library.LabelledRun
import QomicexConnector.Library.CallHistory
import QomicexConnector.Library.NumberedList
import QomicexConnector.Library.WatchChannel
import QomicexConnector.Library.Text
import QomicexConnector.Library.ByteStream
import QomicexConnector.Library.FramedStream
import QomicexConnector.Library.HashMap
import QomicexConnector.Library.KeyedList
import QomicexConnector.Library.TextReader
import QomicexConnector.Library.SocketAddr
import QomicexConnector.Library.AlternatingSum
import QomicexConnector.Library.LockedExchange
import QomicexConnector.Library.ExchangeProgress
import QomicexConnector.Library.Drain
import QomicexConnector.Library.SortByKey
import QomicexConnector.Models
import QomicexConnector.Models.RoomCode
import QomicexConnector.Models.JsonOrder
import QomicexConnector.Core.ProtocolSerializer
import QomicexConnector.Core.LosslessFrames
import QomicexConnector.Center.Protocols
import QomicexConnector.Center.PlayerList
import QomicexConnector.Center.PlayerRegisters
import QomicexConnector.Center.PlayerNotifications
import QomicexConnector.Center.ClientConn
import QomicexConnector.Center.DisconnectMachine
import QomicexConnector.Center.HostServer
import QomicexConnector.Center.ConnLifeCycle
import QomicexConnector.Center.HeartbeatTimeout
import QomicexConnector.Center.TimeoutRace
import QomicexConnector.Center.CancelledConn
import QomicexConnector.Center.SteadyGuests
import QomicexConnector.Center.Shutdown
import QomicexConnector.Center.HostPlayers
import QomicexConnector.Center.ScaffoldingCenter
import QomicexConnector.Center.OpenRoom
import QomicexConnector.Center.DispatchTable
import QomicexConnector.Guest.TcpClient
import QomicexConnector.Guest.HostSession
import QomicexConnector.Guest.ConnectionLost
import QomicexConnector.Guest.Negotiation
import QomicexConnector.Guest.JsonCalls
import QomicexConnector.Guest.NegotiatedKeys
import QomicexConnector.Guest.ScaffoldingGuest
import QomicexConnector.Guest.SessionIsolation
import QomicexConnector.Guest.PlayerWire
import QomicexConnector.Guest.SeenPlayers
import QomicexConnector.Guest.ConnectAttempt
import QomicexConnector.Guest.PortForwards
import QomicexConnector.Guest.PortMapping
import QomicexConnector.Center.PingIdentity
import QomicexConnector.Center.EasytierIds
import QomicexConnector.Center.LockSchedules
import QomicexConnector.Relay.Provider
import QomicexConnector.Easytier.Manager
import QomicexConnector.Easytier.OrphanInstances
import QomicexConnector.Easytier.BindAddress
import QomicexConnector.Client.RelayCache
import QomicexConnector.Client.RelayRefresh
import QomicexConnector.Client.ManagedRooms
import QomicexConnector.Client.RoomCreation
import QomicexConnector.Client.CloseAll
import QomicexConnector.Core.CenterDiscovery
import QomicexConnector.Guest.AddressableCenter
import QomicexConnector.Client.Rendezvous
import QomicexConnector.Client.JoinRoom
import QomicexConnector.Client.RoomRefusal
import QomicexConnector.Relay.NodeOrder
import QomicexConnector.Relay.FetchedNodes
import QomicexConnector.CancellationToken
import QomicexConnector.Relay.LocaleRegion
import QomicexConnector.Guest.Visit
