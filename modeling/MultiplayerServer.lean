import MultiplayerServer.Machinery.Runs
import MultiplayerServer.Machinery.Overlay
import MultiplayerServer.Machinery.Ledger
import MultiplayerServer.Machinery.Asserts
import MultiplayerServer.Machinery.Alike
import MultiplayerServer.Machinery.Custody
import MultiplayerServer.Machinery.Decimal
import MultiplayerServer.Machinery.Entries
import MultiplayerServer.Machinery.Slots
import MultiplayerServer.Machinery.Substr
import MultiplayerServer.Machinery.Simulation
import MultiplayerServer.Machinery.Progress
import MultiplayerServer.Machinery.Yield
import MultiplayerServer.Machinery.Duplex
import MultiplayerServer.Network.Connection
import MultiplayerServer.Network.AsioTcpConnection
import MultiplayerServer.Network.ConnectionRuns
import MultiplayerServer.Network.Closing
import MultiplayerServer.Network.Reconnect
import MultiplayerServer.Network.SendQueue
import MultiplayerServer.Network.ReceiveStream
import MultiplayerServer.Network.ConnectRace
import MultiplayerServer.Network.AsioServer
import MultiplayerServer.Network.AcceptLoop
import MultiplayerServer.Network.Serving
import MultiplayerServer.Network.WriteSlot
import MultiplayerServer.Network.BlockingTransfer
import MultiplayerServer.Network.Lifecycle
import MultiplayerServer.Network.ShortWrites
import MultiplayerServer.Network.Reentry
import MultiplayerServer.Network.ThreadPool
import MultiplayerServer.Network.Talk
import MultiplayerServer.Network.ReadChain
import MultiplayerServer.Network.Draining
import MultiplayerServer.Network.Fates
import MultiplayerServer.Network.Settling
import MultiplayerServer.Config.GameConfig
import MultiplayerServer.Config.Json
import MultiplayerServer.Config.Loading
import MultiplayerServer.Config.Sections
import MultiplayerServer.Config.Reloading
import MultiplayerServer.Config.ConfigPath
import MultiplayerServer.Config.Loadable
import MultiplayerServer.Config.LastGiven
import MultiplayerServer.Config.Members
import MultiplayerServer.Config.PropertyTree
import MultiplayerServer.Config.BackEnds
import MultiplayerServer.Config.BackEndsAgree
import MultiplayerServer.Config.Document
import MultiplayerServer.Log.SpdlogLogger
import MultiplayerServer.Log.LoggerSettings
import MultiplayerServer.Log.LoggerManager
import MultiplayerServer.Log.LoggerPattern
import MultiplayerServer.Log.LoggerLevels
import MultiplayerServer.Log.LoggerMessages
import MultiplayerServer.Game.Entity
import MultiplayerServer.Game.Ownership
import MultiplayerServer.Game.EntityFactory
import MultiplayerServer.Game.LoginService
import MultiplayerServer.Game.GameMain
import MultiplayerServer.Game.Accepting
import MultiplayerServer.Game.Disconnecting
import MultiplayerServer.Game.EntityProxy
import MultiplayerServer.Game.Destroying
import MultiplayerServer.Game.Removal
import MultiplayerServer.Game.ServiceComponents
import MultiplayerServer.Game.ServiceLookup
import MultiplayerServer.Game.Shutdown
import MultiplayerServer.Game.ComponentTypes
import MultiplayerServer.Game.Startup
import MultiplayerServer.Game.Positions
import MultiplayerServer.Game.Locality
import MultiplayerServer.Process.Main
import MultiplayerServer.Process.Clients
