import UsbOverNetwork.Library.Runs
import UsbOverNetwork.Library.Bytes
import UsbOverNetwork.Library.Subnet
import UsbOverNetwork.Library.Text
import UsbOverNetwork.Library.Layout
import UsbOverNetwork.Library.Keyed
import UsbOverNetwork.Library.Pipeline
import UsbOverNetwork.Common.Network
import UsbOverNetwork.Common.Addresses
import UsbOverNetwork.Common.Auth
import UsbOverNetwork.Common.Protocol
import UsbOverNetwork.Common.Codec
import UsbOverNetwork.Server.UsbHost
import UsbOverNetwork.Server.DeviceList
import UsbOverNetwork.Server.Enumeration
import UsbOverNetwork.Server.UrbHandler
import UsbOverNetwork.Server.UrbSystem
import UsbOverNetwork.Server.ClientManager
import UsbOverNetwork.Server.ClientRequests
import UsbOverNetwork.Server.UrbSession
import UsbOverNetwork.Server.UrbReplies
import UsbOverNetwork.Server.UrbStream
import UsbOverNetwork.Server.Attachment
import UsbOverNetwork.Server.Main
import UsbOverNetwork.Server.MainLoop
import UsbOverNetwork.Server.Noninterference
import UsbOverNetwork.Client.RemoteDevice
import UsbOverNetwork.Server.ClientCalls
import UsbOverNetwork.Server.Bookkeeping
import UsbOverNetwork.Server.Handover
import UsbOverNetwork.Server.WholeCalls
import UsbOverNetwork.Gui.ServerGui
import UsbOverNetwork.Gui.DeviceView
import UsbOverNetwork.Gui.AcceptThread
import UsbOverNetwork.Gui.FrontEnds
import UsbOverNetwork.Gui.WholeSessions
import UsbOverNetwork.Server.UrbTransfer
import UsbOverNetwork.Server.UrbTrace
import UsbOverNetwork.Server.UrbData
import UsbOverNetwork.Server.UrbService
import UsbOverNetwork.Gui.ClientGui
import UsbOverNetwork.Server.UrbLimits
import UsbOverNetwork.Server.Isochronous
import UsbOverNetwork.Server.DeviceListCalls
import UsbOverNetwork.Client.Vhci
import UsbOverNetwork.Client.RemoteDeviceList
import UsbOverNetwork.Client.DriverLog
import UsbOverNetwork.Server.Refresh
import UsbOverNetwork.Server.ImportUndo
import UsbOverNetwork.Server.LoopSimulation
import UsbOverNetwork.Server.EarlierClients
import UsbOverNetwork.Library.Options
import UsbOverNetwork.Server.Startup
import UsbOverNetwork.Server.DeviceFilter
import UsbOverNetwork.Server.ClientRegistry
import UsbOverNetwork.Client.ListDecoder
import UsbOverNetwork.Client.SocketCloses
import UsbOverNetwork.Client.HeaderChecks
import UsbOverNetwork.Client.Discovery
import UsbOverNetwork.Gui.Discovery
import UsbOverNetwork.Gui.LocalNetwork
import UsbOverNetwork.Server.UsbHandles
import UsbOverNetwork.Server.StringDescriptor
import UsbOverNetwork.Common.StreamTransfer
import UsbOverNetwork.Common.TimedReceive
import UsbOverNetwork.Server.UrbQueue
import UsbOverNetwork.Library.Ledger
import UsbOverNetwork.Library.LinkedQueue
import UsbOverNetwork.Gui.DiscoveryDialog
import UsbOverNetwork.Client.Main
import UsbOverNetwork.Client.Commands
import UsbOverNetwork.Client.AttachExchange
import UsbOverNetwork.Server.QueueThreads
import UsbOverNetwork.Server.WakeUp
import UsbOverNetwork.Server.LockOrder
import UsbOverNetwork.Gui.HandlerThread
import UsbOverNetwork.Gui.HandOff
import UsbOverNetwork.Gui.TokenEntry
import UsbOverNetwork.Library.LockCount
import UsbOverNetwork.Server.LockedList
import UsbOverNetwork.Server.LockBalance
