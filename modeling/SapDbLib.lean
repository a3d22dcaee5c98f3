import SapDbLib.Library.Decimal
import SapDbLib.ReadTable
import SapDbLib.Server.Condition
import SapDbLib.Server.Startup
import SapDbLib.Client.Connection
import SapDbLib.Client.InputCheck
import SapDbLib.Client.Display
import SapDbLib.Server.Agreement
import SapDbLib.System.EndToEnd
import SapDbLib.Client.OrderRecord
import SapDbLib.System.OrderRecord
import SapDbLib.Server.LeadingZeros
import SapDbLib.System.GenericRead
import SapDbLib.Client.LeftOver
import SapDbLib.Library.Bytes
import SapDbLib.Library.Utf8
import SapDbLib.Library.Stateful
import SapDbLib.Protocol.DType
import SapDbLib.Protocol.Signature
import SapDbLib.Protocol.TypeSignature
import SapDbLib.Protocol.NetType
import SapDbLib.Protocol.MessageWriter
import SapDbLib.Protocol.MessageReader
import SapDbLib.Protocol.RoundTrip
import SapDbLib.Library.Segments
import SapDbLib.Protocol.Termination
import SapDbLib.Protocol.Header
import SapDbLib.Protocol.Transport
import SapDbLib.Protocol.MessageContainer
import SapDbLib.Library.Correlation
import SapDbLib.Protocol.PendingCalls
import SapDbLib.Protocol.BusObject
import SapDbLib.Protocol.Authentication
import SapDbLib.Server.MethodCalls
import SapDbLib.System.RemoteCalls
