import FramedTcp.PrefixDecoder
import FramedTcp.Word
import FramedTcp.Frame
import FramedTcp.Corruption
import FramedTcp.FrameParser
import FramedTcp.OrderedMap
import FramedTcp.ReorderBuffer
import FramedTcp.Reassembly
import FramedTcp.SequenceWrap
import FramedTcp.EventSystem
import FramedTcp.ShortWrites
import FramedTcp.FrameHandler
import FramedTcp.FrameBoundaries
import FramedTcp.TcpServer
import FramedTcp.ReceiveLoops
import FramedTcp.ServerWriter
import FramedTcp.TcpClient
import FramedTcp.ClientStreams
import FramedTcp.ReadLoop
import FramedTcp.FrameSplicing
import FramedTcp.TimeoutBoundary
import FramedTcp.ClientReconnect
import FramedTcp.ChecksumGate
import FramedTcp.RpcServer
import FramedTcp.RpcSystem
import FramedTcp.RpcOrder
import FramedTcp.RpcProgress
import FramedTcp.RpcLiveness
import FramedTcp.Demo
import FramedTcp.DemoFlow
import FramedTcp.DemoOrder
import FramedTcp.DemoLiveness
import FramedTcp.DemoWriters
import FramedTcp.ConditionVariable
import FramedTcp.StreamMonitor
import FramedTcp.ClientShutdown
import FramedTcp.ClientProgress
import FramedTcp.HandlerMonitor
import FramedTcp.ClientStatistics
import FramedTcp.StreamDispatch
import FramedTcp.StreamCleanup
import FramedTcp.StreamOrder
import FramedTcp.ServerLifecycle
import FramedTcp.ConnectOrder
import FramedTcp.FailedAccept
import FramedTcp.ServerShutdown
import FramedTcp.TrimmedFields
import FramedTcp.ParamNames
import FramedTcp.Json
import FramedTcp.RpcProvider
import FramedTcp.NamedCalls
import FramedTcp.JsonArguments
import FramedTcp.FunctionRegistry
import FramedTcp.Http2
import FramedTcp.RequestBodies
import FramedTcp.ResponseBody
import FramedTcp.StreamResidue
import FramedTcp.DescriptorTable
import FramedTcp.DemoServer
import FramedTcp.HttpServer
import FramedTcp.ListeningSocket
import FramedTcp.SocketOptions
import FramedTcp.ClientSocket
import FramedTcp.DemoProcess
import FramedTcp.DemoShutdown
