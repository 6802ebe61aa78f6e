import Anbox.Framework.Run
import Anbox.Framework.Framing
import Anbox.Framework.Table
import Anbox.Network.BaseSocketMessenger
import Anbox.Network.SocketConnection
import Anbox.Rpc.Frame
import Anbox.Rpc.MessageProcessor
import Anbox.Rpc.Decoding
import Anbox.Rpc.Protobuf
import Anbox.Rpc.Channel
import Anbox.Rpc.TemplateMessageProcessor
import Anbox.Rpc.PendingCallCache
import Anbox.Rpc.CallCompletion
import Anbox.Rpc.Connection
import Anbox.Qemu.QemudMessageProcessor
import Anbox.Bridge.AndroidApiStub
import Anbox.Bridge.Request
import Anbox.Qemu.AdbMessageProcessor
import Anbox.Qemu.AdbHandshake
import Anbox.Framework.Fifo
import Anbox.Framework.Ring
import Anbox.Common.SmallVector
import Anbox.Graphics.BufferQueue
import Anbox.Graphics.Monitor
import Anbox.Graphics.BufferedIOStream
import Anbox.Graphics.StreamWakeups
import Anbox.Graphics.CommandStream
import Anbox.Graphics.ReplyStream
import Anbox.Framework.Ownership
import Anbox.Framework.Search
import Anbox.Graphics.Renderer
import Anbox.Graphics.RendererHandles
import Anbox.Graphics.RendererOwnership
import Anbox.Graphics.ColorBufferCounts
import Anbox.Framework.Fold
import Anbox.Graphics.Rect
import Anbox.Wm.MultiWindowManager
import Anbox.Wm.FollowedWindows
import Anbox.Wm.FailedWindows
import Anbox.Sdl.Platform
import Anbox.Bridge.Reader
import Anbox.Graphics.HwComposer
import Anbox.Container.Lifecycle
import Anbox.Container.Restart
import Anbox.Framework.MultiTouch
import Anbox.Fydeos.AnboxInput
import Anbox.Fydeos.TouchForwarding
import Anbox.Framework.Pool
import Anbox.Fydeos.WaylandWindow
import Anbox.Fydeos.BufferPool
import Anbox.Framework.Names
import Anbox.Fydeos.BufferObjects
import Anbox.Container.ManagementApi
import Anbox.Android.Intent
import Anbox.Bridge.LaunchApplication
import Anbox.Bridge.ApplicationList
import Anbox.Android.PlatformService
import Anbox.Application.Database
import Anbox.Qemud.Multiplexer
import Anbox.Qemud.EventLoop
import Anbox.Qemud.HookTable
import Anbox.Qemud.Dispatch
import Anbox.Wm.NativeWindows
import Anbox.Fydeos.SeatInput
import Anbox.Input.Device
import Anbox.Framework.Lines
import Anbox.Qemu.CameraMessageProcessor
import Anbox.Common.Utils
import Anbox.Qemu.AtParser
import Anbox.Qemu.LengthHeader
import Anbox.Qemu.PipeConnectionCreator
import Anbox.Android.HostConnector
import Anbox.Framework.Groups
import Anbox.Framework.Scan
import Anbox.Graphics.LayerComposer
import Anbox.Graphics.LayerPlacement
import Anbox.Qemud.FdHandler
import Anbox.Qemud.SerialPort
import Anbox.Qemud.Daemon
import Anbox.Framework.Largest
import Anbox.Graphics.LayerReference
import Anbox.Container.DeviceNode
import Anbox.Container.IdMap
import Anbox.Framework.Occurrences
import Anbox.Graphics.GLExtensions
import Anbox.Common.BinaryWriter
import Anbox.Android.IpConfigBuilder
import Anbox.Graphics.RendererConfig
import Anbox.Application.DesktopEntry
import Anbox.Application.Launchers
import Anbox.Common.SmallVectorMemory
import Anbox.Common.SmallVectorPrograms
import Anbox.Common.ProgramPath
import Anbox.Framework.Tokens
import Anbox.Graphics.ExtensionFilter
import Anbox.Graphics.BoundContexts
import Anbox.Fydeos.PointerPress
import Anbox.Android.AudioHal
import Anbox.Framework.Nesting
import Anbox.Fydeos.ContainerMounts
import Anbox.Sdl.AudioSink
import Anbox.Sdl.TouchInput
import Anbox.Emugen.ChecksumCalculator
import Anbox.Emugen.Decoder
import Anbox.Emugen.Linearization
import Anbox.Emugen.RenderControl
import Anbox.Rpc.Session
import Anbox.Rpc.SessionCalls
import Anbox.Rpc.SessionDelivery
import Anbox.Rpc.SessionRuns
import Anbox.Framework.Memory
import Anbox.Gles2.GL2Encoder
import Anbox.Gles2.GLESv2Decoder
import Anbox.Gles2.MirroredDraws
import Anbox.Gles2.VertexStreaming
import Anbox.Gles2.UniformStreaming
import Anbox.Gles2.ShaderSource
import Anbox.Graphics.Gralloc
