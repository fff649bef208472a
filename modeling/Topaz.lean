import Topaz.Machine
import Topaz.Vk.FrameAdmin
import Topaz.Vk.Sync
import Topaz.Vk.Wait
import Topaz.Buffer
import Topaz.Vk.Bounds
import Topaz.Draws
import Topaz.Geometry
import Topaz.Regions
import Topaz.Ogl.Renderer
import Topaz.Resource
import Topaz.Vk.Renderer
import Topaz.Vk.Coherence
import Topaz.Vk.Resize
import Topaz.Backends
import Topaz.DrawOrder
import Topaz.Vk.OutOfDate
import Topaz.EnumField
import Topaz.VertexLayout
import Topaz.Descriptors
import Topaz.Ogl.Context
import Topaz.Vk.Device
import Topaz.Vk.Image
import Topaz.Vk.RenderPass
import Topaz.Splice
import Topaz.Tzslc.Transform
import Topaz.Tzslc.Preprocessor
import Topaz.Core.Matrix
import Topaz.Core.Product
import Topaz.Core.Inverse
import Topaz.Core.Transpose
import Topaz.Core.Transform
import Topaz.Core.Projection
import Topaz.Vk.Finalise
import Topaz.Vk.Memory
import Topaz.Vk.LayoutBuilder
import Topaz.PolymorphicList
import Topaz.Vk.DeviceFilter
import Topaz.Vk.Swapchain
import Topaz.Vk.DeviceSelection
import Topaz.Vk.CommandPool
import Topaz.Core.Version
import Topaz.Core.Window
import Topaz.Vk.Recording
import Topaz.Ogl.Move
import Topaz.Core.VectorEquality
import Topaz.Handle
import Topaz.Texture
import Topaz.Frame
import Topaz.Interleaving
import Topaz.Vk.Transfer
import Topaz.Vk.Scratch
import Topaz.Vk.InFlight
import Topaz.PartialMap
import Topaz.Sharing.Components
import Topaz.Sharing.Refinement
import Topaz.Tzslc.Main
import Topaz.Image
import Topaz.Ownership
import Topaz.Vk.Objects
