import Topaz.Vk.FrameAdmin
import Topaz.Geometry
import Topaz.Resource

/-!
# Topaz.Vk.Renderer

`RendererVulkan`: what its constructor and its operations do to the objects it
owns.

Vulkan objects that get replaced (image views, pipelines, depth images, indirect
buffers) are told apart by numbers that are never used twice.  A command buffer is
what was last recorded in it: the objects bound there, and the two indirect draws
with the buffer and the count they were recorded with.

The managers of the source (`RendererImageManagerVulkan`,
`RendererProcessorVulkan`, ...) are one flat record here.  The calls an operation
makes wait for the GPU where the source does; which fences they wait on is the
matter of `Topaz.Vk.FrameAdmin`.
-/

namespace Topaz
namespace Vk

/-! ## objects -/

/-- A view of a swapchain image: the swapchain it belongs to and its index there. -/
structure ImageView where
  swapchain : Nat
  index : Nat
deriving DecidableEq, Repr

/-- A framebuffer: the view it was built from and the depth image attached to it. -/
structure Framebuffer where
  view : ImageView
  depthImageview : Option Nat
deriving DecidableEq, Repr

/-- A clear colour, as the bits of its four floats. -/
structure ClearColour where
  red : BitVec 32
  green : BitVec 32
  blue : BitVec 32
  alpha : BitVec 32
deriving DecidableEq, Repr

/-- An indirect buffer. -/
structure IndirectBuffer where
  id : Nat
  contents : Buffer DrawIndirectCommand
deriving DecidableEq

/-- A recorded `vkCmdDrawIndexedIndirect`: the buffer it reads and how many commands
it draws. -/
structure DrawIndirect where
  buffer : Nat
  drawCount : BitVec 32
deriving DecidableEq, Repr

/-- What `record_rendering_commands` records for a view. -/
structure Recording where
  framebuffer : Option Framebuffer
  clearColour : ClearColour
  pipeline : Nat
  descriptorSet : Option Nat
  drawIndirect : Option DrawIndirect
  drawIndirectDynamic : Option DrawIndirect
deriving DecidableEq, Repr

/-- The recorded draw of an access. -/
def Recording.drawOf (c : Recording) : RendererInputDataAccess → Option DrawIndirect
  | .staticFixed => c.drawIndirect
  | .dynamicFixed => c.drawIndirectDynamic

/-! ## the renderer -/

/-- What a renderer is built with. -/
structure RendererConfig where
  headless : Bool
  inputs : List RendererInput
  resources : List Resource
  requiresDepthImage : Bool
  viewCount : Nat

/-- A Vulkan renderer.  `views` are the views of the device's swapchain (in headless
mode, the one view of the offscreen image); `descriptorSets` is the number of sets
of the descriptor pool, if there is one; a command buffer without a recording is
`none`. -/
structure RendererVulkan where
  headless : Bool
  inputs : List RendererInput
  resources : List Resource
  requiresDepthImage : Bool
  clearColour : ClearColour
  views : List ImageView
  pipeline : Nat
  depthImageview : Option Nat
  swapchainFramebuffers : List Framebuffer
  descriptorSets : Option Nat
  commandPool : List (Option Recording)
  drawIndirectBuffer : Option IndirectBuffer
  drawIndirectDynamicBuffer : Option IndirectBuffer
  drawCache : RendererDrawList
  frameCounter : Nat
  nextId : Nat

/-- The views of a swapchain with `count` images. -/
def swapchainViews (swapchain count : Nat) : List ImageView :=
  (List.range count).map fun index => ⟨swapchain, index⟩

namespace RendererVulkan

/-- The indirect buffer of an access. -/
def indirectOf (r : RendererVulkan) : RendererInputDataAccess → Option IndirectBuffer
  | .staticFixed => r.drawIndirectBuffer
  | .dynamicFixed => r.drawIndirectDynamicBuffer

def getViewCount (r : RendererVulkan) : Nat := if r.headless then 1 else r.views.length

/-- The frame depth of the frame admin: `RendererVulkan::frames_in_flight` is 2. -/
def frameDepth (r : RendererVulkan) : Nat := if r.headless then 1 else 2

/-- `num_static_draws` and `num_dynamic_draws`. -/
def numDraws (r : RendererVulkan) (a : RendererInputDataAccess) : BitVec 64 :=
  numDrawsOf a r.inputs r.drawCache

def drawsMatchCache (r : RendererVulkan) (draws : RendererDrawList) : Bool := r.drawCache = draws

/-- One command buffer for each view, and a scratch one after them. -/
def initialiseCommandPool (r : RendererVulkan) : RendererVulkan :=
  { r with commandPool := List.replicate (r.getViewCount + 1) none }

def setupDepthImage (r : RendererVulkan) : RendererVulkan :=
  { r with depthImageview := some r.nextId, nextId := r.nextId + 1 }

def setupSwapchainFramebuffers (r : RendererVulkan) : RendererVulkan :=
  { r with swapchainFramebuffers := r.views.map fun view => ⟨view, r.depthImageview⟩ }

def reconstructPipeline (r : RendererVulkan) : RendererVulkan :=
  { r with pipeline := r.nextId, nextId := r.nextId + 1 }

/-- One descriptor set for each view there is now. -/
def initialiseResourceDescriptors (r : RendererVulkan) : RendererVulkan :=
  if r.resources.isEmpty then r else { r with descriptorSets := some r.getViewCount }

/-- What is recorded for view `i`; the count of an indirect draw is passed as a
`std::uint32_t`. -/
def recording (r : RendererVulkan) (i : Nat) : Recording where
  framebuffer := r.swapchainFramebuffers[i]?
  clearColour := r.clearColour
  pipeline := r.pipeline
  descriptorSet := r.descriptorSets.bind fun sets => if i < sets then some i else none
  drawIndirect := r.drawIndirectBuffer.map fun b =>
    ⟨b.id, (r.numDraws .staticFixed).setWidth 32⟩
  drawIndirectDynamic := r.drawIndirectDynamicBuffer.map fun b =>
    ⟨b.id, (r.numDraws .dynamicFixed).setWidth 32⟩

/-- Record the command buffers of all views. -/
def recordRenderingCommands (r : RendererVulkan) : RendererVulkan :=
  { r with
    commandPool := r.commandPool.mapIdx fun i old =>
      if i < r.getViewCount then some (r.recording i) else old }

/-- Reset the command buffers of all views. -/
def clearRenderingCommands (r : RendererVulkan) : RendererVulkan :=
  { r with
    commandPool := r.commandPool.mapIdx fun i old =>
      if i < r.getViewCount then none else old }

/-- A new indirect buffer with the given commands, copied there through the scratch
command buffer; none for no commands. -/
def newIndirect (id : Nat) (cmds : List DrawIndirectCommand) : Option IndirectBuffer :=
  if cmds.isEmpty then none else some ⟨id, (Buffer.create cmds.length).subData cmds⟩

def recordDrawList (r : RendererVulkan) (draws : RendererDrawList) : RendererVulkan :=
  if r.drawsMatchCache draws then r
  else
    let d := internalDraws r.inputs draws
    { r with
      drawIndirectBuffer := newIndirect r.nextId d.internalDraws
      drawIndirectDynamicBuffer := newIndirect (r.nextId + 1) d.internalDrawsDynamic
      drawCache := draws
      nextId := r.nextId + 2 }

/-! ## construction -/

/-- The indirect buffer the processor is constructed with, if there is an input of the
access; nothing is written to it. -/
def initialIndirect (id : Nat) (numInputs : BitVec 64) : Option IndirectBuffer :=
  if 0 < numInputs then some ⟨id, Buffer.create numInputs.toNat⟩ else none

/-- The members of the renderer before the constructor's body runs. -/
def members (config : RendererConfig) : RendererVulkan :=
  initialiseCommandPool
    { headless := config.headless
      inputs := config.inputs
      resources := config.resources
      requiresDepthImage := config.requiresDepthImage
      clearColour := ⟨0, 0, 0, 0⟩
      views := swapchainViews 0 (if config.headless then 1 else config.viewCount)
      pipeline := 1
      depthImageview := none
      swapchainFramebuffers := []
      descriptorSets := none
      commandPool := []
      drawIndirectBuffer := initialIndirect 2 (numInputsOf .staticFixed config.inputs)
      drawIndirectDynamicBuffer := initialIndirect 3 (numInputsOf .dynamicFixed config.inputs)
      drawCache := []
      frameCounter := 0
      nextId := 4 }

/-- `if(this->requires_depth_image) this->image_manager.setup_depth_image();` -/
def setupDepthImageIfRequired (r : RendererVulkan) : RendererVulkan :=
  if r.requiresDepthImage then r.setupDepthImage else r

/-- The constructor up to the point where the view commands have been recorded. -/
def recorded (config : RendererConfig) : RendererVulkan :=
  (members config).setupDepthImageIfRequired.setupSwapchainFramebuffers
    |>.initialiseResourceDescriptors
    |>.recordRenderingCommands

/-- The constructor: `record_and_run_scratch_commands` comes last, and ends by
recording the default draw list. -/
def create (config : RendererConfig) : RendererVulkan :=
  (recorded config).recordDrawList (allInputsOnce config.inputs)

/-! ## operations -/

def handleResize (r : RendererVulkan) : RendererVulkan :=
  r.reconstructPipeline.setupDepthImageIfRequired.setupSwapchainFramebuffers
    |>.initialiseCommandPool
    |>.recordRenderingCommands

/-- `DeviceFunctionalityVulkan::on_window_resize`: recreate the swapchain, unless
headless, and tell the renderer. -/
def onWindowResize (r : RendererVulkan) (viewCount : Nat) : RendererVulkan :=
  if r.headless then r.handleResize
  else
    handleResize { r with
      views := swapchainViews r.nextId viewCount
      nextId := r.nextId + 1 }

/-- `set_clear_colour` and `handle_clear_colour_change`. -/
def setClearColour (r : RendererVulkan) (clearColour : ClearColour) : RendererVulkan :=
  { r with clearColour := clearColour }.initialiseCommandPool.recordRenderingCommands

/-- The command buffer that `RendererProcessorVulkan::render` submits, if any:
without an image index `render_frame` throws. -/
def submits (r : RendererVulkan) (code : AcquireCode) : Option Nat :=
  if r.headless then some r.frameCounter else (acquireNextImageIndex code).index

/-- `RendererProcessorVulkan::render`: an out-of-date swapchain makes the frame admin
regenerate; otherwise the frame counter moves on if something was submitted. -/
def processorRender (r : RendererVulkan) (code : AcquireCode) : RendererVulkan :=
  match r.submits code with
  | some _ => { r with frameCounter := (r.frameCounter + 1) % r.frameDepth }
  | none =>
      match (acquireNextImageIndex code).response with
      | .errorSwapchainOutOfDate => r.handleResize
      | _ => r

/-- `render(draws)` up to the submission. -/
def supply (r : RendererVulkan) (draws : RendererDrawList) : RendererVulkan :=
  if r.drawsMatchCache draws then r
  else (r.clearRenderingCommands.recordDrawList draws).recordRenderingCommands

end RendererVulkan

/-- The operations on a renderer.  `render` is given the outcome of the image
acquisition it makes (which headless rendering does not). -/
inductive RendererOp where
  | render (code : AcquireCode)
  | renderDraws (draws : RendererDrawList) (code : AcquireCode)
  | setClearColour (clearColour : ClearColour)
  | handleResize
  | windowResize (viewCount : Nat)

namespace RendererVulkan

def step (r : RendererVulkan) : RendererOp → RendererVulkan
  | .render code => r.processorRender code
  | .renderDraws draws code => (r.supply draws).processorRender code
  | .setClearColour clearColour => r.setClearColour clearColour
  | .handleResize => r.handleResize
  | .windowResize viewCount => r.onWindowResize viewCount

/-- The state in which an operation submits, and the command buffer it submits. -/
def submission (r : RendererVulkan) : RendererOp → Option (RendererVulkan × Nat)
  | .render code => (r.submits code).map fun i => (r, i)
  | .renderDraws draws code => ((r.supply draws).submits code).map fun i => (r.supply draws, i)
  | _ => none

end RendererVulkan

/-! ## what the operations do -/

namespace RendererVulkan

variable (r : RendererVulkan)

theorem drawsMatchCache_iff {draws : RendererDrawList} :
    r.drawsMatchCache draws = true ↔ r.drawCache = draws := decide_eq_true_iff

/-- `record_draw_list` replaces the indirect buffers and the cache, and no more. -/
theorem recordDrawList_eq (draws : RendererDrawList) : ∃ static dynamic id,
    r.recordDrawList draws =
      { r with
        drawIndirectBuffer := static
        drawIndirectDynamicBuffer := dynamic
        drawCache := draws
        nextId := id } := by
  unfold recordDrawList
  split
  · next hmatch =>
    have hcache : r.drawCache = draws := r.drawsMatchCache_iff.mp hmatch
    exact ⟨r.drawIndirectBuffer, r.drawIndirectDynamicBuffer, r.nextId, by rw [← hcache]⟩
  · exact ⟨_, _, _, rfl⟩

theorem recordDrawList_spec (draws : RendererDrawList) :
    (r.recordDrawList draws).headless = r.headless ∧
    (r.recordDrawList draws).inputs = r.inputs ∧
    (r.recordDrawList draws).views = r.views ∧
    (r.recordDrawList draws).commandPool = r.commandPool ∧
    (r.recordDrawList draws).frameCounter = r.frameCounter ∧
    (r.recordDrawList draws).drawCache = draws := by
  obtain ⟨static, dynamic, id, heq⟩ := r.recordDrawList_eq draws
  rw [heq]
  exact ⟨rfl, rfl, rfl, rfl, rfl, rfl⟩

theorem setupDepthImageIfRequired_eq : ∃ depth id,
    r.setupDepthImageIfRequired = { r with depthImageview := depth, nextId := id } := by
  unfold setupDepthImageIfRequired
  split
  · exact ⟨_, _, rfl⟩
  · exact ⟨r.depthImageview, r.nextId, rfl⟩

/-- `handle_resize` builds framebuffers for the views there are, and records a new
pool. -/
theorem handleResize_eq : ∃ pipeline depth id,
    r.handleResize =
      ({ r with
          pipeline := pipeline
          depthImageview := depth
          nextId := id
          swapchainFramebuffers := r.views.map fun view => ⟨view, depth⟩ } :
        RendererVulkan).initialiseCommandPool.recordRenderingCommands := by
  obtain ⟨depth, id, hdepth⟩ := r.reconstructPipeline.setupDepthImageIfRequired_eq
  refine ⟨r.nextId, depth, id, ?_⟩
  rw [handleResize, hdepth]
  rfl

theorem initialiseResourceDescriptors_eq : r.initialiseResourceDescriptors =
    { r with
      descriptorSets := if r.resources.isEmpty then r.descriptorSets else some r.getViewCount } := by
  unfold initialiseResourceDescriptors
  split <;> rfl

/-- The constructor up to its first recording. -/
theorem recorded_eq (config : RendererConfig) : ∃ depth id,
    recorded config =
      ({ members config with
          depthImageview := depth
          nextId := id
          swapchainFramebuffers := (members config).views.map fun view => ⟨view, depth⟩
          descriptorSets :=
            if config.resources.isEmpty then none else some (members config).getViewCount } :
        RendererVulkan).recordRenderingCommands := by
  obtain ⟨depth, id, hdepth⟩ := (members config).setupDepthImageIfRequired_eq
  refine ⟨depth, id, ?_⟩
  rw [recorded, hdepth, initialiseResourceDescriptors_eq]
  rfl

theorem supply_of_eq {draws : RendererDrawList} (h : r.drawCache = draws) :
    r.supply draws = r := if_pos (r.drawsMatchCache_iff.mpr h)

/-- Rendering submits, or finds the swapchain out of date, or fails. -/
theorem processorRender_cases (code : AcquireCode) :
    (∃ i, r.submits code = some i ∧ r.processorRender code =
      { r with frameCounter := (r.frameCounter + 1) % r.frameDepth }) ∨
    (r.submits code = none ∧ r.headless = false ∧ code = .errorOutOfDate ∧
      r.processorRender code = r.handleResize) ∨
    (r.submits code = none ∧ r.headless = false ∧ code = .other ∧
      r.processorRender code = r) := by
  unfold processorRender submits
  cases hheadless : r.headless with
  | true => exact Or.inl ⟨r.frameCounter, rfl, rfl⟩
  | false =>
      cases code with
      | success i => exact Or.inl ⟨i, rfl, rfl⟩
      | errorOutOfDate => exact Or.inr (Or.inl ⟨rfl, rfl, rfl, rfl⟩)
      | other => exact Or.inr (Or.inr ⟨rfl, rfl, rfl, rfl⟩)

/-- What holds after each way in which a frame can end holds after it. -/
theorem processorRender_rule {P : RendererVulkan → Prop} (code : AcquireCode)
    (hframe : P { r with frameCounter := (r.frameCounter + 1) % r.frameDepth })
    (hresize : P r.handleResize) (hsame : P r) : P (r.processorRender code) := by
  obtain ⟨_, _, heq⟩ | ⟨_, _, _, heq⟩ | ⟨_, _, _, heq⟩ := r.processorRender_cases code
  · rwa [heq]
  · rwa [heq]
  · rwa [heq]

theorem getViewCount_supply (draws : RendererDrawList) :
    (r.supply draws).getViewCount = r.getViewCount := by
  unfold supply
  split
  · rfl
  · obtain ⟨hheadless, _, hviews, _⟩ := r.clearRenderingCommands.recordDrawList_spec draws
    show (r.clearRenderingCommands.recordDrawList draws).getViewCount = r.getViewCount
    rw [getViewCount, hheadless, hviews]
    rfl

end RendererVulkan

end Vk
end Topaz
