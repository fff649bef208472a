import Topaz.Vk.Renderer

/-!
# Topaz.Vk.Resize

The per-view objects of a Vulkan renderer across window resizes.

`handle_resize` builds the framebuffers and the command pool again for the views
there are; the descriptor sets stay those of the constructor.  `PerView` is what
every operation keeps, and with it the renderer has all it needs for every view as
long as there are no more views than there were at first, or no resources.
-/

namespace Topaz
namespace Vk

/-- Every view of the swapchain has its objects, at its own index. -/
structure Aligned (r : RendererVulkan) : Prop where
  commandBuffer : ∀ i, i < r.getViewCount → i < r.commandPool.length
  framebuffer : ∀ i, i < r.getViewCount → ∃ view framebuffer,
    r.views[i]? = some view ∧ r.swapchainFramebuffers[i]? = some framebuffer ∧
    framebuffer.view = view
  descriptorSet : r.resources ≠ [] → ∀ i, i < r.getViewCount →
    ∃ sets, r.descriptorSets = some sets ∧ i < sets
  /-- the scratch command buffer is there, and is none of the views' -/
  scratch : r.getViewCount < r.commandPool.length ∧ ∀ i, i < r.getViewCount → i ≠ r.getViewCount

/-- The renderer is aligned after every operation of a run. -/
def AlignedRun : RendererVulkan → List RendererOp → Prop
  | _, [] => True
  | r, op :: ops => Aligned (r.step op) ∧ AlignedRun (r.step op) ops

/-- The number of views a renderer is constructed with. -/
def RendererConfig.initialViewCount (config : RendererConfig) : Nat :=
  if config.headless then 1 else config.viewCount

/-! ## what every operation keeps -/

/-- Command buffers and framebuffers follow the views; descriptor sets do not. -/
structure PerView (config : RendererConfig) (r : RendererVulkan) : Prop where
  headless : r.headless = config.headless
  resources : r.resources = config.resources
  views : r.headless = true → r.views.length = 1
  pool : r.commandPool.length = r.getViewCount + 1
  framebuffers : r.swapchainFramebuffers.map Framebuffer.view = r.views
  descriptorSets : r.descriptorSets =
    if config.resources.isEmpty then none else some config.initialViewCount

namespace PerView

variable {config : RendererConfig} {r : RendererVulkan}

theorem viewCount_eq (h : PerView config r) : r.getViewCount = r.views.length := by
  unfold RendererVulkan.getViewCount
  split
  · next hheadless => exact (h.views hheadless).symm
  · rfl

theorem recordRenderingCommands (h : PerView config r) :
    PerView config r.recordRenderingCommands :=
  { h with pool := (List.length_mapIdx).trans h.pool }

theorem clearRenderingCommands (h : PerView config r) :
    PerView config r.clearRenderingCommands :=
  { h with pool := (List.length_mapIdx).trans h.pool }

theorem initialiseCommandPool (h : PerView config r) : PerView config r.initialiseCommandPool :=
  { h with pool := List.length_replicate }

theorem recordDrawList (h : PerView config r) (draws : RendererDrawList) :
    PerView config (r.recordDrawList draws) := by
  obtain ⟨static, dynamic, id, heq⟩ := r.recordDrawList_eq draws
  rw [heq]
  exact { h with }

theorem supply (h : PerView config r) (draws : RendererDrawList) :
    PerView config (r.supply draws) := by
  unfold RendererVulkan.supply
  split
  · exact h
  · exact (h.clearRenderingCommands.recordDrawList draws).recordRenderingCommands

/-- A resize makes command buffers and framebuffers for the views there are now,
however many there were before. -/
theorem handleResize (hheadless : r.headless = config.headless)
    (hresources : r.resources = config.resources)
    (hviews : r.headless = true → r.views.length = 1)
    (hsets : r.descriptorSets =
      if config.resources.isEmpty then none else some config.initialViewCount) :
    PerView config r.handleResize := by
  obtain ⟨pipeline, depth, id, heq⟩ := r.handleResize_eq
  rw [heq]
  refine recordRenderingCommands ⟨hheadless, hresources, hviews, List.length_replicate, ?_, hsets⟩
  show (r.views.map fun view => (⟨view, depth⟩ : Framebuffer)).map Framebuffer.view = r.views
  rw [List.map_map]
  exact List.map_id r.views

theorem handleResize_of_perView (h : PerView config r) : PerView config r.handleResize :=
  handleResize h.headless h.resources h.views h.descriptorSets

theorem processorRender (h : PerView config r) (code : AcquireCode) :
    PerView config (r.processorRender code) :=
  r.processorRender_rule code { h with } h.handleResize_of_perView h

theorem onWindowResize (h : PerView config r) (viewCount : Nat) :
    PerView config (r.onWindowResize viewCount) := by
  unfold RendererVulkan.onWindowResize
  split
  · exact h.handleResize_of_perView
  · next hheadless =>
    exact handleResize h.headless h.resources (fun hh => absurd hh hheadless) h.descriptorSets

theorem step (h : PerView config r) (op : RendererOp) : PerView config (r.step op) := by
  cases op with
  | render code => exact h.processorRender code
  | renderDraws draws code => exact (h.supply draws).processorRender code
  | setClearColour clearColour =>
      have hcolour : PerView config { r with clearColour := clearColour } := { h with }
      exact hcolour.initialiseCommandPool.recordRenderingCommands
  | handleResize => exact h.handleResize_of_perView
  | windowResize viewCount => exact h.onWindowResize viewCount

end PerView

theorem getViewCount_members (config : RendererConfig) :
    (RendererVulkan.members config).getViewCount = config.initialViewCount := by
  show (if config.headless then 1 else
    (swapchainViews 0 (if config.headless then 1 else config.viewCount)).length) =
      config.initialViewCount
  unfold RendererConfig.initialViewCount
  cases config.headless <;> simp [swapchainViews]

theorem PerView.create (config : RendererConfig) :
    PerView config (RendererVulkan.create config) := by
  obtain ⟨depth, id, heq⟩ := RendererVulkan.recorded_eq config
  rw [RendererVulkan.create, heq]
  refine PerView.recordDrawList (PerView.recordRenderingCommands ?_) _
  refine ⟨rfl, rfl, fun hheadless => ?_, List.length_replicate, ?_, ?_⟩
  · have hconfig : config.headless = true := hheadless
    show (swapchainViews 0 (if config.headless then 1 else config.viewCount)).length = 1
    simp [swapchainViews, hconfig]
  · exact (List.map_map).trans (List.map_id _)
  · show (if config.resources.isEmpty then none
      else some (RendererVulkan.members config).getViewCount) = _
    rw [getViewCount_members]

/-! ## alignment -/

/-- Only the descriptor sets can be too few. -/
theorem PerView.aligned_iff {config : RendererConfig} {r : RendererVulkan}
    (h : PerView config r) :
    Aligned r ↔ config.resources = [] ∨ r.getViewCount ≤ config.initialViewCount := by
  constructor
  · intro ha
    by_cases hres : config.resources = []
    · exact Or.inl hres
    · refine Or.inr (Nat.le_of_not_lt fun hlt => ?_)
      obtain ⟨sets, hsets, hin⟩ :=
        ha.descriptorSet (by rw [h.resources]; exact hres) config.initialViewCount hlt
      rw [h.descriptorSets, if_neg (by simpa using hres), Option.some.injEq] at hsets
      omega
  · intro hfit
    have hpool := h.pool
    refine ⟨fun i hi => by omega, fun i hi => ?_, fun hres i hi => ?_, by omega,
      fun i hi => by omega⟩
    · have hlen : i < r.swapchainFramebuffers.length := by
        rw [h.viewCount_eq, ← h.framebuffers, List.length_map] at hi
        exact hi
      refine ⟨_, r.swapchainFramebuffers[i], ?_, List.getElem?_eq_getElem hlen, rfl⟩
      rw [← h.framebuffers, List.getElem?_map, List.getElem?_eq_getElem hlen, Option.map_some]
    · rw [h.resources] at hres
      rw [h.descriptorSets, if_neg (by simpa using hres)]
      have hle := hfit.resolve_left hres
      exact ⟨_, rfl, by omega⟩

/-- The number of views after an operation: only a window resize changes it, and none
does in headless mode. -/
def RendererOp.viewCountAfter (headless : Bool) (current : Nat) : RendererOp → Nat
  | .windowResize viewCount => if headless then 1 else viewCount
  | _ => current

theorem getViewCount_handleResize (r : RendererVulkan) :
    r.handleResize.getViewCount = r.getViewCount := by
  obtain ⟨pipeline, depth, id, heq⟩ := r.handleResize_eq
  rw [heq]
  rfl

theorem getViewCount_processorRender (r : RendererVulkan) (code : AcquireCode) :
    (r.processorRender code).getViewCount = r.getViewCount :=
  r.processorRender_rule (P := fun r' => r'.getViewCount = r.getViewCount) code rfl
    (getViewCount_handleResize r) rfl

theorem getViewCount_step (r : RendererVulkan) (op : RendererOp) :
    (r.step op).getViewCount = op.viewCountAfter r.headless r.getViewCount := by
  cases op with
  | render code => exact getViewCount_processorRender r code
  | renderDraws draws code =>
      exact (getViewCount_processorRender _ code).trans (r.getViewCount_supply draws)
  | setClearColour clearColour => rfl
  | handleResize => exact getViewCount_handleResize r
  | windowResize viewCount =>
      show (r.onWindowResize viewCount).getViewCount = if r.headless then 1 else viewCount
      unfold RendererVulkan.onWindowResize
      split
      · next hheadless =>
        rw [getViewCount_handleResize, RendererVulkan.getViewCount, if_pos hheadless]
      · next hheadless =>
        rw [getViewCount_handleResize, RendererVulkan.getViewCount, if_neg hheadless]
        simp [swapchainViews]

/-- From few enough views only a larger window leads to too many. -/
theorem viewCountAfter_le_iff (config : RendererConfig) {current : Nat}
    (hle : current ≤ config.initialViewCount) (op : RendererOp) :
    op.viewCountAfter config.headless current ≤ config.initialViewCount ↔
      config.headless = true ∨
      ∀ viewCount, op = .windowResize viewCount → viewCount ≤ config.viewCount := by
  cases op with
  | windowResize viewCount =>
      cases hheadless : config.headless with
      | true => simp [RendererOp.viewCountAfter, RendererConfig.initialViewCount, hheadless]
      | false => simp [RendererOp.viewCountAfter, RendererConfig.initialViewCount, hheadless]
  | render _ | renderDraws _ _ | setClearColour _ | handleResize =>
      exact iff_of_true hle (Or.inr fun _ h => by cases h)

/-- A run from a state with few enough views. -/
theorem PerView.alignedRun_iff {config : RendererConfig} {r : RendererVulkan}
    (h : PerView config r)
    (hfit : config.resources = [] ∨ r.getViewCount ≤ config.initialViewCount)
    (ops : List RendererOp) :
    AlignedRun r ops ↔ config.resources = [] ∨ config.headless = true ∨
      ∀ viewCount, RendererOp.windowResize viewCount ∈ ops → viewCount ≤ config.viewCount := by
  induction ops generalizing r with
  | nil => simp [AlignedRun]
  | cons op ops ih =>
      have hnext := h.step op
      rw [AlignedRun, hnext.aligned_iff]
      by_cases hres : config.resources = []
      · have hrest := ih hnext (Or.inl hres)
        simp only [hres, true_or, iff_true] at hrest
        simp [hres, hrest]
      · have hop := viewCountAfter_le_iff config (hfit.resolve_left hres) op
        rw [← h.headless, ← getViewCount_step, h.headless] at hop
        have hsplit : (∀ viewCount, RendererOp.windowResize viewCount ∈ op :: ops →
              viewCount ≤ config.viewCount) ↔
            (∀ viewCount, op = .windowResize viewCount → viewCount ≤ config.viewCount) ∧
            ∀ viewCount, RendererOp.windowResize viewCount ∈ ops →
              viewCount ≤ config.viewCount := by
          simp only [List.mem_cons, or_imp, forall_and, eq_comm]
        simp only [hres, false_or] at ih ⊢
        rw [hsplit]
        by_cases hnow : (r.step op).getViewCount ≤ config.initialViewCount
        · rw [ih hnext hnow]
          grind
        · -- the descriptor sets do not grow with the views
          grind

/-- **Resizes**: through any run of operations every view has its command buffer,
framebuffer and descriptor set exactly when the renderer has no resources, or is
headless, or no resize gives more views than there were at construction. -/
theorem aligned_run_iff (config : RendererConfig) (ops : List RendererOp) :
    AlignedRun (RendererVulkan.create config) ops ↔
      config.resources = [] ∨ config.headless = true ∨
      ∀ viewCount, RendererOp.windowResize viewCount ∈ ops → viewCount ≤ config.viewCount := by
  have hcount : (RendererVulkan.create config).getViewCount = config.initialViewCount := by
    obtain ⟨hheadless, _, hviews, _⟩ :=
      (RendererVulkan.recorded config).recordDrawList_spec (allInputsOnce config.inputs)
    obtain ⟨depth, id, heq⟩ := RendererVulkan.recorded_eq config
    rw [← getViewCount_members, RendererVulkan.create, RendererVulkan.getViewCount, hheadless,
      hviews, heq]
    rfl
  exact (PerView.create config).alignedRun_iff (Or.inr (Nat.le_of_eq hcount)) ops

/-- A windowed renderer with a uniform buffer and one swapchain image. -/
def oneUniform : RendererConfig where
  headless := false
  inputs := []
  resources := [⟨.buffer, .staticFixed, [0]⟩]
  requiresDepthImage := false
  viewCount := 1

/-- A resize to two images leaves the second without a descriptor set. -/
theorem resized_misaligned :
    ¬ AlignedRun (RendererVulkan.create oneUniform) [.windowResize 2] := by
  intro h
  obtain ⟨sets, hsets, hlt⟩ := h.1.descriptorSet (by decide) 1 (by decide)
  have hone : ((RendererVulkan.create oneUniform).step (.windowResize 2)).descriptorSets =
      some 1 := rfl
  rw [hone, Option.some.injEq] at hsets
  omega

end Vk
end Topaz
