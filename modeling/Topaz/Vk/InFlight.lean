import Topaz.Vk.Coherence
import Topaz.Vk.Resize
import Topaz.Vk.Wait

/-!
# Topaz.Vk.InFlight

A Vulkan renderer and its frames in flight.

`Topaz.Vk.Renderer` says what the operations of a renderer do to its objects, and
`Topaz.Vk.FrameAdmin` what the host waits for before it goes on.  Here the two run together:
a submission remembers what its command buffer held, and is executed with it for as long as it
is pending, while the renderer may replace its objects.

`Alive` says that everything the GPU still executes is still there: the command buffer with
what was submitted, and the pipeline, framebuffer, descriptor set and indirect buffers in it.
It holds throughout a run exactly when the two operations that do not wait come with nothing in
flight: the regeneration after an out-of-date acquisition, and the reset of a headless
renderer's command buffer.
-/

namespace Topaz
namespace Vk

/-! ## the system -/

/-- A renderer, its frame admin and the GPU. -/
structure RendererSystem where
  frames : FrameSystem
  renderer : RendererVulkan
  /-- what the pending submissions execute, in the order of `frames.pending` -/
  executing : List (Option Recording)
  /-- the list that `render(draws)` was called with -/
  supplied : RendererDrawList

/-- A call, or a part of one that ends where the host waits. -/
inductive RendererEvent where
  /-- `render()`, or `render(draws)` with the cached list -/
  | render
  /-- `render(draws)` with another list: `clear_rendering_commands` is entered -/
  | renderDraws (draws : RendererDrawList)
  /-- the wait for view `i` is over and its command buffer is reset -/
  | reset (i : Nat)
  /-- the rest of `render(draws)`, up to the wait in `render_frame` -/
  | record
  | acquire (code : AcquireCode)
  | submit
  /-- `set_clear_colour`, after `block_until_idle` -/
  | setClearColour (clearColour : ClearColour)
  /-- `on_window_resize`, after `block_until_idle`; the new swapchain has as many images -/
  | windowResize
  /-- the GPU completes one of the pending submissions -/
  | complete (j : Nat)

namespace RendererSystem

/-- A new renderer after `set_clear_colour` as its first call, so that its views have been recorded
with the indirect buffers it has. -/
def start (config : RendererConfig) (clearColour : ClearColour) : RendererSystem :=
  let renderer := (RendererVulkan.create config).setClearColour clearColour
  let frames := FrameSystem.create config.headless renderer.frameDepth config.initialViewCount
  { frames := { frames with admin := { frames.admin with regenerateFunction := true } }
    renderer := renderer
    executing := []
    supplied := [] }

variable (s : RendererSystem)

def beginFrame : FrameEvent :=
  if s.renderer.headless then .renderFrameHeadless else .renderFrame

def endFrame : FrameEvent := if s.renderer.headless then .submitHeadless else .submit

def Enabled : RendererEvent → Prop
  | .render => s.frames.Enabled s.beginFrame
  | .renderDraws draws => s.frames.Enabled .clear ∧ s.renderer.drawCache ≠ draws
  | .reset i => s.frames.Enabled (.reset i)
  | .record => s.frames.Enabled .record
  | .acquire code => s.frames.Enabled (.acquire code)
  | .submit => s.frames.Enabled s.endFrame
  | .setClearColour _ => s.frames.phase = .idle ∧ s.frames.pending = []
  | .windowResize => s.frames.Enabled (.recreateSwapchain s.frames.viewCount)
  | .complete j => s.frames.Enabled (.complete j)

instance : ∀ e, Decidable (s.Enabled e)
  | .render => inferInstanceAs (Decidable (s.frames.Enabled s.beginFrame))
  | .renderDraws draws => inferInstanceAs (Decidable (s.frames.Enabled .clear ∧ _ ≠ draws))
  | .reset i => inferInstanceAs (Decidable (s.frames.Enabled (.reset i)))
  | .record => inferInstanceAs (Decidable (s.frames.Enabled .record))
  | .acquire code => inferInstanceAs (Decidable (s.frames.Enabled (.acquire code)))
  | .submit => inferInstanceAs (Decidable (s.frames.Enabled s.endFrame))
  | .setClearColour _ => inferInstanceAs (Decidable (_ ∧ _))
  | .windowResize =>
      inferInstanceAs (Decidable (s.frames.Enabled (.recreateSwapchain s.frames.viewCount)))
  | .complete j => inferInstanceAs (Decidable (s.frames.Enabled (.complete j)))

/-- The regeneration function of the frame admin is `handle_resize`. -/
def regenerated (code : AcquireCode) : RendererVulkan :=
  match (acquireNextImageIndex code).response with
  | .errorSwapchainOutOfDate => s.renderer.handleResize
  | _ => s.renderer

def next : RendererEvent → RendererSystem
  | .render => { s with frames := s.frames.next s.beginFrame }
  | .renderDraws draws => { s with frames := s.frames.next .clear, supplied := draws }
  | .reset i =>
      { s with
        frames := s.frames.next (.reset i)
        renderer := { s.renderer with commandPool := s.renderer.commandPool.set i none } }
  | .record =>
      { s with
        frames := (s.frames.next .record).next s.beginFrame
        renderer := (s.renderer.recordDrawList s.supplied).recordRenderingCommands }
  | .acquire code =>
      { s with frames := s.frames.next (.acquire code), renderer := s.regenerated code }
  | .submit =>
      { s with
        frames := s.frames.next s.endFrame
        renderer := { s.renderer with
          frameCounter := (s.renderer.frameCounter + 1) % s.renderer.frameDepth }
        executing :=
          s.executing ++ [s.renderer.commandPool[s.frames.admin.curImageIndex]?.join] }
  | .setClearColour clearColour => { s with renderer := s.renderer.setClearColour clearColour }
  | .windowResize =>
      { s with
        frames := s.frames.next (.recreateSwapchain s.frames.viewCount)
        renderer := s.renderer.onWindowResize s.frames.viewCount }
  | .complete j =>
      { s with frames := s.frames.next (.complete j), executing := s.executing.eraseIdx j }

def machine : Machine RendererSystem RendererEvent := ⟨Enabled, next⟩

instance (s : RendererSystem) (e : RendererEvent) : Decidable (machine.Enabled s e) :=
  inferInstanceAs (Decidable (s.Enabled e))

end RendererSystem

/-! ## what is executed is there -/

/-- The objects of a recording are those that the renderer has. -/
structure Owns (r : RendererVulkan) (c : Recording) : Prop where
  pipeline : c.pipeline = r.pipeline
  framebuffer : ∀ f, c.framebuffer = some f →
    f ∈ r.swapchainFramebuffers ∧ f.view ∈ r.views ∧ f.depthImageview = r.depthImageview
  descriptorSet : ∀ i, c.descriptorSet = some i → ∃ sets, r.descriptorSets = some sets ∧ i < sets
  indirect : ∀ a d, c.drawOf a = some d → ∃ b, r.indirectOf a = some b ∧ b.id = d.buffer

/-- Every pending submission executes what its command buffer still holds, with objects that
are still there. -/
def Alive (s : RendererSystem) : Prop :=
  ∀ (j : Nat) (p : Submission), s.frames.pending[j]? = some p → ∃ c, s.executing[j]? = some (some c) ∧
    s.renderer.commandPool[p.commandBuffer]? = some (some c) ∧ Owns s.renderer c

/-- That is so in every state of a run. -/
def AliveRun : RendererSystem → List RendererEvent → Prop
  | s, [] => Alive s
  | s, e :: es => Alive s ∧ AliveRun (s.next e) es

/-- The events that destroy or reset what may be in use without having waited for it. -/
def RendererEvent.Disturbs (headless : Bool) (e : RendererEvent) : Prop :=
  e = .acquire .errorOutOfDate ∨ headless = true ∧ ∃ i, e = .reset i

/-- They come with nothing in flight. -/
def UndisturbedRun : RendererSystem → List RendererEvent → Prop
  | _, [] => True
  | s, e :: es =>
      (e.Disturbs s.renderer.headless → s.frames.pending = []) ∧ UndisturbedRun (s.next e) es

/-- The images that are acquired are among the first `n`. -/
def RendererEvent.Acquires (n : Nat) (e : RendererEvent) : Prop :=
  ∀ i, e = .acquire (.success i) → i < n

/-! ## what the frame admin keeps -/

/-- A headless frame admin has one slot, for the one view. -/
structure HeadlessInv (s : FrameSystem) : Prop where
  headless : s.headless = true
  views : s.viewCount = 1
  depth : s.admin.frameDepth = 1
  counter : s.admin.frameCounter = 0
  not_windowed : s.phase ≠ .frameFence ∧ s.phase ≠ .imageFence
  current : s.phase = .headlessFence → s.admin.curImageIndex = 0
  pending : ∀ p ∈ s.pending, p.commandBuffer = 0
  cleared : ∀ i, s.phase = .clearing i → i = 0
  recorded : s.phase = .recording → s.pending = []

/-- Either kind of frame admin, with `n` views. -/
inductive FramesOk (n : Nat) (s : FrameSystem) : Prop
  | windowed (hn : n ≤ 2) (h : FrameInv 2 n s) (hw : WaitInv 2 s)
  | headless (hn : n = 1) (h : HeadlessInv s)

namespace HeadlessInv

variable {s : FrameSystem}

/-- A new headless frame admin has one slot, and nothing pending. -/
theorem create (n : Nat) : HeadlessInv (FrameSystem.create true 1 n) where
  headless := rfl
  views := rfl
  depth := rfl
  counter := rfl
  not_windowed := by simp [FrameSystem.create]
  current := by simp [FrameSystem.create]
  pending := by simp [FrameSystem.create]
  cleared := by simp [FrameSystem.create]
  recorded := by simp [FrameSystem.create]

/-- A frame is begun in the one slot. -/
theorem renderFrameHeadless (h : HeadlessInv s) : HeadlessInv (s.next .renderFrameHeadless) := by
  have hsize : ∀ count, (s.admin.sizeImages count).frameDepth = s.admin.frameDepth ∧
      (s.admin.sizeImages count).frameCounter = s.admin.frameCounter := by
    intro count
    unfold FrameAdmin.sizeImages
    split <;> exact ⟨rfl, rfl⟩
  exact
    { h with
      depth := (hsize _).1.trans h.depth
      counter := (hsize _).2.trans h.counter
      not_windowed := by simp [FrameSystem.next]
      current := fun _ => by
        show s.admin.frameCounter % 2 ^ 32 = 0
        rw [h.counter, Nat.zero_mod]
      cleared := by simp [FrameSystem.next]
      recorded := by simp [FrameSystem.next] }

/-- The frame is submitted from the one command buffer. -/
theorem submitHeadless (h : HeadlessInv s) (he : s.Enabled .submitHeadless) :
    HeadlessInv (s.next .submitHeadless) where
  headless := h.headless
  views := h.views
  depth := h.depth
  counter := by
    show (s.admin.frameCounter + 1) % s.admin.frameDepth = 0
    rw [h.depth, Nat.mod_one]
  not_windowed := by simp [FrameSystem.next]
  current := by simp [FrameSystem.next]
  pending := by
    intro p hp
    cases List.mem_append.mp hp with
    | inl hold => exact h.pending p hold
    | inr hnew =>
        rw [List.mem_singleton.mp hnew]
        exact h.current he.1
  cleared := by simp [FrameSystem.next]
  recorded := by simp [FrameSystem.next]

/-- The wait for the one view is over with nothing pending. -/
theorem reset (h : HeadlessInv s) (hpending : s.pending = []) :
    HeadlessInv (s.next (.reset 0)) := by
  have hnext : s.next (.reset 0) = { s with phase := .recording } := by
    simp [FrameSystem.next, FrameSystem.clearFrom, h.views]
  rw [hnext]
  exact
    { h with
      not_windowed := by simp
      current := by simp
      cleared := by simp
      recorded := fun _ => hpending }

/-- The loop over the views starts with the one there is. -/
theorem clear (h : HeadlessInv s) : HeadlessInv (s.next .clear) := by
  have hnext : s.next .clear = { s with
      phase := .clearing 0, accesses := s.accesses ++ s.admin.waitForAccesses 0 } := by
    simp [FrameSystem.next, FrameSystem.clearFrom, h.views]
  rw [hnext]
  exact
    { h with
      not_windowed := by simp
      current := by simp
      cleared := fun i hi => by injection hi with hi; exact hi.symm
      recorded := by simp }

theorem record (h : HeadlessInv s) : HeadlessInv (s.next .record) :=
  { h with
    not_windowed := by simp [FrameSystem.next]
    current := by simp [FrameSystem.next]
    cleared := by simp [FrameSystem.next]
    recorded := by simp [FrameSystem.next] }

/-- What is left is still from the one command buffer. -/
theorem complete (h : HeadlessInv s) (j : Nat) : HeadlessInv (s.next (.complete j)) := by
  cases hp : s.pending[j]? with
  | none =>
      have hsame : s.next (.complete j) = s := by
        simp [FrameSystem.next, FrameSystem.complete, hp]
      rwa [hsame]
  | some p =>
      simp only [FrameSystem.next, FrameSystem.complete, hp]
      exact
        { h with
          pending := fun q hq => h.pending q (List.mem_of_mem_eraseIdx hq)
          recorded := fun hr => by simp [h.recorded hr] }

end HeadlessInv

namespace FramesOk

variable {n : Nat} {s : FrameSystem}

/-- There are `n` views. -/
theorem viewCount_eq (h : FramesOk n s) : s.viewCount = n := by
  cases h with
  | windowed _ h _ => exact h.views
  | headless hn h => exact h.views.trans hn.symm

/-- What is pending was submitted from the command buffer of a view. -/
theorem pending_lt (h : FramesOk n s) {p : Submission} (hp : p ∈ s.pending) :
    p.commandBuffer < n := by
  cases h with
  | windowed _ h _ =>
      have hlt := (List.getElem?_eq_some_iff.mp (h.pending_image p hp)).1
      cases h.sized with
      | inl hnil => simp [hnil] at hlt
      | inr hlen => rwa [hlen] at hlt
  | headless hn h =>
      rw [h.pending p hp, hn]
      exact Nat.one_pos

/-- What is going to be submitted is the command buffer of a view. -/
theorem current_lt (h : FramesOk n s) (hphase : s.phase = .imageFence ∨ s.phase = .headlessFence) :
    s.admin.curImageIndex < n := by
  cases h with
  | windowed _ h _ => exact (h.acquired (hphase.resolve_right h.not_headless)).2
  | headless hn h =>
      rw [h.current (hphase.resolve_left h.not_windowed.2), hn]
      exact Nat.one_pos

/-- The host has waited for the views that have been cleared. -/
theorem cleared (h : FramesOk n s) {i : Nat} (hi : s.phase = .clearing i) {p : Submission}
    (hp : p ∈ s.pending) : ¬ p.commandBuffer < i := by
  cases h with
  | windowed _ _ hw => exact hw.cleared i hi p hp
  | headless _ h =>
      rw [h.cleared i hi]
      exact Nat.not_lt_zero _

/-- Commands are recorded again with nothing in flight. -/
theorem recorded (h : FramesOk n s) (hr : s.phase = .recording) : s.pending = [] := by
  cases h with
  | windowed hn h hw =>
      refine List.eq_nil_iff_forall_not_mem.mpr fun p hp => hw.recorded hr p hp ?_
      rw [h.views]
      exact pending_lt (.windowed hn h hw) hp
  | headless _ h => exact h.recorded hr

/-- **Step**: the frame admin's part of the events. -/
theorem step (h : FramesOk n s) {e : FrameEvent} (he : s.Enabled e) (hok : e.Windowed n)
    (hwait : ∀ k, e ≠ .waitFor k ∧ e ≠ .waitForReturn k)
    (hreset : ∀ i, e = .reset i → s.headless = true → s.pending = []) : FramesOk n (s.next e) := by
  cases h with
  | windowed hn h hw =>
      refine .windowed hn (h.step hok he) (hw.step h ?_ he)
      cases e with
      | acquire code => exact fun index hi => Nat.lt_of_lt_of_le (hok index hi) hn
      | waitFor k => exact absurd rfl (hwait k).1
      | clear => exact hn
      | renderFrameHeadless =>
          rw [FrameSystem.Enabled, h.windowed] at he
          cases he.2
      | _ => trivial
  | headless hn h =>
      refine .headless hn ?_
      cases e with
      | renderFrame =>
          rw [FrameSystem.Enabled, h.headless] at he
          cases he.2
      | acquire code => exact absurd he.1 h.not_windowed.1
      | submit => exact absurd he.1 h.not_windowed.2
      | renderFrameHeadless => exact h.renderFrameHeadless
      | submitHeadless => exact h.submitHeadless he
      | waitFor k => exact absurd rfl (hwait k).1
      | waitForReturn k => exact absurd rfl (hwait k).2
      | clear => exact h.clear
      | reset i =>
          rw [h.cleared i he.1]
          exact h.reset (hreset i rfl h.headless)
      | record => exact h.record
      | recreateSwapchain count => exact hok.elim
      | complete j => exact h.complete j

end FramesOk

/-! ## what the renderer keeps -/

/-- Framebuffers are made of the views and the depth image there are. -/
def Attached (r : RendererVulkan) : Prop :=
  r.swapchainFramebuffers = r.views.map fun view => ⟨view, r.depthImageview⟩

/-- What is recorded now are the objects there are now. -/
theorem Attached.owns {r : RendererVulkan} (h : Attached r) (i : Nat) : Owns r (r.recording i) where
  pipeline := rfl
  framebuffer := by
    intro f hf
    have hmem : f ∈ r.swapchainFramebuffers := List.mem_of_getElem? hf
    refine ⟨hmem, ?_⟩
    rw [h, List.mem_map] at hmem
    obtain ⟨view, hview, rfl⟩ := hmem
    exact ⟨hview, rfl⟩
  descriptorSet := by
    intro k hk
    obtain ⟨sets, hsets, hlt⟩ := Option.bind_eq_some_iff.mp hk
    refine ⟨sets, hsets, ?_⟩
    split at hlt
    · rwa [← Option.some.inj hlt]
    · contradiction
  indirect := by
    intro a d hd
    rw [RendererVulkan.drawOf_recording] at hd
    obtain ⟨b, hb, rfl⟩ := Option.map_eq_some_iff.mp hd
    exact ⟨b, hb, rfl⟩

/-- What holds of a renderer with `n` views in any phase. -/
structure Kept (n : Nat) (r : RendererVulkan) : Prop where
  viewCount : r.getViewCount = n
  pool : r.commandPool.length = n + 1
  attached : Attached r
  /-- the pipeline that `reconstruct_pipeline` makes is a new one -/
  pipeline_lt : r.pipeline < r.nextId

/-- A view whose command buffer `clear_rendering_commands` has reset. -/
def Phase.Cleared (i : Nat) : Phase → Prop
  | .clearing k => i < k
  | .recording => True
  | _ => False

/-- The views that have not been reset are recorded as they would be now, and so was everything
in flight. -/
structure InFlightInv (n : Nat) (s : RendererSystem) : Prop where
  frames : FramesOk n s.frames
  headless : s.frames.headless = s.renderer.headless
  kept : Kept n s.renderer
  recorded : ∀ i < n, ¬ s.frames.phase.Cleared i →
    s.renderer.commandPool[i]? = some (some (s.renderer.recording i))
  length : s.executing.length = s.frames.pending.length
  executing : ∀ (j : Nat) (p : Submission), s.frames.pending[j]? = some p →
    s.executing[j]? = some (some (s.renderer.recording p.commandBuffer))

/-- What is in flight is as it would be recorded now. -/
theorem InFlightInv.alive {n : Nat} {s : RendererSystem} (h : InFlightInv n s) : Alive s := by
  intro j p hp
  have hmem : p ∈ s.frames.pending := List.mem_of_getElem? hp
  refine ⟨_, h.executing j p hp, h.recorded _ (h.frames.pending_lt hmem) ?_,
    h.kept.attached.owns _⟩
  -- a command buffer that has been reset is not in flight
  cases hphase : s.frames.phase with
  | clearing k => exact h.frames.cleared hphase hmem
  | recording =>
      rw [h.frames.recorded hphase] at hmem
      cases hmem
  | _ => exact id

namespace RendererVulkan

variable (r : RendererVulkan)

theorem headless_handleResize : r.handleResize.headless = r.headless := by
  obtain ⟨_, _, _, heq⟩ := r.handleResize_eq
  rw [heq]
  rfl

/-- A resize makes a new pipeline. -/
theorem pipeline_handleResize : r.handleResize.pipeline = r.nextId := by
  obtain ⟨_, _, heq⟩ := r.reconstructPipeline.setupDepthImageIfRequired_eq
  rw [handleResize, heq]
  rfl

/-- A resize records the views again. -/
theorem recorded_handleResize : Recorded r.handleResize := by
  obtain ⟨_, _, _, heq⟩ := r.handleResize_eq
  rw [heq]
  exact recorded_initialiseCommandPool _

end RendererVulkan

namespace Kept

variable {n : Nat} {r : RendererVulkan}

/-- Recorded views are those of the command buffers before the scratch one. -/
theorem recorded_of_recorded (h : Kept n r) (hr : Recorded r) :
    ∀ i < n, r.commandPool[i]? = some (some (r.recording i)) :=
  fun i hi => hr i (h.viewCount.symm ▸ hi)

/-- Recording leaves the objects alone. -/
theorem recordRenderingCommands (h : Kept n r) : Kept n r.recordRenderingCommands :=
  { h with pool := (List.length_mapIdx).trans h.pool }

/-- A new draw list only replaces indirect buffers. -/
theorem recordDrawList (h : Kept n r) (draws : RendererDrawList) :
    Kept n (r.recordDrawList draws) := by
  unfold RendererVulkan.recordDrawList
  split
  · exact h
  · exact { h with pipeline_lt := Nat.lt_add_right 2 h.pipeline_lt }

theorem initialiseCommandPool (h : Kept n r) : Kept n r.initialiseCommandPool :=
  { h with pool := (List.length_replicate).trans (congrArg (· + 1) h.viewCount) }

/-- A clear colour has the command pool made again. -/
theorem setClearColour (h : Kept n r) (clearColour : ClearColour) :
    Kept n (r.setClearColour clearColour) := by
  have hcolour : Kept n { r with clearColour := clearColour } := { h with }
  exact hcolour.initialiseCommandPool.recordRenderingCommands

/-- A resize builds everything for the views there are. -/
theorem handleResize (hviews : r.getViewCount = n) : Kept n r.handleResize := by
  have hpipeline : r.reconstructPipeline.setupDepthImageIfRequired.pipeline <
      r.reconstructPipeline.setupDepthImageIfRequired.nextId := by
    unfold RendererVulkan.setupDepthImageIfRequired
    split
    · exact Nat.lt_succ_of_lt (Nat.lt_succ_self r.nextId)
    · exact Nat.lt_succ_self r.nextId
  obtain ⟨depth, id, hdepth⟩ := r.reconstructPipeline.setupDepthImageIfRequired_eq
  refine recordRenderingCommands (n := n) ⟨?_, ?_, rfl, hpipeline⟩
  · rw [hdepth]
    exact hviews
  · show (List.replicate _ none).length = n + 1
    rw [List.length_replicate, hdepth]
    exact congrArg (· + 1) hviews

/-- So does a window resize, with as many images as before. -/
theorem onWindowResize (h : Kept n r) : Kept n (r.onWindowResize n) := by
  unfold RendererVulkan.onWindowResize
  split
  · exact handleResize h.viewCount
  · next hheadless =>
    refine handleResize ?_
    show (if r.headless then 1 else (swapchainViews r.nextId n).length) = n
    rw [if_neg hheadless]
    simp [swapchainViews]

end Kept

/-! ## what frame events leave alone -/

namespace FrameSystem

variable (s : FrameSystem)

/-- The loop over the views changes no more than where it is. -/
theorem clearFrom_eq (i : Nat) : ∃ phase accesses,
    s.clearFrom i = { s with phase := phase, accesses := accesses } := by
  unfold clearFrom
  split
  · exact ⟨_, _, rfl⟩
  · exact ⟨_, s.accesses, rfl⟩

/-- An acquisition submits nothing. -/
theorem acquire_eq (code : AcquireCode) : ∃ admin phase accesses regenerations exceptions,
    s.acquire code =
      { s with
        admin := admin, phase := phase, accesses := accesses, regenerations := regenerations
        exceptions := exceptions } := by
  cases code with
  | success i => exact ⟨_, _, _, s.regenerations, s.exceptions, rfl⟩
  | errorOutOfDate => exact ⟨s.admin, _, _, _, _, rfl⟩
  | other => exact ⟨s.admin, _, _, _, _, rfl⟩

/-- A frame admin has a window or not for good. -/
theorem headless_next (e : FrameEvent) : (s.next e).headless = s.headless := by
  cases e with
  | acquire code =>
      obtain ⟨_, _, _, _, _, heq⟩ := s.acquire_eq code
      rw [next, heq]
  | clear =>
      obtain ⟨_, _, heq⟩ := s.clearFrom_eq 0
      rw [next, heq]
  | reset i =>
      obtain ⟨_, _, heq⟩ := s.clearFrom_eq (i + 1)
      rw [next, heq]
  | complete j =>
      show (s.complete j).headless = s.headless
      unfold complete
      split <;> rfl
  | _ => rfl

/-- Only submissions and completions change what is pending. -/
theorem pending_next {e : FrameEvent} (hsubmit : e ≠ .submit) (hheadless : e ≠ .submitHeadless)
    (hcomplete : ∀ j, e ≠ .complete j) : (s.next e).pending = s.pending := by
  cases e with
  | submit => exact absurd rfl hsubmit
  | submitHeadless => exact absurd rfl hheadless
  | complete j => exact absurd rfl (hcomplete j)
  | acquire code =>
      obtain ⟨_, _, _, _, _, heq⟩ := s.acquire_eq code
      rw [next, heq]
  | clear =>
      obtain ⟨_, _, heq⟩ := s.clearFrom_eq 0
      rw [next, heq]
  | reset i =>
      obtain ⟨_, _, heq⟩ := s.clearFrom_eq (i + 1)
      rw [next, heq]
  | _ => rfl

/-- After the loop body for view `i` the views up to it have been cleared. -/
theorem cleared_clearFrom {i k : Nat} (h : k < i) : (s.clearFrom i).phase.Cleared k := by
  unfold clearFrom
  split
  · exact h
  · exact trivial

end FrameSystem

/-! ## steps -/

namespace InFlightInv

variable {n : Nat} {s : RendererSystem}

/-- A frame event that neither submits nor completes, and clears no fewer views. -/
theorem move (h : InFlightInv n s) {frames : FrameSystem} {supplied : RendererDrawList}
    (hframes : FramesOk n frames) (hheadless : frames.headless = s.frames.headless)
    (hpending : frames.pending = s.frames.pending)
    (hcleared : ∀ i, s.frames.phase.Cleared i → frames.phase.Cleared i) :
    InFlightInv n { s with frames := frames, supplied := supplied } where
  frames := hframes
  headless := hheadless.trans h.headless
  kept := h.kept
  recorded := fun i hi hnot => h.recorded i hi fun hc => hnot (hcleared i hc)
  length := h.length.trans (congrArg List.length hpending.symm)
  executing := fun j p hp => h.executing j p (hpending ▸ hp)

/-- With nothing in flight, whatever has its views recorded will do. -/
theorem rebuilt (h : InFlightInv n s) {frames : FrameSystem} {renderer : RendererVulkan}
    (hframes : FramesOk n frames) (hheadless : frames.headless = s.frames.headless)
    (hpending : frames.pending = s.frames.pending) (hnil : s.frames.pending = [])
    (hwindow : renderer.headless = s.renderer.headless) (hkept : Kept n renderer)
    (hrecorded : Recorded renderer) :
    InFlightInv n { s with frames := frames, renderer := renderer } where
  frames := hframes
  headless := (hheadless.trans h.headless).trans hwindow.symm
  kept := hkept
  recorded := fun i hi _ => hkept.recorded_of_recorded hrecorded i hi
  length := h.length.trans (congrArg List.length hpending.symm)
  executing := by
    intro j p hp
    rw [hpending, hnil] at hp
    cases hp

theorem beginFrame_cases (s : RendererSystem) :
    s.beginFrame = .renderFrame ∨ s.beginFrame = .renderFrameHeadless := by
  unfold RendererSystem.beginFrame
  split
  · exact Or.inr rfl
  · exact Or.inl rfl

/-- Between frames no view is cleared. -/
theorem not_cleared {phase : Phase} (h : phase = .idle) (i : Nat) : ¬ phase.Cleared i := by
  rw [h]
  exact id

/-- A frame is begun. -/
theorem beginFrame (hframes : FramesOk n s.frames) (he : s.frames.Enabled s.beginFrame) :
    FramesOk n (s.frames.next s.beginFrame) ∧
      (s.frames.next s.beginFrame).pending = s.frames.pending := by
  obtain heq | heq := beginFrame_cases s
  · rw [heq] at he ⊢
    exact ⟨hframes.step he trivial (by simp) (by simp), rfl⟩
  · rw [heq] at he ⊢
    exact ⟨hframes.step he trivial (by simp) (by simp), rfl⟩

/-- A frame can be begun between frames. -/
theorem enabled_beginFrame_iff (h : s.frames.headless = s.renderer.headless) :
    s.frames.Enabled s.beginFrame ↔ s.frames.phase = .idle := by
  unfold RendererSystem.beginFrame
  cases hheadless : s.renderer.headless <;> simp [FrameSystem.Enabled, h, hheadless]

/-- `render()` begins a frame. -/
theorem render (h : InFlightInv n s) (he : s.Enabled .render) : InFlightInv n (s.next .render) := by
  obtain ⟨hframes, hpending⟩ := beginFrame h.frames he
  exact h.move hframes (s.frames.headless_next _) hpending fun i hi =>
    absurd hi (not_cleared ((enabled_beginFrame_iff h.headless).mp he) i)

/-- A new list begins to clear the views. -/
theorem renderDraws (h : InFlightInv n s) {draws : RendererDrawList}
    (he : s.Enabled (.renderDraws draws)) : InFlightInv n (s.next (.renderDraws draws)) :=
  h.move (h.frames.step he.1 trivial (by simp) (by simp)) (s.frames.headless_next _)
    (s.frames.pending_next (by simp) (by simp) (by simp))
    fun i hi => absurd hi (not_cleared he.1 i)

/-- One view more is cleared. -/
theorem reset (h : InFlightInv n s) {i : Nat} (he : s.Enabled (.reset i))
    (hidle : s.renderer.headless = true → s.frames.pending = []) :
    InFlightInv n (s.next (.reset i)) where
  frames := h.frames.step (e := .reset i) he trivial (by simp)
    fun _ _ hheadless => hidle (h.headless ▸ hheadless)
  headless := (s.frames.headless_next _).trans h.headless
  kept := { h.kept with pool := (List.length_set).trans h.kept.pool }
  recorded := by
    intro k hk hnot
    have hge : ¬ k < i + 1 := fun hlt => hnot (s.frames.cleared_clearFrom hlt)
    have hbefore : ¬ s.frames.phase.Cleared k := by
      rw [he.1]
      show ¬ k < i
      omega
    show (s.renderer.commandPool.set i none)[k]? = _
    rw [List.getElem?_set_ne (by omega)]
    exact h.recorded k hk hbefore
  length := h.length.trans (congrArg List.length
    (s.frames.pending_next (e := .reset i) (by simp) (by simp) (by simp)).symm)
  executing := fun j p hp => h.executing j p
    ((s.frames.pending_next (e := .reset i) (by simp) (by simp) (by simp)) ▸ hp)

/-- All views are recorded with the new list, with nothing in flight. -/
theorem record (h : InFlightInv n s) (he : s.Enabled .record) : InFlightInv n (s.next .record) := by
  have hnil := h.frames.recorded he
  have hframes : FramesOk n (s.frames.next .record) :=
    h.frames.step he trivial (by simp) (by simp)
  have hidle : FrameSystem.Enabled (s.frames.next .record) s.beginFrame :=
    (enabled_beginFrame_iff (s := { s with frames := s.frames.next .record }) h.headless).mpr rfl
  have hbegin := beginFrame (s := { s with frames := s.frames.next .record }) hframes hidle
  obtain ⟨hwindow, _, _, hpool, _⟩ := s.renderer.recordDrawList_spec s.supplied
  have hkept := h.kept.recordDrawList s.supplied
  refine h.rebuilt hbegin.1 (FrameSystem.headless_next _ _) hbegin.2 hnil hwindow
    hkept.recordRenderingCommands (RendererVulkan.recorded_recordRenderingCommands _ ?_)
  rw [hkept.pool, hkept.viewCount]
  exact Nat.le_succ n

/-- An acquisition that finds the swapchain out of date rebuilds everything. -/
theorem acquire (h : InFlightInv n s) {code : AcquireCode} (he : s.Enabled (.acquire code))
    (hcode : ∀ i, code = .success i → i < n)
    (hidle : code = .errorOutOfDate → s.frames.pending = []) :
    InFlightInv n (s.next (.acquire code)) := by
  have hframes : FramesOk n (s.frames.next (.acquire code)) :=
    h.frames.step he hcode (by simp) (by simp)
  have hpending : (s.frames.next (.acquire code)).pending = s.frames.pending :=
    s.frames.pending_next (by simp) (by simp) (by simp)
  have hcleared : ∀ i, s.frames.phase.Cleared i →
      (s.frames.next (.acquire code)).phase.Cleared i := by
    intro i hi
    rw [he.1] at hi
    exact hi.elim
  cases code with
  | success i => exact h.move hframes (s.frames.headless_next _) hpending hcleared
  | other => exact h.move hframes (s.frames.headless_next _) hpending hcleared
  | errorOutOfDate =>
      exact h.rebuilt hframes (s.frames.headless_next _) hpending (hidle rfl)
        s.renderer.headless_handleResize (.handleResize h.kept.viewCount)
        s.renderer.recorded_handleResize

/-- What a submission adds to what is pending. -/
theorem endFrame (hframes : FramesOk n s.frames) (he : s.frames.Enabled s.endFrame) :
    FramesOk n (s.frames.next s.endFrame) ∧
    (∃ p, (s.frames.next s.endFrame).pending = s.frames.pending ++ [p] ∧
      p.commandBuffer = s.frames.admin.curImageIndex) ∧
    s.frames.admin.curImageIndex < n ∧ ∀ i, ¬ s.frames.phase.Cleared i := by
  unfold RendererSystem.endFrame at he ⊢
  split at he
  · next hheadless =>
    simp only [hheadless, if_true]
    refine ⟨hframes.step he trivial (by simp) (by simp), ⟨_, rfl, rfl⟩,
      hframes.current_lt (Or.inr he.1), fun i => ?_⟩
    rw [he.1]
    exact id
  · next hheadless =>
    simp only [hheadless]
    refine ⟨hframes.step he trivial (by simp) (by simp), ⟨_, rfl, rfl⟩,
      hframes.current_lt (Or.inl he.1), fun i => ?_⟩
    rw [he.1]
    exact id

/-- What is submitted is what the view was recorded with. -/
theorem submit (h : InFlightInv n s) (he : s.Enabled .submit) : InFlightInv n (s.next .submit) := by
  obtain ⟨hframes, ⟨p, hpending, hp⟩, hlt, hcleared⟩ := endFrame h.frames he
  have hsubmitted : s.renderer.commandPool[s.frames.admin.curImageIndex]?.join =
      some (s.renderer.recording p.commandBuffer) := by
    rw [hp, h.recorded _ hlt (hcleared _)]
    rfl
  refine ⟨hframes, (s.frames.headless_next _).trans h.headless, { h.kept with },
    fun i hi _ => h.recorded i hi (hcleared i), ?_, fun j q hq => ?_⟩
  · show (s.executing ++ [_]).length = (s.frames.next s.endFrame).pending.length
    rw [hpending, List.length_append, List.length_append, h.length]
    rfl
  · show (s.executing ++ [_])[j]? = some (some (s.renderer.recording q.commandBuffer))
    rw [show (s.next .submit).frames = s.frames.next s.endFrame from rfl, hpending] at hq
    rw [hsubmitted]
    by_cases hj : j < s.frames.pending.length
    · rw [List.getElem?_append_left hj] at hq
      rw [List.getElem?_append_left (h.length ▸ hj)]
      exact h.executing j q hq
    · have hge : s.frames.pending.length ≤ j := Nat.le_of_not_lt hj
      rw [List.getElem?_append_right hge] at hq
      rw [List.getElem?_append_right (h.length ▸ hge), h.length]
      have hzero : j - s.frames.pending.length = 0 := by
        simpa using (List.getElem?_eq_some_iff.mp hq).1
      rw [hzero] at hq ⊢
      rw [Option.some.inj hq.symm]
      rfl

/-- The renderer has waited before it makes the command pool again. -/
theorem setClearColour (h : InFlightInv n s) {clearColour : ClearColour}
    (he : s.Enabled (.setClearColour clearColour)) :
    InFlightInv n (s.next (.setClearColour clearColour)) :=
  h.rebuilt h.frames rfl rfl he.2 rfl (h.kept.setClearColour clearColour)
    (RendererVulkan.recorded_initialiseCommandPool _)

/-- The device has waited before it makes the swapchain again. -/
theorem windowResize (h : InFlightInv n s) (he : s.Enabled .windowResize) :
    InFlightInv n (s.next .windowResize) := by
  have hframes : s.frames.next (.recreateSwapchain s.frames.viewCount) = s.frames := rfl
  have hnext : s.next .windowResize =
      { s with renderer := s.renderer.onWindowResize s.frames.viewCount } := by
    rw [RendererSystem.next, hframes]
  rw [hnext, h.frames.viewCount_eq]
  refine h.rebuilt h.frames rfl rfl he.2.2 ?_ h.kept.onWindowResize ?_
  · unfold RendererVulkan.onWindowResize
    split
    · exact s.renderer.headless_handleResize
    · exact RendererVulkan.headless_handleResize _
  · unfold RendererVulkan.onWindowResize
    split
    · exact s.renderer.recorded_handleResize
    · exact RendererVulkan.recorded_handleResize _

/-- A completed submission is no longer executed. -/
theorem complete (h : InFlightInv n s) {j : Nat} (he : s.Enabled (.complete j)) :
    InFlightInv n (s.next (.complete j)) := by
  have hlt : j < s.frames.pending.length := he
  have hnext : s.frames.next (.complete j) =
      { s.frames with
        pending := s.frames.pending.eraseIdx j
        admin := s.frames.admin.signalFence s.frames.pending[j].fence } := by
    simp only [FrameSystem.next, FrameSystem.complete, List.getElem?_eq_getElem hlt]
  have hframes : FramesOk n (s.frames.next (.complete j)) :=
    h.frames.step he trivial (by simp) (by simp)
  refine ⟨hframes, (s.frames.headless_next _).trans h.headless, h.kept, ?_, ?_, ?_⟩
  · intro i hi hnot
    refine h.recorded i hi fun hc => hnot ?_
    show (s.frames.next (.complete j)).phase.Cleared i
    rwa [hnext]
  · show (s.executing.eraseIdx j).length = (s.frames.next (.complete j)).pending.length
    rw [hnext, List.length_eraseIdx, List.length_eraseIdx, h.length]
  · intro k p hp
    show (s.executing.eraseIdx j)[k]? = some (some (s.renderer.recording p.commandBuffer))
    have hpending : (s.frames.pending.eraseIdx j)[k]? = some p := by
      rw [show (s.next (.complete j)).frames = s.frames.next (.complete j) from rfl, hnext] at hp
      exact hp
    rw [List.getElem?_eraseIdx] at hpending ⊢
    split at hpending
    · next hk =>
      rw [if_pos hk]
      exact h.executing k p hpending
    · next hk =>
      rw [if_neg hk]
      exact h.executing (k + 1) p hpending

/-- **Step**: with nothing in flight where the host does not wait, the invariant is kept. -/
theorem step (h : InFlightInv n s) {e : RendererEvent} (he : s.Enabled e) (hok : e.Acquires n)
    (hidle : e.Disturbs s.renderer.headless → s.frames.pending = []) :
    InFlightInv n (s.next e) := by
  cases e with
  | render => exact h.render he
  | renderDraws draws => exact h.renderDraws he
  | reset i => exact h.reset he fun hheadless => hidle (Or.inr ⟨hheadless, i, rfl⟩)
  | record => exact h.record he
  | acquire code =>
      exact h.acquire he (fun i hi => hok i (by rw [hi]))
        fun hcode => hidle (Or.inl (by rw [hcode]))
  | submit => exact h.submit he
  | setClearColour clearColour => exact h.setClearColour he
  | windowResize => exact h.windowResize he
  | complete j => exact h.complete he

/-- What is in flight when it is disturbed is not all there any more. -/
theorem not_alive (h : InFlightInv n s) {e : RendererEvent} (he : s.Enabled e)
    (hdisturbs : e.Disturbs s.renderer.headless) (hpending : s.frames.pending ≠ []) :
    ¬ Alive (s.next e) := by
  intro halive
  obtain ⟨p, hp⟩ := List.exists_mem_of_ne_nil _ hpending
  obtain ⟨j, hlt, hj⟩ := List.getElem_of_mem hp
  have hget : s.frames.pending[j]? = some p := by rw [List.getElem?_eq_getElem hlt, hj]
  obtain rfl | ⟨hheadless, i, rfl⟩ := hdisturbs
  · -- the pipeline has been replaced
    obtain ⟨c, hc, -, howns⟩ := halive j p hget
    have hc' : s.executing[j]? = some (some c) := hc
    rw [h.executing j p hget, Option.some.injEq, Option.some.injEq] at hc'
    have hpipeline : s.renderer.pipeline = s.renderer.nextId :=
      calc s.renderer.pipeline = c.pipeline := by rw [← hc']; rfl
        _ = s.renderer.handleResize.pipeline := howns.pipeline
        _ = s.renderer.nextId := s.renderer.pipeline_handleResize
    exact absurd hpipeline (Nat.ne_of_lt h.kept.pipeline_lt)
  · -- the command buffer has been reset
    cases h.frames with
    | windowed _ hframes _ =>
        rw [← h.headless, hframes.windowed] at hheadless
        cases hheadless
    | headless _ hframes =>
        have hreset : (s.next (.reset i)).renderer.commandPool[p.commandBuffer]? = some none := by
          show (s.renderer.commandPool.set i none)[p.commandBuffer]? = some none
          rw [hframes.pending p hp, hframes.cleared i he.1]
          exact List.getElem?_set_self (by rw [h.kept.pool]; exact Nat.succ_pos n)
        have hsame : (s.next (.reset i)).frames.pending = s.frames.pending :=
          s.frames.pending_next (e := .reset i) (by simp) (by simp) (by simp)
        obtain ⟨c, -, hpool, -⟩ := halive j p (hsame ▸ hget)
        rw [hreset] at hpool
        cases hpool

/-- **Run**: the invariant makes the two properties of runs the same. -/
theorem aliveRun_iff (h : InFlightInv n s) {es : List RendererEvent} {t : RendererSystem}
    (hes : ∀ e ∈ es, e.Acquires n) (hrun : RendererSystem.machine.run s es = some t) :
    AliveRun s es ↔ UndisturbedRun s es := by
  induction es generalizing s with
  | nil => exact iff_of_true h.alive trivial
  | cons e es ih =>
      obtain ⟨he, hrest⟩ := (RendererSystem.machine.run_cons).mp hrun
      have hok := hes e List.mem_cons_self
      have hrestOk : ∀ e' ∈ es, e'.Acquires n := fun e' h' => hes e' (List.mem_cons_of_mem e h')
      rw [AliveRun, UndisturbedRun]
      by_cases hidle : e.Disturbs s.renderer.headless → s.frames.pending = []
      · rw [ih (h.step he hok hidle) hrestOk hrest]
        exact and_congr_left fun _ => iff_of_true h.alive hidle
      · obtain ⟨hdisturbs, hpending⟩ := Classical.not_imp.mp hidle
        have hdead := h.not_alive he hdisturbs hpending
        refine iff_of_false (fun hrun => ?_) fun hrun => hidle hrun.1
        cases es with
        | nil => exact hdead hrun.2
        | cons _ _ => exact hdead hrun.2.1

end InFlightInv

/-! ## runs -/

/-- A constructor leaves a renderer whose parts fit together. -/
theorem kept_recorded (config : RendererConfig) :
    Kept config.initialViewCount (RendererVulkan.recorded config) := by
  have hpool : (RendererVulkan.members config).commandPool.length = config.initialViewCount + 1 :=
    (List.length_replicate).trans (congrArg (· + 1) (getViewCount_members config))
  refine Kept.recordRenderingCommands ?_
  rw [RendererVulkan.initialiseResourceDescriptors_eq]
  unfold RendererVulkan.setupDepthImageIfRequired
  split
  · exact ⟨getViewCount_members config, hpool, rfl, (by decide : 1 < 5)⟩
  · exact ⟨getViewCount_members config, hpool, rfl, (by decide : 1 < 4)⟩

/-- The first `set_clear_colour` records the views with the indirect buffers there are. -/
theorem inFlightInv_start (config : RendererConfig) (clearColour : ClearColour)
    (hviews : config.headless = false → config.viewCount ≤ 2) :
    InFlightInv config.initialViewCount (.start config clearColour) := by
  have hheadless : (RendererVulkan.create config).headless = config.headless :=
    (RendererVulkan.create_fields config).1
  have hkept : Kept config.initialViewCount
      ((RendererVulkan.create config).setClearColour clearColour) :=
    ((kept_recorded config).recordDrawList _).setClearColour clearColour
  refine ⟨?_, hheadless.symm, hkept, fun i hi _ => hkept.recorded_of_recorded
    (RendererVulkan.recorded_initialiseCommandPool _) i hi, rfl, by simp [RendererSystem.start,
      FrameSystem.create]⟩
  have hdepth : ((RendererVulkan.create config).setClearColour clearColour).frameDepth =
      if config.headless then 1 else 2 := by
    show (if (RendererVulkan.create config).headless then 1 else 2) = _
    rw [hheadless]
  rw [RendererSystem.start, hdepth]
  cases hwindow : config.headless with
  | true =>
      have hone : config.initialViewCount = 1 := if_pos hwindow
      exact .headless hone { HeadlessInv.create config.initialViewCount with }
  | false =>
      have hcount : config.initialViewCount = config.viewCount := if_neg (by simp [hwindow])
      exact .windowed (hcount ▸ hviews hwindow) { FrameInv.create (d := 2) (by decide) with }
        { WaitInv.create 2 config.initialViewCount with }

/-- **Frames in flight**: for a renderer whose first call sets its clear colour, and with window
resizes that leave the number of swapchain images as it is, whatever order it is used in and the GPU
completes frames in, everything that is executed is still there in every state exactly when nothing
is in flight whenever an acquisition finds the swapchain out of date and, without a window, whenever
a new draw list has the command buffer reset. -/
theorem frames_in_flight_alive_iff (config : RendererConfig) (clearColour : ClearColour)
    (hviews : config.headless = false → config.viewCount ≤ 2) (es : List RendererEvent)
    (hes : ∀ e ∈ es, e.Acquires config.initialViewCount) (t : RendererSystem)
    (hrun : RendererSystem.machine.run (.start config clearColour) es = some t) :
    AliveRun (.start config clearColour) es ↔ UndisturbedRun (.start config clearColour) es :=
  (inFlightInv_start config clearColour hviews).aliveRun_iff hes hrun

/-- Two frames in flight, and a new draw list that waits for both. -/
def twoInFlight : List RendererEvent :=
  [.render, .acquire (.success 0), .submit, .render, .acquire (.success 1), .submit,
   .renderDraws [], .complete 0, .reset 0, .complete 0, .reset 1, .record,
   .acquire .errorOutOfDate]

theorem frames_in_flight_alive_twoInFlight :
    AliveRun (.start onePoint ⟨0, 0, 0, 0⟩) twoInFlight := by
  refine (frames_in_flight_alive_iff onePoint ⟨0, 0, 0, 0⟩ (by decide) twoInFlight ?_ _ rfl).mpr ?_
  · simp [twoInFlight, RendererEvent.Acquires, onePoint, RendererConfig.initialViewCount]
  · simp [twoInFlight, UndisturbedRun, RendererEvent.Disturbs]
    exact ⟨fun h => absurd (show false = true from h) (by decide),
      fun h => absurd (show false = true from h) (by decide), rfl⟩

end Vk
end Topaz
