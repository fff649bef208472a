import Topaz.Vk.Renderer

/-!
# Topaz.Vk.Coherence

Whether the commands a Vulkan renderer submits are up to date: recorded against the
indirect buffers it owns, with the counts of the draw list in force.

Every operation that changes the draw list or the pool records all views again
(`Recorded`), except for the constructor, which records them first and the draw
list after: until something else makes the renderer record again, what it submits
draws nothing.
-/

namespace Topaz
namespace Vk

/-! ## coherence -/

/-- Command buffer `i` was recorded against the indirect buffers the renderer owns,
with the counts of `draws`. -/
def CoherentAt (draws : RendererDrawList) (r : RendererVulkan) (i : Nat) : Prop :=
  ∃ c, r.commandPool[i]? = some (some c) ∧ ∀ a,
    (c.drawOf a).map DrawIndirect.buffer = (r.indirectOf a).map IndirectBuffer.id ∧
    ((c.drawOf a).map fun d => d.drawCount.toNat).getD 0 = (handlesOf a r.inputs draws).length

namespace RendererOp

/-- The draw list in force during an operation. -/
def inForce (supplied : RendererDrawList) : RendererOp → RendererDrawList
  | .renderDraws draws _ => draws
  | _ => supplied

/-- The outcome of the acquisition an operation makes. -/
def code : RendererOp → Option AcquireCode
  | .render code => some code
  | .renderDraws _ code => some code
  | _ => none

/-- The operation submits a command buffer. -/
def Submits (headless : Bool) (op : RendererOp) : Prop :=
  ∃ code, op.code = some code ∧ (headless = true ∨ ∃ i, code = .success i)

/-- The operation records the views again, given that the default draw list is in
force. -/
def Refreshes (headless : Bool) (inputs : List RendererInput) : RendererOp → Prop
  | .render code => headless = false ∧ code = .errorOutOfDate
  | .renderDraws draws code =>
      draws ≠ allInputsOnce inputs ∨ (headless = false ∧ code = .errorOutOfDate)
  | _ => True

end RendererOp

open RendererOp

/-- Every submission of a run is coherent with the draw list in force, `supplied`
being the one in force before. -/
def CoherentRun : RendererVulkan → RendererDrawList → List RendererOp → Prop
  | _, _, [] => True
  | r, supplied, op :: ops =>
      (∀ s i, r.submission op = some (s, i) → CoherentAt (op.inForce supplied) s i) ∧
      CoherentRun (r.step op) (op.inForce supplied) ops

/-- The swapchain only hands out indices of its images. -/
def PromisedRun : RendererVulkan → List RendererOp → Prop
  | _, [] => True
  | r, op :: ops =>
      (∀ i, op.code = some (.success i) → i < r.getViewCount) ∧ PromisedRun (r.step op) ops

/-- Something makes the renderer record its views again before, or when, it first
submits. -/
def RefreshedFirst (headless : Bool) (inputs : List RendererInput) : List RendererOp → Prop
  | [] => True
  | op :: ops => op.Refreshes headless inputs ∨
      ¬ op.Submits headless ∧ RefreshedFirst headless inputs ops

/-- Every draw list in force at a submission has counts of 32 bits. -/
def CountsFit (headless : Bool) (inputs : List RendererInput) :
    RendererDrawList → List RendererOp → Prop
  | _, [] => True
  | supplied, op :: ops =>
      (op.Submits headless →
        ∀ a, (handlesOf a inputs (op.inForce supplied)).length < 2 ^ 32) ∧
      CountsFit headless inputs (op.inForce supplied) ops

/-! ## what every operation keeps -/

/-- The command pool has its size, and there is an indirect buffer for either access
that the cached list draws. -/
structure Steady (r : RendererVulkan) : Prop where
  pool : r.commandPool.length = r.getViewCount + 1
  counter : r.headless = true → r.frameCounter = 0
  buffers : ∀ a, r.indirectOf a = none ↔ handlesOf a r.inputs r.drawCache = []

/-- The views are recorded as they would be now. -/
def Recorded (r : RendererVulkan) : Prop :=
  ∀ i, i < r.getViewCount → r.commandPool[i]? = some (some (r.recording i))

namespace RendererVulkan

variable (r : RendererVulkan)

theorem drawOf_recording (i : Nat) (a : RendererInputDataAccess) :
    (r.recording i).drawOf a =
      (r.indirectOf a).map fun b => ⟨b.id, (r.numDraws a).setWidth 32⟩ := by
  cases a <;> rfl

theorem recorded_recordRenderingCommands (h : r.getViewCount ≤ r.commandPool.length) :
    Recorded r.recordRenderingCommands := by
  intro i hi
  have hlt : i < r.getViewCount := hi
  have hpool : i < r.commandPool.length := Nat.lt_of_lt_of_le hlt h
  rw [recordRenderingCommands, List.getElem?_mapIdx, List.getElem?_eq_getElem hpool,
    Option.map_some, if_pos hlt]
  rfl

theorem steady_recordRenderingCommands (h : Steady r) : Steady r.recordRenderingCommands where
  pool := by
    rw [recordRenderingCommands, List.length_mapIdx]
    exact h.pool
  counter := h.counter
  buffers := h.buffers

/-- A fresh pool, recorded. -/
theorem recorded_initialiseCommandPool :
    Recorded r.initialiseCommandPool.recordRenderingCommands := by
  refine recorded_recordRenderingCommands _ ?_
  have hlen : r.initialiseCommandPool.commandPool.length = r.getViewCount + 1 :=
    List.length_replicate
  rw [hlen]
  exact Nat.le_succ _

/-- A headless renderer has one frame in flight, so its counter stays at zero. -/
theorem steady_nextFrame (h : Steady r) :
    Steady { r with frameCounter := (r.frameCounter + 1) % r.frameDepth } where
  pool := h.pool
  counter := fun hheadless => by
    have hdepth : r.frameDepth = 1 := if_pos hheadless
    show (r.frameCounter + 1) % r.frameDepth = 0
    rw [hdepth, Nat.mod_one]
  buffers := h.buffers

/-! ## draw lists -/

theorem newIndirect_eq_none_iff (id : Nat) (cmds : List DrawIndirectCommand) :
    newIndirect id cmds = none ↔ cmds = [] := by
  unfold newIndirect
  cases cmds <;> simp

theorem internalDraws_of_eq_nil_iff (a : RendererInputDataAccess) (inputs : List RendererInput)
    (draws : RendererDrawList) :
    (internalDraws inputs draws).of a = [] ↔ handlesOf a inputs draws = [] := by
  rw [internalDraws, commands_internalDraws (by decide) (by decide), List.map_eq_nil_iff]

theorem buffers_recordDrawList {draws : RendererDrawList} (h : r.drawCache ≠ draws)
    (a : RendererInputDataAccess) :
    (r.recordDrawList draws).indirectOf a = none ↔ handlesOf a r.inputs draws = [] := by
  have hmatch : ¬ r.drawsMatchCache draws = true := mt r.drawsMatchCache_iff.mp h
  rw [← internalDraws_of_eq_nil_iff, recordDrawList, if_neg hmatch]
  cases a <;> exact newIndirect_eq_none_iff _ _

end RendererVulkan

/-! ## fresh states -/

/-- The renderer `r'`, made from `r`, has its views recorded for `draws`. -/
structure FreshFrom (r : RendererVulkan) (draws : RendererDrawList) (r' : RendererVulkan) :
    Prop where
  headless : r'.headless = r.headless
  inputs : r'.inputs = r.inputs
  drawCache : r'.drawCache = draws
  steady : Steady r'
  recorded : Recorded r'

namespace FreshFrom

variable {r r' s : RendererVulkan} {draws : RendererDrawList}

/-- A new pool recorded by a renderer `s` that draws the same as `r`. -/
theorem rebuilt (h : Steady r) (hheadless : s.headless = r.headless)
    (hinputs : s.inputs = r.inputs) (hcache : s.drawCache = r.drawCache)
    (hcounter : s.frameCounter = r.frameCounter) (hindirect : s.indirectOf = r.indirectOf) :
    FreshFrom r r.drawCache s.initialiseCommandPool.recordRenderingCommands := by
  refine ⟨hheadless, hinputs, hcache, ?_, RendererVulkan.recorded_initialiseCommandPool _⟩
  refine RendererVulkan.steady_recordRenderingCommands _ ⟨List.length_replicate, ?_, ?_⟩
  · show s.headless = true → s.frameCounter = 0
    rw [hheadless, hcounter]
    exact h.counter
  · show ∀ a, s.indirectOf a = none ↔ handlesOf a s.inputs s.drawCache = []
    rw [hindirect, hinputs, hcache]
    exact h.buffers

theorem trans {r'' : RendererVulkan} {draws' : RendererDrawList} (h : FreshFrom r draws r')
    (h' : FreshFrom r' draws' r'') : FreshFrom r draws' r'' :=
  ⟨h'.headless.trans h.headless, h'.inputs.trans h.inputs, h'.drawCache, h'.steady, h'.recorded⟩

theorem handleResize (h : Steady r) : FreshFrom r r.drawCache r.handleResize := by
  obtain ⟨pipeline, depth, id, heq⟩ := r.handleResize_eq
  rw [heq]
  exact rebuilt h rfl rfl rfl rfl rfl

theorem onWindowResize (h : Steady r) (viewCount : Nat) :
    FreshFrom r r.drawCache (r.onWindowResize viewCount) := by
  unfold RendererVulkan.onWindowResize
  split
  · exact handleResize h
  · -- the new swapchain changes the view count, and with it the pool that is due
    obtain ⟨pipeline, depth, id, heq⟩ := RendererVulkan.handleResize_eq
      { r with views := swapchainViews r.nextId viewCount, nextId := r.nextId + 1 }
    rw [heq]
    exact rebuilt h rfl rfl rfl rfl rfl

theorem setClearColour (h : Steady r) (clearColour : ClearColour) :
    FreshFrom r r.drawCache (r.setClearColour clearColour) :=
  rebuilt h rfl rfl rfl rfl rfl

/-- A draw list that is not cached is recorded, and the views are with it. -/
theorem supply (h : Steady r) (hne : r.drawCache ≠ draws) :
    FreshFrom r draws (r.supply draws) := by
  have hmatch : ¬ r.drawsMatchCache draws = true := mt r.drawsMatchCache_iff.mp hne
  have hcleared : r.clearRenderingCommands.drawCache ≠ draws := hne
  obtain ⟨hheadless, hinputs, hviews, hpool, hcounter, hcache⟩ :=
    r.clearRenderingCommands.recordDrawList_spec draws
  have hlen : (r.clearRenderingCommands.recordDrawList draws).commandPool.length =
      (r.clearRenderingCommands.recordDrawList draws).getViewCount + 1 := by
    rw [hpool, RendererVulkan.getViewCount, hheadless, hviews]
    rw [RendererVulkan.clearRenderingCommands, List.length_mapIdx]
    exact h.pool
  rw [RendererVulkan.supply, if_neg hmatch]
  refine ⟨hheadless, hinputs, hcache, ?_, RendererVulkan.recorded_recordRenderingCommands _ ?_⟩
  · refine RendererVulkan.steady_recordRenderingCommands _ ⟨hlen, ?_, fun a => ?_⟩
    · rw [hheadless, hcounter]
      exact h.counter
    · rw [hinputs, hcache]
      exact RendererVulkan.buffers_recordDrawList _ hcleared a
  · rw [hlen]
    exact Nat.le_succ _

end FreshFrom

/-! ## rendering -/

namespace RendererVulkan

variable (r : RendererVulkan)

theorem submits_ne_none_iff (code : AcquireCode) :
    r.submits code ≠ none ↔ r.headless = true ∨ ∃ i, code = .success i := by
  unfold submits
  cases r.headless <;> cases code <;> simp [acquireNextImageIndex]

/-- What is submitted is the command buffer of a view. -/
theorem submits_lt (h : Steady r) {code : AcquireCode}
    (hcode : ∀ i, code = .success i → i < r.getViewCount) {i : Nat}
    (hi : r.submits code = some i) : i < r.getViewCount := by
  unfold submits at hi
  split at hi
  · next hheadless =>
    rw [← Option.some.inj hi, h.counter hheadless, getViewCount, if_pos hheadless]
    exact Nat.one_pos
  · cases code with
    | success j => exact hcode i (congrArg _ (Option.some.inj hi))
    | errorOutOfDate => contradiction
    | other => contradiction

end RendererVulkan

namespace FreshFrom

variable {r : RendererVulkan}

theorem refl (hs : Steady r) (hr : Recorded r) : FreshFrom r r.drawCache r :=
  ⟨rfl, rfl, rfl, hs, hr⟩

theorem supply_any (hs : Steady r) (hr : Recorded r) (draws : RendererDrawList) :
    FreshFrom r draws (r.supply draws) := by
  by_cases hcache : r.drawCache = draws
  · rw [r.supply_of_eq hcache, ← hcache]
    exact refl hs hr
  · exact supply hs hcache

theorem processorRender (hs : Steady r) (hr : Recorded r) (code : AcquireCode) :
    FreshFrom r r.drawCache (r.processorRender code) :=
  r.processorRender_rule code ⟨rfl, rfl, rfl, r.steady_nextFrame hs, hr⟩ (handleResize hs)
    (refl hs hr)

theorem renderDraws {draws : RendererDrawList} (hf : FreshFrom r draws (r.supply draws))
    (code : AcquireCode) : FreshFrom r draws (r.step (.renderDraws draws code)) := by
  have hrender := processorRender hf.steady hf.recorded code
  rw [hf.drawCache] at hrender
  exact hf.trans hrender

/-- **Step**: every operation leaves the views recorded for the list in force. -/
theorem step (hs : Steady r) (hr : Recorded r) (op : RendererOp) :
    FreshFrom r (op.inForce r.drawCache) (r.step op) := by
  cases op with
  | render code => exact processorRender hs hr code
  | renderDraws draws code => exact renderDraws (supply_any hs hr draws) code
  | setClearColour clearColour => exact setClearColour hs clearColour
  | handleResize => exact handleResize hs
  | windowResize viewCount => exact onWindowResize hs viewCount

end FreshFrom

/-- Views recorded as they would be now are coherent with the cached list as far as
its counts fit in 32 bits. -/
theorem Recorded.coherentAt_iff {r : RendererVulkan} (hs : Steady r) (hr : Recorded r) {i : Nat}
    (hi : i < r.getViewCount) :
    CoherentAt r.drawCache r i ↔
      ∀ a, (handlesOf a r.inputs r.drawCache).length < 2 ^ 32 := by
  have hcount : ∀ a, (((r.recording i).drawOf a).map fun d => d.drawCount.toNat).getD 0 =
      (handlesOf a r.inputs r.drawCache).length % 2 ^ 32 := by
    intro a
    rw [r.drawOf_recording i a]
    cases hbuf : r.indirectOf a with
    | none =>
        rw [(hs.buffers a).mp hbuf]
        rfl
    | some b => exact toNat_setWidth_numDrawsOf a r.inputs r.drawCache
  constructor
  · intro h a
    obtain ⟨c, hc, hcoherent⟩ := h
    rw [hr i hi, Option.some.injEq, Option.some.injEq] at hc
    have hlen := (hcoherent a).2
    rw [← hc, hcount a] at hlen
    exact hlen ▸ Nat.mod_lt _ (by decide)
  · intro hfit
    refine ⟨r.recording i, hr i hi, fun a => ⟨?_, ?_⟩⟩
    · rw [r.drawOf_recording i a, Option.map_map]
      rfl
    · rw [hcount a, Nat.mod_eq_of_lt (hfit a)]

/-- What a renderer with fresh views submits is coherent as far as the counts fit. -/
theorem coherent_submits_iff {r : RendererVulkan} (hs : Steady r) (hr : Recorded r)
    (code : AcquireCode) (hcode : ∀ i, code = .success i → i < r.getViewCount) :
    (∀ s i, (r.submits code).map (fun i => (r, i)) = some (s, i) → CoherentAt r.drawCache s i) ↔
      ((r.headless = true ∨ ∃ i, code = .success i) →
        ∀ a, (handlesOf a r.inputs r.drawCache).length < 2 ^ 32) := by
  rw [← r.submits_ne_none_iff]
  cases hsub : r.submits code with
  | none => simp
  | some i =>
      have hi := r.submits_lt hs hcode hsub
      rw [← hr.coherentAt_iff hs hi]
      simp

/-- A submission that comes after the views have been recorded for its list. -/
theorem coherent_renderDraws_iff {r : RendererVulkan} {draws : RendererDrawList}
    (hf : FreshFrom r draws (r.supply draws)) (code : AcquireCode)
    (hcode : ∀ i, code = .success i → i < r.getViewCount) :
    (∀ s i, r.submission (.renderDraws draws code) = some (s, i) → CoherentAt draws s i) ↔
      ((RendererOp.renderDraws draws code).Submits r.headless →
        ∀ a, (handlesOf a r.inputs draws).length < 2 ^ 32) := by
  have hiff := coherent_submits_iff hf.steady hf.recorded code
    (by rw [r.getViewCount_supply]; exact hcode)
  rw [hf.drawCache, hf.headless, hf.inputs] at hiff
  simpa [RendererOp.Submits, RendererOp.code, RendererVulkan.submission] using hiff

/-- Operations that make no acquisition submit nothing. -/
theorem coherent_of_code_eq_none {r : RendererVulkan} {op : RendererOp}
    (hcode : op.code = none) (draws : RendererDrawList) (fits : Prop) :
    (∀ s i, r.submission op = some (s, i) → CoherentAt draws s i) ↔
      (op.Submits r.headless → fits) := by
  have hsub : r.submission op = none := by
    cases op <;> first | rfl | contradiction
  simp [hsub, RendererOp.Submits, hcode]

/-- The submission of one operation. -/
theorem coherent_submission_iff {r : RendererVulkan} (hs : Steady r) (hr : Recorded r)
    (op : RendererOp) (hcode : ∀ i, op.code = some (.success i) → i < r.getViewCount) :
    (∀ s i, r.submission op = some (s, i) → CoherentAt (op.inForce r.drawCache) s i) ↔
      (op.Submits r.headless →
        ∀ a, (handlesOf a r.inputs (op.inForce r.drawCache)).length < 2 ^ 32) := by
  cases op with
  | render code =>
      have hiff := coherent_submits_iff hs hr code fun i hi => hcode i (congrArg some hi)
      simpa [RendererOp.Submits, RendererOp.code, RendererVulkan.submission, inForce] using hiff
  | renderDraws draws code =>
      exact coherent_renderDraws_iff (FreshFrom.supply_any hs hr draws) code
        fun i hi => hcode i (congrArg some hi)
  | setClearColour clearColour => exact coherent_of_code_eq_none rfl _ _
  | handleResize => exact coherent_of_code_eq_none rfl _ _
  | windowResize viewCount => exact coherent_of_code_eq_none rfl _ _

/-- **Run of a fresh renderer**: all its submissions are coherent as far as the
counts fit. -/
theorem Recorded.coherentRun_iff {r : RendererVulkan} (hs : Steady r) (hr : Recorded r)
    {ops : List RendererOp} (hp : PromisedRun r ops) :
    CoherentRun r r.drawCache ops ↔ CountsFit r.headless r.inputs r.drawCache ops := by
  induction ops generalizing r with
  | nil => exact Iff.rfl
  | cons op ops ih =>
      have hf := FreshFrom.step hs hr op
      have hrest := ih hf.steady hf.recorded hp.2
      rw [hf.drawCache, hf.headless, hf.inputs] at hrest
      exact and_congr (coherent_submission_iff hs hr op hp.1) hrest

/-! ## after construction -/

/-- A renderer with inputs whose views have not been recorded since the constructor:
they draw nothing, and the default draw list is in force. -/
structure Stale (r : RendererVulkan) : Prop where
  steady : Steady r
  drawCache : r.drawCache = allInputsOnce r.inputs
  undrawn : ∀ (i : Nat) (c : Recording), r.commandPool[i]? = some (some c) →
    ∀ a, ((c.drawOf a).map fun d => d.drawCount.toNat).getD 0 = 0
  nonempty : r.inputs ≠ []

/-- The default draw list of a renderer with inputs draws something. -/
theorem exists_mem_handlesOf_allInputsOnce {inputs : List RendererInput} (h : inputs ≠ []) :
    ∃ a, handlesOf a inputs (allInputsOnce inputs) ≠ [] := by
  have hpos : 0 < inputs.length := List.length_pos_iff.mpr h
  refine ⟨inputs[0].dataAccess, List.ne_nil_of_mem (a := ⟨0⟩) (List.mem_filter.mpr ⟨?_, ?_⟩)⟩
  · exact List.mem_map.mpr ⟨0, List.mem_range.mpr hpos, rfl⟩
  · simp [accessOf, List.getElem?_eq_getElem hpos]

namespace Stale

variable {r : RendererVulkan}

theorem not_coherentAt (h : Stale r) (i : Nat) : ¬ CoherentAt (allInputsOnce r.inputs) r i := by
  intro hcoherent
  obtain ⟨c, hc, hdraws⟩ := hcoherent
  obtain ⟨a, ha⟩ := exists_mem_handlesOf_allInputsOnce h.nonempty
  have hcount := (hdraws a).2
  rw [h.undrawn i c hc a] at hcount
  exact ha (List.eq_nil_of_length_eq_zero hcount.symm)

/-- Rendering the default list again records nothing. -/
theorem supply (h : Stale r) : r.supply (allInputsOnce r.inputs) = r :=
  r.supply_of_eq h.drawCache

/-- What does not record again leaves the views as they are. -/
theorem processorRender (h : Stale r) {code : AcquireCode}
    (hcode : ¬ (r.headless = false ∧ code = .errorOutOfDate)) :
    Stale (r.processorRender code) ∧ (r.processorRender code).headless = r.headless ∧
      (r.processorRender code).inputs = r.inputs := by
  obtain ⟨_, _, heq⟩ | ⟨_, hheadless, hout, _⟩ | ⟨_, _, _, heq⟩ := r.processorRender_cases code
  · rw [heq]
    exact ⟨⟨r.steady_nextFrame h.steady, h.drawCache, h.undrawn, h.nonempty⟩, rfl, rfl⟩
  · exact absurd ⟨hheadless, hout⟩ hcode
  · rw [heq]
    exact ⟨h, rfl, rfl⟩

/-- What records again leaves fresh views, and submits only such. -/
theorem refresh (h : Stale r) {op : RendererOp} (hop : op.Refreshes r.headless r.inputs)
    (hcode : ∀ i, op.code = some (.success i) → i < r.getViewCount) :
    FreshFrom r (op.inForce r.drawCache) (r.step op) ∧
    ((∀ s i, r.submission op = some (s, i) → CoherentAt (op.inForce r.drawCache) s i) ↔
      (op.Submits r.headless →
        ∀ a, (handlesOf a r.inputs (op.inForce r.drawCache)).length < 2 ^ 32)) := by
  have houtofdate : r.headless = false →
      r.processorRender .errorOutOfDate = r.handleResize ∧ r.submits .errorOutOfDate = none := by
    intro hheadless
    simp [RendererVulkan.processorRender, RendererVulkan.submits, hheadless,
      acquireNextImageIndex]
  cases op with
  | render code =>
      obtain ⟨hheadless, hout⟩ := hop
      obtain ⟨hstep, hsub⟩ := houtofdate hheadless
      rw [hout]
      refine ⟨?_, by simp [RendererVulkan.submission, hsub, RendererOp.Submits, RendererOp.code,
        hheadless]⟩
      show FreshFrom r r.drawCache (r.processorRender .errorOutOfDate)
      rw [hstep]
      exact FreshFrom.handleResize h.steady
  | renderDraws draws code =>
      by_cases hdraws : r.drawCache = draws
      · -- the default list again: only an out-of-date swapchain makes it record
        cases hop with
        | inl hne => exact absurd (hdraws.symm.trans h.drawCache) hne
        | inr hout =>
            obtain ⟨hstep, hsub⟩ := houtofdate hout.1
            rw [hout.2]
            refine ⟨?_, by simp [RendererVulkan.submission, r.supply_of_eq hdraws, hsub,
              RendererOp.Submits, RendererOp.code, hout.1]⟩
            show FreshFrom r draws ((r.supply draws).processorRender .errorOutOfDate)
            rw [r.supply_of_eq hdraws, hstep, ← hdraws]
            exact FreshFrom.handleResize h.steady
      · have hf := FreshFrom.supply h.steady hdraws
        exact ⟨FreshFrom.renderDraws hf code,
          coherent_renderDraws_iff hf code fun i hi => hcode i (congrArg some hi)⟩
  | setClearColour clearColour =>
      exact ⟨FreshFrom.setClearColour h.steady clearColour, coherent_of_code_eq_none rfl _ _⟩
  | handleResize => exact ⟨FreshFrom.handleResize h.steady, coherent_of_code_eq_none rfl _ _⟩
  | windowResize viewCount =>
      exact ⟨FreshFrom.onWindowResize h.steady viewCount, coherent_of_code_eq_none rfl _ _⟩

/-- What does not record again is a rendering of the default list. -/
theorem exists_code (h : Stale r) {op : RendererOp}
    (hop : ¬ op.Refreshes r.headless r.inputs) :
    ∃ code, op.code = some code ∧ ¬ (r.headless = false ∧ code = .errorOutOfDate) ∧
      op.inForce (allInputsOnce r.inputs) = allInputsOnce r.inputs ∧
      r.step op = r.processorRender code ∧
      r.submission op = (r.submits code).map fun i => (r, i) := by
  cases op with
  | render code => exact ⟨code, rfl, hop, rfl, rfl, rfl⟩
  | renderDraws draws code =>
      simp only [RendererOp.Refreshes, not_or, not_not] at hop
      obtain ⟨hdraws, hcode⟩ := hop
      have hsupply : r.supply draws = r := hdraws ▸ h.supply
      exact ⟨code, rfl, hcode, hdraws, by rw [RendererVulkan.step, hsupply],
        by rw [RendererVulkan.submission, hsupply]⟩
  | setClearColour clearColour => exact absurd trivial hop
  | handleResize => exact absurd trivial hop
  | windowResize viewCount => exact absurd trivial hop

/-- **Run of a stale renderer**: it has to record its views again before it submits
any. -/
theorem coherentRun_iff (h : Stale r) {ops : List RendererOp} (hp : PromisedRun r ops) :
    CoherentRun r (allInputsOnce r.inputs) ops ↔
      RefreshedFirst r.headless r.inputs ops ∧
      CountsFit r.headless r.inputs (allInputsOnce r.inputs) ops := by
  induction ops generalizing r with
  | nil => simp [CoherentRun, RefreshedFirst, CountsFit]
  | cons op ops ih =>
      by_cases hop : op.Refreshes r.headless r.inputs
      · obtain ⟨hf, hsub⟩ := h.refresh hop hp.1
        have hrest := hf.recorded.coherentRun_iff hf.steady hp.2
        rw [hf.drawCache, hf.headless, hf.inputs] at hrest
        rw [h.drawCache] at hrest hsub
        simp only [CoherentRun, RefreshedFirst, CountsFit, hop, true_or, true_and]
        exact and_congr hsub hrest
      · obtain ⟨code, hcode, hdate, hforce, hstep, hsubmission⟩ := h.exists_code hop
        obtain ⟨hstale, hheadless, hinputs⟩ := h.processorRender hdate
        have hsubmits : op.Submits r.headless ↔ r.submits code ≠ none := by
          rw [r.submits_ne_none_iff, RendererOp.Submits, hcode]
          simp
        have hrest := ih hstale (hstep ▸ hp.2)
        rw [hheadless, hinputs] at hrest
        simp only [CoherentRun, RefreshedFirst, CountsFit, hop, false_or, hforce, hstep,
          hsubmission, hrest, hsubmits]
        cases hsub : r.submits code with
        | none => simp
        | some i => simp [h.not_coherentAt i]

end Stale

namespace RendererVulkan

variable (config : RendererConfig)

theorem length_commandPool_recorded :
    (recorded config).commandPool.length = (recorded config).getViewCount + 1 := by
  obtain ⟨depth, id, heq⟩ := recorded_eq config
  rw [heq, recordRenderingCommands, List.length_mapIdx]
  exact List.length_replicate

theorem recorded_recorded : Recorded (recorded config) := by
  obtain ⟨depth, id, heq⟩ := recorded_eq config
  rw [heq]
  refine recorded_recordRenderingCommands _ ?_
  show (members config).getViewCount ≤ (members config).commandPool.length
  have hlen : (members config).commandPool.length = (members config).getViewCount + 1 :=
    List.length_replicate
  rw [hlen]
  exact Nat.le_succ _

theorem recorded_fields : (recorded config).headless = config.headless ∧
    (recorded config).inputs = config.inputs ∧ (recorded config).drawCache = [] ∧
    (recorded config).frameCounter = 0 := by
  obtain ⟨depth, id, heq⟩ := recorded_eq config
  rw [heq]
  exact ⟨rfl, rfl, rfl, rfl⟩

/-- The views the constructor records draw nothing: no draw list has been cached. -/
theorem undrawn_recorded {i : Nat} {c : Recording}
    (h : (recorded config).commandPool[i]? = some (some c)) (a : RendererInputDataAccess) :
    ((c.drawOf a).map fun d => d.drawCount.toNat).getD 0 = 0 := by
  have hlen := length_commandPool_recorded config
  have hlt : i < (recorded config).commandPool.length := (List.getElem?_eq_some_iff.mp h).1
  obtain ⟨_, hinputs, hcache, _⟩ := recorded_fields config
  have hzero : ((numDrawsOf a config.inputs []).setWidth 32).toNat = 0 :=
    toNat_setWidth_numDrawsOf a config.inputs []
  by_cases hi : i < (recorded config).getViewCount
  · rw [recorded_recorded config i hi, Option.some.injEq, Option.some.injEq] at h
    rw [← h, drawOf_recording, numDraws, hinputs, hcache]
    cases (recorded config).indirectOf a with
    | none => rfl
    | some b => exact hzero
  · -- the scratch command buffer
    obtain ⟨depth, id, heq⟩ := recorded_eq config
    have hscratch : i = (members config).getViewCount := by
      rw [heq] at hi hlen hlt
      have hge : ¬ i < (members config).getViewCount := hi
      have hle : i < (members config).getViewCount + 1 := hlen ▸ hlt
      omega
    rw [heq, hscratch, recordRenderingCommands, List.getElem?_mapIdx, members,
      initialiseCommandPool] at h
    simp [getViewCount] at h

theorem create_of_nil (h : config.inputs = []) : create config = recorded config := by
  rw [create, h, recordDrawList]
  exact if_pos (decide_eq_true (recorded_fields config).2.2.1)

theorem create_fields : (create config).headless = config.headless ∧
    (create config).inputs = config.inputs ∧
    (create config).drawCache = allInputsOnce config.inputs := by
  obtain ⟨hheadless, hinputs, _⟩ := recorded_fields config
  obtain ⟨hh, hi, _, _, _, hc⟩ := (recorded config).recordDrawList_spec
    (allInputsOnce config.inputs)
  exact ⟨hh.trans hheadless, hi.trans hinputs, hc⟩

theorem steady_create : Steady (create config) := by
  obtain ⟨hheadless, hinputs, hcache, hcounter⟩ := recorded_fields config
  obtain ⟨hh, hi, hv, hp, hf, hc⟩ := (recorded config).recordDrawList_spec
    (allInputsOnce config.inputs)
  refine ⟨?_, fun _ => hf.trans hcounter, fun a => ?_⟩
  · rw [create, hp, length_commandPool_recorded, getViewCount, getViewCount, hh, hv]
  · by_cases hnil : config.inputs = []
    · obtain ⟨depth, id, heq⟩ := recorded_eq config
      rw [create_of_nil config hnil, hcache, heq]
      cases a <;> simp [indirectOf, recordRenderingCommands, members, initialiseCommandPool,
        hnil, numInputsOf, accumulate, initialIndirect, handlesOf]
    · have hne : (recorded config).drawCache ≠ allInputsOnce config.inputs := by
        rw [hcache]
        exact (allInputsOnce_ne_nil hnil).symm
      rw [create, hc, hi]
      exact buffers_recordDrawList _ hne a

theorem stale_create (h : config.inputs ≠ []) : Stale (create config) := by
  obtain ⟨_, hinputs, hcache⟩ := create_fields config
  refine ⟨steady_create config, by rw [hcache, hinputs], fun i c hc a => ?_, hinputs ▸ h⟩
  have hpool : (create config).commandPool = (recorded config).commandPool :=
    ((recorded config).recordDrawList_spec (allInputsOnce config.inputs)).2.2.2.1
  rw [hpool] at hc
  exact undrawn_recorded config hc a

end RendererVulkan

open RendererVulkan (create)

/-- **Coherence**: every submission of a run is coherent with the draw list in force
exactly when the renderer has no inputs or is made to record its views again before
it first submits any, and the counts of the lists in force fit in 32 bits. -/
theorem coherent_run_iff (config : RendererConfig) (ops : List RendererOp)
    (hp : PromisedRun (create config) ops) :
    CoherentRun (create config) (allInputsOnce config.inputs) ops ↔
      (config.inputs = [] ∨ RefreshedFirst config.headless config.inputs ops) ∧
      CountsFit config.headless config.inputs (allInputsOnce config.inputs) ops := by
  obtain ⟨hheadless, hinputs, hcache⟩ := RendererVulkan.create_fields config
  by_cases hnil : config.inputs = []
  · have hr : Recorded (create config) := by
      rw [RendererVulkan.create_of_nil config hnil]
      exact RendererVulkan.recorded_recorded config
    have hiff := hr.coherentRun_iff (RendererVulkan.steady_create config) hp
    rw [hcache, hheadless, hinputs] at hiff
    rw [hiff]
    simp [hnil]
  · have hiff := (RendererVulkan.stale_create config hnil).coherentRun_iff hp
    rw [hheadless, hinputs] at hiff
    rw [hiff]
    simp [hnil]

/-- A windowed renderer of one static point, with two swapchain images. -/
def onePoint : RendererConfig where
  headless := false
  inputs := [⟨.staticFixed, ⟨1, .perVertexBasis, []⟩, [10], [0]⟩]
  resources := []
  requiresDepthImage := false
  viewCount := 2

/-- Setting the clear colour first makes the renderer draw. -/
def clearedFirst : List RendererOp :=
  [.setClearColour ⟨0, 0, 0, 0⟩, .render (.success 0), .renderDraws [⟨0⟩, ⟨0⟩] (.success 1)]

theorem coherent_run_clearedFirst :
    CoherentRun (create onePoint) (allInputsOnce onePoint.inputs) clearedFirst :=
  (coherent_run_iff onePoint clearedFirst (by
    simp only [clearedFirst, PromisedRun, RendererOp.code]
    refine ⟨by simp, fun i hi => ?_, fun i hi => ?_, trivial⟩
    · cases hi; decide
    · cases hi; decide)).mpr
    ⟨Or.inr (Or.inl trivial), by
      simp only [clearedFirst, CountsFit, inForce]
      refine ⟨fun _ a => ?_, fun _ a => ?_, fun _ a => ?_, trivial⟩ <;> cases a <;> decide⟩

/-- The first frame of a new renderer draws nothing. -/
theorem first_render_incoherent :
    PromisedRun (create onePoint) [.render (.success 0)] ∧
    ¬ CoherentRun (create onePoint) (allInputsOnce onePoint.inputs) [.render (.success 0)] := by
  refine ⟨⟨fun i hi => ?_, trivial⟩, fun h => ?_⟩
  · cases hi
    decide
  · obtain ⟨c, hc, hdraws⟩ := h.1 _ 0 rfl
    have hcount := (hdraws .staticFixed).2
    rw [RendererVulkan.undrawn_recorded onePoint hc] at hcount
    exact absurd hcount (by decide)

end Vk
end Topaz
