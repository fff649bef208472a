import Topaz.Stream

/-!
# Topaz.Frame

Frames of both backends, from the draw list to the vertices that reach the shaders.

What a frame issues comes from the runs of draw lists (`Topaz.DrawOrder`), what the issued
commands find in the buffers from the constructor and the writes since (`Topaz.Stream`).
Both backends draw all static handles of a list before the dynamic ones (`drawOrder`).
-/

namespace Topaz

/-! ## the order of a frame -/

/-- The handles of a draw list in the order in which both backends draw them. -/
def drawOrder (inputs : List RendererInput) (draws : RendererDrawList) : RendererDrawList :=
  handlesOf .staticFixed inputs draws ++ handlesOf .dynamicFixed inputs draws

theorem drawsOf_handlesOf (a : RendererInputDataAccess) (inputs : List RendererInput)
    (draws : RendererDrawList) : drawsOf inputs (handlesOf a inputs draws) =
      ((handlesOf a inputs draws).map fun handle =>
        some (drawCommand a inputs handle.value)).map (Prod.mk a) := by
  have hdraw : ∀ handle ∈ handlesOf a inputs draws,
      drawOf inputs handle = some (a, some (drawCommand a inputs handle.value)) := by
    intro handle hh
    have haccess := of_decide_eq_true (List.mem_filter.mp hh).2
    simp [drawOf, haccess]
  rw [drawsOf, List.filterMap_congr hdraw]
  show List.filterMap (some ∘ fun handle : RendererInputHandle =>
    (a, some (drawCommand a inputs handle.value))) _ = _
  rw [List.filterMap_eq_map, List.map_map]
  rfl

/-- Both streams complete: the frame draws the list in that order. -/
theorem issuedDraws_eq_drawOrder {inputs : List RendererInput} {draws : RendererDrawList}
    {commands : RendererInputDataAccess → List (Option DrawIndirectCommand)}
    (h : ∀ a, commands a = (handlesOf a inputs draws).map fun handle =>
      some (drawCommand a inputs handle.value)) :
    issuedDraws commands = drawsOf inputs (drawOrder inputs draws) := by
  rw [issuedDraws, h, h, drawOrder, drawsOf, List.filterMap_append]
  exact congrArg₂ (· ++ ·) (drawsOf_handlesOf .staticFixed inputs draws).symm
    (drawsOf_handlesOf .dynamicFixed inputs draws).symm

/-! ## OpenGL -/

namespace Ogl

/-- A use of a renderer: a frame, or a write through one of its inputs. -/
inductive RendererCall where
  | render (draws : RendererDrawList)
  | write (w : InputWrite)

/-- The draw lists of some calls. -/
def listsOf (calls : List RendererCall) : List RendererDrawList :=
  calls.filterMap fun
    | .render draws => some draws
    | .write _ => none

/-- The writes among some calls. -/
def writesOf (calls : List RendererCall) : List InputWrite :=
  calls.filterMap fun
    | .render _ => none
    | .write w => some w

namespace RendererOGL

def call (r : RendererOGL) : RendererCall → RendererOGL
  | .render draws => r.render draws
  | .write w => { r with dynamicGeometry := r.dynamicGeometry.writeInput w }

def callAll (r : RendererOGL) (calls : List RendererCall) : RendererOGL := calls.foldl call r

/-- The vertices that a frame feeds to the shaders. -/
def frame (r : RendererOGL) (size : Nat) : List (Option (List UInt8)) :=
  fetchAll size Ogl.baseVertex (drawBuffers r.staticGeometry r.dynamicGeometry) r.issued

theorem render_withGeometry (r : RendererOGL) (g : DynamicGeometry) (draws : RendererDrawList) :
    ({ r with dynamicGeometry := g } : RendererOGL).render draws =
      { r.render draws with dynamicGeometry := g } := by
  simp only [render_eq, bindDrawList, drawsMatchCache]
  by_cases hcache : r.drawCache = draws <;> simp [hcache]

theorem renderAll_withGeometry (r : RendererOGL) (g : DynamicGeometry)
    (lists : List RendererDrawList) :
    ({ r with dynamicGeometry := g } : RendererOGL).renderAll lists =
      { r.renderAll lists with dynamicGeometry := g } := by
  induction lists generalizing r with
  | nil => rfl
  | cons draws lists ih =>
      rw [renderAll, List.foldl_cons, render_withGeometry]
      exact ih (r.render draws)

theorem geometry_render (r : RendererOGL) (draws : RendererDrawList) :
    (r.render draws).staticGeometry = r.staticGeometry ∧
    (r.render draws).dynamicGeometry = r.dynamicGeometry := by
  rw [render_eq, bindDrawList]
  split <;> exact ⟨rfl, rfl⟩

theorem geometry_renderAll (r : RendererOGL) (lists : List RendererDrawList) :
    (r.renderAll lists).staticGeometry = r.staticGeometry ∧
    (r.renderAll lists).dynamicGeometry = r.dynamicGeometry := by
  induction lists generalizing r with
  | nil => exact ⟨rfl, rfl⟩
  | cons draws lists ih =>
      obtain ⟨hs, hd⟩ := ih (r.render draws)
      obtain ⟨hs', hd'⟩ := r.geometry_render draws
      exact ⟨hs.trans hs', hd.trans hd'⟩

/-- Frames and writes do not meet: the ones change the indirect buffers, the others the
mapped ones. -/
theorem callAll_eq (r : RendererOGL) (calls : List RendererCall) : r.callAll calls =
    { r.renderAll (listsOf calls) with
      dynamicGeometry := r.dynamicGeometry.writeInputs (writesOf calls) } := by
  induction calls generalizing r with
  | nil => rfl
  | cons c calls ih =>
      rw [callAll, List.foldl_cons]
      refine (ih (r.call c)).trans ?_
      cases c with
      | render draws =>
          have hlists : listsOf (.render draws :: calls) = draws :: listsOf calls := rfl
          have hwrites : writesOf (.render draws :: calls) = writesOf calls := rfl
          rw [hlists, hwrites, call, (r.geometry_render draws).2]
          rfl
      | write w =>
          have hlists : listsOf (.write w :: calls) = listsOf calls := rfl
          have hwrites : writesOf (.write w :: calls) = w :: writesOf calls := rfl
          rw [hlists, hwrites, call, renderAll_withGeometry]
          rfl

end RendererOGL

/-- Every buffer of a renderer holds what it is for, if all of the dynamic ones is mapped. -/
theorem holdsRegions {size : Nat} {inputs : List RendererInput} (hB : SharedBinding size inputs)
    (hfits : ∀ a, FitsCommand a inputs) (hmaps : MapsDynamic Ogl.mapMemory inputs) {ws : List InputWrite} (hws : ValidWrites inputs ws) :
    HoldsRegions size Ogl.baseVertex inputs (writeInputs inputs ws)
      (drawBuffers (staticGeometry inputs) ((dynamicGeometry inputs).writeInputs ws)) := by
  have hf := (Follows.refl inputs).writeInputs hws
  have hshows : (setupDynamic 1 true mapMemory inputs).Shows
      ((dynamicGeometry inputs).writeInputs ws) (writeInputs inputs ws) :=
    (shows_setupDynamic true hmaps fun k _ _ => Nat.mul_one _).writeInputs hws
  intro k input hk
  obtain ⟨first, hfirst, haccess, -, -, -, hsame⟩ := hf.input hk
  have hlt : k < inputs.length := (List.getElem?_eq_some_iff.mp hfirst).1
  cases ha : input.dataAccess with
  | staticFixed =>
      have hheld := Ogl.holds_staticGeometry (List.mem_of_getElem? hfirst) (haccess.trans ha)
      exact hheld.holdsAt hB (hfits .staticFixed) (hsame ha ▸ hfirst) ha
        ((hfits .staticFixed).ogl_baseVertex hlt)
  | dynamicFixed =>
      exact ⟨_, _, rfl, rfl, hshows.holdsAt hB hf (hfits .dynamicFixed) ⟨hk, ha⟩ (Nat.mul_one _)
        ((hfits .dynamicFixed).ogl_baseVertex hlt)⟩

end Ogl

/-- **OpenGL frames**: after any frames and any writes through the dynamic inputs, a
`render(draws)` whose list fits in the indirect buffers feeds exactly the vertices of its
static handles and then of its dynamic handles, as the writes have left them; if the dynamic
vertices, and the dynamic indices, take fewer than `2 ^ 31` bytes. -/
theorem Ogl.ogl_frame_feeds_drawList {size : Nat} {inputs : List RendererInput}
    (hB : SharedBinding size inputs) (hfits : ∀ a, FitsCommand a inputs)
    (hbytes : dynamicVertexBytes inputs < 2 ^ 31 ∧ dynamicIndices inputs < 2 ^ 29)
    (hw : ∀ input ∈ inputs, input.WellIndexed) (calls : List Ogl.RendererCall)
    (hws : ValidWrites inputs (Ogl.writesOf calls)) (draws : RendererDrawList)
    (hroom : ∀ a, Ogl.drawCount a inputs draws ≤
        Ogl.capacity a inputs (allInputsOnce inputs :: (Ogl.listsOf calls ++ [draws])) ∧
      Ogl.drawCount a inputs draws < 2 ^ 31) :
    ((Ogl.RendererOGL.create inputs).callAll (calls ++ [.render draws])).frame size =
      (verticesOf size (writeInputs inputs (Ogl.writesOf calls))
        (drawOrder inputs draws)).map some := by
  have hlists : Ogl.listsOf (calls ++ [.render draws]) = Ogl.listsOf calls ++ [draws] :=
    List.filterMap_append
  have hwrites : Ogl.writesOf (calls ++ [.render draws]) = Ogl.writesOf calls := by
    rw [Ogl.writesOf, List.filterMap_append]
    exact List.append_nil _
  obtain ⟨hs, hd⟩ := (Ogl.RendererOGL.create inputs).geometry_renderAll
    (Ogl.listsOf calls ++ [draws])
  obtain ⟨hs', hd'⟩ := (Ogl.RendererOGL.unbound inputs).geometry_render (allInputsOnce inputs)
  rw [Ogl.RendererOGL.render_eq] at hs' hd'
  have hissued : ((Ogl.RendererOGL.create inputs).renderAll (Ogl.listsOf calls ++ [draws])).issued =
      drawsOf inputs (drawOrder inputs draws) := by
    refine issuedDraws_eq_drawOrder fun a => ?_
    have htracks := Ogl.Tracks.create a inputs (Ogl.listsOf calls ++ [draws])
    have hcache := (Ogl.RendererOGL.create inputs).drawCache_renderAll (Ogl.listsOf calls) draws
    have hinputs := ((Ogl.RendererOGL.create inputs).inputs_renderAll
      (Ogl.listsOf calls ++ [draws])).trans (Ogl.RendererOGL.inputs_create inputs)
    have hiff := htracks.multiDraw_eq_iff
    rw [hcache, hinputs] at hiff
    exact hiff.mpr (hroom a)
  have hframe : ((Ogl.RendererOGL.create inputs).callAll (calls ++ [.render draws])).frame size =
      fetchAll size Ogl.baseVertex (drawBuffers (Ogl.staticGeometry inputs)
        ((Ogl.dynamicGeometry inputs).writeInputs (Ogl.writesOf calls)))
        (drawsOf inputs (drawOrder inputs draws)) := by
    rw [Ogl.RendererOGL.callAll_eq, hlists, hwrites, ← hissued, Ogl.RendererOGL.frame]
    show fetchAll size Ogl.baseVertex (drawBuffers ((Ogl.RendererOGL.create inputs).renderAll
      (Ogl.listsOf calls ++ [draws])).staticGeometry _) _ = _
    rw [hs, Ogl.RendererOGL.create, hs', hd']
    rfl
  rw [hframe]
  exact (Ogl.holdsRegions hB hfits (Ogl.mapsDynamic_iff.mpr hbytes) hws).fetchAll_drawsOf
    ((Follows.refl inputs).writeInputs hws) hB (wellIndexed_writeInputs hws hw) _

/-- The dynamic point of `twoPoints` is written to between two frames. -/
def movedPoint : List Ogl.RendererCall := [.render [⟨0⟩], .write (.vertices 0 0 [99])]

theorem validWrites_movedPoint : ValidWrites twoPoints (Ogl.writesOf movedPoint) :=
  ⟨⟨_, ⟨rfl, rfl⟩, Nat.le_refl 1⟩, trivial⟩

theorem fitsCommand_twoPoints (a : RendererInputDataAccess) : FitsCommand a twoPoints := by
  cases a <;> exact ⟨by decide, by decide⟩

theorem wellIndexed_twoPoints : ∀ input ∈ twoPoints, input.WellIndexed := by
  simp [twoPoints, RendererInput.WellIndexed, RendererInput.vertexCount,
    RendererInput.vertexCountBytes]

/-- The frame after the write shows it. -/
theorem Ogl.ogl_frame_feeds_movedPoint :
    ((Ogl.RendererOGL.create twoPoints).callAll
      (movedPoint ++ [.render [⟨0⟩, ⟨1⟩]])).frame 1 = [some [10], some [99]] :=
  Ogl.ogl_frame_feeds_drawList ⟨by decide, by decide⟩ fitsCommand_twoPoints
    ⟨by decide, by decide⟩ wellIndexed_twoPoints movedPoint validWrites_movedPoint [⟨0⟩, ⟨1⟩]
    fun a => by cases a <;> decide

/-! ## Vulkan -/

namespace Vk

/-- Every buffer of a renderer holds what it is for, if index regions lie where the draw
commands look for them. -/
theorem holdsRegions {size : Nat} {inputs : List RendererInput} (hB : SharedBinding size inputs)
    (hfits : ∀ a, FitsCommand a inputs)
    (hfirst : ∀ k input, DynamicAt inputs k input → dynamicIndicesBefore inputs k = 0)
    {ws : List InputWrite} (hws : ValidWrites inputs ws) :
    HoldsRegions size Vk.vertexOffset inputs (writeInputs inputs ws)
      (drawBuffers (staticGeometry inputs) ((dynamicGeometry inputs).writeInputs ws)) := by
  have hf := (Follows.refl inputs).writeInputs hws
  have hunit : ∀ k input, DynamicAt inputs k input →
      dynamicIndicesBefore inputs k * 4 = dynamicIndicesBefore inputs k :=
    fun k input hk => by rw [hfirst k input hk]
  have hshows : (setupDynamic 4 false mapMemory inputs).Shows
      ((dynamicGeometry inputs).writeInputs ws) (writeInputs inputs ws) :=
    (shows_setupDynamic false (Vk.mapsDynamic inputs) hunit).writeInputs hws
  intro k input hk
  obtain ⟨first, hat, haccess, -, -, -, hsame⟩ := hf.input hk
  have hlt : k < inputs.length := (List.getElem?_eq_some_iff.mp hat).1
  cases ha : input.dataAccess with
  | staticFixed =>
      have hheld := Vk.holds_staticGeometry (List.mem_of_getElem? hat) (haccess.trans ha)
        (hfits .staticFixed).indices
      exact hheld.holdsAt hB (hfits .staticFixed) (hsame ha ▸ hat) ha
        ((hfits .staticFixed).vk_vertexOffset hlt)
  | dynamicFixed =>
      exact ⟨_, _, rfl, rfl, hshows.holdsAt hB hf (hfits .dynamicFixed) ⟨hk, ha⟩
        (hunit k first ⟨hat, haccess.trans ha⟩) ((hfits .dynamicFixed).vk_vertexOffset hlt)⟩

/-- The vertices that the submission of command buffer `i` feeds to the shaders, after
writes through the dynamic inputs. -/
def RendererVulkan.frame (r : RendererVulkan) (i : Nat) (ws : List InputWrite) (size : Nat) :
    List (Option (List UInt8)) :=
  fetchAll size Vk.vertexOffset
    (drawBuffers (staticGeometry r.inputs) ((dynamicGeometry r.inputs).writeInputs ws))
    (r.issued i)

end Vk

/-- **Vulkan frames**: after any operations on a renderer and any writes through its dynamic
inputs, whatever it submits feeds exactly the vertices of the draw list in force, static
handles first, as the writes have left them; if the views have been recorded since the
constructor, and no dynamic input has dynamic indices before it. -/
theorem Vk.vk_frame_feeds_drawList {size : Nat} (config : Vk.RendererConfig)
    (hB : SharedBinding size config.inputs) (hfits : ∀ a, FitsCommand a config.inputs)
    (hw : ∀ input ∈ config.inputs, input.WellIndexed)
    (hfirst : ∀ k input, DynamicAt config.inputs k input →
      dynamicIndicesBefore config.inputs k = 0)
    (ops : List Vk.RendererOp) (op : Vk.RendererOp)
    (hp : Vk.PromisedRun (.create config) (ops ++ [op]))
    (hsince : Vk.RecordedSince config (ops ++ [op]))
    (s : Vk.RendererVulkan) (i : Nat)
    (hsub : ((Vk.RendererVulkan.create config).runAll ops).submission op = some (s, i))
    (hcount : ∀ a, (handlesOf a config.inputs s.drawCache).length < 2 ^ 32)
    (ws : List InputWrite) (hws : ValidWrites config.inputs ws) :
    s.frame i ws size = (verticesOf size (writeInputs config.inputs ws)
      (drawOrder config.inputs s.drawCache)).map some := by
  obtain ⟨hsteady, hrecorded, hfilled, hinputs, hi⟩ := Vk.recorded_submission config hp hsince hsub
  have hissued : s.issued i = drawsOf config.inputs (drawOrder config.inputs s.drawCache) := by
    refine issuedDraws_eq_drawOrder fun a => ?_
    have hcommands := hrecorded.indirectCommands hsteady hfilled hi a
    rw [hinputs] at hcommands
    rw [hcommands, List.take_of_length_le]
    rw [List.length_map, Nat.mod_eq_of_lt (hcount a)]
  rw [Vk.RendererVulkan.frame, hissued, hinputs]
  exact (Vk.holdsRegions hB hfits hfirst hws).fetchAll_drawsOf
    ((Follows.refl config.inputs).writeInputs hws) hB (wellIndexed_writeInputs hws hw) _

/-- The first frame of a list that is not the default one, after a write. -/
theorem Vk.vk_frame_feeds_twoPoints :
    ((Vk.RendererVulkan.create twoPointsConfig).supply [⟨0⟩, ⟨1⟩, ⟨1⟩]).frame 0
      [.vertices 0 0 [99]] 1 = [some [10], some [10], some [99]] :=
  Vk.vk_frame_feeds_drawList twoPointsConfig ⟨by decide, by decide⟩ fitsCommand_twoPoints
    wellIndexed_twoPoints
    (fun k input hk => by
      match k, (List.getElem?_eq_some_iff.mp hk.1).1 with
      | 0, _ => decide
      | 1, _ => exact absurd hk.2 (by rw [← Option.some.inj hk.1]; decide))
    [] (.renderDraws [⟨0⟩, ⟨1⟩, ⟨1⟩] .other) ⟨fun i hi => by simp [Vk.RendererOp.code] at hi, trivial⟩
    (Or.inr ⟨_, List.mem_singleton_self _, Or.inl (by decide)⟩) _ 0 rfl
    (fun a => by cases a <;> decide) [.vertices 0 0 [99]]
    ⟨⟨_, ⟨rfl, rfl⟩, Nat.le_refl 1⟩, trivial⟩

end Topaz
