import Topaz.Ogl.Renderer
import Topaz.Vk.Renderer

/-!
# Topaz.Backends

What holds of both backends: they build the same draws, and their draws address the
geometry that their constructors upload.

Offsets come from the loop over the inputs (`Topaz.Draws`), the uploaded bytes from
other loops (`Topaz.Geometry`); both are prefix sums over the same inputs, so they
meet in `slice_flatMap_before`.
-/

namespace Topaz

/-! ## the same draws -/

theorem InternalDraws.ext_of {d e : InternalDraws} (h : ∀ a, d.of a = e.of a) : d = e := by
  obtain ⟨ds, dd⟩ := d
  obtain ⟨es, ed⟩ := e
  have hstatic : ds = es := h .staticFixed
  have hdynamic : dd = ed := h .dynamicFixed
  rw [hstatic, hdynamic]

/-- The width of the running counts does not show in the commands. -/
theorem internalDraws_eq (inputs : List RendererInput) (draws : RendererDrawList) :
    Ogl.internalDraws inputs draws = Vk.internalDraws inputs draws := by
  refine InternalDraws.ext_of fun a => ?_
  rw [Ogl.internalDraws, Vk.internalDraws, commands_internalDraws (by decide) (by decide),
    commands_internalDraws (by decide) (by decide)]

theorem Ogl.numDraws_bindDrawList (o : Ogl.RendererOGL) (draws : RendererDrawList)
    (a : RendererInputDataAccess) :
    (o.bindDrawList draws).numDraws a = numDrawsOf a o.inputs draws := by
  rw [Ogl.RendererOGL.numDraws, o.inputs_bindDrawList, o.drawCache_bindDrawList]

theorem Vk.numDraws_recordDrawList (v : Vk.RendererVulkan) (draws : RendererDrawList)
    (a : RendererInputDataAccess) :
    (v.recordDrawList draws).numDraws a = numDrawsOf a v.inputs draws := by
  obtain ⟨_, hinputs, _, _, _, hcache⟩ := v.recordDrawList_spec draws
  rw [Vk.RendererVulkan.numDraws, hinputs, hcache]

/-- A dynamic point and a static one. -/
def twoPoints : List RendererInput :=
  [⟨.dynamicFixed, ⟨1, .perVertexBasis, []⟩, [20], [0]⟩,
    ⟨.staticFixed, ⟨1, .perVertexBasis, []⟩, [10], [0]⟩]

/-- A headless Vulkan renderer for `twoPoints`. -/
def twoPointsConfig : Vk.RendererConfig := ⟨true, twoPoints, [], false, 1⟩

/-! ## static draws -/

/-- `cmd` addresses `input` in the buffers of `g`: its indices are the input's own,
and each of them that is in range selects the input's own vertex. -/
def Addresses (size : Nat) (baseVertex : DrawIndirectCommand → Int) (g : StaticGeometry)
    (input : RendererInput) (cmd : DrawIndirectCommand) : Prop :=
  ∃ vertexBuffer indexBuffer,
    g.vertexBuffer = some vertexBuffer ∧ g.indexBuffer = some indexBuffer ∧
    indexBuffer.read cmd.firstIndex.toNat cmd.count.toNat = input.indices.map some ∧
    ∀ x ∈ input.indices, x.toNat < input.vertexCount →
      ∃ vertex : Nat, vertex = baseVertex cmd + x.toNat ∧
        vertexBuffer.read (vertex * size) size =
          (slice input.vertexBytes (x.toNat * size) size).map some

/-- The static commands are those of the static handles, in order, and
`num_static_draws` is how many they are. -/
structure StaticDrawsCorrect (size : Nat) (baseVertex : DrawIndirectCommand → Int)
    (g : StaticGeometry) (inputs : List RendererInput) (draws : RendererDrawList)
    (cmds : List DrawIndirectCommand) (numStaticDraws : BitVec 64) : Prop where
  length_eq : cmds.length = (handlesOf .staticFixed inputs draws).length
  addresses : ∀ (i : Nat) (handle : RendererInputHandle),
    (handlesOf .staticFixed inputs draws)[i]? = some handle →
    ∃ input cmd, inputs[handle.value]? = some input ∧ cmds[i]? = some cmd ∧
      Addresses size baseVertex g input cmd
  numDraws : numStaticDraws.toNat = cmds.length

section Static

variable {size : Nat} {inputs : List RendererInput}

/-- The command of a static input addresses it, if no offset is cut and the backend
reads the base vertex back as it was stored. -/
theorem addresses_drawCommand (hshared : SharedBinding size inputs)
    (hidx : (inputs.map (RendererInput.indexCountIn .staticFixed)).sum < 2 ^ 31)
    {g : StaticGeometry} (hg : g.Holds inputs) {k : Nat} {input : RendererInput}
    (hk : inputs[k]? = some input) (hs : input.dataAccess = .staticFixed)
    {baseVertex : DrawIndirectCommand → Int}
    (hbase : baseVertex (drawCommand .staticFixed inputs k) =
      before (RendererInput.vertexCountIn .staticFixed) inputs k) :
    Addresses size baseVertex g input (drawCommand .staticFixed inputs k) := by
  obtain ⟨vertexBuffer, indexBuffer, hvb, hib, hindices, hvertices⟩ := hg
  obtain ⟨hlt, hget⟩ := List.getElem?_eq_some_iff.mp hk
  have hbound := before_add_le_sum (RendererInput.indexCountIn .staticFixed) inputs hlt
  rw [hget, RendererInput.indexCountIn, if_pos hs] at hbound
  have hfirst : (drawCommand .staticFixed inputs k).firstIndex.toNat =
      before (RendererInput.indexCountIn .staticFixed) inputs k := by
    rw [drawCommand, BitVec.toNat_ofNat, Nat.mod_eq_of_lt (by omega)]
  have hcount : (drawCommand .staticFixed inputs k).count.toNat = input.indexCount := by
    rw [drawCommand, hk, Option.map_some, Option.getD_some, BitVec.toNat_ofNat,
      Nat.mod_eq_of_lt (by omega)]
  have hslice := slice_flatMap_indicesIn hk hs
  refine ⟨vertexBuffer, indexBuffer, hvb, hib, ?_, fun x hx hrange =>
    ⟨before (RendererInput.vertexCountIn .staticFixed) inputs k + x.toNat, ?_, ?_⟩⟩
  · rw [hfirst, hcount, Buffer.read, hindices, slice_map, hslice]
  · rw [hbase, Int.natCast_add]
  · -- the input has an index, so the vertices were uploaded
    have hne : inputs.flatMap (RendererInput.indicesIn .staticFixed) ≠ [] := by
      intro hnil
      rw [hnil] at hslice
      rw [← hslice] at hx
      simp [slice] at hx
    rw [Buffer.read, hvertices hne, slice_map,
      hshared.slice_flatMap_verticesIn hk hs hrange]

/-- Offsets are right for every list; the count is, as long as it fits in an `int`. -/
theorem staticDrawsCorrect_iff (hshared : SharedBinding size inputs)
    (hidx : (inputs.map (RendererInput.indexCountIn .staticFixed)).sum < 2 ^ 31)
    {g : StaticGeometry}
    (hg : ∀ input ∈ inputs, input.dataAccess = .staticFixed → g.Holds inputs)
    {baseVertex : DrawIndirectCommand → Int}
    (hbase : ∀ k < inputs.length, baseVertex (drawCommand .staticFixed inputs k) =
      before (RendererInput.vertexCountIn .staticFixed) inputs k)
    {draws : RendererDrawList} (hlen : draws.length < 2 ^ 63)
    {cmds : List DrawIndirectCommand}
    (hcmds : cmds = (handlesOf .staticFixed inputs draws).map
      fun handle => drawCommand .staticFixed inputs handle.value) :
    StaticDrawsCorrect size baseVertex g inputs draws cmds
        (numDrawsOf .staticFixed inputs draws) ↔
      (handlesOf .staticFixed inputs draws).length < 2 ^ 31 := by
  have hlength : cmds.length = (handlesOf .staticFixed inputs draws).length := by
    rw [hcmds, List.length_map]
  rw [← toNat_numDrawsOf_eq_iff .staticFixed inputs hlen, ← hlength]
  refine ⟨fun h => h.numDraws, fun hnum => ⟨hlength, fun i handle hi => ?_, hnum⟩⟩
  obtain ⟨input, hk, hs⟩ := exists_of_mem_handlesOf (List.mem_of_getElem? hi)
  have hlt : handle.value < inputs.length := (List.getElem?_eq_some_iff.mp hk).1
  refine ⟨input, drawCommand .staticFixed inputs handle.value, hk, ?_, ?_⟩
  · rw [hcmds, List.getElem?_map, hi, Option.map_some]
  · exact addresses_drawCommand hshared hidx (hg input (List.mem_of_getElem? hk) hs) hk hs
      (hbase handle.value hlt)

section Vertices

variable (hvtx : (inputs.map (RendererInput.vertexCountIn .staticFixed)).sum < 2 ^ 31)
include hvtx

theorem before_vertexCountIn_lt {k : Nat} (hk : k < inputs.length) :
    before (RendererInput.vertexCountIn .staticFixed) inputs k < 2 ^ 31 := by
  have hbound := before_add_le_sum (RendererInput.vertexCountIn .staticFixed) inputs hk
  omega

theorem Ogl.baseVertex_drawCommand {k : Nat} (hk : k < inputs.length) :
    Ogl.baseVertex (drawCommand .staticFixed inputs k) =
      before (RendererInput.vertexCountIn .staticFixed) inputs k := by
  have hlt := before_vertexCountIn_lt hvtx hk
  rw [Ogl.baseVertex, drawCommand, BitVec.toNat_ofNat, Nat.mod_eq_of_lt (by omega)]

/-- The sign bit of `vertexOffset` is clear. -/
theorem Vk.vertexOffset_drawCommand {k : Nat} (hk : k < inputs.length) :
    Vk.vertexOffset (drawCommand .staticFixed inputs k) =
      before (RendererInput.vertexCountIn .staticFixed) inputs k := by
  have hlt := before_vertexCountIn_lt hvtx hk
  have hnat : (drawCommand .staticFixed inputs k).baseVertex.toNat =
      before (RendererInput.vertexCountIn .staticFixed) inputs k := by
    rw [drawCommand, BitVec.toNat_ofNat, Nat.mod_eq_of_lt (by omega)]
  rw [Vk.vertexOffset, BitVec.toInt_eq_toNat_of_lt (by omega), hnat]

end Vertices

/-- **Static draws**: in both backends the static commands of a draw list address
the uploaded geometry of their inputs, and `num_static_draws` counts them, exactly
when there are fewer than `2 ^ 31` of them.  (A vector is shorter than `2 ^ 63`.) -/
theorem static_draws_correct_iff (o : Ogl.RendererOGL) (v : Vk.RendererVulkan)
    (ho : o.inputs = inputs) (hv : v.inputs = inputs) (hshared : SharedBinding size inputs)
    (hvtx : (inputs.map (RendererInput.vertexCountIn .staticFixed)).sum < 2 ^ 31)
    (hidx : (inputs.map (RendererInput.indexCountIn .staticFixed)).sum < 2 ^ 31)
    (draws : RendererDrawList) (hlen : draws.length < 2 ^ 63) :
    (StaticDrawsCorrect size Ogl.baseVertex (Ogl.staticGeometry inputs) inputs draws
        (Ogl.internalDraws inputs draws).internalDraws
        ((o.bindDrawList draws).numDraws .staticFixed) ↔
      (handlesOf .staticFixed inputs draws).length < 2 ^ 31) ∧
    (StaticDrawsCorrect size Vk.vertexOffset (Vk.staticGeometry inputs) inputs draws
        (Vk.internalDraws inputs draws).internalDraws
        ((v.recordDrawList draws).numDraws .staticFixed) ↔
      (handlesOf .staticFixed inputs draws).length < 2 ^ 31) := by
  rw [Ogl.numDraws_bindDrawList, Vk.numDraws_recordDrawList, ho, hv]
  constructor
  · exact staticDrawsCorrect_iff hshared hidx (fun _ hi hs => Ogl.holds_staticGeometry hi hs)
      (fun _ hk => Ogl.baseVertex_drawCommand hvtx hk) hlen
      (commands_internalDraws (by decide) (by decide) .staticFixed inputs draws)
  · exact staticDrawsCorrect_iff hshared hidx (fun _ hi hs => Vk.holds_staticGeometry hi hs hidx)
      (fun _ hk => Vk.vertexOffset_drawCommand hvtx hk) hlen
      (commands_internalDraws (by decide) (by decide) .staticFixed inputs draws)

end Static

theorem static_draws_correct_twoPoints :
    StaticDrawsCorrect 1 Vk.vertexOffset (Vk.staticGeometry twoPoints) twoPoints
      [⟨1⟩, ⟨0⟩, ⟨1⟩] (Vk.internalDraws twoPoints [⟨1⟩, ⟨0⟩, ⟨1⟩]).internalDraws
      (((Vk.RendererVulkan.create twoPointsConfig).recordDrawList
        [⟨1⟩, ⟨0⟩, ⟨1⟩]).numDraws .staticFixed) :=
  (static_draws_correct_iff (.create twoPoints) (.create twoPointsConfig) rfl rfl
    ⟨by decide, by decide⟩ (by decide) (by decide) [⟨1⟩, ⟨0⟩, ⟨1⟩] (by decide)).2.mpr (by decide)

theorem handlesOf_replicate {a : RendererInputDataAccess} {inputs : List RendererInput}
    {handle : RendererInputHandle} (h : accessOf inputs handle = some a) (n : Nat) :
    handlesOf a inputs (List.replicate n handle) = List.replicate n handle := by
  rw [handlesOf, List.filter_replicate, if_pos (decide_eq_true h)]

/-- With `2 ^ 31` draws of a static input, the `int` turns negative. -/
theorem static_draws_miscounted :
    SharedBinding 1 twoPoints ∧
    (twoPoints.map (RendererInput.vertexCountIn .staticFixed)).sum < 2 ^ 31 ∧
    (twoPoints.map (RendererInput.indexCountIn .staticFixed)).sum < 2 ^ 31 ∧
    ValidDraws twoPoints (List.replicate (2 ^ 31) ⟨1⟩) ∧
    ¬ StaticDrawsCorrect 1 Ogl.baseVertex (Ogl.staticGeometry twoPoints) twoPoints
      (List.replicate (2 ^ 31) ⟨1⟩)
      (Ogl.internalDraws twoPoints (List.replicate (2 ^ 31) ⟨1⟩)).internalDraws
      (((Ogl.RendererOGL.create twoPoints).bindDrawList
        (List.replicate (2 ^ 31) ⟨1⟩)).numDraws .staticFixed) := by
  refine ⟨⟨by decide, by decide⟩, by decide, by decide, fun handle hh => ?_, fun h => ?_⟩
  · rw [List.eq_of_mem_replicate hh]
    decide
  · have hnum := h.numDraws
    rw [h.length_eq, Ogl.numDraws_bindDrawList] at hnum
    have hlt := (toNat_numDrawsOf_eq_iff .staticFixed twoPoints
      (by rw [List.length_replicate]; decide)).mp hnum
    rw [handlesOf_replicate (by decide), List.length_replicate] at hlt
    exact Nat.lt_irrefl _ hlt

end Topaz
