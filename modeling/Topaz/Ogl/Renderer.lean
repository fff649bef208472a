import Topaz.Geometry

/-!
# Topaz.Ogl.Renderer

`RendererOGL` and its draw lists.  The two indirect buffers are created by the
first list that needs them and written again by every later one, so what they
hold depends on the lists before: `capacity` follows the size a buffer was created
with through a run, and `Tracks` relates it to the renderer's state.
-/

namespace Topaz
namespace Ogl

/-- The inputs of an OpenGL renderer, the buffers they are drawn from, and what draw
lists change. -/
structure RendererOGL where
  inputs : List RendererInput
  staticGeometry : StaticGeometry
  dynamicGeometry : DynamicGeometry
  indirectBuffer : Option (Buffer DrawIndirectCommand)
  indirectBufferDynamic : Option (Buffer DrawIndirectCommand)
  drawCache : RendererDrawList

/-- Put `cmds` in an indirect buffer, which is created if there is none and
dropped if there are no commands. -/
def writeIndirect (buffer : Option (Buffer DrawIndirectCommand))
    (cmds : List DrawIndirectCommand) : Option (Buffer DrawIndirectCommand) :=
  if cmds.isEmpty then none
  else some ((buffer.getD (Buffer.create cmds.length)).subData cmds)

namespace RendererOGL

/-- The indirect buffer of an access. -/
def indirectOf (r : RendererOGL) : RendererInputDataAccess → Option (Buffer DrawIndirectCommand)
  | .staticFixed => r.indirectBuffer
  | .dynamicFixed => r.indirectBufferDynamic

def drawsMatchCache (r : RendererOGL) (draws : RendererDrawList) : Bool := r.drawCache = draws

def bindDrawList (r : RendererOGL) (draws : RendererDrawList) : RendererOGL :=
  if r.drawsMatchCache draws then r
  else
    let d := internalDraws r.inputs draws
    { r with
      indirectBuffer := writeIndirect r.indirectBuffer d.internalDraws
      indirectBufferDynamic := writeIndirect r.indirectBufferDynamic d.internalDrawsDynamic
      drawCache := draws }

/-- The constructor before it binds a draw list. -/
def unbound (inputs : List RendererInput) : RendererOGL where
  inputs := inputs
  staticGeometry := Ogl.staticGeometry inputs
  dynamicGeometry := Ogl.dynamicGeometry inputs
  indirectBuffer := none
  indirectBufferDynamic := none
  drawCache := []

/-- The constructor ends by binding the default draw list. -/
def create (inputs : List RendererInput) : RendererOGL :=
  (unbound inputs).bindDrawList (allInputsOnce inputs)

/-- `render(draws)`; issuing the draws changes none of this state. -/
def render (r : RendererOGL) (draws : RendererDrawList) : RendererOGL :=
  if r.drawsMatchCache draws then r else r.bindDrawList draws

def renderAll (r : RendererOGL) (lists : List RendererDrawList) : RendererOGL :=
  lists.foldl render r

/-- `num_static_draws` and `num_dynamic_draws`. -/
def numDraws (r : RendererOGL) (a : RendererInputDataAccess) : BitVec 64 :=
  numDrawsOf a r.inputs r.drawCache

theorem drawsMatchCache_iff {r : RendererOGL} {draws : RendererDrawList} :
    r.drawsMatchCache draws = true ↔ r.drawCache = draws := decide_eq_true_iff

theorem render_eq (r : RendererOGL) (draws : RendererDrawList) :
    r.render draws = r.bindDrawList draws := by
  unfold render bindDrawList
  split <;> rfl

@[simp] theorem inputs_bindDrawList (r : RendererOGL) (draws : RendererDrawList) :
    (r.bindDrawList draws).inputs = r.inputs := by
  unfold bindDrawList
  split <;> rfl

/-- Whether or not the list was cached, it is now. -/
@[simp] theorem drawCache_bindDrawList (r : RendererOGL) (draws : RendererDrawList) :
    (r.bindDrawList draws).drawCache = draws := by
  unfold bindDrawList
  split
  · next hmatch => exact drawsMatchCache_iff.mp hmatch
  · rfl

theorem indirectOf_bindDrawList (r : RendererOGL) {draws : RendererDrawList}
    (h : r.drawCache ≠ draws) (a : RendererInputDataAccess) :
    (r.bindDrawList draws).indirectOf a =
      writeIndirect (r.indirectOf a) ((internalDraws r.inputs draws).of a) := by
  have hmatch : r.drawsMatchCache draws ≠ true := mt drawsMatchCache_iff.mp h
  rw [bindDrawList, if_neg hmatch]
  cases a <;> rfl

end RendererOGL

/-! ## the size of an indirect buffer -/

/-- The size of a buffer of `capacity` commands after a list with `count` of them. -/
def nextCapacity (capacity count : Nat) : Nat :=
  if count = 0 then 0 else if capacity = 0 then count else capacity

/-- The number of commands an access needs for a draw list. -/
def drawCount (a : RendererInputDataAccess) (inputs : List RendererInput)
    (draws : RendererDrawList) : Nat := (handlesOf a inputs draws).length

/-- The size of an access's indirect buffer after `lists`, starting without one: that
of the first list since the last one that needed none. -/
def capacity (a : RendererInputDataAccess) (inputs : List RendererInput)
    (lists : List RendererDrawList) : Nat :=
  lists.foldl (fun c draws => nextCapacity c (drawCount a inputs draws)) 0

/-- The commands of a draw list for one access. -/
def commandsOf (a : RendererInputDataAccess) (inputs : List RendererInput)
    (draws : RendererDrawList) : List DrawIndirectCommand :=
  (handlesOf a inputs draws).map fun handle => inputCommand a inputs handle.value

theorem internalDraws_of (a : RendererInputDataAccess) (inputs : List RendererInput)
    (draws : RendererDrawList) :
    (internalDraws inputs draws).of a = commandsOf a inputs draws := by
  rw [internalDraws, commands_internalDraws (by decide) (by decide)]
  refine List.map_congr_left fun handle hh => ?_
  obtain ⟨input, hinput, ha⟩ := exists_of_mem_handlesOf hh
  exact (drawTables_command (by decide) (by decide) hinput ha).symm

@[simp] theorem length_commandsOf (a : RendererInputDataAccess) (inputs : List RendererInput)
    (draws : RendererDrawList) : (commandsOf a inputs draws).length = drawCount a inputs draws :=
  List.length_map _

theorem nextCapacity_eq_zero_iff {c n : Nat} : nextCapacity c n = 0 ↔ n = 0 := by
  unfold nextCapacity
  split
  · simp [*]
  · split <;> omega

/-- A buffer with room for `c` commands; none if `c` is zero. -/
structure HasRoom (c : Nat) (buffer : Option (Buffer DrawIndirectCommand)) : Prop where
  none : buffer = none ↔ c = 0
  size : ∀ b, buffer = some b → b.size = c

/-- A buffer keeps the room it was created with until a list needs none. -/
theorem HasRoom.writeIndirect {c : Nat} {buffer : Option (Buffer DrawIndirectCommand)}
    (h : HasRoom c buffer) (cmds : List DrawIndirectCommand) :
    HasRoom (nextCapacity c cmds.length) (writeIndirect buffer cmds) := by
  unfold Ogl.writeIndirect nextCapacity
  cases cmds with
  | nil => exact ⟨by simp, by simp⟩
  | cons cmd cmds =>
      cases buffer with
      | none =>
          have hc : c = 0 := h.none.mp rfl
          refine ⟨by simp [hc], fun b hb => ?_⟩
          rw [← Option.some.inj hb]
          simp [hc]
      | some old =>
          have hc : c ≠ 0 := fun hc => absurd (h.none.mpr hc) (by simp)
          refine ⟨by simp [hc], fun b hb => ?_⟩
          rw [← Option.some.inj hb]
          simp [hc, h.size old rfl]

/-- Commands that fit in the room there is are what the buffer then starts with. -/
theorem read_writeIndirect {c : Nat} {buffer : Option (Buffer DrawIndirectCommand)}
    {cmds : List DrawIndirectCommand} (h : HasRoom c (writeIndirect buffer cmds))
    (hfit : cmds.length ≤ c) {b : Buffer DrawIndirectCommand}
    (hb : writeIndirect buffer cmds = some b) : b.read 0 cmds.length = cmds.map some := by
  have hsize := h.size b hb
  unfold writeIndirect at hb
  split at hb
  · contradiction
  · rw [← Option.some.inj hb, Buffer.size_subData] at hsize
    rw [← Option.some.inj hb]
    exact Buffer.read_subData _ cmds (hsize ▸ hfit)

/-! ## runs -/

/-- The indirect buffer of access `a` has room for `c` commands, and if the cached
list fits it starts with the commands of that list. -/
structure Tracks (a : RendererInputDataAccess) (c : Nat) (r : RendererOGL) : Prop where
  room : HasRoom c (r.indirectOf a)
  needed : c = 0 ↔ drawCount a r.inputs r.drawCache = 0
  contents : drawCount a r.inputs r.drawCache ≤ c → ∀ b, r.indirectOf a = some b →
    b.read 0 (drawCount a r.inputs r.drawCache) =
      (commandsOf a r.inputs r.drawCache).map some

namespace Tracks

variable {a : RendererInputDataAccess} {c : Nat} {r : RendererOGL}

/-- A cached list asks for the room there already is. -/
theorem nextCapacity_cached (h : Tracks a c r) :
    nextCapacity c (drawCount a r.inputs r.drawCache) = c := by
  have hneeded := h.needed
  unfold nextCapacity
  split
  · omega
  · rw [if_neg (by omega)]

/-- A new list is written over the old one, in the room there is. -/
theorem bindDrawList (h : Tracks a c r) (draws : RendererDrawList) :
    Tracks a (nextCapacity c (drawCount a r.inputs draws)) (r.bindDrawList draws) := by
  by_cases hcache : r.drawCache = draws
  · have hmatch : r.drawsMatchCache draws = true := RendererOGL.drawsMatchCache_iff.mpr hcache
    rw [RendererOGL.bindDrawList, if_pos hmatch, ← hcache, h.nextCapacity_cached]
    exact h
  · have hroom := h.room.writeIndirect (commandsOf a r.inputs draws)
    have hwritten := r.indirectOf_bindDrawList hcache a
    rw [internalDraws_of] at hwritten
    rw [length_commandsOf] at hroom
    refine ⟨hwritten ▸ hroom, ?_, fun hfit b hb => ?_⟩
    · rw [r.drawCache_bindDrawList, r.inputs_bindDrawList]
      exact nextCapacity_eq_zero_iff
    · rw [r.drawCache_bindDrawList, r.inputs_bindDrawList] at hfit ⊢
      rw [hwritten] at hb
      rw [← length_commandsOf]
      exact read_writeIndirect hroom (by rwa [length_commandsOf]) hb

theorem renderAll (h : Tracks a c r) (lists : List RendererDrawList) :
    Tracks a (lists.foldl (fun c draws => nextCapacity c (drawCount a r.inputs draws)) c)
      (r.renderAll lists) := by
  induction lists generalizing c r with
  | nil => exact h
  | cons draws lists ih =>
      have hstep := h.bindDrawList draws
      rw [← RendererOGL.render_eq] at hstep
      have hrest := ih hstep
      rwa [RendererOGL.render_eq, RendererOGL.inputs_bindDrawList, ← RendererOGL.render_eq]
        at hrest

theorem unbound (a : RendererInputDataAccess) (inputs : List RendererInput) :
    Tracks a 0 (RendererOGL.unbound inputs) := by
  have hnone : (RendererOGL.unbound inputs).indirectOf a = none := by cases a <;> rfl
  exact ⟨⟨by simp [hnone], by simp [hnone]⟩, ⟨fun _ => rfl, fun _ => rfl⟩, by simp [hnone]⟩

/-- After any draw lists, the room is that of the run so far, the default list
first. -/
theorem create (a : RendererInputDataAccess) (inputs : List RendererInput)
    (lists : List RendererDrawList) :
    Tracks a (capacity a inputs (allInputsOnce inputs :: lists))
      ((RendererOGL.create inputs).renderAll lists) := by
  have hdefault := (unbound a inputs).bindDrawList (allInputsOnce inputs)
  have hrun := renderAll hdefault lists
  rwa [RendererOGL.inputs_bindDrawList] at hrun

end Tracks

namespace RendererOGL

theorem inputs_renderAll (r : RendererOGL) (lists : List RendererDrawList) :
    (r.renderAll lists).inputs = r.inputs := by
  induction lists generalizing r with
  | nil => rfl
  | cons draws lists ih =>
      have hhead : (r.render draws).inputs = r.inputs := by rw [render_eq, inputs_bindDrawList]
      exact (ih (r.render draws)).trans hhead

theorem inputs_create (inputs : List RendererInput) : (create inputs).inputs = inputs :=
  inputs_bindDrawList _ _

/-- The last list rendered is the cached one. -/
theorem drawCache_renderAll (r : RendererOGL) (lists : List RendererDrawList)
    (draws : RendererDrawList) : (r.renderAll (lists ++ [draws])).drawCache = draws := by
  have hlast : r.renderAll (lists ++ [draws]) = (r.renderAll lists).render draws := by
    simp [renderAll]
  rw [hlast, render_eq, drawCache_bindDrawList]

end RendererOGL

/-- The indirect buffer of access `a` exists iff `draws` needs one, has room for the
draws that are issued, and these are the ones of `draws`. -/
structure HoldsLatest (a : RendererInputDataAccess) (draws : RendererDrawList)
    (r : RendererOGL) : Prop where
  isSome : (r.indirectOf a).isSome ↔ handlesOf a r.inputs draws ≠ []
  room : ∀ b, r.indirectOf a = some b → (r.numDraws a).toNat ≤ b.size
  contents : ∀ b, r.indirectOf a = some b →
    b.read 0 (r.numDraws a).toNat = (commandsOf a r.inputs draws).map some

/-- For the cached list: it has to fit in the room there is, and in an `int`. -/
theorem Tracks.holdsLatest_iff {a : RendererInputDataAccess} {c : Nat} {r : RendererOGL}
    (h : Tracks a c r) (hlen : r.drawCache.length < 2 ^ 63) :
    HoldsLatest a r.drawCache r ↔
      drawCount a r.inputs r.drawCache ≤ c ∧ drawCount a r.inputs r.drawCache < 2 ^ 31 := by
  have hnum : (r.numDraws a).toNat = drawCount a r.inputs r.drawCache ↔
      drawCount a r.inputs r.drawCache < 2 ^ 31 := toNat_numDrawsOf_eq_iff a r.inputs hlen
  cases hbuf : r.indirectOf a with
  | none =>
      have hzero : drawCount a r.inputs r.drawCache = 0 := h.needed.mp (h.room.none.mp hbuf)
      have hnil : handlesOf a r.inputs r.drawCache = [] := List.eq_nil_of_length_eq_zero hzero
      refine ⟨fun _ => ⟨by omega, by omega⟩, fun _ => ⟨?_, ?_, ?_⟩⟩
      · simp [hbuf, hnil]
      · simp [hbuf]
      · simp [hbuf]
  | some b =>
      have hsize : b.size = c := h.room.size b hbuf
      constructor
      · intro hl
        -- as many cells are read as commands are issued, and as many as there are
        have hread := congrArg List.length (hl.contents b hbuf)
        have hroom := hl.room b hbuf
        rw [List.length_map, length_commandsOf, Buffer.read, length_slice, Nat.sub_zero,
          ← Buffer.size, Nat.min_eq_left hroom] at hread
        exact ⟨by omega, hnum.mp hread⟩
      · intro hfit
        have hissued := hnum.mpr hfit.2
        have hne : handlesOf a r.inputs r.drawCache ≠ [] := by
          intro hnil
          have hzero : drawCount a r.inputs r.drawCache = 0 := by rw [drawCount, hnil]; rfl
          have hnone := h.room.none.mpr (h.needed.mpr hzero)
          rw [hbuf] at hnone
          contradiction
        refine ⟨by simp [hbuf, hne], fun b' hb' => ?_, fun b' hb' => ?_⟩
        · rw [hissued, h.room.size b' hb']
          exact hfit.1
        · rw [hissued]
          exact h.contents hfit.1 b' hb'

/-- **Latest draw list**: after any run of draw lists the indirect buffers hold the
last one exactly when, for either access, it needs no more commands than the list
the buffer was created for, and fewer than `2 ^ 31`. -/
theorem indirect_buffers_hold_latest_iff (inputs : List RendererInput)
    (lists : List RendererDrawList) (draws : RendererDrawList) (hlen : draws.length < 2 ^ 63) :
    (∀ a, HoldsLatest a draws ((RendererOGL.create inputs).renderAll (lists ++ [draws]))) ↔
      ∀ a, drawCount a inputs draws ≤
          capacity a inputs (allInputsOnce inputs :: (lists ++ [draws])) ∧
        drawCount a inputs draws < 2 ^ 31 := by
  refine forall_congr' fun a => ?_
  have hcache := (RendererOGL.create inputs).drawCache_renderAll lists draws
  have hinputs := ((RendererOGL.create inputs).inputs_renderAll (lists ++ [draws])).trans
    (RendererOGL.inputs_create inputs)
  have hiff := (Tracks.create a inputs (lists ++ [draws])).holdsLatest_iff (by rwa [hcache])
  rwa [hcache, hinputs] at hiff

/-- A static point and a dynamic one. -/
def staticAndDynamic : List RendererInput :=
  [⟨.staticFixed, ⟨1, .perVertexBasis, []⟩, [10], [0]⟩,
    ⟨.dynamicFixed, ⟨1, .perVertexBasis, []⟩, [20], [0]⟩]

/-- The renderer after a frame of the dynamic point alone and one with the static
point twice. -/
def regrown : RendererOGL :=
  (RendererOGL.create staticAndDynamic).renderAll [[⟨1⟩], [⟨0⟩, ⟨0⟩, ⟨1⟩]]

/-- Dropping the static point for a frame lets a longer list in. -/
theorem indirect_buffers_hold_regrown :
    HoldsLatest .staticFixed [⟨0⟩, ⟨0⟩, ⟨1⟩] regrown ∧
    HoldsLatest .dynamicFixed [⟨0⟩, ⟨0⟩, ⟨1⟩] regrown := by
  have h := (indirect_buffers_hold_latest_iff staticAndDynamic [[⟨1⟩]] [⟨0⟩, ⟨0⟩, ⟨1⟩]
    (by decide)).mpr fun a => by cases a <;> decide
  exact ⟨h .staticFixed, h .dynamicFixed⟩

/-- Drawing the static point twice right away does not: the buffer was made for one
command. -/
theorem indirect_buffers_grown :
    ¬ ∀ a, HoldsLatest a [⟨0⟩, ⟨0⟩]
      ((RendererOGL.create staticAndDynamic).renderAll [[⟨0⟩, ⟨0⟩]]) := by
  intro h
  have hroom := (h .staticFixed).room _ rfl
  exact absurd hroom (by decide)

end Ogl
end Topaz
