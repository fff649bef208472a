import Topaz.Ogl.Context
import Topaz.Ogl.Renderer
import Topaz.Resource

/-!
# Topaz.Ogl.Move

A `RendererOGL` with all its members, what its calls answer, and its moves.

`Topaz.Ogl.Renderer` has the members that draw lists change; `drawState` looks at those of
a whole object, and commutes with construction and `bind_draw_list` (`drawState_create`,
`drawState_bindDrawList`).  The move assignment swaps ten of the sixteen members and
leaves the others where they are (`UnmovedMembers`): the dynamic and the indirect
buffers, the resources and the draw cache.  An object that has none of these is moved
whole (`moveConstruct_eq`).
-/

namespace Topaz
namespace Ogl

/-! ## the members -/

/-- A name of an OpenGL object. -/
abbrev GLuint := BitVec 32

/-- A `Shader`, by its address. -/
abbrev ShaderId := Nat

inductive RendererOutputType where
  | window
  | texture
deriving DecidableEq, Repr

/-- The members of a `RendererOGL`.  `format` has no value until an input gives it one. -/
structure RendererObject where
  vao : GLuint
  vbo : Option (Buffer UInt8)
  ibo : Option (Buffer (BitVec 32))
  vboDynamic : Option (Buffer UInt8)
  iboDynamic : Option (Buffer (BitVec 32))
  indirectBuffer : Option (Buffer DrawIndirectCommand)
  indirectBufferDynamic : Option (Buffer DrawIndirectCommand)
  resources : List Resource
  resourceUbos : List GLuint
  resourceTextures : List GLuint
  format : Option RendererElementFormat
  passAttachment : RenderPassAttachment
  shader : Option ShaderId
  inputs : List RendererInput
  output : Option RendererOutputType
  drawCache : RendererDrawList
deriving DecidableEq

/-- What a renderer is constructed from. -/
structure RendererBuilderOGL where
  inputs : List RendererInput
  resources : ResourceBuilder
  passAttachment : RenderPassAttachment
  shader : ShaderId
  output : Option RendererOutputType

/-- The names that OpenGL gives to the objects of a renderer. -/
structure ObjectNames where
  vao : GLuint
  ubo : Nat → GLuint
  texture : Nat → GLuint

namespace RendererObject

/-- The members that draw lists read and change, as in `Topaz.Ogl.Renderer`. -/
def drawState (r : RendererObject) : RendererOGL where
  inputs := r.inputs
  staticGeometry := ⟨r.vbo, r.ibo⟩
  dynamicGeometry := Ogl.dynamicGeometry r.inputs
  indirectBuffer := r.indirectBuffer
  indirectBufferDynamic := r.indirectBufferDynamic
  drawCache := r.drawCache

/-- `RendererOGL::RendererOGL`. -/
def create (builder : RendererBuilderOGL) (names : ObjectNames) : RendererObject :=
  let state := RendererOGL.create builder.inputs
  let dynamic := (compileInputs 1 builder.inputs).anyDynamicGeometry
  { vao := names.vao
    vbo := state.staticGeometry.vertexBuffer
    ibo := state.staticGeometry.indexBuffer
    vboDynamic := if dynamic then some state.dynamicGeometry.vertices.buffer else none
    iboDynamic := if dynamic then some state.dynamicGeometry.indices.buffer else none
    indirectBuffer := state.indirectBuffer
    indirectBufferDynamic := state.indirectBufferDynamic
    resources := (Ogl.rendererResources builder.resources).resources
    resourceUbos := (List.range builder.resources.bufferResources.length).map names.ubo
    resourceTextures := (List.range builder.resources.textureResources.length).map names.texture
    format := (builder.inputs.getLast?).map RendererInput.format
    passAttachment := builder.passAttachment
    shader := some builder.shader
    inputs := builder.inputs
    output := builder.output
    drawCache := state.drawCache }

/-! ## calls -/

def inputCount (r : RendererObject) : Nat := r.inputs.length

def inputCountOf (r : RendererObject) (access : RendererInputDataAccess) : BitVec 64 :=
  numInputsOf access r.inputs

def getInput (r : RendererObject) (handle : RendererInputHandle) : Option RendererInput :=
  if r.inputs.length ≤ handle.value then none else r.inputs[handle.value]?

def resourceCount (r : RendererObject) : Nat := r.resources.length

def resourceCountOf (r : RendererObject) (type : ResourceType) : BitVec 64 :=
  accumulate (r.resources.map fun resource => resource.type = type)

def getResource (r : RendererObject) (handle : ResourceHandle) : Option Resource :=
  if r.resources.length ≤ handle.value then none else r.resources[handle.value]?

/-- What `render` tells OpenGL, but for the size of the window.  A buffer stands for its
contents. -/
inductive GlCommand where
  | bindFramebuffer
  | clear (attachment : RenderPassAttachment)
  | bindVertexArray (vao : GLuint)
  | bindBufferBase (index : Nat) (ubo : GLuint)
  | useProgram (shader : ShaderId)
  | bindTextureUnit (location : Nat) (texture : GLuint)
  | multiDrawElementsIndirect (vertices : Buffer UInt8) (stride : Nat)
      (indices : Buffer (BitVec 32)) (commands : Buffer DrawIndirectCommand) (count : BitVec 64)
deriving DecidableEq

/-- The draws of an access, if there is an indirect buffer for them; `none` if a buffer or the
format is read that is not there. -/
def drawCommands (r : RendererObject) (vertices : Option (Buffer UInt8))
    (indices : Option (Buffer (BitVec 32))) (access : RendererInputDataAccess) :
    Option (List GlCommand) :=
  match r.drawState.indirectOf access with
  | none => some []
  | some commands => do
      let vertices ← vertices
      let indices ← indices
      let format ← r.format
      return [.multiDrawElementsIndirect vertices format.bindingSize indices commands
        (r.drawState.numDraws access)]

/-- What `render()` does before it draws. -/
def setupCommands (r : RendererObject) (shader : ShaderId) : List GlCommand :=
  let framebuffer : List GlCommand := if r.output = some .window then [.bindFramebuffer] else []
  let ubos : List GlCommand := r.resourceUbos.mapIdx fun i ubo => .bindBufferBase i ubo
  let textures : List GlCommand := r.resourceTextures.mapIdx fun i texture =>
    .bindTextureUnit (r.resourceUbos.length + i) texture
  framebuffer ++ .clear r.passAttachment :: .bindVertexArray r.vao ::
    (ubos ++ .useProgram shader :: textures)

/-- `render()`; `none` if its behaviour is undefined. -/
def renderCommands (r : RendererObject) : Option (List GlCommand) := do
  let shader ← r.shader
  let staticDraws ← r.drawCommands r.vbo r.ibo .staticFixed
  let dynamicDraws ← r.drawCommands r.vboDynamic r.iboDynamic .dynamicFixed
  return r.setupCommands shader ++ staticDraws ++ dynamicDraws

def bindDrawList (r : RendererObject) (draws : RendererDrawList) : RendererObject :=
  let state := r.drawState.bindDrawList draws
  { r with
    indirectBuffer := state.indirectBuffer
    indirectBufferDynamic := state.indirectBufferDynamic
    drawCache := state.drawCache }

inductive Call where
  | render
  | renderList (draws : RendererDrawList)
  | inputCount
  | inputCountOf (access : RendererInputDataAccess)
  | getInput (handle : RendererInputHandle)
  | resourceCount
  | resourceCountOf (type : ResourceType)
  | getResource (handle : ResourceHandle)
deriving DecidableEq, Repr

inductive Answer where
  | drawn (commands : List GlCommand)
  | count (n : Nat)
  | input (input : Option RendererInput)
  | resource (resource : Option Resource)
deriving DecidableEq

/-- The object after a call, and its answer; `none` if the behaviour is undefined. -/
def exec (r : RendererObject) : Call → Option (RendererObject × Answer)
  | .render => r.renderCommands.map fun commands => (r, .drawn commands)
  | .renderList draws =>
      let bound := if r.drawState.drawsMatchCache draws then r else r.bindDrawList draws
      bound.renderCommands.map fun commands => (bound, .drawn commands)
  | .inputCount => some (r, .count r.inputCount)
  | .inputCountOf access => some (r, .count (r.inputCountOf access).toNat)
  | .getInput handle => some (r, .input (r.getInput handle))
  | .resourceCount => some (r, .count r.resourceCount)
  | .resourceCountOf type => some (r, .count (r.resourceCountOf type).toNat)
  | .getResource handle => some (r, .resource (r.getResource handle))

/-- The answers to a sequence of calls. -/
def behaviour (r : RendererObject) : List Call → Option (List Answer)
  | [] => some []
  | call :: calls => (r.exec call).bind fun result =>
      (result.1.behaviour calls).map (result.2 :: ·)

/-! ## moves -/

/-- The members as the move constructor initialises them. -/
def null : RendererObject where
  vao := 0
  vbo := none
  ibo := none
  vboDynamic := none
  iboDynamic := none
  indirectBuffer := none
  indirectBufferDynamic := none
  resources := []
  resourceUbos := []
  resourceTextures := []
  format := none
  passAttachment := .colourDepth
  shader := none
  inputs := []
  output := none
  drawCache := []

/-- `r` with the members that the move assignment takes from `source`. -/
def takeFrom (r source : RendererObject) : RendererObject :=
  { r with
    vao := source.vao
    vbo := source.vbo
    ibo := source.ibo
    resourceUbos := source.resourceUbos
    resourceTextures := source.resourceTextures
    format := source.format
    passAttachment := source.passAttachment
    shader := source.shader
    inputs := source.inputs
    output := source.output }

/-- `operator=(RendererOGL&&)`: both objects after the swaps. -/
def moveAssign (this rhs : RendererObject) : RendererObject × RendererObject :=
  (this.takeFrom rhs, rhs.takeFrom this)

/-- The move constructor: the new object and the moved-from one. -/
def moveConstruct (move : RendererObject) : RendererObject × RendererObject :=
  null.moveAssign move

/-- Two objects have the same inputs, resources, draw cache and buffers. -/
structure SameContents (a b : RendererObject) : Prop where
  inputs : a.inputs = b.inputs
  resources : a.resources = b.resources
  drawCache : a.drawCache = b.drawCache
  vbo : a.vbo = b.vbo
  ibo : a.ibo = b.ibo
  vboDynamic : a.vboDynamic = b.vboDynamic
  iboDynamic : a.iboDynamic = b.iboDynamic
  indirectBuffer : a.indirectBuffer = b.indirectBuffer
  indirectBufferDynamic : a.indirectBufferDynamic = b.indirectBufferDynamic

/-- The object constructed from `r` has what `r` had, and answers all calls as `r` would have. -/
structure MovePreserves (r : RendererObject) : Prop where
  contents : SameContents r.moveConstruct.1 r
  behaviour : ∀ calls, r.moveConstruct.1.behaviour calls = r.behaviour calls

/-- The two objects of an assignment exchange what they have. -/
structure MoveExchanges (this rhs : RendererObject) : Prop where
  assigned : SameContents (this.moveAssign rhs).1 rhs
  moved : SameContents (this.moveAssign rhs).2 this

/-- The members that the move assignment leaves where they are. -/
structure UnmovedMembers where
  vboDynamic : Option (Buffer UInt8)
  iboDynamic : Option (Buffer (BitVec 32))
  indirectBuffer : Option (Buffer DrawIndirectCommand)
  indirectBufferDynamic : Option (Buffer DrawIndirectCommand)
  resources : List Resource
  drawCache : RendererDrawList
deriving DecidableEq

def unmoved (r : RendererObject) : UnmovedMembers :=
  ⟨r.vboDynamic, r.iboDynamic, r.indirectBuffer, r.indirectBufferDynamic, r.resources, r.drawCache⟩

/-! ## construction and draw lists -/

theorem drawState_create (builder : RendererBuilderOGL) (names : ObjectNames) :
    (create builder names).drawState = RendererOGL.create builder.inputs := by
  simp only [create, drawState, RendererOGL.create, RendererOGL.bindDrawList]
  split <;> rfl

theorem drawState_bindDrawList (r : RendererObject) (draws : RendererDrawList) :
    (r.bindDrawList draws).drawState = r.drawState.bindDrawList draws := by
  simp only [bindDrawList, RendererOGL.bindDrawList]
  split <;> rfl

/-- A new renderer has nothing to leave behind only if it has neither inputs nor resources. -/
theorem unmoved_create_iff (builder : RendererBuilderOGL) (names : ObjectNames) :
    (create builder names).unmoved = null.unmoved ↔
      builder.inputs = [] ∧ (Ogl.rendererResources builder.resources).resources = [] := by
  constructor
  · intro h
    have hcache : (RendererOGL.create builder.inputs).drawCache = [] :=
      congrArg UnmovedMembers.drawCache h
    rw [RendererOGL.create, RendererOGL.drawCache_bindDrawList] at hcache
    refine ⟨?_, congrArg UnmovedMembers.resources h⟩
    by_contra hne
    exact allInputsOnce_ne_nil hne hcache
  · rintro ⟨hinputs, hresources⟩
    simp only [unmoved, create, hinputs, hresources]
    rfl

/-! ## what is moved -/

theorem sameContents_takeFrom_iff (r source : RendererObject) :
    SameContents (r.takeFrom source) source ↔ r.unmoved = source.unmoved := by
  constructor
  · intro h
    simp only [unmoved, UnmovedMembers.mk.injEq]
    exact ⟨h.vboDynamic, h.iboDynamic, h.indirectBuffer, h.indirectBufferDynamic, h.resources,
      h.drawCache⟩
  · intro h
    simp only [unmoved, UnmovedMembers.mk.injEq] at h
    obtain ⟨hvbo, hibo, hindirect, hindirectDynamic, hresources, hcache⟩ := h
    exact ⟨rfl, hresources, hcache, rfl, rfl, hvbo, hibo, hindirect, hindirectDynamic⟩

/-- An object without unmoved members is moved whole. -/
theorem moveConstruct_eq {r : RendererObject} (h : r.unmoved = null.unmoved) :
    r.moveConstruct = (r, null) := by
  cases r
  simp only [unmoved, null, UnmovedMembers.mk.injEq] at h
  obtain ⟨rfl, rfl, rfl, rfl, rfl, rfl⟩ := h
  rfl

/-- The names of the first objects of a context. -/
def firstNames : ObjectNames := ⟨1, fun i => BitVec.ofNat 32 (i + 1), fun i => BitVec.ofNat 32 (i + 1)⟩

/-- A renderer with a static point, a dynamic one and a buffer resource. -/
def oneResource : RendererObject :=
  create ⟨staticAndDynamic, ⟨[⟨.buffer, .staticFixed, [7]⟩], []⟩, .colour, 0, some .window⟩ firstNames

end RendererObject
end Ogl
end Topaz
