import Topaz.EnumField
import Topaz.Input
import Mathlib.Data.List.Induction

/-!
# Topaz.VertexLayout

The vertex layout each backend sets up from the formats of its inputs.

A mesh input leaves out the attributes that its `MeshInputIgnoreField` names, and the
locations of those after them move up.  OpenGL keeps the format of the *last* input,
which its constructor overwrites at every input; Vulkan takes that of the *first*.
`VertexLayout` is what either of them means to a vertex shader.
-/

namespace Topaz

/-! ## mesh inputs -/

inductive MeshInputIgnoreFlag where
  | positionIgnore
  | texcoordIgnore
  | normalIgnore
  | tangentIgnore
  | bitangentIgnore
deriving DecidableEq, Repr

abbrev MeshInputIgnoreField := EnumField MeshInputIgnoreFlag

/-- `sizeof(Vertex)`: fourteen floats. -/
def sizeofVertex : Nat := 56

/-- A `MeshInput` (static) or a `MeshDynamicInput` (dynamic). -/
structure MeshInput where
  dataAccess : RendererInputDataAccess
  ignores : MeshInputIgnoreField
  vertexBytes : List UInt8
  indices : List (BitVec 32)
deriving DecidableEq, Repr

namespace MeshInput

/-- `get_format`, the same in both classes; the offsets are those of the members of
`Vertex`. -/
def getFormat (input : MeshInput) : RendererElementFormat where
  bindingSize := sizeofVertex
  basis := .perVertexBasis
  bindingAttributes :=
    (if !input.ignores.contains .positionIgnore then [⟨0, .float32x3⟩] else []) ++
    (if !input.ignores.contains .texcoordIgnore then [⟨12, .float32x2⟩] else []) ++
    (if !input.ignores.contains .normalIgnore then [⟨20, .float32x3⟩] else []) ++
    (if !input.ignores.contains .tangentIgnore then [⟨32, .float32x3⟩] else []) ++
    (if !input.ignores.contains .bitangentIgnore then [⟨44, .float32x3⟩] else [])

/-- What a renderer reads from a mesh input. -/
def rendererInput (input : MeshInput) : RendererInput :=
  ⟨input.dataAccess, input.getFormat, input.vertexBytes, input.indices⟩

end MeshInput

/-! ## layouts -/

/-- One attribute of a vertex, as the shader sees it. -/
structure AttributeLayout where
  location : BitVec 32
  type : RendererComponentType
  offset : BitVec 32
deriving DecidableEq, Repr

structure VertexLayout where
  stride : BitVec 32
  attributes : List AttributeLayout
deriving DecidableEq, Repr

namespace Ogl

/-- What `glVertexArrayAttribFormat` is told about an attribute; its type is always
`GL_FLOAT`. -/
structure AttribFormat where
  attribId : BitVec 32
  size : Nat
  relativeOffset : BitVec 32
deriving DecidableEq, Repr

/-- `this->format` after the constructor's loop over the inputs. -/
def elementFormat (inputs : List RendererInput) : Option RendererElementFormat :=
  inputs.foldl (fun _ input => some input.format) none

/-- The number of floats of a component type. -/
def attribSize : RendererComponentType → Nat
  | .float32 => 1
  | .float32x2 => 2
  | .float32x3 => 3

/-- The attributes that are enabled, all of them on binding 0.  The number of them is
cast to `GLuint`, and so is each offset. -/
def attribFormats (format : RendererElementFormat) : List AttribFormat :=
  (format.bindingAttributes.take (format.bindingAttributes.length % 2 ^ 32)).zipIdx.map
    fun (attribFormat, attribId) =>
      { attribId := BitVec.ofNat 32 attribId
        size := attribSize attribFormat.type
        relativeOffset := BitVec.ofNat 32 attribFormat.elementAttributeOffset }

/-- The component type of `size` floats. -/
def componentType : Nat → Option RendererComponentType
  | 1 => some .float32
  | 2 => some .float32x2
  | 3 => some .float32x3
  | _ => none

/-- The meaning of the vertex array's state; the stride is a `GLsizei`, given when the
vertex buffer is bound to binding 0. -/
def vertexLayout (inputs : List RendererInput) : Option VertexLayout :=
  (elementFormat inputs).map fun format =>
    { stride := BitVec.ofNat 32 format.bindingSize
      attributes := (attribFormats format).filterMap fun attrib =>
        (componentType attrib.size).map fun type =>
          ⟨attrib.attribId, type, attrib.relativeOffset⟩ }

end Ogl

namespace Vk

/-- The `VkFormat`s of vertex attributes. -/
inductive AttributeFormat where
  | r32Sfloat
  | r32g32Sfloat
  | r32g32b32Sfloat
deriving DecidableEq, Repr

structure VertexBindingDescription where
  binding : BitVec 32
  stride : BitVec 32
  rate : RendererInputFrequency
deriving DecidableEq, Repr

structure VertexAttributeDescription where
  binding : BitVec 32
  location : BitVec 32
  format : AttributeFormat
  offset : BitVec 32
deriving DecidableEq, Repr

structure VertexInputState where
  bindingDescriptions : List VertexBindingDescription
  attributeDescriptions : List VertexAttributeDescription
deriving DecidableEq, Repr

def attributeFormat : RendererComponentType → AttributeFormat
  | .float32 => .r32Sfloat
  | .float32x2 => .r32g32Sfloat
  | .float32x3 => .r32g32b32Sfloat

/-- `RendererBuilderVulkan::vk_get_vertex_input`. -/
def vkGetVertexInput : List RendererInput → VertexInputState
  | [] => ⟨[], []⟩
  | first :: _ =>
      let fmt := first.format
      { bindingDescriptions := [⟨0, BitVec.ofNat 32 fmt.bindingSize, fmt.basis⟩]
        attributeDescriptions := fmt.bindingAttributes.zipIdx.map fun (attrib, i) =>
          { binding := 0
            location := BitVec.ofNat 32 i
            format := attributeFormat attrib.type
            offset := BitVec.ofNat 32 attrib.elementAttributeOffset } }

/-- The component type of a format. -/
def AttributeFormat.componentType : AttributeFormat → RendererComponentType
  | .r32Sfloat => .float32
  | .r32g32Sfloat => .float32x2
  | .r32g32b32Sfloat => .float32x3

/-- The meaning of a vertex input state with its one binding. -/
def vertexLayout (inputs : List RendererInput) : Option VertexLayout :=
  let state := vkGetVertexInput inputs
  state.bindingDescriptions.head?.map fun binding =>
    { stride := binding.stride
      attributes := state.attributeDescriptions.map fun attrib =>
        ⟨attrib.location, attrib.format.componentType, attrib.offset⟩ }

end Vk

/-! ## the layout of a format -/

/-- Both backends lay a format out alike, location by location, as far as `GLuint` can
count its attributes. -/
def layoutOf (format : RendererElementFormat) : VertexLayout where
  stride := BitVec.ofNat 32 format.bindingSize
  attributes := format.bindingAttributes.zipIdx.map fun (attrib, i) =>
    ⟨BitVec.ofNat 32 i, attrib.type, BitVec.ofNat 32 attrib.elementAttributeOffset⟩

theorem Ogl.componentType_attribSize (type : RendererComponentType) :
    Ogl.componentType (Ogl.attribSize type) = some type := by
  cases type <;> rfl

theorem Ogl.elementFormat_eq (inputs : List RendererInput) :
    Ogl.elementFormat inputs = inputs.getLast?.map RendererInput.format := by
  induction inputs using List.reverseRecOn with
  | nil => rfl
  | append_singleton inputs input _ => simp [Ogl.elementFormat]

theorem Ogl.vertexLayout_eq {inputs : List RendererInput} {last : RendererInput}
    (hlast : inputs.getLast? = some last)
    (hlen : last.format.bindingAttributes.length < 2 ^ 32) :
    Ogl.vertexLayout inputs = some (layoutOf last.format) := by
  rw [Ogl.vertexLayout, Ogl.elementFormat_eq, hlast, Option.map_some, Option.map_some,
    Ogl.attribFormats, Nat.mod_eq_of_lt hlen, List.take_length, List.filterMap_map]
  simp [layoutOf, Ogl.componentType_attribSize]

theorem Vk.vertexLayout_eq (first : RendererInput) (rest : List RendererInput) :
    Vk.vertexLayout (first :: rest) = some (layoutOf first.format) := by
  have hformat : ∀ type, (Vk.attributeFormat type).componentType = type := by
    intro type
    cases type <;> rfl
  simp [Vk.vertexLayout, Vk.vkGetVertexInput, layoutOf, Function.comp_def, hformat]

/-! ## the attributes of a mesh -/

/-- The flags in the order in which `get_format` asks for them. -/
def meshFlags : List MeshInputIgnoreFlag :=
  [.positionIgnore, .texcoordIgnore, .normalIgnore, .tangentIgnore, .bitangentIgnore]

/-- The attribute a flag leaves out. -/
def meshAttribute : MeshInputIgnoreFlag → RendererAttributeFormat
  | .positionIgnore => ⟨0, .float32x3⟩
  | .texcoordIgnore => ⟨12, .float32x2⟩
  | .normalIgnore => ⟨20, .float32x3⟩
  | .tangentIgnore => ⟨32, .float32x3⟩
  | .bitangentIgnore => ⟨44, .float32x3⟩

namespace MeshInput

theorem bindingAttributes_getFormat (input : MeshInput) :
    input.getFormat.bindingAttributes =
      (meshFlags.filter fun flag => !input.ignores.contains flag).map meshAttribute := by
  simp only [getFormat, meshFlags, List.filter_cons, List.filter_nil]
  split_ifs <;> rfl

theorem length_bindingAttributes_le (input : MeshInput) :
    input.getFormat.bindingAttributes.length ≤ 5 := by
  rw [bindingAttributes_getFormat, List.length_map]
  exact List.length_filter_le _ _

end MeshInput

/-- An attribute is known by its offset. -/
theorem meshAttribute_offset_injective : Function.Injective fun flag =>
    BitVec.ofNat 32 (meshAttribute flag).elementAttributeOffset := by
  intro flag flag' h
  cases flag <;> cases flag' <;> first | rfl | exact absurd h (by decide)

theorem offsets_layoutOf (format : RendererElementFormat) :
    (layoutOf format).attributes.map AttributeLayout.offset =
      format.bindingAttributes.map fun attrib =>
        BitVec.ofNat 32 attrib.elementAttributeOffset := by
  rw [layoutOf, List.map_map]
  conv => rhs; rw [← List.zipIdx_map_fst 0 format.bindingAttributes, List.map_map]
  rfl

/-- The layout of a mesh tells which attributes it ignores. -/
theorem MeshInput.layoutOf_getFormat_eq_iff (x y : MeshInput) :
    layoutOf x.getFormat = layoutOf y.getFormat ↔
      ∀ flag, x.ignores.contains flag = y.ignores.contains flag := by
  constructor
  · intro h flag
    have hoffsets := congrArg (fun layout => layout.attributes.map AttributeLayout.offset) h
    simp only [offsets_layoutOf, MeshInput.bindingAttributes_getFormat, List.map_map] at hoffsets
    have hflags := List.map_injective_iff.mpr meshAttribute_offset_injective hoffsets
    have hmem : flag ∈ meshFlags := by cases flag <;> decide
    have hiff := congrArg (flag ∈ ·) hflags
    simpa [List.mem_filter, hmem] using hiff
  · intro h
    have hformat : x.getFormat = y.getFormat := by simp only [MeshInput.getFormat, h]
    rw [hformat]

/-- **Vertex layouts**: the two backends set up the same layout exactly when the first
input and the last one ignore the same attributes. -/
theorem vertex_layouts_agree_iff (first : MeshInput) (rest : List MeshInput) :
    Ogl.vertexLayout ((first :: rest).map MeshInput.rendererInput) =
        Vk.vertexLayout ((first :: rest).map MeshInput.rendererInput) ↔
      ∀ flag, first.ignores.contains flag =
        ((first :: rest).getLast (List.cons_ne_nil first rest)).ignores.contains flag := by
  have hlast : ((first :: rest).map MeshInput.rendererInput).getLast? =
      some ((first :: rest).getLast (List.cons_ne_nil first rest)).rendererInput := by
    rw [List.getLast?_map, List.getLast?_eq_some_getLast (List.cons_ne_nil first rest),
      Option.map_some]
  have hlen := ((first :: rest).getLast
    (List.cons_ne_nil first rest)).length_bindingAttributes_le
  rw [Ogl.vertexLayout_eq hlast (Nat.lt_of_le_of_lt hlen (by decide)), List.map_cons,
    Vk.vertexLayout_eq, Option.some.injEq]
  exact eq_comm.trans (MeshInput.layoutOf_getFormat_eq_iff first _)

/-- A point with every attribute and one whose position is ignored: OpenGL's location 0
is the texture coordinate, Vulkan's the position. -/
theorem vertex_layouts_differ :
    Ogl.vertexLayout (([⟨.staticFixed, ⟨[]⟩, [], []⟩,
        ⟨.staticFixed, ⟨[.positionIgnore]⟩, [], []⟩] : List MeshInput).map
          MeshInput.rendererInput) ≠
      Vk.vertexLayout (([⟨.staticFixed, ⟨[]⟩, [], []⟩,
        ⟨.staticFixed, ⟨[.positionIgnore]⟩, [], []⟩] : List MeshInput).map
          MeshInput.rendererInput) := by
  decide +kernel

end Topaz
