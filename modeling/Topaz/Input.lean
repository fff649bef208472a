import Topaz.Segments

/-!
# Topaz.Input

Renderer inputs and draw lists, as both backends see them.

An input is what the `IRendererInput` interface answers: its access, its element
format, its vertex bytes and its indices.  Inputs of the two accesses go to
different buffers, so every quantity comes in a version *restricted to an
access* (`verticesIn`, `indexCountIn`, ...) to which an input of the other access
contributes nothing; positions in the buffers are then prefix sums over the whole
input list, whatever the order of static and dynamic inputs.
-/

namespace Topaz

/-- How an input's data can be accessed once the renderer exists. -/
inductive RendererInputDataAccess where
  | staticFixed
  | dynamicFixed
deriving DecidableEq, Repr

inductive RendererInputFrequency where
  | perVertexBasis
  | perInstanceBasis
deriving DecidableEq, Repr

inductive RendererComponentType where
  | float32
  | float32x2
  | float32x3
deriving DecidableEq, Repr

structure RendererAttributeFormat where
  elementAttributeOffset : Nat
  type : RendererComponentType
deriving DecidableEq, Repr

/-- The layout of one vertex element in memory. -/
structure RendererElementFormat where
  bindingSize : Nat
  basis : RendererInputFrequency
  bindingAttributes : List RendererAttributeFormat
deriving DecidableEq, Repr

/-- What a renderer reads from one of its inputs. -/
structure RendererInput where
  dataAccess : RendererInputDataAccess
  format : RendererElementFormat
  vertexBytes : List UInt8
  indices : List (BitVec 32)
deriving DecidableEq, Repr

namespace RendererInput

def vertexCountBytes (input : RendererInput) : Nat := input.vertexBytes.length

def vertexCount (input : RendererInput) : Nat :=
  input.vertexCountBytes / input.format.bindingSize

def indexCount (input : RendererInput) : Nat := input.indices.length

/-! ## the part of an input that belongs to an access -/

def verticesIn (a : RendererInputDataAccess) (input : RendererInput) : List UInt8 :=
  if input.dataAccess = a then input.vertexBytes else []

def indicesIn (a : RendererInputDataAccess) (input : RendererInput) : List (BitVec 32) :=
  if input.dataAccess = a then input.indices else []

def vertexCountIn (a : RendererInputDataAccess) (input : RendererInput) : Nat :=
  if input.dataAccess = a then input.vertexCount else 0

def indexCountIn (a : RendererInputDataAccess) (input : RendererInput) : Nat :=
  if input.dataAccess = a then input.indexCount else 0

theorem length_indicesIn (a : RendererInputDataAccess) (input : RendererInput) :
    (input.indicesIn a).length = input.indexCountIn a := by
  unfold indicesIn indexCountIn indexCount
  split <;> rfl

end RendererInput

/-- All inputs have elements of `size` bytes and hold whole elements. -/
structure SharedBinding (size : Nat) (inputs : List RendererInput) : Prop where
  bindingSize : ∀ input ∈ inputs, input.format.bindingSize = size
  whole : ∀ input ∈ inputs, size ∣ input.vertexCountBytes

namespace SharedBinding

variable {size : Nat} {inputs : List RendererInput} (h : SharedBinding size inputs)
include h

/-- Bytes are elements times the element size (with elements of no bytes there are
no bytes). -/
theorem vertexCountBytes_eq {input : RendererInput} (hi : input ∈ inputs) :
    input.vertexCountBytes = input.vertexCount * size := by
  rw [RendererInput.vertexCount, h.bindingSize input hi, Nat.div_mul_cancel (h.whole input hi)]

theorem length_verticesIn (a : RendererInputDataAccess) {input : RendererInput}
    (hi : input ∈ inputs) : (input.verticesIn a).length = input.vertexCountIn a * size := by
  unfold RendererInput.verticesIn RendererInput.vertexCountIn
  split
  · exact h.vertexCountBytes_eq hi
  · simp

/-- The byte position of an input's vertices is its element position. -/
theorem before_length_verticesIn (a : RendererInputDataAccess) (k : Nat) :
    before (fun input => (input.verticesIn a).length) inputs k =
      before (RendererInput.vertexCountIn a) inputs k * size :=
  before_mul _ _ size fun _ hi => h.length_verticesIn a hi

/-- The vertices of an access, end to end, hold each input's vertices counted from
where that input starts. -/
theorem slice_flatMap_verticesIn {a : RendererInputDataAccess} {k x : Nat}
    {input : RendererInput} (hk : inputs[k]? = some input) (ha : input.dataAccess = a)
    (hx : x < input.vertexCount) :
    slice (inputs.flatMap (RendererInput.verticesIn a))
        ((before (RendererInput.vertexCountIn a) inputs k + x) * size) size =
      slice input.vertexBytes (x * size) size := by
  obtain ⟨hlt, hget⟩ := List.getElem?_eq_some_iff.mp hk
  have hmem : input ∈ inputs := List.mem_of_getElem? hk
  have hseg := slice_flatMap_before inputs (RendererInput.verticesIn a) hlt
  have hown : input.verticesIn a = input.vertexBytes := if_pos ha
  rw [hget, hown, h.before_length_verticesIn] at hseg
  have hfit : x * size + size ≤ input.vertexBytes.length := by
    have hbytes : input.vertexBytes.length = input.vertexCount * size :=
      h.vertexCountBytes_eq hmem
    rw [hbytes, ← Nat.succ_mul]
    exact Nat.mul_le_mul_right size hx
  rw [Nat.add_mul, ← slice_slice _ hfit, hseg]

end SharedBinding

/-- The indices of an access, end to end, hold each input's own. -/
theorem slice_flatMap_indicesIn {a : RendererInputDataAccess} {inputs : List RendererInput}
    {k : Nat} {input : RendererInput} (hk : inputs[k]? = some input)
    (ha : input.dataAccess = a) :
    slice (inputs.flatMap (RendererInput.indicesIn a))
        (before (RendererInput.indexCountIn a) inputs k) input.indexCount =
      input.indices := by
  obtain ⟨hlt, hget⟩ := List.getElem?_eq_some_iff.mp hk
  have hseg := slice_flatMap_before inputs (RendererInput.indicesIn a) hlt
  have hown : input.indicesIn a = input.indices := if_pos ha
  rw [hget, hown] at hseg
  simp only [RendererInput.length_indicesIn] at hseg
  exact hseg

/-! ## draw lists -/

/-- A handle to a renderer input. -/
structure RendererInputHandle where
  value : Nat
deriving DecidableEq, Repr

/-- Looking up behind a check of the bound. -/
theorem ite_length_le_getElem? {α : Type} (l : List α) (i : Nat) :
    (if l.length ≤ i then none else l[i]?) = l[i]? := by
  split
  · next hle => rw [List.getElem?_eq_none hle]
  · rfl

abbrev RendererDrawList := List RendererInputHandle

/-- The default draw list. -/
def allInputsOnce (inputs : List RendererInput) : RendererDrawList :=
  (List.range inputs.length).map RendererInputHandle.mk

theorem allInputsOnce_ne_nil {inputs : List RendererInput} (h : inputs ≠ []) :
    allInputsOnce inputs ≠ [] := by
  intro hnil
  have hlen := congrArg List.length hnil
  simp only [allInputsOnce, List.length_map, List.length_range, List.length_nil] at hlen
  exact h (List.eq_nil_of_length_eq_zero hlen)

/-- The access of the input a handle names. -/
def accessOf (inputs : List RendererInput) (handle : RendererInputHandle) :
    Option RendererInputDataAccess :=
  (inputs[handle.value]?).map RendererInput.dataAccess

/-- Every handle of the list names an input. -/
def ValidDraws (inputs : List RendererInput) (draws : RendererDrawList) : Prop :=
  ∀ handle ∈ draws, handle.value < inputs.length

/-- The handles of a draw list that name inputs of one access, in order. -/
def handlesOf (a : RendererInputDataAccess) (inputs : List RendererInput)
    (draws : RendererDrawList) : RendererDrawList :=
  draws.filter fun handle => accessOf inputs handle = some a

/-- A handle of the access names an input of that access. -/
theorem exists_of_mem_handlesOf {a : RendererInputDataAccess} {inputs : List RendererInput}
    {draws : RendererDrawList} {handle : RendererInputHandle}
    (h : handle ∈ handlesOf a inputs draws) :
    ∃ input, inputs[handle.value]? = some input ∧ input.dataAccess = a := by
  have haccess := (List.mem_filter.mp h).2
  simpa [accessOf] using haccess

end Topaz
