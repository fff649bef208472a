import Topaz.Buffer
import Topaz.Draws

/-!
# Topaz.Geometry

How the inputs' geometry reaches its buffers: the compile loop of
`RendererOGL::RendererOGL` and `RendererBufferManagerVulkan::setup_buffers`, the
uploads of static geometry, and the regions of the mapped buffers that dynamic
inputs are handed with `set_vertex_data` and `set_index_data`.

The compile loops of the two backends are the same but for the unit in which they
note index regions, elements in OpenGL and bytes in Vulkan; both then add the
noted offset to an `unsigned int*`.
-/

namespace Topaz

/-! ## the compile loop -/

/-- A region of a mapped buffer, meant for the dynamic input at a position. -/
structure DynamicInputMapRegion where
  input : Nat
  offset : Nat
  length : Nat
deriving DecidableEq, Repr

/-- The locals of the compile loop. -/
structure CompiledInputs where
  staticVertexBytes : List UInt8
  staticIndices : List (BitVec 32)
  dynamicVertexBytes : List UInt8
  dynamicIndices : List (BitVec 32)
  vertexRegions : List DynamicInputMapRegion
  indexRegions : List DynamicInputMapRegion
  anyStaticGeometry : Bool
  anyDynamicGeometry : Bool

namespace CompiledInputs

def empty : CompiledInputs := ⟨[], [], [], [], [], [], false, false⟩

/-- Compile the input at position `k`; index regions are noted in units of which
an index has `indexUnit`. -/
def add (indexUnit : Nat) (c : CompiledInputs) (k : Nat) (input : RendererInput) :
    CompiledInputs :=
  match input.dataAccess with
  | .staticFixed =>
      { c with
        staticVertexBytes := c.staticVertexBytes ++ input.vertexBytes
        staticIndices := c.staticIndices ++ input.indices
        anyStaticGeometry := true }
  | .dynamicFixed =>
      { c with
        dynamicVertexBytes := c.dynamicVertexBytes ++ input.vertexBytes
        dynamicIndices := c.dynamicIndices ++ input.indices
        vertexRegions := c.vertexRegions ++
          [⟨k, c.dynamicVertexBytes.length, input.vertexBytes.length⟩]
        indexRegions := c.indexRegions ++
          [⟨k, c.dynamicIndices.length * indexUnit, input.indices.length * indexUnit⟩]
        anyDynamicGeometry := true }

def addAll (indexUnit : Nat) (c : CompiledInputs) (k : Nat) : List RendererInput → CompiledInputs
  | [] => c
  | input :: inputs => addAll indexUnit (c.add indexUnit k input) (k + 1) inputs

end CompiledInputs

/-- The whole loop. -/
def compileInputs (indexUnit : Nat) (inputs : List RendererInput) : CompiledInputs :=
  CompiledInputs.empty.addAll indexUnit 0 inputs

/-! ## static geometry -/

/-- The buffers static inputs are drawn from. -/
structure StaticGeometry where
  vertexBuffer : Option (Buffer UInt8)
  indexBuffer : Option (Buffer (BitVec 32))

/-- `RendererOGL::RendererOGL`: create both buffers and write them. -/
def Ogl.staticGeometry (inputs : List RendererInput) : StaticGeometry :=
  let c := compileInputs 1 inputs
  if c.anyStaticGeometry then
    ⟨some ((Buffer.create c.staticVertexBytes.length).subData c.staticVertexBytes),
      some ((Buffer.create c.staticIndices.length).subData c.staticIndices)⟩
  else ⟨none, none⟩

/-- What the upload in `record_and_run_scratch_commands` collects. -/
structure ScratchUpload where
  totalVertices : List UInt8
  totalIndices : List (BitVec 32)
  indexCountSoFar : BitVec 32

def ScratchUpload.add (s : ScratchUpload) (input : RendererInput) : ScratchUpload :=
  match input.dataAccess with
  | .staticFixed =>
      { totalVertices := s.totalVertices ++ input.vertexBytes
        totalIndices := s.totalIndices ++ input.indices
        indexCountSoFar := addCount s.indexCountSoFar input.indexCount }
  | .dynamicFixed => s

def scratchUpload (inputs : List RendererInput) : ScratchUpload :=
  inputs.foldl ScratchUpload.add ⟨[], [], 0⟩

/-- `setup_buffers` creates the buffers; `record_and_run_scratch_commands` fills
them from staging buffers, if there is any index. -/
def Vk.staticGeometry (inputs : List RendererInput) : StaticGeometry :=
  let c := compileInputs 4 inputs
  let s := scratchUpload inputs
  if c.anyStaticGeometry then
    let vertexBuffer := Buffer.create c.staticVertexBytes.length
    let indexBuffer := Buffer.create c.staticIndices.length
    if 0 < s.indexCountSoFar then
      ⟨some (vertexBuffer.subData s.totalVertices), some (indexBuffer.subData s.totalIndices)⟩
    else ⟨some vertexBuffer, some indexBuffer⟩
  else ⟨none, none⟩

/-! ## dynamic geometry -/

/-- One kind of data (vertex bytes or indices) of the dynamic inputs: the part of a
buffer that is mapped and the cells behind it, which no pointer reaches, the initial
data each input was made with, and the pointers they hold into the mapping (`nullptr`
until they are handed one). -/
structure MappedData (α : Type) where
  mapping : Buffer α
  unmapped : List (Option α)
  initial : Nat → List α
  pointers : Nat → Option Nat

namespace MappedData

variable {α : Type}

/-- The whole buffer, which draws read. -/
def buffer (m : MappedData α) : Buffer α := ⟨m.mapping.cells ++ m.unmapped⟩

/-- `MeshDynamicInput::get_vertex_bytes` and `get_indices`. -/
def getData (m : MappedData α) (k : Nat) : List (Option α) :=
  match m.pointers k with
  | none => (m.initial k).map some
  | some p => m.mapping.read p (m.initial k).length

/-- `MeshDynamicInput::set_vertex_data` and `set_index_data`: keep the pointer and
copy the current data behind it. -/
def setData (m : MappedData α) (k p : Nat) : MappedData α where
  mapping := m.mapping.memcpy p (m.getData k)
  unmapped := m.unmapped
  initial := m.initial
  pointers := Function.update m.pointers k (some p)

/-- Hand every region to its input. -/
def setRegions (m : MappedData α) (regions : List DynamicInputMapRegion) : MappedData α :=
  regions.foldl (fun m r => m.setData r.input r.offset) m

/-- A write of `xs` at position `i` of the span `get_vertex_bytes_dynamic` returns.
(An input without a pointer owns its span; no buffer changes.) -/
def write (m : MappedData α) (k i : Nat) (xs : List α) : MappedData α :=
  match m.pointers k with
  | none => m
  | some p => { m with mapping := m.mapping.memcpy (p + i) (xs.map some) }

end MappedData

/-- The mapped buffers of the dynamic inputs. -/
structure DynamicGeometry where
  vertices : MappedData UInt8
  indices : MappedData (BitVec 32)

/-- A new buffer for `data`, written if `filled`, of which the first `mapped` cells are
mapped, before any input points into it. -/
def MappedData.create {α : Type} (filled : Bool) (mapped : Nat) (data : List α)
    (initial : Nat → List α) : MappedData α :=
  let buffer :=
    if filled then (Buffer.create data.length).subData data else Buffer.create data.length
  { mapping := ⟨buffer.cells.take mapped⟩
    unmapped := buffer.cells.drop mapped
    initial := initial
    pointers := fun _ => none }

/-- The vertex bytes an input was made with. -/
def initialVertices (inputs : List RendererInput) (k : Nat) : List UInt8 :=
  ((inputs[k]?).map RendererInput.vertexBytes).getD []

/-- The indices an input was made with. -/
def initialIndices (inputs : List RendererInput) (k : Nat) : List (BitVec 32) :=
  ((inputs[k]?).map RendererInput.indices).getD []

/-- Create the dynamic buffers, map them and hand out the regions, where `mapMemory` is
how many bytes of a buffer are mapped; an index has four of them.  Without dynamic inputs
no region is handed out. -/
def setupDynamic (indexUnit : Nat) (filled : Bool) (mapMemory : Nat → Nat)
    (inputs : List RendererInput) : DynamicGeometry :=
  let c := compileInputs indexUnit inputs
  let vertices := MappedData.create filled (mapMemory c.dynamicVertexBytes.length)
    c.dynamicVertexBytes (initialVertices inputs)
  let indices := MappedData.create filled (mapMemory (c.dynamicIndices.length * 4) / 4)
    c.dynamicIndices (initialIndices inputs)
  if c.anyDynamicGeometry then
    ⟨vertices.setRegions c.vertexRegions, indices.setRegions c.indexRegions⟩
  else ⟨vertices, indices⟩

/-- How much of a buffer of `size` bytes `ogl::Buffer::map_memory` maps: it asks for the
size in a `GLint`, and gets the largest one for a size that is none. -/
def Ogl.mapMemory (size : Nat) : Nat := min size (2 ^ 31 - 1)

/-- `vk::Buffer::map_memory` maps the whole allocation. -/
def Vk.mapMemory (size : Nat) : Nat := size

/-- `RendererOGL::RendererOGL` notes index regions in elements, and writes the
buffers before it maps them. -/
def Ogl.dynamicGeometry (inputs : List RendererInput) : DynamicGeometry :=
  setupDynamic 1 true Ogl.mapMemory inputs

/-- `RendererBufferManagerVulkan::setup_buffers` notes index regions in bytes. -/
def Vk.dynamicGeometry (inputs : List RendererInput) : DynamicGeometry :=
  setupDynamic 4 false Vk.mapMemory inputs

/-! ## what the compile loop collects -/

/-- The regions noted for `inputs`, where an input counts for `count` units of
which the region offsets have `unit` each. -/
structure RegionsFor (count : RendererInput → Nat) (unit : Nat) (inputs : List RendererInput)
    (regions : List DynamicInputMapRegion) : Prop where
  region : ∀ r ∈ regions, ∃ input, inputs[r.input]? = some input ∧
    input.dataAccess = .dynamicFixed ∧ r.offset = before count inputs r.input * unit
  covered : ∀ k input, inputs[k]? = some input → input.dataAccess = .dynamicFixed →
    ∃ r ∈ regions, r.input = k
  ordered : regions.Pairwise fun r s => r.input < s.input

namespace RegionsFor

variable {count : RendererInput → Nat} {unit : Nat} {inputs : List RendererInput}
  {regions : List DynamicInputMapRegion} {input : RendererInput}

theorem region_append (h : RegionsFor count unit inputs regions) (input : RendererInput)
    {r : DynamicInputMapRegion} (hr : r ∈ regions) :
    r.input < inputs.length ∧ ∃ i, (inputs ++ [input])[r.input]? = some i ∧
      i.dataAccess = .dynamicFixed ∧
      r.offset = before count (inputs ++ [input]) r.input * unit := by
  obtain ⟨i, hi, hdyn, hoff⟩ := h.region r hr
  have hlt : r.input < inputs.length := (List.getElem?_eq_some_iff.mp hi).1
  refine ⟨hlt, i, ?_, hdyn, ?_⟩
  · rwa [List.getElem?_append_left hlt]
  · rwa [before_append_left _ _ _ (Nat.le_of_lt hlt)]

/-- A static input has no region. -/
theorem skip (h : RegionsFor count unit inputs regions) (hs : input.dataAccess = .staticFixed) :
    RegionsFor count unit (inputs ++ [input]) regions where
  region r hr := (h.region_append input hr).2
  covered k i hk hi := by
    by_cases hlt : k < inputs.length
    · rw [List.getElem?_append_left hlt] at hk
      exact h.covered k i hk hi
    · rw [List.getElem?_append_right (by omega)] at hk
      have hmem := List.mem_singleton.mp (List.mem_of_getElem? hk)
      rw [hmem, hs] at hi
      contradiction
  ordered := h.ordered

/-- A dynamic input has the region where the data so far ends. -/
theorem add (h : RegionsFor count unit inputs regions) (hd : input.dataAccess = .dynamicFixed)
    (len : Nat) : RegionsFor count unit (inputs ++ [input])
      (regions ++ [⟨inputs.length, before count inputs inputs.length * unit, len⟩]) where
  region r hr := by
    cases List.mem_append.mp hr with
    | inl hr => exact (h.region_append input hr).2
    | inr hr =>
        rw [List.mem_singleton.mp hr]
        exact ⟨input, by simp, hd, by rw [before_append_left _ _ _ (Nat.le_refl _)]⟩
  covered k i hk hi := by
    by_cases hlt : k < inputs.length
    · rw [List.getElem?_append_left hlt] at hk
      obtain ⟨r, hr, hrk⟩ := h.covered k i hk hi
      exact ⟨r, List.mem_append_left _ hr, hrk⟩
    · have hlen : k < (inputs ++ [input]).length := (List.getElem?_eq_some_iff.mp hk).1
      rw [List.length_append, List.length_singleton] at hlen
      exact ⟨_, List.mem_append_right _ List.mem_cons_self, by show inputs.length = k; omega⟩
  ordered := by
    refine List.pairwise_append.mpr ⟨h.ordered, List.pairwise_singleton _ _, ?_⟩
    intro r hr s hs
    rw [List.mem_singleton.mp hs]
    exact (h.region_append input hr).1

end RegionsFor

/-- What the compile loop knows after `inputs`. -/
structure CompiledInputs.Covers (indexUnit : Nat) (inputs : List RendererInput)
    (c : CompiledInputs) : Prop where
  staticVertexBytes : c.staticVertexBytes = inputs.flatMap (RendererInput.verticesIn .staticFixed)
  staticIndices : c.staticIndices = inputs.flatMap (RendererInput.indicesIn .staticFixed)
  dynamicVertexBytes :
    c.dynamicVertexBytes = inputs.flatMap (RendererInput.verticesIn .dynamicFixed)
  dynamicIndices : c.dynamicIndices = inputs.flatMap (RendererInput.indicesIn .dynamicFixed)
  vertexRegions : RegionsFor (fun i => (i.verticesIn .dynamicFixed).length) 1 inputs
    c.vertexRegions
  indexRegions : RegionsFor (fun i => (i.indicesIn .dynamicFixed).length) indexUnit inputs
    c.indexRegions
  anyStaticGeometry : c.anyStaticGeometry =
    inputs.any fun input => input.dataAccess = .staticFixed
  anyDynamicGeometry : c.anyDynamicGeometry =
    inputs.any fun input => input.dataAccess = .dynamicFixed

theorem CompiledInputs.Covers.add {indexUnit : Nat} {inputs : List RendererInput}
    {c : CompiledInputs} (h : c.Covers indexUnit inputs) (input : RendererInput) :
    (c.add indexUnit inputs.length input).Covers indexUnit (inputs ++ [input]) := by
  have hvtx : c.dynamicVertexBytes.length =
      before (fun i => (i.verticesIn .dynamicFixed).length) inputs inputs.length * 1 := by
    rw [h.dynamicVertexBytes, length_flatMap_eq_sum, before_length, Nat.mul_one]
  have hidx : c.dynamicIndices.length =
      before (fun i => (i.indicesIn .dynamicFixed).length) inputs inputs.length := by
    rw [h.dynamicIndices, length_flatMap_eq_sum, before_length]
  unfold CompiledInputs.add
  split
  · next hs =>
    constructor
    case vertexRegions => exact h.vertexRegions.skip hs
    case indexRegions => exact h.indexRegions.skip hs
    all_goals
      simp [h.staticVertexBytes, h.staticIndices, h.dynamicVertexBytes, h.dynamicIndices,
        h.anyDynamicGeometry, RendererInput.verticesIn, RendererInput.indicesIn, hs]
  · next hd =>
    constructor
    case vertexRegions =>
      simp only [hvtx]
      exact h.vertexRegions.add hd _
    case indexRegions =>
      simp only [hidx]
      exact h.indexRegions.add hd _
    all_goals
      simp [h.staticVertexBytes, h.staticIndices, h.dynamicVertexBytes, h.dynamicIndices,
        h.anyStaticGeometry, RendererInput.verticesIn, RendererInput.indicesIn, hd]

/-- **Compile loop**: data end to end per access, and a region per dynamic input at
the position where its own data starts. -/
theorem covers_compileInputs (indexUnit : Nat) (inputs : List RendererInput) :
    (compileInputs indexUnit inputs).Covers indexUnit inputs := by
  have hloop : ∀ (rest seen : List RendererInput) (c : CompiledInputs),
      c.Covers indexUnit seen →
      (c.addAll indexUnit seen.length rest).Covers indexUnit (seen ++ rest) := by
    intro rest
    induction rest with
    | nil => intro seen c h; rwa [List.append_nil]
    | cons input rest ih =>
        intro seen c h
        have hrest := ih (seen ++ [input]) (c.add indexUnit seen.length input) (h.add input)
        rwa [List.length_append, List.length_singleton, List.append_assoc] at hrest
  have hnil : ∀ count unit, RegionsFor count unit [] [] := fun count unit =>
    ⟨fun r hr => absurd hr List.not_mem_nil, fun k i hk => by simp at hk, List.Pairwise.nil⟩
  exact hloop inputs [] .empty ⟨rfl, rfl, rfl, rfl, hnil _ _, hnil _ _, rfl, rfl⟩

/-! ## uploaded geometry -/

/-- What the upload has collected from `inputs`. -/
def ScratchUpload.collected (inputs : List RendererInput) : ScratchUpload where
  totalVertices := inputs.flatMap (RendererInput.verticesIn .staticFixed)
  totalIndices := inputs.flatMap (RendererInput.indicesIn .staticFixed)
  indexCountSoFar :=
    BitVec.ofNat 32 (inputs.map (RendererInput.indexCountIn .staticFixed)).sum

theorem ScratchUpload.add_collected (inputs : List RendererInput) (input : RendererInput) :
    (collected inputs).add input = collected (inputs ++ [input]) := by
  unfold ScratchUpload.add
  split
  · next hs =>
    simp [collected, RendererInput.verticesIn, RendererInput.indicesIn,
      RendererInput.indexCountIn, hs, addCount_ofNat]
  · next hd =>
    simp [collected, RendererInput.verticesIn, RendererInput.indicesIn,
      RendererInput.indexCountIn, hd]

/-- **Scratch upload**: the loop collects what the compile loop does. -/
theorem scratchUpload_eq (inputs : List RendererInput) :
    scratchUpload inputs = .collected inputs := by
  have hloop : ∀ rest seen : List RendererInput,
      rest.foldl ScratchUpload.add (.collected seen) = .collected (seen ++ rest) := by
    intro rest
    induction rest with
    | nil => intro seen; rw [List.append_nil]; rfl
    | cons input rest ih =>
        intro seen
        rw [List.foldl_cons, ScratchUpload.add_collected, ih, List.append_assoc]
        rfl
  exact hloop inputs []

/-- The static buffers of `g` hold the indices of the static inputs end to end, and,
if there are any, so do they the vertices. -/
def StaticGeometry.Holds (inputs : List RendererInput) (g : StaticGeometry) : Prop :=
  ∃ vertexBuffer indexBuffer,
    g.vertexBuffer = some vertexBuffer ∧ g.indexBuffer = some indexBuffer ∧
    indexBuffer.cells = (inputs.flatMap (RendererInput.indicesIn .staticFixed)).map some ∧
    (inputs.flatMap (RendererInput.indicesIn .staticFixed) ≠ [] →
      vertexBuffer.cells = (inputs.flatMap (RendererInput.verticesIn .staticFixed)).map some)

theorem anyStaticGeometry_of_mem (unit : Nat) {inputs : List RendererInput}
    {input : RendererInput} (hi : input ∈ inputs) (hs : input.dataAccess = .staticFixed) :
    (compileInputs unit inputs).anyStaticGeometry = true := by
  rw [(covers_compileInputs unit inputs).anyStaticGeometry, List.any_eq_true]
  exact ⟨input, hi, decide_eq_true hs⟩

theorem Ogl.holds_staticGeometry {inputs : List RendererInput} {input : RendererInput}
    (hi : input ∈ inputs) (hs : input.dataAccess = .staticFixed) :
    (Ogl.staticGeometry inputs).Holds inputs := by
  have hc := covers_compileInputs 1 inputs
  rw [Ogl.staticGeometry]
  simp only [anyStaticGeometry_of_mem 1 hi hs, if_true]
  refine ⟨_, _, rfl, rfl, ?_, fun _ => ?_⟩
  · rw [Buffer.subData_create, hc.staticIndices]
  · rw [Buffer.subData_create, hc.staticVertexBytes]

theorem Vk.holds_staticGeometry {inputs : List RendererInput} {input : RendererInput}
    (hi : input ∈ inputs) (hs : input.dataAccess = .staticFixed)
    (hidx : (inputs.map (RendererInput.indexCountIn .staticFixed)).sum < 2 ^ 31) :
    (Vk.staticGeometry inputs).Holds inputs := by
  have hc := covers_compileInputs 4 inputs
  have hsum : (inputs.flatMap (RendererInput.indicesIn .staticFixed)).length =
      (inputs.map (RendererInput.indexCountIn .staticFixed)).sum := by
    rw [length_flatMap_eq_sum]
    simp only [RendererInput.length_indicesIn]
  rw [Vk.staticGeometry]
  simp only [anyStaticGeometry_of_mem 4 hi hs, if_true, scratchUpload_eq,
    ScratchUpload.collected, hc.staticIndices, hc.staticVertexBytes]
  split
  · exact ⟨_, _, rfl, rfl, Buffer.subData_create _, fun _ => Buffer.subData_create _⟩
  · next hzero =>
    -- nothing is uploaded, but there is no index to read a vertex with
    have hnil : inputs.flatMap (RendererInput.indicesIn .staticFixed) = [] := by
      refine List.eq_nil_of_length_eq_zero ?_
      simp only [BitVec.lt_def, BitVec.toNat_ofNat, BitVec.ofNat_eq_ofNat] at hzero
      omega
    refine ⟨_, _, rfl, rfl, ?_, fun hne => absurd hnil hne⟩
    rw [hnil]
    rfl

end Topaz
