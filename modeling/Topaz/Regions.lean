import Mathlib.Data.List.Induction
import Topaz.Geometry

/-!
# Topaz.Regions

The regions of the mapped buffers, once they have been handed to the dynamic
inputs.

`MappedData.Separate` says that no two inputs hold overlapping regions; it is what
makes writes through one input invisible to the others (`getData_write_of_ne`).
Regions noted in the unit they are used in are separate; inside what is mapped of the
buffer, they hold their inputs' own data (`separate_setRegions`, `getData_setRegions`).
-/

namespace Topaz
namespace MappedData

variable {α : Type}

/-! ## handing out regions -/

@[simp] theorem initial_setRegions (m : MappedData α) (rs : List DynamicInputMapRegion) :
    (m.setRegions rs).initial = m.initial := by
  induction rs generalizing m with
  | nil => rfl
  | cons r rs ih => exact ih _

@[simp] theorem size_setRegions (m : MappedData α) (rs : List DynamicInputMapRegion) :
    (m.setRegions rs).mapping.size = m.mapping.size := by
  induction rs generalizing m with
  | nil => rfl
  | cons r rs ih => exact (ih _).trans (Buffer.size_memcpy _ _ _)

theorem setRegions_cons (m : MappedData α) (r : DynamicInputMapRegion)
    (rs : List DynamicInputMapRegion) :
    m.setRegions (r :: rs) = (m.setData r.input r.offset).setRegions rs := rfl

theorem pointers_setData_of_ne (m : MappedData α) {k l : Nat} (p : Nat) (h : l ≠ k) :
    (m.setData k p).pointers l = m.pointers l := Function.update_of_ne h _ _

/-- An input without a region keeps its pointer. -/
theorem pointers_setRegions_of_ne (m : MappedData α) {rs : List DynamicInputMapRegion} {k : Nat}
    (h : ∀ r ∈ rs, r.input ≠ k) : (m.setRegions rs).pointers k = m.pointers k := by
  induction rs generalizing m with
  | nil => rfl
  | cons r rs ih =>
      rw [setRegions_cons, ih _ fun s hs => h s (List.mem_cons_of_mem r hs)]
      exact pointers_setData_of_ne m _ (h r List.mem_cons_self).symm

/-- An input with a region points at it. -/
theorem pointers_setRegions (m : MappedData α) {rs : List DynamicInputMapRegion}
    (hord : rs.Pairwise fun r s => r.input < s.input) {r : DynamicInputMapRegion} (hr : r ∈ rs) :
    (m.setRegions rs).pointers r.input = some r.offset := by
  induction rs generalizing m with
  | nil => simp at hr
  | cons s rs ih =>
      obtain ⟨hs, hrs⟩ := List.pairwise_cons.mp hord
      rw [setRegions_cons]
      cases List.mem_cons.mp hr with
      | inr hr => exact ih _ hrs hr
      | inl hr =>
          have hne : ∀ t ∈ rs, t.input ≠ s.input := fun t ht => Nat.ne_of_gt (hs t ht)
          rw [hr, pointers_setRegions_of_ne _ hne]
          exact Function.update_self _ _ _

/-- Handing out regions leaves every range alone that no region touches. -/
theorem read_setRegions_of_disjoint (m : MappedData α) {rs : List DynamicInputMapRegion}
    (hord : rs.Pairwise fun r s => r.input < s.input)
    (hnull : ∀ r ∈ rs, m.pointers r.input = none) {pos len : Nat}
    (hdis : ∀ r ∈ rs, pos + len ≤ r.offset ∨ r.offset + (m.initial r.input).length ≤ pos) :
    (m.setRegions rs).mapping.read pos len = m.mapping.read pos len := by
  induction rs generalizing m with
  | nil => rfl
  | cons r rs ih =>
      obtain ⟨hr, hrs⟩ := List.pairwise_cons.mp hord
      have hdata : m.getData r.input = (m.initial r.input).map some := by
        rw [getData, hnull r List.mem_cons_self]
      have hnull' : ∀ s ∈ rs, (m.setData r.input r.offset).pointers s.input = none :=
        fun s hs => (pointers_setData_of_ne m _ (Nat.ne_of_gt (hr s hs))).trans
          (hnull s (List.mem_cons_of_mem r hs))
      rw [setRegions_cons, ih _ hrs hnull' fun s hs => hdis s (List.mem_cons_of_mem r hs)]
      refine m.mapping.read_memcpy_of_disjoint _ ?_
      rw [hdata, List.length_map]
      exact hdis r List.mem_cons_self

/-- **Initial contents**: disjoint regions inside the mapping hold the data of their
inputs. -/
theorem getData_setRegions (m : MappedData α) {rs : List DynamicInputMapRegion}
    (hord : rs.Pairwise fun r s => r.input < s.input)
    (hnull : ∀ r ∈ rs, m.pointers r.input = none)
    (hfit : ∀ r ∈ rs, r.offset + (m.initial r.input).length ≤ m.mapping.size)
    (hdis : rs.Pairwise fun r s => r.offset + (m.initial r.input).length ≤ s.offset)
    {r : DynamicInputMapRegion} (hr : r ∈ rs) :
    (m.setRegions rs).getData r.input = (m.initial r.input).map some := by
  rw [getData, pointers_setRegions m hord hr, initial_setRegions]
  induction rs generalizing m with
  | nil => simp at hr
  | cons s rs ih =>
      obtain ⟨hs, hrs⟩ := List.pairwise_cons.mp hord
      obtain ⟨hsdis, hrsdis⟩ := List.pairwise_cons.mp hdis
      have hnull' : ∀ t ∈ rs, (m.setData s.input s.offset).pointers t.input = none :=
        fun t ht => (pointers_setData_of_ne m _ (Nat.ne_of_gt (hs t ht))).trans
          (hnull t (List.mem_cons_of_mem s ht))
      cases List.mem_cons.mp hr with
      | inr hr =>
          refine ih (m.setData s.input s.offset) hrs hnull' (fun t ht => ?_) hrsdis hr
          rw [setData, Buffer.size_memcpy]
          exact hfit t (List.mem_cons_of_mem s ht)
      | inl hr =>
          have hdata : m.getData s.input = (m.initial s.input).map some := by
            rw [getData, hnull s List.mem_cons_self]
          have hlen : (m.getData s.input).length = (m.initial s.input).length := by
            rw [hdata, List.length_map]
          show (m.setRegions (s :: rs)).mapping.read r.offset (m.initial r.input).length = _
          rw [hr, setRegions_cons,
            read_setRegions_of_disjoint _ hrs hnull' fun t ht => Or.inl (hsdis t ht)]
          rw [← hdata, ← hlen]
          exact m.mapping.read_memcpy_self s.offset _ (hlen ▸ hfit s List.mem_cons_self)

/-! ## separation -/

/-- No two inputs hold overlapping regions. -/
def Separate (m : MappedData α) : Prop :=
  ∀ k l p q, k ≠ l → m.pointers k = some p → m.pointers l = some q →
    p + (m.initial k).length ≤ q ∨ q + (m.initial l).length ≤ p

@[simp] theorem pointers_write (m : MappedData α) (k i : Nat) (xs : List α) :
    (m.write k i xs).pointers = m.pointers := by
  unfold write
  split <;> rfl

@[simp] theorem initial_write (m : MappedData α) (k i : Nat) (xs : List α) :
    (m.write k i xs).initial = m.initial := by
  unfold write
  split <;> rfl

theorem Separate.write {m : MappedData α} (h : m.Separate) (k i : Nat) (xs : List α) :
    (m.write k i xs).Separate := by
  unfold Separate
  rw [pointers_write, initial_write]
  exact h

/-- **Isolation**: a write inside one input's region is invisible to the others. -/
theorem Separate.getData_write_of_ne {m : MappedData α} (h : m.Separate) {k l i : Nat}
    {xs : List α} (hkl : l ≠ k) (hin : i + xs.length ≤ (m.initial k).length) :
    (m.write k i xs).getData l = m.getData l := by
  unfold getData
  rw [pointers_write, initial_write]
  cases hl : m.pointers l with
  | none => rfl
  | some q =>
      unfold MappedData.write
      cases hk : m.pointers k with
      | none => rfl
      | some p =>
          have hsep := h k l p q hkl.symm hk hl
          refine m.mapping.read_memcpy_of_disjoint _ ?_
          rw [List.length_map]
          omega

/-! ## regions in order of their inputs -/

section Noted

variable {count : RendererInput → Nat} {unit : Nat} {inputs : List RendererInput}
  {rs : List DynamicInputMapRegion} {m : MappedData α} (h : RegionsFor count unit inputs rs)
  (hnull : ∀ k, m.pointers k = none)
include h

/-- Every dynamic input points at the place noted for it. -/
theorem pointers_setRegions_eq {k : Nat} {input : RendererInput} (hk : inputs[k]? = some input)
    (hd : input.dataAccess = .dynamicFixed) :
    (m.setRegions rs).pointers k = some (before count inputs k * unit) := by
  obtain ⟨r, hr, hrk⟩ := h.covered k input hk hd
  obtain ⟨_, _, _, hoff⟩ := h.region r hr
  rw [← hrk, pointers_setRegions m h.ordered hr, hoff]

include hnull in
/-- Only dynamic inputs point into the buffer. -/
theorem exists_input_of_pointers {k p : Nat} (hk : (m.setRegions rs).pointers k = some p) :
    ∃ input, inputs[k]? = some input ∧ input.dataAccess = .dynamicFixed := by
  by_cases hr : ∃ r ∈ rs, r.input = k
  · obtain ⟨r, hr, hrk⟩ := hr
    obtain ⟨input, hinput, hd, _⟩ := h.region r hr
    exact ⟨input, hrk ▸ hinput, hd⟩
  · rw [pointers_setRegions_of_ne m fun r hrs hrk => hr ⟨r, hrs, hrk⟩, hnull] at hk
    contradiction

variable (hinit : ∀ k input, inputs[k]? = some input → input.dataAccess = .dynamicFixed →
    (m.initial k).length = count input)
  (hunit : ∀ k input, inputs[k]? = some input → input.dataAccess = .dynamicFixed →
    before count inputs k * unit = before count inputs k)
include hinit hunit

/-- An earlier region ends before a later one starts. -/
theorem offset_add_initial_le {r s : DynamicInputMapRegion} (hr : r ∈ rs) (hs : s ∈ rs)
    (hrs : r.input < s.input) : r.offset + (m.initial r.input).length ≤ s.offset := by
  obtain ⟨i, hi, hid, hioff⟩ := h.region r hr
  obtain ⟨j, hj, hjd, hjoff⟩ := h.region s hs
  obtain ⟨hlt, hget⟩ := List.getElem?_eq_some_iff.mp hi
  rw [hioff, hunit _ i hi hid, hjoff, hunit _ j hj hjd, hinit _ i hi hid, ← hget]
  exact before_add_le count inputs hlt hrs

include hnull in
theorem separate_setRegions : (m.setRegions rs).Separate := by
  intro k l p q hkl hk hl
  obtain ⟨i, hi, hid⟩ := exists_input_of_pointers h hnull hk
  obtain ⟨j, hj, hjd⟩ := exists_input_of_pointers h hnull hl
  obtain ⟨r, hr, hrk⟩ := h.covered k i hi hid
  obtain ⟨s, hs, hsl⟩ := h.covered l j hj hjd
  rw [← hrk, pointers_setRegions m h.ordered hr, Option.some.injEq] at hk
  rw [← hsl, pointers_setRegions m h.ordered hs, Option.some.injEq] at hl
  rw [initial_setRegions, ← hk, ← hl, ← hrk, ← hsl]
  cases Nat.lt_or_gt_of_ne (hrk ▸ hsl ▸ hkl : r.input ≠ s.input) with
  | inl hlt => exact Or.inl (offset_add_initial_le h hinit hunit hr hs hlt)
  | inr hgt => exact Or.inr (offset_add_initial_le h hinit hunit hs hr hgt)

variable (hsize : m.mapping.size = (inputs.map count).sum)
include hsize

theorem offset_add_initial_le_size {r : DynamicInputMapRegion} (hr : r ∈ rs) :
    r.offset + (m.initial r.input).length ≤ m.mapping.size := by
  obtain ⟨i, hi, hid, hioff⟩ := h.region r hr
  obtain ⟨hlt, hget⟩ := List.getElem?_eq_some_iff.mp hi
  rw [hioff, hunit _ i hi hid, hinit _ i hi hid, ← hget, hsize]
  exact before_add_le_sum count inputs hlt

include hnull in
/-- Regions in the right unit initially hold the inputs' own data. -/
theorem getData_setRegions_eq {k : Nat} {input : RendererInput} (hk : inputs[k]? = some input)
    (hd : input.dataAccess = .dynamicFixed) :
    (m.setRegions rs).getData k = (m.initial k).map some := by
  obtain ⟨r, hr, hrk⟩ := h.covered k input hk hd
  rw [← hrk]
  refine getData_setRegions m h.ordered (fun r _ => hnull r.input)
    (fun r hr => offset_add_initial_le_size h hinit hunit hsize hr) ?_ hr
  exact h.ordered.imp_of_mem fun hr hs hrs => offset_add_initial_le h hinit hunit hr hs hrs

end Noted

end MappedData

/-! ## the regions of a renderer -/

/-- The input at position `k` is a dynamic one. -/
def DynamicAt (inputs : List RendererInput) (k : Nat) (input : RendererInput) : Prop :=
  inputs[k]? = some input ∧ input.dataAccess = .dynamicFixed

/-- A write through `get_vertex_bytes_dynamic()` of the input at a position. -/
structure VertexWrite where
  input : Nat
  position : Nat
  bytes : List UInt8

namespace DynamicGeometry

def write (g : DynamicGeometry) (w : VertexWrite) : DynamicGeometry :=
  { g with vertices := g.vertices.write w.input w.position w.bytes }

/-- The write stays in the span it was given. -/
def InSpan (g : DynamicGeometry) (w : VertexWrite) : Prop :=
  w.position + w.bytes.length ≤ (g.vertices.initial w.input).length

def writes (g : DynamicGeometry) (ws : List VertexWrite) : DynamicGeometry := ws.foldl write g

theorem initial_writes (g : DynamicGeometry) (ws : List VertexWrite) :
    (g.writes ws).vertices.initial = g.vertices.initial := by
  induction ws generalizing g with
  | nil => rfl
  | cons w ws ih => exact (ih (g.write w)).trans (MappedData.initial_write _ _ _ _)

/-- Writes do not move regions. -/
theorem separate_writes {g : DynamicGeometry} (h : g.vertices.Separate) (ws : List VertexWrite) :
    (g.writes ws).vertices.Separate := by
  induction ws generalizing g with
  | nil => exact h
  | cons w ws ih =>
      have hw : (g.write w).vertices.Separate := h.write w.input w.position w.bytes
      exact ih hw

end DynamicGeometry

/-- The regions the dynamic inputs hold in the buffers of `g`, where `command` is an
input's draw command and `baseVertex` reads its vertex offset. -/
structure RegionsCorrect (size : Nat) (inputs : List RendererInput)
    (command : Nat → DrawIndirectCommand) (baseVertex : DrawIndirectCommand → Int)
    (g : DynamicGeometry) : Prop where
  /-- regions lie inside what is mapped of the buffers and start where the draw command
  says -/
  placed : ∀ k input, DynamicAt inputs k input → ∃ p q,
    g.vertices.pointers k = some p ∧ p + input.vertexBytes.length ≤ g.vertices.mapping.size ∧
    (p : Int) = baseVertex (command k) * size ∧
    g.indices.pointers k = some q ∧ q + input.indices.length ≤ g.indices.mapping.size ∧
    q = (command k).firstIndex.toNat
  /-- no two vertex regions, and no two index regions, overlap -/
  separate : g.vertices.Separate ∧ g.indices.Separate
  /-- regions hold the inputs' own data -/
  initially : ∀ k input, DynamicAt inputs k input →
    g.vertices.getData k = input.vertexBytes.map some ∧
    g.indices.getData k = input.indices.map some
  /-- at any later time, a write through one input changes no other -/
  isolated : ∀ ws w k, g.InSpan w → k ≠ w.input →
    ((g.writes ws).write w).vertices.getData k = (g.writes ws).vertices.getData k ∧
    ((g.writes ws).write w).indices.getData k = (g.writes ws).indices.getData k

/-- Isolation follows from separation. -/
theorem DynamicGeometry.isolated {g : DynamicGeometry} (h : g.vertices.Separate)
    (ws : List VertexWrite) {w : VertexWrite} {k : Nat} (hw : g.InSpan w) (hk : k ≠ w.input) :
    ((g.writes ws).write w).vertices.getData k = (g.writes ws).vertices.getData k ∧
    ((g.writes ws).write w).indices.getData k = (g.writes ws).indices.getData k := by
  refine ⟨?_, rfl⟩
  refine (DynamicGeometry.separate_writes h ws).getData_write_of_ne hk ?_
  rw [DynamicGeometry.initial_writes]
  exact hw

/-! ## the regions after setup -/

/-- Without dynamic inputs there are no regions to hand out. -/
theorem setupDynamic_eq (unit : Nat) (filled : Bool) (mapMemory : Nat → Nat)
    (inputs : List RendererInput) :
    setupDynamic unit filled mapMemory inputs =
      ⟨(MappedData.create filled
          (mapMemory (compileInputs unit inputs).dynamicVertexBytes.length)
          (compileInputs unit inputs).dynamicVertexBytes
          (initialVertices inputs)).setRegions (compileInputs unit inputs).vertexRegions,
        (MappedData.create filled
          (mapMemory ((compileInputs unit inputs).dynamicIndices.length * 4) / 4)
          (compileInputs unit inputs).dynamicIndices
          (initialIndices inputs)).setRegions (compileInputs unit inputs).indexRegions⟩ := by
  have hc := covers_compileInputs unit inputs
  have hnone : ∀ {count u rs}, RegionsFor count u inputs rs →
      (compileInputs unit inputs).anyDynamicGeometry = false → rs = [] := by
    intro count u rs h hany
    rw [hc.anyDynamicGeometry, List.any_eq_false] at hany
    refine List.eq_nil_iff_forall_not_mem.mpr fun r hr => ?_
    obtain ⟨input, hinput, hd, _⟩ := h.region r hr
    exact hany input (List.mem_of_getElem? hinput) (decide_eq_true hd)
  unfold setupDynamic
  by_cases hany : (compileInputs unit inputs).anyDynamicGeometry = true
  · exact if_pos hany
  · rw [hnone hc.vertexRegions (Bool.eq_false_iff.mpr hany),
      hnone hc.indexRegions (Bool.eq_false_iff.mpr hany)]
    exact if_neg hany

theorem MappedData.size_create {α : Type} (filled : Bool) (mapped : Nat) (data : List α)
    (initial : Nat → List α) :
    (MappedData.create filled mapped data initial).mapping.size = min mapped data.length := by
  have hcells : ((if filled then (Buffer.create data.length).subData data
      else Buffer.create data.length : Buffer α)).cells.length = data.length := by
    cases filled
    · exact Buffer.size_create data.length
    · exact (Buffer.size_subData _ data).trans (Buffer.size_create data.length)
  rw [MappedData.create, Buffer.size, List.length_take, hcells]

/-- A new buffer for the data of the inputs end to end, all of it mapped, with regions
noted in the unit they are used in. -/
theorem MappedData.correct_create {α : Type} (filled : Bool) {mapped : Nat} {data : List α}
    {initial : Nat → List α} {count : RendererInput → Nat} {unit : Nat}
    {inputs : List RendererInput} {rs : List DynamicInputMapRegion}
    (h : RegionsFor count unit inputs rs) (hdata : data.length = (inputs.map count).sum)
    (hmapped : data.length ≤ mapped)
    (hinit : ∀ k input, DynamicAt inputs k input → (initial k).length = count input)
    (hunit : ∀ k input, DynamicAt inputs k input →
      before count inputs k * unit = before count inputs k) :
    ((MappedData.create filled mapped data initial).setRegions rs).Separate ∧
    ∀ k input, DynamicAt inputs k input →
      ((MappedData.create filled mapped data initial).setRegions rs).getData k =
        (initial k).map some ∧
      before count inputs k + (initial k).length ≤
        ((MappedData.create filled mapped data initial).setRegions rs).mapping.size := by
  have hnull : ∀ k, (MappedData.create filled mapped data initial).pointers k = none :=
    fun _ => rfl
  have hinit' : ∀ k input, inputs[k]? = some input → input.dataAccess = .dynamicFixed →
      ((MappedData.create filled mapped data initial).initial k).length = count input :=
    fun k input hk hd => hinit k input ⟨hk, hd⟩
  have hunit' : ∀ k input, inputs[k]? = some input → input.dataAccess = .dynamicFixed →
      before count inputs k * unit = before count inputs k :=
    fun k input hk hd => hunit k input ⟨hk, hd⟩
  have hsize : (MappedData.create filled mapped data initial).mapping.size =
      (inputs.map count).sum := by
    rw [MappedData.size_create, Nat.min_eq_right hmapped, hdata]
  refine ⟨separate_setRegions h hnull hinit' hunit', fun k input hk => ⟨?_, ?_⟩⟩
  · exact getData_setRegions_eq h hnull hinit' hunit' hsize hk.1 hk.2
  · obtain ⟨hlt, hget⟩ := List.getElem?_eq_some_iff.mp hk.1
    rw [size_setRegions, hsize, hinit k input hk, ← hget]
    exact before_add_le_sum count inputs hlt

/-- The vertex count of an input list restricted to dynamic inputs, up to input `k`. -/
abbrev dynamicVerticesBefore (inputs : List RendererInput) (k : Nat) : Nat :=
  before (RendererInput.vertexCountIn .dynamicFixed) inputs k

/-- The index count of an input list restricted to dynamic inputs, up to input `k`. -/
abbrev dynamicIndicesBefore (inputs : List RendererInput) (k : Nat) : Nat :=
  before (RendererInput.indexCountIn .dynamicFixed) inputs k

/-- The bytes of all dynamic vertices of an input list. -/
abbrev dynamicVertexBytes (inputs : List RendererInput) : Nat :=
  (inputs.map fun i => (i.verticesIn .dynamicFixed).length).sum

/-- The number of all dynamic indices of an input list. -/
abbrev dynamicIndices (inputs : List RendererInput) : Nat :=
  (inputs.map (RendererInput.indexCountIn .dynamicFixed)).sum

/-- The mapping reaches all of the dynamic buffers. -/
structure MapsDynamic (mapMemory : Nat → Nat) (inputs : List RendererInput) : Prop where
  vertices : dynamicVertexBytes inputs ≤ mapMemory (dynamicVertexBytes inputs)
  indices : dynamicIndices inputs ≤ mapMemory (dynamicIndices inputs * 4) / 4

theorem length_indicesIn_eq :
    (fun i : RendererInput => (i.indicesIn .dynamicFixed).length) =
      RendererInput.indexCountIn .dynamicFixed :=
  funext fun i => i.length_indicesIn .dynamicFixed

/-- The last dynamic input ends where the dynamic data does. -/
theorem sum_le_of_dynamic {count : RendererInput → Nat}
    (hstatic : ∀ input : RendererInput, input.dataAccess = .staticFixed → count input = 0)
    {inputs : List RendererInput} {n : Nat}
    (h : ∀ k input, DynamicAt inputs k input → before count inputs k + count input ≤ n) :
    (inputs.map count).sum ≤ n := by
  induction inputs using List.reverseRecOn with
  | nil => exact Nat.zero_le n
  | append_singleton inputs input ih =>
      rw [List.map_append, List.sum_append, List.map_singleton, List.sum_singleton]
      cases ha : input.dataAccess with
      | staticFixed =>
          rw [hstatic input ha, Nat.add_zero]
          refine ih fun k i hk => ?_
          have hlt : k < inputs.length := (List.getElem?_eq_some_iff.mp hk.1).1
          have hle := h k i ⟨by rw [List.getElem?_append_left hlt]; exact hk.1, hk.2⟩
          rwa [before_append_left _ _ _ (Nat.le_of_lt hlt)] at hle
      | dynamicFixed =>
          have hle := h inputs.length input ⟨by simp, ha⟩
          rwa [before_append_left _ _ _ (Nat.le_refl _), before_length] at hle

section Setup

variable {size : Nat} (unit : Nat) (filled : Bool) (mapMemory : Nat → Nat)
  {inputs : List RendererInput}

theorem vertexPointer_setupDynamic (hB : SharedBinding size inputs) {k : Nat}
    {input : RendererInput} (hk : DynamicAt inputs k input) :
    (setupDynamic unit filled mapMemory inputs).vertices.pointers k =
      some (dynamicVerticesBefore inputs k * size) := by
  rw [setupDynamic_eq, MappedData.pointers_setRegions_eq
    (covers_compileInputs unit inputs).vertexRegions hk.1 hk.2, Nat.mul_one,
    hB.before_length_verticesIn]

theorem indexPointer_setupDynamic {k : Nat} {input : RendererInput}
    (hk : DynamicAt inputs k input) :
    (setupDynamic unit filled mapMemory inputs).indices.pointers k =
      some (dynamicIndicesBefore inputs k * unit) := by
  rw [setupDynamic_eq, MappedData.pointers_setRegions_eq
    (covers_compileInputs unit inputs).indexRegions hk.1 hk.2, length_indicesIn_eq]

variable (inputs) in
/-- The mapped parts are as long as the data, up to what is mapped. -/
theorem size_mapping_setupDynamic :
    (setupDynamic unit filled mapMemory inputs).vertices.mapping.size =
      min (mapMemory (dynamicVertexBytes inputs)) (dynamicVertexBytes inputs) ∧
    (setupDynamic unit filled mapMemory inputs).indices.mapping.size =
      min (mapMemory (dynamicIndices inputs * 4) / 4) (dynamicIndices inputs) := by
  have hc := covers_compileInputs unit inputs
  rw [setupDynamic_eq, MappedData.size_setRegions, MappedData.size_setRegions,
    MappedData.size_create, MappedData.size_create, hc.dynamicVertexBytes, hc.dynamicIndices,
    length_flatMap_eq_sum, length_flatMap_eq_sum, length_indicesIn_eq]
  exact ⟨rfl, rfl⟩

variable {mapMemory} in
/-- Vertex regions are noted in bytes and used in bytes. -/
theorem correct_vertices_setupDynamic (hmaps : MapsDynamic mapMemory inputs) :
    (setupDynamic unit filled mapMemory inputs).vertices.Separate ∧
    ∀ k input, DynamicAt inputs k input →
      (setupDynamic unit filled mapMemory inputs).vertices.getData k =
        (initialVertices inputs k).map some ∧
      before (fun i => (i.verticesIn .dynamicFixed).length) inputs k +
          (initialVertices inputs k).length ≤
        (setupDynamic unit filled mapMemory inputs).vertices.mapping.size := by
  have hc := covers_compileInputs unit inputs
  have hlength : (compileInputs unit inputs).dynamicVertexBytes.length =
      dynamicVertexBytes inputs := by rw [hc.dynamicVertexBytes, length_flatMap_eq_sum]
  rw [setupDynamic_eq]
  refine MappedData.correct_create filled hc.vertexRegions hlength ?_ (fun k input hk => ?_)
    fun _ _ _ => Nat.mul_one _
  · rw [hlength]
    exact hmaps.vertices
  · simp [initialVertices, hk.1, RendererInput.verticesIn, hk.2]

variable {mapMemory} in
/-- Index regions are used in elements. -/
theorem correct_indices_setupDynamic (hmaps : MapsDynamic mapMemory inputs)
    (hunit : ∀ k input, DynamicAt inputs k input →
      dynamicIndicesBefore inputs k * unit = dynamicIndicesBefore inputs k) :
    (setupDynamic unit filled mapMemory inputs).indices.Separate ∧
    ∀ k input, DynamicAt inputs k input →
      (setupDynamic unit filled mapMemory inputs).indices.getData k =
        (initialIndices inputs k).map some ∧
      dynamicIndicesBefore inputs k + (initialIndices inputs k).length ≤
        (setupDynamic unit filled mapMemory inputs).indices.mapping.size := by
  have hc := covers_compileInputs unit inputs
  have hregions := hc.indexRegions
  rw [length_indicesIn_eq] at hregions
  have hlength : (compileInputs unit inputs).dynamicIndices.length = dynamicIndices inputs := by
    rw [hc.dynamicIndices, length_flatMap_eq_sum, length_indicesIn_eq]
  rw [setupDynamic_eq]
  refine MappedData.correct_create filled hregions hlength ?_ (fun k input hk => ?_) hunit
  · rw [hlength]
    exact hmaps.indices
  · simp [initialIndices, hk.1, RendererInput.indexCountIn, hk.2, RendererInput.indexCount]

/-- Regions that all lie in the mapping leave nothing of the buffers unmapped. -/
theorem mapsDynamic_of_placed (hpos : 1 ≤ unit) (hB : SharedBinding size inputs)
    (h : ∀ k input, DynamicAt inputs k input →
      dynamicVerticesBefore inputs k * size + input.vertexBytes.length ≤
        (setupDynamic unit filled mapMemory inputs).vertices.mapping.size ∧
      dynamicIndicesBefore inputs k * unit + input.indices.length ≤
        (setupDynamic unit filled mapMemory inputs).indices.mapping.size) :
    MapsDynamic mapMemory inputs := by
  obtain ⟨hvsize, hisize⟩ := size_mapping_setupDynamic unit filled mapMemory inputs
  rw [hvsize, hisize] at h
  have hvertices : dynamicVertexBytes inputs ≤
      min (mapMemory (dynamicVertexBytes inputs)) (dynamicVertexBytes inputs) := by
    refine sum_le_of_dynamic (fun i hi => ?_) fun k input hk => ?_
    · simp [RendererInput.verticesIn, hi]
    · rw [hB.before_length_verticesIn, RendererInput.verticesIn, if_pos hk.2]
      exact (h k input hk).1
  have hindices : dynamicIndices inputs ≤
      min (mapMemory (dynamicIndices inputs * 4) / 4) (dynamicIndices inputs) := by
    refine sum_le_of_dynamic (fun i hi => ?_) fun k input hk => ?_
    · simp [RendererInput.indexCountIn, hi]
    · have hle := Nat.le_mul_of_pos_right (dynamicIndicesBefore inputs k) hpos
      rw [RendererInput.indexCountIn, if_pos hk.2]
      exact Nat.le_trans (Nat.add_le_add_right hle _) (h k input hk).2
  exact ⟨Nat.le_trans hvertices (Nat.min_le_left _ _),
    Nat.le_trans hindices (Nat.min_le_left _ _)⟩

/-- **Setup**: regions are correct exactly when all of the buffers is mapped and, for every
dynamic input, the vertex offset its command can hold is the one meant, and so is the index
offset, which was noted in units of which an index has `unit`. -/
theorem regionsCorrect_setupDynamic_iff (hpos : 1 ≤ unit) (hB : SharedBinding size inputs)
    {command : Nat → DrawIndirectCommand}
    (hcmd : ∀ k input, DynamicAt inputs k input →
      command k = drawCommand .dynamicFixed inputs k)
    (baseVertex : DrawIndirectCommand → Int) :
    RegionsCorrect size inputs command baseVertex
        (setupDynamic unit filled mapMemory inputs) ↔
      MapsDynamic mapMemory inputs ∧ ∀ k input, DynamicAt inputs k input →
        ((dynamicVerticesBefore inputs k * size : Nat) : Int) =
          baseVertex (drawCommand .dynamicFixed inputs k) * size ∧
        dynamicIndicesBefore inputs k * unit = dynamicIndicesBefore inputs k % 2 ^ 32 := by
  have hfirst : ∀ k, (drawCommand .dynamicFixed inputs k).firstIndex.toNat =
      dynamicIndicesBefore inputs k % 2 ^ 32 := fun k => BitVec.toNat_ofNat _ _
  constructor
  · intro h
    refine ⟨mapsDynamic_of_placed unit filled mapMemory hpos hB fun k input hk => ?_,
      fun k input hk => ?_⟩
    all_goals
      obtain ⟨p, q, hp, hpin, hpv, hq, hqin, hqi⟩ := h.placed k input hk
      rw [vertexPointer_setupDynamic unit filled mapMemory hB hk, Option.some.injEq] at hp
      rw [indexPointer_setupDynamic unit filled mapMemory hk, Option.some.injEq] at hq
    · exact ⟨hp ▸ hpin, hq ▸ hqin⟩
    · rw [hcmd k input hk] at hpv hqi
      exact ⟨by rw [hp, hpv], by rw [hq, hqi, hfirst]⟩
  · intro ⟨hmaps, h⟩
    -- `n * unit = n % 2 ^ 32` leaves no room for a unit other than the element
    have hunit : ∀ k input, DynamicAt inputs k input →
        dynamicIndicesBefore inputs k * unit = dynamicIndicesBefore inputs k := by
      intro k input hk
      have hle := Nat.mod_le (dynamicIndicesBefore inputs k) (2 ^ 32)
      have hge := Nat.le_mul_of_pos_right (dynamicIndicesBefore inputs k) hpos
      exact Nat.le_antisymm ((h k input hk).2 ▸ hle) hge
    obtain ⟨hvsep, hv⟩ := correct_vertices_setupDynamic unit filled hmaps
    obtain ⟨hisep, hi⟩ := correct_indices_setupDynamic unit filled hmaps hunit
    refine ⟨fun k input hk => ?_, ⟨hvsep, hisep⟩, fun k input hk => ?_,
      fun ws w k hw hk => DynamicGeometry.isolated hvsep ws hw hk⟩
    · refine ⟨_, _, vertexPointer_setupDynamic unit filled mapMemory hB hk, ?_, ?_,
        indexPointer_setupDynamic unit filled mapMemory hk, ?_, ?_⟩
      · have hle := (hv k input hk).2
        rw [hB.before_length_verticesIn] at hle
        simpa [initialVertices, hk.1] using hle
      · rw [hcmd k input hk]
        exact (h k input hk).1
      · rw [hunit k input hk]
        simpa [initialIndices, hk.1] using (hi k input hk).2
      · rw [hcmd k input hk, hfirst]
        exact (h k input hk).2
    · constructor
      · simpa [initialVertices, hk.1] using (hv k input hk).1
      · simpa [initialIndices, hk.1] using (hi k input hk).1

end Setup

/-! ## both backends -/

/-- With elements of no bytes there are no elements. -/
theorem SharedBinding.dynamicVerticesBefore_eq_zero {inputs : List RendererInput}
    (h : SharedBinding 0 inputs) (k : Nat) : dynamicVerticesBefore inputs k = 0 := by
  have hzero : ∀ input ∈ inputs, input.vertexCountIn .dynamicFixed = input.vertexCount * 0 := by
    intro input hi
    simp [RendererInput.vertexCountIn, RendererInput.vertexCount, h.bindingSize input hi]
  rw [dynamicVerticesBefore, before_mul _ _ 0 hzero, Nat.mul_zero]

/-- There are no more vertices before an input than bytes in all. -/
theorem SharedBinding.dynamicVerticesBefore_le {size : Nat} {inputs : List RendererInput}
    (h : SharedBinding size inputs) {k : Nat} {input : RendererInput}
    (hk : DynamicAt inputs k input) :
    dynamicVerticesBefore inputs k ≤ dynamicVertexBytes inputs := by
  obtain rfl | hpos := Nat.eq_zero_or_pos size
  · rw [h.dynamicVerticesBefore_eq_zero]
    exact Nat.zero_le _
  · have hlt : k < inputs.length := (List.getElem?_eq_some_iff.mp hk.1).1
    have hsum := before_add_le_sum (fun i => (i.verticesIn .dynamicFixed).length) inputs hlt
    rw [h.before_length_verticesIn] at hsum
    have hle := Nat.le_mul_of_pos_right (dynamicVerticesBefore inputs k) hpos
    exact le_trans hle (le_trans (Nat.le_add_right _ _) hsum)

/-- Counts below `2 ^ 31` are the same in both readings of a vertex offset. -/
theorem baseVertex_vertexOffset_mul_eq {size : Nat} {inputs : List RendererInput} {k : Nat}
    (h : dynamicVerticesBefore inputs k < 2 ^ 31) :
    ((dynamicVerticesBefore inputs k * size : Nat) : Int) =
      Ogl.baseVertex (drawCommand .dynamicFixed inputs k) * size ∧
    ((dynamicVerticesBefore inputs k * size : Nat) : Int) =
      Vk.vertexOffset (drawCommand .dynamicFixed inputs k) * size := by
  have hnat : (drawCommand .dynamicFixed inputs k).baseVertex.toNat =
      dynamicVerticesBefore inputs k := by
    rw [drawCommand, BitVec.toNat_ofNat]
    exact Nat.mod_eq_of_lt (Nat.lt_trans h (by decide))
  rw [Ogl.baseVertex, Vk.vertexOffset, BitVec.toInt_eq_toNat_of_lt (by omega), hnat,
    Int.natCast_mul]
  exact ⟨rfl, rfl⟩

/-- A count in bytes is the count of indices only for no index at all. -/
theorem eq_zero_of_mul_four_eq_mod {n : Nat} (h : n * 4 = n % 2 ^ 32) : n = 0 := by
  have hle : n * 4 ≤ n := by
    rw [h]
    exact Nat.mod_le n _
  clear h
  omega

/-- OpenGL maps buffers of fewer than `2 ^ 31` bytes. -/
theorem Ogl.mapsDynamic_iff {inputs : List RendererInput} : MapsDynamic Ogl.mapMemory inputs ↔
    dynamicVertexBytes inputs < 2 ^ 31 ∧ dynamicIndices inputs < 2 ^ 29 := by
  constructor
  · intro ⟨hvertices, hindices⟩
    unfold Ogl.mapMemory at hvertices hindices
    omega
  · intro ⟨hvertices, hindices⟩
    constructor <;> unfold Ogl.mapMemory <;> omega

theorem Vk.mapsDynamic (inputs : List RendererInput) : MapsDynamic Vk.mapMemory inputs := by
  constructor <;> unfold Vk.mapMemory <;> omega

/-- **Dynamic regions**: in both backends the regions of the dynamic inputs are
correct and isolated exactly when the dynamic vertices, and the dynamic indices, take
fewer than `2 ^ 31` bytes, and no dynamic input is preceded by dynamic indices. -/
theorem dynamic_regions_correct_iff (size : Nat) (inputs : List RendererInput)
    (hB : SharedBinding size inputs) :
    (RegionsCorrect size inputs (Ogl.inputCommand .dynamicFixed inputs) Ogl.baseVertex
        (Ogl.dynamicGeometry inputs) ∧
      RegionsCorrect size inputs (Vk.inputCommand .dynamicFixed inputs) Vk.vertexOffset
        (Vk.dynamicGeometry inputs)) ↔
      dynamicVertexBytes inputs < 2 ^ 31 ∧ dynamicIndices inputs < 2 ^ 29 ∧
      ∀ k input, DynamicAt inputs k input → dynamicIndicesBefore inputs k = 0 := by
  have hogl : ∀ k input, DynamicAt inputs k input →
      Ogl.inputCommand .dynamicFixed inputs k = drawCommand .dynamicFixed inputs k :=
    fun k input hk => drawTables_command (by decide) (by decide) hk.1 hk.2
  have hvk : ∀ k input, DynamicAt inputs k input →
      Vk.inputCommand .dynamicFixed inputs k = drawCommand .dynamicFixed inputs k :=
    fun k input hk => drawTables_command (by decide) (by decide) hk.1 hk.2
  rw [Ogl.dynamicGeometry, Vk.dynamicGeometry,
    regionsCorrect_setupDynamic_iff 1 true Ogl.mapMemory (by decide) hB hogl,
    regionsCorrect_setupDynamic_iff 4 false Vk.mapMemory (by decide) hB hvk,
    Ogl.mapsDynamic_iff]
  constructor
  · intro ⟨⟨⟨hvertices, hindices⟩, _⟩, _, hvulkan⟩
    exact ⟨hvertices, hindices, fun k input hk =>
      eq_zero_of_mul_four_eq_mod (hvulkan k input hk).2⟩
  · intro ⟨hvertices, hindices, hfirst⟩
    have hoffsets : ∀ k input, DynamicAt inputs k input →
        dynamicVerticesBefore inputs k < 2 ^ 31 :=
      fun k input hk => lt_of_le_of_lt (hB.dynamicVerticesBefore_le hk) hvertices
    refine ⟨⟨⟨hvertices, hindices⟩, fun k input hk => ⟨?_, ?_⟩⟩,
      Vk.mapsDynamic inputs, fun k input hk => ⟨?_, ?_⟩⟩
    · exact (baseVertex_vertexOffset_mul_eq (hoffsets k input hk)).1
    · rw [hfirst k input hk, Nat.zero_mul, Nat.zero_mod]
    · exact (baseVertex_vertexOffset_mul_eq (hoffsets k input hk)).2
    · rw [hfirst k input hk, Nat.zero_mul, Nat.zero_mod]

/-- A triangle-less strip of dynamic points, then a dynamic triangle. -/
def pointsThenTriangle : List RendererInput :=
  [⟨.dynamicFixed, ⟨1, .perVertexBasis, []⟩, [10, 11], []⟩,
    ⟨.dynamicFixed, ⟨1, .perVertexBasis, []⟩, [20, 21, 22], [0, 1, 2]⟩]

theorem dynamicAt_pointsThenTriangle {k : Nat} {input : RendererInput}
    (h : DynamicAt pointsThenTriangle k input) : k < 2 := (List.getElem?_eq_some_iff.mp h.1).1

theorem dynamic_regions_correct_pointsThenTriangle :
    RegionsCorrect 1 pointsThenTriangle (Vk.inputCommand .dynamicFixed pointsThenTriangle)
      Vk.vertexOffset (Vk.dynamicGeometry pointsThenTriangle) :=
  ((dynamic_regions_correct_iff 1 pointsThenTriangle
    ⟨by decide, fun _ _ => Nat.one_dvd _⟩).mpr ⟨by decide, by decide, fun k input hk => by
      match k, dynamicAt_pointsThenTriangle hk with
      | 0, _ => decide
      | 1, _ => decide⟩).2

/-- Two dynamic triangles. -/
def twoTriangles : List RendererInput :=
  [⟨.dynamicFixed, ⟨1, .perVertexBasis, []⟩, [10, 11, 12], [0, 1, 2]⟩,
    ⟨.dynamicFixed, ⟨1, .perVertexBasis, []⟩, [20, 21, 22], [0, 1, 2]⟩]

/-- The second one's indices are handed an address past the end of the buffer. -/
theorem dynamic_regions_twoTriangles :
    SharedBinding 1 twoTriangles ∧
    ¬ RegionsCorrect 1 twoTriangles (Vk.inputCommand .dynamicFixed twoTriangles)
      Vk.vertexOffset (Vk.dynamicGeometry twoTriangles) := by
  refine ⟨⟨by decide, fun _ _ => Nat.one_dvd _⟩, fun h => ?_⟩
  obtain ⟨p, q, _, _, _, hq, hin, _⟩ := h.placed 1 _ ⟨rfl, rfl⟩
  have hptr : (Vk.dynamicGeometry twoTriangles).indices.pointers 1 = some 12 := by decide
  have hsize : (Vk.dynamicGeometry twoTriangles).indices.mapping.size = 6 := by decide
  rw [hptr, Option.some.injEq] at hq
  rw [hsize, ← hq] at hin
  exact absurd hin (by decide)

end Topaz
