import Topaz.DrawOrder
import Topaz.Regions

/-!
# Topaz.Stream

The vertices that draws feed to the shaders.

A renderer lays the geometry of its inputs end to end and turns a draw list into
indirect commands; the GPU reads the commands, then the indices they select, then the
vertices those select.  Here the whole way is one function (`fetchAll`), to be compared
with what a draw list means: the vertices of each input that is drawn, selected by the
input's own indices (`RendererInput.vertices`), with whatever has been written through
the dynamic inputs since the renderer was built (`writeInput`).

* `DynamicGeometry.Shows.writeInput` — a write through a dynamic input shows in its region
  of the mapped buffers, and in no other;
* `HoldsRegions.fetchAll_drawsOf` — buffers that hold every input where its command looks
  for it feed what the draw list means.

`Topaz.Frame` proves the same of the frames of both backends.
-/

namespace Topaz

/-! ## what a draw list means -/

/-- The vertices of an input, in the order of its indices. -/
def RendererInput.vertices (size : Nat) (input : RendererInput) : List (List UInt8) :=
  input.indices.map fun x => slice input.vertexBytes (x.toNat * size) size

/-- Every index selects a vertex of the input. -/
def RendererInput.WellIndexed (input : RendererInput) : Prop :=
  ∀ x ∈ input.indices, x.toNat < input.vertexCount

/-- The vertices of the inputs that a list of handles names. -/
def verticesOf (size : Nat) (inputs : List RendererInput) (draws : RendererDrawList) :
    List (List UInt8) :=
  draws.flatMap fun handle => ((inputs[handle.value]?).map (RendererInput.vertices size)).getD []

/-- A write through `get_vertex_bytes_dynamic()` or `get_indices_dynamic()` of the input at a
position. -/
inductive InputWrite where
  | vertices (input position : Nat) (bytes : List UInt8)
  | indices (input position : Nat) (values : List (BitVec 32))

namespace InputWrite

/-- The position of the input that is written to. -/
def input : InputWrite → Nat
  | vertices k _ _ => k
  | indices k _ _ => k

/-- What the write means for its input. -/
def apply : InputWrite → RendererInput → RendererInput
  | vertices _ i bytes, input =>
      { input with vertexBytes := splice input.vertexBytes i bytes.length bytes }
  | indices _ i values, input =>
      { input with indices := splice input.indices i values.length values }

end InputWrite

def writeInput (inputs : List RendererInput) (w : InputWrite) : List RendererInput :=
  inputs.modify w.input w.apply

/-- The write stays in the span of the input, and writes indices of vertices that the
input has. -/
def InputWrite.Fits (input : RendererInput) : InputWrite → Prop
  | .vertices _ i bytes => i + bytes.length ≤ input.vertexBytes.length
  | .indices _ i values =>
      i + values.length ≤ input.indices.length ∧ ∀ x ∈ values, x.toNat < input.vertexCount

def InputWrite.Valid (inputs : List RendererInput) (w : InputWrite) : Prop :=
  ∃ input, DynamicAt inputs w.input input ∧ w.Fits input

/-- Writes one after the other, each valid when it is made. -/
def ValidWrites : List RendererInput → List InputWrite → Prop
  | _, [] => True
  | inputs, w :: ws => w.Valid inputs ∧ ValidWrites (writeInput inputs w) ws

def writeInputs (inputs : List RendererInput) (ws : List InputWrite) : List RendererInput :=
  ws.foldl writeInput inputs

/-! ## what the GPU does -/

/-- The vertex and index buffers that the draws of either access read. -/
structure DrawBuffers where
  vertexBuffer : RendererInputDataAccess → Option (Buffer UInt8)
  indexBuffer : RendererInputDataAccess → Option (Buffer (BitVec 32))

/-- The buffers of a renderer. -/
def drawBuffers (s : StaticGeometry) (d : DynamicGeometry) : DrawBuffers where
  vertexBuffer
    | .staticFixed => s.vertexBuffer
    | .dynamicFixed => some d.vertices.buffer
  indexBuffer
    | .staticFixed => s.indexBuffer
    | .dynamicFixed => some d.indices.buffer

/-- Fetch one vertex: undefined if it does not lie in the buffer, or if one of its bytes is. -/
def fetchVertex (size : Nat) (b : Buffer UInt8) (vertex : Int) : Option (List UInt8) :=
  if 0 ≤ vertex ∧ (vertex.toNat + 1) * size ≤ b.size then
    (b.read (vertex.toNat * size) size).mapM id
  else none

/-- Execute one indexed draw, with `baseVertex` as the backend reads it from the command. -/
def fetch (size : Nat) (baseVertex : DrawIndirectCommand → Int) (vertexBuffer : Buffer UInt8)
    (indexBuffer : Buffer (BitVec 32)) (cmd : DrawIndirectCommand) :
    List (Option (List UInt8)) :=
  (List.replicate cmd.instanceCount.toNat
    ((indexBuffer.read cmd.firstIndex.toNat cmd.count.toNat).map fun index =>
      index.bind fun x => fetchVertex size vertexBuffer (baseVertex cmd + x.toNat))).flatten

/-- Execute an issued draw; a command that is not known feeds something undefined. -/
def fetchDraw (size : Nat) (baseVertex : DrawIndirectCommand → Int) (b : DrawBuffers) :
    IssuedDraw → List (Option (List UInt8))
  | (a, some cmd) =>
      match b.vertexBuffer a, b.indexBuffer a with
      | some vertexBuffer, some indexBuffer => fetch size baseVertex vertexBuffer indexBuffer cmd
      | _, _ => [none]
  | (_, none) => [none]

/-- Execute the draws of a frame. -/
def fetchAll (size : Nat) (baseVertex : DrawIndirectCommand → Int) (b : DrawBuffers)
    (issued : List IssuedDraw) : List (Option (List UInt8)) :=
  issued.flatMap (fetchDraw size baseVertex b)

/-! ## one draw -/

/-- The buffers hold `input` where `cmd` looks for it.  (The vertices of an input without
indices are never looked for.) -/
structure HoldsAt (size : Nat) (baseVertex : DrawIndirectCommand → Int)
    (vertexBuffer : Buffer UInt8) (indexBuffer : Buffer (BitVec 32))
    (cmd : DrawIndirectCommand) (input : RendererInput) : Prop where
  once : cmd.instanceCount = 1
  indices : indexBuffer.read cmd.firstIndex.toNat cmd.count.toNat = input.indices.map some
  vertices : input.indices ≠ [] → ∃ base : Nat, baseVertex cmd = base ∧
    vertexBuffer.read (base * size) input.vertexBytes.length = input.vertexBytes.map some

/-- A region that reads as whole data lies inside its buffer. -/
theorem Buffer.add_length_le_size {α : Type} {b : Buffer α} {start : Nat} {data : List α}
    (h : b.read start data.length = data.map some) : data = [] ∨ start + data.length ≤ b.size := by
  have hlen := congrArg List.length h
  simp only [Buffer.read, length_slice, List.length_map] at hlen
  by_cases hnil : data = []
  · exact Or.inl hnil
  · have hpos : 0 < data.length := List.length_pos_of_ne_nil hnil
    right
    rw [Buffer.size]
    omega

theorem mapM_id_map_some {α : Type} (l : List α) : (l.map some).mapM id = some l := by
  induction l with
  | nil => rfl
  | cons x l ih => simp [ih]

/-- A vertex of a region is fetched from the region. -/
theorem fetchVertex_region {size base x count : Nat} {b : Buffer UInt8} {bytes : List UInt8}
    (hregion : b.read (base * size) bytes.length = bytes.map some)
    (hcount : bytes.length = count * size) (hx : x < count) :
    fetchVertex size b ((base : Int) + x) = some (slice bytes (x * size) size) := by
  have hnat : ((base : Int) + x).toNat = base + x := by omega
  have hfit : x * size + size ≤ bytes.length := by
    rw [hcount, ← Nat.succ_mul]
    exact Nat.mul_le_mul_right size hx
  have hin : (base + x + 1) * size ≤ b.size := by
    obtain hnil | hle := Buffer.add_length_le_size hregion
    · have hzero : bytes.length = 0 := by rw [hnil]; rfl
      have hsize : size = 0 := by omega
      simp [hsize]
    · have hmul : (base + x + 1) * size = base * size + (x * size + size) := by
        rw [Nat.add_mul, Nat.add_mul, Nat.one_mul, Nat.add_assoc]
      omega
  have hread : b.read ((base + x) * size) size = (slice bytes (x * size) size).map some := by
    rw [← slice_map, ← hregion, Buffer.read, Buffer.read, slice_slice _ hfit, Nat.add_mul]
  rw [fetchVertex, hnat, if_pos ⟨by omega, hin⟩, hread, mapM_id_map_some]

/-- **One draw**: a command whose input is where it looks for it draws that input. -/
theorem HoldsAt.fetch_eq {size : Nat} {baseVertex : DrawIndirectCommand → Int}
    {vertexBuffer : Buffer UInt8} {indexBuffer : Buffer (BitVec 32)} {cmd : DrawIndirectCommand}
    {input : RendererInput} (h : HoldsAt size baseVertex vertexBuffer indexBuffer cmd input)
    (hbytes : input.vertexBytes.length = input.vertexCount * size) (hw : input.WellIndexed) :
    fetch size baseVertex vertexBuffer indexBuffer cmd = (input.vertices size).map some := by
  rw [fetch, h.once, h.indices, RendererInput.vertices, List.map_map, List.map_map]
  have hfetch : ∀ x ∈ input.indices,
      fetchVertex size vertexBuffer (baseVertex cmd + x.toNat) =
        some (slice input.vertexBytes (x.toNat * size) size) := by
    intro x hx
    obtain ⟨base, hbase, hregion⟩ := h.vertices (List.ne_nil_of_mem hx)
    rw [hbase]
    exact fetchVertex_region hregion hbytes (hw x hx)
  simpa using hfetch

/-! ## writes through mapped pointers -/

namespace MappedData

variable {α : Type}

/-- Every input with data holds a region of the buffer that shows it, apart from all
others. -/
structure Shows (m : MappedData α) (data : Nat → Option (List α)) : Prop where
  separate : m.Separate
  region : ∀ k xs, data k = some xs → ∃ p, m.pointers k = some p ∧
    (m.initial k).length = xs.length ∧ p + xs.length ≤ m.mapping.size ∧
    m.mapping.read p xs.length = xs.map some

/-- What lies in the mapping is read there. -/
theorem read_buffer (m : MappedData α) {start len : Nat} (h : start + len ≤ m.mapping.size) :
    m.buffer.read start len = m.mapping.read start len := by
  rw [buffer, Buffer.read, Buffer.read, slice, slice,
    List.drop_append_of_le_length (Nat.le_trans (Nat.le_add_right _ _) h),
    List.take_append_of_le_length]
  rw [List.length_drop]
  exact Nat.le_sub_of_add_le' h

/-- **Write**: data written inside a region shows there, and nowhere else. -/
theorem Shows.write {m : MappedData α} {data : Nat → Option (List α)} (h : m.Shows data)
    {k i : Nat} {xs ys : List α} (hk : data k = some ys) (hin : i + xs.length ≤ ys.length) :
    (m.write k i xs).Shows (Function.update data k (some (splice ys i xs.length xs))) := by
  obtain ⟨p, hp, hinit, hfit, hread⟩ := h.region k ys hk
  have hmapping : (m.write k i xs).mapping = m.mapping.memcpy (p + i) (xs.map some) := by
    rw [MappedData.write, hp]
  refine ⟨h.separate.write k i xs, fun l zs hl => ?_⟩
  rw [pointers_write, initial_write, hmapping, Buffer.size_memcpy]
  by_cases hlk : l = k
  · subst hlk
    rw [Function.update_self, Option.some.injEq] at hl
    subst hl
    have hlen := length_splice_self hin
    have hsplice : (m.mapping.memcpy (p + i) (xs.map some)).read p ys.length = _ :=
      m.mapping.read_memcpy_within (xs.map some) (by rwa [List.length_map]) hfit
    refine ⟨p, hp, hinit.trans hlen.symm, by rw [hlen]; exact hfit, ?_⟩
    rw [hlen, hsplice, hread]
    simp [splice]
  · rw [Function.update_of_ne hlk] at hl
    obtain ⟨q, hq, hqinit, hqfit, hqread⟩ := h.region l zs hl
    refine ⟨q, hq, hqinit, hqfit, ?_⟩
    have hsep := h.separate k l p q (Ne.symm hlk) hp hq
    rw [m.mapping.read_memcpy_of_disjoint (xs.map some) (by rw [List.length_map]; omega), hqread]

end MappedData

/-- The data of the dynamic inputs, by position. -/
def dynamicData {α : Type} (get : RendererInput → List α) (inputs : List RendererInput)
    (k : Nat) : Option (List α) :=
  (inputs[k]?).bind fun input =>
    if input.dataAccess = .dynamicFixed then some (get input) else none

theorem dynamicData_eq_some_iff {α : Type} {get : RendererInput → List α}
    {inputs : List RendererInput} {k : Nat} {xs : List α} :
    dynamicData get inputs k = some xs ↔ ∃ input, DynamicAt inputs k input ∧ get input = xs := by
  simp only [dynamicData, DynamicAt, Option.bind_eq_some_iff]
  grind


/-! ## the inputs after writes -/

@[simp] theorem InputWrite.dataAccess_apply (w : InputWrite) (input : RendererInput) :
    (w.apply input).dataAccess = input.dataAccess := by
  cases w <;> rfl

@[simp] theorem InputWrite.format_apply (w : InputWrite) (input : RendererInput) :
    (w.apply input).format = input.format := by
  cases w <;> rfl

/-- What is written replaces as much of the input's data. -/
theorem InputWrite.length_apply {w : InputWrite} {input : RendererInput} (h : w.Fits input) :
    (w.apply input).vertexBytes.length = input.vertexBytes.length ∧
    (w.apply input).indices.length = input.indices.length := by
  cases w with
  | vertices k i bytes => exact ⟨length_splice_self h, rfl⟩
  | indices k i values => exact ⟨rfl, length_splice_self h.1⟩

theorem InputWrite.wellIndexed_apply {w : InputWrite} {input : RendererInput} (h : w.Fits input)
    (hw : input.WellIndexed) : (w.apply input).WellIndexed := by
  have hcount : (w.apply input).vertexCount = input.vertexCount := by
    rw [RendererInput.vertexCount, RendererInput.vertexCountBytes, (length_apply h).1,
      format_apply]
    rfl
  intro x hx
  rw [hcount]
  cases w with
  | vertices k i bytes => exact hw x hx
  | indices k i values =>
      simp only [InputWrite.apply, splice, List.mem_append] at hx
      obtain (hx | hx) | hx := hx
      · exact hw x (List.mem_of_mem_take hx)
      · exact h.2 x hx
      · exact hw x (List.mem_of_mem_drop hx)

theorem getElem?_writeInput (inputs : List RendererInput) (w : InputWrite) (j : Nat) :
    (writeInput inputs w)[j]? =
      if w.input = j then (inputs[j]?).map w.apply else inputs[j]? := by
  rw [writeInput, List.getElem?_modify]
  split <;> simp

theorem dynamicData_writeInput {α : Type} (get : RendererInput → List α)
    {inputs : List RendererInput} {w : InputWrite} {input : RendererInput}
    (hk : DynamicAt inputs w.input input) : dynamicData get (writeInput inputs w) =
      Function.update (dynamicData get inputs) w.input (some (get (w.apply input))) := by
  funext j
  simp only [dynamicData, getElem?_writeInput, Function.update_apply]
  by_cases hj : j = w.input
  · subst hj
    simp [hk.1, hk.2]
  · simp [hj, Ne.symm hj]

/-- A write through the pointers of the dynamic inputs. -/
def DynamicGeometry.writeInput (g : DynamicGeometry) : InputWrite → DynamicGeometry
  | .vertices k i bytes => { g with vertices := g.vertices.write k i bytes }
  | .indices k i values => { g with indices := g.indices.write k i values }

def DynamicGeometry.writeInputs (g : DynamicGeometry) (ws : List InputWrite) : DynamicGeometry :=
  ws.foldl DynamicGeometry.writeInput g

/-- The mapped buffers of `g` show the dynamic inputs among `current`, where the pointers
of the renderer's setup `setup` say. -/
structure DynamicGeometry.Shows (setup g : DynamicGeometry) (current : List RendererInput) :
    Prop where
  vertices : g.vertices.Shows (dynamicData RendererInput.vertexBytes current)
  indices : g.indices.Shows (dynamicData RendererInput.indices current)
  vertexPointers : g.vertices.pointers = setup.vertices.pointers
  indexPointers : g.indices.pointers = setup.indices.pointers

/-- **Step**: a valid write shows. -/
theorem DynamicGeometry.Shows.writeInput {setup g : DynamicGeometry}
    {current : List RendererInput} (h : setup.Shows g current) {w : InputWrite}
    (hw : w.Valid current) : setup.Shows (g.writeInput w) (Topaz.writeInput current w) := by
  obtain ⟨input, hk, hfits⟩ := hw
  have hvertices : dynamicData RendererInput.vertexBytes current w.input = some input.vertexBytes :=
    dynamicData_eq_some_iff.mpr ⟨input, hk, rfl⟩
  have hindices : dynamicData RendererInput.indices current w.input = some input.indices :=
    dynamicData_eq_some_iff.mpr ⟨input, hk, rfl⟩
  have hv := dynamicData_writeInput RendererInput.vertexBytes hk
  have hi := dynamicData_writeInput RendererInput.indices hk
  cases w with
  | vertices k i bytes =>
      refine ⟨hv ▸ h.vertices.write hvertices hfits, ?_, ?_, h.indexPointers⟩
      · rw [hi, Function.update_eq_iff.mpr ⟨hindices.symm, fun _ _ => rfl⟩]
        exact h.indices
      · exact (MappedData.pointers_write _ _ _ _).trans h.vertexPointers
  | indices k i values =>
      refine ⟨?_, hi ▸ h.indices.write hindices hfits.1, h.vertexPointers, ?_⟩
      · rw [hv, Function.update_eq_iff.mpr ⟨hvertices.symm, fun _ _ => rfl⟩]
        exact h.vertices
      · exact (MappedData.pointers_write _ _ _ _).trans h.indexPointers

/-- **Run**: so does any number of them. -/
theorem DynamicGeometry.Shows.writeInputs {setup g : DynamicGeometry}
    {current : List RendererInput} (h : setup.Shows g current) {ws : List InputWrite}
    (hws : ValidWrites current ws) :
    setup.Shows (g.writeInputs ws) (Topaz.writeInputs current ws) := by
  induction ws generalizing g current with
  | nil => exact h
  | cons w ws ih => exact ih (h.writeInput hws.1) hws.2

/-- `current` are the inputs of a renderer after writes: the dynamic ones have other data,
of the same length. -/
structure Follows (inputs current : List RendererInput) : Prop where
  length : current.length = inputs.length
  input : ∀ {k : Nat} {input : RendererInput}, current[k]? = some input →
    ∃ first : RendererInput, inputs[k]? = some first ∧
    first.dataAccess = input.dataAccess ∧ first.format = input.format ∧
    first.vertexBytes.length = input.vertexBytes.length ∧
    first.indices.length = input.indices.length ∧
    (input.dataAccess = .staticFixed → first = input)

namespace Follows

variable {inputs current : List RendererInput}

theorem refl (inputs : List RendererInput) : Follows inputs inputs :=
  ⟨rfl, fun {_ input} hk => ⟨input, hk, rfl, rfl, rfl, rfl, fun _ => rfl⟩⟩

theorem writeInput (h : Follows inputs current) {w : InputWrite} (hw : w.Valid current) :
    Follows inputs (Topaz.writeInput current w) := by
  obtain ⟨input, hk, hfits⟩ := hw
  refine ⟨by rw [Topaz.writeInput, List.length_modify, h.length], fun {j input'} hj => ?_⟩
  rw [getElem?_writeInput] at hj
  by_cases hjk : w.input = j
  · subst hjk
    rw [if_pos rfl, hk.1, Option.map_some, Option.some.injEq] at hj
    subst hj
    obtain ⟨first, hfirst, haccess, hformat, hbytes, hindices, -⟩ := h.input hk.1
    obtain ⟨hwbytes, hwindices⟩ := InputWrite.length_apply hfits
    rw [w.dataAccess_apply, w.format_apply, hwbytes, hwindices]
    exact ⟨first, hfirst, haccess, hformat, hbytes, hindices, fun hs => by simp [hk.2] at hs⟩
  · rw [if_neg hjk] at hj
    exact h.input hj

theorem writeInputs (h : Follows inputs current) {ws : List InputWrite}
    (hws : ValidWrites current ws) : Follows inputs (Topaz.writeInputs current ws) := by
  induction ws generalizing current with
  | nil => exact h
  | cons w ws ih => exact ih (h.writeInput hws.1) hws.2

/-- The inputs hold whole elements of the same size all along. -/
theorem length_vertexBytes (h : Follows inputs current) {size : Nat}
    (hB : SharedBinding size inputs) {k : Nat} {input : RendererInput}
    (hk : current[k]? = some input) :
    input.vertexBytes.length = input.vertexCount * size := by
  obtain ⟨first, hfirst, -, hformat, hbytes, -, -⟩ := h.input hk
  have hfirstbytes := hB.vertexCountBytes_eq (List.mem_of_getElem? hfirst)
  have hcount : first.vertexCount = input.vertexCount := by
    rw [RendererInput.vertexCount, RendererInput.vertexCount, RendererInput.vertexCountBytes,
      RendererInput.vertexCountBytes, hbytes, hformat]
  rw [← hbytes, ← hcount]
  exact hfirstbytes

end Follows

theorem wellIndexed_writeInputs {current : List RendererInput} {ws : List InputWrite}
    (hws : ValidWrites current ws) (hw : ∀ input ∈ current, input.WellIndexed) :
    ∀ input ∈ writeInputs current ws, input.WellIndexed := by
  induction ws generalizing current with
  | nil => exact hw
  | cons w ws ih =>
      obtain ⟨⟨input, hk, hfits⟩, hws⟩ := hws
      refine ih hws fun input' hmem => ?_
      obtain ⟨j, hj⟩ := List.mem_iff_getElem?.mp hmem
      rw [getElem?_writeInput] at hj
      by_cases hjk : w.input = j
      · subst hjk
        rw [if_pos rfl, hk.1, Option.map_some, Option.some.injEq] at hj
        subst hj
        exact InputWrite.wellIndexed_apply hfits (hw input (List.mem_of_getElem? hk.1))
      · rw [if_neg hjk] at hj
        exact hw input' (List.mem_of_getElem? hj)

/-! ## a frame -/

/-- The buffers hold every input where its command looks for it. -/
def HoldsRegions (size : Nat) (baseVertex : DrawIndirectCommand → Int)
    (inputs current : List RendererInput) (b : DrawBuffers) : Prop :=
  ∀ k input, current[k]? = some input → ∃ vertexBuffer indexBuffer,
    b.vertexBuffer input.dataAccess = some vertexBuffer ∧
    b.indexBuffer input.dataAccess = some indexBuffer ∧
    HoldsAt size baseVertex vertexBuffer indexBuffer (drawCommand input.dataAccess inputs k) input

/-- **A frame**: the draws of a list feed the vertices that the list means. -/
theorem HoldsRegions.fetchAll_drawsOf {size : Nat} {baseVertex : DrawIndirectCommand → Int}
    {inputs current : List RendererInput} {b : DrawBuffers}
    (h : HoldsRegions size baseVertex inputs current b) (hf : Follows inputs current)
    (hB : SharedBinding size inputs) (hw : ∀ input ∈ current, input.WellIndexed)
    (draws : RendererDrawList) :
    fetchAll size baseVertex b (drawsOf inputs draws) =
      (verticesOf size current draws).map some := by
  induction draws with
  | nil => rfl
  | cons handle draws ih =>
      cases hk : current[handle.value]? with
      | none =>
          have hnone : inputs[handle.value]? = none := by
            rw [List.getElem?_eq_none_iff, ← hf.length]
            exact List.getElem?_eq_none_iff.mp hk
          have hdraw : drawOf inputs handle = none := by simp [drawOf, accessOf, hnone]
          rw [drawsOf, List.filterMap_cons_none hdraw, verticesOf, List.flatMap_cons, hk]
          simpa [drawsOf, verticesOf] using ih
      | some input =>
          obtain ⟨first, hfirst, haccess, -⟩ := hf.input hk
          obtain ⟨vertexBuffer, indexBuffer, hvb, hib, hat⟩ := h _ input hk
          have hdraw : drawOf inputs handle = some (input.dataAccess,
              some (drawCommand input.dataAccess inputs handle.value)) := by
            simp [drawOf, accessOf, hfirst, haccess]
          have hfetch := hat.fetch_eq (hf.length_vertexBytes hB hk)
            (hw input (List.mem_of_getElem? hk))
          rw [drawsOf, List.filterMap_cons_some hdraw, fetchAll, List.flatMap_cons, fetchDraw]
          simp only [hvb, hib, hfetch]
          rw [verticesOf, List.flatMap_cons, hk, Option.map_some, Option.getD_some,
            List.map_append]
          exact congrArg _ ih

/-! ## the words of a command -/

/-- The counts of an access fit in the words of a command. -/
structure FitsCommand (a : RendererInputDataAccess) (inputs : List RendererInput) : Prop where
  vertices : (inputs.map (RendererInput.vertexCountIn a)).sum < 2 ^ 31
  indices : (inputs.map (RendererInput.indexCountIn a)).sum < 2 ^ 31

namespace FitsCommand

variable {a : RendererInputDataAccess} {inputs : List RendererInput} (h : FitsCommand a inputs)
include h

theorem firstIndex_count {k : Nat} {input : RendererInput} (hk : inputs[k]? = some input)
    (ha : input.dataAccess = a) :
    (drawCommand a inputs k).firstIndex.toNat = before (RendererInput.indexCountIn a) inputs k ∧
    (drawCommand a inputs k).count.toNat = input.indices.length := by
  obtain ⟨hlt, hget⟩ := List.getElem?_eq_some_iff.mp hk
  have hbound := before_add_le_sum (RendererInput.indexCountIn a) inputs hlt
  have hfits := h.indices
  rw [hget, RendererInput.indexCountIn, if_pos ha] at hbound
  simp only [drawCommand, hk, Option.map_some, Option.getD_some, BitVec.toNat_ofNat]
  rw [Nat.mod_eq_of_lt (by omega), Nat.mod_eq_of_lt (by omega)]
  exact ⟨rfl, rfl⟩

theorem toNat_baseVertex {k : Nat} (hk : k < inputs.length) :
    (drawCommand a inputs k).baseVertex.toNat =
      before (RendererInput.vertexCountIn a) inputs k ∧
    before (RendererInput.vertexCountIn a) inputs k < 2 ^ 31 := by
  have hbound := before_add_le_sum (RendererInput.vertexCountIn a) inputs hk
  have hfits := h.vertices
  rw [drawCommand, BitVec.toNat_ofNat, Nat.mod_eq_of_lt (by omega)]
  exact ⟨rfl, by omega⟩

theorem ogl_baseVertex {k : Nat} (hk : k < inputs.length) :
    Ogl.baseVertex (drawCommand a inputs k) = before (RendererInput.vertexCountIn a) inputs k := by
  rw [Ogl.baseVertex, (h.toNat_baseVertex hk).1]

theorem vk_vertexOffset {k : Nat} (hk : k < inputs.length) :
    Vk.vertexOffset (drawCommand a inputs k) =
      before (RendererInput.vertexCountIn a) inputs k := by
  obtain ⟨hnat, hlt⟩ := h.toNat_baseVertex hk
  rw [Vk.vertexOffset, BitVec.toInt_eq_toNat_of_lt (by omega), hnat]

end FitsCommand

/-! ## static and dynamic regions -/

section Regions

variable {size : Nat} {inputs : List RendererInput} (hB : SharedBinding size inputs)
  {baseVertex : DrawIndirectCommand → Int}
include hB

/-- Uploaded static geometry holds every static input. -/
theorem StaticGeometry.Holds.holdsAt {g : StaticGeometry} (hg : g.Holds inputs)
    (hfits : FitsCommand .staticFixed inputs) {k : Nat} {input : RendererInput}
    (hk : inputs[k]? = some input) (hs : input.dataAccess = .staticFixed)
    (hbase : baseVertex (drawCommand .staticFixed inputs k) =
      before (RendererInput.vertexCountIn .staticFixed) inputs k) :
    ∃ vertexBuffer indexBuffer, g.vertexBuffer = some vertexBuffer ∧
      g.indexBuffer = some indexBuffer ∧
      HoldsAt size baseVertex vertexBuffer indexBuffer (drawCommand .staticFixed inputs k)
        input := by
  obtain ⟨vertexBuffer, indexBuffer, hvb, hib, hindices, hvertices⟩ := hg
  obtain ⟨hfirst, hcount⟩ := hfits.firstIndex_count hk hs
  have hslice := slice_flatMap_indicesIn hk hs
  refine ⟨vertexBuffer, indexBuffer, hvb, hib, rfl, ?_, fun hne => ⟨_, hbase, ?_⟩⟩
  · rw [hfirst, hcount, Buffer.read, hindices, slice_map]
    exact congrArg (List.map some) hslice
  · -- the input has an index, so the vertices were uploaded
    have hany : inputs.flatMap (RendererInput.indicesIn .staticFixed) ≠ [] := by
      intro hnil
      rw [hnil] at hslice
      exact hne (by simpa [slice] using hslice.symm)
    obtain ⟨hlt, hget⟩ := List.getElem?_eq_some_iff.mp hk
    have hseg := slice_flatMap_before inputs (RendererInput.verticesIn .staticFixed) hlt
    rw [hget, hB.before_length_verticesIn, RendererInput.verticesIn, if_pos hs] at hseg
    rw [Buffer.read, hvertices hany, slice_map, hseg]

/-- Mapped buffers that show the dynamic inputs hold them, if index regions are noted in
the unit they are used in. -/
theorem DynamicGeometry.Shows.holdsAt {unit : Nat} {filled : Bool} {mapMemory : Nat → Nat}
    {g : DynamicGeometry} {current : List RendererInput}
    (hg : (setupDynamic unit filled mapMemory inputs).Shows g current)
    (hf : Follows inputs current) (hfits : FitsCommand .dynamicFixed inputs) {k : Nat}
    {input : RendererInput} (hk : DynamicAt current k input)
    (hunit : dynamicIndicesBefore inputs k * unit = dynamicIndicesBefore inputs k)
    (hbase : baseVertex (drawCommand .dynamicFixed inputs k) =
      before (RendererInput.vertexCountIn .dynamicFixed) inputs k) :
    HoldsAt size baseVertex g.vertices.buffer g.indices.buffer
      (drawCommand .dynamicFixed inputs k) input := by
  obtain ⟨first, hfirst, haccess, -, hbytes, hindices, -⟩ := hf.input hk.1
  have hat : DynamicAt inputs k first := ⟨hfirst, haccess.trans hk.2⟩
  obtain ⟨hindex, hcount⟩ := hfits.firstIndex_count hfirst hat.2
  obtain ⟨p, hp, -, hpin, hpread⟩ := hg.vertices.region k _
    (dynamicData_eq_some_iff.mpr ⟨input, hk, rfl⟩)
  obtain ⟨q, hq, -, hqin, hqread⟩ := hg.indices.region k _
    (dynamicData_eq_some_iff.mpr ⟨input, hk, rfl⟩)
  rw [hg.vertexPointers, vertexPointer_setupDynamic unit filled mapMemory hB hat,
    Option.some.injEq] at hp
  rw [hg.indexPointers, indexPointer_setupDynamic unit filled mapMemory hat, Option.some.injEq,
    hunit] at hq
  refine ⟨rfl, ?_, fun _ => ⟨_, hbase, ?_⟩⟩
  · rw [hindex, hcount, hindices, ← hqread, ← MappedData.read_buffer _ hqin, ← hq]
  · rw [← hpread, ← MappedData.read_buffer _ hpin, ← hp]

end Regions

/-- What is set up and mapped shows the inputs as they were given. -/
theorem shows_setupDynamic {unit : Nat} (filled : Bool) {mapMemory : Nat → Nat}
    {inputs : List RendererInput} (hmaps : MapsDynamic mapMemory inputs)
    (hunit : ∀ k input, DynamicAt inputs k input →
      dynamicIndicesBefore inputs k * unit = dynamicIndicesBefore inputs k) :
    (setupDynamic unit filled mapMemory inputs).Shows
      (setupDynamic unit filled mapMemory inputs) inputs := by
  obtain ⟨hvsep, hv⟩ := correct_vertices_setupDynamic unit filled hmaps
  obtain ⟨hisep, hi⟩ := correct_indices_setupDynamic unit filled hmaps hunit
  have hc := covers_compileInputs unit inputs
  refine ⟨⟨hvsep, fun k xs hxs => ?_⟩, ⟨hisep, fun k xs hxs => ?_⟩, rfl, rfl⟩
  · obtain ⟨input, hk, rfl⟩ := dynamicData_eq_some_iff.mp hxs
    obtain ⟨hdata, hfit⟩ := hv k input hk
    have hp : (setupDynamic unit filled mapMemory inputs).vertices.pointers k =
        some (before (fun i => (i.verticesIn .dynamicFixed).length) inputs k * 1) := by
      rw [setupDynamic_eq]
      exact MappedData.pointers_setRegions_eq hc.vertexRegions hk.1 hk.2
    have hinit : initialVertices inputs k = input.vertexBytes := by simp [initialVertices, hk.1]
    have hinitial : (setupDynamic unit filled mapMemory inputs).vertices.initial k =
        input.vertexBytes := by
      rw [setupDynamic_eq, ← hinit]
      exact congrFun (MappedData.initial_setRegions _ _) k
    rw [MappedData.getData, hp, hinitial, hinit] at hdata
    rw [hinit] at hfit
    exact ⟨_, hp, by rw [hinitial], by rwa [Nat.mul_one], hdata⟩
  · obtain ⟨input, hk, rfl⟩ := dynamicData_eq_some_iff.mp hxs
    obtain ⟨hdata, hfit⟩ := hi k input hk
    have hq := indexPointer_setupDynamic unit filled mapMemory hk
    have hinit : initialIndices inputs k = input.indices := by simp [initialIndices, hk.1]
    have hinitial : (setupDynamic unit filled mapMemory inputs).indices.initial k =
        input.indices := by
      rw [setupDynamic_eq, ← hinit]
      exact congrFun (MappedData.initial_setRegions _ _) k
    rw [MappedData.getData, hq, hinitial, hinit] at hdata
    rw [hinit] at hfit
    exact ⟨_, hq, by rw [hinitial], by rwa [hunit k input hk], hdata⟩

end Topaz
