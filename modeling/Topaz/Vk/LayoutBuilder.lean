import Topaz.EnumField
import Topaz.Machine
import Topaz.Descriptors

/-!
# Topaz.Vk.LayoutBuilder

`vk::LayoutBuilder` with everything it keeps: the types and the stage flags of the
bindings in two parallel vectors, and the bindings that `native()` has handed out.

`Topaz.Descriptors` looks at a builder that is filled once and asked once, where only the
types matter (`native_vkGetDescriptorSetLayout` connects the two).  In general

* `add` finds the flags of a field by comparing it with `ShaderTypeField::All()`, and
  pushes none for an empty field;
* `native()` appends all bindings to the vector it hands out, so that after a second call
  the vector starts with what the first call appended (`take_cached_iff`).
-/

namespace Topaz
namespace Vk
namespace DescriptorSetLayout

/-! ## shader stages -/

inductive ShaderType where
  | vertex
  | fragment
deriving DecidableEq, Repr

abbrev ShaderTypeField := EnumField ShaderType

/-- `ShaderTypeField::All()`. -/
def allStages : ShaderTypeField := ((⟨[]⟩ : ShaderTypeField).insert .vertex).insert .fragment

/-- `VK_SHADER_STAGE_VERTEX_BIT` and `VK_SHADER_STAGE_FRAGMENT_BIT`. -/
def ShaderType.bit : ShaderType → BitVec 32
  | .vertex => 0x1
  | .fragment => 0x10

/-- `VK_SHADER_STAGE_ALL_GRAPHICS`. -/
def allGraphics : BitVec 32 := 0x1F

/-! ## the builder -/

/-- A `VkDescriptorSetLayoutBinding`. -/
structure LayoutBinding where
  binding : BitVec 32
  descriptorCount : Nat
  descriptorType : DescriptorType
  stageFlags : BitVec 32
deriving DecidableEq, Repr

/-- A `VkDescriptorSetLayoutCreateInfo`: a count, and the array that `pBindings` points to. -/
structure LayoutCreateInfo where
  bindingCount : BitVec 32
  pBindings : List LayoutBinding
deriving DecidableEq, Repr

structure LayoutBuilder where
  bindingTypes : List DescriptorType
  bindingRelevantShaderStages : List (BitVec 32)
  bindings : List LayoutBinding
deriving DecidableEq, Repr

/-- The flags that `add` pushes for a field, if any. -/
def stageFlags (relevantStages : ShaderTypeField) : Option (BitVec 32) :=
  if relevantStages.equal allStages then some allGraphics
  else if relevantStages.contains .vertex then some ShaderType.vertex.bit
  else if relevantStages.contains .fragment then some ShaderType.fragment.bit
  else none

namespace LayoutBuilder

def empty : LayoutBuilder := ⟨[], [], []⟩

/-- The builder after `add`, and the index it returns. -/
def add (l : LayoutBuilder) (type : DescriptorType) (relevantStages : ShaderTypeField) :
    LayoutBuilder × BitVec 32 :=
  ({ l with
      bindingTypes := l.bindingTypes ++ [type]
      bindingRelevantShaderStages :=
        l.bindingRelevantShaderStages ++ (stageFlags relevantStages).toList },
    BitVec.ofNat 32 ((l.bindingTypes ++ [type]).length - 1))

/-- `operator[]`; `none` beyond the end of a vector. -/
def get (l : LayoutBuilder) (index : Nat) : Option LayoutBinding :=
  match l.bindingTypes[index]?, l.bindingRelevantShaderStages[index]? with
  | some type, some flags => some ⟨BitVec.ofNat 32 index, 1, type, flags⟩
  | _, _ => none

/-- `size()`; `none` if the assertion on the two vectors fires. -/
def size (l : LayoutBuilder) : Option Nat :=
  if l.bindingTypes.length = l.bindingRelevantShaderStages.length then some l.bindingTypes.length
  else none

/-- The builder after `native()`, and the create info that it returns. -/
def native (l : LayoutBuilder) : Option (LayoutBuilder × LayoutCreateInfo) :=
  l.size.map fun size =>
    let bindings := l.bindings ++ (List.range size).filterMap l.get
    ({ l with bindings := bindings }, ⟨BitVec.ofNat 32 size, bindings⟩)

end LayoutBuilder

/-- The bindings that Vulkan reads. -/
def LayoutCreateInfo.exposed (info : LayoutCreateInfo) : List LayoutBinding :=
  info.pBindings.take info.bindingCount.toNat

inductive LayoutOp where
  | add (type : DescriptorType) (relevantStages : ShaderTypeField)
  | native
deriving DecidableEq, Repr

/-- A call whose assertion fires leaves the builder as it is. -/
def LayoutBuilder.step (l : LayoutBuilder) : LayoutOp → LayoutBuilder
  | .add type relevantStages => (l.add type relevantStages).1
  | .native => (l.native.map Prod.fst).getD l

/-- The builder after some calls. -/
def builderAfter (history : List LayoutOp) : LayoutBuilder :=
  history.foldl LayoutBuilder.step .empty

/-! ## what it should describe -/

/-- The type and field that a call adds. -/
def LayoutOp.added? : LayoutOp → Option (DescriptorType × ShaderTypeField)
  | .add type relevantStages => some (type, relevantStages)
  | .native => none

/-- What has been added, in order. -/
def added (history : List LayoutOp) : List (DescriptorType × ShaderTypeField) :=
  history.filterMap LayoutOp.added?

/-- How many bindings there were at each call of `native()`, counting from `n`. -/
def nativeSizes : Nat → List LayoutOp → List Nat
  | _, [] => []
  | n, .add _ _ :: ops => nativeSizes (n + 1) ops
  | n, .native :: ops => n :: nativeSizes n ops

/-- Flags that include every stage of a field. -/
def Includes (flags : BitVec 32) (relevantStages : ShaderTypeField) : Prop :=
  ∀ stage, relevantStages.contains stage = true → flags &&& stage.bit ≠ 0

/-- The vectors are parallel, every binding added is there with its stages, and bindings
with the same stages have the same flags. -/
structure DescribesAdded (history : List LayoutOp) : Prop where
  parallel : (builderAfter history).bindingTypes.length =
    (builderAfter history).bindingRelevantShaderStages.length
  bindings : ∀ (i : Nat) (type : DescriptorType) (stages : ShaderTypeField),
    (added history)[i]? = some (type, stages) →
    ∃ b, (builderAfter history).get i = some b ∧ b.binding.toNat = i ∧ b.descriptorCount = 1 ∧
      b.descriptorType = type ∧ Includes b.stageFlags stages
  sameStages : ∀ (i j : Nat) (x y : DescriptorType × ShaderTypeField) (b c : LayoutBinding),
    (added history)[i]? = some x → (added history)[j]? = some y →
    x.2.values = y.2.values → (builderAfter history).get i = some b →
    (builderAfter history).get j = some c → b.stageFlags = c.stageFlags

/-- What a call returns: `add` the index of the binding, `native()` all bindings. -/
def ReturnsRight (history : List LayoutOp) : LayoutOp → Prop
  | .add type stages =>
      ((builderAfter history).add type stages).2.toNat = (added history).length
  | .native => ∃ info, (builderAfter history).native.map Prod.snd = some info ∧
      info.bindingCount.toNat = (added history).length ∧
      info.exposed.length = (added history).length ∧
      ∀ i < (added history).length, info.exposed[i]? = (builderAfter history).get i

/-- A call returns what it should, and leaves a builder that describes what was added. -/
def CallRight (history : List LayoutOp) (op : LayoutOp) : Prop :=
  ReturnsRight history op ∧ DescribesAdded (history ++ [op])

/-- Fields that `add` has the right flags for: `All()` itself, and those with one stage. -/
def Recognised (relevantStages : ShaderTypeField) : Prop :=
  relevantStages.elements = [.vertex, .fragment] ∨ ∃ stage, relevantStages.values = {stage}

/-- Calls that do as they should: an addition of a recognised field; and a `native()` for
which every earlier one saw no binding, or as many as there are now.  Indices have 32
bits. -/
def CallSafe (history : List LayoutOp) : LayoutOp → Prop
  | .add _ stages => (added history).length < 2 ^ 32 ∧ Recognised stages
  | .native => (added history).length < 2 ^ 32 ∧
      ∀ n ∈ nativeSizes 0 history, n = 0 ∨ n = (added history).length

/-! ## flags of a field -/

theorem equal_allStages_iff (stages : ShaderTypeField) :
    stages.equal allStages = true ↔ stages.elements = [.vertex, .fragment] :=
  decide_eq_true_iff

theorem stageFlags_allStages {stages : ShaderTypeField}
    (h : stages.elements = [.vertex, .fragment]) : stageFlags stages = some allGraphics := by
  rw [stageFlags, if_pos ((equal_allStages_iff stages).mpr h)]

theorem stageFlags_singleton {stages : ShaderTypeField} {stage : ShaderType}
    (h : stages.values = {stage}) : stageFlags stages = some stage.bit := by
  have hnot : stages.equal allStages ≠ true := by
    intro heq
    rw [EnumField.values, (equal_allStages_iff stages).mp heq] at h
    cases stage <;> exact absurd h (by decide)
  rw [stageFlags, if_neg hnot]
  cases stage <;> simp [h]

/-- The recognised fields are those with flags that include all of their stages. -/
theorem recognised_iff (stages : ShaderTypeField) :
    Recognised stages ↔ ∃ flags, stageFlags stages = some flags ∧ Includes flags stages := by
  constructor
  · rintro (hall | ⟨stage, hone⟩)
    · refine ⟨_, stageFlags_allStages hall, fun stage _ => ?_⟩
      cases stage <;> decide
    · refine ⟨_, stageFlags_singleton hone, fun other hother => ?_⟩
      have heq : other = stage := by simpa [hone] using hother
      rw [heq]
      cases stage <;> decide
  · rintro ⟨flags, hflags, hincludes⟩
    by_cases hall : stages.equal allStages = true
    · exact .inl ((equal_allStages_iff stages).mp hall)
    · rw [stageFlags, if_neg hall] at hflags
      -- the first stage found is the only one, or the flags would include the other
      by_cases hv : ShaderType.vertex ∈ stages.values
      · have hbit : flags = ShaderType.vertex.bit := by simpa [hv] using hflags.symm
        have hf : ShaderType.fragment ∉ stages.values := fun hf =>
          hincludes .fragment (by simpa using hf) (by rw [hbit]; decide)
        exact .inr ⟨.vertex, by ext stage; cases stage <;> simp [hv, hf]⟩
      · have hf : ShaderType.fragment ∈ stages.values := by
          simp only [EnumField.contains_iff, hv, if_false] at hflags
          split at hflags
          · assumption
          · contradiction
        exact .inr ⟨.fragment, by ext stage; cases stage <;> simp [hv, hf]⟩

/-- Recognised fields with the same stages have the same flags. -/
theorem stageFlags_congr {x y : ShaderTypeField} (hx : Recognised x) (hy : Recognised y)
    (h : x.values = y.values) : stageFlags x = stageFlags y := by
  have hboth : ∀ {z : ShaderTypeField} {stage : ShaderType},
      z.elements = [.vertex, .fragment] → z.values ≠ {stage} := by
    intro z stage hz
    rw [EnumField.values, hz]
    cases stage <;> decide
  obtain hx | ⟨s, hx⟩ := hx <;> obtain hy | ⟨t, hy⟩ := hy
  · rw [stageFlags_allStages hx, stageFlags_allStages hy]
  · exact absurd (h.trans hy) (hboth hx)
  · exact absurd (h.symm.trans hx) (hboth hy)
  · rw [stageFlags_singleton hx, stageFlags_singleton (h.symm.trans hx)]

/-! ## a vector that only grows -/

theorem filterMap_getElem?_range {α : Type} (xs : List α) :
    (List.range xs.length).filterMap (xs[·]?) = xs := by
  induction xs with
  | nil => rfl
  | cons x xs ih =>
      simp only [List.length_cons, List.range_succ_eq_map, List.filterMap_cons, List.filterMap_map]
      simpa [Function.comp_def] using ih

/-- Whatever stands before a list and starts like it, the whole starts like it. -/
theorem head?_cached {α : Type} (xs : List α) (sizes : List Nat) :
    (sizes.flatMap (xs.take ·) ++ xs).head? = xs.head? := by
  induction sizes with
  | nil => rfl
  | cons n sizes ih =>
      cases n with
      | zero => simpa using ih
      | succ n => cases xs <;> simp_all

/-- After appending prefixes of a list and then the list itself, one reads the list from the
start exactly when all prefixes are empty or the whole. -/
theorem take_cached_iff {α : Type} {xs : List α} (hnodup : xs.Nodup) {sizes : List Nat}
    (hsorted : sizes.Pairwise (· ≤ ·)) (hle : ∀ n ∈ sizes, n ≤ xs.length) :
    (sizes.flatMap (xs.take ·) ++ xs).take xs.length = xs ↔
      ∀ n ∈ sizes, n = 0 ∨ n = xs.length := by
  induction sizes with
  | nil => simp
  | cons n sizes ih =>
      obtain ⟨hfirst, hsorted⟩ := List.pairwise_cons.mp hsorted
      obtain ⟨hn, hle⟩ := List.forall_mem_cons.mp hle
      have hrest := ih hsorted hle
      rw [List.flatMap_cons, List.append_assoc, List.forall_mem_cons]
      by_cases hzero : n = 0
      · simpa [hzero] using hrest
      by_cases hfull : n = xs.length
      · -- the prefixes after a full one are full
        have hlater : ∀ m ∈ sizes, m = 0 ∨ m = xs.length := by
          intro m hm
          have := hfirst m hm
          have := hle m hm
          omega
        simpa [hfull] using hlater
      · -- the list would start over in the middle
        have hmiddle : xs[n]? ≠ xs[0]? := by
          intro heq
          exact hzero ((List.getElem?_inj (by omega) hnodup).mp heq)
        have hover : (xs.take n ++ (sizes.flatMap (xs.take ·) ++ xs))[n]? = xs[0]? := by
          rw [List.getElem?_append_right (by simp), List.length_take, Nat.min_eq_left hn,
            Nat.sub_self, ← List.head?_eq_getElem?, head?_cached, List.head?_eq_getElem?]
        constructor
        · intro heq
          rw [← heq, List.getElem?_take_of_lt (by omega), hover, heq] at hmiddle
          contradiction
        · intro hall
          omega

/-! ## the builder along a history -/

/-- The bindings for what was added. -/
def described (xs : List (DescriptorType × ShaderTypeField)) : List LayoutBinding :=
  xs.mapIdx fun i x => ⟨BitVec.ofNat 32 i, 1, x.1, (stageFlags x.2).getD 0⟩

@[simp] theorem length_described (xs : List (DescriptorType × ShaderTypeField)) :
    (described xs).length = xs.length := List.length_mapIdx

theorem nodup_described {xs : List (DescriptorType × ShaderTypeField)} (h : xs.length ≤ 2 ^ 32) :
    (described xs).Nodup := by
  have hnumbers : (described xs).map (fun b => b.binding.toNat) = List.range xs.length := by
    apply List.ext_getElem
    · simp
    · intro i hi _
      have hlt : i < 2 ^ 32 := by
        simp only [List.length_map, length_described] at hi
        omega
      simpa [described] using hlt
  exact List.Nodup.of_map _ (hnumbers ▸ List.nodup_range)

theorem described_concat (xs : List (DescriptorType × ShaderTypeField))
    (x : DescriptorType × ShaderTypeField) : described (xs ++ [x]) =
      described xs ++ [⟨BitVec.ofNat 32 xs.length, 1, x.1, (stageFlags x.2).getD 0⟩] := by
  simp [described, List.mapIdx_append]

theorem builderAfter_concat (history : List LayoutOp) (op : LayoutOp) :
    builderAfter (history ++ [op]) = (builderAfter history).step op := by simp [builderAfter]

@[simp] theorem added_concat_add (history : List LayoutOp) (type : DescriptorType)
    (stages : ShaderTypeField) :
    added (history ++ [LayoutOp.add type stages]) = added history ++ [(type, stages)] := by
  simp [added, LayoutOp.added?]

@[simp] theorem added_concat_native (history : List LayoutOp) :
    added (history ++ [LayoutOp.native]) = added history := by
  simp [added, LayoutOp.added?]

theorem nativeSizes_concat (n : Nat) (history : List LayoutOp) (op : LayoutOp) :
    nativeSizes n (history ++ [op]) = nativeSizes n history ++
      if op = .native then [n + (added history).length] else [] := by
  induction history generalizing n with
  | nil => cases op <;> rfl
  | cons first history ih =>
      cases first with
      | add type stages =>
          have hadded : (added (.add type stages :: history)).length =
              1 + (added history).length := Nat.add_comm _ _
          simp [nativeSizes, ih, hadded, Nat.add_assoc]
      | native =>
          have hadded : added (.native :: history) = added history := rfl
          simp [nativeSizes, ih, hadded]

/-- A builder that has only been used safely: its vectors are what was added, and the
bindings handed out are those there were at each call of `native()`. -/
structure Faithful (history : List LayoutOp) : Prop where
  fits : (added history).length ≤ 2 ^ 32
  recognised : ∀ x ∈ added history, Recognised x.2
  types : (builderAfter history).bindingTypes = (added history).map Prod.fst
  stages : (builderAfter history).bindingRelevantShaderStages =
    (added history).map fun x => (stageFlags x.2).getD 0
  cached : (builderAfter history).bindings =
    (nativeSizes 0 history).flatMap ((described (added history)).take ·)
  sorted : (nativeSizes 0 history).Pairwise (· ≤ ·)
  seen : ∀ n ∈ nativeSizes 0 history, n ≤ (added history).length

namespace Faithful

variable {history : List LayoutOp}

theorem nil : Faithful [] :=
  ⟨by simp [added], by simp [added], rfl, rfl, rfl, .nil, by simp [nativeSizes]⟩

theorem get (h : Faithful history) (i : Nat) :
    (builderAfter history).get i = (described (added history))[i]? := by
  rw [LayoutBuilder.get, h.types, h.stages, described, List.getElem?_mapIdx, List.getElem?_map,
    List.getElem?_map]
  cases (added history)[i]? <;> rfl

theorem native (h : Faithful history) : (builderAfter history).native =
    some ({ builderAfter history with
      bindings := (builderAfter history).bindings ++ described (added history) },
      ⟨BitVec.ofNat 32 (added history).length,
        (builderAfter history).bindings ++ described (added history)⟩) := by
  have hsize : (builderAfter history).size = some (described (added history)).length := by
    simp [LayoutBuilder.size, h.types, h.stages]
  have hget : (builderAfter history).get = ((described (added history))[·]?) := funext h.get
  rw [LayoutBuilder.native, hsize, Option.map_some, hget, filterMap_getElem?_range]
  simp

/-- Reading the bindings from the start gives the current ones exactly when the earlier
calls saw none or as many. -/
theorem take_bindings_iff (h : Faithful history) :
    ((builderAfter history).bindings ++ described (added history)).take (added history).length =
        described (added history) ↔
      ∀ n ∈ nativeSizes 0 history, n = 0 ∨ n = (added history).length := by
  have htake := take_cached_iff (nodup_described h.fits) h.sorted (by simpa using h.seen)
  rwa [← h.cached, length_described] at htake

theorem describesAdded (h : Faithful history) : DescribesAdded history := by
  have hget : ∀ {i x}, (added history)[i]? = some x → (builderAfter history).get i =
      some ⟨BitVec.ofNat 32 i, 1, x.1, (stageFlags x.2).getD 0⟩ := by
    intro i x hx
    rw [h.get, described, List.getElem?_mapIdx, hx, Option.map_some]
  have hrecognised : ∀ {i} {x : DescriptorType × ShaderTypeField},
      (added history)[i]? = some x → Recognised x.2 := fun hx =>
    h.recognised _ (List.mem_of_getElem? hx)
  refine ⟨by simp [h.types, h.stages], ?_, ?_⟩
  · intro i type stages hx
    obtain ⟨flags, hflags, hincludes⟩ := (recognised_iff stages).mp (hrecognised hx)
    have hlt : i < 2 ^ 32 := by
      obtain ⟨hi, -⟩ := List.getElem?_eq_some_iff.mp hx
      have := h.fits
      omega
    refine ⟨_, hget hx, ?_, rfl, rfl, ?_⟩
    · simpa using hlt
    · simpa [hflags] using hincludes
  · intro i j x y b c hx hy hvalues hb hc
    rw [hget hx, Option.some.injEq] at hb
    rw [hget hy, Option.some.injEq] at hc
    rw [← hb, ← hc, stageFlags_congr (hrecognised hx) (hrecognised hy) hvalues]

theorem add (h : Faithful history) (type : DescriptorType) {stages : ShaderTypeField}
    (hlen : (added history).length < 2 ^ 32) (hstages : Recognised stages) :
    Faithful (history ++ [LayoutOp.add type stages]) := by
  obtain ⟨flags, hflags, -⟩ := (recognised_iff stages).mp hstages
  have hsizes : nativeSizes 0 (history ++ [LayoutOp.add type stages]) = nativeSizes 0 history := by
    simp [nativeSizes_concat]
  constructor
  · simp only [added_concat_add, List.length_append, List.length_singleton]
    omega
  · simpa [or_imp, forall_and, hstages] using h.recognised
  · simp [builderAfter_concat, LayoutBuilder.step, LayoutBuilder.add, h.types]
  · simp [builderAfter_concat, LayoutBuilder.step, LayoutBuilder.add, h.stages, hflags]
  · -- a longer list has the same prefixes
    rw [builderAfter_concat, hsizes, added_concat_add, described_concat]
    refine h.cached.trans (List.flatMap_congr fun n hn => ?_)
    rw [List.take_append_of_le_length (by simpa using h.seen n hn)]
  · exact hsizes ▸ h.sorted
  · rw [hsizes, added_concat_add, List.length_append]
    intro n hn
    have := h.seen n hn
    omega

theorem step_native (h : Faithful history) : Faithful (history ++ [LayoutOp.native]) := by
  have hstep : builderAfter (history ++ [LayoutOp.native]) = { builderAfter history with
      bindings := (builderAfter history).bindings ++ described (added history) } := by
    rw [builderAfter_concat, LayoutBuilder.step, h.native]
    rfl
  have hsizes : nativeSizes 0 (history ++ [LayoutOp.native]) =
      nativeSizes 0 history ++ [(added history).length] := by simp [nativeSizes_concat]
  constructor
  · simpa using h.fits
  · simpa using h.recognised
  · simpa [hstep] using h.types
  · simpa [hstep] using h.stages
  · simp [hstep, hsizes, h.cached, List.take_of_length_le]
  · rw [hsizes, List.pairwise_append]
    exact ⟨h.sorted, List.pairwise_singleton _ _, by simpa using h.seen⟩
  · simpa [hsizes, or_imp, forall_and] using h.seen

/-- Safe calls keep a builder faithful. -/
theorem step (h : Faithful history) {op : LayoutOp} (hsafe : CallSafe history op) :
    Faithful (history ++ [op]) := by
  cases op with
  | add type stages => exact h.add type hsafe.1 hsafe.2
  | native => exact h.step_native

theorem add_right_iff (h : Faithful history) (type : DescriptorType) (stages : ShaderTypeField) :
    CallRight history (.add type stages) ↔ CallSafe history (.add type stages) := by
  have hindex : ReturnsRight history (.add type stages) ↔ (added history).length < 2 ^ 32 := by
    simp [ReturnsRight, LayoutBuilder.add, h.types]
  rw [CallRight, hindex, CallSafe]
  refine and_congr_right fun hlen => ⟨fun hdescribes => ?_, fun hstages =>
    (h.add type hlen hstages).describesAdded⟩
  -- the new binding is there, so a flag was pushed for it
  obtain ⟨b, hget, -, -, -, hincludes⟩ :=
    hdescribes.bindings (added history).length type stages (by simp)
  rw [recognised_iff]
  cases hflags : stageFlags stages with
  | none =>
      have hparallel := hdescribes.parallel
      simp [builderAfter_concat, LayoutBuilder.step, LayoutBuilder.add, h.types, h.stages,
        hflags] at hparallel
  | some flags =>
      simp [builderAfter_concat, LayoutBuilder.step, LayoutBuilder.add, LayoutBuilder.get, h.types,
        h.stages, hflags] at hget
      exact ⟨flags, rfl, by simpa [← hget] using hincludes⟩

/-- `native()` hands out the right bindings if their number fits and they stand at the start
of the vector. -/
theorem returnsRight_native_iff (h : Faithful history) :
    ReturnsRight history .native ↔ (added history).length < 2 ^ 32 ∧
      ((builderAfter history).bindings ++ described (added history)).take (added history).length =
        described (added history) := by
  let info : LayoutCreateInfo := ⟨BitVec.ofNat 32 (added history).length,
    (builderAfter history).bindings ++ described (added history)⟩
  have hinfo : (builderAfter history).native.map Prod.snd = some info := by rw [h.native]; rfl
  have hcount : info.bindingCount.toNat = (added history).length ↔
      (added history).length < 2 ^ 32 := by simp [info]
  constructor
  · rintro ⟨info', hinfo', hcount', hlen, hentries⟩
    obtain rfl : info = info' := Option.some.inj (hinfo.symm.trans hinfo')
    refine ⟨hcount.mp hcount', ?_⟩
    rw [LayoutCreateInfo.exposed, hcount'] at hlen hentries
    apply List.ext_getElem?
    intro i
    by_cases hi : i < (added history).length
    · rw [hentries i hi, h.get]
    · rw [List.getElem?_eq_none (hlen.trans_le (Nat.not_lt.mp hi)),
        List.getElem?_eq_none (by simpa using hi)]
  · rintro ⟨hlt, htake⟩
    have hexposed : info.exposed = described (added history) := by
      rw [LayoutCreateInfo.exposed, hcount.mpr hlt, htake]
    refine ⟨info, hinfo, hcount.mpr hlt, by simp [hexposed], fun i _ => ?_⟩
    rw [hexposed, h.get]

theorem native_right_iff (h : Faithful history) :
    CallRight history .native ↔ CallSafe history .native := by
  rw [CallRight, h.returnsRight_native_iff, h.take_bindings_iff, CallSafe]
  exact and_iff_left h.step_native.describesAdded

end Faithful

/-- **Layouts**: every call returns what it should and leaves a builder that describes what
was added exactly when every field added is `All()` as that function builds it or has
one stage, every `native()` comes when the earlier ones saw no binding or as many as
there are now, and there are fewer than `2 ^ 32` bindings before each call. -/
theorem layout_describes_added_iff (ops : List LayoutOp) :
    Always CallRight ops ↔ Always CallSafe ops := by
  refine always_iff Faithful.nil (fun history op h _ => ?_) (fun history op h _ => h.step)
    (always_true ops)
  cases op with
  | add type stages => exact h.add_right_iff type stages
  | native => exact h.native_right_iff

/-- A field with the stages in the other order, an empty one, and a binding added between two
calls of `native()`: the fragment stage is lost, the vectors differ in length, and the
first binding is handed out twice. -/
theorem layout_misdescribes :
    ((builderAfter [.add .uniformBuffer ⟨[.fragment, .vertex]⟩]).get 0 =
        some ⟨0, 1, .uniformBuffer, 0x1⟩ ∧
      ¬ Always CallRight [.add .uniformBuffer ⟨[.fragment, .vertex]⟩]) ∧
    ¬ Always CallRight [.add .uniformBuffer ⟨[]⟩] ∧
    ¬ Always CallRight [.add .uniformBuffer ⟨[.vertex]⟩, .native,
      .add .combinedImageSampler ⟨[.fragment]⟩, .native] := by
  refine ⟨⟨by decide, fun h => ?_⟩, fun h => ?_, fun h => ?_⟩
  · obtain ⟨b, hget, -, -, -, hincludes⟩ := (h [] _ [] rfl).2.bindings 0 _ _ rfl
    obtain rfl := Option.some.inj hget
    exact hincludes .fragment (by decide) (by decide)
  · exact absurd (h [] _ [] rfl).2.parallel (by decide)
  · obtain ⟨info, hinfo, -, -, hentries⟩ := (h [.add .uniformBuffer ⟨[.vertex]⟩, .native,
      .add .combinedImageSampler ⟨[.fragment]⟩] .native [] rfl).1
    obtain rfl := Option.some.inj hinfo
    exact absurd (hentries 1 (by decide)) (by decide)

/-! ## the layout of a renderer -/

/-- `RendererBuilderVulkan::vk_get_descriptor_set_layout`, with the stages. -/
def vkGetDescriptorSetLayout (b : ResourceBuilder) : Option LayoutCreateInfo :=
  let buffers := b.bufferResources.foldl
    (fun l _ => (LayoutBuilder.add l .uniformBuffer allStages).1) LayoutBuilder.empty
  let all := b.textureResources.foldl
    (fun l _ => (LayoutBuilder.add l .combinedImageSampler allStages).1) buffers
  all.native.map Prod.snd

/-- A builder that all bindings were added to with `All()`. -/
def withAllStages (l : Vk.LayoutBuilder) : LayoutBuilder :=
  ⟨l.bindingTypes, l.bindingTypes.map fun _ => allGraphics, []⟩

theorem withAllStages_add (l : Vk.LayoutBuilder) (type : DescriptorType) :
    withAllStages (l.add type) = ((withAllStages l).add type allStages).1 := by
  have hflags : stageFlags allStages = some allGraphics := stageFlags_allStages rfl
  simp [withAllStages, Vk.LayoutBuilder.add, LayoutBuilder.add, hflags]

theorem native_withAllStages (l : Vk.LayoutBuilder) :
    (withAllStages l).native.map (fun result => result.2.exposed.map fun b =>
      (⟨b.binding.toNat, b.descriptorType⟩ : Vk.LayoutBinding)) = some l.native := by
  have hget : (withAllStages l).get = ((l.bindingTypes.mapIdx fun i type =>
      (⟨BitVec.ofNat 32 i, 1, type, allGraphics⟩ : LayoutBinding))[·]?) := by
    funext i
    simp only [LayoutBuilder.get, withAllStages, List.getElem?_map, List.getElem?_mapIdx]
    cases l.bindingTypes[i]? <;> rfl
  have hsize : (withAllStages l).size = some (l.bindingTypes.mapIdx fun i type =>
      (⟨BitVec.ofNat 32 i, 1, type, allGraphics⟩ : LayoutBinding)).length := by
    simp [LayoutBuilder.size, withAllStages]
  rw [LayoutBuilder.native, hsize, Option.map_some, hget, filterMap_getElem?_range]
  simp [withAllStages, LayoutCreateInfo.exposed, Vk.LayoutBuilder.native,
    List.mapIdx_eq_zipIdx_map, Function.comp_def]

/-- Without the stages it is the layout of `Topaz.Descriptors`. -/
theorem native_vkGetDescriptorSetLayout (b : ResourceBuilder) :
    (vkGetDescriptorSetLayout b).map (fun info => info.exposed.map fun b =>
      (⟨b.binding.toNat, b.descriptorType⟩ : Vk.LayoutBinding)) =
      some (Vk.vkGetDescriptorSetLayout b) := by
  have hempty : LayoutBuilder.empty = withAllStages ⟨[]⟩ := rfl
  rw [vkGetDescriptorSetLayout, Vk.vkGetDescriptorSetLayout, Option.map_map, hempty,
    List.foldl_hom withAllStages (fun l _ => (withAllStages_add l _).symm),
    List.foldl_hom withAllStages (fun l _ => (withAllStages_add l _).symm)]
  exact native_withAllStages _

end DescriptorSetLayout
end Vk
end Topaz
