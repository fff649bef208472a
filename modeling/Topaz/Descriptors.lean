import Topaz.Resource
import Mathlib.Data.Nat.Cast.Basic

/-!
# Topaz.Descriptors

How the resources of a renderer reach its shaders.

Vulkan describes them four times over: in the layout of a descriptor set, in the
sizes of the descriptor pool, in one request for each view, and in the components the
requests refer to.  Each comes from a loop of its own, over the builder's lists, over
counts of filtered resources, or over the renderer's pointers.  OpenGL binds each
resource to a number when it renders.  All of them are meant to number the renderer's
resources, buffers first.

Counts and numbers are handed to both APIs as 32-bit integers; the model cuts them
where the source does.
-/

namespace Topaz

inductive DescriptorType where
  | uniformBuffer
  | combinedImageSampler
deriving DecidableEq, Repr

/-- A resource made visible to shaders under a number.  The resource is the one its
component points to, named by its position among the renderer's own. -/
structure ResourceBinding where
  type : DescriptorType
  number : Nat
  resource : Option Nat
deriving DecidableEq, Repr

namespace Vk

/-! ## the layout -/

/-- A `VkDescriptorSetLayoutBinding`. -/
structure LayoutBinding where
  binding : Nat
  descriptorType : DescriptorType
deriving DecidableEq, Repr

structure LayoutBuilder where
  bindingTypes : List DescriptorType

namespace LayoutBuilder

def add (l : LayoutBuilder) (type : DescriptorType) : LayoutBuilder :=
  ⟨l.bindingTypes ++ [type]⟩

/-- The bindings Vulkan is given: an array, and its size as a `std::uint32_t`. -/
def native (l : LayoutBuilder) : List LayoutBinding :=
  (l.bindingTypes.zipIdx.map fun (type, index) => ⟨index % 2 ^ 32, type⟩).take
    (l.bindingTypes.length % 2 ^ 32)

end LayoutBuilder

/-- `RendererBuilderVulkan::vk_get_descriptor_set_layout`. -/
def vkGetDescriptorSetLayout (b : ResourceBuilder) : List LayoutBinding :=
  let buffers := b.bufferResources.foldl (fun l _ => l.add .uniformBuffer) (LayoutBuilder.mk [])
  let all := b.textureResources.foldl (fun l _ => l.add .combinedImageSampler) buffers
  all.native

/-! ## the pool and the sets -/

structure DescriptorPoolSize where
  type : DescriptorType
  descriptorCount : Nat
deriving DecidableEq, Repr

structure DescriptorPoolBuilder where
  poolSizes : List DescriptorPoolSize
  layouts : List (List LayoutBinding)
  maxSets : Nat
deriving DecidableEq, Repr

namespace DescriptorPoolBuilder

def withSize (p : DescriptorPoolBuilder) (type : DescriptorType) (descriptorCount : Nat) :
    DescriptorPoolBuilder :=
  { p with poolSizes := p.poolSizes ++ [⟨type, descriptorCount % 2 ^ 32⟩] }

def withLayout (p : DescriptorPoolBuilder) (layout : List LayoutBinding) :
    DescriptorPoolBuilder :=
  { p with layouts := p.layouts ++ [layout] }

def withCapacity (p : DescriptorPoolBuilder) (maxSets : Nat) : DescriptorPoolBuilder :=
  { p with maxSets := maxSets % 2 ^ 32 }

end DescriptorPoolBuilder

/-- The writes a `DescriptorSetsCreationRequest` asks for. -/
abbrev DescriptorSetsCreationRequest := List ResourceBinding

namespace DescriptorSetsCreationRequest

/-- `add_buffer`: all buffers of a renderer are uniform buffers. -/
def addBuffer (request : DescriptorSetsCreationRequest) (resource : Option Nat)
    (bindingId : Nat) : DescriptorSetsCreationRequest :=
  request ++ [⟨.uniformBuffer, bindingId % 2 ^ 32, resource⟩]

def addImage (request : DescriptorSetsCreationRequest) (resource : Option Nat)
    (bindingId : Nat) : DescriptorSetsCreationRequest :=
  request ++ [⟨.combinedImageSampler, bindingId % 2 ^ 32, resource⟩]

end DescriptorSetsCreationRequest

/-- A descriptor pool as Vulkan knows it: the sizes it was created with, the layouts of the
sets allocated from it, and for each set that was requested the writes made to it. -/
structure DescriptorPool where
  poolSizes : List DescriptorPoolSize
  maxSets : Nat
  descriptorSetCount : Nat
  setLayouts : List (List LayoutBinding)
  writes : List (List ResourceBinding)
deriving DecidableEq, Repr

namespace DescriptorPool

/-- The number of sizes is passed as a `std::uint32_t`, and so are that of the sets, whose
layouts are the first of the builder's, and of the writes to each of them. -/
def create (builder : DescriptorPoolBuilder) (requests : List DescriptorSetsCreationRequest) :
    DescriptorPool where
  poolSizes := builder.poolSizes.take (builder.poolSizes.length % 2 ^ 32)
  maxSets := builder.maxSets
  descriptorSetCount := requests.length % 2 ^ 32
  setLayouts := builder.layouts.take (requests.length % 2 ^ 32)
  writes := requests.map fun request => request.take (request.length % 2 ^ 32)

/-- How many descriptors of a type the pool holds. -/
def provides (pool : DescriptorPool) (type : DescriptorType) : Nat :=
  ((pool.poolSizes.filter fun size => size.type = type).map
    DescriptorPoolSize.descriptorCount).sum

end DescriptorPool

/-- The request for one view: component `j` of the buffers goes to binding `j`,
component `j` of the textures behind all buffers. -/
def descriptorRequest (s : RendererResources) (numBufferResources numTextureResources : Nat) :
    DescriptorSetsCreationRequest :=
  let buffers := (List.range numBufferResources).foldl
    (fun request j => DescriptorSetsCreationRequest.addBuffer request s.bufferResources[j]? j) []
  (List.range numTextureResources).foldl
    (fun request j => DescriptorSetsCreationRequest.addImage request s.textureResources[j]?
      (j + numBufferResources)) buffers

/-- `RendererProcessorVulkan::initialise_resource_descriptors`, with the layout that the
pipeline manager has; without resources there is no pool. -/
def initialiseResourceDescriptors (layout : List LayoutBinding) (s : RendererResources)
    (viewCount : Nat) : Option DescriptorPool :=
  if s.resources.isEmpty then none
  else
    let numBufferResources := (resourcesOf .buffer s.resources).length
    let numTextureResources := (resourcesOf .texture s.resources).length
    let poolBuilder := (DescriptorPoolBuilder.mk [] [] 0).withCapacity
      (viewCount * s.resources.length)
    let poolBuilder := (List.range numBufferResources).foldl
      (fun p _ => p.withSize .uniformBuffer viewCount) poolBuilder
    let poolBuilder := (List.range numTextureResources).foldl
      (fun p _ => p.withSize .combinedImageSampler viewCount) poolBuilder
    let poolBuilder := (List.range viewCount).foldl (fun p _ => p.withLayout layout) poolBuilder
    some (DescriptorPool.create poolBuilder
      (List.replicate viewCount (descriptorRequest s numBufferResources numTextureResources)))

end Vk

/-- What `RendererOGL::render` binds: uniform buffer `i` to number `i`, texture `i`
behind all buffers.  Numbers are cast to 32 bits. -/
def Ogl.resourceBindings (s : RendererResources) : List ResourceBinding :=
  (List.range s.bufferResources.length).map (fun i =>
    ⟨.uniformBuffer, i % 2 ^ 32, s.bufferResources[i]?⟩) ++
  (List.range s.textureResources.length).map fun i =>
    ⟨.combinedImageSampler, (s.bufferResources.length + i) % 2 ^ 32, s.textureResources[i]?⟩

/-! ## agreement -/

/-- The type of binding `j` when there are `b` buffers. -/
def bindingType (b j : Nat) : DescriptorType :=
  if j < b then .uniformBuffer else .combinedImageSampler

/-- The renderer's `count` resources, of which the first `b` are buffers, each at its
own number. -/
def bindingsInOrder (b count : Nat) : List ResourceBinding :=
  (List.range count).map fun j => ⟨bindingType b j, j, some j⟩

/-- Layout, pool, sets, writes and OpenGL's bindings agree for the resources `added` to a
builder and `n` views. -/
structure DescriptorsAgree (added : List Resource) (n : Nat) : Prop where
  layout : Vk.vkGetDescriptorSetLayout (ResourceBuilder.empty.addResources added).1 =
    (List.range added.length).map fun j =>
      ⟨j, bindingType (resourcesOf .buffer added).length j⟩
  pool : ∃ pool, Vk.initialiseResourceDescriptors
      (Vk.vkGetDescriptorSetLayout (ResourceBuilder.empty.addResources added).1)
      (Vk.rendererResources (ResourceBuilder.empty.addResources added).1) n = some pool ∧
    pool.setLayouts = List.replicate n
      (Vk.vkGetDescriptorSetLayout (ResourceBuilder.empty.addResources added).1) ∧
    pool.writes = List.replicate n
      (bindingsInOrder (resourcesOf .buffer added).length added.length) ∧
    pool.provides .uniformBuffer = n * (resourcesOf .buffer added).length ∧
    pool.provides .combinedImageSampler = n * (resourcesOf .texture added).length ∧
    pool.descriptorSetCount = n ∧ n ≤ pool.maxSets
  ogl : Ogl.resourceBindings (Ogl.rendererResources (ResourceBuilder.empty.addResources added).1) =
    bindingsInOrder (resourcesOf .buffer added).length added.length

/-! ## what the loops build -/

namespace Vk

theorem foldl_add (type : DescriptorType) (resources : List Resource) (l : LayoutBuilder) :
    resources.foldl (fun l _ => l.add type) l =
      ⟨l.bindingTypes ++ List.replicate resources.length type⟩ := by
  induction resources generalizing l with
  | nil => simp
  | cons resource resources ih =>
      rw [List.foldl_cons, ih]
      simp [LayoutBuilder.add, List.replicate_succ]

theorem foldl_withSize (type : DescriptorType) (viewCount : Nat) (indices : List Nat)
    (p : DescriptorPoolBuilder) :
    indices.foldl (fun p _ => p.withSize type viewCount) p =
      { p with poolSizes := p.poolSizes ++
          List.replicate indices.length ⟨type, viewCount % 2 ^ 32⟩ } := by
  induction indices generalizing p with
  | nil => simp
  | cons j indices ih =>
      rw [List.foldl_cons, ih]
      simp [DescriptorPoolBuilder.withSize, List.replicate_succ]

theorem foldl_withLayout (layout : List LayoutBinding) (indices : List Nat)
    (p : DescriptorPoolBuilder) :
    indices.foldl (fun p _ => p.withLayout layout) p =
      { p with layouts := p.layouts ++ List.replicate indices.length layout } := by
  induction indices generalizing p with
  | nil => simp
  | cons j indices ih =>
      rw [List.foldl_cons, ih]
      simp [DescriptorPoolBuilder.withLayout, List.replicate_succ]

/-- A size of `count` descriptors for each of `b` buffers and `t` textures. -/
def sizesOf (b t count : Nat) : List DescriptorPoolSize :=
  List.replicate b ⟨.uniformBuffer, count⟩ ++ List.replicate t ⟨.combinedImageSampler, count⟩

theorem length_sizesOf (b t count : Nat) : (sizesOf b t count).length = b + t := by
  simp [sizesOf]

theorem DescriptorPool.provides_sizesOf {pool : DescriptorPool} {b t count : Nat}
    (h : pool.poolSizes = sizesOf b t count) :
    pool.provides .uniformBuffer = count * b ∧ pool.provides .combinedImageSampler = count * t := by
  simp [provides, h, sizesOf, Nat.mul_comm]

end Vk

/-- The types of the bindings, buffers first. -/
theorem map_bindingType (b t : Nat) :
    (List.range (b + t)).map (bindingType b) =
      List.replicate b DescriptorType.uniformBuffer ++
        List.replicate t DescriptorType.combinedImageSampler := by
  rw [List.range_add, List.map_append, List.map_map]
  congr 1
  · refine List.eq_replicate_iff.mpr ⟨by simp, fun type htype => ?_⟩
    obtain ⟨j, hj, rfl⟩ := List.mem_map.mp htype
    exact if_pos (List.mem_range.mp hj)
  · refine List.eq_replicate_iff.mpr ⟨by simp, fun type htype => ?_⟩
    obtain ⟨j, _, rfl⟩ := List.mem_map.mp htype
    exact if_neg (Nat.not_lt.mpr (Nat.le_add_right b j))

/-- The numbered resources are the buffers and, behind them, the textures. -/
theorem bindingsInOrder_add (b t : Nat) :
    bindingsInOrder b (b + t) =
      ((List.range b).map fun j => ⟨.uniformBuffer, j, some j⟩) ++
      (List.range t).map fun j => ⟨.combinedImageSampler, b + j, some (b + j)⟩ := by
  rw [bindingsInOrder, List.range_add, List.map_append, List.map_map]
  congr 1
  · refine List.map_congr_left fun j hj => ?_
    rw [bindingType, if_pos (List.mem_range.mp hj)]
  · refine List.map_congr_left fun j _ => ?_
    rw [Function.comp_apply, bindingType, if_neg (Nat.not_lt.mpr (Nat.le_add_right b j))]

/-- The resources of a renderer and its pointers to them, as `RendererResources.build`
leaves them. -/
structure Sorted (b t : Nat) (s : RendererResources) : Prop where
  buffers : (resourcesOf .buffer s.resources).length = b
  textures : (resourcesOf .texture s.resources).length = t
  resources : s.resources.length = b + t
  bufferResources : s.bufferResources = List.range b
  textureResources : s.textureResources = (List.range t).map (b + ·)

theorem sorted_build (added : List Resource) :
    Sorted (resourcesOf .buffer added).length (resourcesOf .texture added).length
      (RendererResources.build (ResourceBuilder.empty.addResources added).1) := by
  have hown : ∀ t, resourcesOf t (resourcesOf t added) = resourcesOf t added := fun t =>
    List.filter_filter.trans (by simp [resourcesOf])
  have hother : ∀ t t', t ≠ t' → resourcesOf t (resourcesOf t' added) = [] := by
    intro t t' hne
    refine List.filter_eq_nil_iff.mpr fun r hr => ?_
    have htype := of_decide_eq_true (List.mem_filter.mp hr).2
    simpa [htype] using hne.symm
  have happend : ∀ t xs ys, resourcesOf t (xs ++ ys) = resourcesOf t xs ++ resourcesOf t ys :=
    fun t xs ys => List.filter_append xs ys
  rw [addResources_eq, RendererResources.build_eq]
  simp only [ResourceBuilder.empty, List.nil_append]
  constructor
  · rw [happend, hown, hother _ _ (by decide), List.append_nil]
  · rw [happend, hown, hother _ _ (by decide), List.nil_append]
  · exact List.length_append
  · exact List.range_eq_range'.symm
  · exact List.range'_eq_map_range

namespace Sorted

variable {b t : Nat} {s : RendererResources} (h : Sorted b t s)
include h

theorem bufferResources_getElem? {j : Nat} (hj : j < b) : s.bufferResources[j]? = some j := by
  rw [h.bufferResources, List.getElem?_range hj]

theorem textureResources_getElem? {j : Nat} (hj : j < t) :
    s.textureResources[j]? = some (b + j) := by
  rw [h.textureResources, List.getElem?_map, List.getElem?_range hj, Option.map_some]

/-- Every request names the resources in order. -/
theorem descriptorRequest_eq (hlen : b + t < 2 ^ 32) :
    Vk.descriptorRequest s b t = bindingsInOrder b (b + t) := by
  have hpush : ∀ (f : Nat → ResourceBinding) (indices : List Nat) (init : List ResourceBinding),
      indices.foldl (fun request j => request ++ [f j]) init = init ++ indices.map f := by
    intro f indices init
    induction indices generalizing init <;> simp_all
  unfold Vk.descriptorRequest Vk.DescriptorSetsCreationRequest.addBuffer
    Vk.DescriptorSetsCreationRequest.addImage
  rw [hpush, hpush, List.nil_append, bindingsInOrder_add]
  congr 1
  · refine List.map_congr_left fun j hj => ?_
    have hlt : j < b := List.mem_range.mp hj
    rw [h.bufferResources_getElem? hlt, Nat.mod_eq_of_lt (by omega)]
  · refine List.map_congr_left fun j hj => ?_
    have hlt : j < t := List.mem_range.mp hj
    rw [h.textureResources_getElem? hlt, Nat.mod_eq_of_lt (by omega), Nat.add_comm j b]

/-- OpenGL binds the resources in order. -/
theorem resourceBindings_eq (hlen : b + t < 2 ^ 32) :
    Ogl.resourceBindings s = bindingsInOrder b (b + t) := by
  have hb : s.bufferResources.length = b := by rw [h.bufferResources, List.length_range]
  have ht : s.textureResources.length = t := by
    rw [h.textureResources, List.length_map, List.length_range]
  rw [Ogl.resourceBindings, hb, ht, bindingsInOrder_add]
  congr 1
  · refine List.map_congr_left fun j hj => ?_
    have hlt : j < b := List.mem_range.mp hj
    rw [h.bufferResources_getElem? hlt, Nat.mod_eq_of_lt (by omega)]
  · refine List.map_congr_left fun j hj => ?_
    have hlt : j < t := List.mem_range.mp hj
    rw [h.textureResources_getElem? hlt, Nat.mod_eq_of_lt (by omega)]

/-- The pool of a renderer with resources. -/
theorem initialiseResourceDescriptors_eq (hpos : 0 < b + t) (layout : List Vk.LayoutBinding)
    (n : Nat) : Vk.initialiseResourceDescriptors layout s n = some
      { poolSizes := (Vk.sizesOf b t (n % 2 ^ 32)).take ((b + t) % 2 ^ 32)
        maxSets := n * (b + t) % 2 ^ 32
        descriptorSetCount := n % 2 ^ 32
        setLayouts := (List.replicate n layout).take (n % 2 ^ 32)
        writes := List.replicate n ((Vk.descriptorRequest s b t).take
          ((Vk.descriptorRequest s b t).length % 2 ^ 32)) } := by
  have hne : s.resources.isEmpty = false := by
    rw [List.isEmpty_eq_false_iff]
    exact List.ne_nil_of_length_pos (h.resources ▸ hpos)
  rw [Vk.initialiseResourceDescriptors, hne, h.buffers, h.textures]
  simp [Vk.foldl_withSize, Vk.foldl_withLayout, Vk.DescriptorPool.create,
    Vk.DescriptorPoolBuilder.withCapacity, h.resources, Vk.sizesOf]

end Sorted

/-- The layout has one binding for each resource, with the type of the resource. -/
theorem Vk.vkGetDescriptorSetLayout_eq (added : List Resource) :
    Vk.vkGetDescriptorSetLayout (ResourceBuilder.empty.addResources added).1 =
      ((List.range added.length).map fun j =>
        ⟨j % 2 ^ 32, bindingType (resourcesOf .buffer added).length j⟩).take
          (added.length % 2 ^ 32) := by
  have hlen := length_resourcesOf_add added
  rw [addResources_eq, Vk.vkGetDescriptorSetLayout]
  simp only [Vk.foldl_add, ResourceBuilder.empty, List.nil_append, Vk.LayoutBuilder.native]
  rw [← map_bindingType, hlen, List.length_map, List.length_range]
  congr 1
  apply List.ext_getElem?
  intro j
  simp only [List.getElem?_map, List.getElem?_zipIdx]
  by_cases hj : j < added.length
  · simp [List.getElem?_range hj]
  · simp [Nat.le_of_not_lt hj]

/-- Numbers that fit in 32 bits reach both APIs as they are. -/
theorem descriptorsAgree_of_fits {added : List Resource} (hadded : added ≠ []) {n : Nat}
    (hfits : added.length < 2 ^ 32) (hroom : n ≤ n * added.length % 2 ^ 32) :
    DescriptorsAgree added n := by
  have hlen := length_resourcesOf_add added
  have hpos : 0 < added.length := List.length_pos_iff.mpr hadded
  have hn : n < 2 ^ 32 := Nat.lt_of_le_of_lt hroom (Nat.mod_lt _ (by decide))
  have hsorted := sorted_build added
  have hpool := hsorted.initialiseResourceDescriptors_eq (by omega)
    (Vk.vkGetDescriptorSetLayout (ResourceBuilder.empty.addResources added).1) n
  have hrequest : (bindingsInOrder (resourcesOf .buffer added).length added.length).length =
      added.length := by simp [bindingsInOrder]
  rw [hsorted.descriptorRequest_eq (by omega), hlen, hrequest, Nat.mod_eq_of_lt hfits,
    Nat.mod_eq_of_lt hn, List.take_of_length_le (by rw [Vk.length_sizesOf]; omega),
    List.take_of_length_le (by rw [List.length_replicate]),
    List.take_of_length_le (by omega)] at hpool
  refine ⟨?_, ⟨_, hpool, rfl, rfl, ?_, ?_, rfl, hroom⟩, ?_⟩
  · rw [Vk.vkGetDescriptorSetLayout_eq, Nat.mod_eq_of_lt hfits, List.take_of_length_le (by simp)]
    refine List.map_congr_left fun j hj => ?_
    have hlt : j < added.length := List.mem_range.mp hj
    rw [Nat.mod_eq_of_lt (by omega)]
  · exact (Vk.DescriptorPool.provides_sizesOf rfl).1
  · exact (Vk.DescriptorPool.provides_sizesOf rfl).2
  · have hogl := hsorted.resourceBindings_eq (by omega)
    rwa [hlen] at hogl

/-- The capacity is computed in 64 bits and passed on in 32. -/
theorem maxSets_eq {added : List Resource} (hadded : added ≠ []) {n : Nat}
    {layout : List Vk.LayoutBinding} {pool : Vk.DescriptorPool}
    (h : Vk.initialiseResourceDescriptors layout
      (Vk.rendererResources (ResourceBuilder.empty.addResources added).1) n = some pool) :
    pool.maxSets = n * added.length % 2 ^ 32 := by
  have hlen := length_resourcesOf_add added
  have hpos : 0 < added.length := List.length_pos_iff.mpr hadded
  have heq := (sorted_build added).initialiseResourceDescriptors_eq (by omega) layout n
  rw [hlen] at heq
  rw [← Option.some.inj (heq.symm.trans h)]

end Topaz
