import Topaz.Input

/-!
# Topaz.Resource

Resources and their handles.  A renderer builder keeps buffers and textures in two
lists and numbers them in the order they were added, in both backends with the
same code; the renderer built from it clones all buffers first and all textures
after them, and looks handles up in that order.
-/

namespace Topaz

inductive ResourceType where
  | buffer
  | texture
deriving DecidableEq, Repr

/-- What a renderer reads from a resource; a clone has the same. -/
structure Resource where
  type : ResourceType
  dataAccess : RendererInputDataAccess
  bytes : List UInt8
deriving DecidableEq, Repr

structure ResourceHandle where
  value : Nat
deriving DecidableEq, Repr

/-! ## the builder -/

/-- The resources of a renderer builder. -/
structure ResourceBuilder where
  bufferResources : List Resource
  textureResources : List Resource

namespace ResourceBuilder

def empty : ResourceBuilder := ⟨[], []⟩

/-- `add_resource`: the handle is the number of resources so far. -/
def addResource (b : ResourceBuilder) (resource : Resource) : ResourceBuilder × ResourceHandle :=
  let totalResourceSize := b.bufferResources.length + b.textureResources.length
  match resource.type with
  | .buffer =>
      ({ b with bufferResources := b.bufferResources ++ [resource] }, ⟨totalResourceSize⟩)
  | .texture =>
      ({ b with textureResources := b.textureResources ++ [resource] }, ⟨totalResourceSize⟩)

/-- A sequence of `add_resource` calls, with the handles they return. -/
def addResources (b : ResourceBuilder) : List Resource → ResourceBuilder × List ResourceHandle
  | [] => (b, [])
  | resource :: resources =>
      let (b', handle) := b.addResource resource
      let (b'', handles) := b'.addResources resources
      (b'', handle :: handles)

end ResourceBuilder

/-- The resources of type `t` among those added. -/
def resourcesOf (t : ResourceType) (added : List Resource) : List Resource :=
  added.filter fun resource => resource.type = t

theorem length_resourcesOf_add (added : List Resource) :
    (resourcesOf .buffer added).length + (resourcesOf .texture added).length = added.length := by
  induction added with
  | nil => rfl
  | cons resource added ih =>
      unfold resourcesOf at ih ⊢
      cases htype : resource.type <;> simp [htype] <;> omega

/-- The builder sorts the resources by type and counts up. -/
theorem addResources_eq (b : ResourceBuilder) (added : List Resource) :
    b.addResources added =
      (⟨b.bufferResources ++ resourcesOf .buffer added,
        b.textureResources ++ resourcesOf .texture added⟩,
      (List.range' (b.bufferResources.length + b.textureResources.length) added.length).map
        ResourceHandle.mk) := by
  induction added generalizing b with
  | nil => simp [ResourceBuilder.addResources, resourcesOf]
  | cons resource added ih =>
      have hstart : b.bufferResources.length + 1 + b.textureResources.length =
          b.bufferResources.length + b.textureResources.length + 1 := by omega
      unfold ResourceBuilder.addResources ResourceBuilder.addResource
      cases htype : resource.type <;>
        simp [ih, resourcesOf, htype, List.range'_succ, hstart, Nat.add_assoc]

/-! ## the renderer -/

/-- The resources a renderer owns, and its pointers to those of either type (as
positions among the owned ones). -/
structure RendererResources where
  resources : List Resource
  bufferResources : List Nat
  textureResources : List Nat

namespace RendererResources

def empty : RendererResources := ⟨[], [], []⟩

/-- Clone a buffer and keep a pointer to the clone. -/
def pushBuffer (s : RendererResources) (resource : Resource) : RendererResources :=
  { s with
    resources := s.resources ++ [resource]
    bufferResources := s.bufferResources ++ [s.resources.length] }

/-- Clone a texture and keep a pointer to the clone. -/
def pushTexture (s : RendererResources) (resource : Resource) : RendererResources :=
  { s with
    resources := s.resources ++ [resource]
    textureResources := s.textureResources ++ [s.resources.length] }

/-- The loops of the constructors: all buffers, then all textures. -/
def build (b : ResourceBuilder) : RendererResources :=
  b.textureResources.foldl pushTexture (b.bufferResources.foldl pushBuffer empty)

def resourceCount (s : RendererResources) : Nat := s.resources.length

/-- `get_resource`; `nullptr` for a handle that is out of range. -/
def getResource (s : RendererResources) (handle : ResourceHandle) : Option Resource :=
  if s.resources.length ≤ handle.value then none else s.resources[handle.value]?

/-- The resource of `get_buffer_components()[j]`: `initialise_resources` makes one
component for each pointer to a buffer, in order. -/
def bufferComponent (s : RendererResources) (j : Nat) : Option Resource :=
  (s.bufferResources[j]?).bind fun p => s.resources[p]?

theorem getResource_eq (s : RendererResources) (handle : ResourceHandle) :
    s.getResource handle = s.resources[handle.value]? := ite_length_le_getElem? ..

theorem foldl_pushBuffer (buffers : List Resource) (s : RendererResources) :
    buffers.foldl pushBuffer s =
      { s with
        resources := s.resources ++ buffers
        bufferResources := s.bufferResources ++
          List.range' s.resources.length buffers.length } := by
  induction buffers generalizing s with
  | nil => simp
  | cons buffer buffers ih => simp [ih, pushBuffer, List.range'_succ]

theorem foldl_pushTexture (textures : List Resource) (s : RendererResources) :
    textures.foldl pushTexture s =
      { s with
        resources := s.resources ++ textures
        textureResources := s.textureResources ++
          List.range' s.resources.length textures.length } := by
  induction textures generalizing s with
  | nil => simp
  | cons texture textures ih => simp [ih, pushTexture, List.range'_succ]

/-- The owned resources are the buffers and then the textures. -/
theorem build_eq (b : ResourceBuilder) :
    build b = ⟨b.bufferResources ++ b.textureResources,
      List.range' 0 b.bufferResources.length,
      List.range' b.bufferResources.length b.textureResources.length⟩ := by
  simp [build, foldl_pushBuffer, foldl_pushTexture, empty]

end RendererResources

/-- The resources of `RendererOGL::RendererOGL`. -/
def Ogl.rendererResources (b : ResourceBuilder) : RendererResources := RendererResources.build b

/-- The resources of `RendererVulkan::RendererVulkan`. -/
def Vk.rendererResources (b : ResourceBuilder) : RendererResources := RendererResources.build b

/-! ## what handles mean -/

/-- The handles a builder returned for `added` mean, in the renderer with resources
`s`, what they were returned for. -/
structure HandlesFaithful (added : List Resource) (handles : List ResourceHandle)
    (s : RendererResources) : Prop where
  getResource : ∀ (i : Nat) (resource : Resource), added[i]? = some resource →
    ∃ handle, handles[i]? = some handle ∧ s.getResource handle = some resource
  distinct : handles.Nodup
  resourceCount : s.resourceCount = added.length

/-- The buffer components a Vulkan renderer has at the handles of buffers are the
ones of these buffers. -/
def ComponentsFaithful (added : List Resource) (handles : List ResourceHandle)
    (s : RendererResources) : Prop :=
  ∀ (i : Nat) (resource : Resource), added[i]? = some resource → resource.type = .buffer →
    ∃ handle, handles[i]? = some handle ∧ s.bufferComponent handle.value = some resource

/-- No texture was added before a buffer. -/
def BuffersFirst (added : List Resource) : Prop :=
  added.Pairwise fun r s => s.type = .buffer → r.type = .buffer

/-- Resources that were added buffers first are already in the renderer's order. -/
theorem resourcesOf_append_iff (added : List Resource) :
    resourcesOf .buffer added ++ resourcesOf .texture added = added ↔ BuffersFirst added := by
  unfold BuffersFirst
  constructor
  · intro h
    have hbuf : ∀ r ∈ resourcesOf .buffer added, r.type = .buffer := fun r hr =>
      of_decide_eq_true (List.mem_filter.mp hr).2
    have htex : ∀ r ∈ resourcesOf .texture added, r.type = .texture := fun r hr =>
      of_decide_eq_true (List.mem_filter.mp hr).2
    rw [← h]
    refine List.pairwise_append.mpr ⟨?_, ?_, fun r hr s _ _ => hbuf r hr⟩
    · exact List.pairwise_of_forall_mem_list fun r hr s _ _ => hbuf r hr
    · refine List.pairwise_of_forall_mem_list fun r _ s hs hsbuf => ?_
      rw [htex s hs] at hsbuf
      contradiction
  · intro h
    induction added with
    | nil => rfl
    | cons resource added ih =>
        obtain ⟨hhead, htail⟩ := List.pairwise_cons.mp h
        have hrest := ih htail
        cases htype : resource.type with
        | buffer => simpa [resourcesOf, htype] using hrest
        | texture =>
            -- after a texture there are only textures
            have hall : ∀ r ∈ added, r.type = .texture := by
              intro r hr
              cases hr' : r.type with
              | buffer => exact absurd ((hhead r hr hr').symm.trans htype) (by decide)
              | texture => rfl
            have hnone : resourcesOf .buffer added = [] :=
              List.filter_eq_nil_iff.mpr fun r hr => by simp [hall r hr]
            rw [hnone, List.nil_append] at hrest
            have hhead' : resourcesOf .buffer (resource :: added) = [] := by
              simpa [resourcesOf, htype] using hnone
            rw [hhead', List.nil_append]
            simpa [resourcesOf, htype] using hrest

section Built

variable (added : List Resource)

theorem handles_getElem? {i : Nat} (hi : i < added.length) :
    (ResourceBuilder.empty.addResources added).2[i]? = some ⟨i⟩ := by
  rw [addResources_eq]
  simp [ResourceBuilder.empty, hi]

theorem build_resources :
    (RendererResources.build (ResourceBuilder.empty.addResources added).1).resources =
      resourcesOf .buffer added ++ resourcesOf .texture added := by
  rw [addResources_eq, RendererResources.build_eq]
  simp [ResourceBuilder.empty]

theorem build_bufferResources :
    (RendererResources.build (ResourceBuilder.empty.addResources added).1).bufferResources =
      List.range' 0 (resourcesOf .buffer added).length := by
  rw [addResources_eq, RendererResources.build_eq]
  simp [ResourceBuilder.empty]

/-- Handles are positions in order of addition, resources in order of type. -/
theorem handlesFaithful_iff :
    HandlesFaithful added (ResourceBuilder.empty.addResources added).2
      (RendererResources.build (ResourceBuilder.empty.addResources added).1) ↔
    BuffersFirst added := by
  rw [← resourcesOf_append_iff]
  constructor
  · intro h
    refine List.ext_getElem? fun i => ?_
    by_cases hi : i < added.length
    · obtain ⟨handle, hhandle, hget⟩ := h.getResource i added[i] (List.getElem?_eq_getElem hi)
      rw [handles_getElem? added hi, Option.some.injEq] at hhandle
      rw [RendererResources.getResource_eq, build_resources, ← hhandle] at hget
      rw [hget, List.getElem?_eq_getElem hi]
    · have hlen := length_resourcesOf_add added
      rw [List.getElem?_eq_none (by rw [List.length_append]; omega),
        List.getElem?_eq_none (by omega)]
  · intro h
    refine ⟨fun i resource hi => ⟨⟨i⟩, ?_, ?_⟩, ?_, ?_⟩
    · exact handles_getElem? added (List.getElem?_eq_some_iff.mp hi).1
    · rw [RendererResources.getResource_eq, build_resources, h]
      exact hi
    · rw [addResources_eq]
      exact List.Pairwise.map _ (fun _ _ hne heq => hne (congrArg ResourceHandle.value heq))
        List.nodup_range'
    · rw [RendererResources.resourceCount, build_resources, List.length_append]
      exact length_resourcesOf_add added

theorem componentsFaithful_of_buffersFirst (h : BuffersFirst added) :
    ComponentsFaithful added (ResourceBuilder.empty.addResources added).2
      (RendererResources.build (ResourceBuilder.empty.addResources added).1) := by
  intro i resource hi htype
  have horder := (resourcesOf_append_iff added).mpr h
  have hlt : i < added.length := (List.getElem?_eq_some_iff.mp hi).1
  -- a buffer stands among the buffers
  have hbuf : i < (resourcesOf .buffer added).length := by
    by_contra hge
    rw [← horder, List.getElem?_append_right (by omega)] at hi
    have htex := (List.mem_filter.mp (List.mem_of_getElem? hi)).2
    rw [htype] at htex
    contradiction
  refine ⟨⟨i⟩, handles_getElem? added hlt, ?_⟩
  rw [RendererResources.bufferComponent, build_bufferResources, build_resources, horder]
  simpa [hbuf] using hi

end Built

/-- **Resource handles**: in both backends every handle means the resource it was
returned for exactly when no texture was added before a buffer. -/
theorem resource_handles_faithful_iff (added : List Resource) :
    (HandlesFaithful added (ResourceBuilder.empty.addResources added).2
        (Ogl.rendererResources (ResourceBuilder.empty.addResources added).1) ∧
      HandlesFaithful added (ResourceBuilder.empty.addResources added).2
        (Vk.rendererResources (ResourceBuilder.empty.addResources added).1) ∧
      ComponentsFaithful added (ResourceBuilder.empty.addResources added).2
        (Vk.rendererResources (ResourceBuilder.empty.addResources added).1)) ↔
    BuffersFirst added := by
  unfold Ogl.rendererResources Vk.rendererResources
  constructor
  · intro h
    exact (handlesFaithful_iff added).mp h.1
  · intro h
    exact ⟨(handlesFaithful_iff added).mpr h, (handlesFaithful_iff added).mpr h,
      componentsFaithful_of_buffersFirst added h⟩

/-- A texture and then a buffer. -/
def textureFirst : List Resource :=
  [⟨.texture, .staticFixed, [1]⟩, ⟨.buffer, .staticFixed, [2]⟩]

/-- The handle returned for the texture means the buffer. -/
theorem resource_handles_textureFirst :
    ¬ HandlesFaithful textureFirst (ResourceBuilder.empty.addResources textureFirst).2
      (Ogl.rendererResources (ResourceBuilder.empty.addResources textureFirst).1) ∧
    ¬ HandlesFaithful textureFirst (ResourceBuilder.empty.addResources textureFirst).2
      (Vk.rendererResources (ResourceBuilder.empty.addResources textureFirst).1) := by
  have hwrong : ∀ s : RendererResources,
      s.getResource ⟨0⟩ = some ⟨.buffer, .staticFixed, [2]⟩ →
      ¬ HandlesFaithful textureFirst (ResourceBuilder.empty.addResources textureFirst).2 s := by
    intro s hs h
    obtain ⟨handle, hhandle, hget⟩ := h.getResource 0 _ rfl
    have hvalue : handle = ⟨0⟩ := (Option.some.inj hhandle).symm
    rw [hvalue, hs] at hget
    exact absurd hget (by decide)
  exact ⟨hwrong _ (by decide), hwrong _ (by decide)⟩

end Topaz
