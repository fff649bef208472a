import Topaz.Descriptors
import Topaz.Buffer
import Topaz.Machine
import Topaz.PartialMap

/-!
# Topaz.Sharing.System

Which resource objects share their data with which shaders.

A renderer clones the resources it is built with.  The clone of a dynamic buffer is then
handed the mapped memory of a native buffer, and keeps its data there from that time on.
Copies are made with the copy constructor, and that of `DynamicBufferResource` copies the
pointer: a copy of a resource that belongs to a renderer writes to what the shaders of that
renderer read, and a renderer built with it starts from what is there at the time.

`ResourceSystem` is the code, with its pointers and buffers.  `SharedResources` says the same
without them: every object has data of its own, or that of a component of a renderer.
-/

namespace Topaz

/-! ## objects, buffers and renderers -/

/-- The address of a resource object. -/
abbrev ResourceAddress := Nat

/-- A buffer of the driver, by its name.  Names may be used again. -/
abbrev NativeBuffer := Nat

inductive Backend where
  | ogl
  | vulkan
deriving DecidableEq, Repr

/-- A `BufferResource`, `DynamicBufferResource` or `TextureResource`.  `resourceData` is the
buffer that a dynamic one has been handed the memory of. -/
structure ResourceObject where
  type : ResourceType
  dataAccess : RendererInputDataAccess
  initialData : List UInt8
  resourceData : Option NativeBuffer
deriving DecidableEq, Repr

def ResourceObject.create (resource : Resource) : ResourceObject :=
  ⟨resource.type, resource.dataAccess, resource.bytes, none⟩

/-- What the builder of a renderer is told. -/
def ResourceObject.resource (x : ResourceObject) : Resource :=
  ⟨x.type, x.dataAccess, x.initialData⟩

/-- A renderer with its clones, and the buffers of its buffer components. -/
structure BuiltRenderer where
  resources : RendererResources
  owned : List ResourceAddress
  natives : List NativeBuffer

structure ResourceSystem where
  objects : ResourceAddress → Option ResourceObject
  memory : NativeBuffer → Option (Buffer UInt8)
  renderers : Nat → Option BuiltRenderer

/-- `clones` are the addresses of the clones, buffers first, and `natives` the buffers that
the driver creates. -/
inductive ResourceEvent where
  | construct (object : ResourceAddress) (resource : Resource)
  | copy (object source : ResourceAddress)
  | assign (object source : ResourceAddress)
  | destroy (object : ResourceAddress)
  /-- through `get_resource_bytes_dynamic()` -/
  | write (object : ResourceAddress) (position : Nat) (bytes : List UInt8)
  | createRenderer (renderer : Nat) (added clones : List ResourceAddress)
      (natives : List NativeBuffer)
  | destroyRenderer (renderer : Nat)
deriving DecidableEq, Repr

/-- The objects of a type among those added, by what their types are. -/
def addressesOf (types : ResourceAddress → Option ResourceType) (t : ResourceType)
    (added : List ResourceAddress) : List ResourceAddress :=
  added.filter fun o => types o = some t

/-- The order in which a renderer clones what was added: all buffers, then all textures. -/
def cloneOrder (types : ResourceAddress → Option ResourceType) (added : List ResourceAddress) :
    List ResourceAddress :=
  addressesOf types .buffer added ++ addressesOf types .texture added

namespace ResourceSystem

def empty : ResourceSystem := ⟨fun _ => none, fun _ => none, fun _ => none⟩

variable (w : ResourceSystem)

def typeOf (o : ResourceAddress) : Option ResourceType := (w.objects o).map ResourceObject.type

/-- `get_resource_bytes`; `none` if the memory is not there any more. -/
def getResourceBytes (x : ResourceObject) : Option (List (Option UInt8)) :=
  match x.resourceData with
  | none => some (x.initialData.map some)
  | some b => (w.memory b).map fun buffer => buffer.read 0 x.initialData.length

/-- Write to a buffer, if it is there. -/
def writeMemory (b : NativeBuffer) (position : Nat) (bytes : List (Option UInt8)) :
    ResourceSystem :=
  { w with
    memory := Function.update w.memory b
      ((w.memory b).map fun buffer => buffer.memcpy position bytes) }

/-- Write to the span that `get_resource_bytes_dynamic` returns. -/
def write (o : ResourceAddress) (position : Nat) (bytes : List UInt8) : ResourceSystem :=
  match w.objects o with
  | none => w
  | some x =>
      match x.resourceData with
      | none =>
          let initialData := splice x.initialData position bytes.length bytes
          { w with objects := Function.update w.objects o (some { x with initialData }) }
      | some b => w.writeMemory b position (bytes.map some)

/-- `DynamicBufferResource::set_resource_data`: the bytes are taken from where they were. -/
def setResourceData (o : ResourceAddress) (b : NativeBuffer) : ResourceSystem :=
  match w.objects o with
  | none => w
  | some x =>
      let resData := (w.getResourceBytes x).getD []
      { w.writeMemory b 0 resData with
        objects := Function.update w.objects o (some { x with resourceData := some b }) }

/-- A new buffer. -/
def allocate (b : NativeBuffer) (contents : Buffer UInt8) : ResourceSystem :=
  { w with memory := Function.update w.memory b (some contents) }

/-- What a component's buffer is created with: OpenGL is given the data, Vulkan only its
size. -/
def initialContents (backend : Backend) (x : ResourceObject) : Buffer UInt8 :=
  let bytes := (w.getResourceBytes x).getD []
  match backend with
  | .ogl => ⟨bytes⟩
  | .vulkan => Buffer.create bytes.length

/-- The buffer of one component: in the constructor of `RendererOGL`, or in
`RendererBufferManagerVulkan::setup_buffers`. -/
def setupBuffer (backend : Backend) (o : ResourceAddress) (b : NativeBuffer) : ResourceSystem :=
  match w.objects o with
  | none => w
  | some x =>
      let created := w.allocate b (w.initialContents backend x)
      match x.dataAccess with
      | .staticFixed => created
      | .dynamicFixed => created.setResourceData o b

/-- The upload of a static component, one of Vulkan's scratch commands. -/
def uploadStatic (o : ResourceAddress) (b : NativeBuffer) : ResourceSystem :=
  match w.objects o with
  | none => w
  | some x =>
      match x.dataAccess with
      | .staticFixed => w.writeMemory b 0 ((w.getResourceBytes x).getD [])
      | .dynamicFixed => w

/-- The components of a renderer, pairs of a clone and its buffer. -/
def setupComponents (backend : Backend) (components : List (ResourceAddress × NativeBuffer)) :
    ResourceSystem :=
  let setup := components.foldl (fun w c => w.setupBuffer backend c.1 c.2) w
  match backend with
  | .ogl => setup
  | .vulkan => components.foldl (fun w c => w.uploadStatic c.1 c.2) setup

/-- `unique_clone` of each of `sources`. -/
def cloneAll (sources clones : List ResourceAddress) : ResourceSystem :=
  { w with objects := place w.objects clones (sources.map w.objects) }

/-- The constructor of a renderer, as far as it is about resources. -/
def createRenderer (backend : Backend) (r : Nat) (added clones : List ResourceAddress)
    (natives : List NativeBuffer) : ResourceSystem :=
  let builder := (ResourceBuilder.empty.addResources
    (added.filterMap fun o => (w.objects o).map ResourceObject.resource)).1
  let cloned := w.cloneAll (cloneOrder w.typeOf added) clones
  { cloned.setupComponents backend ((clones.take natives.length).zip natives) with
    renderers := Function.update w.renderers r
      (some ⟨RendererResources.build builder, clones, natives⟩) }

/-- A renderer is destroyed with its clones and its buffers. -/
def destroyRenderer (r : Nat) : ResourceSystem :=
  match w.renderers r with
  | none => w
  | some renderer =>
      { objects := fun o => if o ∈ renderer.owned then none else w.objects o
        memory := fun b => if b ∈ renderer.natives then none else w.memory b
        renderers := Function.update w.renderers r none }

/-- Objects are constructed where there is none, and the driver takes names that are not in
use; it accepts no empty buffers.  Writes stay in the span. -/
def Enabled : ResourceEvent → Prop
  | .construct o resource => w.objects o = none ∧ resource.bytes ≠ [] ∧
      (resource.dataAccess = .dynamicFixed → resource.type = .buffer)
  | .copy o source => w.objects o = none ∧ w.objects source ≠ none
  | .assign o source => ∃ x ∈ w.objects o, ∃ y ∈ w.objects source,
      x.type = y.type ∧ x.dataAccess = y.dataAccess
  | .destroy o => w.objects o ≠ none
  | .write o position bytes => ∃ x ∈ w.objects o,
      x.dataAccess = .dynamicFixed ∧ position + bytes.length ≤ x.initialData.length
  | .createRenderer r added clones natives =>
      w.renderers r = none ∧ added.length < 2 ^ 32 ∧ (∀ o ∈ added, w.objects o ≠ none) ∧
      clones.Nodup ∧ clones.length = added.length ∧ (∀ c ∈ clones, w.objects c = none) ∧
      natives.Nodup ∧ natives.length = (addressesOf w.typeOf .buffer added).length ∧
      ∀ b ∈ natives, w.memory b = none
  | .destroyRenderer r => w.renderers r ≠ none

instance : ∀ (w : ResourceSystem) (e : ResourceEvent), Decidable (w.Enabled e)
  | w, .construct o resource => inferInstanceAs (Decidable (w.objects o = none ∧
      resource.bytes ≠ [] ∧ (resource.dataAccess = .dynamicFixed → resource.type = .buffer)))
  | w, .copy o source =>
      inferInstanceAs (Decidable (w.objects o = none ∧ w.objects source ≠ none))
  | w, .assign o source => inferInstanceAs (Decidable (∃ x ∈ w.objects o,
      ∃ y ∈ w.objects source, x.type = y.type ∧ x.dataAccess = y.dataAccess))
  | w, .destroy o => inferInstanceAs (Decidable (w.objects o ≠ none))
  | w, .write o position bytes => inferInstanceAs (Decidable (∃ x ∈ w.objects o,
      x.dataAccess = .dynamicFixed ∧ position + bytes.length ≤ x.initialData.length))
  | w, .createRenderer r added clones natives => inferInstanceAs (Decidable (
      w.renderers r = none ∧ added.length < 2 ^ 32 ∧ (∀ o ∈ added, w.objects o ≠ none) ∧
      clones.Nodup ∧ clones.length = added.length ∧ (∀ c ∈ clones, w.objects c = none) ∧
      natives.Nodup ∧ natives.length = (addressesOf w.typeOf .buffer added).length ∧
      ∀ b ∈ natives, w.memory b = none))
  | w, .destroyRenderer r => inferInstanceAs (Decidable (w.renderers r ≠ none))

/-- Copies are memberwise, the pointer included. -/
def next (backend : Backend) : ResourceEvent → ResourceSystem
  | .construct o resource =>
      { w with objects := Function.update w.objects o (some (.create resource)) }
  | .copy o source | .assign o source =>
      { w with objects := Function.update w.objects o (w.objects source) }
  | .destroy o => { w with objects := Function.update w.objects o none }
  | .write o position bytes => w.write o position bytes
  | .createRenderer r added clones natives => w.createRenderer backend r added clones natives
  | .destroyRenderer r => w.destroyRenderer r

def machine (backend : Backend) : Machine ResourceSystem ResourceEvent :=
  ⟨Enabled, fun w => w.next backend⟩

instance (backend : Backend) (w : ResourceSystem) (e : ResourceEvent) :
    Decidable ((machine backend).Enabled w e) :=
  inferInstanceAs (Decidable (w.Enabled e))

/-! ## what is seen -/

/-- The data of an object. -/
def hostBytes (o : ResourceAddress) : Option (List (Option UInt8)) :=
  (w.objects o).bind w.getResourceBytes

end ResourceSystem

/-- What a renderer makes visible to its shaders; in Vulkan the set of every view is written
with it. -/
def Backend.bindings (s : RendererResources) : Backend → List ResourceBinding
  | .ogl => Ogl.resourceBindings s
  | .vulkan => Vk.descriptorRequest s (resourcesOf .buffer s.resources).length
      (resourcesOf .texture s.resources).length

/-- The buffer at a binding: that of the component of the resource that is bound there. -/
def BuiltRenderer.bufferAt (backend : Backend) (ρ : BuiltRenderer) (n : Nat) :
    Option NativeBuffer :=
  ((backend.bindings ρ.resources).find? fun binding =>
      binding.type = .uniformBuffer ∧ binding.number = n).bind fun binding =>
    binding.resource.bind fun k =>
      ((ρ.resources.bufferResources.zip ρ.natives).find? fun component => component.1 = k).map
        Prod.snd

/-- What the shaders of a renderer read from uniform buffer `n`. -/
def ResourceSystem.shaderBytes (backend : Backend) (w : ResourceSystem) (r n : Nat) :
    Option (List (Option UInt8)) :=
  (w.renderers r).bind fun ρ => (ρ.bufferAt backend n).bind fun b => (w.memory b).map Buffer.cells

/-! ## sharing -/

/-- Where the data of an object is: with the object, in a component of a renderer, or gone
with a renderer. -/
inductive Storage where
  | own (bytes : List UInt8)
  | component (renderer index : Nat)
  | lost
deriving DecidableEq, Repr

structure SharedObject where
  type : ResourceType
  dataAccess : RendererInputDataAccess
  storage : Storage
deriving DecidableEq, Repr

/-- The clone that becomes resource `j` of renderer `r`. -/
def SharedObject.clone (r j : Nat) (y : SharedObject) : SharedObject :=
  match y.dataAccess with
  | .staticFixed => y
  | .dynamicFixed => { y with storage := .component r j }

/-- What is left of an object's data without renderer `r`. -/
def SharedObject.release (r : Nat) (y : SharedObject) : SharedObject :=
  match y.storage with
  | .component r' _ => if r' = r then { y with storage := .lost } else y
  | _ => y

/-- A renderer with its clones, and the data of its buffer components. -/
structure SharedRenderer where
  owned : List ResourceAddress
  values : List (List UInt8)
deriving DecidableEq, Repr

structure SharedResources where
  objects : ResourceAddress → Option SharedObject
  renderers : Nat → Option SharedRenderer

namespace SharedResources

def empty : SharedResources := ⟨fun _ => none, fun _ => none⟩

variable (s : SharedResources)

def typeOf (o : ResourceAddress) : Option ResourceType := (s.objects o).map SharedObject.type

/-- The data of component `j` of a renderer. -/
def componentValue (r j : Nat) : Option (List UInt8) :=
  (s.renderers r).bind fun α => α.values[j]?

def value (y : SharedObject) : Option (List UInt8) :=
  match y.storage with
  | .own bytes => some bytes
  | .component r j => s.componentValue r j
  | .lost => none

/-- The data of an object. -/
def valueOf (o : ResourceAddress) : Option (List UInt8) := (s.objects o).bind s.value

/-- A write changes the data wherever it is. -/
def write (o : ResourceAddress) (position : Nat) (bytes : List UInt8) : SharedResources :=
  let change := fun data => splice data position bytes.length bytes
  match s.objects o with
  | none => s
  | some y =>
      match y.storage with
      | .own data =>
          { s with
            objects := Function.update s.objects o
              (some { y with storage := .own (change data) }) }
      | .component r j =>
          { s with
            renderers := Function.update s.renderers r
              ((s.renderers r).map fun α => { α with values := α.values.modify j change }) }
      | .lost => s

/-- A renderer starts from the data of what was added, and its dynamic clones share its
components. -/
def createRenderer (r : Nat) (added clones : List ResourceAddress) : SharedResources where
  objects := place s.objects clones
    ((cloneOrder s.typeOf added).mapIdx fun j o => (s.objects o).map (SharedObject.clone r j))
  renderers := Function.update s.renderers r (some ⟨clones,
    (addressesOf s.typeOf .buffer added).map fun o => (s.valueOf o).getD []⟩)

def destroyRenderer (r : Nat) : SharedResources :=
  match s.renderers r with
  | none => s
  | some renderer =>
      { objects := fun o =>
          if o ∈ renderer.owned then none else (s.objects o).map (SharedObject.release r)
        renderers := Function.update s.renderers r none }

def next : ResourceEvent → SharedResources
  | .construct o resource =>
      { s with
        objects := Function.update s.objects o
          (some ⟨resource.type, resource.dataAccess, .own resource.bytes⟩) }
  | .copy o source | .assign o source =>
      { s with objects := Function.update s.objects o (s.objects source) }
  | .destroy o => { s with objects := Function.update s.objects o none }
  | .write o position bytes => s.write o position bytes
  | .createRenderer r added clones _ => s.createRenderer r added clones
  | .destroyRenderer r => s.destroyRenderer r

/-- The data of an object has not gone with a renderer. -/
def Kept (o : ResourceAddress) : Prop := ∀ y ∈ s.objects o, y.storage ≠ .lost

instance (o : ResourceAddress) : Decidable (s.Kept o) :=
  inferInstanceAs (Decidable (∀ y ∈ s.objects o, y.storage ≠ .lost))

/-- Nothing is read or written that has gone with a renderer. -/
def Safe : ResourceEvent → Prop
  | .write o _ _ => s.Kept o
  | .createRenderer _ added _ _ => ∀ o ∈ added, s.Kept o
  | _ => True

instance : ∀ (s : SharedResources) (e : ResourceEvent), Decidable (s.Safe e)
  | s, .write o _ _ => inferInstanceAs (Decidable (s.Kept o))
  | s, .createRenderer _ added _ _ => inferInstanceAs (Decidable (∀ o ∈ added, s.Kept o))
  | _, .construct _ _ | _, .copy _ _ | _, .assign _ _ | _, .destroy _ | _, .destroyRenderer _ =>
      inferInstanceAs (Decidable True)

def SafeRun : SharedResources → List ResourceEvent → Prop
  | _, [] => True
  | s, e :: es => s.Safe e ∧ SafeRun (s.next e) es

instance decidableSafeRun : (s : SharedResources) → (es : List ResourceEvent) →
    Decidable (s.SafeRun es)
  | _, [] => inferInstanceAs (Decidable True)
  | s, e :: es => @instDecidableAnd _ _ inferInstance (decidableSafeRun (s.next e) es)

end SharedResources

end Topaz
