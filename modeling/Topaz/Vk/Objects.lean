import Topaz.Machine
import Topaz.Ownership
import Mathlib.Data.Finset.Basic
import Mathlib.Data.Finset.Lattice.Lemmas

/-!
# Topaz.Vk.Objects

The objects of the Vulkan backend and the native handles they own.

Every class keeps a native handle and a pointer to the `LogicalDevice` it was made with.
Objects are moved by exchanging all their members, with an object that has no handle if it
is constructed by the move, and a destructor destroys the handle that it finds, through the
device that the pointer leads to.  Nothing in a `LogicalDevice` knows who points to it, so
the pointers are good as long as no device is moved or destroyed under them (`Safe`), and
then every handle is destroyed once and through its own device (`Inv.step`).
-/

namespace Topaz
namespace Vk

/-- A native handle; it belongs to the native device that made it. -/
structure NativeHandle where
  device : Nat
  id : Nat
deriving DecidableEq, Repr

/-- The classes that own a native handle. -/
inductive ObjectClass where
  | buffer
  | image
  | imageView
  | sampler
  | fence
  | semaphore
  | commandPool
  | descriptorPool
  | descriptorSetLayout
  | renderPass
  | framebuffer
  | graphicsPipeline
  | pipelineLayout
  | shaderModule
  | swapchain
deriving DecidableEq, Repr

/-- The two members that all of them have: a pointer to a `LogicalDevice` and a handle. -/
structure OwnedNative where
  device : Option Nat
  native : Option NativeHandle
deriving DecidableEq, Repr

/-- An object.  A swapchain has image views too, which are objects of their own. -/
structure Object where
  cls : ObjectClass
  own : OwnedNative
  imageViews : List OwnedNative
deriving DecidableEq, Repr

/-- A `LogicalDevice`: its native device, whose allocator goes with it. -/
structure LogicalDevice where
  dev : Option Nat
deriving DecidableEq, Repr

/-- Objects at their addresses, and what the driver keeps. -/
structure ObjectSystem where
  devices : Nat → Option LogicalDevice
  objects : Nat → Option Object
  live : Finset NativeHandle
  liveDevices : Finset Nat
  /-- a call has been made that Vulkan does not allow, or through a dangling pointer -/
  invalid : Bool

/-- What can happen to objects. -/
inductive ObjectEvent where
  | constructDevice (p dev : Nat)
  | nullDevice (p : Nat)
  | moveConstructDevice (p move : Nat)
  | moveAssignDevice (p rhs : Nat)
  | destroyDevice (p : Nat)
  | construct (a : Nat) (cls : ObjectClass) (device id : Nat) (viewIds : List Nat)
  | constructNull (a : Nat) (cls : ObjectClass)
  | moveConstruct (a move : Nat)
  | moveAssign (a rhs : Nat)
  | destroy (a : Nat)
deriving DecidableEq, Repr

/-- No handle, and no device. -/
def OwnedNative.null : OwnedNative := ⟨none, none⟩

/-- An object of which another one is going to be moved. -/
def Object.null (cls : ObjectClass) : Object := ⟨cls, .null, []⟩

/-- All members with a handle, in the order in which they are destroyed. -/
def Object.parts (o : Object) : List (ObjectClass × OwnedNative) :=
  (o.cls, o.own) :: o.imageViews.map fun view => (.imageView, view)

/-- The handles of members. -/
def partNatives (parts : List (ObjectClass × OwnedNative)) : List NativeHandle :=
  parts.filterMap fun part => part.2.native

/-- The handles an object owns. -/
def Object.natives (o : Object) : List NativeHandle := partNatives o.parts

/-- The native device a `LogicalDevice` owns. -/
def LogicalDevice.natives (d : LogicalDevice) : List Nat := d.dev.toList

namespace ObjectSystem

/-- Before anything is made. -/
def empty : ObjectSystem := ⟨fun _ => none, fun _ => none, ∅, ∅, false⟩

def fail (s : ObjectSystem) : ObjectSystem := { s with invalid := true }

/-- `vkDestroy…(device->native(), handle)`. -/
def destroyNative (s : ObjectSystem) (o : OwnedNative) : ObjectSystem :=
  match (o.device.bind s.devices).bind LogicalDevice.dev with
  | none => s.fail
  | some dev =>
    match o.native with
    | none => s
    | some h => if h ∈ s.live ∧ h.device = dev then { s with live := s.live.erase h } else s.fail

/-- Whether a destructor destroys its handle: of a descriptor set layout, if there is a
device, and of all others if there is a handle. -/
def destroys (part : ObjectClass × OwnedNative) : Bool :=
  match part.1 with
  | .descriptorSetLayout => part.2.device.isSome
  | _ => part.2.native.isSome

def destroyPart (s : ObjectSystem) (part : ObjectClass × OwnedNative) : ObjectSystem :=
  if destroys part then s.destroyNative part.2 else s

/-- The destructor of an object, and after it those of its members. -/
def destroyObject (s : ObjectSystem) (o : Object) : ObjectSystem := o.parts.foldl destroyPart s

/-- `~LogicalDevice`.  Nothing of a device may be left when it is destroyed. -/
def destroyLogicalDevice (s : ObjectSystem) (d : LogicalDevice) : ObjectSystem :=
  match d.dev with
  | none => s
  | some dev =>
    if dev ∈ s.liveDevices ∧ ∀ h ∈ s.live, h.device ≠ dev then
      { s with liveDevices := s.liveDevices.erase dev }
    else s.fail

/-- `std::swap` of all members. -/
def swapAt {α : Type} (store : Nat → Option α) (a b : Nat) : Nat → Option α :=
  Function.update (Function.update store b (store a)) a (store b)

/-- The native device that a pointer leads to. -/
def deviceAt (s : ObjectSystem) (p : Nat) : Option Nat := (s.devices p).bind LogicalDevice.dev

/-- The handles of a new object. -/
def newObject (cls : ObjectClass) (p dev id : Nat) (viewIds : List Nat) : Object where
  cls := cls
  own := ⟨some p, some ⟨dev, id⟩⟩
  imageViews := viewIds.map fun viewId => ⟨some p, some ⟨dev, viewId⟩⟩

/-- What the language and the driver ask of an event: addresses are free or hold an object,
and new handles are new. -/
def Enabled (s : ObjectSystem) : ObjectEvent → Prop
  | .constructDevice p dev => s.devices p = none ∧ dev ∉ s.liveDevices
  | .nullDevice p => s.devices p = none
  | .moveConstructDevice p move => s.devices p = none ∧ (s.devices move).isSome
  | .moveAssignDevice p rhs => (s.devices p).isSome ∧ (s.devices rhs).isSome
  | .destroyDevice p => (s.devices p).isSome
  | .construct a cls p id viewIds => s.objects a = none ∧
      (cls = .swapchain ∨ viewIds = []) ∧ (id :: viewIds).Nodup ∧
      ∃ dev ∈ s.deviceAt p, ∀ i ∈ id :: viewIds, (⟨dev, i⟩ : NativeHandle) ∉ s.live
  | .constructNull a _ => s.objects a = none
  | .moveConstruct a move => s.objects a = none ∧ (s.objects move).isSome
  | .moveAssign a rhs => (s.objects a).isSome ∧
      (s.objects rhs).map Object.cls = (s.objects a).map Object.cls
  | .destroy a => (s.objects a).isSome

def next (s : ObjectSystem) : ObjectEvent → ObjectSystem
  | .constructDevice p dev =>
      { s with
        devices := Function.update s.devices p (some ⟨some dev⟩)
        liveDevices := insert dev s.liveDevices }
  | .nullDevice p => { s with devices := Function.update s.devices p (some ⟨none⟩) }
  | .moveConstructDevice p move =>
      { s with devices := swapAt (Function.update s.devices p (some ⟨none⟩)) p move }
  | .moveAssignDevice p rhs => { s with devices := swapAt s.devices p rhs }
  | .destroyDevice p =>
      match s.devices p with
      | none => s
      | some d => { s.destroyLogicalDevice d with devices := Function.update s.devices p none }
  | .construct a cls p id viewIds =>
      match s.deviceAt p with
      | none => s
      | some dev =>
        { s with
          objects := Function.update s.objects a (some (newObject cls p dev id viewIds))
          live := s.live ∪ (newObject cls p dev id viewIds).natives.toFinset }
  | .constructNull a cls => { s with objects := Function.update s.objects a (some (.null cls)) }
  | .moveConstruct a move =>
      match s.objects move with
      | none => s
      | some o =>
        { s with objects := swapAt (Function.update s.objects a (some (.null o.cls))) a move }
  | .moveAssign a rhs => { s with objects := swapAt s.objects a rhs }
  | .destroy a =>
      match s.objects a with
      | none => s
      | some o => { s.destroyObject o with objects := Function.update s.objects a none }

instance (s : ObjectSystem) (e : ObjectEvent) : Decidable (s.Enabled e) := by
  cases e <;> unfold Enabled <;> infer_instance

def machine : Machine ObjectSystem ObjectEvent := ⟨Enabled, next⟩

instance (s : ObjectSystem) (e : ObjectEvent) : Decidable (machine.Enabled s e) :=
  inferInstanceAs (Decidable (s.Enabled e))

/-! ## safe runs -/

/-- No object points to a device. -/
def Unused (s : ObjectSystem) (p : Nat) : Prop :=
  ∀ a o, s.objects a = some o → ∀ part ∈ o.parts, part.2.device ≠ some p

/-- No device is moved or destroyed while an object points to it. -/
def Safe (s : ObjectSystem) : ObjectEvent → Prop
  | .moveConstructDevice _ move => s.Unused move
  | .moveAssignDevice p rhs => s.Unused p ∧ s.Unused rhs
  | .destroyDevice p => s.Unused p
  | _ => True

/-- Every event of a run is safe where it happens. -/
def SafeRun (s : ObjectSystem) : List ObjectEvent → Prop
  | [] => True
  | e :: es => s.Safe e ∧ (s.next e).SafeRun es

end ObjectSystem

/-! ## members -/

/-- A member without a handle has no device, and the pointer of one with a handle leads to
the device of the handle. -/
def OwnedNative.Sound (devices : Nat → Option LogicalDevice) (part : OwnedNative) : Prop :=
  match part.native with
  | none => part.device = none
  | some h => ∃ p, part.device = some p ∧ devices p = some ⟨some h.device⟩

/-- Pointers stay good if the devices they lead to stay where they are. -/
theorem OwnedNative.Sound.mono {devices devices' : Nat → Option LogicalDevice} {part : OwnedNative}
    (h : part.Sound devices)
    (hsame : ∀ p, part.device = some p → (devices p).isSome → devices' p = devices p) :
    part.Sound devices' := by
  unfold Sound at *
  split at h
  · exact h
  · obtain ⟨p, hp, hdevice⟩ := h
    refine ⟨p, hp, ?_⟩
    rw [hsame p hp (by simp [hdevice]), hdevice]

/-- Members are destroyed one after the other. -/
theorem partNatives_cons (part : ObjectClass × OwnedNative)
    (parts : List (ObjectClass × OwnedNative)) :
    partNatives (part :: parts) = part.2.native.toList ++ partNatives parts := by
  cases h : part.2.native <;> simp [partNatives, h]

/-- A moved-from object owns nothing. -/
theorem Object.natives_null (cls : ObjectClass) : (Object.null cls).natives = [] := rfl

/-- The handles of an object are those of its members. -/
theorem Object.mem_natives {o : Object} {h : NativeHandle} :
    h ∈ o.natives ↔ ∃ part ∈ o.parts, part.2.native = some h := by
  simp [natives, partNatives]

namespace ObjectSystem

/-- A new object owns the handles it was made with. -/
theorem natives_newObject (cls : ObjectClass) (p dev id : Nat) (viewIds : List Nat) :
    (newObject cls p dev id viewIds).natives = (id :: viewIds).map (NativeHandle.mk dev) := by
  simp only [Object.natives, partNatives, Object.parts, newObject, List.map_map,
    List.filterMap_cons, List.filterMap_map, List.map_cons, List.cons.injEq, true_and]
  exact congrFun (List.filterMap_eq_map (f := NativeHandle.mk dev)) viewIds

/-- All members of a new object point to the device it was made with. -/
theorem parts_newObject {cls : ObjectClass} {p dev id : Nat} {viewIds : List Nat}
    {part : ObjectClass × OwnedNative} (hpart : part ∈ (newObject cls p dev id viewIds).parts) :
    part.2.device = some p ∧ ∃ i, part.2.native = some ⟨dev, i⟩ := by
  simp only [Object.parts, newObject, List.map_map, List.mem_cons, List.mem_map] at hpart
  obtain rfl | ⟨viewId, -, rfl⟩ := hpart
  · exact ⟨rfl, id, rfl⟩
  · exact ⟨rfl, viewId, rfl⟩

/-- An exchange permutes addresses. -/
theorem swapAt_eq {α : Type} (store : Nat → Option α) (a b : Nat) :
    swapAt store a b = store ∘ Equiv.swap a b :=
  (Equiv.comp_swap_eq_update a b store).symm

theorem swapAt_of_ne {α : Type} (store : Nat → Option α) {a b c : Nat} (ha : c ≠ a) (hb : c ≠ b) :
    swapAt store a b c = store c := by
  rw [swapAt_eq, Function.comp_apply, Equiv.swap_apply_of_ne_of_ne ha hb]

/-! ## destructors -/

section

variable {s : ObjectSystem}

/-- The destructor of a member removes its handle. -/
theorem destroyPart_eq {part : ObjectClass × OwnedNative} (hsound : part.2.Sound s.devices)
    (hlive : ∀ h, part.2.native = some h → h ∈ s.live) :
    s.destroyPart part = { s with live := s.live \ part.2.native.toList.toFinset } := by
  obtain ⟨cls, device, native⟩ := part
  cases native with
  | none =>
    -- a descriptor set layout looks at its device, which is null as well
    have hdevice : device = none := hsound
    have hnot : destroys (cls, ⟨device, none⟩) = false := by
      subst hdevice
      cases cls <;> rfl
    simp [destroyPart, hnot]
  | some h =>
    obtain ⟨p, hp, hdevice⟩ := hsound
    have hp : device = some p := hp
    subst hp
    have hdestroys : destroys (cls, ⟨some p, some h⟩) = true := by
      cases cls <;> rfl
    simp [destroyPart, hdestroys, destroyNative, hdevice, hlive h rfl, Finset.sdiff_singleton_eq_erase]

/-- The destructor of an object removes all of its handles. -/
theorem destroyParts_eq {parts : List (ObjectClass × OwnedNative)}
    (hsound : ∀ part ∈ parts, part.2.Sound s.devices) (hnodup : (partNatives parts).Nodup)
    (hlive : ∀ h ∈ partNatives parts, h ∈ s.live) :
    parts.foldl destroyPart s = { s with live := s.live \ (partNatives parts).toFinset } := by
  induction parts generalizing s with
  | nil => simp [partNatives]
  | cons part parts ih =>
    simp only [partNatives_cons, List.nodup_append', List.mem_append] at hnodup hlive
    obtain ⟨-, hnodup, hdisjoint⟩ := hnodup
    have hpart := destroyPart_eq (hsound part List.mem_cons_self) fun h hh =>
      hlive h (Or.inl (by simp [hh]))
    -- what the other members own is not destroyed yet
    have hrest : ∀ h ∈ partNatives parts, h ∈ s.live \ part.2.native.toList.toFinset := by
      intro h hh
      rw [Finset.mem_sdiff, List.mem_toFinset]
      exact ⟨hlive h (Or.inr hh), fun hmem => hdisjoint hmem hh⟩
    rw [List.foldl_cons, hpart, ih (s := { s with live := s.live \ part.2.native.toList.toFinset })
      (fun part' hmem => hsound part' (List.mem_cons_of_mem _ hmem)) hnodup hrest,
      partNatives_cons, List.toFinset_append, ← Finset.sup_eq_union, sdiff_sdiff_left]

end

/-! ## the invariant -/

/-- No call has been wrong, every handle has one owner, and pointers are good. -/
structure Inv (s : ObjectSystem) : Prop where
  valid : s.invalid = false
  natives : OwnedOnce Object.natives s.objects (· ∈ s.live)
  devs : OwnedOnce LogicalDevice.natives s.devices (· ∈ s.liveDevices)
  parts : ∀ {a o}, s.objects a = some o → ∀ part ∈ o.parts, part.2.Sound s.devices

/-- There is nothing to be wrong before anything is made. -/
theorem inv_empty : Inv .empty where
  valid := rfl
  natives := OwnedOnce.empty.congr fun h => (iff_of_false not_false (Finset.notMem_empty h))
  devs := OwnedOnce.empty.congr fun d => (iff_of_false not_false (Finset.notMem_empty d))
  parts h := by simp [empty] at h

namespace Inv

variable {s : ObjectSystem} (hs : s.Inv)

include hs

/-- Nothing is left of a device that nobody points to. -/
theorem device_ne_of_unused {p dev : Nat} (hp : s.devices p = some ⟨some dev⟩) (hunused : s.Unused p)
    {h : NativeHandle} (hlive : h ∈ s.live) : h.device ≠ dev := by
  rintro rfl
  obtain ⟨a, o, ha, ho⟩ := hs.natives.owned hlive
  obtain ⟨part, hpart, hnative⟩ := Object.mem_natives.mp ho
  have hsound := hs.parts ha part hpart
  rw [OwnedNative.Sound, hnative] at hsound
  obtain ⟨q, hq, hdevice⟩ := hsound
  have hqp : q = p := hs.devs.unique hdevice hp (h := h.device) (by simp [LogicalDevice.natives])
    (by simp [LogicalDevice.natives])
  exact hunused a o ha part hpart (hqp ▸ hq)

/-- A new device is at a place that nobody points to. -/
theorem constructDevice {p dev : Nat} (he : s.Enabled (.constructDevice p dev)) :
    (s.next (.constructDevice p dev)).Inv where
  valid := hs.valid
  natives := hs.natives
  devs := by
    have hinsert := hs.devs.insert (x := ⟨some dev⟩) he.1 (by simp [LogicalDevice.natives])
      (by simpa [LogicalDevice.natives] using he.2)
    refine hinsert.congr fun d => ?_
    simp [next, LogicalDevice.natives, or_comm]
  parts ha part hpart := (hs.parts ha part hpart).mono fun q _ hq => by
    refine Function.update_of_ne ?_ ..
    rintro rfl
    simp [he.1] at hq

/-- So is one that is made by its default constructor, which owns nothing. -/
theorem nullDevice {p : Nat} (he : s.Enabled (.nullDevice p)) : (s.next (.nullDevice p)).Inv where
  valid := hs.valid
  natives := hs.natives
  devs := hs.devs.insert_null he rfl
  parts ha part hpart := (hs.parts ha part hpart).mono fun q _ hq => by
    refine Function.update_of_ne ?_ ..
    rintro rfl
    have hnone : s.devices q = none := he
    simp [hnone] at hq

/-- Devices that nobody points to may be exchanged. -/
theorem moveAssignDevice {p rhs : Nat} (hp : s.Unused p) (hrhs : s.Unused rhs) :
    (s.next (.moveAssignDevice p rhs)).Inv where
  valid := hs.valid
  natives := hs.natives
  devs := by
    have hexchange := hs.devs.exchange p rhs
    rwa [← swapAt_eq] at hexchange
  parts ha part hpart := (hs.parts ha part hpart).mono fun q hq _ => by
    refine swapAt_of_ne _ ?_ ?_
    · rintro rfl
      exact hp _ _ ha part hpart hq
    · rintro rfl
      exact hrhs _ _ ha part hpart hq

/-- A device that nobody points to may be moved. -/
theorem moveConstructDevice {p move : Nat} (he : s.Enabled (.moveConstructDevice p move))
    (hmove : s.Unused move) : (s.next (.moveConstructDevice p move)).Inv := by
  -- an empty device first, which nobody points to, and then an exchange
  have hnull : (s.next (.nullDevice p)).Inv := hs.nullDevice he.1
  have hp : (s.next (.nullDevice p)).Unused p := by
    intro a o ha part hpart hdevice
    have hsound := hs.parts ha part hpart
    unfold OwnedNative.Sound at hsound
    split at hsound
    · rw [hsound] at hdevice
      cases hdevice
    · obtain ⟨q, hq, hdev⟩ := hsound
      rw [hdevice, Option.some.injEq] at hq
      rw [← hq, he.1] at hdev
      cases hdev
  exact hnull.moveAssignDevice hp hmove

/-- A device that nobody points to has nothing left, and may be destroyed. -/
theorem destroyDevice {p : Nat} (he : s.Enabled (.destroyDevice p)) (hunused : s.Unused p) :
    (s.next (.destroyDevice p)).Inv := by
  obtain ⟨d, hd⟩ := Option.isSome_iff_exists.mp he
  have hparts : ∀ {a o}, s.objects a = some o → ∀ part ∈ o.parts,
      part.2.Sound (Function.update s.devices p none) := by
    intro a o ha part hpart
    refine (hs.parts ha part hpart).mono fun q hq _ => Function.update_of_ne ?_ ..
    rintro rfl
    exact hunused _ _ ha part hpart hq
  have herase := hs.devs.erase hd
  obtain ⟨dev⟩ := d
  cases dev with
  | none =>
    simp only [next, hd, destroyLogicalDevice]
    exact ⟨hs.valid, hs.natives, herase.congr fun d => by simp [LogicalDevice.natives], hparts⟩
  | some dev =>
    have hlive : dev ∈ s.liveDevices := hs.devs.isLive hd (by simp [LogicalDevice.natives])
    have hnone : ∀ h ∈ s.live, h.device ≠ dev := fun h => hs.device_ne_of_unused hd hunused
    simp only [next, hd, destroyLogicalDevice, if_pos (And.intro hlive hnone)]
    exact ⟨hs.valid, hs.natives,
      herase.congr fun d => by simp [LogicalDevice.natives, and_comm], hparts⟩

/-- A new object has new handles, of the device that it points to. -/
theorem construct {a p id : Nat} {cls : ObjectClass} {viewIds : List Nat}
    (he : s.Enabled (.construct a cls p id viewIds)) :
    (s.next (.construct a cls p id viewIds)).Inv := by
  obtain ⟨ha, -, hnodup, dev, hdev, hnew⟩ := he
  have hdev : s.deviceAt p = some dev := hdev
  obtain ⟨⟨_⟩, hp, rfl⟩ := Option.bind_eq_some_iff.mp hdev
  have hnatives := natives_newObject cls p dev id viewIds
  have hinsert := hs.natives.insert (x := newObject cls p dev id viewIds) ha
    (by
      rw [hnatives]
      exact hnodup.map fun i j h => (NativeHandle.mk.inj h).2)
    (by
      rw [hnatives]
      rintro _ hmem
      obtain ⟨i, hi, rfl⟩ := List.mem_map.mp hmem
      exact hnew i hi)
  simp only [next, hdev]
  refine ⟨hs.valid, hinsert.congr fun h => by simp, hs.devs, ?_⟩
  intro b o hb part hpart
  by_cases hba : b = a
  · have hb : Function.update s.objects a (some (newObject cls p dev id viewIds)) b = some o := hb
    rw [hba, Function.update_self, Option.some.injEq] at hb
    subst hb
    obtain ⟨hdevice, i, hnative⟩ := parts_newObject hpart
    rw [OwnedNative.Sound, hnative]
    exact ⟨p, hdevice, hp⟩
  · have hb : Function.update s.objects a (some (newObject cls p dev id viewIds)) b = some o := hb
    rw [Function.update_of_ne hba] at hb
    exact hs.parts hb part hpart

/-- An object without handles may be made anywhere. -/
theorem constructNull {a : Nat} {cls : ObjectClass} (he : s.Enabled (.constructNull a cls)) :
    (s.next (.constructNull a cls)).Inv where
  valid := hs.valid
  natives := hs.natives.insert_null he (Object.natives_null cls)
  devs := hs.devs
  parts {b o} hb part hpart := by
    have hb : Function.update s.objects a (some (Object.null cls)) b = some o := hb
    by_cases hba : b = a
    · rw [hba, Function.update_self, Option.some.injEq] at hb
      subst hb
      simp only [Object.parts, Object.null, List.map_nil, List.mem_singleton] at hpart
      subst hpart
      rfl
    · rw [Function.update_of_ne hba] at hb
      exact hs.parts hb part hpart

/-- An exchange of all members keeps owners and pointers together. -/
theorem moveAssign (a rhs : Nat) : (s.next (.moveAssign a rhs)).Inv where
  valid := hs.valid
  natives := by
    have hexchange := hs.natives.exchange a rhs
    rwa [← swapAt_eq] at hexchange
  devs := hs.devs
  parts {b o} hb part hpart := by
    have hb : swapAt s.objects a rhs b = some o := hb
    rw [swapAt_eq] at hb
    exact hs.parts hb part hpart

theorem moveConstruct {a move : Nat} (he : s.Enabled (.moveConstruct a move)) :
    (s.next (.moveConstruct a move)).Inv := by
  obtain ⟨o, ho⟩ := Option.isSome_iff_exists.mp he.2
  have hnull : (s.next (.constructNull a o.cls)).Inv := hs.constructNull he.1
  simp only [next, ho]
  exact hnull.moveAssign a move

/-- A destructor destroys what its object owns, and nothing else. -/
theorem destroy {a : Nat} (he : s.Enabled (.destroy a)) : (s.next (.destroy a)).Inv := by
  obtain ⟨o, ho⟩ := Option.isSome_iff_exists.mp he
  have hdestroy : s.destroyObject o = { s with live := s.live \ o.natives.toFinset } :=
    destroyParts_eq (hs.parts ho) (hs.natives.nodup ho) fun h hh => hs.natives.isLive ho hh
  simp only [next, ho, hdestroy]
  refine ⟨hs.valid, (hs.natives.erase ho).congr fun h => by simp, hs.devs, ?_⟩
  intro b o' hb part hpart
  have hb : Function.update s.objects a none b = some o' := hb
  by_cases hba : b = a
  · rw [hba, Function.update_self] at hb
    cases hb
  · rw [Function.update_of_ne hba] at hb
    exact hs.parts hb part hpart

/-- **Step**: safe events keep the invariant. -/
theorem step {e : ObjectEvent} (he : s.Enabled e) (hsafe : s.Safe e) : (s.next e).Inv := by
  cases e with
  | constructDevice p dev => exact hs.constructDevice he
  | nullDevice p => exact hs.nullDevice he
  | moveConstructDevice p move => exact hs.moveConstructDevice he hsafe
  | moveAssignDevice p rhs => exact hs.moveAssignDevice hsafe.1 hsafe.2
  | destroyDevice p => exact hs.destroyDevice he hsafe
  | construct a cls p id viewIds => exact hs.construct he
  | constructNull a cls => exact hs.constructNull he
  | moveConstruct a move => exact hs.moveConstruct he
  | moveAssign a rhs => exact hs.moveAssign a rhs
  | destroy a => exact hs.destroy he

/-- **Run**: so does a run of them. -/
theorem run {es : List ObjectEvent} {t : ObjectSystem} (hsafe : s.SafeRun es)
    (hrun : machine.run s es = some t) : t.Inv := by
  induction es generalizing s with
  | nil =>
    rw [Machine.run_nil, Option.some.injEq] at hrun
    exact hrun ▸ hs
  | cons e es ih =>
    obtain ⟨he, hrest⟩ := (Machine.run_cons _).mp hrun
    exact ih (hs.step he hsafe.1) hsafe.2 hrest

end Inv

/-- **Destructors**: as long as no `LogicalDevice` is moved or destroyed under the objects
that point to it, whatever else is moved, assigned and destroyed in whatever order, no
destructor makes a wrong call, a live handle is owned by one object, once, through the device
that made it, and a live device by one `LogicalDevice`. -/
theorem natives_destroyed_once (es : List ObjectEvent) (s : ObjectSystem)
    (hrun : machine.run .empty es = some s) (hsafe : SafeRun .empty es) :
    s.invalid = false ∧
      (∀ h ∈ s.live, ∃! a, ∃ o, s.objects a = some o ∧ h ∈ o.natives) ∧
      (∀ a o, s.objects a = some o → o.natives.Nodup ∧
        ∀ part ∈ o.parts, ∀ h, part.2.native = some h →
          h ∈ s.live ∧ ∃ p, part.2.device = some p ∧ s.deviceAt p = some h.device) ∧
      (∀ dev ∈ s.liveDevices, ∃! p, s.deviceAt p = some dev) ∧
      ∀ p dev, s.deviceAt p = some dev → dev ∈ s.liveDevices := by
  have hs : s.Inv := inv_empty.run hsafe hrun
  have hdeviceAt : ∀ p dev, s.deviceAt p = some dev ↔
      ∃ d, s.devices p = some d ∧ dev ∈ d.natives := by
    intro p dev
    simp [deviceAt, LogicalDevice.natives, Option.bind_eq_some_iff]
  refine ⟨hs.valid, fun h hlive => hs.natives.existsUnique hlive, ?_, ?_, ?_⟩
  · intro a o ho
    refine ⟨hs.natives.nodup ho, ?_⟩
    intro part hpart h hnative
    have hsound := hs.parts ho part hpart
    rw [OwnedNative.Sound, hnative] at hsound
    obtain ⟨p, hp, hdevice⟩ := hsound
    refine ⟨hs.natives.isLive ho (Object.mem_natives.mpr ⟨part, hpart, hnative⟩), p, hp, ?_⟩
    simp [deviceAt, hdevice]
  · intro dev hlive
    simp only [hdeviceAt]
    exact hs.devs.existsUnique hlive
  · intro p dev hp
    obtain ⟨d, hd, hdev⟩ := (hdeviceAt p dev).mp hp
    exact hs.devs.isLive hd hdev

/-- A device is assigned to a member, a swapchain is made and replaced, and a buffer is moved
into another one before all of them are destroyed. -/
def replacedSwapchain : List ObjectEvent :=
  [.nullDevice 0, .constructDevice 1 7, .moveAssignDevice 0 1, .destroyDevice 1,
    .construct 0 .swapchain 0 1 [2, 3], .destroy 0, .construct 0 .swapchain 0 1 [4, 5],
    .constructNull 1 .buffer, .construct 2 .buffer 0 6 [], .moveAssign 1 2, .destroy 2,
    .moveConstruct 3 1, .destroy 1]

theorem natives_destroyed_replacedSwapchain :
    ∃ s, machine.run .empty replacedSwapchain = some s ∧ SafeRun .empty replacedSwapchain ∧
      s.invalid = false ∧ s.live = {⟨7, 1⟩, ⟨7, 4⟩, ⟨7, 5⟩, ⟨7, 6⟩} := by
  have hsafe : SafeRun .empty replacedSwapchain := by
    simp [replacedSwapchain, SafeRun, Safe, Unused, empty, next]
  have hisSome : (machine.run .empty replacedSwapchain).isSome := by
    decide +kernel
  obtain ⟨s, hs⟩ := Option.isSome_iff_exists.mp hisSome
  have hlive : (machine.run .empty replacedSwapchain).map ObjectSystem.live =
      some {⟨7, 1⟩, ⟨7, 4⟩, ⟨7, 5⟩, ⟨7, 6⟩} := by
    decide +kernel
  rw [hs, Option.map_some, Option.some.injEq] at hlive
  exact ⟨s, hs, hsafe, (natives_destroyed_once replacedSwapchain s hs hsafe).1, hlive⟩

-- a buffer whose device has been moved is destroyed through a null device
example : (machine.run .empty [.constructDevice 0 7, .construct 0 .buffer 0 1 [],
    .moveConstructDevice 1 0, .destroy 0]).map ObjectSystem.invalid = some true := by
  decide +kernel

end ObjectSystem
end Vk
end Topaz
