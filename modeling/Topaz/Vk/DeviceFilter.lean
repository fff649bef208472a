import Topaz.EnumField
import Topaz.PolymorphicList

/-!
# Topaz.Vk.DeviceFilter

Physical devices, their queue families, and the filters that choose among them.

A filter is what its `satisfies` answers.  A `DeviceFilterList` asks its filters in a loop
over a `PolymorphicList`, and inherits its end condition: the answer is right as long as
the word behind the list is readable and none of its pointers (`satisfies_of_notMem`,
`filterAll_of_notMem`), but the word is read each time.
-/

namespace Topaz
namespace Vk
namespace Hardware

/-! ## physical devices -/

inductive QueueFamilyType where
  | graphics
  | compute
  | transfer
  | sparseBinding
  | present
deriving DecidableEq, Repr

abbrev QueueFamilyTypeField := EnumField QueueFamilyType

/-- The `queueFlags` of a family, and whether it can present to the window's surface. -/
structure QueueFamilyProperties where
  queueFlags : BitVec 32
  presentSupport : Bool
deriving DecidableEq, Repr

inductive DeviceType where
  | other
  | integratedGpu
  | discreteGpu
  | virtualGpu
  | cpu
deriving DecidableEq, Repr

/-- A physical device, as the driver describes it. -/
structure Device where
  queueFamilyProperties : List QueueFamilyProperties
  extensionProperties : List String
  deviceType : DeviceType
deriving DecidableEq, Repr

/-- A queue family, with the device that its pointer leads to. -/
structure DeviceQueueFamily where
  dev : Device
  index : Nat
  typesSupported : QueueFamilyTypeField
deriving DecidableEq, Repr

/-- The bit of a type in `queueFlags`; presentation has none. -/
def QueueFamilyType.flag : QueueFamilyType → BitVec 32
  | .graphics => 0x1
  | .compute => 0x2
  | .transfer => 0x4
  | .sparseBinding => 0x8
  | .present => 0x0

/-- The types that are found in `queueFlags`. -/
def flagTypes : List QueueFamilyType := [.graphics, .compute, .transfer, .sparseBinding]

def typesSupported (headless : Bool) (prop : QueueFamilyProperties) : QueueFamilyTypeField :=
  let byFlag := flagTypes.foldl
    (fun field type => if prop.queueFlags &&& type.flag ≠ 0 then field.insert type else field) ⟨[]⟩
  if !headless && prop.presentSupport then byFlag.insert .present else byFlag

def Device.getQueueFamilies (device : Device) (headless : Bool) : List DeviceQueueFamily :=
  device.queueFamilyProperties.mapIdx fun i prop => ⟨device, i, typesSupported headless prop⟩

/-! ## filters -/

/-- An `IDeviceFilter` is what `satisfies` answers. -/
abbrev IDeviceFilter := Device → Bool

def deviceQueueFamilyFilter (headless : Bool) (types : QueueFamilyTypeField) : IDeviceFilter :=
  fun device => (device.getQueueFamilies headless).any fun family =>
    family.typesSupported.containsField types

def deviceExtensionSupportFilter (requiredExtensions : List String) : IDeviceFilter :=
  fun device => requiredExtensions.all fun required =>
    device.extensionProperties.any fun supported => required = supported

def deviceTypeFilter (type : DeviceType) : IDeviceFilter := fun device => device.deviceType = type

abbrev DeviceFilterList := PolymorphicList IDeviceFilter

namespace DeviceFilterList

/-- The loop over the filters. -/
def traversal (filters : DeviceFilterList) (behind : Option Nat) (device : Device) :
    PolymorphicList.Walk := filters.walk behind (fun filter => filter device) 0

/-- `satisfies`; `none` if the word behind the list is needed and cannot be read. -/
def satisfies (filters : DeviceFilterList) (behind : Option Nat) (device : Device) : Option Bool :=
  (filters.traversal behind device).result

/-- `filter_all`: `std::remove_if` keeps the others in order. -/
def filterAll (filters : DeviceFilterList) (behind : Option Nat) :
    List Device → Option (List Device)
  | [] => some []
  | device :: devices =>
      (filters.satisfies behind device).bind fun keep =>
        (filterAll filters behind devices).map fun rest =>
          if keep then device :: rest else rest

end DeviceFilterList

/-- Filtering is exact: a device satisfies a list iff it satisfies every filter, and exactly
the devices that do are left, in order. -/
structure FiltersExactly (filters : DeviceFilterList) (behind : Option Nat)
    (devices : List Device) : Prop where
  satisfies : ∀ device, DeviceFilterList.satisfies filters behind device = some true ↔
    ∀ filter ∈ filters.objects, filter device = true
  filterAll : DeviceFilterList.filterAll filters behind devices =
    some (devices.filter fun device => filters.objects.all fun filter => filter device)

/-- The loop visits every filter once, if none of them ends it, and reads no position from
the length of the list on. -/
structure TraversesInBounds (filters : DeviceFilterList) (behind : Option Nat) : Prop where
  visits : ∀ device, (∀ filter ∈ filters.objects, filter device = true) →
    (DeviceFilterList.traversal filters behind device).visited = List.range filters.length
  inBounds : ∀ device, ∀ loc ∈ (DeviceFilterList.traversal filters behind device).reads,
    loc < filters.length

section NotMem

variable {filters : DeviceFilterList} {w : Nat} (h : w ∉ filters.elements.map Prod.fst)
include h

theorem satisfies_of_notMem (device : Device) :
    DeviceFilterList.satisfies filters (some w) device =
      some (filters.objects.all fun filter => filter device) :=
  filters.result_walk_of_notMem _ h

theorem filterAll_of_notMem (devices : List Device) :
    DeviceFilterList.filterAll filters (some w) devices =
      some (devices.filter fun device => filters.objects.all fun filter => filter device) := by
  induction devices with
  | nil => rfl
  | cons device devices ih =>
      rw [DeviceFilterList.filterAll, satisfies_of_notMem h, ih, Option.bind_some, Option.map_some,
        List.filter_cons]

theorem filtersExactly_of_notMem (devices : List Device) :
    FiltersExactly filters (some w) devices where
  satisfies device := by simp [satisfies_of_notMem h]
  filterAll := filterAll_of_notMem h devices

end NotMem

/-- A loop over filters always reads the word behind them. -/
theorem not_traversesInBounds (filters : DeviceFilterList) (behind : Option Nat) :
    ¬ TraversesInBounds filters behind := by
  intro h
  have hread := filters.length_mem_reads (fun filter => filter ⟨[], [], .other⟩) behind 0
  exact absurd (h.inBounds ⟨[], [], .other⟩ _ hread) (Nat.lt_irrefl _)

/-- **Filtering**: no loop over a list of filters stays in bounds, whatever the list.  If the
word that is read behind it is none of its pointers, filtering is exact all the same, and
every filter is visited once. -/
theorem filtering_leaves_bounds (filters : DeviceFilterList) (behind : Option Nat)
    (devices : List Device) :
    ¬ (FiltersExactly filters behind devices ∧ TraversesInBounds filters behind) ∧
    ∀ w, behind = some w → w ∉ filters.elements.map Prod.fst →
      FiltersExactly filters behind devices ∧
      ∀ device, (∀ filter ∈ filters.objects, filter device = true) →
        (DeviceFilterList.traversal filters behind device).visited =
          List.range filters.length := by
  refine ⟨fun h => not_traversesInBounds filters behind h.2, ?_⟩
  rintro w rfl hw
  refine ⟨filtersExactly_of_notMem hw devices, fun device hall => ?_⟩
  rw [DeviceFilterList.traversal, filters.visited_walk_of_notMem _ hw hall (Nat.zero_le _),
    List.range_eq_range', Nat.sub_zero]

/-- One filter, for discrete GPUs, at address `8`. -/
def discreteOnly : DeviceFilterList :=
  .emplace .empty 8 (deviceTypeFilter .discreteGpu) (by simp [PolymorphicList.empty])

/-- If the word behind the list is the filter's own address, no filter is asked and a CPU
satisfies the list; and a list without filters reads through a null pointer. -/
theorem filtering_reads_behind :
    (DeviceFilterList.satisfies discreteOnly (some 8) ⟨[], [], .cpu⟩ = some true ∧
      ¬ FiltersExactly discreteOnly (some 8) [⟨[], [], .cpu⟩]) ∧
    DeviceFilterList.satisfies .empty none ⟨[], [], .cpu⟩ = none ∧
    ¬ TraversesInBounds .empty none := by
  have hskipped : DeviceFilterList.satisfies discreteOnly (some 8) ⟨[], [], .cpu⟩ = some true :=
    discreteOnly.result_walk _ 8 0 (by decide)
  refine ⟨⟨hskipped, fun h => ?_⟩, ?_, not_traversesInBounds _ _⟩
  · have hfilter := (h.satisfies _).mp hskipped (deviceTypeFilter .discreteGpu) (by
      simp [discreteOnly, PolymorphicList.objects, PolymorphicList.emplace])
    exact absurd hfilter (by decide)
  · rw [DeviceFilterList.satisfies, DeviceFilterList.traversal, PolymorphicList.walk]
    rfl

end Hardware
end Vk
end Topaz
