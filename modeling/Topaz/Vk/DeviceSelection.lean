import Topaz.Vk.Swapchain

/-!
# Topaz.Vk.DeviceSelection

The choice of a physical device and a queue family in the constructor of `DeviceVulkan`:
the first device that passes two filters, and its last family that meets the type
requirements.  These ask for graphics and transfer; presentation, which the swapchain
asserts, is left to chance.
-/

namespace Topaz
namespace Vk
namespace Hardware

/-! ## the constructor -/

/-- The extensions that the constructor asks for. -/
def requiredExtensions (headless : Bool) : List String :=
  ["VK_KHR_maintenance1"] ++ if headless then [] else ["VK_KHR_swapchain"]

def typeRequirements : QueueFamilyTypeField := ⟨[.graphics, .transfer]⟩

/-- Where the two filters are allocated, and the word behind the list of their pointers. -/
structure FilterStorage where
  queueFamilyFilter : Nat
  extensionFilter : Nat
  distinct : extensionFilter ≠ queueFamilyFilter
  behind : Option Nat

def deviceFilters (headless : Bool) (storage : FilterStorage) : DeviceFilterList :=
  (PolymorphicList.empty.emplace storage.queueFamilyFilter
      (deviceQueueFamilyFilter headless typeRequirements) (by simp [PolymorphicList.empty])).emplace
    storage.extensionFilter (deviceExtensionSupportFilter (requiredExtensions headless))
    (by simpa [PolymorphicList.emplace, PolymorphicList.empty] using storage.distinct)

/-- The loop over the families keeps the last that meets the requirements. -/
def chooseQueueFamily (families : List DeviceQueueFamily) : Option DeviceQueueFamily :=
  families.foldl (fun chosen family =>
    if family.typesSupported.containsField typeRequirements then some family else chosen) none

/-- `DeviceVulkan::DeviceVulkan`: the physical device and the queue family of the logical one;
`none` if an assertion fires. -/
def selectDevice (headless : Bool) (storage : FilterStorage) (allDevices : List Device) :
    Option (Device × DeviceQueueFamily) :=
  ((deviceFilters headless storage).filterAll storage.behind allDevices).bind fun devices =>
    devices.head?.bind fun physicalDevice =>
      (chooseQueueFamily (physicalDevice.getQueueFamilies headless)).map fun family =>
        (physicalDevice, family)

/-! ## what it should select -/

/-- A family that supports all of some types. -/
def DeviceQueueFamily.Supports (family : DeviceQueueFamily) (types : List QueueFamilyType) : Prop :=
  ∀ type ∈ types, family.typesSupported.contains type = true

instance (family : DeviceQueueFamily) (types : List QueueFamilyType) :
    Decidable (family.Supports types) :=
  inferInstanceAs (Decidable (∀ type ∈ types, family.typesSupported.contains type = true))

/-- A device with the required extensions and a family that supports all of some types. -/
def Device.Suits (device : Device) (types : List QueueFamilyType) : Prop :=
  (∀ name ∈ requiredExtensions false, name ∈ device.extensionProperties) ∧
  ∃ family ∈ device.getQueueFamilies false, family.Supports types

/-- In a window, if a device can do everything, then one that can is selected, with a family
that can, as the swapchain asserts; and a selected family belongs to the selected device. -/
structure SelectsSuitable (storage : FilterStorage) (devices : List Device) : Prop where
  suitable : (∃ device ∈ devices, device.Suits [.graphics, .transfer, .present]) →
    ∃ device family, selectDevice false storage devices = some (device, family) ∧
      device ∈ devices ∧ family.Supports [.graphics, .transfer, .present] ∧
      assertsQueueFamily family = true
  belongs : ∀ device family, selectDevice false storage devices = some (device, family) →
    device ∈ devices ∧ family ∈ device.getQueueFamilies false ∧ family.dev = device

/-- The first device that suits graphics and transfer, and the last of its families that
supports both, supports presentation too. -/
def FirstLastPresents (devices : List Device) : Prop :=
  ∀ (before : List Device) (device : Device) (after : List Device)
    (earlier : List DeviceQueueFamily) (family : DeviceQueueFamily) (later : List DeviceQueueFamily),
    devices = before ++ device :: after → (∀ d ∈ before, ¬ d.Suits [.graphics, .transfer]) →
    device.Suits [.graphics, .transfer] →
    device.getQueueFamilies false = earlier ++ family :: later →
    family.Supports [.graphics, .transfer] → (∀ f ∈ later, ¬ f.Supports [.graphics, .transfer]) →
    family.Supports [.present]

/-! ## the selection -/

theorem containsField_iff_supports (family : DeviceQueueFamily) (types : List QueueFamilyType) :
    family.typesSupported.containsField ⟨types⟩ = true ↔ family.Supports types := by
  simp [EnumField.containsField, DeviceQueueFamily.Supports]

/-- Two filters, for both of what a device has to suit. -/
theorem filters_iff_suits (storage : FilterStorage) (device : Device) :
    ((deviceFilters false storage).objects.all fun filter => filter device) = true ↔
      device.Suits [.graphics, .transfer] := by
  have hfamily : deviceQueueFamilyFilter false typeRequirements device = true ↔
      ∃ family ∈ device.getQueueFamilies false, family.Supports [.graphics, .transfer] := by
    simp [deviceQueueFamilyFilter, typeRequirements, containsField_iff_supports]
  have hextensions : deviceExtensionSupportFilter (requiredExtensions false) device = true ↔
      ∀ name ∈ requiredExtensions false, name ∈ device.extensionProperties := by
    simp [deviceExtensionSupportFilter]
  have hobjects : (deviceFilters false storage).objects =
      [deviceQueueFamilyFilter false typeRequirements,
        deviceExtensionSupportFilter (requiredExtensions false)] := rfl
  rw [hobjects, Device.Suits, ← hfamily, ← hextensions]
  simp [and_comm]

/-- A loop that keeps the last match searches from the end. -/
theorem foldl_keep_eq_find? {α : Type} (p : α → Bool) (xs : List α) :
    xs.foldl (fun chosen x => if p x then some x else chosen) none = xs.reverse.find? p := by
  induction xs using List.reverseRecOn with
  | nil => rfl
  | append_singleton xs x ih =>
      rw [List.foldl_append, ih, List.reverse_append, List.reverse_singleton, List.singleton_append,
        List.find?_cons]
      cases hp : p x <;> simp [hp]

/-- The family chosen is the last with the requirements. -/
theorem chooseQueueFamily_eq_some_iff (families : List DeviceQueueFamily)
    (family : DeviceQueueFamily) : chooseQueueFamily families = some family ↔
      family.Supports [.graphics, .transfer] ∧ ∃ earlier later : List DeviceQueueFamily,
        families = earlier ++ family :: later ∧
        ∀ f ∈ later, ¬ f.Supports [.graphics, .transfer] := by
  rw [chooseQueueFamily, foldl_keep_eq_find?, List.find?_eq_some_iff_append, typeRequirements,
    containsField_iff_supports]
  refine and_congr_right fun _ => ⟨?_, ?_⟩
  · rintro ⟨later, earlier, hfamilies, hlater⟩
    refine ⟨earlier.reverse, later.reverse, ?_, ?_⟩
    · simpa using congrArg List.reverse hfamilies
    · simpa [← containsField_iff_supports] using hlater
  · rintro ⟨earlier, later, rfl, hlater⟩
    refine ⟨later.reverse, earlier.reverse, by simp, ?_⟩
    simpa [← containsField_iff_supports] using hlater

theorem exists_chooseQueueFamily {families : List DeviceQueueFamily}
    (h : ∃ family ∈ families, family.Supports [.graphics, .transfer]) :
    ∃ family, chooseQueueFamily families = some family := by
  rw [← Option.isSome_iff_exists, chooseQueueFamily, foldl_keep_eq_find?, List.find?_isSome]
  simpa [typeRequirements, containsField_iff_supports] using h

/-- The first device that passes the filters. -/
theorem find?_filters_eq_some_iff (storage : FilterStorage) (devices : List Device)
    (device : Device) :
    (devices.find? fun d => (deviceFilters false storage).objects.all fun filter => filter d) =
        some device ↔
      ∃ before after : List Device, devices = before ++ device :: after ∧
        (∀ d ∈ before, ¬ d.Suits [.graphics, .transfer]) ∧
        device.Suits [.graphics, .transfer] := by
  rw [List.find?_eq_some_iff_append, filters_iff_suits]
  simp only [Bool.not_eq_true', ← Bool.not_eq_true, filters_iff_suits]
  grind

section Selection

variable {storage : FilterStorage} {w : Nat} (hbehind : storage.behind = some w)
  (hother : w ≠ storage.queueFamilyFilter ∧ w ≠ storage.extensionFilter)
include hbehind hother

theorem selectDevice_eq (devices : List Device) : selectDevice false storage devices =
    (devices.find? fun d => (deviceFilters false storage).objects.all fun filter => filter d).bind
      fun device => (chooseQueueFamily (device.getQueueFamilies false)).map fun family =>
        (device, family) := by
  have hnot : w ∉ (deviceFilters false storage).elements.map Prod.fst := by
    simpa [deviceFilters, PolymorphicList.emplace, PolymorphicList.empty] using hother
  rw [selectDevice, hbehind, filterAll_of_notMem hnot, Option.bind_some, List.head?_filter]

/-- The device selected is the first that suits graphics and transfer. -/
theorem selectDevice_eq_some_iff (devices : List Device) (device : Device)
    (family : DeviceQueueFamily) :
    selectDevice false storage devices = some (device, family) ↔
      (∃ before after : List Device, devices = before ++ device :: after ∧
        (∀ d ∈ before, ¬ d.Suits [.graphics, .transfer]) ∧
        device.Suits [.graphics, .transfer]) ∧
      chooseQueueFamily (device.getQueueFamilies false) = some family := by
  rw [selectDevice_eq hbehind hother, ← find?_filters_eq_some_iff storage]
  simp only [Option.bind_eq_some_iff, Option.map_eq_some_iff, Prod.mk.injEq]
  constructor
  · rintro ⟨_, hdevice, _, hfamily, rfl, rfl⟩
    exact ⟨hdevice, hfamily⟩
  · rintro ⟨hdevice, hfamily⟩
    exact ⟨device, hdevice, family, hfamily, rfl, rfl⟩

/-- Something is selected if some device suits graphics and transfer. -/
theorem exists_selectDevice {devices : List Device}
    (h : ∃ device ∈ devices, device.Suits [.graphics, .transfer]) :
    ∃ device family, selectDevice false storage devices = some (device, family) := by
  have hfound : ∃ device, (devices.find? fun d =>
      (deviceFilters false storage).objects.all fun filter => filter d) = some device := by
    rw [← Option.isSome_iff_exists, List.find?_isSome]
    simpa only [filters_iff_suits] using h
  obtain ⟨device, hdevice⟩ := hfound
  obtain ⟨_, _, _, _, _, hfamilies⟩ := (find?_filters_eq_some_iff storage devices device).mp hdevice
  obtain ⟨family, hfamily⟩ := exists_chooseQueueFamily hfamilies
  rw [selectDevice_eq hbehind hother, hdevice, Option.bind_some, hfamily]
  exact ⟨device, family, rfl⟩

/-- What is selected is a device of the list and one of its families. -/
theorem selectDevice_belongs {devices : List Device} {device : Device} {family : DeviceQueueFamily}
    (h : selectDevice false storage devices = some (device, family)) :
    device ∈ devices ∧ family ∈ device.getQueueFamilies false ∧ family.dev = device := by
  obtain ⟨⟨before, after, rfl, -⟩, hchosen⟩ :=
    (selectDevice_eq_some_iff hbehind hother devices device family).mp h
  obtain ⟨-, earlier, later, hfamilies, -⟩ := (chooseQueueFamily_eq_some_iff _ _).mp hchosen
  have hmem : family ∈ device.getQueueFamilies false := by simp [hfamilies]
  refine ⟨by simp, hmem, ?_⟩
  obtain ⟨i, _, rfl⟩ := List.mem_mapIdx.mp hmem
  rfl

end Selection

/-- Graphics, transfer and presentation in two steps. -/
theorem DeviceQueueFamily.supports_all_iff (family : DeviceQueueFamily) :
    family.Supports [.graphics, .transfer, .present] ↔
      family.Supports [.graphics, .transfer] ∧ family.Supports [.present] := by
  simp [Supports, and_assoc]

/-- **Device selection**: with the word behind the filters none of their pointers, a device
and family for graphics, transfer and presentation are selected whenever some device has
them exactly when the first device that suits graphics and transfer and the last of its
families that supports both support presentation, or no device has all three. -/
theorem device_selection_suitable_iff (storage : FilterStorage) (w : Nat)
    (hbehind : storage.behind = some w)
    (hother : w ≠ storage.queueFamilyFilter ∧ w ≠ storage.extensionFilter)
    (devices : List Device) :
    SelectsSuitable storage devices ↔
      ((∃ device ∈ devices, device.Suits [.graphics, .transfer, .present]) →
        FirstLastPresents devices) := by
  have hselected := selectDevice_eq_some_iff hbehind hother devices
  constructor
  · intro h hsuitable before device after earlier family later hdevices hbefore hsuits hfamilies
      hsupports hlater
    have hselect : selectDevice false storage devices = some (device, family) :=
      (hselected device family).mpr ⟨⟨before, after, hdevices, hbefore, hsuits⟩,
        (chooseQueueFamily_eq_some_iff _ _).mpr ⟨hsupports, earlier, later, hfamilies, hlater⟩⟩
    obtain ⟨device', family', hselect', -, hall, -⟩ := h.suitable hsuitable
    obtain ⟨rfl, rfl⟩ := Prod.mk.inj (Option.some.inj (hselect.symm.trans hselect'))
    exact (family.supports_all_iff.mp hall).2
  · intro h
    refine ⟨fun hsuitable => ?_, fun device family => selectDevice_belongs hbehind hother⟩
    obtain ⟨d, hd, hextensions, f, hf, hall⟩ := hsuitable
    obtain ⟨device, family, hselect⟩ := exists_selectDevice hbehind hother
      ⟨d, hd, hextensions, f, hf, (f.supports_all_iff.mp hall).1⟩
    obtain ⟨⟨before, after, hdevices, hbefore, hsuits⟩, hchosen⟩ := (hselected device family).mp hselect
    obtain ⟨hsupports, earlier, later, hfamilies, hlater⟩ :=
      (chooseQueueFamily_eq_some_iff _ _).mp hchosen
    have hpresent := h ⟨d, hd, hextensions, f, hf, hall⟩ before device after earlier family later
      hdevices hbefore hsuits hfamilies hsupports hlater
    have hfull := family.supports_all_iff.mpr ⟨hsupports, hpresent⟩
    refine ⟨device, family, hselect, (selectDevice_belongs hbehind hother hselect).1, hfull, ?_⟩
    rw [assertsQueueFamily, containsField_iff_supports]
    intro type htype
    exact hfull type (by grind)

/-- A device with a family for everything, after one for copies. -/
def copiesThenAll : Device :=
  ⟨[⟨0x4, false⟩, ⟨0x7, true⟩], ["VK_KHR_swapchain", "VK_KHR_maintenance1"], .discreteGpu⟩

/-- A device with a family for everything, before one that cannot present. -/
def allThenHidden : Device :=
  ⟨[⟨0x7, true⟩, ⟨0x5, false⟩], ["VK_KHR_swapchain", "VK_KHR_maintenance1"], .discreteGpu⟩

/-- Two filters at addresses, and a null word behind the list. -/
def filterStorage : FilterStorage := ⟨8, 16, by decide, some 0⟩

theorem device_selection_copiesThenAll : SelectsSuitable filterStorage [copiesThenAll] := by
  refine (device_selection_suitable_iff filterStorage 0 rfl (by decide) [copiesThenAll]).mpr
    fun _ before device after earlier family later hdevices _ _ hfamilies hsupports _ => ?_
  have hpresent : ∀ family ∈ copiesThenAll.getQueueFamilies false,
      family.Supports [.graphics, .transfer] → family.Supports [.present] := by decide
  have hmem : device ∈ [copiesThenAll] := by simp [hdevices]
  obtain rfl := List.mem_singleton.mp hmem
  exact hpresent family (by simp [hfamilies]) hsupports

/-- The device can do everything in a window, and the swapchain's assertion fires: the family
that was kept is the last that can draw and copy. -/
theorem device_selection_hidden :
    allThenHidden.Suits [.graphics, .transfer, .present] ∧
    (selectDevice false filterStorage [allThenHidden]).map
      (fun selected => (selected.2.index, assertsQueueFamily selected.2)) = some (1, false) ∧
    ¬ SelectsSuitable filterStorage [allThenHidden] := by
  have hsuits : allThenHidden.Suits [.graphics, .transfer, .present] := by
    refine ⟨by decide, ⟨allThenHidden, 0, typesSupported false ⟨0x7, true⟩⟩, ?_, by decide⟩
    simp [allThenHidden, Device.getQueueFamilies]
  have hselect : selectDevice false filterStorage [allThenHidden] =
      some (allThenHidden, ⟨allThenHidden, 1, typesSupported false ⟨0x5, false⟩⟩) := by
    rw [selectDevice_eq rfl (by decide)]
    decide
  refine ⟨hsuits, by rw [hselect]; decide, fun h => ?_⟩
  obtain ⟨device, family, hselect', -, hall, -⟩ := h.suitable ⟨_, List.mem_singleton_self _, hsuits⟩
  obtain ⟨rfl, rfl⟩ := Prod.mk.inj (Option.some.inj (hselect.symm.trans hselect'))
  exact absurd hall (by decide)

end Hardware
end Vk
end Topaz
