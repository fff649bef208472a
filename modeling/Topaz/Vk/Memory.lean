import Topaz.EnumField

/-!
# Topaz.Vk.Memory

The memory of a physical device.  `MemoryProperties` asks the driver for the memory types
of a device and keeps the properties of each as a field, always in the order of
`supportedTypes`; `get_modules_matching` then compares fields with `==`.  So a module is
found by the fields that were built in that order, and by no other.
-/

namespace Topaz
namespace Vk

inductive MemoryType where
  | deviceLocal
  | hostVisible
  | hostCoherent
  | hostCached
deriving DecidableEq, Repr

/-- The property bit of a memory type. -/
def MemoryType.bit : MemoryType → BitVec 32
  | .deviceLocal => 0x1
  | .hostVisible => 0x2
  | .hostCoherent => 0x4
  | .hostCached => 0x8

abbrev MemoryTypeField := EnumField MemoryType

/-- A `VkMemoryType`, as the driver describes it. -/
structure VkMemoryType where
  propertyFlags : BitVec 32
  heapIndex : BitVec 32

/-- A memory module, with the address of the device it belongs to. -/
structure MemoryModule where
  device : Nat
  types : MemoryTypeField
  index : Nat
  heapIndex : BitVec 32

/-- The types that `parse_field` looks for, in its order. -/
def supportedTypes : List MemoryType := [.deviceLocal, .hostVisible, .hostCoherent, .hostCached]

def parseField (flags : BitVec 32) : MemoryTypeField :=
  supportedTypes.foldl (fun field t => if flags &&& t.bit ≠ 0 then field.insert t else field) ⟨[]⟩

/-- `MemoryProperties::MemoryProperties`: a module for every memory type. -/
def memoryProperties (device : Nat) (memoryTypes : List VkMemoryType) : List MemoryModule :=
  memoryTypes.mapIdx fun i vkType =>
    ⟨device, parseField vkType.propertyFlags, i, vkType.heapIndex⟩

def getModulesMatching (modules : List MemoryModule) (field : MemoryTypeField) :
    List MemoryModule := modules.filter fun mod => mod.types.equal field

/-- A query finds every module with its memory types. -/
def FindsModules (modules : List MemoryModule) (field : MemoryTypeField) : Prop :=
  ∀ mod ∈ modules, mod.types.values = field.values → mod ∈ getModulesMatching modules field

theorem elements_parseField (flags : BitVec 32) : (parseField flags).elements =
    supportedTypes.filter fun t => flags &&& t.bit ≠ 0 := by
  have h := EnumField.elements_foldl_insert ⟨[]⟩ (fun t : MemoryType => flags &&& t.bit ≠ 0)
    (show supportedTypes.Nodup by decide) (by simp)
  simpa [parseField] using h

/-- The field of a module is in the order of `supportedTypes`. -/
theorem elements_of_mem_memoryProperties {device : Nat} {memoryTypes : List VkMemoryType}
    {mod : MemoryModule} (h : mod ∈ memoryProperties device memoryTypes) :
    mod.types.elements = supportedTypes.filter mod.types.contains := by
  obtain ⟨i, hi, rfl⟩ := List.mem_mapIdx.mp h
  have hall : ∀ t, t ∈ supportedTypes := by
    intro t
    cases t <;> decide
  simp only [elements_parseField]
  apply List.filter_congr
  intro t _
  simp [EnumField.contains, elements_parseField, hall]

theorem findsModules_iff (device : Nat) (memoryTypes : List VkMemoryType)
    (field : MemoryTypeField) :
    FindsModules (memoryProperties device memoryTypes) field ↔
      ((∃ mod ∈ memoryProperties device memoryTypes, mod.types.values = field.values) →
        field.elements = supportedTypes.filter field.contains) := by
  -- the order that modules with the values of the field have them in
  have horder : ∀ mod ∈ memoryProperties device memoryTypes, mod.types.values = field.values →
      mod.types.elements = supportedTypes.filter field.contains := by
    intro mod hmem hvalues
    rw [elements_of_mem_memoryProperties hmem]
    apply List.filter_congr
    intro t _
    rw [Bool.eq_iff_iff, EnumField.contains_iff, EnumField.contains_iff, hvalues]
  simp only [FindsModules, getModulesMatching, List.mem_filter, EnumField.equal,
    decide_eq_true_eq]
  constructor
  · intro h hmod
    obtain ⟨mod, hmem, hvalues⟩ := hmod
    rw [← (h mod hmem hvalues).2, horder mod hmem hvalues]
  · intro h mod hmem hvalues
    exact ⟨hmem, by rw [horder mod hmem hvalues, h ⟨mod, hmem, hvalues⟩]⟩

/-- **Fields as sets**: of two fields however built, the first behaves as the set of its
values exactly when it has no value twice and, if the second has the same values, it has
them in the same order; and a query for memory finds the modules with its types exactly
when there are none or its values are in the order of `supportedTypes`. -/
theorem enum_fields_are_sets_iff {E : Type} [DecidableEq E] {w : Nat} (underlying : E → BitVec w)
    (program : List (EnumField.Statement E)) (f g : Nat) (device : Nat)
    (memoryTypes : List VkMemoryType) (query : List (EnumField.Statement MemoryType)) (q : Nat) :
    let fields := EnumField.build program
    let field := EnumField.build query q
    (EnumField.BehavesAsSet underlying fields f g ↔ (fields f).elements.Nodup ∧
      ((fields f).values = (fields g).values → (fields f).elements = (fields g).elements)) ∧
    (FindsModules (memoryProperties device memoryTypes) field ↔
      ((∃ mod ∈ memoryProperties device memoryTypes, mod.types.values = field.values) →
        field.elements = supportedTypes.filter field.contains)) := by
  intro fields field
  exact ⟨EnumField.behavesAsSet_iff underlying fields f g,
    findsModules_iff device memoryTypes field⟩

/-- Fields with two values in either order, and one with a value twice. -/
def hostFields : List (EnumField.Statement MemoryType) :=
  [.initialise 0 [.hostVisible, .hostCoherent], .orAssign 1 .hostCoherent,
    .assignOr 1 1 .hostVisible, .initialise 2 [.hostVisible, .hostVisible]]

/-- The first two have the same values and are not equal, the third has one value and
counts two, and the second finds no host memory. -/
theorem enum_fields_not_sets :
    let fields := EnumField.build hostFields
    ((fields 0).values = (fields 1).values ∧ (fields 0).equal (fields 1) = false) ∧
    ((fields 2).values.card = 1 ∧ (fields 2).count = 2) ∧
    ¬ FindsModules (memoryProperties 0 [⟨0x6, 0⟩]) (fields 1) := by
  refine ⟨by decide, by decide, ?_⟩
  intro h
  have hmem := h ⟨0, parseField 0x6, 0, 0⟩ (by simp [memoryProperties]) (by decide)
  exact absurd (List.mem_filter.mp hmem).2 (by decide)

end Vk
end Topaz
