import Mathlib.Data.Finset.Card

/-!
# Topaz.EnumField

`tz::EnumField`: the values of an enumeration that have been selected, in the order
in which they were given.

A field is used as a set, and `values` is that set.  The questions that go through
`contains` answer for the set (`containsField_iff`, `values_insert`), and so does the
conversion to the enumeration, which only collects bits (`getLsbD_toEnum`).  `==` and
`count` look at the list: they answer for the set as long as the list has no value
twice and fields with the same values have them in the same order
(`equal_iff_values_iff`, `count_eq_card_iff`).
-/

namespace Topaz

structure EnumField (E : Type) where
  elements : List E
deriving DecidableEq, Repr

namespace EnumField

variable {E : Type} [DecidableEq E]

/-- `contains(type)`: `std::find` over the elements. -/
def contains (field : EnumField E) (type : E) : Bool := field.elements.contains type

/-- `contains(field)`: every element of the other field is contained. -/
def containsField (field other : EnumField E) : Bool := other.elements.all field.contains

def count (field : EnumField E) : Nat := field.elements.length

/-- `operator==` is defaulted: it compares the vectors. -/
def equal (field rhs : EnumField E) : Bool := field.elements = rhs.elements

/-- What `operator|=` makes of the field it is called on. -/
def insert (field : EnumField E) (type : E) : EnumField E :=
  if field.contains type then field else ⟨field.elements ++ [type]⟩

/-- The conversion to the enumeration, as its underlying integer; `none` if the
assertion that there is a value fires. -/
def toEnum {w : Nat} (underlying : E → BitVec w) (field : EnumField E) : Option (BitVec w) :=
  match field.elements with
  | [] => none
  | front :: _ =>
      some (field.elements.foldl (fun e ele => e ||| underlying ele) (underlying front))

/-! ## fields in a program -/

/-- The fields of a program, at their addresses. -/
abbrev Fields (E : Type) := Nat → EnumField E

/-- `*this |= type`. -/
def orAssign (fields : Fields E) (this : Nat) (type : E) : Fields E :=
  Function.update fields this ((fields this).insert type)

/-- `*this | type`: a copy is made at `cpy`, and the value is assigned to it. -/
def or (fields : Fields E) (this cpy : Nat) (type : E) : Fields E :=
  orAssign (Function.update fields cpy (fields this)) cpy type

/-- The ways to make fields: an initializer list, `|=`, and the result of `|`. -/
inductive Statement (E : Type) where
  | initialise (field : Nat) (types : List E)
  | orAssign (field : Nat) (type : E)
  | assignOr (field source : Nat) (type : E)

/-- The constructor for initializer lists keeps the list as it is. -/
def exec (fields : Fields E) : Statement E → Fields E
  | .initialise field types => Function.update fields field ⟨types⟩
  | .orAssign field type => orAssign fields field type
  | .assignOr field source type => or fields source field type

/-- The fields after some statements; to begin with they are empty. -/
def build (program : List (Statement E)) : Fields E := program.foldl exec fun _ => ⟨[]⟩

/-! ## the set of a field -/

/-- The values of a field. -/
def values (field : EnumField E) : Finset E := field.elements.toFinset

variable (field other : EnumField E) (type : E)

@[simp] theorem contains_iff : field.contains type = true ↔ type ∈ field.values := by
  simp [contains, values]

theorem containsField_iff : field.containsField other = true ↔ other.values ⊆ field.values := by
  simp [containsField, Finset.subset_iff, values, contains]

@[simp] theorem values_insert : (field.insert type).values = Insert.insert type field.values := by
  unfold insert
  split
  · next hin => rw [Finset.insert_eq_of_mem ((field.contains_iff type).mp hin)]
  · ext e
    simp [values]

theorem equal_iff_values_iff : (field.equal other = true ↔ field.values = other.values) ↔
    (field.values = other.values → field.elements = other.elements) := by
  have hsame : field.elements = other.elements → field.values = other.values := by
    intro h
    rw [values, h, values]
  simp only [equal, decide_eq_true_eq]
  exact ⟨fun h => h.mpr, fun h => ⟨hsame, h⟩⟩

theorem count_eq_card_iff : field.count = field.values.card ↔ field.elements.Nodup := by
  rw [count, values, List.card_toFinset, ← List.dedup_eq_self]
  constructor
  · intro h
    exact (List.dedup_sublist field.elements).eq_of_length h.symm
  · intro h
    rw [h]

/-- `|=` never repeats a value; only an initializer list can. -/
theorem nodup_insert (h : field.elements.Nodup) : (field.insert type).elements.Nodup := by
  unfold insert
  split
  · exact h
  · next hnot =>
      have hnot : type ∉ field.elements := by simpa [values] using hnot
      rw [← List.concat_eq_append, List.nodup_concat]
      exact ⟨hnot, h⟩

/-- A loop that inserts some of a list of new values appends these. -/
theorem elements_foldl_insert (p : E → Bool) {types : List E} (hnodup : types.Nodup)
    (hnew : ∀ t ∈ types, t ∉ field.elements) :
    (types.foldl (fun field t => if p t then field.insert t else field) field).elements =
      field.elements ++ types.filter p := by
  induction types generalizing field with
  | nil => simp
  | cons t types ih =>
      obtain ⟨ht, hnodup⟩ := List.nodup_cons.mp hnodup
      obtain ⟨htnew, hnew⟩ := List.forall_mem_cons.mp hnew
      rw [List.foldl_cons]
      by_cases hp : p t
      · have hinsert : field.insert t = ⟨field.elements ++ [t]⟩ := by simp [insert, contains, htnew]
        rw [if_pos hp, hinsert, ih _ hnodup (by grind), List.filter_cons_of_pos hp]
        simp
      · rw [if_neg hp, ih _ hnodup hnew, List.filter_cons_of_neg hp]

/-! ## the conversion -/

section Conversion

variable {w : Nat} (underlying : E → BitVec w)

omit [DecidableEq E] in
theorem getLsbD_foldl_or (elements : List E) (e : BitVec w) (i : Nat) :
    (elements.foldl (fun e ele => e ||| underlying ele) e).getLsbD i = true ↔
      e.getLsbD i = true ∨ ∃ ele ∈ elements, (underlying ele).getLsbD i = true := by
  induction elements generalizing e with
  | nil => simp
  | cons ele elements ih => simp [ih, or_assoc]

/-- The conversion has the bits that some value of the field has. -/
theorem getLsbD_toEnum {field : EnumField E} {e : BitVec w}
    (h : field.toEnum underlying = some e) (i : Nat) :
    e.getLsbD i = true ↔ ∃ ele ∈ field.values, (underlying ele).getLsbD i = true := by
  unfold toEnum at h
  split at h
  · contradiction
  · next front rest heq =>
      rw [← Option.some.inj h, getLsbD_foldl_or, heq]
      simp [values, heq]

theorem toEnum_eq_none_iff : field.toEnum underlying = none ↔ field.values = ∅ := by
  unfold toEnum values
  split <;> simp [*]

/-- So it does not depend on the order, nor on repetitions. -/
theorem toEnum_congr (h : field.values = other.values) :
    field.toEnum underlying = other.toEnum underlying := by
  cases hfield : field.toEnum underlying with
  | none =>
      rw [toEnum_eq_none_iff, h] at hfield
      exact ((other.toEnum_eq_none_iff underlying).mpr hfield).symm
  | some e =>
      have hne : other.toEnum underlying ≠ none := by
        rw [Ne, toEnum_eq_none_iff, ← h, ← toEnum_eq_none_iff _ underlying, hfield]
        simp
      obtain ⟨e', hother⟩ := Option.ne_none_iff_exists'.mp hne
      rw [hother, Option.some.injEq]
      apply BitVec.eq_of_getLsbD_eq
      intro i _
      rw [Bool.eq_iff_iff, getLsbD_toEnum underlying hfield, getLsbD_toEnum underlying hother, h]

end Conversion

/-! ## a field as a set -/

/-- `|` is about the copy: the field it is called on stays as it is. -/
theorem or_spec (fields : Fields E) {this cpy : Nat} (h : cpy ≠ this) :
    (or fields this cpy type cpy).values = Insert.insert type (fields this).values ∧
    or fields this cpy type this = fields this := by
  simp [or, orAssign, h.symm]

/-- The fields at `f` and `g` behave as the sets of their values. -/
structure BehavesAsSet {w : Nat} (underlying : E → BitVec w) (fields : Fields E) (f g : Nat) :
    Prop where
  equal : (fields f).equal (fields g) = true ↔ (fields f).values = (fields g).values
  count : (fields f).count = (fields f).values.card
  contains : (fields f).containsField (fields g) = true ↔ (fields g).values ⊆ (fields f).values
  or : ∀ cpy type, cpy ≠ f →
    (or fields f cpy type cpy).values = Insert.insert type (fields f).values ∧
    or fields f cpy type f = fields f
  toEnum : (fields f).values.Nonempty → ∃ e, (fields f).toEnum underlying = some e ∧
    ∀ i, e.getLsbD i = true ↔ ∃ type ∈ (fields f).values, (underlying type).getLsbD i = true
  toEnum_congr : (fields f).values = (fields g).values →
    (fields f).toEnum underlying = (fields g).toEnum underlying

/-- They do exactly when the first has no value twice, and the same values stand in the
same order. -/
theorem behavesAsSet_iff {w : Nat} (underlying : E → BitVec w) (fields : Fields E) (f g : Nat) :
    BehavesAsSet underlying fields f g ↔ (fields f).elements.Nodup ∧
      ((fields f).values = (fields g).values → (fields f).elements = (fields g).elements) := by
  rw [← count_eq_card_iff, ← equal_iff_values_iff]
  constructor
  · intro h
    exact ⟨h.count, h.equal⟩
  · intro h
    refine ⟨h.2, h.1, containsField_iff _ _, fun cpy type hne => or_spec type fields hne, ?_,
      toEnum_congr _ _ underlying⟩
    intro hne
    have hsome : (fields f).toEnum underlying ≠ none := by
      rw [Ne, toEnum_eq_none_iff]
      exact hne.ne_empty
    obtain ⟨e, he⟩ := Option.ne_none_iff_exists'.mp hsome
    exact ⟨e, he, getLsbD_toEnum underlying he⟩

/-- A statement changes one field, to an initializer list or by an insertion. -/
theorem nodup_exec {fields : Fields E} (h : ∀ f, (fields f).elements.Nodup)
    {statement : Statement E}
    (hinit : ∀ field types, statement = .initialise field types → types.Nodup) (f : Nat) :
    (exec fields statement f).elements.Nodup := by
  have hupdate : ∀ (field : Nat) (v : EnumField E), v.elements.Nodup →
      ∀ f, (Function.update fields field v f).elements.Nodup := by
    intro field v hv
    rw [Function.forall_update_iff fields (p := fun _ v => v.elements.Nodup)]
    exact ⟨hv, fun f _ => h f⟩
  cases statement with
  | initialise field types => exact hupdate field _ (hinit field types rfl) f
  | orAssign field type => exact hupdate field _ (nodup_insert _ type (h field)) f
  | assignOr field source type =>
      have hinsert := hupdate field _ (nodup_insert _ type (h source)) f
      simpa [exec, or, orAssign] using hinsert

/-- A program whose initializer lists repeat no value builds no field that does. -/
theorem nodup_build (program : List (Statement E))
    (hinit : ∀ field types, .initialise field types ∈ program → types.Nodup) (f : Nat) :
    (build program f).elements.Nodup := by
  refine List.foldlRecOn program exec
    (motive := fun fields => ∀ f, (fields f).elements.Nodup) ?_ ?_ f
  · intro _
    exact List.nodup_nil
  · intro fields hfields statement hmem
    exact nodup_exec hfields fun field types heq => hinit field types (heq ▸ hmem)

end EnumField

end Topaz
