import Topaz.Core.Transform
import Topaz.SignedArithmetic

/-!
# Topaz.Core.VectorEquality

`operator==` of vectors with signed integer elements.  It takes elements to differ when
their distance is at least `std::numeric_limits<T>::epsilon()`, which for integers is 0, so
that all elements differ, also equal ones.

An element of a type of `w` bits is subtracted in the promoted type, in which overflow is
undefined; so is the absolute value of the least value of that type.
-/

namespace Topaz
namespace Core

/-! ## elements -/

/-- The width of the type that elements of `w` bits are promoted to: `int` has 32. -/
def promoted (w : Nat) : Nat := max w 32

namespace Vector

variable {w S : Nat}

/-- `(*this)[i] - rhs[i]`. -/
def difference (x y : BitVec w) : Option Int := checked (promoted w) (x.toInt - y.toInt)

/-- `std::abs((*this)[i] - rhs[i])`. -/
def distance (x y : BitVec w) : Option Int := do
  let d ← difference x y
  checked (promoted w) d.natAbs

/-! ## the operators -/

/-- `std::numeric_limits<T>::epsilon()` of an integer type. -/
def epsilon : Int := 0

/-- The loop of `operator==` over the indices that are left. -/
def equalFrom (v rhs : Vector (BitVec w) S) : List (Fin S) → Option Bool
  | [] => some true
  | i :: is => do
      let d ← distance (v i) (rhs i)
      if epsilon ≤ d then some false else v.equalFrom rhs is

/-- `operator==`; `none` if an element overflows. -/
def equal (v rhs : Vector (BitVec w) S) : Option Bool := v.equalFrom rhs (List.finRange S)

/-- `operator-(rhs)`: `operator-=` of a copy. -/
def sub {T : Type*} [Sub T] (v rhs : Vector T S) : Vector T S := v.forElements fun i x => x - rhs i

instance {T : Type*} [Sub T] : Sub (Vector T S) := ⟨sub⟩

@[simp] theorem sub_apply {T : Type*} [Sub T] (v rhs : Vector T S) (i : Fin S) :
    (v - rhs) i = v i - rhs i := forElements_apply v _ i

/-- `operator-` takes back `operator+`. -/
theorem add_sub_eq_self (v rhs : Vector (BitVec w) S) : v + rhs - rhs = v := by
  refine Vector.ext fun i => ?_
  rw [sub_apply, add_apply, BitVec.add_sub_cancel]

/-! ## what the loop finds -/

theorem distance_self (x : BitVec w) : distance x x = some 0 := by
  simp [distance, difference, checked_zero]

theorem distance_nonneg {x y : BitVec w} {d : Int} (h : distance x y = some d) : 0 ≤ d := by
  obtain ⟨e, -, hd⟩ := Option.bind_eq_some_iff.mp h
  rw [← eq_of_checked_eq_some hd]
  exact Int.natCast_nonneg _

/-- The first comparison finds a difference, whatever the elements. -/
theorem equalFrom_cons (v rhs : Vector (BitVec w) S) (i : Fin S) (is : List (Fin S)) :
    v.equalFrom rhs (i :: is) = (distance (v i) (rhs i)).map fun _ => false := by
  unfold equalFrom
  cases hd : distance (v i) (rhs i) with
  | none => rfl
  | some d =>
      have hle : epsilon ≤ d := distance_nonneg hd
      simp [hle]

theorem equal_zero (v rhs : Vector (BitVec w) 0) : v.equal rhs = some true := rfl

theorem equal_succ (v rhs : Vector (BitVec w) (S + 1)) :
    v.equal rhs = (distance (v 0) (rhs 0)).map fun _ => false := by
  rw [equal, List.finRange_succ, equalFrom_cons]

/-- Vectors compare equal only if they have no elements. -/
theorem equal_eq_true_iff (v rhs : Vector (BitVec w) S) : v.equal rhs = some true ↔ S = 0 := by
  cases S with
  | zero => simp [equal_zero]
  | succ S => simp [equal_succ]

/-- The distance of an element to itself is 0, and that is a difference. -/
theorem equal_self (v : Vector (BitVec w) S) : v.equal v = some (decide (S = 0)) := by
  cases S with
  | zero => rfl
  | succ S => simp [equal_succ, distance_self]

/-! ## the laws of equality -/

/-- The differences of the elements do not overflow. -/
def DifferencesFit (v rhs : Vector (BitVec w) S) : Prop :=
  ∀ i, (difference (v i) (rhs i)).isSome

instance (v rhs : Vector (BitVec w) S) : Decidable (v.DifferencesFit rhs) :=
  inferInstanceAs (Decidable (∀ i, (difference (v i) (rhs i)).isSome = true))

/-- The sums of the elements do not overflow. -/
def SumsFit (v rhs : Vector (BitVec w) S) : Prop :=
  ∀ i, (checked (promoted w) ((v i).toInt + (rhs i).toInt)).isSome

/-- The absolute value of the first difference does not overflow. -/
def FirstDistanceFits (v rhs : Vector (BitVec w) S) : Prop :=
  ∀ h : 0 < S, (distance (v ⟨0, h⟩) (rhs ⟨0, h⟩)).isSome

/-- What `operator==` is expected to be for vectors of `S` elements of `w` bits. -/
structure EqualityLaws (w S : Nat) : Prop where
  equal_iff : ∀ v rhs : Vector (BitVec w) S, v.DifferencesFit rhs →
    (v.equal rhs = some true ↔ ∀ i, v i = rhs i)
  refl : ∀ v : Vector (BitVec w) S, v.equal v = some true
  symm : ∀ v rhs : Vector (BitVec w) S, v.equal rhs = some true → rhs.equal v = some true
  trans : ∀ u v rhs : Vector (BitVec w) S,
    u.equal v = some true → v.equal rhs = some true → u.equal rhs = some true
  cancel : ∀ v rhs : Vector (BitVec w) S, v.SumsFit rhs → (v + rhs - rhs).equal v = some true

theorem equalityLaws_iff (w S : Nat) : EqualityLaws w S ↔ S = 0 := by
  constructor
  · intro h
    exact (equal_eq_true_iff _ _).mp (h.refl ⟨fun _ => 0⟩)
  · rintro rfl
    exact
      { equal_iff := fun v rhs _ => ⟨fun _ i => i.elim0, fun _ => equal_zero v rhs⟩
        refl := fun v => equal_zero v v
        symm := fun v rhs _ => equal_zero rhs v
        trans := fun u v rhs _ _ => equal_zero u rhs
        cancel := fun v rhs _ => equal_zero _ v }

/-- `operator==` of two vectors tells whether their elements are equal exactly if there are none,
or if they differ and the first distance can be computed. -/
theorem equal_eq_decide_iff (v rhs : Vector (BitVec w) S) :
    v.equal rhs = some (decide (∀ i, v i = rhs i)) ↔
      S = 0 ∨ (∃ i, v i ≠ rhs i) ∧ v.FirstDistanceFits rhs := by
  cases S with
  | zero => simp [equal_zero]
  | succ S =>
      have hfits : v.FirstDistanceFits rhs ↔ (distance (v 0) (rhs 0)).isSome :=
        ⟨fun h => h (Nat.succ_pos S), fun h _ => h⟩
      rw [equal_succ, hfits]
      cases distance (v 0) (rhs 0) with
      | none => simp
      | some d => simp

/-- **Integer vectors**: `operator==` is an equality exactly for vectors without elements.  For
others it is right about two vectors only if they differ: a vector does not compare equal to
itself, nor to what is left of a sum. -/
theorem vector_equality_iff (v rhs : Vector (BitVec w) S) :
    (EqualityLaws w S ↔ S = 0) ∧
    (v.equal rhs = some (decide (∀ i, v i = rhs i)) ↔
      S = 0 ∨ (∃ i, v i ≠ rhs i) ∧ v.FirstDistanceFits rhs) ∧
    v.equal v = some (decide (S = 0)) ∧
    (v + rhs - rhs).equal v = some (decide (S = 0)) := by
  refine ⟨equalityLaws_iff w S, equal_eq_decide_iff v rhs, equal_self v, ?_⟩
  rw [add_sub_eq_self, equal_self]

/-- A vector of one `int` does not compare equal to itself. -/
theorem vector_unequal_to_itself :
    DifferencesFit (⟨fun _ => 7⟩ : Vector (BitVec 32) 1) ⟨fun _ => 7⟩ ∧
    equal (⟨fun _ => 7⟩ : Vector (BitVec 32) 1) ⟨fun _ => 7⟩ = some false ∧
    ¬ EqualityLaws 32 1 := by
  refine ⟨by decide, by decide, ?_⟩
  intro h
  exact absurd (h.refl ⟨fun _ => 7⟩) (by decide)

end Vector
end Core
end Topaz
