import Topaz.Loop
import Mathlib.Algebra.Group.Defs
import Mathlib.Algebra.Ring.Defs
import Mathlib.Data.Fintype.Pi

/-!
# Topaz.Core.Matrix

`tz::Matrix<T, R, C>` and its elementwise operations.

The store is an array of `C` arrays of `R` elements; element `(row, column)` is
`mat[column][row]`.  The operations go over all rows `i < R` and all columns `j < C` in
two nested loops and reach each element through `operator()`, whose assertions bound
both of its arguments by `R`.
-/

namespace Topaz
namespace Core

/-- The store of a `tz::Matrix`: `std::array<std::array<T, R>, C>`. -/
structure Matrix (T : Type*) (R C : Nat) where
  mat : Fin C → Fin R → T

namespace Matrix

variable {T : Type*} {R C : Nat}

/-! ## access -/

/-- `operator()(row, column)`. -/
def get (m : Matrix T R C) (row : Fin R) (column : Fin C) : T := m.mat column row

instance : CoeFun (Matrix T R C) fun _ => Fin R → Fin C → T := ⟨get⟩

/-- Assignment to `operator()(row, column)`. -/
def set (m : Matrix T R C) (row : Fin R) (column : Fin C) (value : T) : Matrix T R C :=
  ⟨Function.update m.mat column (Function.update (m.mat column) row value)⟩

/-- `operator[](row_idx)`. -/
def row (m : Matrix T R C) (rowIdx : Fin C) : Fin R → T := m.mat rowIdx

/-- Assignment to an element of `operator[](row_idx)`. -/
def setRow (m : Matrix T R C) (rowIdx : Fin C) (idx : Fin R) (value : T) : Matrix T R C :=
  ⟨Function.update m.mat rowIdx (Function.update (m.mat rowIdx) idx value)⟩

@[ext] theorem ext {m m' : Matrix T R C} (h : ∀ i j, m i j = m' i j) : m = m' := by
  obtain ⟨mat⟩ := m
  obtain ⟨mat'⟩ := m'
  have hmat : mat = mat' := by
    funext j i
    exact h i j
  rw [hmat]

instance [DecidableEq T] : DecidableEq (Matrix T R C) := fun m m' =>
  decidable_of_iff (∀ i j, m i j = m' i j) ⟨ext, fun h _ _ => by rw [h]⟩

@[simp] theorem set_apply (m : Matrix T R C) (i : Fin R) (j : Fin C) (value : T) (a : Fin R)
    (b : Fin C) : m.set i j value a b = if a = i ∧ b = j then value else m a b := by
  by_cases hb : b = j
  · subst hb
    simp [set, get, Function.update_apply]
  · simp [set, get, hb]

theorem row_apply (m : Matrix T R C) (i : Fin C) (j : Fin R) : m.row i j = m j i := rfl

theorem setRow_eq (m : Matrix T R C) (i : Fin C) (j : Fin R) (value : T) :
    m.setRow i j value = m.set j i value := rfl

/-! ## elementwise operations -/

/-- A loop over all elements that replaces each of them. -/
def forElements (m : Matrix T R C) (f : Fin R → Fin C → T → T) : Matrix T R C :=
  forCells R C (fun m i j => m.set i j (f i j (m i j))) m

/-- `operator+=(scalar)`. -/
def addAssignScalar [Add T] (m : Matrix T R C) (scalar : T) : Matrix T R C :=
  m.forElements fun _ _ x => x + scalar

/-- `operator+=(matrix)`. -/
def addAssign [Add T] (m matrix : Matrix T R C) : Matrix T R C :=
  m.forElements fun i j x => x + matrix i j

/-- `operator-=(scalar)`. -/
def subAssignScalar [Sub T] (m : Matrix T R C) (scalar : T) : Matrix T R C :=
  m.forElements fun _ _ x => x - scalar

/-- `operator-=(matrix)`. -/
def subAssign [Sub T] (m matrix : Matrix T R C) : Matrix T R C :=
  m.forElements fun i j x => x - matrix i j

/-- `operator*=(scalar)`. -/
def mulAssignScalar [Mul T] (m : Matrix T R C) (scalar : T) : Matrix T R C :=
  m.forElements fun _ _ x => x * scalar

/-- `identity()`; the store is zero before it is filled. -/
def identity [Zero T] [One T] : Matrix T R C :=
  forElements ⟨fun _ _ => 0⟩ fun i j _ => if i.val = j.val then 1 else 0

/-- `operator==(matrix)`: nothing is compared once a difference has been found. -/
def equal [DecidableEq T] (m matrix : Matrix T R C) : Bool :=
  forCells R C (fun result i j => result && m i j = matrix i j) true

/-- `operator==(scalar)`. -/
def equalScalar [DecidableEq T] (m : Matrix T R C) (scalar : T) : Bool :=
  forCells R C (fun result i j => result && m i j = scalar) true

/-- Every element is replaced once. -/
@[simp] theorem forElements_apply (m : Matrix T R C) (f : Fin R → Fin C → T → T) (a : Fin R)
    (b : Fin C) : m.forElements f a b = f a b (m a b) :=
  forCells_update get f (fun _ _ _ _ _ => set_apply ..) m a b

theorem identity_apply [Zero T] [One T] (i : Fin R) (j : Fin C) :
    (identity : Matrix T R C) i j = if i.val = j.val then 1 else 0 := by
  simp [identity]

theorem identity_apply_square [Zero T] [One T] (i j : Fin R) :
    (identity : Matrix T R R) i j = if i = j then 1 else 0 := by
  simp [identity_apply, Fin.ext_iff]

/-- A loop that compares finds whether all comparisons hold. -/
theorem forCells_and (p : Fin R → Fin C → Bool) :
    forCells R C (fun result i j => result && p i j) true =
      (List.finRange R ×ˢ List.finRange C).all fun x => p x.1 x.2 := by
  have hfoldl : ∀ (xs : List (Fin R × Fin C)) (b : Bool),
      xs.foldl (fun result x => result && p x.1 x.2) b = (b && xs.all fun x => p x.1 x.2) := by
    intro xs
    induction xs with
    | nil => simp
    | cons x xs ih => simp [ih, Bool.and_assoc]
  rw [forCells_eq_foldl, hfoldl, Bool.true_and]

end Matrix

/-! ## bounds -/

/-- The assertions of `operator()(row, column)`: its own two, and the one of the
`operator[]` that it calls. -/
def Asserts (R row column : Nat) : Prop := row < R ∧ column < R ∧ column < R

/-- The cell of the store that `operator()(row, column)` accesses, if it is one. -/
def cell (R C row column : Nat) : Option (Fin C × Fin R) :=
  if h : column < C ∧ row < R then some (⟨column, h.1⟩, ⟨row, h.2⟩) else none

/-- The elements that the loops of the elementwise operations visit, in order. -/
def visits (R C : Nat) : List (Fin R × Fin C) := List.finRange R ×ˢ List.finRange C

/-- The elements that `operator==` visits: it returns at the first difference. -/
def compares {R C : Nat} (differ : Fin R × Fin C → Bool) :
    List (Fin R × Fin C) → List (Fin R × Fin C)
  | [] => []
  | p :: ps => if differ p then [p] else p :: compares differ ps

/-- How often the accesses `ps` reach the cell `x` of the store. -/
def reaches {R C : Nat} (ps : List (Fin R × Fin C)) (x : Fin C × Fin R) : Nat :=
  (ps.map fun p => cell R C p.1 p.2).count (some x)

/-- Access is exact for `R` rows and `C` columns. -/
structure AccessExact (R C : Nat) : Prop where
  asserts : ∀ row column, Asserts R row column ↔ row < R ∧ column < C
  inBounds : ∀ row column, Asserts R row column → (cell R C row column).isSome = true
  distinct : ∀ row column row' column' x, cell R C row column = some x →
    cell R C row' column' = some x → row = row' ∧ column = column'
  /-- The elementwise operations are loops over the visited elements. -/
  loops : ∀ (T : Type) (m : Matrix T R C) (f : Fin R → Fin C → T → T), m.forElements f =
    (visits R C).foldl (fun m p => m.set p.1 p.2 (f p.1 p.2 (m p.1 p.2))) m
  /-- The loops pass every assertion. -/
  loopAsserts : ∀ p ∈ visits R C, Asserts R p.1 p.2
  /-- The loops that run to their end visit every cell once. -/
  loopOnce : ∀ x, reaches (visits R C) x = 1
  /-- The elements that `operator==` has visited decide its result. -/
  compared : ∀ (T : Type) [DecidableEq T] (m matrix : Matrix T R C), m.equal matrix =
    (compares (fun p => m p.1 p.2 != matrix p.1 p.2) (visits R C)).all
      fun p => m p.1 p.2 == matrix p.1 p.2
  /-- `operator==` passes every assertion. -/
  compareAsserts : ∀ differ, ∀ p ∈ compares differ (visits R C), Asserts R p.1 p.2
  /-- `operator==` visits every cell once if it finds no difference, and no cell twice. -/
  compareOnce : ∀ differ x, reaches (compares differ (visits R C)) x ≤ 1 ∧
    ((∀ p, differ p = false) → reaches (compares differ (visits R C)) x = 1)

theorem cell_eq_some {R C row column : Nat} {x : Fin C × Fin R} :
    cell R C row column = some x ↔ x.1.val = column ∧ x.2.val = row := by
  unfold cell
  grind

theorem cell_val {R C : Nat} (p : Fin R × Fin C) : cell R C p.1 p.2 = some (p.2, p.1) :=
  cell_eq_some.mpr ⟨rfl, rfl⟩

theorem count_visits {R C : Nat} (p : Fin R × Fin C) : (visits R C).count p = 1 := by
  have hnodup : (visits R C).Nodup := (List.nodup_finRange R).product (List.nodup_finRange C)
  apply List.count_eq_one_of_mem hnodup
  exact List.pair_mem_product.mpr ⟨List.mem_finRange p.1, List.mem_finRange p.2⟩

theorem reaches_eq_count {R C : Nat} (ps : List (Fin R × Fin C)) (x : Fin C × Fin R) :
    reaches ps x = ps.count x.swap := by
  have hswap : (fun p : Fin R × Fin C => cell R C p.1 p.2) = fun p => some p.swap :=
    funext cell_val
  have hinj : Function.Injective fun p : Fin R × Fin C => some p.swap :=
    (Option.some_injective _).comp Prod.swap_injective
  unfold reaches
  rw [hswap]
  exact List.count_map_of_injective _ _ hinj x.swap

theorem compares_sublist {R C : Nat} (differ : Fin R × Fin C → Bool)
    (ps : List (Fin R × Fin C)) : (compares differ ps).Sublist ps := by
  induction ps with
  | nil => simp [compares]
  | cons p ps ih =>
      unfold compares
      split
      · simp
      · simpa using ih

theorem compares_eq_self {R C : Nat} {differ : Fin R × Fin C → Bool}
    (h : ∀ p, differ p = false) (ps : List (Fin R × Fin C)) : compares differ ps = ps := by
  induction ps with
  | nil => simp [compares]
  | cons p ps ih => simp [compares, h p, ih]

/-- The elementwise operations go over the visited elements. -/
theorem forElements_eq_visits {T : Type*} {R C : Nat} (m : Matrix T R C)
    (f : Fin R → Fin C → T → T) :
    m.forElements f =
      (visits R C).foldl (fun m p => m.set p.1 p.2 (f p.1 p.2 (m p.1 p.2))) m :=
  forCells_eq_foldl _ _

/-- The elements that `operator==` has visited decide its result. -/
theorem equal_eq_compares {T : Type*} [DecidableEq T] {R C : Nat} (m matrix : Matrix T R C) :
    m.equal matrix = (compares (fun p => m p.1 p.2 != matrix p.1 p.2) (visits R C)).all
      fun p => m p.1 p.2 == matrix p.1 p.2 := by
  rw [Matrix.equal, Matrix.forCells_and, visits]
  induction List.finRange R ×ˢ List.finRange C with
  | nil => simp [compares]
  | cons p ps ih =>
      by_cases hp : m p.1 p.2 = matrix p.1 p.2
      · simp [compares, hp, ih]
      · simp [compares, hp]

/-- **Element access**: it is exact exactly for square matrices. -/
theorem access_exact_iff (R C : Nat) (hR : 1 ≤ R) : AccessExact R C ↔ R = C := by
  constructor
  · intro h
    -- the first row, at the smaller of the two bounds
    have hassert := h.asserts 0 (min R C)
    unfold Asserts at hassert
    omega
  · intro h
    subst h
    have hasserts : ∀ row column, Asserts R row column ↔ row < R ∧ column < R := by
      unfold Asserts
      omega
    exact {
      asserts := hasserts
      inBounds := by
        intro row column h
        rw [hasserts] at h
        simp [cell, h.1, h.2]
      distinct := by
        intro row column row' column' x hx hx'
        rw [cell_eq_some] at hx hx'
        omega
      loops := fun _ => forElements_eq_visits
      loopAsserts := fun p _ => (hasserts p.1 p.2).mpr ⟨p.1.isLt, p.2.isLt⟩
      loopOnce := fun x => by rw [reaches_eq_count, count_visits]
      compared := fun _ _ => equal_eq_compares
      compareAsserts := fun _ p _ => (hasserts p.1 p.2).mpr ⟨p.1.isLt, p.2.isLt⟩
      compareOnce := by
        intro differ x
        have hle := (compares_sublist differ (visits R R)).count_le x.swap
        rw [count_visits] at hle
        rw [reaches_eq_count]
        constructor
        · exact hle
        · intro hnone
          rw [compares_eq_self hnone, count_visits] }

theorem access_exact_four : AccessExact 4 4 := (access_exact_iff 4 4 (by decide)).mpr rfl

/-- With more columns than rows an assertion fires on an element that exists, with more
rows than columns none fires on one that does not. -/
theorem access_inexact_rectangular :
    (¬ Asserts 3 0 3 ∧ cell 3 4 0 3 = some (3, 0) ∧ ¬ AccessExact 3 4) ∧
      Asserts 4 0 3 ∧ cell 4 3 0 3 = none ∧ ¬ AccessExact 4 3 := by
  refine ⟨⟨by unfold Asserts; decide, by decide, ?_⟩, by unfold Asserts; decide, by decide, ?_⟩
  · intro h
    have hassert := h.asserts 0 3
    unfold Asserts at hassert
    omega
  · intro h
    have hassert := h.asserts 0 3
    unfold Asserts at hassert
    omega

end Core
end Topaz
