import Topaz.Core.Product
import Mathlib.LinearAlgebra.Matrix.NonsingularInverse

/-!
# Topaz.Core.Inverse

`Matrix::inverse` of a 4×4 matrix: sixteen cofactors that are written out, the
determinant from the first row and the first column of them, and a division.

The function addresses both matrices by a flat index, row by row.  The proofs go through
the mathematical matrix of the same elements:

* `asMatrix_cofactors` — the sixteen values are the adjugate;
* `determinant_eq_det` — the sum that is compared with zero is the determinant;
* `asMatrix_inverse` — the result is the inverse.
-/

namespace Topaz
namespace Core
namespace Matrix

variable {K : Type*}

/-! ## the function -/

/-- The row and the column of a flat index. -/
def flat (idx : Fin 16) : Fin 4 × Fin 4 :=
  let rowId := idx.val / 4
  let columnId := idx.val - rowId * 4
  (⟨rowId, by omega⟩, ⟨columnId, by omega⟩)

/-- The lambda `cat`: the element at a flat index. -/
def cat (m : Matrix K 4 4) (idx : Fin 16) : K := m (flat idx).1 (flat idx).2

/-- Assignment to the lambda `at`. -/
def setAt (m : Matrix K 4 4) (idx : Fin 16) (value : K) : Matrix K 4 4 :=
  m.set (flat idx).1 (flat idx).2 value

/-- The assignments of `inverse`, in order. -/
def assignments [Ring K] (m : Matrix K 4 4) : List (Fin 16 × K) :=
  [(0, cat m 5 * cat m 10 * cat m 15 - cat m 5 * cat m 11 * cat m 14
      - cat m 9 * cat m 6 * cat m 15 + cat m 9 * cat m 7 * cat m 14
      + cat m 13 * cat m 6 * cat m 11 - cat m 13 * cat m 7 * cat m 10),
   (4, -cat m 4 * cat m 10 * cat m 15 + cat m 4 * cat m 11 * cat m 14
      + cat m 8 * cat m 6 * cat m 15 - cat m 8 * cat m 7 * cat m 14
      - cat m 12 * cat m 6 * cat m 11 + cat m 12 * cat m 7 * cat m 10),
   (8, cat m 4 * cat m 9 * cat m 15 - cat m 4 * cat m 11 * cat m 13
      - cat m 8 * cat m 5 * cat m 15 + cat m 8 * cat m 7 * cat m 13
      + cat m 12 * cat m 5 * cat m 11 - cat m 12 * cat m 7 * cat m 9),
   (12, -cat m 4 * cat m 9 * cat m 14 + cat m 4 * cat m 10 * cat m 13
      + cat m 8 * cat m 5 * cat m 14 - cat m 8 * cat m 6 * cat m 13
      - cat m 12 * cat m 5 * cat m 10 + cat m 12 * cat m 6 * cat m 9),
   (1, -cat m 1 * cat m 10 * cat m 15 + cat m 1 * cat m 11 * cat m 14
      + cat m 9 * cat m 2 * cat m 15 - cat m 9 * cat m 3 * cat m 14
      - cat m 13 * cat m 2 * cat m 11 + cat m 13 * cat m 3 * cat m 10),
   (5, cat m 0 * cat m 10 * cat m 15 - cat m 0 * cat m 11 * cat m 14
      - cat m 8 * cat m 2 * cat m 15 + cat m 8 * cat m 3 * cat m 14
      + cat m 12 * cat m 2 * cat m 11 - cat m 12 * cat m 3 * cat m 10),
   (9, -cat m 0 * cat m 9 * cat m 15 + cat m 0 * cat m 11 * cat m 13
      + cat m 8 * cat m 1 * cat m 15 - cat m 8 * cat m 3 * cat m 13
      - cat m 12 * cat m 1 * cat m 11 + cat m 12 * cat m 3 * cat m 9),
   (13, cat m 0 * cat m 9 * cat m 14 - cat m 0 * cat m 10 * cat m 13
      - cat m 8 * cat m 1 * cat m 14 + cat m 8 * cat m 2 * cat m 13
      + cat m 12 * cat m 1 * cat m 10 - cat m 12 * cat m 2 * cat m 9),
   (2, cat m 1 * cat m 6 * cat m 15 - cat m 1 * cat m 7 * cat m 14
      - cat m 5 * cat m 2 * cat m 15 + cat m 5 * cat m 3 * cat m 14
      + cat m 13 * cat m 2 * cat m 7 - cat m 13 * cat m 3 * cat m 6),
   (6, -cat m 0 * cat m 6 * cat m 15 + cat m 0 * cat m 7 * cat m 14
      + cat m 4 * cat m 2 * cat m 15 - cat m 4 * cat m 3 * cat m 14
      - cat m 12 * cat m 2 * cat m 7 + cat m 12 * cat m 3 * cat m 6),
   (10, cat m 0 * cat m 5 * cat m 15 - cat m 0 * cat m 7 * cat m 13
      - cat m 4 * cat m 1 * cat m 15 + cat m 4 * cat m 3 * cat m 13
      + cat m 12 * cat m 1 * cat m 7 - cat m 12 * cat m 3 * cat m 5),
   (14, -cat m 0 * cat m 5 * cat m 14 + cat m 0 * cat m 6 * cat m 13
      + cat m 4 * cat m 1 * cat m 14 - cat m 4 * cat m 2 * cat m 13
      - cat m 12 * cat m 1 * cat m 6 + cat m 12 * cat m 2 * cat m 5),
   (3, -cat m 1 * cat m 6 * cat m 11 + cat m 1 * cat m 7 * cat m 10
      + cat m 5 * cat m 2 * cat m 11 - cat m 5 * cat m 3 * cat m 10
      - cat m 9 * cat m 2 * cat m 7 + cat m 9 * cat m 3 * cat m 6),
   (7, cat m 0 * cat m 6 * cat m 11 - cat m 0 * cat m 7 * cat m 10
      - cat m 4 * cat m 2 * cat m 11 + cat m 4 * cat m 3 * cat m 10
      + cat m 8 * cat m 2 * cat m 7 - cat m 8 * cat m 3 * cat m 6),
   (11, -cat m 0 * cat m 5 * cat m 11 + cat m 0 * cat m 7 * cat m 9
      + cat m 4 * cat m 1 * cat m 11 - cat m 4 * cat m 3 * cat m 9
      - cat m 8 * cat m 1 * cat m 7 + cat m 8 * cat m 3 * cat m 5),
   (15, cat m 0 * cat m 5 * cat m 10 - cat m 0 * cat m 6 * cat m 9
      - cat m 4 * cat m 1 * cat m 10 + cat m 4 * cat m 2 * cat m 9
      + cat m 8 * cat m 1 * cat m 6 - cat m 8 * cat m 2 * cat m 5)]

/-- The matrix after the assignments. -/
def cofactors [Ring K] (m : Matrix K 4 4) : Matrix K 4 4 :=
  (assignments m).foldl (fun mat a => mat.setAt a.1 a.2) identity

/-- The value that `inverse` asserts not to be zero. -/
def determinant [Ring K] (m : Matrix K 4 4) : K :=
  let mat := cofactors m
  cat m 0 * cat mat 0 + cat m 1 * cat mat 4 + cat m 2 * cat mat 8 + cat m 3 * cat mat 12

/-- `inverse()`; it returns nothing where its assertion fires. -/
def inverse [Field K] [DecidableEq K] (m : Matrix K 4 4) : Option (Matrix K 4 4) :=
  if determinant m ≠ 0 then
    let determinant := 1 / determinant m
    some (forLoop 16 (fun mat i => mat.setAt i (cat mat i * determinant)) (cofactors m))
  else none

/-! ## flat indices -/

theorem flat_injective : Function.Injective flat := by decide

theorem flat_surjective : Function.Surjective flat := by decide

@[simp] theorem cat_setAt (m : Matrix K 4 4) (i j : Fin 16) (value : K) :
    cat (m.setAt i value) j = if j = i then value else cat m j := by
  simp [cat, setAt, ← Prod.ext_iff, flat_injective.eq_iff]

/-- The loop at the end of `inverse` multiplies every element once. -/
theorem cat_forLoop [Mul K] (m : Matrix K 4 4) (factor : K) (idx : Fin 16) :
    cat (forLoop 16 (fun mat i => mat.setAt i (cat mat i * factor)) m) idx = cat m idx * factor :=
  forLoop_update cat (fun _ x => x * factor) (fun _ _ _ => cat_setAt ..) m idx

theorem cat_assign_of_notMem (l : List (Fin 16 × K)) (mat : Matrix K 4 4) (idx : Fin 16)
    (h : idx ∉ l.map Prod.fst) :
    cat (l.foldl (fun mat a => mat.setAt a.1 a.2) mat) idx = cat mat idx := by
  induction l generalizing mat with
  | nil => simp
  | cons b l ih =>
      rw [List.map_cons, List.mem_cons, not_or] at h
      simp [ih _ h.2, h.1]

/-- Assignments to different indices all last. -/
theorem cat_assign_of_mem (l : List (Fin 16 × K)) (mat : Matrix K 4 4)
    (hnodup : (l.map Prod.fst).Nodup) :
    ∀ a ∈ l, cat (l.foldl (fun mat a => mat.setAt a.1 a.2) mat) a.1 = a.2 := by
  induction l generalizing mat with
  | nil => simp
  | cons b l ih =>
      rw [List.map_cons, List.nodup_cons] at hnodup
      rw [List.forall_mem_cons, List.foldl_cons]
      constructor
      · simp [cat_assign_of_notMem l _ _ hnodup.1]
      · exact ih _ hnodup.2

theorem map_fst_assignments [Ring K] (m : Matrix K 4 4) :
    (assignments m).map Prod.fst = [0, 4, 8, 12, 1, 5, 9, 13, 2, 6, 10, 14, 3, 7, 11, 15] := rfl

/-- Every element is assigned once. -/
theorem exists_assignment [Ring K] (m : Matrix K 4 4) (idx : Fin 16) :
    ∃ a ∈ assignments m, a.1 = idx := by
  have hmem : ∀ idx : Fin 16,
      idx ∈ ([0, 4, 8, 12, 1, 5, 9, 13, 2, 6, 10, 14, 3, 7, 11, 15] : List (Fin 16)) := by decide
  exact List.mem_map.mp (map_fst_assignments m ▸ hmem idx)

theorem cat_cofactors [Ring K] (m : Matrix K 4 4) :
    ∀ a ∈ assignments m, cat (cofactors m) a.1 = a.2 := by
  apply cat_assign_of_mem
  rw [map_fst_assignments]
  decide

end Matrix
end Core

/-! ## the mathematical matrix -/

open Core.Matrix

variable {K : Type*}

theorem ext_flat {A B : Matrix (Fin 4) (Fin 4) K}
    (h : ∀ idx, A (flat idx).1 (flat idx).2 = B (flat idx).1 (flat idx).2) : A = B := by
  ext i j
  obtain ⟨idx, hidx⟩ := flat_surjective (i, j)
  simpa [hidx] using h idx

theorem asMatrix_flat (m : Core.Matrix K 4 4) (idx : Fin 16) :
    asMatrix m (flat idx).1 (flat idx).2 = cat m idx := rfl

section

variable [CommRing K] (m : Core.Matrix K 4 4)

theorem assignments_eq_adjugate :
    ∀ a ∈ assignments m, a.2 = (asMatrix m).adjugate (flat a.1).1 (flat a.1).2 := by
  simp only [assignments, List.forall_mem_cons, Matrix.adjugate_fin_succ_eq_det_submatrix,
    Matrix.det_fin_three, Matrix.submatrix_apply, asMatrix_apply]
  refine ⟨?_, ?_, ?_, ?_, ?_, ?_, ?_, ?_, ?_, ?_, ?_, ?_, ?_, ?_, ?_, ?_, by simp⟩
  -- each is a minor of three rows and three columns, up to the order of its terms
  all_goals
    simp [cat, flat, Fin.succAbove]
    ring

/-- The values that are written out are the adjugate. -/
theorem asMatrix_cofactors : asMatrix (cofactors m) = (asMatrix m).adjugate := by
  apply ext_flat
  intro idx
  obtain ⟨a, ha, rfl⟩ := exists_assignment m idx
  exact (cat_cofactors m a ha).trans (assignments_eq_adjugate m a ha)

/-- The sum over the first row is the determinant. -/
theorem determinant_eq_det : determinant m = (asMatrix m).det := by
  have hrow : (asMatrix m * asMatrix (cofactors m)) 0 0 = (asMatrix m).det := by
    rw [asMatrix_cofactors, Matrix.mul_adjugate]
    simp
  rw [← hrow, Matrix.mul_apply, Fin.sum_univ_four]
  rfl

theorem determinant_mul (m' : Core.Matrix K 4 4) :
    determinant (m * m') = determinant m * determinant m' := by
  simp [determinant_eq_det]

theorem mul_eq_identity_iff (m' : Core.Matrix K 4 4) :
    m * m' = identity ↔ asMatrix m * asMatrix m' = 1 := by
  rw [← asMatrix_inj, asMatrix_mul, asMatrix_identity]

end

/-- A right inverse is a left inverse. -/
theorem mul_eq_identity_comm [CommRing K] {n : Nat} {m m' : Core.Matrix K n n} :
    m * m' = identity ↔ m' * m = identity := by
  rw [← asMatrix_inj, ← asMatrix_inj, asMatrix_mul, asMatrix_mul, asMatrix_identity]
  exact mul_eq_one_comm

section

variable [Field K] {m m' : Core.Matrix K 4 4}

theorem determinant_ne_zero_of_mul (h : m * m' = identity) : determinant m ≠ 0 := by
  have hdet : determinant m * determinant m' = 1 := by
    rw [← determinant_mul, h]
    simp [determinant_eq_det]
  exact left_ne_zero_of_mul_eq_one hdet

variable [DecidableEq K]

/-- Where its assertion holds `inverse` returns the inverse. -/
theorem asMatrix_inverse (h : determinant m ≠ 0) :
    ∃ result, inverse m = some result ∧ asMatrix result = (asMatrix m)⁻¹ := by
  rw [inverse, if_pos h]
  refine ⟨_, rfl, ?_⟩
  rw [Matrix.inv_def, ← asMatrix_cofactors, ← determinant_eq_det, Ring.inverse_eq_inv']
  apply ext_flat
  intro idx
  rw [Matrix.smul_apply, asMatrix_flat, asMatrix_flat, cat_forLoop, one_div, smul_eq_mul, mul_comm]

theorem inverse_of_determinant_ne_zero (h : determinant m ≠ 0) :
    ∃ result, inverse m = some result ∧ m * result = identity ∧ result * m = identity := by
  obtain ⟨result, hresult, hinv⟩ := asMatrix_inverse h
  rw [determinant_eq_det, ← isUnit_iff_ne_zero] at h
  have hright : m * result = identity := by
    rw [mul_eq_identity_iff, hinv, Matrix.mul_nonsing_inv _ h]
  exact ⟨result, hresult, hright, mul_eq_identity_comm.mp hright⟩

/-- Whatever is an inverse is what `inverse` returns. -/
theorem inverse_eq_some_of_mul (h : m * m' = identity) : inverse m = some m' := by
  obtain ⟨result, hresult, hinv⟩ := asMatrix_inverse (determinant_ne_zero_of_mul h)
  rw [mul_eq_identity_iff] at h
  rw [hresult, Option.some_inj, ← asMatrix_inj, hinv, Matrix.inv_eq_right_inv h]

end

namespace Core
namespace Matrix

/-- **Inverse**: the determinant that is computed is non-zero exactly for the invertible
matrices, and `inverse` then returns the inverse on both sides. -/
theorem inverse_two_sided {K : Type*} [Field K] [DecidableEq K] (m : Matrix K 4 4) :
    (determinant m ≠ 0 ↔ ∃ n, m * n = identity ∧ n * m = identity) ∧
      (determinant m ≠ 0 →
        ∃ n, m.inverse = some n ∧ m * n = identity ∧ n * m = identity) := by
  refine ⟨⟨?_, ?_⟩, inverse_of_determinant_ne_zero⟩
  · intro h
    obtain ⟨n, -, hn⟩ := inverse_of_determinant_ne_zero h
    exact ⟨n, hn⟩
  · rintro ⟨n, hn, -⟩
    exact determinant_ne_zero_of_mul hn

end Matrix
end Core
end Topaz
