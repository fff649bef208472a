import Mathlib.Algebra.BigOperators.Fin
import Mathlib.Data.List.FinRange
import Mathlib.Data.List.ProdSigma

/-!
# Topaz.Loop

Counting loops: `forLoop n body` runs `body` for `0, …, n - 1`, and `forCells m n body`
is two of them, one inside the other.

The rules are those for loop invariants.  An invariant of `forLoop` is indexed by the
number of iterations done, one of `forCells` by the cell that comes next.
-/

namespace Topaz

variable {σ : Type*}

/-- `for(i = 0; i < n; i++) s = body(s, i)`. -/
def forLoop (n : Nat) (body : σ → Fin n → σ) (s : σ) : σ := (List.finRange n).foldl body s

/-- **Loop rule**: an invariant that holds at the start and that every iteration takes one
step further holds at the end. -/
theorem forLoop_invariant {n : Nat} {body : σ → Fin n → σ} (Inv : Nat → σ → Prop) {s : σ}
    (hstart : Inv 0 s) (hstep : ∀ (i : Fin n) (s : σ), Inv i s → Inv (i + 1) (body s i)) :
    Inv n (forLoop n body s) := by
  -- after the first `k` iterations
  have htake : ∀ k ≤ n, Inv k (((List.finRange n).take k).foldl body s) := by
    intro k
    induction k with
    | zero => exact fun _ => hstart
    | succ k ih =>
        intro hk
        have hlt : k < (List.finRange n).length := by
          rw [List.length_finRange]
          omega
        rw [List.take_succ_eq_append_getElem hlt, List.foldl_append, List.getElem_finRange]
        exact hstep ⟨k, hk⟩ _ (ih (Nat.le_of_succ_le hk))
  have hall := htake n le_rfl
  rwa [List.take_of_length_le (by simp)] at hall

/-- A loop whose iteration `i` changes the value at `i` only changes every value once. -/
theorem forLoop_update {α : Type*} {n : Nat} {body : σ → Fin n → σ} (read : σ → Fin n → α)
    (f : Fin n → α → α)
    (hbody : ∀ s i j, read (body s i) j = if j = i then f i (read s i) else read s j)
    (s : σ) (j : Fin n) : read (forLoop n body s) j = f j (read s j) := by
  have hinv : ∀ j : Fin n, read (forLoop n body s) j =
      if j.val < n then f j (read s j) else read s j := by
    apply forLoop_invariant fun k s' => ∀ j : Fin n, read s' j =
      if j.val < k then f j (read s j) else read s j
    · simp
    · grind
  simp [hinv]

/-- A loop that accumulates a sum. -/
theorem forLoop_add {M : Type*} [AddCommMonoid M] {n : Nat} (f : Fin n → M) :
    forLoop n (fun sum i => sum + f i) 0 = ∑ i, f i := by
  rw [Fin.sum_univ_def, List.sum_eq_foldl, List.foldl_map, forLoop]

/-- `for(i = 0; i < m; i++) for(j = 0; j < n; j++) s = body(s, i, j)`. -/
def forCells (m n : Nat) (body : σ → Fin m → Fin n → σ) (s : σ) : σ :=
  forLoop m (fun s i => forLoop n (fun s j => body s i j) s) s

/-- **Rule for nested loops**: an invariant that every cell takes to the next one, and the
end of every row to the start of the next, holds after the last row. -/
theorem forCells_invariant {m n : Nat} {body : σ → Fin m → Fin n → σ} (Inv : Nat → Nat → σ → Prop)
    {s : σ} (hstart : Inv 0 0 s)
    (hcell : ∀ (i : Fin m) (j : Fin n) (s : σ), Inv i j s → Inv i (j + 1) (body s i j))
    (hrow : ∀ (i : Fin m) (s : σ), Inv i n s → Inv (i + 1) 0 s) :
    Inv m 0 (forCells m n body s) := by
  apply forLoop_invariant (fun i => Inv i 0) hstart
  intro i s hs
  apply hrow
  exact forLoop_invariant (fun j => Inv i j) hs fun j s hs => hcell i j s hs

/-- Nested loops that at each cell change the value there only change every value once. -/
theorem forCells_update {α : Type*} {m n : Nat} {body : σ → Fin m → Fin n → σ}
    (read : σ → Fin m → Fin n → α) (f : Fin m → Fin n → α → α)
    (hbody : ∀ s i j a b, read (body s i j) a b =
      if a = i ∧ b = j then f i j (read s i j) else read s a b)
    (s : σ) (a : Fin m) (b : Fin n) : read (forCells m n body s) a b = f a b (read s a b) := by
  have hinv : ∀ a b, read (forCells m n body s) a b =
      if a.val < m ∨ a.val = m ∧ b.val < 0 then f a b (read s a b) else read s a b := by
    apply forCells_invariant fun i j s' => ∀ a b, read s' a b =
      if a.val < i ∨ a.val = i ∧ b.val < j then f a b (read s a b) else read s a b
    · simp
    · grind
    · grind
  simp [hinv]

/-- Two nested loops are one over the cells that they visit. -/
theorem forCells_eq_foldl {m n : Nat} (body : σ → Fin m → Fin n → σ) (s : σ) :
    forCells m n body s =
      (List.finRange m ×ˢ List.finRange n).foldl (fun s p => body s p.1 p.2) s := by
  unfold forCells forLoop
  induction List.finRange m generalizing s with
  | nil => simp
  | cons i rows ih => simp [List.product_cons, List.foldl_map, ih]

end Topaz
