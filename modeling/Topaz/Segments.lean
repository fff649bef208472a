import Mathlib.Algebra.BigOperators.Group.List.Basic
import Mathlib.Algebra.Ring.Nat

/-!
# Topaz.Segments

Lists laid end to end.  `before g xs k` adds up a weight `g` over the first `k`
elements of `xs`; when the weights are the lengths of segments, that is where
segment `k` starts in their concatenation:

* `slice_flatMap_before` — the slice at that position *is* segment `k`;
* `before_add_le` — no two segments overlap;
* `before_add_le_sum` — every segment ends inside the concatenation.
-/

namespace Topaz

/-- The `len` elements of `l` from position `start` on. -/
def slice {α : Type} (l : List α) (start len : Nat) : List α := (l.drop start).take len

section Slice

variable {α β : Type}

@[simp] theorem length_slice (l : List α) (start len : Nat) :
    (slice l start len).length = min len (l.length - start) := by
  simp [slice]

theorem slice_map (g : α → β) (l : List α) (start len : Nat) :
    slice (l.map g) start len = (slice l start len).map g := by
  simp [slice, List.map_drop, List.map_take]

theorem getElem?_slice (l : List α) (start len i : Nat) :
    (slice l start len)[i]? = if i < len then l[start + i]? else none := by
  simp [slice, List.getElem?_take]

/-- A slice of a slice. -/
theorem slice_slice (l : List α) {start len a b : Nat} (h : a + b ≤ len) :
    slice (slice l start len) a b = slice l (start + a) b := by
  unfold slice
  rw [List.drop_take, List.take_take, List.drop_drop, Nat.min_eq_left (by omega)]

end Slice

/-- The weight of the first `k` elements. -/
def before {ι : Type} (g : ι → Nat) (xs : List ι) (k : Nat) : Nat := ((xs.take k).map g).sum

section Before

variable {ι α : Type} (g : ι → Nat) (xs : List ι)

theorem before_succ {k : Nat} (hk : k < xs.length) :
    before g xs (k + 1) = before g xs k + g xs[k] := by
  rw [before, List.take_add_one, List.getElem?_eq_getElem hk, List.map_append, List.sum_append]
  simp [before]

/-- What follows the first `k` elements does not count. -/
theorem before_append_left (ys : List ι) {k : Nat} (hk : k ≤ xs.length) :
    before g (xs ++ ys) k = before g xs k := by
  rw [before, List.take_append_of_le_length hk, before]

theorem before_length : before g xs xs.length = (xs.map g).sum := by
  simp [before]

theorem before_mono {i j : Nat} (hij : i ≤ j) : before g xs i ≤ before g xs j := by
  obtain ⟨d, hd⟩ := Nat.exists_eq_add_of_le hij
  rw [hd, before, before, List.take_add, List.map_append, List.sum_append]
  exact Nat.le_add_right _ _

/-- Segment `i` ends before a later segment starts. -/
theorem before_add_le {i j : Nat} (hi : i < xs.length) (hij : i < j) :
    before g xs i + g xs[i] ≤ before g xs j := by
  rw [← before_succ g xs hi]
  exact before_mono g xs hij

/-- Segment `k` ends within the whole. -/
theorem before_add_le_sum {k : Nat} (hk : k < xs.length) :
    before g xs k + g xs[k] ≤ (xs.map g).sum := by
  rw [← before_length]
  exact before_add_le g xs hk hk

/-- Weights in another unit. -/
theorem before_mul {h : ι → Nat} (c : Nat) {k : Nat} (hg : ∀ x ∈ xs, g x = h x * c) :
    before g xs k = before h xs k * c := by
  have hsum : ∀ ys : List ι, (∀ x ∈ ys, g x = h x * c) →
      (ys.map g).sum = (ys.map h).sum * c := by
    intro ys
    induction ys with
    | nil => simp
    | cons y ys ih =>
        intro hy
        rw [List.map_cons, List.sum_cons, List.map_cons, List.sum_cons, Nat.add_mul,
          hy y List.mem_cons_self, ih fun x hx => hy x (List.mem_cons_of_mem y hx)]
  exact hsum _ fun x hx => hg x (List.mem_of_mem_take hx)

/-- The concatenation holds every segment at its own position. -/
theorem slice_flatMap_before (f : ι → List α) {k : Nat} (hk : k < xs.length) :
    slice (xs.flatMap f) (before (fun x => (f x).length) xs k) (f xs[k]).length = f xs[k] := by
  have hdrop : (xs.flatMap f).drop (before (fun x => (f x).length) xs k) =
      (xs.drop k).flatMap f := by
    have h := List.drop_sum_flatten (xs.map f) k
    rw [List.map_map, ← List.map_take, ← List.map_drop] at h
    exact h
  rw [slice, hdrop, List.drop_eq_getElem_cons hk, List.flatMap_cons, List.take_left]

theorem length_flatMap_eq_sum (f : ι → List α) :
    (xs.flatMap f).length = (xs.map fun x => (f x).length).sum := by
  rw [List.length_flatMap]

end Before

end Topaz
