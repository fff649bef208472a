import Mathlib.Logic.Function.Basic
import Mathlib.Data.List.Nodup
import Mathlib.Data.Option.Basic

/-!
# Topaz.PartialMap

Partial maps from addresses: values put at several places at once, and relations between two
maps that are kept when both change at one place.
-/

namespace Topaz

section Place

variable {α : Type}

/-- Put values at several places, one after the other. -/
def place (f : Nat → Option α) (keys : List Nat) (xs : List (Option α)) : Nat → Option α :=
  (keys.zip xs).foldl (fun f p => Function.update f p.1 p.2) f

theorem place_cons (f : Nat → Option α) (k : Nat) (keys : List Nat) (x : Option α)
    (xs : List (Option α)) :
    place f (k :: keys) (x :: xs) = place (Function.update f k x) keys xs := rfl

/-- Other places are left alone. -/
theorem place_of_notMem {f : Nat → Option α} {keys : List Nat} {xs : List (Option α)} {k : Nat}
    (h : k ∉ keys) : place f keys xs k = f k := by
  induction keys generalizing f xs with
  | nil => rfl
  | cons k' keys ih =>
      rw [List.mem_cons, not_or] at h
      obtain ⟨hne, hnot⟩ := h
      cases xs with
      | nil => rfl
      | cons x xs => rw [place_cons, ih hnot, Function.update_of_ne hne]

/-- Each place gets the value at its position, if no place is named twice. -/
theorem place_getElem {f : Nat → Option α} {keys : List Nat} {xs : List (Option α)} {j k : Nat}
    {x : Option α} (hnodup : keys.Nodup) (hk : keys[j]? = some k) (hx : xs[j]? = some x) :
    place f keys xs k = x := by
  induction keys generalizing f xs j with
  | nil => simp at hk
  | cons k' keys ih =>
      obtain ⟨hnot, hnodup⟩ := List.nodup_cons.mp hnodup
      cases xs with
      | nil => simp at hx
      | cons x' xs =>
          rw [place_cons]
          cases j with
          | zero =>
              simp only [List.getElem?_cons_zero, Option.some.injEq] at hk hx
              subst hk hx
              rw [place_of_notMem hnot, Function.update_self]
          | succ j => exact ih hnodup hk hx

end Place

/-! ## relations -/

/-- What is related to a value is a value. -/
theorem exists_of_rel_some {α β : Type} {R : α → β → Prop} {a : α} {y : Option β}
    (h : Option.Rel R (some a) y) : ∃ b, y = some b ∧ R a b := by
  cases h with
  | some hab => exact ⟨_, rfl, hab⟩

/-- Nothing is related to nothing only. -/
theorem eq_none_of_rel_none {α β : Type} {R : α → β → Prop} {y : Option β}
    (h : Option.Rel R (none : Option α) y) : y = none := by
  cases h
  rfl

/-- Two maps stay related if related values are put at one place of both. -/
theorem rel_update {α β : Type} {R : α → β → Prop} {f : Nat → Option α} {g : Nat → Option β}
    {k : Nat} (h : ∀ o, o ≠ k → Option.Rel R (f o) (g o)) {x : Option α} {y : Option β}
    (hxy : Option.Rel R x y) (o : Nat) :
    Option.Rel R (Function.update f k x o) (Function.update g k y o) := by
  by_cases ho : o = k
  · subst ho
    rwa [Function.update_self, Function.update_self]
  · rw [Function.update_of_ne ho, Function.update_of_ne ho]
    exact h o ho

/-- A weaker relation holds wherever a stronger one does. -/
theorem rel_mono {α β : Type} {R R' : α → β → Prop} (h : ∀ a b, R a b → R' a b) {x : Option α}
    {y : Option β} (hxy : Option.Rel R x y) : Option.Rel R' x y := by
  cases hxy with
  | none => exact .none
  | some hab => exact .some (h _ _ hab)

end Topaz
