import Mathlib.Data.List.Nodup
import Mathlib.Logic.Equiv.Basic

/-!
# Topaz.Ownership

Objects at addresses that own handles, each handle owned once.

`OwnedOnce` is kept by what happens to such objects: two of them are exchanged (`exchange`,
which is how they are moved), one is put at a free address with new handles (`insert`), and
one is removed and its handles with it (`erase`).
-/

namespace Topaz

/-- The live handles are those that objects own, and each of them is owned once. -/
structure OwnedOnce {α H : Type} (owns : α → List H) (store : Nat → Option α) (live : H → Prop) :
    Prop where
  owned : ∀ {h}, live h → ∃ a x, store a = some x ∧ h ∈ owns x
  isLive : ∀ {a x h}, store a = some x → h ∈ owns x → live h
  unique : ∀ {a b x y h}, store a = some x → store b = some y → h ∈ owns x → h ∈ owns y → a = b
  nodup : ∀ {a x}, store a = some x → (owns x).Nodup

namespace OwnedOnce

variable {α H : Type} {owns : α → List H} {store : Nat → Option α} {live live' : H → Prop}

theorem empty : OwnedOnce owns (fun _ => none) (fun _ => False) where
  owned h := h.elim
  isLive h := by simp at h
  unique h := by simp at h
  nodup h := by simp at h

theorem congr (h : OwnedOnce owns store live) (hlive : ∀ handle, live handle ↔ live' handle) :
    OwnedOnce owns store live' := by
  have heq : live = live' := funext fun handle => propext (hlive handle)
  rwa [← heq]

/-- Only one address owns a live handle. -/
theorem existsUnique (h : OwnedOnce owns store live) {handle : H} (hlive : live handle) :
    ∃! a, ∃ x, store a = some x ∧ handle ∈ owns x := by
  obtain ⟨a, x, ha, hx⟩ := h.owned hlive
  refine ⟨a, ⟨x, ha, hx⟩, ?_⟩
  rintro b ⟨y, hb, hy⟩
  exact h.unique hb ha hy hx

/-- Two objects are exchanged. -/
theorem exchange (h : OwnedOnce owns store live) (a b : Nat) :
    OwnedOnce owns (store ∘ Equiv.swap a b) live where
  owned hlive := by
    obtain ⟨c, x, hc, hx⟩ := h.owned hlive
    refine ⟨Equiv.swap a b c, x, ?_, hx⟩
    rwa [Function.comp_apply, Equiv.swap_apply_self]
  isLive hc hx := h.isLive hc hx
  unique hc hd hx hy := (Equiv.swap a b).injective (h.unique hc hd hx hy)
  nodup hc := h.nodup hc

/-- An object is put at a free address. -/
theorem insert (h : OwnedOnce owns store live) {a : Nat} {x : α} (ha : store a = none)
    (hnodup : (owns x).Nodup) (hnew : ∀ handle ∈ owns x, ¬ live handle) :
    OwnedOnce owns (Function.update store a (some x)) fun handle =>
      live handle ∨ handle ∈ owns x := by
  -- what is at an address afterwards: the new object, or what was there
  have hcases : ∀ {b y}, Function.update store a (some x) b = some y →
      (b = a ∧ y = x) ∨ (b ≠ a ∧ store b = some y) := by
    intro b y hb
    by_cases hba : b = a
    · subst hba
      rw [Function.update_self, Option.some.injEq] at hb
      exact Or.inl ⟨rfl, hb.symm⟩
    · rw [Function.update_of_ne hba] at hb
      exact Or.inr ⟨hba, hb⟩
  constructor
  · rintro handle (hlive | hx)
    · obtain ⟨b, y, hb, hy⟩ := h.owned hlive
      have hba : b ≠ a := by
        rintro rfl
        rw [ha] at hb
        cases hb
      exact ⟨b, y, by rw [Function.update_of_ne hba, hb], hy⟩
    · exact ⟨a, x, Function.update_self .., hx⟩
  · intro b y handle hb hy
    obtain ⟨-, rfl⟩ | ⟨-, hb⟩ := hcases hb
    · exact Or.inr hy
    · exact Or.inl (h.isLive hb hy)
  · intro b c y z handle hb hc hy hz
    obtain ⟨hba, hyx⟩ | ⟨-, hold⟩ := hcases hb
    · obtain ⟨hca, -⟩ | ⟨-, hold'⟩ := hcases hc
      · rw [hba, hca]
      · exact absurd (h.isLive hold' hz) (hnew handle (hyx ▸ hy))
    · obtain ⟨-, hzx⟩ | ⟨-, hold'⟩ := hcases hc
      · exact absurd (h.isLive hold hy) (hnew handle (hzx ▸ hz))
      · exact h.unique hold hold' hy hz
  · intro b y hb
    obtain ⟨-, rfl⟩ | ⟨-, hb⟩ := hcases hb
    · exact hnodup
    · exact h.nodup hb

/-- An object that owns nothing is put at a free address. -/
theorem insert_null (h : OwnedOnce owns store live) {a : Nat} {x : α} (ha : store a = none)
    (hx : owns x = []) : OwnedOnce owns (Function.update store a (some x)) live := by
  have hinsert := h.insert ha (x := x) (by simp [hx]) (by simp [hx])
  simpa [hx] using hinsert

/-- An object is removed. -/
theorem erase (h : OwnedOnce owns store live) {a : Nat} {x : α} (ha : store a = some x) :
    OwnedOnce owns (Function.update store a none) fun handle =>
      live handle ∧ handle ∉ owns x := by
  have hcases : ∀ {b y}, Function.update store a none b = some y → b ≠ a ∧ store b = some y := by
    intro b y hb
    by_cases hba : b = a
    · rw [hba, Function.update_self] at hb
      cases hb
    · rw [Function.update_of_ne hba] at hb
      exact ⟨hba, hb⟩
  constructor
  · rintro handle ⟨hlive, hnot⟩
    obtain ⟨b, y, hb, hy⟩ := h.owned hlive
    have hba : b ≠ a := by
      rintro rfl
      rw [ha, Option.some.injEq] at hb
      exact hnot (hb ▸ hy)
    exact ⟨b, y, by rw [Function.update_of_ne hba, hb], hy⟩
  · intro b y handle hb hy
    obtain ⟨hba, hb⟩ := hcases hb
    exact ⟨h.isLive hb hy, fun hx => hba (h.unique hb ha hy hx)⟩
  · intro b c y z handle hb hc hy hz
    exact h.unique (hcases hb).2 (hcases hc).2 hy hz
  · intro b y hb
    exact h.nodup (hcases hb).2

end OwnedOnce
end Topaz
