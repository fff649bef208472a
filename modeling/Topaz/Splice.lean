import Mathlib.Data.List.Basic

/-!
# Topaz.Splice

Replacing a range of a list, and finding the first place where a list occurs in
another.

`ruler` is a text that tells by one of its elements where it has been put: `n` copies
of one element and then `n` of another.
-/

namespace Topaz

variable {α : Type}

/-! ## replacing a range -/

/-- `text` in the place of the `len` elements from `pos` on. -/
def splice (source : List α) (pos len : Nat) (text : List α) : List α :=
  source.take pos ++ text ++ source.drop (pos + len)

/-- Replacing the middle of three parts. -/
theorem splice_append (before middle after text : List α) {pos len : Nat}
    (hpos : before.length = pos) (hlen : middle.length = len) :
    splice (before ++ middle ++ after) pos len text = before ++ text ++ after := by
  subst hpos hlen
  simp [splice, List.drop_append]

/-- What follows the range is kept. -/
theorem drop_splice {source : List α} {pos : Nat} (len : Nat) (text : List α)
    (h : pos ≤ source.length) :
    (splice source pos len text).drop (pos + text.length) = source.drop (pos + len) := by
  have htake : (source.take pos ++ text).length = pos + text.length := by
    rw [List.length_append, List.length_take, Nat.min_eq_left h]
  rw [splice, ← htake, List.drop_left]

/-- The new text stands at the start of the range. -/
theorem getElem?_splice {source text : List α} {pos j : Nat} (len : Nat)
    (h : pos ≤ source.length) (hj : j < text.length) :
    (splice source pos len text)[pos + j]? = text[j]? := by
  have htake : (source.take pos).length = pos := by
    rw [List.length_take, Nat.min_eq_left h]
  rw [splice, List.append_assoc, List.getElem?_append_right (by omega), htake,
    Nat.add_sub_cancel_left, List.getElem?_append_left hj]

/-- Replacing a range by as many elements: those are new, all others are kept. -/
theorem getElem?_splice_self {source text : List α} {pos : Nat}
    (h : pos + text.length ≤ source.length) (j : Nat) :
    (splice source pos text.length text)[j]? =
      if pos ≤ j ∧ j < pos + text.length then text[j - pos]? else source[j]? := by
  have htake : (source.take pos).length = pos := by
    rw [List.length_take, Nat.min_eq_left (by omega)]
  by_cases hbefore : j < pos
  · rw [if_neg (by omega), splice, List.append_assoc, List.getElem?_append_left (by omega),
      List.getElem?_take_of_lt hbefore]
  · by_cases hin : j < pos + text.length
    · obtain ⟨i, rfl⟩ := Nat.exists_eq_add_of_le (Nat.le_of_not_lt hbefore)
      rw [if_pos ⟨by omega, hin⟩, getElem?_splice _ (by omega) (by omega),
        Nat.add_sub_cancel_left]
    · rw [if_neg (by omega), splice, List.getElem?_append_right (by simp; omega),
        List.getElem?_drop]
      congr 1
      simp only [List.length_append, htake]
      omega

@[simp] theorem length_splice_self {source text : List α} {pos : Nat}
    (h : pos + text.length ≤ source.length) :
    (splice source pos text.length text).length = source.length := by
  simp only [splice, List.length_append, List.length_take, List.length_drop]
  omega

/-- `n` times `a`, then `n` times `b`. -/
def ruler (n : Nat) (a b : α) : List α := List.replicate n a ++ List.replicate n b

@[simp] theorem length_ruler (n : Nat) (a b : α) : (ruler n a b).length = n + n := by
  simp [ruler]

theorem getElem?_ruler_left {n j : Nat} (a b : α) (h : j < n) : (ruler n a b)[j]? = some a := by
  simp [ruler, List.getElem?_append_left, h]

theorem getElem?_ruler_right {n j : Nat} (a b : α) (hn : n ≤ j) (h : j < n + n) :
    (ruler n a b)[j]? = some b := by
  rw [ruler, List.getElem?_append_right (by simpa using hn)]
  simp only [List.length_replicate, List.getElem?_replicate]
  rw [if_pos (by omega)]

/-- A ruler put at `pos` shows at the last of its first elements if it should stand less
than its half further on. -/
theorem pos_eq_of_ruler {source : List α} {a b : α} (hab : a ≠ b) {n pos expected len : Nat}
    (hpos : pos ≤ source.length) (hle : pos ≤ expected) (hn : expected < pos + n)
    (h : (splice source pos len (ruler n a b))[expected + (n - 1)]? = some a) :
    pos = expected := by
  by_contra hne
  have hindex : expected + (n - 1) = pos + (expected - pos + (n - 1)) := by omega
  rw [hindex, getElem?_splice len hpos (by rw [length_ruler]; omega),
    getElem?_ruler_right a b (by omega) (by omega)] at h
  exact hab (Option.some.inj h).symm

/-- A ruler that is seen between two texts, from `p` on, was put there, in front of the
second one. -/
theorem splice_ruler {source before rest : List α} {a b : α} (hab : a ≠ b) {n p pos len : Nat}
    (hpos : pos ≤ source.length) (hle : pos ≤ p + before.length)
    (hn : p + before.length < pos + n)
    (h : (splice source pos len (ruler n a b)).drop p = before ++ ruler n a b ++ rest) :
    pos = p + before.length ∧ source.drop (pos + len) = rest := by
  have hshown : (splice source pos len (ruler n a b))[p + before.length + (n - 1)]? = some a := by
    rw [Nat.add_assoc, ← List.getElem?_drop, h, List.append_assoc,
      List.getElem?_append_right (by omega), Nat.add_sub_cancel_left,
      List.getElem?_append_left (by rw [length_ruler]; omega),
      getElem?_ruler_left a b (by omega)]
  have hplace := pos_eq_of_ruler hab hpos hle hn hshown
  constructor
  · exact hplace
  · rw [← drop_splice len (ruler n a b) hpos, hplace, Nat.add_assoc, ← List.drop_drop,
      ← hplace, h, ← List.length_append, List.drop_left]

/-! ## finding -/

/-- The first index at which `needle` occurs in `source`; past the end if it does not. -/
def find [BEq α] (source needle : List α) : Nat :=
  (List.range (source.length + 1)).findIdx fun i => needle.isPrefixOf (source.drop i)

/-- A suffix is found no later than where it stands. -/
theorem find_drop_le [BEq α] [LawfulBEq α] (source : List α) (p : Nat) :
    find source (source.drop p) ≤ p := by
  by_contra hlt
  have hnot := List.not_of_lt_findIdx (Nat.lt_of_not_le hlt)
  have hself : (source.drop p).isPrefixOf (source.drop p) = true :=
    List.isPrefixOf_iff_prefix.mpr (List.prefix_refl _)
  simp [hself] at hnot

/-- A suffix stands where it is found. -/
theorem prefix_drop_find [BEq α] [LawfulBEq α] {source : List α} {p : Nat}
    (hp : p ≤ source.length) : source.drop p <+: source.drop (find source (source.drop p)) := by
  have hlt : find source (source.drop p) < (List.range (source.length + 1)).length := by
    rw [List.length_range]
    exact Nat.lt_succ_of_le (Nat.le_trans (find_drop_le source p) hp)
  have hfound := ((List.findIdx_eq hlt).mp rfl).1
  rwa [List.getElem_range, List.isPrefixOf_iff_prefix] at hfound

theorem find_self [BEq α] [LawfulBEq α] (source : List α) : find source source = 0 := by
  have hle := find_drop_le source 0
  simpa using hle

end Topaz
