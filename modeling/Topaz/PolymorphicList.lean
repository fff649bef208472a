import Mathlib.Data.List.Nodup
import Mathlib.Data.List.TakeWhile

/-!
# Topaz.PolymorphicList

`tz::PolymorphicList`, a vector of owning pointers, and the loops over it.

An iterator is a position in the storage, and `operator==` of two iterators compares the
pointers that are stored there.  So every comparison with `end()` reads the word behind
the last pointer, which is whatever the memory holds, or is not readable at all: a vector
that never had an element has no storage.  A loop then stops at the first element whose
pointer is that word (`result_walk`): at the end, if there is none (`result_walk_of_notMem`).
-/

namespace Topaz

/-- Objects with the addresses of their allocations.  Every element owns its own. -/
structure PolymorphicList (α : Type) where
  elements : List (Nat × α)
  distinct : (elements.map Prod.fst).Nodup

namespace PolymorphicList

variable {α : Type}

def empty : PolymorphicList α := ⟨[], List.nodup_nil⟩

def length (l : PolymorphicList α) : Nat := l.elements.length

/-- The objects, in order. -/
def objects (l : PolymorphicList α) : List α := l.elements.map Prod.snd

/-- `emplace`: a new object, at an address of its own. -/
def emplace (l : PolymorphicList α) (address : Nat) (object : α)
    (h : address ∉ l.elements.map Prod.fst) : PolymorphicList α :=
  ⟨l.elements ++ [(address, object)], by
    rw [List.map_append, List.map_singleton, ← List.concat_eq_append, List.nodup_concat]
    exact ⟨h, l.distinct⟩⟩

/-- The pointer stored at a position.  `behind` is the word after the last one. -/
def load (l : PolymorphicList α) (behind : Option Nat) (loc : Nat) : Option Nat :=
  if loc = l.length then behind else l.elements[loc]?.map Prod.fst

/-- `InterfaceIterator::operator==`; `none` if one of the words cannot be read. -/
def iteratorEq (l : PolymorphicList α) (behind : Option Nat) (loc rhs : Nat) : Option Bool :=
  (l.load behind loc).bind fun x => (l.load behind rhs).map fun y => x = y

/-- What a loop over a list does: the positions of the storage it reads, those of the elements
it visits, and what it returns (`none` if it reads what is not readable). -/
structure Walk where
  reads : List Nat
  visited : List Nat
  result : Option Bool
deriving DecidableEq, Repr

/-- `for(auto iter = begin(); iter != end(); iter++) if(!visit(*iter)) return false;` and
then `return true`, from position `iter` on. -/
def walk (l : PolymorphicList α) (behind : Option Nat) (visit : α → Bool) (iter : Nat) : Walk :=
  match l.iteratorEq behind iter l.length with
  | none => ⟨[iter, l.length], [], none⟩
  | some true => ⟨[iter, l.length], [], some true⟩
  | some false =>
      if h : iter < l.elements.length then
        if visit l.elements[iter].2 then
          let rest := walk l behind visit (iter + 1)
          ⟨[iter, l.length, iter] ++ rest.reads, iter :: rest.visited, rest.result⟩
        else ⟨[iter, l.length, iter], [iter], some false⟩
      else ⟨[iter, l.length, iter], [], none⟩
termination_by l.elements.length - iter

variable (l : PolymorphicList α) (visit : α → Bool)

/-- Every loop reads the word behind the list, first of all. -/
theorem length_mem_reads (behind : Option Nat) (iter : Nat) :
    l.length ∈ (l.walk behind visit iter).reads := by
  unfold walk
  split
  · simp
  · simp
  · split
    · split <;> simp
    · simp

/-! ## loops with a readable word behind the list -/

variable {w iter : Nat}

theorem walk_end (w : Nat) : l.walk (some w) visit l.length =
    ⟨[l.length, l.length], [], some true⟩ := by
  have heq : l.iteratorEq (some w) l.length l.length = some true := by simp [iteratorEq, load]
  rw [walk, heq]

theorem iteratorEq_of_lt (h : iter < l.elements.length) :
    l.iteratorEq (some w) iter l.length = some (decide (l.elements[iter].1 = w)) := by
  have hne : iter ≠ l.length := Nat.ne_of_lt h
  simp [iteratorEq, load, hne, h]

/-- The loop ends early at a pointer that is also behind the list. -/
theorem walk_of_eq (h : iter < l.elements.length) (hw : l.elements[iter].1 = w) :
    l.walk (some w) visit iter = ⟨[iter, l.length], [], some true⟩ := by
  rw [walk, l.iteratorEq_of_lt h, decide_eq_true hw]

/-- Any other pointer is visited. -/
theorem walk_of_ne (h : iter < l.elements.length) (hw : l.elements[iter].1 ≠ w) :
    l.walk (some w) visit iter =
      if visit l.elements[iter].2 then
        ⟨[iter, l.length, iter] ++ (l.walk (some w) visit (iter + 1)).reads,
          iter :: (l.walk (some w) visit (iter + 1)).visited,
          (l.walk (some w) visit (iter + 1)).result⟩
      else ⟨[iter, l.length, iter], [iter], some false⟩ := by
  rw [walk, l.iteratorEq_of_lt h, decide_eq_false hw]
  simp [h]

/-- A loop is over the elements up to the first whose pointer is the word behind the list. -/
theorem result_walk (w iter : Nat) (hle : iter ≤ l.length) :
    (l.walk (some w) visit iter).result =
      some (((l.elements.drop iter).takeWhile fun p => p.1 ≠ w).all fun p => visit p.2) := by
  induction hn : l.length - iter generalizing iter with
  | zero =>
      have hend : iter = l.length := by omega
      rw [hend, walk_end, length, List.drop_length]
      rfl
  | succ n ih =>
      have hlt : iter < l.elements.length := by rw [length] at hn; omega
      have hrest := ih (iter + 1) (by rw [length]; omega) (by omega)
      rw [List.drop_eq_getElem_cons hlt]
      by_cases hw : l.elements[iter].1 = w
      · rw [l.walk_of_eq visit hlt hw, List.takeWhile_cons_of_neg (by simpa using hw)]
        rfl
      · rw [l.walk_of_ne visit hlt hw, List.takeWhile_cons_of_pos (by simpa using hw)]
        by_cases hvisit : visit l.elements[iter].2 = true <;> simp [hvisit, hrest]

/-- If the word is no pointer of the list, the loop asks every element. -/
theorem result_walk_of_notMem (h : w ∉ l.elements.map Prod.fst) :
    (l.walk (some w) visit 0).result = some (l.objects.all visit) := by
  have htake : l.elements.takeWhile (fun p => p.1 ≠ w) = l.elements := by
    rw [List.takeWhile_eq_self_iff]
    intro p hp
    have hne : p.1 ≠ w := fun heq => h (heq ▸ List.mem_map_of_mem hp)
    simpa using hne
  rw [result_walk l visit w 0 (Nat.zero_le _), List.drop_zero, htake, objects, List.all_map]
  rfl

/-- And visits each of them once, if none stops it. -/
theorem visited_walk_of_notMem (h : w ∉ l.elements.map Prod.fst)
    (hall : ∀ object ∈ l.objects, visit object = true) (hle : iter ≤ l.length) :
    (l.walk (some w) visit iter).visited = List.range' iter (l.length - iter) := by
  induction hn : l.length - iter generalizing iter with
  | zero =>
      have hend : iter = l.length := by omega
      rw [hend, walk_end]
      rfl
  | succ n ih =>
      have hlt : iter < l.elements.length := by rw [length] at hn; omega
      have hrest := @ih (iter + 1) (by rw [length]; omega) (by omega)
      have hw : l.elements[iter].1 ≠ w := fun heq =>
        h (heq ▸ List.mem_map_of_mem (List.getElem_mem hlt))
      have hvisit := hall _ (List.mem_map_of_mem (List.getElem_mem hlt))
      rw [l.walk_of_ne visit hlt hw, if_pos hvisit, hrest, List.range'_succ]

end PolymorphicList
end Topaz
