import Topaz.Segments
import Topaz.Splice

/-!
# Topaz.Buffer

Graphics buffers as the driver keeps them: a fixed number of cells, each of them
undefined until something is written to it.  A cell is one element of whatever
the buffer holds (a byte, an index, a draw command), so a pointer into a mapped
buffer is a cell number.

`memcpy` writes through a mapped pointer; what would land past the end does not
land in this buffer.  `subData` is an upload through the driver, which refuses
the whole write when it does not fit.
-/

namespace Topaz

/-- A buffer of fixed size; `none` is an undefined cell. -/
structure Buffer (α : Type) where
  cells : List (Option α)
deriving DecidableEq

namespace Buffer

variable {α : Type}

/-- A fresh buffer of `n` cells. -/
def create (n : Nat) : Buffer α := ⟨List.replicate n none⟩

def size (b : Buffer α) : Nat := b.cells.length

/-- Read `len` cells from `start` on. -/
def read (b : Buffer α) (start len : Nat) : List (Option α) := slice b.cells start len

/-- Copy `xs` to the cells from `start` on. -/
def memcpy (b : Buffer α) (start : Nat) (xs : List (Option α)) : Buffer α :=
  ⟨b.cells.mapIdx fun i old => if start ≤ i then xs.getD (i - start) old else old⟩

/-- Upload `xs` to the start of the buffer; refused if it does not fit. -/
def subData (b : Buffer α) (xs : List α) : Buffer α :=
  if xs.length ≤ b.size then b.memcpy 0 (xs.map some) else b

@[simp] theorem size_create (n : Nat) : (create n : Buffer α).size = n := by
  simp [size, create]

@[simp] theorem size_memcpy (b : Buffer α) (start : Nat) (xs : List (Option α)) :
    (b.memcpy start xs).size = b.size := by
  simp [size, memcpy]

@[simp] theorem size_subData (b : Buffer α) (xs : List α) : (b.subData xs).size = b.size := by
  unfold subData
  split <;> simp

/-- Cells outside the copied range keep their contents. -/
theorem getElem?_memcpy_of_disjoint (b : Buffer α) {start i : Nat} (xs : List (Option α))
    (h : i < start ∨ start + xs.length ≤ i) : (b.memcpy start xs).cells[i]? = b.cells[i]? := by
  rw [memcpy, List.getElem?_mapIdx]
  cases h with
  | inl hlt => simp [Nat.not_le.mpr hlt]
  | inr hge =>
      have hlen : xs.length ≤ i - start := by omega
      simp [List.getElem?_eq_none hlen]

/-- A copied cell, if it is a cell of this buffer. -/
theorem getElem?_memcpy_of_mem (b : Buffer α) {start i : Nat} (xs : List (Option α))
    (hi : i < xs.length) (hb : start + i < b.size) :
    (b.memcpy start xs).cells[start + i]? = some xs[i] := by
  rw [memcpy, List.getElem?_mapIdx, List.getElem?_eq_getElem hb]
  simp [hi]

/-- What was copied is read back. -/
theorem read_memcpy_self (b : Buffer α) (start : Nat) (xs : List (Option α))
    (h : start + xs.length ≤ b.size) : (b.memcpy start xs).read start xs.length = xs := by
  apply List.ext_getElem?
  intro i
  rw [read, getElem?_slice]
  split
  · next hi => rw [getElem?_memcpy_of_mem b xs hi (by omega), List.getElem?_eq_getElem hi]
  · next hi => rw [List.getElem?_eq_none (by omega)]

@[simp] theorem read_size (b : Buffer α) : b.read 0 b.size = b.cells := by
  rw [read, slice, List.drop_zero, size, List.take_length]

/-- A copy that fills the buffer. -/
theorem memcpy_all (b : Buffer α) {xs : List (Option α)} (h : xs.length = b.size) :
    b.memcpy 0 xs = ⟨xs⟩ := by
  have hread := b.read_memcpy_self 0 xs (by omega)
  have hsize : xs.length = (b.memcpy 0 xs).size := by rw [size_memcpy, h]
  rw [hsize, read_size] at hread
  exact congrArg Buffer.mk hread

/-- **Frame**: a copy leaves every disjoint range alone. -/
theorem read_memcpy_of_disjoint (b : Buffer α) {start pos len : Nat} (xs : List (Option α))
    (h : pos + len ≤ start ∨ start + xs.length ≤ pos) :
    (b.memcpy start xs).read pos len = b.read pos len := by
  apply List.ext_getElem?
  intro i
  rw [read, read, getElem?_slice, getElem?_slice]
  split
  · next hi => exact getElem?_memcpy_of_disjoint b xs (by omega)
  · rfl

/-- A copy inside a range replaces that part of it. -/
theorem read_memcpy_within (b : Buffer α) {start len i : Nat} (xs : List (Option α))
    (hin : i + xs.length ≤ len) (hfit : start + len ≤ b.size) :
    (b.memcpy (start + i) xs).read start len = splice (b.read start len) i xs.length xs := by
  have hread : (b.read start len).length = len := by
    rw [read, length_slice, Nat.min_eq_left]
    rw [size] at hfit
    omega
  apply List.ext_getElem?
  intro j
  rw [read, getElem?_slice, getElem?_splice_self (by omega), read, getElem?_slice]
  by_cases hj : j < len
  · rw [if_pos hj, if_pos hj]
    by_cases hmem : i ≤ j ∧ j < i + xs.length
    · have hlt : j - i < xs.length := by omega
      have hcell : (b.memcpy (start + i) xs).cells[start + i + (j - i)]? = some xs[j - i] :=
        b.getElem?_memcpy_of_mem xs hlt (by omega)
      rw [show start + i + (j - i) = start + j by omega] at hcell
      rw [if_pos hmem, hcell, List.getElem?_eq_getElem hlt]
    · rw [if_neg hmem]
      exact b.getElem?_memcpy_of_disjoint xs (by omega)
  · rw [if_neg hj, if_neg (by omega), if_neg hj]

/-- An upload that fits is what the buffer then starts with. -/
theorem read_subData (b : Buffer α) (xs : List α) (h : xs.length ≤ b.size) :
    (b.subData xs).read 0 xs.length = xs.map some := by
  rw [subData, if_pos h]
  have hread := b.read_memcpy_self 0 (xs.map some) (by simpa using h)
  rwa [List.length_map] at hread

/-- Filling a buffer of just the right size. -/
theorem subData_create (xs : List α) :
    ((create xs.length : Buffer α).subData xs).cells = xs.map some := by
  have hread := (create xs.length : Buffer α).read_subData xs (by simp)
  have hsize := size_subData (create xs.length) xs
  rw [size_create, size] at hsize
  rwa [read, slice, List.drop_zero, List.take_of_length_le (by omega)] at hread

theorem subData_create_eq (xs : List α) :
    (create xs.length : Buffer α).subData xs = ⟨xs.map some⟩ :=
  congrArg Buffer.mk (subData_create xs)

/-! ## encodings -/

/-- A buffer of elements as a buffer of their encodings, of `size` cells each. -/
def encode {β : Type} (f : α → List β) (size : Nat) (b : Buffer α) : Buffer β :=
  ⟨b.cells.flatMap fun
    | some x => (f x).map some
    | none => List.replicate size none⟩

theorem encode_mk {β : Type} (f : α → List β) (size : Nat) (xs : List α) :
    encode f size ⟨xs.map some⟩ = ⟨(xs.flatMap f).map some⟩ := by
  rw [encode, List.flatMap_map, List.map_flatMap]

theorem encode_create {β : Type} (f : α → List β) (size n : Nat) :
    encode f size (create n) = create (n * size) := by
  rw [encode, create, create]
  induction n with
  | zero => simp
  | succ n ih =>
      rw [Buffer.mk.injEq] at ih ⊢
      rw [List.replicate_succ, List.flatMap_cons, ih, List.replicate_append_replicate,
        Nat.succ_mul, Nat.add_comm]

end Buffer

end Topaz
