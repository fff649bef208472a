import Topaz.Core.Transpose
import Mathlib.Analysis.SpecialFunctions.Trigonometric.Basic
import Mathlib.LinearAlgebra.Matrix.Notation
import Mathlib.Tactic.LinearCombination

/-!
# Topaz.Core.Transform

Vectors, the product of a matrix and a vector, and the transforms and projections of
`core/matrix_transform.cpp` (the results about projections are in `Topaz.Core.Projection`).

`Matrix::operator*(vec)` takes the dot product with `(*this)[i]`, which the header calls a
row and which is a column of the matrix that `operator()` addresses.  What it computes is
the product with the transposed matrix (`mulVec_apply`).

The transforms are matrices and products of them only.  The functions of `<cmath>` are a
parameter; of sine and cosine the results use that their squares add up to one.
-/

namespace Topaz
namespace Core

/-! ## vectors -/

/-- `tz::Vector<T, S>`. -/
structure Vector (T : Type*) (S : Nat) where
  vec : Fin S → T

namespace Vector

variable {T : Type*} {S : Nat}

instance : CoeFun (Vector T S) fun _ => Fin S → T := ⟨vec⟩

@[ext] theorem ext {v v' : Vector T S} (h : ∀ i, v i = v' i) : v = v' := by
  obtain ⟨vec⟩ := v
  obtain ⟨vec'⟩ := v'
  have hvec : vec = vec' := funext h
  rw [hvec]

instance [DecidableEq T] : DecidableEq (Vector T S) := fun v v' =>
  decidable_of_iff (∀ i, v i = v' i) ⟨ext, fun h _ => by rw [h]⟩

/-- Assignment to `operator[](idx)`. -/
def set (v : Vector T S) (idx : Fin S) (value : T) : Vector T S :=
  ⟨Function.update v.vec idx value⟩

@[simp] theorem set_apply (v : Vector T S) (i j : Fin S) (value : T) :
    v.set i value j = if j = i then value else v j := by
  simp [set, Function.update_apply]

/-- A loop that assigns every element. -/
def forElements (v : Vector T S) (f : Fin S → T → T) : Vector T S :=
  forLoop S (fun v i => v.set i (f i (v i))) v

@[simp] theorem forElements_apply (v : Vector T S) (f : Fin S → T → T) (i : Fin S) :
    v.forElements f i = f i (v i) :=
  forLoop_update vec f (fun _ _ _ => set_apply ..) v i

/-- `operator+(rhs)`: `operator+=` of a copy. -/
def add [Add T] (v rhs : Vector T S) : Vector T S := v.forElements fun i x => x + rhs i

instance [Add T] : Add (Vector T S) := ⟨add⟩

@[simp] theorem add_apply [Add T] (v rhs : Vector T S) (i : Fin S) :
    (v + rhs) i = v i + rhs i := forElements_apply v _ i

/-- `dot(rhs)`. -/
def dot [Zero T] [Add T] [Mul T] (v rhs : Vector T S) : T :=
  forLoop S (fun sum i => sum + v i * rhs i) 0

/-- The loop of `dot` is a sum. -/
theorem dot_eq [NonUnitalNonAssocSemiring T] (v rhs : Vector T S) :
    v.dot rhs = ∑ i, v i * rhs i := forLoop_add _

/-- The homogeneous coordinates of a point. -/
def point [One T] (x : Vector T 3) : Vector T 4 := ⟨Fin.snoc x.vec 1⟩

@[simp] theorem point_castSucc [One T] (x : Vector T 3) (i : Fin 3) :
    x.point i.castSucc = x i := by
  simp [point]

end Vector

/-! ## the product with a vector -/

namespace Matrix

/-- `operator*(vec)`; every element of the result is assigned. -/
def mulVec {T : Type*} [Zero T] [Add T] [Mul T] (m : Matrix T 4 4) (vec : Vector T 4) :
    Vector T 4 :=
  Vector.forElements ⟨fun _ => 0⟩ fun i _ => Vector.dot ⟨m.row i⟩ vec

instance {T : Type*} [Zero T] [Add T] [Mul T] : HMul (Matrix T 4 4) (Vector T 4) (Vector T 4) :=
  ⟨mulVec⟩

/-- The product is the one with the transposed matrix. -/
@[simp] theorem mulVec_apply {T : Type*} [NonUnitalNonAssocSemiring T] (m : Matrix T 4 4)
    (vec : Vector T 4) (i : Fin 4) : (m * vec) i = ∑ j, m j i * vec j := by
  change mulVec m vec i = _
  simp [mulVec, Vector.dot_eq, row_apply]

end Matrix

/-! ## the transforms -/

open Core.Matrix

/-- The functions of `<cmath>` that the transforms call. -/
structure CMath (K : Type*) where
  sin : K → K
  cos : K → K
  tan : K → K

/-- The functions themselves. -/
noncomputable def CMath.real : CMath ℝ := ⟨Real.sin, Real.cos, Real.tan⟩

variable {K : Type*}

section

variable [Ring K]

/-- `translate(position)`. -/
def translate (position : Vector K 3) : Matrix K 4 4 :=
  ((identity.set 0 3 (position 0)).set 1 3 (position 1)).set 2 3 (position 2)

/-- `rotate_x(angle)`. -/
def rotateX (std : CMath K) (angle : K) : Matrix K 4 4 :=
  (((identity.set 1 1 (std.cos angle)).set 1 2 (-std.sin angle)).set 2 1 (std.sin angle)).set 2 2
    (std.cos angle)

/-- `rotate_y(angle)`. -/
def rotateY (std : CMath K) (angle : K) : Matrix K 4 4 :=
  (((identity.set 0 0 (std.cos angle)).set 0 2 (std.sin angle)).set 2 0 (-std.sin angle)).set 2 2
    (std.cos angle)

/-- `rotate_z(angle)`. -/
def rotateZ (std : CMath K) (angle : K) : Matrix K 4 4 :=
  (((identity.set 0 0 (std.cos angle)).set 0 1 (-std.sin angle)).set 1 0 (std.sin angle)).set 1 1
    (std.cos angle)

/-- `rotate(rotation)`. -/
def rotate (std : CMath K) (rotation : Vector K 3) : Matrix K 4 4 :=
  let x := rotateX std (rotation 0)
  let y := rotateY std (rotation 1)
  let z := rotateZ std (rotation 2)
  z * y * x

/-- `scale(scale)`. -/
def scale (scale : Vector K 3) : Matrix K 4 4 :=
  forLoop 3 (fun m i => m.set i.castSucc i.castSucc (scale i)) identity

/-- `model(position, rotation, scale)`. -/
def model (std : CMath K) (position rotation scaling : Vector K 3) : Matrix K 4 4 :=
  translate position * rotate std rotation * scale scaling

end

/-- `view(position, rotation)`; it returns nothing where the assertion of `inverse`
fires. -/
def view [Field K] [DecidableEq K] (std : CMath K) (position rotation : Vector K 3) :
    Option (Matrix K 4 4) :=
  (translate position * rotate std rotation).inverse

/-! ## the projections -/

section

variable [Field K]

/-- `perspective(fov, aspect_ratio, near, far)`. -/
def perspective (std : CMath K) (fov aspectRatio near far : K) : Matrix K 4 4 :=
  let thf := std.tan (fov / 2)
  (((((identity.set 0 0 (1 / (aspectRatio * thf))).set 1 1 (1 / thf)).set 2 2
    ((far + near) / (near - far))).set 3 2 (-1)).set 2 3 (2 * far * near / (near - far))).set 3 3 0

/-- `orthographic(left, right, top, bottom, near, far)`. -/
def orthographic (left right top bottom near far : K) : Matrix K 4 4 :=
  let m := ((identity.set 0 0 (2 / (right - left))).set 1 1 (2 / (top - bottom))).set 2 2
    (-2 / (far - near))
  -- `Mat4::Row& bottom_row = m[2]`
  ((m.setRow 2 0 (-(right + left) / (right - left))).setRow 2 1
    (-(top + bottom) / (top - bottom))).setRow 2 2 (-(far + near) / (far - near))

/-- The matrix with entries `m(i, j)` applied to the point `(x, y, z, 1)`. -/
def applied (m : Matrix K 4 4) (x y z : K) : Vector K 4 :=
  ⟨fun i => m i 0 * x + m i 1 * y + m i 2 * z + m i 3⟩

/-- A box is mapped to the clip cube, each coordinate by an affine map of its own. -/
def MapsBox (m : Matrix K 4 4) (left right top bottom near far : K) : Prop :=
  ∃ f g h : K × K,
    (∀ x y z, applied m x y z =
      ⟨![f.1 * x + f.2, g.1 * y + g.2, h.1 * z + h.2, 1]⟩) ∧
    (f.1 * left + f.2 = -1 ∧ f.1 * right + f.2 = 1) ∧
    (g.1 * bottom + g.2 = -1 ∧ g.1 * top + g.2 = 1) ∧
    h.1 * -near + h.2 = -1 ∧ h.1 * -far + h.2 = 1

/-- The depth of a point after the division by its last coordinate. -/
def depth (m : Matrix K 4 4) (x y z : K) : K := applied m x y z 2 / applied m x y z 3

/-- Where a viewport puts a coordinate between `-1` and `1`. -/
def toViewport (offset extent coordinate : K) : K := extent / 2 * coordinate + (offset + extent / 2)

def Vector.x (v : Vector K 4) : K := v 0

def Vector.y (v : Vector K 4) : K := v 1

def Vector.z (v : Vector K 4) : K := v 2

def Vector.w (v : Vector K 4) : K := v 3

variable [LinearOrder K]

/-- The clip conditions. -/
def InClipVolume (v : Vector K 4) : Prop :=
  (-v 3 ≤ v 0 ∧ v 0 ≤ v 3) ∧ (-v 3 ≤ v 1 ∧ v 1 ≤ v 3) ∧ -v 3 ≤ v 2 ∧ v 2 ≤ v 3

/-- The frustum; `t` is the tangent of half the angle of view. -/
def InFrustum (t aspectRatio near far x y z : K) : Prop :=
  (-far ≤ z ∧ z ≤ -near) ∧ |x| ≤ -z * aspectRatio * t ∧ |y| ≤ -z * t

end

/-! ## products with vectors -/

/-- The last coordinate, and the three of space. -/
theorem coordinateCases {motive : Fin 4 → Prop} (last : motive 3)
    (space : ∀ i : Fin 3, motive i.castSucc) (i : Fin 4) : motive i :=
  Fin.lastCases last space i

@[simp] theorem castSucc_ne_three (i : Fin 3) : i.castSucc ≠ 3 := Fin.castSucc_ne_last i

@[simp] theorem three_ne_castSucc (i : Fin 3) : 3 ≠ i.castSucc := (castSucc_ne_three i).symm

section

variable [Ring K]

/-- A translation differs from the identity in the last column only. -/
theorem translate_castSucc (p : Vector K 3) (i : Fin 4) (j : Fin 3) :
    translate p i j.castSucc = (identity : Matrix K 4 4) i j.castSucc := by
  simp [translate]

/-- A translation is in the last column. -/
theorem translate_last (p : Vector K 3) (i : Fin 3) : translate p i.castSucc 3 = p i := by
  fin_cases i <;> simp [translate]

theorem translate_last_last (p : Vector K 3) : translate p 3 3 = 1 := by
  simp [translate, identity_apply_square]

/-- A translation by nothing is the identity. -/
theorem translate_eq_identity {p : Vector K 3} (h : ∀ i, p i = 0) : translate p = identity := by
  ext i j
  induction j using coordinateCases with
  | last =>
      induction i using coordinateCases with
      | last => simp [translate_last_last, identity_apply_square]
      | space i => simp [translate_last, h, identity_apply_square]
  | space j => exact translate_castSucc p i j

/-- The product with a vector is the usual one for symmetric matrices only. -/
theorem mulVec_eq_iff (a : Matrix K 4 4) :
    (∀ (v : Vector K 4) (i : Fin 4), (a * v) i = ∑ j, a i j * v j) ↔ ∀ i j, a i j = a j i := by
  constructor
  · intro h i j
    have hunit := h ⟨Pi.single j 1⟩ i
    simpa [Pi.single_apply] using hunit.symm
  · intro h v i
    simp [h i]

/-- When a product is applied one factor after the other. -/
theorem mulVec_mul_iff (a b : Matrix K 4 4) :
    (∀ v : Vector K 4, a * b * v = a * (b * v)) ↔ ∀ i j, (a * b) i j = ∑ k, a k j * b i k := by
  have happly : ∀ (v : Vector K 4) (j : Fin 4),
      (a * (b * v)) j = ∑ i, (∑ k, a k j * b i k) * v i := by
    intro v j
    simp only [mulVec_apply, Finset.mul_sum, Finset.sum_mul, mul_assoc]
    exact Finset.sum_comm
  constructor
  · intro h i j
    have hunit := congrArg (fun v : Vector K 4 => v j) (h ⟨Pi.single i 1⟩)
    simpa [happly, Pi.single_apply, -mulVec_apply, mulVec_apply (a * b)] using hunit
  · intro h v
    ext j
    rw [happly, mulVec_apply]
    simp only [h]

/-- The identity is symmetric, so its product with a vector is right. -/
theorem identity_mulVec (v : Vector K 4) : (identity : Matrix K 4 4) * v = v := by
  ext i
  simp [identity_apply_square]

/-- The product with a translation is the moved point only if there is nothing to move. -/
theorem translate_mulVec_iff (p x : Vector K 3) :
    translate p * x.point = (x + p).point ↔ ∀ i, p i = 0 := by
  constructor
  · intro h i
    have hunmoved : (translate p * x.point) i.castSucc = x i := by
      simp only [mulVec_apply, translate_castSucc]
      rw [← mulVec_apply, identity_mulVec, Vector.point_castSucc]
    rw [h, Vector.point_castSucc, Vector.add_apply] at hunmoved
    exact left_eq_add.mp hunmoved.symm
  · intro h
    have hsum : x + p = x := by
      ext i
      simp [h i]
    rw [translate_eq_identity h, identity_mulVec, hsum]

/-- **Matrix-vector product**: it agrees with the matrix exactly for symmetric matrices and
with the matrix product exactly for factors that commute in this way; the identity is
neutral; a translation moves points exactly if it is none. -/
theorem mul_vector_agrees_iff (a b : Matrix K 4 4) (p x : Vector K 3) :
    ((∀ (v : Vector K 4) (i : Fin 4), (a * v) i = ∑ j, a i j * v j) ↔ ∀ i j, a i j = a j i) ∧
      ((∀ v : Vector K 4, a * b * v = a * (b * v)) ↔
        ∀ i j, (a * b) i j = ∑ k, a k j * b i k) ∧
      (∀ v : Vector K 4, (identity : Matrix K 4 4) * v = v) ∧
      (translate p * x.point = (x + p).point ↔ ∀ i, p i = 0) :=
  ⟨mulVec_eq_iff a, mulVec_mul_iff a b, identity_mulVec, translate_mulVec_iff p x⟩

end

/-- A translation by one along the first axis leaves the origin where it is. -/
theorem translate_origin_unmoved :
    let p : Vector ℤ 3 := ⟨![1, 0, 0]⟩
    let x : Vector ℤ 3 := ⟨![0, 0, 0]⟩
    translate p * x.point = x.point ∧ translate p * x.point ≠ (x + p).point := by
  decide

/-! ## rotations and the view -/

/-- A rotation of space: its columns are orthonormal, it keeps the orientation, and its last
row is that of the identity. -/
structure IsRotation [CommRing K] (m : Matrix K 4 4) : Prop where
  columns : m.flipped * m = identity
  determinant : m.determinant = 1
  lastRow : ∀ j, m 3 j = (identity : Matrix K 4 4) 3 j

section

variable [CommRing K]

namespace IsRotation

variable {a b : Matrix K 4 4}

/-- Rotations compose. -/
theorem mul (ha : IsRotation a) (hb : IsRotation b) : IsRotation (a * b) where
  columns :=
    calc (a * b).flipped * (a * b) = b.flipped * (a.flipped * a) * b := by
          rw [flipped_mul, Matrix.mul_assoc, Matrix.mul_assoc, Matrix.mul_assoc]
      _ = identity := by rw [ha.columns, mul_identity, hb.columns]
  determinant := by rw [determinant_mul, ha.determinant, hb.determinant, one_mul]
  lastRow := by
    intro j
    simp only [mul_apply, ha.lastRow]
    rw [← mul_apply, identity_mul, hb.lastRow]

/-- The rows are orthonormal too. -/
theorem rows (ha : IsRotation a) : a * a.flipped = identity := mul_eq_identity_comm.mp ha.columns

/-- A rotation leaves the origin where it is. -/
theorem lastColumn (ha : IsRotation a) (i : Fin 4) : a i 3 = (identity : Matrix K 4 4) i 3 := by
  have h := congrArg (fun m : Matrix K 4 4 => m i 3) ha.rows
  simpa [mul_apply, ha.lastRow, identity_apply_square] using h

/-- With its axes in another order a rotation is a rotation. -/
theorem relabel (ha : IsRotation a) (axes : Equiv.Perm (Fin 4)) (h3 : axes 3 = 3)
    (h : ∀ i j, b i j = a (axes i) (axes j)) : IsRotation b where
  columns := by
    ext i j
    have hcolumns := congrArg (fun m : Matrix K 4 4 => m (axes i) (axes j)) ha.columns
    simp only [mul_apply, flipped_apply] at hcolumns
    rw [← Equiv.sum_comp axes] at hcolumns
    simp [mul_apply, h, hcolumns, identity_apply_square]
  determinant := by
    have hb : asMatrix b = (asMatrix a).submatrix axes axes := by
      ext i j
      exact h i j
    rw [determinant_eq_det, hb, Matrix.det_submatrix_equiv_self, ← determinant_eq_det,
      ha.determinant]
  lastRow := by
    intro j
    calc b 3 j = (identity : Matrix K 4 4) (axes 3) (axes j) := by rw [h, h3, ha.lastRow]
      _ = (identity : Matrix K 4 4) 3 j := by simp [identity_apply_square]

end IsRotation

/-- The axes that stand in `rotateX` where the others stand in `rotateY`. -/
def axes : Equiv.Perm (Fin 4) := ⟨![2, 0, 1, 3], ![1, 2, 0, 3], by decide, by decide⟩

variable {std : CMath K} {angle : K}

/-- A rotation about `y` is one about `x` with the axes renamed. -/
theorem rotateY_apply (i j : Fin 4) :
    rotateY std angle i j = rotateX std angle (axes i) (axes j) := by
  have haxes : ∀ k, (axes k = 1 ↔ k = 2) ∧ (axes k = 2 ↔ k = 0) := by decide
  simp only [rotateY, rotateX, set_apply, identity_apply_square, haxes, axes.apply_eq_iff_eq]
  grind

/-- So is one about `z`. -/
theorem rotateZ_apply (i j : Fin 4) :
    rotateZ std angle i j = rotateX std angle (axes.symm i) (axes.symm j) := by
  have haxes : ∀ k, (axes.symm k = 1 ↔ k = 0) ∧ (axes.symm k = 2 ↔ k = 1) := by decide
  simp only [rotateZ, rotateX, set_apply, identity_apply_square, haxes, axes.symm.apply_eq_iff_eq]

variable (h : std.sin angle ^ 2 + std.cos angle ^ 2 = 1)

include h

/-- Whatever sine and cosine are, their squares adding up to one is all that is needed. -/
theorem isRotation_rotateX : IsRotation (rotateX std angle) where
  columns := by
    ext i j
    fin_cases i <;> fin_cases j <;>
      simp [mul_apply, Fin.sum_univ_four, rotateX, identity_apply_square]
    · linear_combination h
    · ring
    · ring
    · linear_combination h
  determinant := by
    rw [determinant_eq_det, Matrix.det_succ_row_zero]
    simp [Matrix.det_fin_three, Fin.succAbove, rotateX, identity_apply_square]
    linear_combination h
  lastRow := by simp [rotateX]

theorem isRotation_rotateY : IsRotation (rotateY std angle) :=
  (isRotation_rotateX h).relabel axes rfl rotateY_apply

theorem isRotation_rotateZ : IsRotation (rotateZ std angle) :=
  (isRotation_rotateX h).relabel axes.symm rfl rotateZ_apply

omit h in
/-- The three rotations one after the other. -/
theorem isRotation_rotate {r : Vector K 3} (h : ∀ i, std.sin (r i) ^ 2 + std.cos (r i) ^ 2 = 1) :
    IsRotation (rotate std r) :=
  ((isRotation_rotateZ (h 2)).mul (isRotation_rotateY (h 1))).mul (isRotation_rotateX (h 0))

end

section

variable [CommRing K] (m : Matrix K 4 4) (p : Vector K 3)

/-- A product with a translation keeps the other columns. -/
theorem mul_translate_castSucc (i : Fin 4) (j : Fin 3) :
    (m * translate p) i j.castSucc = m i j.castSucc := by
  simp only [mul_apply, translate_castSucc]
  rw [← mul_apply, mul_identity]

theorem mul_translate_last (i : Fin 4) :
    (m * translate p) i 3 = ∑ k : Fin 3, m i k.castSucc * p k + m i 3 := by
  rw [mul_apply, Fin.sum_univ_castSucc]
  simp [translate_last, Fin.last, translate_last_last]

/-- A translation is undone by the opposite one. -/
theorem translate_mul_neg : translate p * translate ⟨fun i => -p i⟩ = identity := by
  ext i j
  induction j using coordinateCases with
  | last =>
      rw [mul_translate_last]
      simp only [translate_castSucc, identity_apply_square]
      induction i using coordinateCases with
      | last => simp [translate_last_last]
      | space i => simp [translate_last]
  | space j => rw [mul_translate_castSucc, translate_castSucc]

/-- A scale of one is the identity. -/
theorem scale_one : scale (⟨fun _ => 1⟩ : Vector K 3) = identity := by
  apply forLoop_invariant fun _ (s : Matrix K 4 4) => s = identity
  · rfl
  · rintro i s rfl
    ext a b
    simp only [set_apply, identity_apply_square]
    grind

end

/-- The inverse of a pose: back by the position, then the rotation undone. -/
theorem pose_mul [CommRing K] {r : Matrix K 4 4} (hr : IsRotation r) (p : Vector K 3) :
    translate p * r * (r.flipped * translate ⟨fun i => -p i⟩) = identity := by
  calc translate p * r * (r.flipped * translate ⟨fun i => -p i⟩)
      = translate p * (r * r.flipped) * translate ⟨fun i => -p i⟩ := by
        rw [Matrix.mul_assoc, Matrix.mul_assoc, Matrix.mul_assoc]
    _ = identity := by rw [hr.rows, mul_identity, translate_mul_neg]

/-- **View**: it undoes the pose of the camera. -/
theorem view_undoes_pose [Field K] [DecidableEq K] (std : CMath K) (p r : Vector K 3)
    (h : ∀ i, std.sin (r i) ^ 2 + std.cos (r i) ^ 2 = 1) :
    (∀ i j, ∑ k, rotate std r k i * rotate std r k j = if i = j then 1 else 0) ∧
      (rotate std r).determinant = 1 ∧
      (translate p * rotate std r).determinant ≠ 0 ∧
      ∃ v, view std p r = some v ∧ v * model std p r ⟨fun _ => 1⟩ = identity ∧
        (∀ i j : Fin 3, v i.castSucc j.castSucc = rotate std r j.castSucc i.castSucc) ∧
        (∀ i : Fin 3, v i.castSucc 3 = -∑ k : Fin 3, v i.castSucc k.castSucc * p k) ∧
        ∀ j, v 3 j = if j = 3 then 1 else 0 := by
  have hr : IsRotation (rotate std r) := isRotation_rotate h
  have hpose := pose_mul hr p
  refine ⟨?_, hr.determinant, determinant_ne_zero_of_mul hpose, _,
    inverse_eq_some_of_mul hpose, ?_, ?_, ?_, ?_⟩
  · intro i j
    have hcolumns := congrArg (fun m : Matrix K 4 4 => m i j) hr.columns
    simpa [mul_apply, identity_apply_square] using hcolumns
  · rw [model, scale_one, mul_identity]
    exact mul_eq_identity_comm.mp hpose
  · intro i j
    rw [mul_translate_castSucc, flipped_apply]
  · intro i
    have hlast : (rotate std r).flipped i.castSucc 3 = 0 := by
      simp [hr.lastRow, identity_apply_square]
    simp [mul_translate_castSucc, mul_translate_last, hlast]
  · intro j
    induction j using coordinateCases with
    | last => simp [mul_translate_last, hr.lastColumn, identity_apply_square]
    | space j => simp [mul_translate_castSucc, hr.lastColumn, identity_apply_square]

/-- A quarter turn about each axis. -/
theorem view_undoes_pose_quarterTurn :
    let p : Vector ℝ 3 := ⟨![1, 2, 3]⟩
    let r : Vector ℝ 3 := ⟨fun _ => Real.pi / 2⟩
    (∀ i, CMath.real.sin (r i) = 1 ∧ CMath.real.cos (r i) = 0) ∧
      ∃ v, view CMath.real p r = some v ∧
        v * model CMath.real p r ⟨fun _ => 1⟩ = identity := by
  intro p r
  have h : ∀ i, CMath.real.sin (r i) = 1 ∧ CMath.real.cos (r i) = 0 :=
    fun _ => ⟨Real.sin_pi_div_two, Real.cos_pi_div_two⟩
  obtain ⟨-, -, -, v, hv, hmodel, -⟩ :=
    view_undoes_pose CMath.real p r fun i => Real.sin_sq_add_cos_sq (r i)
  exact ⟨h, v, hv, hmodel⟩

end Core
end Topaz
