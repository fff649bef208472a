import Topaz.Core.Transform
import Mathlib.Algebra.Order.Field.Basic
import Mathlib.Tactic.FieldSimp
import Mathlib.Tactic.Linarith

/-!
# Topaz.Core.Projection

What the projections of `core/matrix_transform.cpp` do to points of camera space, as the
matrices that `operator()` addresses.

`perspective` writes every element through `operator()`; a point is inside the clip volume
exactly if it is in the frustum.  `orthographic` writes the constants of its three affine
maps through `operator[]`, into the third column and not the last: `z` is multiplied by
all of them, and no coordinate has a constant term.
-/

namespace Topaz
namespace Core

open Core.Matrix

variable {K : Type*} [Field K]

/-! ## orthographic -/

theorem orthographic_depth (left right top bottom near far x y z : K) :
    applied (orthographic left right top bottom near far) x y z 2 =
      -(far + near) / (far - near) * z := by
  simp [applied, orthographic, setRow_eq, identity_apply_square]

/-- **Orthographic projection**: no box is mapped to the clip cube. -/
theorem orthographic_maps_no_box (left right top bottom near far : K) (h : near ≠ far) :
    ¬ MapsBox (orthographic left right top bottom near far) left right top bottom near far := by
  rintro ⟨_, _, d, hmap, -, -, hnear, hfar⟩
  have hdepth : ∀ z, d.1 * z + d.2 = -(far + near) / (far - near) * z := by
    intro z
    have hz := congrArg (fun v : Vector K 4 => v 2) (hmap 0 0 z)
    simpa [orthographic_depth] using hz.symm
  have hne : far - near ≠ 0 := sub_ne_zero.mpr h.symm
  rw [hdepth] at hnear hfar
  field_simp at hnear hfar
  -- the two ends add up to `(far + near)² = 0`
  have hsquare : (far + near) * (far + near) = 0 := by linear_combination hfar + hnear
  have hzero : far + near = 0 := mul_self_eq_zero.mp hsquare
  rw [hzero, mul_zero] at hfar
  exact hne hfar.symm

theorem orthographic_maps_no_box_symmetric :
    (1 : ℚ) ≠ 3 ∧ ¬ MapsBox (orthographic (-1 : ℚ) 1 1 (-1) 1 3) (-1) 1 1 (-1) 1 3 :=
  ⟨by norm_num, orthographic_maps_no_box _ _ _ _ _ _ (by norm_num)⟩

/-- The centre of the near side of a symmetric box: its depth is mapped to `2`. -/
theorem orthographic_near_outside :
    let m : Matrix ℚ 4 4 := orthographic (-1) 1 1 (-1) 1 3
    applied m 0 0 (-1) = ⟨![0, 0, 2, 1]⟩ ∧ applied m 0 0 (-1) 2 ≠ -1 := by
  decide +kernel

/-! ## perspective -/

/-- The coordinates of a projected point. -/
theorem applied_perspective (std : CMath K) (fov aspectRatio near far x y z : K) :
    applied (perspective std fov aspectRatio near far) x y z =
      ⟨![x / (aspectRatio * std.tan (fov / 2)), y / std.tan (fov / 2),
        ((far + near) * z + 2 * far * near) / (near - far), -z]⟩ := by
  ext i
  fin_cases i <;> simp [applied, perspective, identity_apply_square] <;> ring

/-- The depth is a constant and a multiple of `1 / z`. -/
theorem depth_perspective {near far z : K} (hf : near ≠ far) (hz : z ≠ 0) (std : CMath K)
    (fov aspectRatio x y : K) : depth (perspective std fov aspectRatio near far) x y z =
      (far + near) / (far - near) + 2 * far * near / (far - near) * z⁻¹ := by
  have hne : near - far ≠ 0 := sub_ne_zero.mpr hf
  have hne' : far - near ≠ 0 := sub_ne_zero.mpr hf.symm
  simp only [depth, applied_perspective]
  simp
  field_simp
  ring

variable [LinearOrder K] [IsStrictOrderedRing K] {near far : K}

/-- A side of the frustum. -/
theorem clip_side_iff {s : K} (hs : 0 < s) (w x : K) : (-w ≤ x / s ∧ x / s ≤ w) ↔ |x| ≤ w * s := by
  rw [abs_le, le_div_iff₀ hs, div_le_iff₀ hs, neg_mul]

/-- The near and the far side. -/
theorem clip_depth_iff (hn : 0 < near) (hf : near < far) (z : K) :
    (-(-z) ≤ ((far + near) * z + 2 * far * near) / (near - far) ∧
      ((far + near) * z + 2 * far * near) / (near - far) ≤ -z) ↔ -far ≤ z ∧ z ≤ -near := by
  have hneg : near - far < 0 := sub_neg.mpr hf
  have hfar : 0 < far := hn.trans hf
  rw [le_div_iff_of_neg hneg, div_le_iff_of_neg hneg]
  have hlower : -z * (near - far) ≤ (far + near) * z + 2 * far * near ↔ -far ≤ z := by
    have hdiff : (far + near) * z + 2 * far * near - -z * (near - far) = 2 * near * (z - -far) := by
      ring
    rw [← sub_nonneg, hdiff, mul_nonneg_iff_of_pos_left (by positivity), sub_nonneg]
  have hupper : (far + near) * z + 2 * far * near ≤ -(-z) * (near - far) ↔ z ≤ -near := by
    have hdiff : -(-z) * (near - far) - ((far + near) * z + 2 * far * near) =
        2 * far * (-near - z) := by
      ring
    rw [← sub_nonneg, hdiff, mul_nonneg_iff_of_pos_left (by positivity), sub_nonneg]
  rw [hlower, hupper, and_comm]

/-- **Perspective projection**: it clips exactly its frustum, and the depth grows strictly
with the distance, from `-1` at the near side to `1` at the far side. -/
theorem perspective_clips_frustum (std : CMath K) (fov aspectRatio near far : K)
    (ht : 0 < std.tan (fov / 2)) (ha : 0 < aspectRatio) (hn : 0 < near) (hf : near < far) :
    (∀ x y z, InClipVolume (applied (perspective std fov aspectRatio near far) x y z) ↔
        InFrustum (std.tan (fov / 2)) aspectRatio near far x y z) ∧
      (∀ x y, depth (perspective std fov aspectRatio near far) x y (-near) = -1 ∧
        depth (perspective std fov aspectRatio near far) x y (-far) = 1) ∧
      ∀ x y z x' y' z', z' < z → z ≤ -near →
        depth (perspective std fov aspectRatio near far) x y z <
          depth (perspective std fov aspectRatio near far) x' y' z' := by
  have hfar : 0 < far := hn.trans hf
  have hspan : 0 < far - near := sub_pos.mpr hf
  refine ⟨?_, ?_, ?_⟩
  · intro x y z
    have hx := clip_side_iff (mul_pos ha ht) (-z) x
    have hy := clip_side_iff ht (-z) y
    have hz := clip_depth_iff hn hf z
    rw [← mul_assoc] at hx
    rw [applied_perspective, InFrustum, ← hx, ← hy, ← hz]
    exact ⟨fun h => ⟨h.2.2, h.1, h.2.1⟩, fun h => ⟨h.2.1, h.2.2, h.1⟩⟩
  · intro x y
    rw [depth_perspective hf.ne (neg_ne_zero.mpr hn.ne'),
      depth_perspective hf.ne (neg_ne_zero.mpr hfar.ne')]
    constructor
    · field_simp
      ring
    · field_simp
      ring
  · intro x y z x' y' z' hlt hnear
    have hz : z < 0 := by linarith
    have hz' : z' < 0 := hlt.trans hz
    rw [depth_perspective hf.ne hz.ne, depth_perspective hf.ne hz'.ne]
    have hinv : z⁻¹ < z'⁻¹ := (inv_lt_inv_of_neg hz hz').mpr hlt
    gcongr

/-- The tangent of half a quarter turn. -/
theorem CMath.tan_real_quarterTurn : CMath.real.tan (Real.pi / 2 / 2) = 1 := by
  have hhalf : Real.pi / 2 / 2 = Real.pi / 4 := by ring
  rw [hhalf]
  exact Real.tan_pi_div_four

/-- A field of view of a quarter turn. -/
theorem perspective_clips_frustum_unit :
    (CMath.real.tan (Real.pi / 2 / 2) = 1 ∧ (0 : ℝ) < 2 ∧ (0 : ℝ) < 1 ∧ (1 : ℝ) < 3) ∧
      ∀ x y z, InClipVolume (applied (perspective CMath.real (Real.pi / 2) 2 1 3) x y z) ↔
        InFrustum 1 2 1 3 x y z := by
  have ht := CMath.tan_real_quarterTurn
  have h := perspective_clips_frustum CMath.real (Real.pi / 2) 2 1 3 (ht ▸ one_pos) two_pos one_pos
    (by norm_num)
  rw [ht] at h
  exact ⟨⟨ht, two_pos, one_pos, by norm_num⟩, h.1⟩

end Core
end Topaz
