import Mathlib.Algebra.Order.Field.Basic
import Mathlib.Tactic.FieldSimp
import Mathlib.Tactic.LinearCombination
import Mathlib.Tactic.Ring

/-!
# Topaz.Rasterisation

Triangles drawn one after the other at a sample point, with culling and a depth buffer, in
exact arithmetic.

A `Pipeline` places positions in a window, decides which faces it culls and which depths
it keeps.  Which triangle a sample point on an edge belongs to is up to its `FillRule`.  Two
pipelines whose windows are mirror images of each other, with depths that are related by an
increasing affine map, draw the same picture upside down wherever they decide alike on the
edges (`sample_mirrors`).  Dropping what is near matters only if there is something near
(`sample_behind`).

The colour of a fragment is a function of the weights of the three corners, which the
triangle brings with it.  So two pipelines that draw one triangle are taken to run fragment
shaders that return the same colours.
-/

namespace Topaz
namespace Rasterisation

variable {P K C : Type*} [Field K]

/-- A position in the window, with its depth. -/
structure WindowPoint (K : Type*) where
  x : K
  y : K
  depth : K
deriving DecidableEq, Repr

/-- Where it is on the screen. -/
def WindowPoint.position (a : WindowPoint K) : K × K := (a.x, a.y)

/-- Twice the signed area of a triangle. -/
def doubledArea (a b c : K × K) : K :=
  (a.1 * b.2 - b.1 * a.2) + (b.1 * c.2 - c.1 * b.2) + (c.1 * a.2 - a.1 * c.2)

/-- The weights of the three corners at a point of the window. -/
def weights (a b c point : K × K) : K × K × K :=
  let area := doubledArea a b c
  (doubledArea point b c / area, doubledArea a point c / area, doubledArea a b point / area)

/-- The depth at the point with given weights. -/
def depthAt (a b c : WindowPoint K) (w : K × K × K) : K :=
  w.1 * a.depth + w.2.1 * b.depth + w.2.2 * c.depth

/-- The corners' weights add up to one. -/
theorem weights_sum {a b c : K × K} (h : doubledArea a b c ≠ 0) (point : K × K) :
    (weights a b c point).1 + (weights a b c point).2.1 + (weights a b c point).2.2 = 1 := by
  simp only [weights]
  field_simp
  simp only [doubledArea]
  ring

/-! ## upside down -/

/-- The same place, with the rows counted from the other end. -/
def flip (height : K) (point : K × K) : K × K := (point.1, height - point.2)

/-- Upside down, and with the depths changed by an affine map. -/
def WindowPoint.mirror (height scale offset : K) (a : WindowPoint K) : WindowPoint K :=
  ⟨a.x, height - a.y, scale * a.depth + offset⟩

@[simp]
theorem WindowPoint.position_mirror (height scale offset : K) (a : WindowPoint K) :
    (a.mirror height scale offset).position = flip height a.position := rfl

/-- A mirror turns triangles over. -/
@[simp]
theorem doubledArea_flip (height : K) (a b c : K × K) :
    doubledArea (flip height a) (flip height b) (flip height c) = -doubledArea a b c := by
  simp only [doubledArea, flip]
  ring

/-- What is left of the weights after a mirror: all of them. -/
@[simp]
theorem weights_flip (height : K) (a b c point : K × K) :
    weights (flip height a) (flip height b) (flip height c) (flip height point) =
      weights a b c point := by
  simp only [weights, doubledArea_flip, neg_div_neg_eq]

/-- Depths are changed by the affine map, as the weights add up to one. -/
theorem depthAt_mirror {a b c : WindowPoint K} {w : K × K × K} (h : w.1 + w.2.1 + w.2.2 = 1)
    (height scale offset : K) :
    depthAt (a.mirror height scale offset) (b.mirror height scale offset)
      (c.mirror height scale offset) w = scale * depthAt a b c w + offset := by
  simp only [depthAt, WindowPoint.mirror]
  linear_combination offset * h

/-! ## coverage -/

section Coverage

variable [LinearOrder K]

/-- A point is inside a triangle, and not on its edges. -/
def Inside (w : K × K × K) : Prop := 0 < w.1 ∧ 0 < w.2.1 ∧ 0 < w.2.2

/-- A point is inside a triangle or on its edges. -/
def Touches (w : K × K × K) : Prop := 0 ≤ w.1 ∧ 0 ≤ w.2.1 ∧ 0 ≤ w.2.2

/-- A point is on an edge of a triangle that has an area. -/
def OnEdge (a b c point : K × K) : Prop :=
  doubledArea a b c ≠ 0 ∧ Touches (weights a b c point) ∧ ¬ Inside (weights a b c point)

instance (w : K × K × K) : Decidable (Inside w) := inferInstanceAs (Decidable (_ ∧ _))

instance (w : K × K × K) : Decidable (Touches w) := inferInstanceAs (Decidable (_ ∧ _))

instance (a b c point : K × K) : Decidable (OnEdge a b c point) :=
  inferInstanceAs (Decidable (_ ∧ _))

/-- Which points a triangle covers: those inside it, and none outside of it.  A triangle
without an area covers none.  Points on its edges are up to the implementation, which should
give an edge that two triangles share to one of them. -/
structure FillRule (K : Type*) [Field K] [LinearOrder K] where
  covers : K × K → K × K → K × K → K × K → Bool
  covers_of_inside : ∀ a b c point, Inside (weights a b c point) → covers a b c point = true
  touches_of_covers : ∀ a b c point, covers a b c point = true →
    doubledArea a b c ≠ 0 ∧ Touches (weights a b c point)

/-- On the edges of a triangle the second rule decides, upside down, as the first one does. -/
def FillRule.EdgesAgree (height : K) (rule rule' : FillRule K) (a b c point : K × K) : Prop :=
  OnEdge a b c point →
    rule'.covers (flip height a) (flip height b) (flip height c) (flip height point) =
      rule.covers a b c point

instance (height : K) (rule rule' : FillRule K) (a b c point : K × K) :
    Decidable (rule.EdgesAgree height rule' a b c point) :=
  inferInstanceAs (Decidable (_ → _))

/-- Rules that agree on the edges agree. -/
theorem FillRule.covers_flip {height : K} {rule rule' : FillRule K} {a b c point : K × K}
    (h : rule.EdgesAgree height rule' a b c point) :
    rule'.covers (flip height a) (flip height b) (flip height c) (flip height point) =
      rule.covers a b c point := by
  by_cases hinside : Inside (weights a b c point)
  · rw [rule.covers_of_inside a b c point hinside]
    exact rule'.covers_of_inside _ _ _ _ (by rwa [weights_flip])
  · refine Bool.eq_iff_iff.mpr ⟨fun hcovers => ?_, fun hcovers => ?_⟩
    · have htouches := rule'.touches_of_covers _ _ _ _ hcovers
      rw [doubledArea_flip, weights_flip, neg_ne_zero] at htouches
      rwa [← h ⟨htouches.1, htouches.2, hinside⟩]
    · have htouches := rule.touches_of_covers _ _ _ _ hcovers
      rwa [h ⟨htouches.1, htouches.2, hinside⟩]

/-- Whether a point with this weight is on the side of an edge that it has to be on.  On the
edge itself, that is so if the weight grows to the right, or, where it does not change to the
right, if it grows in the vertical direction. -/
def FillRule.Reaches (weight right vertical : K) : Prop :=
  0 < weight ∨ weight = 0 ∧ (0 < right ∨ right = 0 ∧ 0 < vertical)

instance (weight right vertical : K) : Decidable (FillRule.Reaches weight right vertical) :=
  inferInstanceAs (Decidable (_ ∨ _))

/-- What reaches an edge is not beyond it. -/
theorem FillRule.Reaches.nonneg {weight right vertical : K}
    (h : FillRule.Reaches weight right vertical) : 0 ≤ weight :=
  h.elim le_of_lt fun hzero => hzero.1.ge

/-- The rule by which a triangle has the points on its left edges, and of its horizontal edges
those on the one that is first in the vertical direction.  With `1` rows are counted from the
bottom and with `-1` from the top. -/
def FillRule.leftEdges (vertical : K) : FillRule K where
  covers a b c point :=
    let area := doubledArea a b c
    let w := weights a b c point
    area ≠ 0 ∧ Reaches w.1 ((b.2 - c.2) / area) (vertical * ((c.1 - b.1) / area)) ∧
      Reaches w.2.1 ((c.2 - a.2) / area) (vertical * ((a.1 - c.1) / area)) ∧
      Reaches w.2.2 ((a.2 - b.2) / area) (vertical * ((b.1 - a.1) / area))
  covers_of_inside a b c point h := by
    have harea : doubledArea a b c ≠ 0 := by
      intro hzero
      simp [Inside, weights, hzero] at h
    exact decide_eq_true ⟨harea, Or.inl h.1, Or.inl h.2.1, Or.inl h.2.2⟩
  touches_of_covers a b c point h := by
    obtain ⟨harea, ha, hb, hc⟩ := of_decide_eq_true h
    exact ⟨harea, ha.nonneg, hb.nonneg, hc.nonneg⟩

end Coverage

/-! ## drawing -/

/-- The three corners, and the colour that the fragment shader returns for the fragment with
given weights of the corners. -/
structure Triangle (P K C : Type*) where
  a : P
  b : P
  c : P
  shade : K → K → K → C

/-- The triangle with its corners placed elsewhere. -/
def Triangle.map {Q : Type*} (place : P → Q) (t : Triangle P K C) : Triangle Q K C :=
  ⟨place t.a, place t.b, place t.c, t.shade⟩

variable [LinearOrder K]

/-- How triangles become fragments. -/
structure Pipeline (P K : Type*) [Field K] [LinearOrder K] where
  toWindow : P → WindowPoint K
  fillRule : FillRule K
  /-- whether a triangle faces the front, by its doubled area in the window -/
  isFront : K → Bool
  /-- whether front faces, or back faces, are culled -/
  culls : Bool → Bool
  /-- the depth that is tested and stored, unless the fragment is clipped -/
  keptDepth : K → Option K
  depthTest : Bool

/-- What the colour and the depth buffer hold at a sample point. -/
structure Pixel (K C : Type*) where
  depth : K
  colour : C
deriving DecidableEq, Repr

namespace Pipeline

/-- The depth and the colour of a triangle at a sample point, if it is seen there. -/
def fragment (p : Pipeline P K) (x y : K) (t : Triangle P K C) : Option (K × C) :=
  let a := p.toWindow t.a
  let b := p.toWindow t.b
  let c := p.toWindow t.c
  let w := weights a.position b.position c.position (x, y)
  if p.culls (p.isFront (doubledArea a.position b.position c.position)) then none
  else if p.fillRule.covers a.position b.position c.position (x, y) then
    (p.keptDepth (depthAt a b c w)).map fun d => (d, t.shade w.1 w.2.1 w.2.2)
  else none

/-- A fragment reaches the buffers if it is nearer than what they hold. -/
def write (p : Pipeline P K) (pixel : Pixel K C) (fragment : K × C) : Pixel K C :=
  if p.depthTest then
    if fragment.1 < pixel.depth then ⟨fragment.1, fragment.2⟩ else pixel
  else { pixel with colour := fragment.2 }

/-- The pipeline that drops what is nearer than a bound. -/
def behind (p : Pipeline P K) (nearest : K) : Pipeline P K :=
  { p with keptDepth := fun d => if nearest ≤ d then p.keptDepth d else none }

/-- Draw one triangle. -/
def draw (p : Pipeline P K) (x y : K) (pixel : Pixel K C) (t : Triangle P K C) : Pixel K C :=
  match p.fragment x y t with
  | some fragment => p.write pixel fragment
  | none => pixel

/-- Draw triangles, in order, over cleared buffers. -/
def sample (p : Pipeline P K) (x y : K) (clear : Pixel K C) (triangles : List (Triangle P K C)) :
    Pixel K C :=
  triangles.foldl (p.draw x y) clear

end Pipeline

/-- Without depth test the colour does not depend on the depth buffer. -/
theorem colour_sample_of_no_depthTest {p : Pipeline P K} (h : p.depthTest = false) (x y d d' : K)
    (colour : C) (triangles : List (Triangle P K C)) :
    (p.sample x y ⟨d, colour⟩ triangles).colour = (p.sample x y ⟨d', colour⟩ triangles).colour := by
  induction triangles generalizing colour with
  | nil => rfl
  | cons t triangles ih =>
    simp only [Pipeline.sample, List.foldl_cons, Pipeline.draw]
    cases p.fragment x y t with
    | none => exact ih colour
    | some fragment =>
      simp only [Pipeline.write, h]
      exact ih fragment.2

/-! ## two pipelines -/

/-- The second pipeline draws upside down what the first one draws. -/
structure Mirrors (p q : Pipeline P K) (height scale offset : K) : Prop where
  toWindow : ∀ v, q.toWindow v = (p.toWindow v).mirror height scale offset
  isFront : ∀ area, q.isFront (-area) = p.isFront area
  culls : q.culls = p.culls
  keptDepth : ∀ d, q.keptDepth (scale * d + offset) = (p.keptDepth d).map (scale * · + offset)
  depthTest : q.depthTest = p.depthTest

/-- At a sample point on an edge of the triangle both pipelines decide alike. -/
def EdgesAgree (p q : Pipeline P K) (height x y : K) (t : Triangle P K C) : Prop :=
  p.fillRule.EdgesAgree height q.fillRule (p.toWindow t.a).position (p.toWindow t.b).position
    (p.toWindow t.c).position (x, y)

/-- The pixel with its depth changed by an affine map. -/
def Pixel.rescale (scale offset : K) (pixel : Pixel K C) : Pixel K C :=
  { pixel with depth := scale * pixel.depth + offset }

section Mirrored

variable {p q : Pipeline P K} {height scale offset : K} (h : Mirrors p q height scale offset)

include h

/-- Both pipelines make the same fragment, at another depth. -/
theorem fragment_mirrors {x y : K} {t : Triangle P K C} (hedges : EdgesAgree p q height x y t) :
    q.fragment x (height - y) t =
      (p.fragment x y t).map fun fragment => (scale * fragment.1 + offset, fragment.2) := by
  have hsample : (x, height - y) = flip height (x, y) := rfl
  simp only [Pipeline.fragment, h.toWindow, WindowPoint.position_mirror, hsample, weights_flip,
    doubledArea_flip, h.isFront, h.culls, FillRule.covers_flip hedges]
  split
  · rfl
  · split
    · rename_i hcovers
      have harea := (p.fillRule.touches_of_covers _ _ _ _ hcovers).1
      rw [depthAt_mirror (weights_sum harea (x, y)), h.keptDepth]
      simp only [Option.map_map, Function.comp_def]
    · rfl

variable [IsStrictOrderedRing K]

/-- An increasing map of depths changes no depth test. -/
theorem write_mirrors (hscale : 0 < scale) (pixel : Pixel K C) (fragment : K × C) :
    q.write (pixel.rescale scale offset) (scale * fragment.1 + offset, fragment.2) =
      (p.write pixel fragment).rescale scale offset := by
  simp only [Pipeline.write, h.depthTest, Pixel.rescale, add_lt_add_iff_right,
    mul_lt_mul_iff_right₀ hscale]
  split_ifs <;> rfl

/-- **Step**: one triangle more. -/
theorem draw_mirrors (hscale : 0 < scale) {x y : K} {t : Triangle P K C}
    (hedges : EdgesAgree p q height x y t) (pixel : Pixel K C) :
    q.draw x (height - y) (pixel.rescale scale offset) t =
      (p.draw x y pixel t).rescale scale offset := by
  simp only [Pipeline.draw, fragment_mirrors h hedges]
  cases p.fragment x y t with
  | none => rfl
  | some fragment => exact write_mirrors h hscale pixel fragment

/-- **Mirrored drawing**: the second pipeline leaves in its buffers, upside down, what the
first one leaves in its own. -/
theorem sample_mirrors (hscale : 0 < scale) {x y : K} {triangles : List (Triangle P K C)}
    (hedges : ∀ t ∈ triangles, EdgesAgree p q height x y t) (clear : Pixel K C) :
    q.sample x (height - y) (clear.rescale scale offset) triangles =
      (p.sample x y clear triangles).rescale scale offset := by
  induction triangles generalizing clear with
  | nil => rfl
  | cons t triangles ih =>
    simp only [Pipeline.sample, List.foldl_cons,
      draw_mirrors h hscale (hedges t List.mem_cons_self)]
    exact ih (fun t' ht' => hedges t' (List.mem_cons_of_mem _ ht')) _

end Mirrored

/-! ## the kept depths -/

variable [IsStrictOrderedRing K]

/-- The depth in a triangle is not nearer than its corners. -/
theorem le_depthAt {a b c : WindowPoint K} {w : K × K × K} (hw : Touches w)
    (hsum : w.1 + w.2.1 + w.2.2 = 1) {bound : K} (ha : bound ≤ a.depth) (hb : bound ≤ b.depth)
    (hc : bound ≤ c.depth) : bound ≤ depthAt a b c w := by
  obtain ⟨h₁, h₂, h₃⟩ := hw
  have hbound : bound = w.1 * bound + w.2.1 * bound + w.2.2 * bound := by
    rw [← add_mul, ← add_mul, hsum, one_mul]
  rw [hbound]
  simp only [depthAt]
  gcongr

/-- A triangle with no corner before the bound loses nothing. -/
theorem fragment_behind {p : Pipeline P K} {nearest : K} {t : Triangle P K C}
    (ha : nearest ≤ (p.toWindow t.a).depth) (hb : nearest ≤ (p.toWindow t.b).depth)
    (hc : nearest ≤ (p.toWindow t.c).depth) (x y : K) :
    (p.behind nearest).fragment x y t = p.fragment x y t := by
  by_cases hcovers : p.fillRule.covers (p.toWindow t.a).position (p.toWindow t.b).position
      (p.toWindow t.c).position (x, y)
  · obtain ⟨harea, htouches⟩ := p.fillRule.touches_of_covers _ _ _ _ hcovers
    have hdepth := le_depthAt htouches (weights_sum harea (x, y)) ha hb hc
    simp only [Pipeline.fragment, Pipeline.behind, if_pos hdepth]
  · simp [Pipeline.fragment, Pipeline.behind, hcovers]

/-- A pipeline that drops what is nearer than a bound draws like the whole one if no
triangle has a corner there. -/
theorem sample_behind {p : Pipeline P K} {nearest : K} {triangles : List (Triangle P K C)}
    (hfar : ∀ t ∈ triangles, nearest ≤ (p.toWindow t.a).depth ∧
      nearest ≤ (p.toWindow t.b).depth ∧ nearest ≤ (p.toWindow t.c).depth)
    (x y : K) (clear : Pixel K C) :
    (p.behind nearest).sample x y clear triangles = p.sample x y clear triangles := by
  induction triangles generalizing clear with
  | nil => rfl
  | cons t triangles ih =>
    obtain ⟨ha, hb, hc⟩ := hfar t List.mem_cons_self
    have hdraw : (p.behind nearest).draw x y clear t = p.draw x y clear t := by
      simp only [Pipeline.draw, fragment_behind ha hb hc]
      rfl
    simp only [Pipeline.sample, List.foldl_cons, hdraw]
    exact ih (fun t' ht' => hfar t' (List.mem_cons_of_mem _ ht')) _

end Rasterisation
end Topaz
