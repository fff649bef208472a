import Topaz.Core.Projection
import Topaz.Ogl.Context
import Topaz.Rasterisation
import Topaz.Vk.Finalise

/-!
# Topaz.Image

The picture that a renderer leaves in the window, in both backends, computed exactly.

The Vulkan renderer asks for "OpenGL coordinates": the viewport has a negative height and
starts at the bottom, so its window is the one of OpenGL upside down, and its front faces,
which Vulkan tells by an area of the other sign, are those of OpenGL.  Depths are another
matter: OpenGL takes `-1..1` to its depth range and Vulkan takes `0..1`.  So the Vulkan
picture is the OpenGL picture without what is in the nearer half of OpenGL's depth range
(`pipeline_mirrors`), and a perspective camera sees in Vulkan only what is beyond
`2 * near * far / (near + far)` (`nearest_iff`).

Two things are taken as given.  The fragment shaders of the two backends return the same
colours: a triangle brings its colour, as a function of the weights of its corners, to both.
And each backend has a fill rule of its own for samples on the edges of triangles; pictures
are compared at samples where the two decide alike (`SampledAlike`), as they do wherever the
sample is on no edge.
-/

namespace Topaz

open Topaz.Core Topaz.Rasterisation

variable {K : Type*} [Field K] [LinearOrder K]

/-- What a vertex shader returns for a vertex in front of the camera. -/
def ClipPosition (K : Type*) [Field K] [LinearOrder K] : Type _ :=
  { v : Core.Vector K 4 // 0 < v.w }

/-- A pixel, with a `tz::Vec4` as its colour. -/
abbrev ColourPixel (K : Type*) := Pixel K (Core.Vector K 4)

/-- A triangle, with the colours that the fragment shader returns, in either backend. -/
abbrev ClipTriangle (K : Type*) [Field K] [LinearOrder K] :=
  Triangle (ClipPosition K) K (Core.Vector K 4)

/-! ## OpenGL -/

namespace Ogl

/-- Where a vertex goes after `glViewport(0, 0, width, height)`, with the depth range `0..1`. -/
def toWindow (width height : K) (v : ClipPosition K) : WindowPoint K :=
  ⟨toViewport 0 width (v.val.x / v.val.w), toViewport 0 height (v.val.y / v.val.w),
    toViewport 0 1 (v.val.z / v.val.w)⟩

/-- Whether front or back faces are culled. -/
def CullFaceMode.culls : CullFaceMode → Bool → Bool
  | .front, isFront => isFront
  | .back, isFront => !isFront
  | .frontAndBack, _ => true

/-- How the context draws.  Front faces are anticlockwise. -/
def pipeline (fillRule : FillRule K) (context : Context) (width height : K) :
    Pipeline (ClipPosition K) K where
  toWindow := toWindow width height
  fillRule := fillRule
  isFront doubledArea := 0 < doubledArea
  culls isFront :=
    match context.culling with
    | some mode => mode.culls isFront
    | none => false
  keptDepth d := if 0 ≤ d ∧ d ≤ 1 then some d else none
  depthTest := context.depthTest

/-- `glClear` with the bits of the pass. -/
def clear (passAttachment : RenderPassAttachment) (clearColour : Core.Vector K 4)
    (pixel : ColourPixel K) : ColourPixel K :=
  match passAttachment with
  | .colour => { pixel with colour := clearColour }
  | .depth => { pixel with depth := 1 }
  | .colourDepth => ⟨1, clearColour⟩

/-- The pixel at a point of the window after `RendererOGL::render`. -/
def rendered (fillRule : FillRule K) (context : Context) (builder : ContextSettings)
    (width height : K) (clearColour : Core.Vector K 4) (previous : ColourPixel K)
    (triangles : List (ClipTriangle K)) (x y : K) : ColourPixel K :=
  (pipeline fillRule context width height).sample x y
    (clear builder.passAttachment clearColour previous) triangles

end Ogl

/-! ## Vulkan -/

namespace Vk

/-- A `VkViewport`. -/
structure Viewport (K : Type*) where
  x : K
  y : K
  width : K
  height : K
  minDepth : K
  maxDepth : K
deriving DecidableEq, Repr

/-- The viewport of a `ViewportState`. -/
def viewportState (width height : K) (useOpenglCoordinateSystem : Bool) : Viewport K :=
  let viewport : Viewport K := ⟨0, 0, width, height, 0, 1⟩
  if useOpenglCoordinateSystem then
    { viewport with
      height := viewport.height * -1
      y := viewport.y + height }
  else viewport

/-- Where a vertex goes. -/
def Viewport.toWindow (viewport : Viewport K) (v : ClipPosition K) : WindowPoint K :=
  ⟨toViewport viewport.x viewport.width (v.val.x / v.val.w),
    toViewport viewport.y viewport.height (v.val.y / v.val.w),
    (viewport.maxDepth - viewport.minDepth) * (v.val.z / v.val.w) + viewport.minDepth⟩

inductive CullingStrategy where
  | back
  | front
  | both
  | none
deriving DecidableEq, Repr

inductive WindingOrder where
  | clockwise
  | anticlockwise
deriving DecidableEq, Repr

/-- Whether front or back faces are culled. -/
def CullingStrategy.culls : CullingStrategy → Bool → Bool
  | .back, isFront => !isFront
  | .front, isFront => isFront
  | .both, _ => true
  | .none, _ => false

/-- Whether a triangle faces the front: by the sign of its area, which Vulkan counts
positive if it is anticlockwise with `y` downwards. -/
def WindingOrder.isFront (windingOrder : WindingOrder) (doubledArea : K) : Bool :=
  match windingOrder with
  | .clockwise => -doubledArea < 0
  | .anticlockwise => 0 < -doubledArea

/-- A `RasteriserState`, for filled polygons. -/
structure RasteriserState where
  clampThoseOutsideViewFrustum : Bool := false
  discardEverything : Bool := false
  strategy : CullingStrategy := .none
  windingOrder : WindingOrder := .anticlockwise
deriving DecidableEq, Repr

def vkGetRasteriserState (cullingStrategy : Ogl.RendererCullingStrategy) : RasteriserState where
  clampThoseOutsideViewFrustum := false
  discardEverything := false
  strategy :=
    match cullingStrategy with
    | .noCulling => .none
    | .cullFrontFaces => .front
    | .cullBackFaces => .back
    | .cullEverything => .both

/-- The values an attachment is cleared with, by its number.  A `VkClearValue` is a colour,
or a depth and a stencil value in the place of its first two components. -/
def clearVals (clearColour : Core.Vector K 4) : List (Core.Vector K 4) :=
  [clearColour, ⟨![1, 0, 0, 0]⟩]

/-- What a render pass does to an attachment that it begins with. -/
def Attachment.load (attachment : Attachment) (clearVal : Core.Vector K 4) (pixel : ColourPixel K) :
    ColourPixel K :=
  match attachment.kind, attachment.colourDepthLoad with
  | .colour, .clear => { pixel with colour := clearVal }
  | .depth, .clear => { pixel with depth := clearVal.x }
  | _, _ => pixel

/-- `vkCmdBeginRenderPass`. -/
def beginRenderPass (passAttachment : Ogl.RenderPassAttachment) (clearColour : Core.Vector K 4)
    (pixel : ColourPixel K) : ColourPixel K :=
  ((passAttachments passAttachment).zip (clearVals clearColour)).foldl
    (fun pixel attached => attached.1.load attached.2 pixel) pixel

/-- How a pipeline draws.  The depth test is always on, and passes where there is no depth
attachment. -/
def pipeline (fillRule : FillRule K) (viewport : Viewport K) (rasteriser : RasteriserState)
    (passAttachment : Ogl.RenderPassAttachment) : Pipeline (ClipPosition K) K where
  toWindow := viewport.toWindow
  fillRule := fillRule
  isFront := rasteriser.windingOrder.isFront
  culls isFront := rasteriser.discardEverything || rasteriser.strategy.culls isFront
  keptDepth d :=
    if rasteriser.clampThoseOutsideViewFrustum then
      some (max viewport.minDepth (min d viewport.maxDepth))
    else if viewport.minDepth ≤ d ∧ d ≤ viewport.maxDepth then some d
    else none
  depthTest := (passAttachments passAttachment).any fun a => a.kind = .depth

/-- The pixel at a point of the framebuffer after the recorded commands have run. -/
def rendered (fillRule : FillRule K) (builder : Ogl.ContextSettings) (width height : K)
    (clearColour : Core.Vector K 4) (previous : ColourPixel K) (triangles : List (ClipTriangle K))
    (x y : K) : ColourPixel K :=
  (pipeline fillRule (viewportState width height true)
    (vkGetRasteriserState builder.cullingStrategy) builder.passAttachment).sample x y
      (beginRenderPass builder.passAttachment clearColour previous) triangles

end Vk

/-! ## the two pictures -/

/-- Where the sample point is on an edge of the triangle, the implementations of OpenGL and
Vulkan decide alike whether it is covered.  The triangle and the point are upside down in the
framebuffer of Vulkan. -/
def SampledAlike (oglRule vkRule : FillRule K) (width height x y : K) (t : ClipTriangle K) : Prop :=
  oglRule.EdgesAgree height vkRule (Ogl.toWindow width height t.a).position
    (Ogl.toWindow width height t.b).position (Ogl.toWindow width height t.c).position (x, y)

instance (oglRule vkRule : FillRule K) (width height x y : K) (t : ClipTriangle K) :
    Decidable (SampledAlike oglRule vkRule width height x y t) :=
  inferInstanceAs (Decidable (FillRule.EdgesAgree ..))

variable [IsStrictOrderedRing K]

/-- The windows are mirror images, and so is what is culled in them. -/
theorem pipeline_mirrors {context : Ogl.Context} {builder : Ogl.ContextSettings}
    (hculling : context.culling = builder.cullingStrategy.faces)
    (hdepthTest : context.depthTest = builder.depthTest) (oglRule vkRule : FillRule K)
    (width height : K) :
    Mirrors ((Ogl.pipeline oglRule context width height).behind (1 / 2))
      (Vk.pipeline vkRule (Vk.viewportState width height true)
        (Vk.vkGetRasteriserState builder.cullingStrategy) builder.passAttachment)
      height 2 (-1) where
  toWindow v := by
    simp only [Vk.pipeline, Vk.Viewport.toWindow, Vk.viewportState, Pipeline.behind, Ogl.pipeline,
      Ogl.toWindow, toViewport, WindowPoint.mirror, WindowPoint.mk.injEq, if_true, true_and]
    constructor <;> ring
  isFront area := by
    simp [Vk.pipeline, Vk.vkGetRasteriserState, Vk.WindingOrder.isFront, Pipeline.behind,
      Ogl.pipeline]
  culls := by
    funext isFront
    simp only [Vk.pipeline, Vk.vkGetRasteriserState, Pipeline.behind, Ogl.pipeline, hculling]
    cases builder.cullingStrategy <;> rfl
  keptDepth d := by
    have hlower : 0 ≤ 2 * d + -1 ↔ 1 / 2 ≤ d := by
      constructor <;> intro h <;> linarith
    have hupper : 2 * d + -1 ≤ 1 ↔ d ≤ 1 := by
      constructor <;> intro h <;> linarith
    simp only [Vk.pipeline, Vk.vkGetRasteriserState, Vk.viewportState, Pipeline.behind,
      Ogl.pipeline, if_true, hlower, hupper]
    by_cases hnear : 1 / 2 ≤ d
    · have hpos : 0 ≤ d := by linarith
      by_cases hfar : d ≤ 1 <;> simp [hpos, hfar]
    · simp only [hnear, false_and, if_false, Option.map_none, Bool.false_eq_true]
  depthTest := by
    simp only [Vk.pipeline, Pipeline.behind, Ogl.pipeline, hdepthTest,
      Ogl.ContextSettings.depthTest]
    cases builder.passAttachment <;> rfl

section

variable {context : Ogl.Context} {builder : Ogl.ContextSettings}
  (hattachment : builder.passAttachment ≠ .depth)
  (hculling : context.culling = builder.cullingStrategy.faces)
  (hdepthTest : context.depthTest = builder.depthTest)
  {oglRule vkRule : FillRule K} {width height x y : K} {triangles : List (ClipTriangle K)}
  (hedges : ∀ t ∈ triangles, SampledAlike oglRule vkRule width height x y t)
  (clearColour : Core.Vector K 4) (previous previous' : ColourPixel K)

include hattachment hculling hdepthTest hedges

/-- Vulkan draws what OpenGL draws behind the middle of its depth range. -/
theorem colour_rendered_behind :
    (Vk.rendered vkRule builder width height clearColour previous triangles x (height - y)).colour =
      (((Ogl.pipeline oglRule context width height).behind (1 / 2)).sample x y
        (Ogl.clear builder.passAttachment clearColour previous') triangles).colour := by
  have hmirrors := pipeline_mirrors hculling hdepthTest oglRule vkRule width height
  have hsample := fun clear => congrArg Pixel.colour
    (sample_mirrors hmirrors two_pos hedges (clear : ColourPixel K))
  simp only [Vk.rendered]
  cases hpass : builder.passAttachment with
  | depth => exact absurd hpass hattachment
  | colourDepth =>
    have hclear : Vk.beginRenderPass .colourDepth clearColour previous =
        (Ogl.clear .colourDepth clearColour previous').rescale 2 (-1) := by
      simp [Vk.beginRenderPass, Vk.passAttachments, Vk.clearVals, Vk.Attachment.load,
        Vk.Attachment.kind, Vk.defaultColourAttachment, Vk.defaultDepthAttachment, Ogl.clear,
        Pixel.rescale, Core.Vector.x]
      norm_num
    rw [hclear, ← hpass]
    exact hsample _
  | colour =>
    -- there is no depth attachment, so whatever the depth is, the colours agree
    have hoff : (Vk.pipeline vkRule (Vk.viewportState width height true)
        (Vk.vkGetRasteriserState builder.cullingStrategy) .colour).depthTest = false := rfl
    rw [hpass] at hsample
    exact (colour_sample_of_no_depthTest hoff x (height - y) _ _ clearColour triangles).trans
      (hsample ⟨previous'.depth, clearColour⟩)

/-- Vulkan draws what OpenGL draws if there is nothing before the middle of its depth
range. -/
theorem colour_rendered_of_far
    (hfar : ∀ t ∈ triangles, 0 ≤ t.a.val.z ∧ 0 ≤ t.b.val.z ∧ 0 ≤ t.c.val.z) :
    (Vk.rendered vkRule builder width height clearColour previous triangles x (height - y)).colour =
      (Ogl.rendered oglRule context builder width height clearColour previous' triangles x
        y).colour := by
  have hdepth : ∀ v : ClipPosition K, 0 ≤ v.val.z →
      1 / 2 ≤ (Ogl.toWindow width height v).depth := by
    intro v hv
    have hquotient : 0 ≤ v.val.z / v.val.w := div_nonneg hv v.property.le
    simp only [Ogl.toWindow, toViewport]
    linarith
  rw [colour_rendered_behind hattachment hculling hdepthTest hedges clearColour previous previous',
    sample_behind]
  · rfl
  · intro t ht
    obtain ⟨ha, hb, hc⟩ := hfar t ht
    exact ⟨hdepth t.a ha, hdepth t.b hb, hdepth t.c hc⟩

end

/-- **The two pictures**: at every sample point where the two implementations decide alike on
edges, a Vulkan renderer whose pass has a colour leaves in the window, row by row from the other
end, what an OpenGL renderer with the same settings leaves there of the farther half of its depth
range, and all of it if no vertex is in the nearer half.  Arithmetic is exact and the fragment
shaders of both return the same colours. -/
theorem vulkan_image_matches_opengl (oglRule vkRule : FillRule K) (context : Ogl.Context)
    (builder : Ogl.ContextSettings) (hattachment : builder.passAttachment ≠ .depth)
    (hculling : context.culling = builder.cullingStrategy.faces)
    (hdepthTest : context.depthTest = builder.depthTest)
    (width height : K) (clearColour : Core.Vector K 4) (previous previous' : ColourPixel K)
    (triangles : List (ClipTriangle K)) (x y : K)
    (hedges : ∀ t ∈ triangles, SampledAlike oglRule vkRule width height x y t) :
    (Vk.rendered vkRule builder width height clearColour previous triangles x (height - y)).colour =
        (((Ogl.pipeline oglRule context width height).behind (1 / 2)).sample x y
          (Ogl.clear builder.passAttachment clearColour previous') triangles).colour ∧
      ((∀ t ∈ triangles, 0 ≤ t.a.val.z ∧ 0 ≤ t.b.val.z ∧ 0 ≤ t.c.val.z) →
        (Vk.rendered vkRule builder width height clearColour previous triangles x
            (height - y)).colour =
          (Ogl.rendered oglRule context builder width height clearColour previous' triangles x
            y).colour) :=
  ⟨colour_rendered_behind hattachment hculling hdepthTest hedges clearColour previous previous',
    colour_rendered_of_far hattachment hculling hdepthTest hedges clearColour previous previous'⟩

/-- A corner of a triangle, at distance `w + 1`. -/
def clipCorner (x y z : ℚ) (w : Nat) : ClipPosition ℚ := ⟨⟨![x, y, z, w + 1]⟩, w.cast_add_one_pos⟩

/-- A red triangle, a green one behind it, and a blue one nearer than both that faces the
other way. -/
def threeTriangles : List (ClipTriangle ℚ) :=
  [⟨clipCorner (-1) (-1) 1 1, clipCorner 1 (-1) 1 1, clipCorner 0 1 1 1,
      fun _ _ _ => ⟨![1, 0, 0, 1]⟩⟩,
    ⟨clipCorner (-1) (-1) 1 0, clipCorner 1 (-1) (3 / 4) 0, clipCorner 0 1 1 0,
      fun _ _ _ => ⟨![0, 1, 0, 1]⟩⟩,
    ⟨clipCorner (-1) (-1) 0 0, clipCorner 0 1 0 0, clipCorner 1 (-1) 0 0,
      fun _ _ _ => ⟨![0, 0, 1, 1]⟩⟩]

/-- The two halves of the screen, red and green, which share the diagonal. -/
def twoHalves : List (ClipTriangle ℚ) :=
  [⟨clipCorner (-1) (-1) 0 0, clipCorner 1 (-1) 0 0, clipCorner 1 1 0 0,
      fun _ _ _ => ⟨![1, 0, 0, 1]⟩⟩,
    ⟨clipCorner (-1) (-1) 0 0, clipCorner 1 1 0 0, clipCorner (-1) 1 0 0,
      fun _ _ _ => ⟨![0, 1, 0, 1]⟩⟩]

/-- Inside the three triangles the red one is seen.  A sample on the diagonal belongs to the
half on the right of it. -/
theorem vulkan_image_matches_threeTriangles :
    let builder : Ogl.ContextSettings := ⟨.cullBackFaces, .colourDepth⟩
    let context : Ogl.Context := Ogl.contextAfter [.construct builder]
    let white : Core.Vector ℚ 4 := ⟨![1, 1, 1, 1]⟩
    let red : Core.Vector ℚ 4 := ⟨![1, 0, 0, 1]⟩
    ((∀ t ∈ threeTriangles, 0 ≤ t.a.val.z ∧ 0 ≤ t.b.val.z ∧ 0 ≤ t.c.val.z) ∧
      (Ogl.rendered (.leftEdges 1) context builder 8 6 white ⟨0, white⟩ threeTriangles 4 2).colour =
        red ∧
      (Vk.rendered (.leftEdges (-1)) builder 8 6 white ⟨0, white⟩ threeTriangles 4
        (6 - 2)).colour = red) ∧
      (Ogl.rendered (.leftEdges 1) context builder 2 2 white ⟨0, white⟩ twoHalves (1 / 2)
        (1 / 2)).colour = red ∧
      (Vk.rendered (.leftEdges (-1)) builder 2 2 white ⟨0, white⟩ twoHalves (1 / 2)
        (2 - 1 / 2)).colour = red := by
  intro builder context white red
  have hfar : ∀ t ∈ threeTriangles, 0 ≤ t.a.val.z ∧ 0 ≤ t.b.val.z ∧ 0 ≤ t.c.val.z := by
    decide +kernel
  have hogl : (Ogl.rendered (.leftEdges 1) context builder 8 6 white ⟨0, white⟩ threeTriangles 4
      2).colour = red := by
    decide +kernel
  have hpictures := vulkan_image_matches_opengl (.leftEdges 1) (.leftEdges (-1)) context builder
    (by decide) rfl rfl 8 6 white ⟨0, white⟩ ⟨0, white⟩ threeTriangles 4 2 (by decide +kernel)
  have hhalves : (Ogl.rendered (.leftEdges 1) context builder 2 2 white ⟨0, white⟩ twoHalves (1 / 2)
      (1 / 2)).colour = red := by
    decide +kernel
  have hdiagonal := vulkan_image_matches_opengl (.leftEdges 1) (.leftEdges (-1)) context builder
    (by decide) rfl rfl 2 2 white ⟨0, white⟩ ⟨0, white⟩ twoHalves (1 / 2) (1 / 2)
    (by decide +kernel)
  exact ⟨⟨hfar, hogl, (hpictures.2 hfar).trans hogl⟩, hhalves,
    (hdiagonal.2 (by decide +kernel)).trans hhalves⟩

/-! ## perspective -/

/-- A point in front of the camera. -/
structure CameraPoint (K : Type*) [Field K] [LinearOrder K] where
  x : K
  y : K
  z : K
  inFront : z < 0

/-- A point as a vertex shader places it. -/
def CameraPoint.projected (std : CMath K) (fov aspectRatio near far : K) (p : CameraPoint K) :
    ClipPosition K :=
  ⟨applied (perspective std fov aspectRatio near far) p.x p.y p.z, by
    rw [applied_perspective, Core.Vector.w]
    simpa using p.inFront⟩

theorem CameraPoint.projected_depth (std : CMath K) (fov aspectRatio near far : K)
    (p : CameraPoint K) : (p.projected std fov aspectRatio near far).val.z =
      ((far + near) * p.z + 2 * far * near) / (near - far) :=
  congrArg (fun v : Core.Vector K 4 => v.z) (applied_perspective std fov aspectRatio near far ..)

/-- The clip conditions of Vulkan. -/
def InVulkanClipVolume (v : Core.Vector K 4) : Prop :=
  (-v.w ≤ v.x ∧ v.x ≤ v.w) ∧ (-v.w ≤ v.y ∧ v.y ≤ v.w) ∧ 0 ≤ v.z ∧ v.z ≤ v.w

section

variable {near far : K} (hn : 0 < near) (hf : near < far)

include hn hf

/-- The near side that Vulkan clips at. -/
theorem nearest_iff (z : K) : 0 ≤ ((far + near) * z + 2 * far * near) / (near - far) ↔
    2 * near * far / (near + far) ≤ -z := by
  have hsum : 0 < near + far := add_pos hn (hn.trans hf)
  rw [div_le_iff₀ hsum, le_div_iff_of_neg (sub_neg.mpr hf), zero_mul]
  constructor <;> intro h <;> linarith

/-- The far side, which is the same in both backends. -/
theorem farthest_iff (z : K) :
    ((far + near) * z + 2 * far * near) / (near - far) ≤ -z ↔ -far ≤ z := by
  have hdiff : (far + near) * z + 2 * far * near - -z * (near - far) = 2 * near * (z - -far) := by
    ring
  rw [div_le_iff_of_neg (sub_neg.mpr hf), ← sub_nonneg, hdiff,
    mul_nonneg_iff_of_pos_left (by positivity), sub_nonneg]

/-- Where Vulkan's near side is. -/
theorem nearest_bounds : near < 2 * near * far / (near + far) ∧
    2 * near * far / (near + far) < far ∧ 2 * near * far / (near + far) < 2 * near := by
  have hfar : 0 < far := hn.trans hf
  have hsum : 0 < near + far := add_pos hn hfar
  rw [lt_div_iff₀ hsum, div_lt_iff₀ hsum, div_lt_iff₀ hsum]
  refine ⟨?_, ?_, ?_⟩ <;> nlinarith

end

/-- **Perspective projection in Vulkan**: computed exactly, the frustum that is drawn begins not
at `near` but at `2 * near * far / (near + far)`, up to twice as far away.  Scenes that stay behind
that plane look the same in both backends, at every sample point where the two implementations
decide alike on edges and with fragment shaders that return the same colours. -/
theorem perspective_clips_vulkan_frustum (std : CMath K) (fov aspectRatio near far : K)
    (ht : 0 < std.tan (fov / 2)) (ha : 0 < aspectRatio) (hn : 0 < near) (hf : near < far) :
    let nearest := 2 * near * far / (near + far)
    (∀ x y z, InVulkanClipVolume (applied (perspective std fov aspectRatio near far) x y z) ↔
        InFrustum (std.tan (fov / 2)) aspectRatio nearest far x y z) ∧
      (near < nearest ∧ nearest < far ∧ nearest < 2 * near) ∧
      ∀ (oglRule vkRule : FillRule K) (context : Ogl.Context) (builder : Ogl.ContextSettings),
        builder.passAttachment ≠ .depth →
        context.culling = builder.cullingStrategy.faces → context.depthTest = builder.depthTest →
        ∀ (width height : K) (clearColour : Core.Vector K 4) (previous previous' : ColourPixel K)
          (scene : List (Triangle (CameraPoint K) K (Core.Vector K 4))),
        (∀ t ∈ scene, nearest ≤ -t.a.z ∧ nearest ≤ -t.b.z ∧ nearest ≤ -t.c.z) →
        ∀ x y,
          let triangles := scene.map (Triangle.map
            (CameraPoint.projected std fov aspectRatio near far))
          (∀ t ∈ triangles, SampledAlike oglRule vkRule width height x y t) →
          (Vk.rendered vkRule builder width height clearColour previous triangles x
              (height - y)).colour =
            (Ogl.rendered oglRule context builder width height clearColour previous' triangles x
              y).colour := by
  intro nearest
  refine ⟨?_, nearest_bounds hn hf, ?_⟩
  · intro x y z
    have hx := clip_side_iff (mul_pos ha ht) (-z) x
    have hy := clip_side_iff ht (-z) y
    have hnearest : 0 ≤ ((far + near) * z + 2 * far * near) / (near - far) ↔ z ≤ -nearest :=
      (nearest_iff hn hf z).trans le_neg
    rw [← mul_assoc] at hx
    rw [applied_perspective, InFrustum, ← hx, ← hy, ← hnearest, ← farthest_iff hn hf z]
    exact ⟨fun h => ⟨h.2.2.symm, h.1, h.2.1⟩, fun h => ⟨h.2.1, h.2.2, h.1.symm⟩⟩
  · intro oglRule vkRule context builder hattachment hculling hdepthTest width height clearColour
      previous previous' scene hscene x y triangles hedges
    have hdepth : ∀ p : CameraPoint K, nearest ≤ -p.z →
        0 ≤ (p.projected std fov aspectRatio near far).val.z := by
      intro p hp
      rw [CameraPoint.projected_depth]
      exact (nearest_iff hn hf p.z).mpr hp
    refine colour_rendered_of_far hattachment hculling hdepthTest hedges clearColour previous
      previous' ?_
    intro t ht
    obtain ⟨t', ht', rfl⟩ := List.mem_map.mp ht
    obtain ⟨ha, hb, hc⟩ := hscene t' ht'
    exact ⟨hdepth t'.a ha, hdepth t'.b hb, hdepth t'.c hc⟩

/-- Between the two near sides, a point is in the frustum and Vulkan does not draw it.  The
field of view is a quarter turn. -/
theorem perspective_clips_vulkan_between :
    (CMath.real.tan (Real.pi / 2 / 2) = 1 ∧ (0 : ℝ) < 2 ∧ (0 : ℝ) < 1 ∧ (1 : ℝ) < 3) ∧
      InFrustum (1 : ℝ) 2 1 3 0 0 (-5 / 4) ∧
      ¬ InVulkanClipVolume (applied (perspective CMath.real (Real.pi / 2) 2 1 3) 0 0 (-5 / 4)) := by
  have ht := CMath.tan_real_quarterTurn
  have hclips := perspective_clips_vulkan_frustum CMath.real (Real.pi / 2) 2 1 3 (ht ▸ one_pos)
    two_pos one_pos (by norm_num)
  refine ⟨⟨ht, two_pos, one_pos, by norm_num⟩, by norm_num [InFrustum], ?_⟩
  rw [hclips.1]
  norm_num [InFrustum]

end Topaz
