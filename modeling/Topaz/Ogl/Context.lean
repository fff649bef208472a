import Topaz.Machine
import Mathlib.Data.List.Basic

/-!
# Topaz.Ogl.Context

Several OpenGL renderers in one context.

Face culling, the depth test and the clear colour are state of the OpenGL context.  A
`RendererOGL` sets the first two when it is constructed and the third when it is told
to, and keeps none of them: `render` and `get_clear_colour` use whatever the context
holds.  So the context after any operations is what the *last* of them set, whichever
renderer it was called on (`culling_contextAfter`, `depthTest_contextAfter`,
`clearColour_contextAfter`), and a renderer runs with its own settings exactly when
those are its own.
-/

namespace Topaz
namespace Ogl

inductive RendererCullingStrategy where
  | noCulling
  | cullFrontFaces
  | cullBackFaces
  | cullEverything
deriving DecidableEq, Repr

inductive RenderPassAttachment where
  | colour
  | depth
  | colourDepth
deriving DecidableEq, Repr

/-- The argument of `glCullFace`. -/
inductive CullFaceMode where
  | front
  | back
  | frontAndBack
deriving DecidableEq, Repr

/-- A `tz::Vec4`, as the bits of its floats. -/
structure Vec4 where
  x : BitVec 32
  y : BitVec 32
  z : BitVec 32
  w : BitVec 32
deriving DecidableEq, Repr

/-- The state of the OpenGL context that renderers share. -/
structure Context where
  depthTest : Bool
  cullFace : Bool
  cullFaceMode : CullFaceMode
  clearColour : Vec4
deriving DecidableEq, Repr

/-- The settings of a renderer builder that go to the context. -/
structure ContextSettings where
  cullingStrategy : RendererCullingStrategy
  passAttachment : RenderPassAttachment
deriving DecidableEq, Repr

/-- Operations on renderers, which are named by the order of their construction. -/
inductive ContextOp where
  | construct (builder : ContextSettings)
  | setClearColour (renderer : Nat) (clearColour : Vec4)
  | getClearColour (renderer : Nat)
  | render (renderer : Nat)
deriving DecidableEq, Repr

namespace Context

/-- A new context. -/
def initial : Context := ⟨false, false, .back, ⟨0, 0, 0, 0⟩⟩

/-- The faces that are culled, if any. -/
def culling (c : Context) : Option CullFaceMode := if c.cullFace then some c.cullFaceMode else none

def setDepthTest (c : Context) (passAttachment : RenderPassAttachment) : Context :=
  if passAttachment ≠ .colour then { c with depthTest := true } else { c with depthTest := false }

def setCulling (c : Context) : RendererCullingStrategy → Context
  | .noCulling => { c with cullFace := false }
  | .cullFrontFaces => { c with cullFace := true, cullFaceMode := .front }
  | .cullBackFaces => { c with cullFace := true, cullFaceMode := .back }
  | .cullEverything => { c with cullFace := true, cullFaceMode := .frontAndBack }

/-- What an operation does to the context: the constructor sets up depth test and
culling, `set_clear_colour` the clear colour; no operation looks at the renderer. -/
def step (c : Context) : ContextOp → Context
  | .construct builder => (c.setDepthTest builder.passAttachment).setCulling builder.cullingStrategy
  | .setClearColour _ clearColour => { c with clearColour := clearColour }
  | .getClearColour _ => c
  | .render _ => c

end Context

/-- The context after a history of operations. -/
def contextAfter (history : List ContextOp) : Context := history.foldl Context.step .initial

/-! ## what a renderer should see -/

/-- The builder of the renderer that an operation constructs. -/
def ContextOp.builder? : ContextOp → Option ContextSettings
  | .construct builder => some builder
  | _ => none

/-- The clear colour that an operation sets, and the renderer it is called on. -/
def ContextOp.colour? : ContextOp → Option (Nat × Vec4)
  | .setClearColour renderer clearColour => some (renderer, clearColour)
  | _ => none

/-- The builders of the renderers constructed so far, in order. -/
def constructed (history : List ContextOp) : List ContextSettings :=
  history.filterMap ContextOp.builder?

/-- The clear colours set so far, each with the renderer it was set on. -/
def coloursSet (history : List ContextOp) : List (Nat × Vec4) :=
  history.filterMap ContextOp.colour?

/-- The last of some colours, or the default one. -/
def lastColour (colours : List (Nat × Vec4)) : Vec4 :=
  (colours.getLast?.map Prod.snd).getD ⟨0, 0, 0, 0⟩

/-- The colour last set on a renderer. -/
def colourOf (history : List ContextOp) (renderer : Nat) : Vec4 :=
  lastColour ((coloursSet history).filter fun set => set.1 = renderer)

/-- The faces a strategy culls. -/
def RendererCullingStrategy.faces : RendererCullingStrategy → Option CullFaceMode
  | .noCulling => none
  | .cullFrontFaces => some .front
  | .cullBackFaces => some .back
  | .cullEverything => some .frontAndBack

/-- A renderer with an attachment other than colour tests depth. -/
def ContextSettings.depthTest (builder : ContextSettings) : Bool :=
  builder.passAttachment ≠ .colour

/-- After `history`, an operation of a renderer finds that renderer's own settings. -/
def SeesOwn (history : List ContextOp) : ContextOp → Prop
  | .render renderer => ∀ builder, (constructed history)[renderer]? = some builder →
      (contextAfter history).culling = builder.cullingStrategy.faces ∧
      (contextAfter history).depthTest = builder.depthTest ∧
      (contextAfter history).clearColour = colourOf history renderer
  | .getClearColour renderer => ∀ builder, (constructed history)[renderer]? = some builder →
      (contextAfter history).clearColour = colourOf history renderer
  | _ => True

/-- Every operation of a sequence finds its renderer's own settings. -/
def NonInterfering (ops : List ContextOp) : Prop :=
  ∀ history op rest, ops = history ++ op :: rest → SeesOwn history op

/-- The renderer constructed last and the colour set last, on whatever renderers, are
as good as the renderer's own. -/
def LastIsOwn (history : List ContextOp) : ContextOp → Prop
  | .render renderer => ∀ builder, (constructed history)[renderer]? = some builder →
      (∀ last, (constructed history).getLast? = some last →
        last.cullingStrategy = builder.cullingStrategy ∧
        (last.passAttachment = .colour ↔ builder.passAttachment = .colour)) ∧
      lastColour (coloursSet history) = colourOf history renderer
  | .getClearColour renderer => ∀ builder, (constructed history)[renderer]? = some builder →
      lastColour (coloursSet history) = colourOf history renderer
  | _ => True

/-! ## the context is what was set last -/

namespace Context

variable (c : Context)

/-- Only a construction changes what is culled. -/
theorem culling_step (op : ContextOp) :
    (c.step op).culling = (op.builder?.map (·.cullingStrategy.faces)).getD c.culling := by
  cases op with
  | construct builder =>
      obtain ⟨strategy, pass⟩ := builder
      cases strategy <;> rfl
  | setClearColour _ _ => rfl
  | getClearColour _ => rfl
  | render _ => rfl

/-- Only a construction changes the depth test. -/
theorem depthTest_step (op : ContextOp) :
    (c.step op).depthTest = (op.builder?.map ContextSettings.depthTest).getD c.depthTest := by
  cases op with
  | construct builder =>
      obtain ⟨strategy, pass⟩ := builder
      cases strategy <;> cases pass <;> rfl
  | setClearColour _ _ => rfl
  | getClearColour _ => rfl
  | render _ => rfl

/-- Only `set_clear_colour` changes the clear colour. -/
theorem clearColour_step (op : ContextOp) :
    (c.step op).clearColour = (op.colour?.map Prod.snd).getD c.clearColour := by
  cases op with
  | construct builder =>
      obtain ⟨strategy, pass⟩ := builder
      cases strategy <;> cases pass <;> rfl
  | setClearColour _ _ => rfl
  | getClearColour _ => rfl
  | render _ => rfl

end Context

/-- Culling is that of the renderer constructed last. -/
theorem culling_contextAfter (history : List ContextOp) :
    (contextAfter history).culling =
      (constructed history).getLast?.bind fun last => last.cullingStrategy.faces := by
  rw [contextAfter, view_foldl Context.culling_step, ← List.map_filterMap, List.getLast?_map,
    ← constructed]
  cases (constructed history).getLast? <;> rfl

/-- So is the depth test. -/
theorem depthTest_contextAfter (history : List ContextOp) :
    (contextAfter history).depthTest =
      ((constructed history).getLast?.map ContextSettings.depthTest).getD false := by
  rw [contextAfter, view_foldl Context.depthTest_step, ← List.map_filterMap, List.getLast?_map]
  rfl

/-- The clear colour is the one set last. -/
theorem clearColour_contextAfter (history : List ContextOp) :
    (contextAfter history).clearColour = lastColour (coloursSet history) := by
  rw [contextAfter, view_foldl Context.clearColour_step, ← List.map_filterMap, List.getLast?_map]
  rfl

theorem RendererCullingStrategy.faces_eq_iff (s t : RendererCullingStrategy) :
    s.faces = t.faces ↔ s = t := by
  cases s <;> cases t <;> simp [faces]

theorem ContextSettings.depthTest_eq_iff (b c : ContextSettings) :
    b.depthTest = c.depthTest ↔ (b.passAttachment = .colour ↔ c.passAttachment = .colour) := by
  simp only [depthTest, decide_eq_decide, ne_eq, not_iff_not]

/-- A renderer sees its own settings exactly when the last ones are as good. -/
theorem seesOwn_iff (history : List ContextOp) (op : ContextOp) :
    SeesOwn history op ↔ LastIsOwn history op := by
  cases op with
  | construct builder => exact Iff.rfl
  | setClearColour renderer clearColour => exact Iff.rfl
  | getClearColour renderer => rw [SeesOwn, LastIsOwn, clearColour_contextAfter]
  | render renderer =>
      refine forall_congr' fun builder => imp_congr_right fun hbuilder => ?_
      have hne : constructed history ≠ [] := by
        intro hnil
        simp [hnil] at hbuilder
      have hlast := List.getLast?_eq_some_getLast hne
      rw [culling_contextAfter, depthTest_contextAfter, clearColour_contextAfter, hlast,
        Option.bind_some, Option.map_some, Option.getD_some, RendererCullingStrategy.faces_eq_iff,
        ContextSettings.depthTest_eq_iff, ← and_assoc]
      simp

/-- **Interference**: every renderer runs with its own settings exactly when, each time
one of them renders, the renderer constructed last has the same culling strategy and
agrees on the depth test, and, each time one renders or is asked for its clear colour,
the colour last set on any renderer is the one last set on it. -/
theorem non_interfering_iff (ops : List ContextOp) :
    NonInterfering ops ↔
      ∀ history op rest, ops = history ++ op :: rest → LastIsOwn history op := by
  unfold NonInterfering
  simp only [seesOwn_iff]

/-- With a single renderer there is nothing to interfere. -/
theorem nonInterfering_single (builder : ContextSettings) (ops : List ContextOp)
    (hone : constructed ops = []) (hown : ∀ set ∈ coloursSet ops, set.1 = 0) :
    NonInterfering (.construct builder :: ops) := by
  intro history op rest hops
  rw [seesOwn_iff]
  cases history with
  | nil => cases op <;> simp [LastIsOwn, constructed]
  | cons first history =>
      obtain ⟨rfl, rfl⟩ := List.cons.inj hops
      have hbuilders : constructed (.construct builder :: history) = [builder] := by
        have hnone : constructed history = [] := by
          simpa [constructed] using (List.append_eq_nil_iff.mp
            (List.filterMap_append.symm.trans hone)).1
        exact congrArg (builder :: ·) hnone
      have hcolours : ∀ set ∈ coloursSet history, set.1 = 0 := by
        intro set hset
        obtain ⟨setter, hmem, hcolour⟩ := List.mem_filterMap.mp hset
        exact hown set (List.mem_filterMap.mpr ⟨setter, List.mem_append_left _ hmem, hcolour⟩)
      have hcolour : lastColour (coloursSet (.construct builder :: history)) =
          colourOf (.construct builder :: history) 0 := by
        have hall : (coloursSet history).filter (fun set => set.1 = 0) = coloursSet history :=
          List.filter_eq_self.mpr fun set hset => decide_eq_true (hcolours set hset)
        exact congrArg lastColour hall.symm
      cases op <;> simp only [LastIsOwn, hbuilders] <;> grind

/-- A flat renderer, then one that culls back faces and tests depth: the first one's
frames are culled and depth tested. -/
theorem interfering_second_renderer :
    ¬ NonInterfering [.construct ⟨.noCulling, .colour⟩, .construct ⟨.cullBackFaces, .colourDepth⟩,
      .render 0] := by
  intro h
  have hsees := h [.construct ⟨.noCulling, .colour⟩, .construct ⟨.cullBackFaces, .colourDepth⟩]
    (.render 0) [] rfl _ rfl
  exact absurd hsees.1 (by decide)

end Ogl
end Topaz
