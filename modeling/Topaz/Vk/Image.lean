import Mathlib.Data.List.Induction
import Mathlib.Logic.Function.Basic

/-!
# Topaz.Vk.Image

Image layouts and the barriers that change them.

A `vk::Image` remembers its layout on the host, and a barrier is recorded with that
layout as the one it starts from.  There are two ways to record one:
`Image::set_layout`, which also remembers the new layout, and
`CommandBufferRecording::transition_image_layout`, which does not.  The renderer's
texture upload takes the second way, twice for every texture.
-/

namespace Topaz
namespace Vk

/-- `Image::Layout`. -/
inductive ImageLayout where
  | undefined
  | colourAttachment
  | depthAttachment
  | present
  | transferSource
  | transferDestination
  | shaderResource
deriving DecidableEq, Repr

inductive AccessMask where
  | none
  | transferWrite
  | shaderRead
deriving DecidableEq, Repr

inductive PipelineStage where
  | topOfPipe
  | transfer
  | allGraphics
deriving DecidableEq, Repr

/-- The aspects of an image that a command works on. -/
inductive ImageAspect where
  | colour
  | depth
deriving DecidableEq, Repr

/-- A recorded image memory barrier.  The stages of layouts that are not supported are
never assigned. -/
structure Barrier where
  image : Nat
  aspectMask : ImageAspect
  oldLayout : ImageLayout
  newLayout : ImageLayout
  srcAccessMask : AccessMask
  dstAccessMask : AccessMask
  sourceStage : Option PipelineStage
  destinationStage : Option PipelineStage
deriving DecidableEq, Repr

inductive ImageCommand where
  | pipelineBarrier (barrier : Barrier)
  | copyBufferToImage (image : Nat) (aspectMask : ImageAspect)
deriving DecidableEq, Repr

/-- The layouts that images (named by numbers) remember, and what has been recorded. -/
structure ImageRecording where
  layouts : Nat → ImageLayout
  commands : List ImageCommand

namespace ImageRecording

/-- New images, and nothing recorded. -/
def start : ImageRecording := ⟨fun _ => .undefined, []⟩

def getLayout (r : ImageRecording) (image : Nat) : ImageLayout := r.layouts image

/-- The barrier of `transition_image_layout`. -/
def barrier (r : ImageRecording) (image : Nat) (newLayout : ImageLayout) : Barrier where
  image := image
  aspectMask := .colour
  oldLayout := r.getLayout image
  newLayout := newLayout
  srcAccessMask := match r.getLayout image with
    | .transferDestination => .transferWrite
    | _ => .none
  dstAccessMask := match newLayout with
    | .transferDestination => .transferWrite
    | .shaderResource => .shaderRead
    | _ => .none
  sourceStage := match r.getLayout image with
    | .undefined => some .topOfPipe
    | .transferDestination => some .transfer
    | _ => none
  destinationStage := match newLayout with
    | .transferDestination => some .transfer
    | .shaderResource => some .allGraphics
    | _ => none

/-- `CommandBufferRecording::transition_image_layout`: the image is not told. -/
def transitionImageLayout (r : ImageRecording) (image : Nat) (newLayout : ImageLayout) :
    ImageRecording :=
  { r with commands := r.commands ++ [.pipelineBarrier (r.barrier image newLayout)] }

/-- `Image::set_layout`. -/
def setLayout (r : ImageRecording) (image : Nat) (newLayout : ImageLayout) : ImageRecording :=
  let r := r.transitionImageLayout image newLayout
  { r with layouts := Function.update r.layouts image newLayout }

/-- `CommandBufferRecording::buffer_copy_image`. -/
def bufferCopyImage (r : ImageRecording) (image : Nat) : ImageRecording :=
  { r with commands := r.commands ++ [.copyBufferToImage image .colour] }

/-- What `record_and_run_scratch_commands` records for a texture. -/
def uploadTexture (r : ImageRecording) (image : Nat) : ImageRecording :=
  ((r.transitionImageLayout image .transferDestination).bufferCopyImage image
    ).transitionImageLayout image .shaderResource

/-- The upload of all textures of a renderer; their images are new. -/
def uploadTextures (count : Nat) : ImageRecording :=
  (List.range count).foldl uploadTexture start

end ImageRecording

/-- A layout change, by one of the two calls. -/
inductive LayoutChange where
  | setLayout (image : Nat) (newLayout : ImageLayout)
  | transitionImageLayout (image : Nat) (newLayout : ImageLayout)
deriving DecidableEq, Repr

namespace LayoutChange

def image : LayoutChange → Nat
  | setLayout image _ => image
  | transitionImageLayout image _ => image

def newLayout : LayoutChange → ImageLayout
  | setLayout _ newLayout => newLayout
  | transitionImageLayout _ newLayout => newLayout

end LayoutChange

namespace ImageRecording

def change (r : ImageRecording) : LayoutChange → ImageRecording
  | .setLayout image newLayout => r.setLayout image newLayout
  | .transitionImageLayout image newLayout => r.transitionImageLayout image newLayout

/-- Record a sequence of layout changes. -/
def changeAll (changes : List LayoutChange) : ImageRecording := changes.foldl change start

/-- The barriers recorded on an image, in order. -/
def barriersOn (r : ImageRecording) (image : Nat) : List Barrier :=
  r.commands.filterMap fun
    | .pipelineBarrier barrier => if barrier.image = image then some barrier else none
    | .copyBufferToImage _ _ => none

end ImageRecording

/-! ## faithful tracking -/

/-- Every barrier starts from where the one before it ended, the first from `start`. -/
def Chained : ImageLayout → List Barrier → Prop
  | _, [] => True
  | start, barrier :: barriers =>
      barrier.oldLayout = start ∧ Chained barrier.newLayout barriers

/-- Where barriers leave an image that was in layout `start`. -/
def endLayout (start : ImageLayout) (barriers : List Barrier) : ImageLayout :=
  barriers.foldl (fun _ barrier => barrier.newLayout) start

/-- The barriers on every image are chained, and the image knows where they end. -/
def TracksLayouts (r : ImageRecording) : Prop :=
  ∀ image, Chained .undefined (r.barriersOn image) ∧
    r.getLayout image = endLayout .undefined (r.barriersOn image)

/-- The layout last asked for on an image. -/
def requested (changes : List LayoutChange) (image : Nat) : ImageLayout :=
  ((changes.filter fun change => change.image = image).getLast?.map
    LayoutChange.newLayout).getD .undefined

/-- `transition_image_layout` is only used where it changes nothing. -/
def TransitionsRedundant (changes : List LayoutChange) : Prop :=
  ∀ before image newLayout after,
    changes = before ++ .transitionImageLayout image newLayout :: after →
    newLayout = requested before image

/-- The barrier recorded after a copy to a texture starts from the layout the copy
needs, so that it keeps the texels. -/
def KeepsTexels (r : ImageRecording) : Prop :=
  ∀ before image aspectMask barrier after,
    r.commands =
      before ++ .copyBufferToImage image aspectMask :: .pipelineBarrier barrier :: after →
    barrier.image = image ∧ barrier.oldLayout = .transferDestination

/-! ## one change -/

theorem chained_concat_iff (start : ImageLayout) (barriers : List Barrier) (barrier : Barrier) :
    Chained start (barriers ++ [barrier]) ↔
      Chained start barriers ∧ barrier.oldLayout = endLayout start barriers := by
  induction barriers generalizing start with
  | nil => simp [Chained, endLayout]
  | cons first barriers ih =>
      have hend : endLayout first.newLayout barriers = endLayout start (first :: barriers) := rfl
      rw [List.cons_append, Chained, Chained, ih, hend, and_assoc]

theorem endLayout_concat (start : ImageLayout) (barriers : List Barrier) (barrier : Barrier) :
    endLayout start (barriers ++ [barrier]) = barrier.newLayout := by
  simp [endLayout]

namespace ImageRecording

variable (r : ImageRecording) (change : LayoutChange)

theorem commands_change : (r.change change).commands =
    r.commands ++ [ImageCommand.pipelineBarrier (r.barrier change.image change.newLayout)] := by
  cases change <;> rfl

/-- A change records one barrier, on its image. -/
theorem barriersOn_change (image : Nat) :
    (r.change change).barriersOn image = r.barriersOn image ++
      if change.image = image then [r.barrier image change.newLayout] else [] := by
  rw [barriersOn, commands_change, List.filterMap_append]
  by_cases h : change.image = image
  · subst h
    simp [barriersOn, barrier]
  · simp [barriersOn, barrier, h]

theorem getLayout_change_of_ne {image : Nat} (h : change.image ≠ image) :
    (r.change change).getLayout image = r.getLayout image := by
  cases change with
  | setLayout image' newLayout => exact Function.update_of_ne (Ne.symm h) _ _
  | transitionImageLayout image' newLayout => rfl

/-- **Step**: a change keeps the tracking faithful unless it is a transition to a
layout the image does not have. -/
theorem tracksLayouts_change_iff :
    TracksLayouts (r.change change) ↔
      TracksLayouts r ∧ ∀ image newLayout, change = .transitionImageLayout image newLayout →
        newLayout = r.getLayout image := by
  have hother : ∀ image, change.image ≠ image →
      ((Chained .undefined ((r.change change).barriersOn image) ∧
        (r.change change).getLayout image =
          endLayout .undefined ((r.change change).barriersOn image)) ↔
      (Chained .undefined (r.barriersOn image) ∧
        r.getLayout image = endLayout .undefined (r.barriersOn image))) := by
    intro image h
    rw [barriersOn_change, getLayout_change_of_ne r change h, if_neg h, List.append_nil]
  have hown : (Chained .undefined ((r.change change).barriersOn change.image) ∧
        (r.change change).getLayout change.image =
          endLayout .undefined ((r.change change).barriersOn change.image)) ↔
      (Chained .undefined (r.barriersOn change.image) ∧
        r.getLayout change.image = endLayout .undefined (r.barriersOn change.image)) ∧
      (r.change change).getLayout change.image = change.newLayout := by
    rw [barriersOn_change, if_pos rfl, chained_concat_iff, endLayout_concat]
    rfl
  have hnew : (r.change change).getLayout change.image = change.newLayout ↔
      ∀ image newLayout, change = .transitionImageLayout image newLayout →
        newLayout = r.getLayout image := by
    cases change with
    | setLayout image newLayout =>
        simp [ImageRecording.change, setLayout, getLayout, LayoutChange.image,
          LayoutChange.newLayout]
    | transitionImageLayout image newLayout =>
        simp [ImageRecording.change, transitionImageLayout, getLayout, LayoutChange.image,
          LayoutChange.newLayout, eq_comm]
  rw [← hnew]
  constructor
  · intro h
    refine ⟨fun image => ?_, (hown.mp (h change.image)).2⟩
    by_cases himage : change.image = image
    · exact himage ▸ (hown.mp (h change.image)).1
    · exact (hother image himage).mp (h image)
  · intro h image
    by_cases himage : change.image = image
    · exact himage ▸ hown.mpr ⟨h.1 change.image, h.2⟩
    · exact (hother image himage).mpr (h.1 image)

end ImageRecording

/-! ## runs -/

theorem changeAll_concat (changes : List LayoutChange) (change : LayoutChange) :
    ImageRecording.changeAll (changes ++ [change]) =
      (ImageRecording.changeAll changes).change change := by
  simp [ImageRecording.changeAll]

/-- Barriers end in the layout that was asked for last. -/
theorem endLayout_changeAll (changes : List LayoutChange) (image : Nat) :
    endLayout .undefined ((ImageRecording.changeAll changes).barriersOn image) =
      requested changes image := by
  induction changes using List.reverseRecOn with
  | nil => rfl
  | append_singleton changes change ih =>
      rw [changeAll_concat, ImageRecording.barriersOn_change]
      by_cases h : change.image = image
      · simp [h, endLayout_concat, requested, ImageRecording.barrier]
      · simpa [h, requested] using ih

theorem transitionsRedundant_concat_iff (changes : List LayoutChange) (change : LayoutChange) :
    TransitionsRedundant (changes ++ [change]) ↔
      TransitionsRedundant changes ∧ ∀ image newLayout,
        change = .transitionImageLayout image newLayout → newLayout = requested changes image := by
  constructor
  · intro h
    refine ⟨fun before image newLayout after hsplit => ?_, fun image newLayout hchange => ?_⟩
    · exact h before image newLayout (after ++ [change]) (by rw [hsplit]; simp)
    · exact h changes image newLayout [] (by rw [hchange])
  · intro h before image newLayout after hsplit
    cases after using List.reverseRecOn with
    | nil =>
        obtain ⟨rfl, hlast⟩ := List.append_inj' hsplit rfl
        exact h.2 image newLayout (List.head_eq_of_cons_eq hlast)
    | append_singleton after last =>
        have hsplit' : changes ++ [change] =
            (before ++ .transitionImageLayout image newLayout :: after) ++ [last] := by
          rw [hsplit]; simp
        exact h.1 before image newLayout after (List.append_inj' hsplit' rfl).1

/-- **Run**: tracking is faithful exactly when transitions change nothing. -/
theorem tracksLayouts_changeAll_iff (changes : List LayoutChange) :
    TracksLayouts (ImageRecording.changeAll changes) ↔ TransitionsRedundant changes := by
  induction changes using List.reverseRecOn with
  | nil =>
      have hempty : TracksLayouts (ImageRecording.changeAll []) := fun _ => ⟨trivial, rfl⟩
      simp [hempty, TransitionsRedundant]
  | append_singleton changes change ih =>
      rw [changeAll_concat, ImageRecording.tracksLayouts_change_iff,
        transitionsRedundant_concat_iff, ← ih]
      refine and_congr_right fun htracks => ?_
      have hlayout : ∀ image, (ImageRecording.changeAll changes).getLayout image =
          requested changes image := fun image =>
        (htracks image).2.trans (endLayout_changeAll changes image)
      simp only [hlayout]

/-! ## the texture upload -/

theorem uploadTextures_succ (count : Nat) :
    ImageRecording.uploadTextures (count + 1) =
      (ImageRecording.uploadTextures count).uploadTexture count := by
  simp [ImageRecording.uploadTextures, List.range_succ]

/-- The upload leaves every image believing that it is in no layout. -/
theorem layouts_uploadTextures (count : Nat) (image : Nat) :
    (ImageRecording.uploadTextures count).getLayout image = .undefined := by
  induction count with
  | zero => rfl
  | succ count ih =>
      rw [uploadTextures_succ]
      exact ih

theorem ImageRecording.commands_uploadTexture (r : ImageRecording) (image : Nat) :
    (r.uploadTexture image).commands =
      (r.commands ++ [.pipelineBarrier (r.barrier image .transferDestination)]) ++
        .copyBufferToImage image .colour ::
          .pipelineBarrier (r.barrier image .shaderResource) :: [] := by
  simp only [uploadTexture, transitionImageLayout, bufferCopyImage, List.append_assoc]
  rfl

/-- The barrier after the last copy starts from no layout. -/
theorem not_keepsTexels_uploadTextures (count : Nat) :
    ¬ KeepsTexels (ImageRecording.uploadTextures (count + 1)) := by
  intro h
  have hcommands := ImageRecording.commands_uploadTexture
    (ImageRecording.uploadTextures count) count
  rw [← uploadTextures_succ] at hcommands
  have hold : (ImageRecording.uploadTextures count).getLayout count = .transferDestination :=
    (h _ count _ _ [] hcommands).2
  rw [layouts_uploadTextures] at hold
  contradiction

/-- **Layout tracking**: barriers are chained and images know their layouts exactly when
every `transition_image_layout` asks for the layout last asked for on its image; and the
texture upload keeps the texels it copies exactly when there are no textures. -/
theorem layout_tracking_iff (changes : List LayoutChange) (textures : Nat) :
    (TracksLayouts (ImageRecording.changeAll changes) ↔ TransitionsRedundant changes) ∧
    (KeepsTexels (ImageRecording.uploadTextures textures) ↔ textures = 0) := by
  refine ⟨tracksLayouts_changeAll_iff changes, ?_⟩
  cases textures with
  | zero => simp [KeepsTexels, ImageRecording.uploadTextures, ImageRecording.start]
  | succ count => simp [not_keepsTexels_uploadTextures]

/-- The upload of one texture: its second barrier discards what was copied. -/
theorem upload_discards_texels :
    ¬ TracksLayouts (ImageRecording.changeAll [.transitionImageLayout 0 .transferDestination,
      .transitionImageLayout 0 .shaderResource]) ∧
    ¬ KeepsTexels (ImageRecording.uploadTextures 1) := by
  refine ⟨fun h => ?_, not_keepsTexels_uploadTextures 0⟩
  have hchained := (h 0).1
  exact absurd hchained.2.1 (by decide)

end Vk
end Topaz
