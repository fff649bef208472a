import Topaz.Ogl.Context
import Topaz.Vk.RenderPass

/-!
# Topaz.Vk.Finalise

The frontend's render pass builder: passes are added with a placeholder for the colour
format, and `vk_finalise` fills it in once the format is known.

`vk_finalise` first searches for the attachment that is going to be presented, from the
last subpass backwards, by the placeholder; it changes the final layout of the one that it
finds.  Then it replaces the placeholder everywhere.  Attachments are addressed by their
position here, which stands for the pointer that the search returns.

* `getLastColourAttachment_eq_some_iff` — what the search finds;
* `attachmentAt_vkFinalise` — what becomes of every attachment.

Whether a depth image is needed is asked in three places, by three criteria.
-/

namespace Topaz
namespace Vk

open Ogl (RenderPassAttachment)

/-! ## the builder -/

/-- The attachments that `add_pass` makes a subpass of. -/
def passAttachments : RenderPassAttachment → List Attachment
  | .colour => [defaultColourAttachment]
  | .depth => [defaultDepthAttachment]
  | .colourDepth => [defaultColourAttachment, defaultDepthAttachment]

/-- `RenderPassBuilderVulkan`: the subpasses of its `builder`, and its passes. -/
structure RenderPassBuilderVulkan where
  builder : List RenderSubpass
  passes : List RenderPassAttachment
deriving DecidableEq, Repr

/-- The attachment `j` of subpass `i`. -/
def attachmentAt (subpasses : List RenderSubpass) (i j : Nat) : Option Attachment :=
  subpasses[i]?.bind fun s => s.attachments[j]?

/-- The lambda `get_last_colour_attachment`: the last subpass first, and the first
placeholder in it. -/
def getLastColourAttachment (subpasses : List RenderSubpass) : Option (Nat × Nat) :=
  subpasses.zipIdx.reverse.findSome? fun (s, i) =>
    (s.attachments.findIdx? fun a => a.format = .undefined).map fun j => (i, j)

/-- `set_final_image_layout` of the attachment at a position. -/
def setFinalImageLayout (subpasses : List RenderSubpass) (position : Nat × Nat)
    (layout : ImageLayout) : List RenderSubpass :=
  subpasses.modify position.1 fun s =>
    { s with attachments := s.attachments.modify position.2 fun a =>
        { a with finalLayout := layout } }

/-- The format in place of the placeholder. -/
def Attachment.replaceFormat (f : ImageFormat) (a : Attachment) : Attachment :=
  if a.format = .undefined then { a with format := f } else a

/-- The layout that the last colour attachment ends in. -/
def presentedLayout (isHeadless : Bool) : ImageLayout :=
  if isHeadless then .transferSource else .present

namespace RenderPassBuilderVulkan

/-- `add_pass`; `this` is the address of `builder`. -/
def addPass (this : Nat) (b : RenderPassBuilderVulkan) (attachment : RenderPassAttachment) :
    RenderPassBuilderVulkan where
  builder := RenderPassBuilders.withAttachments (fun _ => b.builder) this
    (passAttachments attachment) this
  passes := b.passes ++ [attachment]

/-- Some passes, added to a new builder. -/
def addPasses (this : Nat) (passes : List RenderPassAttachment) : RenderPassBuilderVulkan :=
  passes.foldl (addPass this) ⟨[], []⟩

/-- `vk_finalise`. -/
def vkFinalise (b : RenderPassBuilderVulkan) (isHeadless : Bool)
    (colourAttachmentFormat : ImageFormat) : RenderPassBuilderVulkan :=
  let subpasses := match getLastColourAttachment b.builder with
    | some lastColourAttachment =>
        setFinalImageLayout b.builder lastColourAttachment (presentedLayout isHeadless)
    | none => b.builder
  { b with builder := subpasses.map fun s =>
      { s with attachments := s.attachments.map (Attachment.replaceFormat colourAttachmentFormat) } }

/-- `RenderPassVulkan::requires_depth_image` of a render pass made of the builder. -/
def requiresDepthImage (b : RenderPassBuilderVulkan) : Bool := b.passes.contains .colourDepth

end RenderPassBuilderVulkan

/-- `RenderPassBuilder::has_depth_attachment`. -/
def hasDepthAttachment (subpasses : List RenderSubpass) : Bool :=
  (getAttachments subpasses).any fun a => a.format = .depthFloat32

/-- The flag `requires_depth_image` of a `RendererVulkan`. -/
def rendererRequiresDepthImage (pass : RenderPassAttachment) : Bool := pass ≠ .colour

/-! ## the search -/

/-- Position `(i, j)` is the first attachment with a property in the last subpass that has
one. -/
structure IsLastWith (p : Attachment → Prop) (subpasses : List RenderSubpass) (i j : Nat) :
    Prop where
  holds : ∃ a, attachmentAt subpasses i j = some a ∧ p a
  first : ∀ j' < j, ∀ a, attachmentAt subpasses i j' = some a → ¬ p a
  last : ∀ i' > i, ∀ j' a, attachmentAt subpasses i' j' = some a → ¬ p a

variable {subpasses : List RenderSubpass} {p : Attachment → Prop} {i j : Nat}

theorem IsLastWith.unique {i' j' : Nat} (h : IsLastWith p subpasses i j)
    (h' : IsLastWith p subpasses i' j') : i = i' ∧ j = j' := by
  obtain ⟨a, ha, hp⟩ := h.holds
  obtain ⟨a', ha', hp'⟩ := h'.holds
  have hi : i = i' := by
    rcases Nat.lt_trichotomy i i' with hlt | heq | hlt
    · exact absurd hp' (h.last i' hlt j' a' ha')
    · exact heq
    · exact absurd hp (h'.last i hlt j a ha)
  subst hi
  rcases Nat.lt_trichotomy j j' with hlt | heq | hlt
  · exact absurd hp (h'.first j hlt a ha)
  · exact ⟨rfl, heq⟩
  · exact absurd hp' (h.first j' hlt a' ha')

theorem lt_of_attachmentAt {a : Attachment} (h : attachmentAt subpasses i j = some a) :
    i < subpasses.length := by
  obtain ⟨s, hs, -⟩ := Option.bind_eq_some_iff.mp h
  exact (List.getElem?_eq_some_iff.mp hs).1

theorem attachmentAt_concat (subpasses : List RenderSubpass) (s : RenderSubpass) (i j : Nat) :
    attachmentAt (subpasses ++ [s]) i j =
      if i = subpasses.length then s.attachments[j]? else attachmentAt subpasses i j := by
  unfold attachmentAt
  split
  · next h => simp [h]
  · next h =>
      by_cases hlt : i < subpasses.length
      · rw [List.getElem?_append_left hlt]
      · rw [List.getElem?_eq_none (by simp; omega), List.getElem?_eq_none (by omega)]

theorem getLastColourAttachment_concat (subpasses : List RenderSubpass) (s : RenderSubpass) :
    getLastColourAttachment (subpasses ++ [s]) =
      ((s.attachments.findIdx? fun a => a.format = .undefined).map fun j =>
        (subpasses.length, j)).or (getLastColourAttachment subpasses) := by
  simp only [getLastColourAttachment, List.zipIdx_append, List.zipIdx_singleton,
    List.reverse_append, List.reverse_singleton, List.singleton_append, List.findSome?_cons,
    Nat.zero_add]
  cases s.attachments.findIdx? fun a => a.format = .undefined <;> rfl

/-- Whether an attachment has the placeholder for its format. -/
def IsPlaceholder (a : Attachment) : Prop := a.format = .undefined

instance : DecidablePred IsPlaceholder := fun a => decEq a.format .undefined

theorem IsLastWith.concat_of_none (h : IsLastWith p subpasses i j) {s : RenderSubpass}
    (hs : ∀ a ∈ s.attachments, ¬ p a) : IsLastWith p (subpasses ++ [s]) i j := by
  obtain ⟨a, ha, -⟩ := h.holds
  have hi := Nat.ne_of_lt (lt_of_attachmentAt ha)
  constructor
  · simpa [attachmentAt_concat, hi] using h.holds
  · simpa [attachmentAt_concat, hi] using h.first
  · intro i' hi' j' a ha
    rw [attachmentAt_concat] at ha
    split at ha
    · exact hs a (List.mem_of_getElem? ha)
    · exact h.last i' hi' j' a ha

theorem isLastWith_concat_length {s : RenderSubpass} (hj : ∃ a, s.attachments[j]? = some a ∧ p a)
    (hfirst : ∀ j' < j, ∀ a, s.attachments[j']? = some a → ¬ p a) :
    IsLastWith p (subpasses ++ [s]) subpasses.length j := by
  constructor
  · simpa [attachmentAt_concat] using hj
  · simpa [attachmentAt_concat] using hfirst
  · intro i' hi' j' a ha
    have hlt := lt_of_attachmentAt ha
    rw [List.length_append, List.length_singleton] at hlt
    omega

theorem getLastColourAttachment_sound (subpasses : List RenderSubpass) :
    (∀ i j, getLastColourAttachment subpasses = some (i, j) →
      IsLastWith IsPlaceholder subpasses i j) ∧
    (getLastColourAttachment subpasses = none →
      ∀ i j a, attachmentAt subpasses i j = some a → ¬ IsPlaceholder a) := by
  induction subpasses using List.reverseRecOn with
  | nil => simp [getLastColourAttachment, attachmentAt]
  | append_singleton subpasses s ih =>
      rw [getLastColourAttachment_concat]
      cases hs : s.attachments.findIdx? fun a => a.format = .undefined with
      | none =>
          have hnone : ∀ a ∈ s.attachments, ¬ IsPlaceholder a := by
            simpa [List.findIdx?_eq_none_iff, IsPlaceholder] using hs
          rw [Option.map_none, Option.none_or]
          constructor
          · intro i j h
            exact (ih.1 i j h).concat_of_none hnone
          · intro h i j a ha
            rw [attachmentAt_concat] at ha
            split at ha
            · exact hnone a (List.mem_of_getElem? ha)
            · exact ih.2 h i j a ha
      | some k =>
          rw [Option.map_some, Option.some_or]
          obtain ⟨hk, hfound, hbefore⟩ := List.findIdx?_eq_some_iff_getElem.mp hs
          constructor
          · rintro i j ⟨⟩
            apply isLastWith_concat_length
            · exact ⟨_, List.getElem?_eq_getElem hk, by simpa [IsPlaceholder] using hfound⟩
            · intro j' hj' a ha
              obtain ⟨hlt, rfl⟩ := List.getElem?_eq_some_iff.mp ha
              simpa [IsPlaceholder] using hbefore j' hj'
          · simp

/-- The search finds the first placeholder of the last subpass that has one. -/
theorem getLastColourAttachment_eq_some_iff :
    getLastColourAttachment subpasses = some (i, j) ↔ IsLastWith IsPlaceholder subpasses i j := by
  have hsound := getLastColourAttachment_sound subpasses
  constructor
  · exact hsound.1 i j
  · intro h
    cases hfound : getLastColourAttachment subpasses with
    | none =>
        obtain ⟨a, ha, hp⟩ := h.holds
        exact absurd hp (hsound.2 hfound i j a ha)
    | some position =>
        obtain ⟨hi, hj⟩ := (hsound.1 position.1 position.2 hfound).unique h
        rw [← hi, ← hj]

theorem getLastColourAttachment_eq_none_iff :
    getLastColourAttachment subpasses = none ↔
      ∀ i j a, attachmentAt subpasses i j = some a → ¬ IsPlaceholder a := by
  constructor
  · exact (getLastColourAttachment_sound subpasses).2
  · intro h
    cases hfound : getLastColourAttachment subpasses with
    | none => rfl
    | some position =>
        obtain ⟨a, ha, hp⟩ := ((getLastColourAttachment_sound subpasses).1 _ _ hfound).holds
        exact absurd hp (h _ _ a ha)

/-! ## what becomes of the attachments -/

theorem attachmentAt_setFinalImageLayout (subpasses : List RenderSubpass) (position : Nat × Nat)
    (layout : ImageLayout) (i j : Nat) :
    attachmentAt (setFinalImageLayout subpasses position layout) i j =
      (attachmentAt subpasses i j).map fun a =>
        if (i, j) = position then { a with finalLayout := layout } else a := by
  unfold attachmentAt setFinalImageLayout
  obtain ⟨i₀, j₀⟩ := position
  cases h : subpasses[i]? with
  | none => simp [List.getElem?_modify, h]
  | some s =>
      by_cases hi : i = i₀
      · subst hi
        by_cases hj : j = j₀
        · subst hj
          simp [h]
        · simp [h, hj, Ne.symm hj]
      · simp [h, hi, Ne.symm hi]

theorem attachmentAt_map (subpasses : List RenderSubpass) (g : Attachment → Attachment) (i j : Nat) :
    attachmentAt (subpasses.map fun s => { s with attachments := s.attachments.map g }) i j =
      (attachmentAt subpasses i j).map g := by
  unfold attachmentAt
  cases h : subpasses[i]? <;> simp [h]

theorem replaceFormat_eq (f : ImageFormat) (a : Attachment) :
    a.replaceFormat f = { a with format := if IsPlaceholder a then f else a.format } := by
  by_cases h : a.format = .undefined
  · simp [Attachment.replaceFormat, IsPlaceholder, h]
  · simp [Attachment.replaceFormat, IsPlaceholder, h]

open Classical in
/-- Every attachment is kept with a format in place of the placeholder, and the one that
the search finds in a new final layout. -/
theorem attachmentAt_vkFinalise (b : RenderPassBuilderVulkan) (isHeadless : Bool)
    (f : ImageFormat) (i j : Nat) :
    attachmentAt (b.vkFinalise isHeadless f).builder i j =
      (attachmentAt b.builder i j).map fun a =>
        { a with
          format := if IsPlaceholder a then f else a.format
          finalLayout := if IsLastWith IsPlaceholder b.builder i j then presentedLayout isHeadless
            else a.finalLayout } := by
  rw [RenderPassBuilderVulkan.vkFinalise, attachmentAt_map]
  cases hfound : getLastColourAttachment b.builder with
  | none =>
      have hnone : ¬ IsLastWith IsPlaceholder b.builder i j := by
        rw [← getLastColourAttachment_eq_some_iff, hfound]
        simp
      simp only [if_neg hnone, funext (replaceFormat_eq f)]
  | some position =>
      have hlast : (i, j) = position ↔ IsLastWith IsPlaceholder b.builder i j := by
        rw [← getLastColourAttachment_eq_some_iff, hfound, Option.some_inj, eq_comm]
      simp only [attachmentAt_setFinalImageLayout, Option.map_map, hlast]
      congr 1
      funext a
      by_cases hij : IsLastWith IsPlaceholder b.builder i j
      · simp [replaceFormat_eq, hij, IsPlaceholder]
      · simp [replaceFormat_eq, hij]

/-! ## finalising the passes of a builder -/

theorem addPasses_concat (this : Nat) (passes : List RenderPassAttachment)
    (pass : RenderPassAttachment) :
    RenderPassBuilderVulkan.addPasses this (passes ++ [pass]) =
      (RenderPassBuilderVulkan.addPasses this passes).addPass this pass := by
  simp [RenderPassBuilderVulkan.addPasses]

theorem passes_addPasses (this : Nat) (passes : List RenderPassAttachment) :
    (RenderPassBuilderVulkan.addPasses this passes).passes = passes := by
  induction passes using List.reverseRecOn with
  | nil => rfl
  | append_singleton passes pass ih =>
      rw [addPasses_concat, RenderPassBuilderVulkan.addPass, ih]

theorem getAttachments_addPasses (this : Nat) (passes : List RenderPassAttachment) :
    getAttachments (RenderPassBuilderVulkan.addPasses this passes).builder =
      passes.flatMap passAttachments := by
  induction passes using List.reverseRecOn with
  | nil => rfl
  | append_singleton passes pass ih =>
      rw [addPasses_concat]
      simp [RenderPassBuilderVulkan.addPass, RenderPassBuilders.withAttachments,
        getAttachments_append, ih]

theorem mem_attachments_iff {a : Attachment} :
    a ∈ getAttachments subpasses ↔ ∃ i j, attachmentAt subpasses i j = some a := by
  constructor
  · intro h
    obtain ⟨s, hs, ha⟩ := List.mem_flatMap.mp h
    obtain ⟨i, hi⟩ := List.mem_iff_getElem?.mp hs
    obtain ⟨j, hj⟩ := List.mem_iff_getElem?.mp ha
    exact ⟨i, j, by simp [attachmentAt, hi, hj]⟩
  · rintro ⟨i, j, h⟩
    obtain ⟨s, hs, ha⟩ := Option.bind_eq_some_iff.mp h
    exact List.mem_flatMap.mpr ⟨s, List.mem_of_getElem? hs, List.mem_of_getElem? ha⟩

/-- An added pass has the attachments of the two defaults. -/
theorem default_of_mem {passes : List RenderPassAttachment} {a : Attachment}
    (h : a ∈ passes.flatMap passAttachments) :
    a = defaultColourAttachment ∨ a = defaultDepthAttachment := by
  obtain ⟨pass, -, ha⟩ := List.mem_flatMap.mp h
  cases pass <;> simp [passAttachments] at ha <;> simp [ha]

/-- What becomes of one attachment, which may be the last colour attachment. -/
structure AttachmentFinalised (isHeadless : Bool) (f : ImageFormat) (isLast : Prop)
    (a a' : Attachment) : Prop where
  format : a'.format = if a.format = .undefined then f else a.format
  /-- Only the former placeholders have the new format, if it is a colour format. -/
  former : f ≠ .depthFloat32 → (a'.format = f ↔ a.format = .undefined)
  changed : a'.finalLayout ≠ a.finalLayout ↔ isLast
  layout : isLast → a'.finalLayout = presentedLayout isHeadless
  others : { a' with format := a.format, finalLayout := a.finalLayout } = a

theorem AttachmentFinalised.congr {isHeadless : Bool} {f : ImageFormat} {isLast isLast' : Prop}
    {a a' : Attachment} (h : isLast ↔ isLast') (ha : AttachmentFinalised isHeadless f isLast a a') :
    AttachmentFinalised isHeadless f isLast' a a' := propext h ▸ ha

theorem attachmentFinalised_default {isHeadless : Bool} {f : ImageFormat} {isLast : Prop}
    [Decidable isLast] {a : Attachment}
    (ha : a = defaultColourAttachment ∨ a = defaultDepthAttachment)
    (hlast : isLast → IsPlaceholder a) :
    AttachmentFinalised isHeadless f isLast a
      { a with
        format := if IsPlaceholder a then f else a.format
        finalLayout := if isLast then presentedLayout isHeadless else a.finalLayout } := by
  have hlayout : presentedLayout isHeadless ≠ .colourAttachment := by
    cases isHeadless <;> decide
  rcases ha with rfl | rfl
  · constructor
    case layout =>
      intro h
      simp [h]
    all_goals simp [IsPlaceholder, defaultColourAttachment, hlayout]
  · have hnot : ¬ isLast := fun h => absurd (hlast h) (by decide)
    constructor <;> simp [IsPlaceholder, defaultDepthAttachment, hnot, eq_comm]

/-- `vk_finalise` has finalised exactly the right attachments. -/
structure Finalised (isHeadless : Bool) (f : ImageFormat) (before after : RenderPassBuilderVulkan) :
    Prop where
  noPlaceholder : ∀ a ∈ getAttachments after.builder, a.format ≠ .undefined
  positions : ∀ i j, (attachmentAt after.builder i j).isSome =
    (attachmentAt before.builder i j).isSome
  attachments : ∀ i j a a', attachmentAt before.builder i j = some a →
    attachmentAt after.builder i j = some a' →
    AttachmentFinalised isHeadless f (IsLastWith (·.kind = .colour) before.builder i j) a a'
  /-- There is one last colour attachment if there is a colour attachment. -/
  exists_last : (∃ a ∈ getAttachments before.builder, a.kind = .colour) →
    ∃! position : Nat × Nat,
      IsLastWith (·.kind = .colour) before.builder position.1 position.2
  passes : after.passes = before.passes

theorem IsLastWith.congr {q : Attachment → Prop}
    (h : ∀ a ∈ getAttachments subpasses, p a ↔ q a) (hlast : IsLastWith p subpasses i j) :
    IsLastWith q subpasses i j := by
  have hat : ∀ i j a, attachmentAt subpasses i j = some a → (p a ↔ q a) := fun i j a ha =>
    h a (mem_attachments_iff.mpr ⟨i, j, ha⟩)
  obtain ⟨a, ha, hp⟩ := hlast.holds
  exact {
    holds := ⟨a, ha, (hat i j a ha).mp hp⟩
    first := fun j' hj' a ha hq => hlast.first j' hj' a ha ((hat i j' a ha).mpr hq)
    last := fun i' hi' j' a ha hq => hlast.last i' hi' j' a ha ((hat i' j' a ha).mpr hq) }

theorem exists_isLastWith (h : ∃ a ∈ getAttachments subpasses, IsPlaceholder a) :
    ∃ i j, IsLastWith IsPlaceholder subpasses i j := by
  obtain ⟨a, ha, hp⟩ := h
  obtain ⟨i, j, hij⟩ := mem_attachments_iff.mp ha
  cases hfound : getLastColourAttachment subpasses with
  | none => exact absurd hp (getLastColourAttachment_eq_none_iff.mp hfound i j a hij)
  | some position => exact ⟨_, _, getLastColourAttachment_eq_some_iff.mp hfound⟩

section

variable {b : RenderPassBuilderVulkan} {isHeadless : Bool} {f : ImageFormat}

theorem vkFinalise_noPlaceholder (hf : f ≠ .undefined) :
    ∀ a ∈ getAttachments (b.vkFinalise isHeadless f).builder, ¬ IsPlaceholder a := by
  intro a' ha'
  obtain ⟨i, j, hij⟩ := mem_attachments_iff.mp ha'
  rw [attachmentAt_vkFinalise] at hij
  obtain ⟨a, -, rfl⟩ := Option.map_eq_some_iff.mp hij
  change (if IsPlaceholder a then f else a.format) ≠ .undefined
  split
  · exact hf
  · assumption

/-- Without placeholders there is nothing to finalise. -/
theorem vkFinalise_eq_self (h : ∀ a ∈ getAttachments b.builder, ¬ IsPlaceholder a) :
    b.vkFinalise isHeadless f = b := by
  have hnone : getLastColourAttachment b.builder = none := by
    rw [getLastColourAttachment_eq_none_iff]
    intro i j a ha
    exact h a (mem_attachments_iff.mpr ⟨i, j, ha⟩)
  have hkept : ∀ s ∈ b.builder, s.attachments.map (Attachment.replaceFormat f) = s.attachments := by
    intro s hs
    calc s.attachments.map (Attachment.replaceFormat f) = s.attachments.map id :=
          List.map_congr_left fun a ha => if_neg (h a (List.mem_flatMap.mpr ⟨s, hs, ha⟩))
      _ = s.attachments := List.map_id _
  have hbuilder : (b.builder.map fun s =>
      { s with attachments := s.attachments.map (Attachment.replaceFormat f) }) = b.builder := by
    rw [List.map_congr_left fun s hs => by rw [hkept s hs], List.map_id']
  rw [RenderPassBuilderVulkan.vkFinalise, hnone]
  simp only [hbuilder]

end

/-- **Finalising**: after any passes `vk_finalise` finalises exactly the right attachments,
and doing it again changes nothing. -/
theorem vk_finalise_exact (this : Nat) (passes : List RenderPassAttachment) (isHeadless : Bool)
    (f : ImageFormat) (hf : f ≠ .undefined) :
    let before := RenderPassBuilderVulkan.addPasses this passes
    let after := before.vkFinalise isHeadless f
    Finalised isHeadless f before after ∧
      ∀ isHeadless' f', after.vkFinalise isHeadless' f' = after := by
  intro before after
  have hcolour : ∀ a ∈ getAttachments before.builder, IsPlaceholder a ↔ a.kind = .colour := by
    intro a ha
    rw [getAttachments_addPasses] at ha
    rcases default_of_mem ha with rfl | rfl
    · decide
    · decide
  have hlast : ∀ i j, IsLastWith IsPlaceholder before.builder i j ↔
      IsLastWith (·.kind = .colour) before.builder i j := fun i j =>
    ⟨IsLastWith.congr hcolour, IsLastWith.congr fun a ha => (hcolour a ha).symm⟩
  have hnone : ∀ a ∈ getAttachments after.builder, ¬ IsPlaceholder a :=
    vkFinalise_noPlaceholder hf
  refine ⟨?_, fun _ _ => vkFinalise_eq_self hnone⟩
  exact {
    noPlaceholder := hnone
    positions := by
      intro i j
      rw [attachmentAt_vkFinalise, Option.isSome_map]
    attachments := by
      classical
      intro i j a a' ha ha'
      rw [attachmentAt_vkFinalise, ha, Option.map_some, Option.some_inj] at ha'
      have hmem := mem_attachments_iff.mpr ⟨i, j, ha⟩
      rw [getAttachments_addPasses] at hmem
      subst ha'
      apply (attachmentFinalised_default (default_of_mem hmem) ?_).congr (hlast i j)
      intro h
      obtain ⟨a₀, ha₀, hp⟩ := h.holds
      obtain rfl := Option.some_inj.mp (ha.symm.trans ha₀)
      exact hp
    exists_last := by
      rintro ⟨a, ha, hcol⟩
      obtain ⟨i, j, hij⟩ := exists_isLastWith ⟨a, ha, (hcolour a ha).mpr hcol⟩
      refine ⟨(i, j), (hlast i j).mp hij, ?_⟩
      intro position hposition
      obtain ⟨hi, hj⟩ := hij.unique ((hlast _ _).mpr hposition)
      rw [hi, hj]
    passes := rfl }

theorem vk_finalise_exact_colourDepth :
    ImageFormat.bgra32sRGB ≠ .undefined ∧
      Finalised false .bgra32sRGB (.addPasses 0 [.colour, .colourDepth, .depth])
        ((RenderPassBuilderVulkan.addPasses 0 [.colour, .colourDepth, .depth]).vkFinalise false
          .bgra32sRGB) :=
  ⟨by decide, (vk_finalise_exact 0 [.colour, .colourDepth, .depth] false .bgra32sRGB
    (by decide)).1⟩

/-- The second pass is presented; the others only get the format. -/
example :
    ((RenderPassBuilderVulkan.addPasses 0 [.colour, .colourDepth, .depth]).vkFinalise false
      .bgra32sRGB).builder.map (·.attachments.map fun a => (a.format, a.finalLayout)) =
    [[(.bgra32sRGB, .colourAttachment)], [(.bgra32sRGB, .present), (.depthFloat32, .depthAttachment)],
      [(.depthFloat32, .depthAttachment)]] := by
  decide

/-! ## whether there is a depth image -/

/-- The three ways of asking for a depth image agree about a builder of some passes. -/
structure DepthQueriesAgree (this : Nat) (passes : List RenderPassAttachment) : Prop where
  before : (RenderPassBuilderVulkan.addPasses this passes).requiresDepthImage =
    hasDepthAttachment (RenderPassBuilderVulkan.addPasses this passes).builder
  after : ∀ isHeadless f, f ≠ .depthFloat32 →
    ((RenderPassBuilderVulkan.addPasses this passes).vkFinalise isHeadless f).requiresDepthImage =
      hasDepthAttachment
        ((RenderPassBuilderVulkan.addPasses this passes).vkFinalise isHeadless f).builder
  renderer : ∀ pass, passes = [pass] →
    (RenderPassBuilderVulkan.addPasses this passes).requiresDepthImage =
        rendererRequiresDepthImage pass ∧
      hasDepthAttachment (RenderPassBuilderVulkan.addPasses this passes).builder =
        rendererRequiresDepthImage pass

theorem requiresDepthImage_addPasses (this : Nat) (passes : List RenderPassAttachment) :
    (RenderPassBuilderVulkan.addPasses this passes).requiresDepthImage = true ↔
      .colourDepth ∈ passes := by
  simp [RenderPassBuilderVulkan.requiresDepthImage, passes_addPasses]

theorem hasDepthAttachment_iff :
    hasDepthAttachment subpasses = true ↔
      ∃ i j a, attachmentAt subpasses i j = some a ∧ a.format = .depthFloat32 := by
  simp only [hasDepthAttachment, List.any_eq_true, decide_eq_true_eq, mem_attachments_iff]
  constructor
  · rintro ⟨a, ⟨i, j, hij⟩, ha⟩
    exact ⟨i, j, a, hij, ha⟩
  · rintro ⟨i, j, a, hij, ha⟩
    exact ⟨a, ⟨i, j, hij⟩, ha⟩

/-- The flag of a renderer is whether its pass has a depth attachment. -/
theorem any_depth_passAttachments (pass : RenderPassAttachment) :
    ((passAttachments pass).any fun a => a.format = .depthFloat32) =
      rendererRequiresDepthImage pass := by
  cases pass <;> decide

theorem hasDepthAttachment_addPasses (this : Nat) (passes : List RenderPassAttachment) :
    hasDepthAttachment (RenderPassBuilderVulkan.addPasses this passes).builder =
      passes.any rendererRequiresDepthImage := by
  rw [hasDepthAttachment, getAttachments_addPasses, List.any_flatMap]
  simp only [any_depth_passAttachments]

/-- Finalising with a colour format changes no depth format. -/
theorem hasDepthAttachment_vkFinalise (b : RenderPassBuilderVulkan) (isHeadless : Bool)
    {f : ImageFormat} (hf : f ≠ .depthFloat32) :
    hasDepthAttachment (b.vkFinalise isHeadless f).builder = hasDepthAttachment b.builder := by
  have hformat : ∀ a : Attachment, (if IsPlaceholder a then f else a.format) = .depthFloat32 ↔
      a.format = .depthFloat32 := by
    intro a
    unfold IsPlaceholder
    grind
  rw [Bool.eq_iff_iff, hasDepthAttachment_iff, hasDepthAttachment_iff]
  simp [attachmentAt_vkFinalise, hformat]

/-- **Depth queries**: they agree exactly if there is no pass with a depth attachment only,
unless there is one with both. -/
theorem depth_queries_agree_iff (this : Nat) (passes : List RenderPassAttachment) :
    DepthQueriesAgree this passes ↔ (.depth ∈ passes → .colourDepth ∈ passes) := by
  have hrequires := requiresDepthImage_addPasses this passes
  have hhas := hasDepthAttachment_addPasses this passes
  constructor
  · intro h hdepth
    rw [← hrequires, h.before, hhas, List.any_eq_true]
    exact ⟨.depth, hdepth, by decide⟩
  · intro h
    have hbefore : (RenderPassBuilderVulkan.addPasses this passes).requiresDepthImage =
        hasDepthAttachment (RenderPassBuilderVulkan.addPasses this passes).builder := by
      rw [Bool.eq_iff_iff, hrequires, hhas, List.any_eq_true]
      constructor
      · exact fun hboth => ⟨.colourDepth, hboth, by decide⟩
      · rintro ⟨pass, hpass, hflag⟩
        cases pass with
        | colour => simp [rendererRequiresDepthImage] at hflag
        | depth => exact h hpass
        | colourDepth => exact hpass
    exact {
      before := hbefore
      after := by
        intro isHeadless f hf
        rw [hasDepthAttachment_vkFinalise _ _ hf]
        exact hbefore
      renderer := by
        rintro pass rfl
        rw [hbefore, hhas]
        simp }

/-- A single depth pass has a depth attachment, and its renderer makes a depth image; the
render pass says that none is required. -/
theorem depth_queries_differ :
    (RenderPassBuilderVulkan.addPasses 0 [.depth]).requiresDepthImage = false ∧
      hasDepthAttachment (RenderPassBuilderVulkan.addPasses 0 [.depth]).builder = true ∧
      rendererRequiresDepthImage .depth = true := by
  decide

end Vk
end Topaz
