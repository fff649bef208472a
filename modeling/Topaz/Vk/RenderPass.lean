import Topaz.Vk.Image
import Mathlib.Algebra.Ring.Nat
import Mathlib.Data.List.Flatten
import Mathlib.Data.List.Nodup
import Mathlib.Data.List.Perm.Basic
import Mathlib.Logic.Function.Basic

/-!
# Topaz.Vk.RenderPass

Render pass builders, their subpasses, and the references `describe` makes.

A subpass keeps a pointer to the builder it was added to, its own attachments, and the
number of attachments the builder had at that moment.  `describe` goes over *all*
attachments of that builder and looks each of them up by value.  Copying a builder
copies its subpasses with the pointers they have, so builders are named by addresses
here and every builder is a place that can be pointed to.

`Sound` is what makes a description right: every subpass has the attachments of its
parent, all of them, and they are different from one another.  `StepMeets` says which
operations keep it.
-/

namespace Topaz
namespace Vk

/-! ## attachments -/

inductive ImageFormat where
  | undefined
  | rgba32Signed
  | rgba32Unsigned
  | rgba32sRGB
  | bgra32sRGB
  | depthFloat32
deriving DecidableEq, Repr

inductive LoadOperation where
  | load
  | clear
  | dontCare
deriving DecidableEq, Repr

inductive StoreOperation where
  | store
  | dontCare
deriving DecidableEq, Repr

/-- An attachment; two of them are equal when all of this is. -/
structure Attachment where
  format : ImageFormat
  colourDepthLoad : LoadOperation
  colourDepthStore : StoreOperation
  stencilLoad : LoadOperation
  stencilStore : StoreOperation
  initialLayout : ImageLayout
  finalLayout : ImageLayout
deriving DecidableEq, Repr

/-- A `VkAttachmentReference`. -/
structure AttachmentReference where
  attachment : Nat
  layout : ImageLayout
deriving DecidableEq, Repr

/-- What a final layout makes of an attachment. -/
inductive AttachmentKind where
  | colour
  | depth
  | unsupported
deriving DecidableEq, Repr

def Attachment.kind (a : Attachment) : AttachmentKind :=
  match a.finalLayout with
  | .present | .transferSource | .colourAttachment => .colour
  | .depthAttachment => .depth
  | _ => .unsupported

/-- `default_colour_attachment`. -/
def defaultColourAttachment : Attachment :=
  ⟨.undefined, .clear, .store, .dontCare, .dontCare, .undefined, .colourAttachment⟩

/-- `default_depth_attachment`. -/
def defaultDepthAttachment : Attachment :=
  ⟨.depthFloat32, .clear, .store, .dontCare, .dontCare, .undefined, .depthAttachment⟩

/-! ## builders -/

/-- A subpass; its parent is the address of a builder. -/
structure RenderSubpass where
  parent : Nat
  attachments : List Attachment
  attachmentsOffset : Nat
deriving DecidableEq, Repr

/-- The subpasses of the builder at each address. -/
abbrev RenderPassBuilders := Nat → List RenderSubpass

/-- The attachments of some subpasses, end to end. -/
def getAttachments (subpasses : List RenderSubpass) : List Attachment :=
  subpasses.flatMap RenderSubpass.attachments

inductive BuilderOp where
  | withAttachments (builder : Nat) (attachments : List Attachment)
  | removeSubpass (builder : Nat) (subpass : Nat)
  | copy (source destination : Nat)
deriving DecidableEq, Repr

namespace RenderPassBuilders

variable (bs : RenderPassBuilders)

/-- No builder has a subpass. -/
def start : RenderPassBuilders := fun _ => []

/-- `RenderPassBuilder::with`. -/
def withAttachments (builder : Nat) (attachments : List Attachment) : RenderPassBuilders :=
  Function.update bs builder
    (bs builder ++ [⟨builder, attachments, (getAttachments (bs builder)).length⟩])

/-- `RenderPassBuilder::remove_subpass`. -/
def removeSubpass (builder subpass : Nat) : RenderPassBuilders :=
  Function.update bs builder ((bs builder).eraseIdx subpass)

/-- Copying the builder at `source` to `destination`. -/
def copy (source destination : Nat) : RenderPassBuilders :=
  Function.update bs destination (bs source)

def step : BuilderOp → RenderPassBuilders
  | .withAttachments builder attachments => bs.withAttachments builder attachments
  | .removeSubpass builder subpass => bs.removeSubpass builder subpass
  | .copy source destination => bs.copy source destination

end RenderPassBuilders

/-! ## descriptions -/

/-- `RenderSubpass::get_attachment_id`: the first equal attachment, of the subpass
itself or else of the whole parent. -/
def getAttachmentId (bs : RenderPassBuilders) (s : RenderSubpass) (a : Attachment) : Nat :=
  if a ∈ s.attachments then s.attachmentsOffset + s.attachments.idxOf a
  else (getAttachments (bs s.parent)).idxOf a

/-- `RenderSubpass::Description`, and whether the assertion on depth attachments has
fired. -/
structure SubpassDescription where
  referencedColourAttachments : List AttachmentReference
  referencedDepthStencilAttachments : Option AttachmentReference
  depthAsserted : Bool
deriving DecidableEq, Repr

/-- The body of the loop in `describe`; `id` is cut to a `std::uint32_t`. -/
def SubpassDescription.add (id : Attachment → Nat) (desc : SubpassDescription) (a : Attachment) :
    SubpassDescription :=
  match a.finalLayout with
  | .present | .transferSource | .colourAttachment =>
      { desc with
        referencedColourAttachments :=
          desc.referencedColourAttachments ++ [⟨id a % 2 ^ 32, .colourAttachment⟩] }
  | .depthAttachment =>
      { desc with
        referencedDepthStencilAttachments := some ⟨id a % 2 ^ 32, .depthAttachment⟩
        depthAsserted :=
          desc.depthAsserted || desc.referencedDepthStencilAttachments.isSome }
  | _ => desc

/-- `RenderSubpass::describe`. -/
def describe (bs : RenderPassBuilders) (s : RenderSubpass) : SubpassDescription :=
  (getAttachments (bs s.parent)).foldl (SubpassDescription.add (getAttachmentId bs s))
    ⟨[], none, false⟩

/-- The references to the attachments of one kind, when the first of `attachments` has
index `offset`. -/
def references (kind : AttachmentKind) (layout : ImageLayout) (offset : Nat)
    (attachments : List Attachment) : List AttachmentReference :=
  (attachments.zipIdx.filter fun (a, _) => a.kind = kind).map fun (_, j) => ⟨offset + j, layout⟩

/-- The subpass at position `i` of the builder at `builder` describes exactly its own
attachments, by their indices among all of that builder's. -/
structure DescribesOwn (bs : RenderPassBuilders) (builder i : Nat) (s : RenderSubpass) : Prop where
  supported : ∀ a ∈ s.attachments, a.kind ≠ .unsupported
  colour : (describe bs s).referencedColourAttachments.Perm
    (references .colour .colourAttachment (getAttachments ((bs builder).take i)).length
      s.attachments)
  depth : (describe bs s).referencedDepthStencilAttachments.toList =
    references .depth .depthAttachment (getAttachments ((bs builder).take i)).length s.attachments
  asserted : (s.attachments.filter fun a => a.kind = .depth).length ≤ 1 →
    (describe bs s).depthAsserted = false

/-- Every subpass of every builder does. -/
def AllDescribeOwn (bs : RenderPassBuilders) : Prop :=
  ∀ builder i s, (bs builder)[i]? = some s → DescribesOwn bs builder i s

/-- Every subpass does in every state of a run. -/
def AllDescribeOwnRun : RenderPassBuilders → List BuilderOp → Prop
  | bs, [] => AllDescribeOwn bs
  | bs, op :: ops => AllDescribeOwn bs ∧ AllDescribeOwnRun (bs.step op) ops

/-! ## the condition -/

/-- Attachments that one subpass can reference. -/
structure Referable (attachments : List Attachment) : Prop where
  distinct : attachments.Nodup
  supported : ∀ a ∈ attachments, a.kind ≠ .unsupported
  depth : (attachments.filter fun a => a.kind = .depth).length ≤ 1
  length : attachments.length ≤ 2 ^ 32

/-- No subpass anywhere was added to the builder at `builder`. -/
def NoChildren (bs : RenderPassBuilders) (builder : Nat) : Prop :=
  ∀ b, ∀ s ∈ bs b, s.parent ≠ builder

/-- An operation that leaves descriptions right.  Attachments are added to a builder
that has none, and no operation changes the attachments of a builder that is the parent
of a subpass. -/
def StepMeets (bs : RenderPassBuilders) : BuilderOp → Prop
  | .withAttachments builder attachments =>
      Referable attachments ∧ getAttachments (bs builder) = [] ∧
        (attachments = [] ∨ NoChildren bs builder)
  | .removeSubpass builder subpass =>
      (∀ s, (bs builder)[subpass]? = some s → s.attachments = []) ∨
        NoChildren (bs.removeSubpass builder subpass) builder
  | .copy source destination =>
      getAttachments (bs source) = getAttachments (bs destination) ∨
        NoChildren (bs.copy source destination) destination

/-- All operations of a run do. -/
def StepsMeet : RenderPassBuilders → List BuilderOp → Prop
  | _, [] => True
  | bs, op :: ops => StepMeets bs op ∧ StepsMeet (bs.step op) ops

/-! ## what a description holds -/

theorem SubpassDescription.add_eq (id : Attachment → Nat) (desc : SubpassDescription) (a : Attachment) :
    desc.add id a = match a.kind with
      | .colour =>
          { desc with
            referencedColourAttachments :=
              desc.referencedColourAttachments ++ [⟨id a % 2 ^ 32, .colourAttachment⟩] }
      | .depth =>
          { desc with
            referencedDepthStencilAttachments := some ⟨id a % 2 ^ 32, .depthAttachment⟩
            depthAsserted :=
              desc.depthAsserted || desc.referencedDepthStencilAttachments.isSome }
      | .unsupported => desc := by
  unfold SubpassDescription.add Attachment.kind
  cases a.finalLayout <;> rfl

/-- The loop over attachments of which at most one is a depth attachment. -/
theorem SubpassDescription.foldl_add (id : Attachment → Nat) (attachments : List Attachment)
    (colours : List AttachmentReference) (depth : Option AttachmentReference)
    (h : depth.toList.length + (attachments.filter fun a => a.kind = .depth).length ≤ 1) :
    attachments.foldl (SubpassDescription.add id) ⟨colours, depth, false⟩ =
      { referencedColourAttachments := colours ++
          (attachments.filter fun a => a.kind = .colour).map fun a =>
            ⟨id a % 2 ^ 32, .colourAttachment⟩
        referencedDepthStencilAttachments :=
          (depth.toList ++ (attachments.filter fun a => a.kind = .depth).map fun a =>
            (⟨id a % 2 ^ 32, .depthAttachment⟩ : AttachmentReference)).head?
        depthAsserted := false } := by
  induction attachments generalizing colours depth with
  | nil => cases depth <;> simp
  | cons a attachments ih =>
      rw [List.foldl_cons, SubpassDescription.add_eq]
      cases hkind : a.kind with
      | colour => simp_all
      | unsupported => simp_all
      | depth =>
          cases depth with
          | some ref =>
              simp only [hkind, Option.toList_some, decide_true, List.filter_cons_of_pos,
                List.length_cons, List.length_nil] at h
              omega
          | none =>
              have hrest : (attachments.filter fun a => a.kind = .depth).length = 0 := by
                simpa [hkind] using h
              simp only [Option.isSome_none, Bool.or_false]
              rw [ih _ _ (by simp [hrest])]
              simp [hkind]

theorem length_references (kind : AttachmentKind) (layout : ImageLayout) (offset : Nat)
    (attachments : List Attachment) :
    (references kind layout offset attachments).length =
      (attachments.filter fun a => a.kind = kind).length := by
  have hcount : attachments.zipIdx.countP (fun (a, _) => a.kind = kind) =
      (attachments.zipIdx.map Prod.fst).countP fun a => a.kind = kind := by
    rw [List.countP_map]
    rfl
  rw [references, List.length_map, ← List.countP_eq_length_filter, hcount, List.zipIdx_map_fst,
    List.countP_eq_length_filter]

/-- In a list without duplicates, every element is paired with its index. -/
theorem references_eq (kind : AttachmentKind) (layout : ImageLayout) (offset : Nat)
    {attachments : List Attachment} (h : attachments.Nodup) :
    references kind layout offset attachments =
      (attachments.filter fun a => a.kind = kind).map fun a =>
        ⟨offset + attachments.idxOf a, layout⟩ := by
  have hzip : attachments.zipIdx = attachments.map fun a => (a, attachments.idxOf a) := by
    apply List.ext_getElem (by simp)
    intro i hi _
    simp [h.idxOf_getElem]
  simp [references, hzip, List.filter_map, Function.comp_def]

theorem references_nil (kind : AttachmentKind) (layout : ImageLayout) (offset : Nat) :
    references kind layout offset [] = [] := rfl

/-! ## the invariant -/

@[simp] theorem getAttachments_append (xs ys : List RenderSubpass) :
    getAttachments (xs ++ ys) = getAttachments xs ++ getAttachments ys := by
  simp [getAttachments]

@[simp] theorem getAttachments_singleton (s : RenderSubpass) :
    getAttachments [s] = s.attachments := by
  simp [getAttachments]

theorem sublist_getAttachments {subpasses : List RenderSubpass} {s : RenderSubpass}
    (h : s ∈ subpasses) : s.attachments.Sublist (getAttachments subpasses) := by
  have hs := (List.singleton_sublist.mpr h).flatMap RenderSubpass.attachments
  simpa [getAttachments] using hs

/-- A subpass among `subpasses` starts at index zero and is the only one with
attachments, or has none. -/
def Alone (subpasses : List RenderSubpass) (s : RenderSubpass) : Prop :=
  s.attachments = [] ∨ (s.attachmentsOffset = 0 ∧ getAttachments subpasses = s.attachments)

/-- Every subpass has all attachments of its parent, and of the builder it is in. -/
structure Sound (bs : RenderPassBuilders) : Prop where
  parent : ∀ b, ∀ s ∈ bs b, getAttachments (bs s.parent) = s.attachments
  referable : ∀ b, ∀ s ∈ bs b, Referable s.attachments
  alone : ∀ b, ∀ s ∈ bs b, Alone (bs b) s

theorem sound_start : Sound .start := by
  constructor <;> simp [RenderPassBuilders.start]

/-- What a subpass that is alone has before it in its builder. -/
theorem Alone.take_eq_nil {subpasses : List RenderSubpass} {s : RenderSubpass} {i : Nat}
    (h : Alone subpasses s) (hi : subpasses[i]? = some s) (hne : s.attachments ≠ []) :
    getAttachments (subpasses.take i) = [] := by
  obtain ⟨_, hall⟩ := h.resolve_left hne
  obtain ⟨hlt, hget⟩ := List.getElem?_eq_some_iff.mp hi
  have hsplit : subpasses.take i ++ [s] ++ subpasses.drop (i + 1) = subpasses := by
    rw [← hget]
    simp
  have hlen := congrArg (fun xs => (getAttachments xs).length) hsplit
  simp only [getAttachments_append, getAttachments_singleton, List.length_append, hall] at hlen
  apply List.eq_nil_of_length_eq_zero
  omega

/-- The description of a subpass that has all attachments of its parent. -/
theorem describe_eq {bs : RenderPassBuilders} {s : RenderSubpass}
    (hparent : getAttachments (bs s.parent) = s.attachments) (hs : Referable s.attachments)
    (hoffset : s.attachments = [] ∨ s.attachmentsOffset = 0) :
    describe bs s =
      { referencedColourAttachments := references .colour .colourAttachment 0 s.attachments
        referencedDepthStencilAttachments :=
          (references .depth .depthAttachment 0 s.attachments).head?
        depthAsserted := false } := by
  have hid : ∀ a ∈ s.attachments,
      getAttachmentId bs s a % 2 ^ 32 = 0 + s.attachments.idxOf a := by
    intro a ha
    have hzero : s.attachmentsOffset = 0 := hoffset.resolve_left (List.ne_nil_of_mem ha)
    have hlt := List.idxOf_lt_length_of_mem ha
    have hlen := hs.length
    rw [getAttachmentId, if_pos ha, hzero, Nat.mod_eq_of_lt (by omega)]
  have hmap : ∀ (kind : AttachmentKind) (layout : ImageLayout),
      ((s.attachments.filter fun a => a.kind = kind).map fun a =>
        (⟨getAttachmentId bs s a % 2 ^ 32, layout⟩ : AttachmentReference)) =
        references kind layout 0 s.attachments := by
    intro kind layout
    rw [references_eq kind layout 0 hs.distinct]
    apply List.map_congr_left
    intro a ha
    rw [hid a (List.mem_of_mem_filter ha)]
  have hdepth := hs.depth
  rw [describe, hparent, SubpassDescription.foldl_add _ _ _ _ (by simpa using hdepth)]
  simp only [hmap, Option.toList_none, List.nil_append]

theorem toList_head?_of_length_le_one {α : Type} {xs : List α} (h : xs.length ≤ 1) :
    xs.head?.toList = xs := by
  match xs, h with
  | [], _ => rfl
  | [x], _ => rfl

theorem Sound.allDescribeOwn {bs : RenderPassBuilders} (h : Sound bs) : AllDescribeOwn bs := by
  intro builder i s hi
  have hmem := List.mem_of_getElem? hi
  have hs := h.referable builder s hmem
  have halone := h.alone builder s hmem
  have hdesc := describe_eq (h.parent builder s hmem) hs (halone.imp_right And.left)
  have hrefs : ∀ (kind : AttachmentKind) (layout : ImageLayout),
      references kind layout (getAttachments ((bs builder).take i)).length s.attachments =
        references kind layout 0 s.attachments := by
    intro kind layout
    by_cases hne : s.attachments = []
    · rw [hne, references_nil, references_nil]
    · rw [halone.take_eq_nil hi hne, List.length_nil]
  exact {
    supported := hs.supported
    colour := by rw [hdesc, hrefs]
    depth := by
      rw [hdesc, hrefs]
      apply toList_head?_of_length_le_one
      rw [length_references]
      exact hs.depth
    asserted := fun _ => by rw [hdesc] }

/-! ## what each operation keeps -/

/-- Other subpasses in the place of a builder's, all of them copied from some builder. -/
theorem Sound.update {bs : RenderPassBuilders} (h : Sound bs) {builder : Nat}
    {subpasses : List RenderSubpass}
    (hkeep : getAttachments subpasses = getAttachments (bs builder) ∨
      NoChildren (Function.update bs builder subpasses) builder)
    (hfrom : ∀ s ∈ subpasses, ∃ b, s ∈ bs b) (halone : ∀ s ∈ subpasses, Alone subpasses s) :
    Sound (Function.update bs builder subpasses) := by
  have hold : ∀ b, ∀ s ∈ Function.update bs builder subpasses b, ∃ b', s ∈ bs b' := by
    intro b s hs
    by_cases hb : b = builder
    · subst hb
      rw [Function.update_self] at hs
      exact hfrom s hs
    · rw [Function.update_of_ne hb] at hs
      exact ⟨b, hs⟩
  constructor
  · intro b s hs
    obtain ⟨b', hs'⟩ := hold b s hs
    rw [← h.parent b' s hs']
    by_cases hp : s.parent = builder
    · -- a child of the changed builder is left only if the attachments are the same
      rcases hkeep with hsame | hnone
      · rw [hp, Function.update_self, hsame]
      · exact absurd hp (hnone b s hs)
    · rw [Function.update_of_ne hp]
  · intro b s hs
    obtain ⟨b', hs'⟩ := hold b s hs
    exact h.referable b' s hs'
  · intro b s hs
    by_cases hb : b = builder
    · subst hb
      rw [Function.update_self] at hs ⊢
      exact halone s hs
    · rw [Function.update_of_ne hb] at hs ⊢
      exact h.alone b s hs

theorem Sound.withAttachments {bs : RenderPassBuilders} (h : Sound bs) {builder : Nat}
    {attachments : List Attachment}
    (hmeets : StepMeets bs (.withAttachments builder attachments)) :
    Sound (bs.withAttachments builder attachments) := by
  obtain ⟨hreferable, hempty, hchildren⟩ := hmeets
  have hnow : getAttachments (bs.withAttachments builder attachments builder) = attachments := by
    simp [RenderPassBuilders.withAttachments, hempty]
  have hother : ∀ b, b ≠ builder → bs.withAttachments builder attachments b = bs b := by
    intro b hb
    simp [RenderPassBuilders.withAttachments, hb]
  have hcases : ∀ b, ∀ s ∈ bs.withAttachments builder attachments b,
      s ∈ bs b ∨ (b = builder ∧ s = ⟨builder, attachments, 0⟩) := by
    intro b s hs
    by_cases hb : b = builder
    · subst hb
      simpa [RenderPassBuilders.withAttachments, hempty] using hs
    · rw [hother b hb] at hs
      exact Or.inl hs
  constructor
  · intro b s hs
    rcases hcases b s hs with hs | ⟨rfl, rfl⟩
    · rw [← h.parent b s hs]
      by_cases hp : s.parent = builder
      · rcases hchildren with hnil | hnone
        · rw [hp, hnow, hempty, hnil]
        · exact absurd hp (hnone b s hs)
      · rw [hother s.parent hp]
    · exact hnow
  · intro b s hs
    rcases hcases b s hs with hs | ⟨rfl, rfl⟩
    · exact h.referable b s hs
    · exact hreferable
  · intro b s hs
    rcases hcases b s hs with hs' | ⟨rfl, rfl⟩
    · by_cases hb : b = builder
      · subst hb
        have hsub := sublist_getAttachments hs'
        rw [hempty] at hsub
        exact Or.inl (List.sublist_nil.mp hsub)
      · rw [hother b hb]
        exact h.alone b s hs'
    · exact Or.inr ⟨rfl, hnow⟩

/-- Taking a subpass without attachments away changes no attachments. -/
theorem getAttachments_eraseIdx {subpasses : List RenderSubpass} {i : Nat}
    (h : ∀ s, subpasses[i]? = some s → s.attachments = []) :
    getAttachments (subpasses.eraseIdx i) = getAttachments subpasses := by
  induction subpasses generalizing i with
  | nil => rfl
  | cons t subpasses ih =>
      cases i with
      | zero =>
          have ht : t.attachments = [] := h t rfl
          simp [getAttachments, ht]
      | succ i =>
          have hrest := ih (i := i) (fun s hs => h s (by simpa using hs))
          simp only [getAttachments, List.eraseIdx_cons_succ, List.flatMap_cons] at hrest ⊢
          rw [hrest]

theorem Sound.removeSubpass {bs : RenderPassBuilders} (h : Sound bs) {builder subpass : Nat}
    (hmeets : StepMeets bs (.removeSubpass builder subpass)) :
    Sound (bs.removeSubpass builder subpass) := by
  have hsub : ((bs builder).eraseIdx subpass).Sublist (bs builder) := List.eraseIdx_sublist _ _
  apply h.update (hmeets.imp_left getAttachments_eraseIdx)
  · intro s hs
    exact ⟨builder, hsub.mem hs⟩
  · intro s hs
    rcases h.alone builder s (hsub.mem hs) with hnil | ⟨hoffset, hall⟩
    · exact Or.inl hnil
    · -- what is left lies between the attachments of `s` and those of the whole builder
      have hle := hsub.flatMap RenderSubpass.attachments
      have hge := sublist_getAttachments hs
      rw [← getAttachments, ← getAttachments, hall] at hle
      exact Or.inr ⟨hoffset, hle.antisymm hge⟩

theorem Sound.copy {bs : RenderPassBuilders} (h : Sound bs) {source destination : Nat}
    (hmeets : StepMeets bs (.copy source destination)) : Sound (bs.copy source destination) :=
  h.update hmeets (fun _ hs => ⟨source, hs⟩) (h.alone source)

theorem Sound.step {bs : RenderPassBuilders} (h : Sound bs) {op : BuilderOp}
    (hmeets : StepMeets bs op) : Sound (bs.step op) := by
  cases op with
  | withAttachments builder attachments => exact h.withAttachments hmeets
  | removeSubpass builder subpass => exact h.removeSubpass hmeets
  | copy source destination => exact h.copy hmeets

theorem Sound.run {bs : RenderPassBuilders} (h : Sound bs) {ops : List BuilderOp}
    (hmeets : StepsMeet bs ops) : AllDescribeOwnRun bs ops := by
  induction ops generalizing bs with
  | nil => exact h.allDescribeOwn
  | cons op ops ih => exact ⟨h.allDescribeOwn, ih (h.step hmeets.1) hmeets.2⟩

/-- **Subpass descriptions**: in every run whose operations meet the condition, every
subpass of every builder describes its own attachments in every state. -/
theorem all_describe_own_of_meet (ops : List BuilderOp) (h : StepsMeet .start ops) :
    AllDescribeOwnRun .start ops :=
  sound_start.run h

/-- A builder with one subpass, and a copy of it that is used in its place. -/
theorem all_describe_own_of_meet_copy :
    StepsMeet .start
        [.withAttachments 0 [defaultColourAttachment, defaultDepthAttachment], .copy 0 1] ∧
      AllDescribeOwnRun .start
        [.withAttachments 0 [defaultColourAttachment, defaultDepthAttachment], .copy 0 1] := by
  have hmeets : StepsMeet .start
      [.withAttachments 0 [defaultColourAttachment, defaultDepthAttachment], .copy 0 1] := by
    constructor
    · exact ⟨⟨by decide, by decide, by decide, by decide⟩, rfl, Or.inr (by simp [NoChildren,
        RenderPassBuilders.start])⟩
    · constructor
      · right
        intro b s hs
        simp only [RenderPassBuilders.step, RenderPassBuilders.copy,
          RenderPassBuilders.withAttachments, RenderPassBuilders.start, Function.update_apply] at hs
        split at hs <;> simp_all
      · trivial
  exact ⟨hmeets, all_describe_own_of_meet _ hmeets⟩

/-! ## what goes wrong otherwise -/

/-- `describe` makes a reference for every colour attachment of the parent. -/
theorem length_referencedColourAttachments (bs : RenderPassBuilders) (s : RenderSubpass) :
    (describe bs s).referencedColourAttachments.length =
      ((getAttachments (bs s.parent)).filter fun a => a.kind = .colour).length := by
  have hloop : ∀ (id : Attachment → Nat) (attachments : List Attachment)
      (desc : SubpassDescription),
      (attachments.foldl (SubpassDescription.add id) desc).referencedColourAttachments.length =
        desc.referencedColourAttachments.length +
          (attachments.filter fun a => a.kind = .colour).length := by
    intro id attachments
    induction attachments with
    | nil => simp
    | cons a attachments ih =>
        intro desc
        rw [List.foldl_cons, ih, SubpassDescription.add_eq]
        cases hkind : a.kind <;> simp [hkind]
        omega
  rw [describe, hloop]
  simp

/-- A subpass does not describe only itself when another one of its builder has a colour
attachment. -/
theorem not_describesOwn_of_other {bs : RenderPassBuilders} {builder i j : Nat}
    {s t : RenderSubpass} (hs : (bs builder)[i]? = some s) (hparent : s.parent = builder)
    (ht : (bs builder)[j]? = some t) (hij : j ≠ i)
    (hcolour : ∃ a ∈ t.attachments, a.kind = .colour) : ¬ DescribesOwn bs builder i s := by
  intro hown
  have hlen := hown.colour.length_eq
  rw [length_referencedColourAttachments, length_references, hparent] at hlen
  obtain ⟨hi, hget⟩ := List.getElem?_eq_some_iff.mp hs
  have hperm : (s :: (bs builder).eraseIdx i).Perm (bs builder) := by
    rw [← hget]
    exact List.getElem_cons_eraseIdx_perm hi
  have hall := (hperm.flatMap_right RenderSubpass.attachments).filter fun a => a.kind = .colour
  have hother : t ∈ (bs builder).eraseIdx i := List.mem_eraseIdx_iff_getElem?.mpr ⟨j, hij, ht⟩
  obtain ⟨a, ha, hkind⟩ := hcolour
  -- the attachments of the other subpasses count on top of those of `s`
  have hmem : a ∈ (getAttachments ((bs builder).eraseIdx i)).filter fun a => a.kind = .colour :=
    List.mem_filter.mpr ⟨List.mem_flatMap.mpr ⟨t, hother, ha⟩, by simpa using hkind⟩
  have hpos := List.length_pos_of_mem hmem
  have hsum := hall.length_eq
  rw [List.flatMap_cons, List.filter_append, List.length_append, ← getAttachments,
    ← getAttachments] at hsum
  omega

/-- Two colour passes on one builder: the first subpass references its own attachment
twice, once for the equal attachment of the second. -/
theorem two_passes_describe_both :
    (describe
        ((RenderPassBuilders.start.withAttachments 0 [defaultColourAttachment]).withAttachments 0
          [defaultColourAttachment])
        ⟨0, [defaultColourAttachment], 0⟩).referencedColourAttachments =
        [⟨0, .colourAttachment⟩, ⟨0, .colourAttachment⟩] ∧
      ¬ AllDescribeOwnRun .start
        [.withAttachments 0 [defaultColourAttachment],
          .withAttachments 0 [defaultColourAttachment]] := by
  constructor
  · decide
  · intro hrun
    have hlast : AllDescribeOwn
        ((RenderPassBuilders.start.withAttachments 0 [defaultColourAttachment]).withAttachments 0
          [defaultColourAttachment]) := hrun.2.2
    have hfirst := hlast 0 0 ⟨0, [defaultColourAttachment], 0⟩ rfl
    exact absurd hfirst (not_describesOwn_of_other (j := 1) (t := ⟨0, [defaultColourAttachment], 1⟩)
      rfl rfl rfl (by decide) ⟨defaultColourAttachment, List.mem_singleton_self _, rfl⟩)

end Vk
end Topaz
