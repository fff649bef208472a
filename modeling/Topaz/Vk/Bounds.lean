import Topaz.Vk.Sync

/-!
# Topaz.Vk.Bounds

Which accesses of a `FrameAdmin` to its vectors stay in range.

Fences and semaphores are indexed by frame slots and there is one of each per
slot, so those are always in range.  The other two tables are indexed by
swapchain images: `images_in_flight` keeps the size of the swapchain of the first
frame, whatever swapchains follow, and `image_index_at_frame` has one entry per
*slot*.  `History` follows the image counts and acquired indices of a run without
looking at the frame admin, and in its terms one can say exactly which runs stay
in range.
-/

namespace Topaz
namespace Vk

/-! ## histories -/

/-- What the events of a run say about image counts: that of the first
`render_frame`, the last acquired index, and the current count. -/
structure History where
  firstFrame : Option Nat
  acquired : Nat
  views : Nat

namespace History

/-- The history of a frame admin that has just been made. -/
def start (views : Nat) : History := ⟨none, 0, views⟩

def after (v : History) : FrameEvent → History
  | .renderFrame => { v with firstFrame := some (v.firstFrame.getD v.views) }
  | .acquire (.success index) => { v with acquired := index }
  | .recreateSwapchain count => { v with views := count }
  | _ => v

/-- What the driver and the callers promise: an acquired index and a command
buffer waited for are below the current image count, which is never zero. -/
def Promised (v : History) : FrameEvent → Prop
  | .acquire (.success index) => index < v.views
  | .waitFor k => k < v.views
  | .recreateSwapchain count => 1 ≤ count
  | _ => True

/-- The event uses image indices that the vectors of a frame admin with `d` slots
cover. -/
def Fits (d : Nat) (v : History) : FrameEvent → Prop
  | .acquire (.success index) => ∀ count ∈ v.firstFrame, index < count
  | .submit => v.acquired < d
  | .waitFor k => k < d
  | .reset i => i + 1 < v.views → i + 1 < d
  | _ => True

/-- A condition on every event of a run, each with the history before it. -/
def Along (P : History → FrameEvent → Prop) : History → List FrameEvent → Prop
  | _, [] => True
  | v, e :: es => P v e ∧ Along P (v.after e) es

end History

/-- Every index a run uses is below the length of the vector at the time. -/
def AccessesInRange (s : FrameSystem) : Prop := ∀ x ∈ s.accesses, x.InRange

theorem accessesInRange_append {s t : FrameSystem} {xs : List Access}
    (h : t.accesses = s.accesses ++ xs) :
    AccessesInRange t ↔ AccessesInRange s ∧ ∀ x ∈ xs, x.InRange := by
  unfold AccessesInRange
  rw [h]
  constructor
  · intro hall
    exact ⟨fun x hx => hall x (List.mem_append_left _ hx),
      fun x hx => hall x (List.mem_append_right _ hx)⟩
  · intro hparts x hx
    cases List.mem_append.mp hx with
    | inl hs => exact hparts.1 x hs
    | inr hxs => exact hparts.2 x hxs

/-- Both accesses to `images_in_flight` for the acquired image use its index. -/
theorem FrameAdmin.imageAccesses_inRange (a : FrameAdmin) :
    (∀ x ∈ a.imageAccesses, x.InRange) ↔ a.curImageIndex < a.imagesInFlight.length := by
  unfold FrameAdmin.imageAccesses
  constructor
  · intro hall
    exact hall _ List.mem_cons_self
  · intro hlt x hx
    cases List.mem_cons.mp hx with
    | inl hx => rw [hx]; exact hlt
    | inr hx =>
        obtain ⟨f, hf, hxf⟩ := List.mem_map.mp hx
        rw [← hxf]
        exact hlt

/-! ## the invariant -/

/-- The lengths of the vectors, and what the history knows of them. -/
structure BoundsInv (d : Nat) (v : History) (s : FrameSystem) : Prop where
  depth : s.admin.frameDepth = d
  windowed : s.headless = false
  not_headless : s.phase ≠ .headlessFence
  counter : s.admin.frameCounter < d
  fences : s.admin.inFlightFences.length = d
  available : s.admin.imageAvailableSemaphores.length = d
  finish : s.admin.renderFinishSemaphores.length = d
  frames : s.admin.imageIndexAtFrame.length = d
  frames_lt : ∀ f, some f ∈ s.admin.imageIndexAtFrame → f < d
  views : s.viewCount = v.views
  views_pos : 1 ≤ v.views
  acquired : s.admin.curImageIndex = v.acquired
  unsized : v.firstFrame = none → s.admin.imagesInFlight = []
  sized : ∀ count ∈ v.firstFrame, s.admin.imagesInFlight.length = count ∧ 1 ≤ count
  in_frame : s.phase = .frameFence ∨ s.phase = .imageFence → v.firstFrame.isSome
  /-- the index an image was acquired with is in range of `images_in_flight` as
  soon as its null check was -/
  image : AccessesInRange s → s.phase = .imageFence →
    s.admin.curImageIndex < s.admin.imagesInFlight.length

namespace BoundsInv

variable {d : Nat} {v : History} {s : FrameSystem}

theorem create {n : Nat} (hd : 1 ≤ d) (hn : 1 ≤ n) :
    BoundsInv d (.start n) (FrameSystem.create false d n) where
  depth := rfl
  windowed := rfl
  not_headless := by simp [FrameSystem.create]
  counter := hd
  fences := by simp [FrameSystem.create, FrameAdmin.create]
  available := by simp [FrameSystem.create, FrameAdmin.create]
  finish := by simp [FrameSystem.create, FrameAdmin.create]
  frames := by simp [FrameSystem.create, FrameAdmin.create]
  frames_lt := by simp [FrameSystem.create, FrameAdmin.create]
  views := rfl
  views_pos := hn
  acquired := rfl
  unsized := fun _ => rfl
  sized := by simp [History.start]
  in_frame := by simp [FrameSystem.create]
  image := by simp [FrameSystem.create]

/-- `wait_for(k)` stays in range exactly when `k` names a frame slot: what it
reads there always does. -/
theorem waitForAccesses_inRange (h : BoundsInv d v s) (k : Nat) :
    (∀ x ∈ s.admin.waitForAccesses k, x.InRange) ↔ k < d := by
  unfold FrameAdmin.waitForAccesses
  constructor
  · intro hall
    have hfirst := hall _ List.mem_cons_self
    simpa [Access.InRange, FrameAdmin.access, FrameAdmin.lengthOf, h.frames] using hfirst
  · intro hk x hx
    cases List.mem_cons.mp hx with
    | inl hx =>
        rw [hx]
        simpa [Access.InRange, FrameAdmin.access, FrameAdmin.lengthOf, h.frames] using hk
    | inr hx =>
        obtain ⟨f, hf, hxf⟩ := List.mem_map.mp hx
        have hlt := h.frames_lt f (FrameAdmin.waitForFence_mem (Option.mem_toList.mp hf))
        rw [← hxf]
        simpa [Access.InRange, FrameAdmin.access, FrameAdmin.lengthOf, h.fences] using hlt

/-- An access by the frame slot stays in range. -/
theorem slot_inRange (h : BoundsInv d v s) {t : Table} (hlen : s.admin.lengthOf t = d) :
    (s.admin.access t s.admin.frameCounter).InRange := by
  simpa [Access.InRange, FrameAdmin.access, hlen] using h.counter

/-- Moving the host outside a frame keeps the invariant. -/
theorem move (h : BoundsInv d v s) {phase : Phase} {accesses : List Access}
    {regenerations exceptions : Nat} (hframe : phase ≠ .frameFence)
    (himage : phase ≠ .imageFence) (hheadless : phase ≠ .headlessFence) :
    BoundsInv d v { s with
      phase := phase, accesses := accesses, regenerations := regenerations
      exceptions := exceptions } :=
  { h with
    not_headless := hheadless
    in_frame := by
      intro hp
      cases hp with
      | inl hf => exact absurd hf hframe
      | inr hi => exact absurd hi himage
    image := fun _ hi => absurd hi himage }

theorem renderFrame (h : BoundsInv d v s) :
    BoundsInv d (v.after .renderFrame) (s.next .renderFrame) := by
  cases hfirst : v.firstFrame with
  | none =>
      have hsize : s.admin.sizeImages s.viewCount =
          { s.admin with imagesInFlight := List.replicate v.views none } := by
        simp [FrameAdmin.sizeImages, h.unsized hfirst, h.views]
      simp only [FrameSystem.next, History.after, hsize, hfirst, Option.getD_none]
      exact
        { h with
          not_headless := by simp
          unsized := by simp
          sized := by simp [h.views_pos]
          in_frame := by simp
          image := by simp }
  | some count =>
      have hsized := h.sized count hfirst
      have hsize : s.admin.sizeImages s.viewCount = s.admin := by
        unfold FrameAdmin.sizeImages
        rw [if_neg]
        intro hempty
        rw [List.isEmpty_iff] at hempty
        rw [hempty] at hsized
        simp at hsized
        omega
      simp only [FrameSystem.next, History.after, hsize, hfirst, Option.getD_some]
      exact
        { h with
          not_headless := by simp
          unsized := by simp
          sized := by simpa using hsized
          in_frame := by simp
          image := by simp }

theorem acquire (h : BoundsInv d v s) {code : AcquireCode} (he : s.Enabled (.acquire code)) :
    BoundsInv d (v.after (.acquire code)) (s.next (.acquire code)) := by
  cases code with
  | success index =>
      exact
        { h with
          not_headless := by simp [FrameSystem.next, FrameSystem.acquire, acquireNextImageIndex]
          acquired := rfl
          in_frame := fun _ => h.in_frame (Or.inl he.1)
          image := by
            intro hin _
            have hcheck := hin (({ s.admin with curImageIndex := index } : FrameAdmin).access
              .imagesInFlight index) (by
                simp [FrameSystem.next, FrameSystem.acquire, acquireNextImageIndex,
                  FrameAdmin.imageAccesses])
            exact hcheck }
  | errorOutOfDate => exact h.move (by simp) (by simp) (by simp)
  | other => exact h.move (by simp) (by simp) (by simp)

theorem submit (h : BoundsInv d v s) : BoundsInv d (v.after .submit) (s.next .submit) :=
  { h with
    not_headless := by simp [FrameSystem.next]
    counter := by
      have hpos : 0 < d := Nat.zero_lt_of_lt h.counter
      simp only [FrameSystem.next, FrameAdmin.finishFrame, h.depth]
      exact Nat.mod_lt _ hpos
    fences := by simp [FrameSystem.next, FrameAdmin.finishFrame, h.fences]
    frames := by simp [FrameSystem.next, FrameAdmin.finishFrame, h.frames]
    frames_lt := by
      intro f hmem
      cases List.mem_or_eq_of_mem_set hmem with
      | inl hold => exact h.frames_lt f hold
      | inr hnew =>
          rw [Option.some.injEq] at hnew
          rw [hnew]
          exact h.counter
    unsized := by
      intro hfirst
      simp [FrameSystem.next, FrameAdmin.finishFrame, h.unsized hfirst]
    sized := by
      intro count hcount
      simpa [FrameSystem.next, FrameAdmin.finishFrame] using h.sized count hcount
    in_frame := by simp [FrameSystem.next]
    image := by simp [FrameSystem.next] }

theorem complete (h : BoundsInv d v s) (j : Nat) :
    BoundsInv d (v.after (.complete j)) (s.next (.complete j)) := by
  cases hp : s.pending[j]? with
  | none =>
      have hsame : s.next (.complete j) = s := by
        simp [FrameSystem.next, FrameSystem.complete, hp]
      rw [hsame]
      exact h
  | some p =>
      simp only [FrameSystem.next, FrameSystem.complete, hp]
      exact { h with fences := by simp [FrameAdmin.signalFence, h.fences] }

theorem clearFrom (h : BoundsInv d v s) (i : Nat) : BoundsInv d v (s.clearFrom i) := by
  unfold FrameSystem.clearFrom
  split
  · exact h.move (by simp) (by simp) (by simp)
  · exact h.move (by simp) (by simp) (by simp)

theorem step (h : BoundsInv d v s) {e : FrameEvent} (hp : v.Promised e) (he : s.Enabled e) :
    BoundsInv d (v.after e) (s.next e) := by
  cases e with
  | renderFrame => exact h.renderFrame
  | acquire code => exact h.acquire he
  | submit => exact h.submit
  | renderFrameHeadless => rw [FrameSystem.Enabled, h.windowed] at he; cases he.2
  | submitHeadless => exact absurd he.1 h.not_headless
  | waitFor k => exact h.move (by simp) (by simp) (by simp)
  | waitForReturn k => exact h.move (by simp) (by simp) (by simp)
  | clear => exact h.clearFrom 0
  | reset i => exact h.clearFrom (i + 1)
  | record => exact h.move (by simp) (by simp) (by simp)
  | recreateSwapchain count => exact { h with views := rfl, views_pos := hp }
  | complete j => exact h.complete j

/-! ## one event -/

theorem clearFrom_inRange (h : BoundsInv d v s) (hin : AccessesInRange s) (i : Nat) :
    AccessesInRange (s.clearFrom i) ↔ (i < v.views → i < d) := by
  unfold FrameSystem.clearFrom
  rw [h.views]
  split
  · rename_i hi
    rw [accessesInRange_append rfl, h.waitForAccesses_inRange]
    simp [hin, hi]
  · rename_i hi
    simp [AccessesInRange] at hin ⊢
    exact ⟨fun _ hlt => absurd hlt hi, fun _ => hin⟩

/-- Acquiring an image looks its entry up in `images_in_flight`. -/
theorem acquire_inRange (h : BoundsInv d v s) (hin : AccessesInRange s) {code : AcquireCode}
    (he : s.Enabled (.acquire code)) :
    AccessesInRange (s.next (.acquire code)) ↔ v.Fits d (.acquire code) := by
  have hslot := h.slot_inRange (t := .imageAvailableSemaphores) h.available
  cases code with
  | success index =>
      obtain ⟨count, hcount⟩ := Option.isSome_iff_exists.mp (h.in_frame (Or.inl he.1))
      have hlen := (h.sized count hcount).1
      have happend : (s.next (.acquire (.success index))).accesses =
          s.accesses ++ (s.admin.acquireAccesses ++
            ({ s.admin with curImageIndex := index } : FrameAdmin).imageAccesses) := by
        simp only [FrameSystem.next, FrameSystem.acquire, acquireNextImageIndex,
          List.append_assoc]
      rw [accessesInRange_append happend]
      simp only [List.mem_append, or_imp, forall_and, FrameAdmin.imageAccesses_inRange,
        FrameAdmin.acquireAccesses, List.mem_singleton, forall_eq, hslot, hin, true_and,
        History.Fits, hcount, Option.mem_def, Option.some.injEq, forall_eq', hlen]
  | errorOutOfDate =>
      rw [accessesInRange_append (s := s) rfl]
      simp [hin, FrameAdmin.acquireAccesses, hslot, History.Fits]
  | other =>
      rw [accessesInRange_append (s := s) rfl]
      simp [hin, FrameAdmin.acquireAccesses, hslot, History.Fits]

/-- Submitting notes the frame slot in `image_index_at_frame`. -/
theorem submit_inRange (h : BoundsInv d v s) (hin : AccessesInRange s)
    (he : s.Enabled .submit) : AccessesInRange (s.next .submit) ↔ v.Fits d .submit := by
  have hfence := h.slot_inRange (t := .inFlightFences) h.fences
  have havailable := h.slot_inRange (t := .imageAvailableSemaphores) h.available
  have hfinish := h.slot_inRange (t := .renderFinishSemaphores) h.finish
  have himage : (s.admin.access .imagesInFlight s.admin.curImageIndex).InRange :=
    h.image hin he.1
  have hframe : (s.admin.access .imageIndexAtFrame s.admin.curImageIndex).InRange ↔
      v.acquired < d := by
    rw [← h.acquired, ← h.frames]
    rfl
  rw [accessesInRange_append (s := s) rfl]
  simp [hin, FrameAdmin.submitAccesses, hfence, havailable, hfinish, himage, hframe,
    History.Fits]

/-- From a state whose accesses were all in range, an event keeps them so exactly
when it fits. -/
theorem next_inRange (h : BoundsInv d v s) (hin : AccessesInRange s) {e : FrameEvent}
    (he : s.Enabled e) : AccessesInRange (s.next e) ↔ v.Fits d e := by
  cases e with
  | renderFrame =>
      rw [accessesInRange_append (s := s) rfl]
      have hslot := h.slot_inRange (t := .inFlightFences) h.fences
      simp [hin, FrameAdmin.frameAccesses, hslot, History.Fits]
  | acquire code => exact h.acquire_inRange hin he
  | submit => exact h.submit_inRange hin he
  | renderFrameHeadless => rw [FrameSystem.Enabled, h.windowed] at he; cases he.2
  | submitHeadless => exact absurd he.1 h.not_headless
  | waitFor k =>
      rw [accessesInRange_append (s := s) rfl, h.waitForAccesses_inRange]
      simp [hin, History.Fits]
  | waitForReturn k => exact iff_of_true hin trivial
  | clear =>
      rw [FrameSystem.next, h.clearFrom_inRange hin]
      have hpos : 0 < d := Nat.zero_lt_of_lt h.counter
      simp [History.Fits, hpos]
  | reset i =>
      rw [FrameSystem.next, h.clearFrom_inRange hin]
      rfl
  | record => exact iff_of_true hin trivial
  | recreateSwapchain count => exact iff_of_true hin trivial
  | complete j =>
      refine iff_of_true ?_ trivial
      simp only [FrameSystem.next, FrameSystem.complete]
      split <;> exact hin

end BoundsInv

/-! ## runs -/

/-- The log only grows. -/
theorem accesses_next (s : FrameSystem) (e : FrameEvent) :
    ∃ xs, (s.next e).accesses = s.accesses ++ xs := by
  have hclear : ∀ i, ∃ xs, (s.clearFrom i).accesses = s.accesses ++ xs := by
    intro i
    unfold FrameSystem.clearFrom
    split
    · exact ⟨_, rfl⟩
    · exact ⟨[], by simp⟩
  cases e with
  | acquire code =>
      cases code with
      | success index =>
          simp only [FrameSystem.next, FrameSystem.acquire, acquireNextImageIndex,
            List.append_assoc]
          exact ⟨_, rfl⟩
      | errorOutOfDate => exact ⟨_, rfl⟩
      | other => exact ⟨_, rfl⟩
  | clear => exact hclear 0
  | reset i => exact hclear (i + 1)
  | complete j =>
      refine ⟨[], ?_⟩
      simp only [FrameSystem.next, FrameSystem.complete]
      split <;> simp
  | waitForReturn | record | recreateSwapchain => exact ⟨[], by simp [FrameSystem.next]⟩
  | renderFrame | submit | renderFrameHeadless | submitHeadless | waitFor => exact ⟨_, rfl⟩

/-- A run from a state in range stays in range exactly when each of its events
fits the history before it. -/
theorem BoundsInv.run_inRange {d : Nat} {v : History} {s t : FrameSystem}
    {es : List FrameEvent} (h : BoundsInv d v s) (hp : v.Along History.Promised es)
    (hrun : FrameSystem.machine.run s es = some t) :
    AccessesInRange t ↔ AccessesInRange s ∧ v.Along (History.Fits d) es := by
  induction es generalizing v s with
  | nil =>
      rw [Machine.run_nil, Option.some.injEq] at hrun
      rw [hrun]
      simp [History.Along]
  | cons e es ih =>
      obtain ⟨he, hrest⟩ := (Machine.run_cons _).mp hrun
      obtain ⟨hpe, hpes⟩ := hp
      rw [ih (h.step hpe he) hpes hrest]
      simp only [History.Along]
      constructor
      · intro hnext
        obtain ⟨xs, hxs⟩ := accesses_next s e
        have hin : AccessesInRange s := ((accessesInRange_append hxs).mp hnext.1).1
        exact ⟨hin, (h.next_inRange hin he).mp hnext.1, hnext.2⟩
      · intro hnow
        exact ⟨(h.next_inRange hnow.1 he).mpr hnow.2.1, hnow.2.2⟩

/-- **Table accesses**: a run of frames, swapchain recreations and waits stays in
range exactly when every acquired index is below the image count of the first
`render_frame`, every index submitted is below the frame depth, and so is every
command buffer waited for. -/
theorem accesses_inRange_iff (d n : Nat) (hd : 1 ≤ d) (hn : 1 ≤ n) (es : List FrameEvent)
    (hes : (History.start n).Along History.Promised es) (s : FrameSystem)
    (hrun : FrameSystem.machine.run (.create false d n) es = some s) :
    AccessesInRange s ↔ (History.start n).Along (History.Fits d) es := by
  rw [(BoundsInv.create hd hn).run_inRange hes hrun]
  have hstart : AccessesInRange (FrameSystem.create false d n) := by
    simp [AccessesInRange, FrameSystem.create]
  simp [hstart]

/-- Two slots and two images, with the views cleared after the first frame. -/
def clearedAfterFrame : List FrameEvent :=
  [.renderFrame, .acquire (.success 1), .submit, .complete 0, .clear, .reset 0]

theorem accesses_inRange_clearedAfterFrame :
    ∃ s, FrameSystem.machine.run (.create false 2 2) clearedAfterFrame = some s ∧
      s.accesses.length = 14 ∧ AccessesInRange s :=
  ⟨_, rfl, rfl, (accesses_inRange_iff 2 2 (by decide) (by decide) clearedAfterFrame
    (by simp [clearedAfterFrame, History.Along, History.Promised, History.after,
      History.start]) _ rfl).mpr
    (by simp [clearedAfterFrame, History.Along, History.Fits, History.after, History.start])⟩

/-- The renderer's two frames in flight with three swapchain images: the third
image is written past the end of `image_index_at_frame`. -/
theorem accesses_outOfRange_three_images :
    ¬ ∀ (es : List FrameEvent) (s : FrameSystem), (History.start 3).Along History.Promised es →
      FrameSystem.machine.run (.create false 2 3) es = some s → AccessesInRange s := by
  intro hall
  have hin := hall [.renderFrame, .acquire (.success 2), .submit] _
    (by simp [History.Along, History.Promised, History.after, History.start]) rfl
  have hwrite := hin ⟨.imageIndexAtFrame, 2, 2⟩ (by decide)
  exact absurd hwrite (by decide)

end Vk
end Topaz
