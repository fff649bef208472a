import Topaz.Vk.FrameAdmin

/-!
# Topaz.Vk.OutOfDate

A `render_frame` whose swapchain is out of date.

The renderer's constructor gives its frame admin a regeneration function, so an
acquisition that answers `ErrorSwapchainOutOfDate` runs `handle_resize`.  Control
then falls out of the `switch` into `acquisition.index.value()` on an empty
optional, which throws.  The tables, the counter and the fences are as before the
call, but the call does not return.
-/

namespace Topaz
namespace Vk

/-- `FrameAdmin::set_regeneration_function`. -/
def FrameAdmin.setRegenerationFunction (a : FrameAdmin) : FrameAdmin :=
  { a with regenerateFunction := true }

namespace FrameSystem

/-- The frame admin of a windowed renderer, as the renderer's constructor leaves
it: its regeneration function is `handle_resize`. -/
def createRenderer (frameDepth viewCount : Nat) : FrameSystem :=
  let s := create false frameDepth viewCount
  { s with admin := s.admin.setRegenerationFunction }

/-- What the GPU does on its own. -/
def completeAll (s : FrameSystem) (completions : List Nat) : FrameSystem :=
  completions.foldl complete s

end FrameSystem

/-- The events of a `render_frame` whose acquisition is answered with
`VK_ERROR_OUT_OF_DATE_KHR`; the GPU completes submissions while the call waits. -/
def outOfDateFrame (completions : List Nat) : List FrameEvent :=
  .renderFrame :: completions.map .complete ++ [.acquire .errorOutOfDate]

/-- The call from `s` to `t` has handled an out-of-date swapchain, while the GPU
has completed `completions`. -/
structure OutOfDateHandled (completions : List Nat) (s t : FrameSystem) : Prop where
  regenerated : t.regenerations = s.regenerations + 1
  returned : t.exceptions = s.exceptions
  notAcquired : t.admin.curImageIndex = s.admin.curImageIndex
  /-- neither table that is indexed by an image is touched -/
  noImage : ∀ x ∈ t.accesses.drop s.accesses.length,
    x.table ≠ .imagesInFlight ∧ x.table ≠ .imageIndexAtFrame
  nothingSubmitted : t.pending = (s.completeAll completions).pending
  frameCounter : t.admin.frameCounter = s.admin.frameCounter
  imagesInFlight : t.admin.imagesInFlight = s.admin.imagesInFlight
  imageIndexAtFrame : t.admin.imageIndexAtFrame = s.admin.imageIndexAtFrame
  fences : t.admin.inFlightFences = (s.completeAll completions).admin.inFlightFences
  nextFrame : t.Enabled .renderFrame

/-! ## what the call does -/

namespace FrameSystem

/-- Completions read and write the pending submissions and the fences only. -/
theorem completeAll_eq (completions : List Nat) (pending : List Submission)
    (fences : List Fence) : ∃ pending' fences', ∀ s : FrameSystem,
      s.pending = pending → s.admin.inFlightFences = fences →
      s.completeAll completions =
        { s with pending := pending', admin := { s.admin with inFlightFences := fences' } } := by
  induction completions generalizing pending fences with
  | nil =>
      refine ⟨pending, fences, fun s hpending hfences => ?_⟩
      subst hpending hfences
      rfl
  | cons j js ih =>
      cases hj : pending[j]? with
      | none =>
          obtain ⟨pending', fences', h⟩ := ih pending fences
          exact ⟨pending', fences', by grind [completeAll, complete]⟩
      | some p =>
          obtain ⟨pending', fences', h⟩ := ih (pending.eraseIdx j) (fences.set p.fence ⟨true⟩)
          refine ⟨pending', fences', fun s hpending hfences => ?_⟩
          subst hpending hfences
          have hstep : s.complete j =
              { s with pending := s.pending.eraseIdx j, admin := s.admin.signalFence p.fence } := by
            grind [complete]
          have hrest := h (s.complete j) (by rw [hstep]) (by rw [hstep]; rfl)
          show (s.complete j).completeAll js = _
          rw [hrest, hstep]
          rfl

theorem run_complete {s t : FrameSystem} {completions : List Nat}
    (h : machine.run s (completions.map .complete) = some t) : t = s.completeAll completions := by
  induction completions generalizing s with
  | nil => grind [completeAll, Machine.run]
  | cons j js ih =>
      obtain ⟨_, hrest⟩ := machine.run_cons.mp h
      exact ih hrest

/-- The state an out-of-date frame ends in. -/
theorem run_outOfDateFrame {s t : FrameSystem} {completions : List Nat}
    (h : machine.run s (outOfDateFrame completions) = some t) :
    s.Enabled .renderFrame ∧
      t = { s with
        admin := { s.admin.sizeImages s.viewCount with
          inFlightFences := (s.completeAll completions).admin.inFlightFences }
        pending := (s.completeAll completions).pending
        phase := .idle
        accesses := s.accesses ++ s.admin.frameAccesses ++
          (s.admin.sizeImages s.viewCount).acquireAccesses
        regenerations := s.regenerations + if s.admin.regenerateFunction then 1 else 0
        exceptions := s.exceptions + 1 } := by
  obtain ⟨hstart, hrest⟩ := machine.run_cons.mp h
  obtain ⟨u, hcompletions, hacquire⟩ := machine.run_append.mp hrest
  obtain ⟨_, hlast⟩ := machine.run_cons.mp hacquire
  obtain ⟨pending', fences', heq⟩ := completeAll_eq completions s.pending s.admin.inFlightFences
  have hsized : (s.admin.sizeImages s.viewCount).inFlightFences = s.admin.inFlightFences ∧
      (s.admin.sizeImages s.viewCount).regenerateFunction = s.admin.regenerateFunction := by
    grind [FrameAdmin.sizeImages]
  have hu : u = (s.next .renderFrame).completeAll completions := run_complete hcompletions
  rw [heq (s.next .renderFrame) rfl hsized.1] at hu
  refine ⟨hstart, ?_⟩
  rw [Machine.run_nil, Option.some.injEq] at hlast
  rw [← hlast, hu, heq s rfl rfl]
  show acquire _ .errorOutOfDate = _
  unfold acquire
  cases hf : s.admin.regenerateFunction <;> simp [acquireNextImageIndex, next, hsized.2, hf] <;> rfl

/-- Apart from the exception, an out-of-date frame of a renderer whose
`images_in_flight` has its size is as if the call had not been made. -/
theorem run_outOfDateFrame_frame {s t : FrameSystem} {completions : List Nat}
    (hsized : s.admin.imagesInFlight ≠ []) (hfunction : s.admin.regenerateFunction = true)
    (h : machine.run s (outOfDateFrame completions) = some t) :
    OutOfDateHandled completions s { t with exceptions := s.exceptions } := by
  obtain ⟨⟨_, hwindowed⟩, rfl⟩ := run_outOfDateFrame h
  have hkeep : s.admin.sizeImages s.viewCount = s.admin := by
    grind [FrameAdmin.sizeImages]
  rw [hkeep]
  constructor <;> simp [hfunction, FrameAdmin.frameAccesses, FrameAdmin.acquireAccesses,
    FrameAdmin.access, Enabled, hwindowed]

end FrameSystem

/-- No out-of-date frame is handled, from whatever state the call starts. -/
theorem not_outOfDateHandled (s t : FrameSystem) (completions : List Nat)
    (h : FrameSystem.machine.run s (outOfDateFrame completions) = some t) :
    ¬ OutOfDateHandled completions s t := by
  intro handled
  obtain ⟨_, rfl⟩ := FrameSystem.run_outOfDateFrame h
  have hreturned := handled.returned
  simp at hreturned

/-- The second frame of a renderer with two images finds its swapchain out of date. -/
theorem not_outOfDateHandled_second :
    ∃ s t, FrameSystem.machine.run (.createRenderer 2 2)
        [.renderFrame, .acquire (.success 0), .submit] = some s ∧
      FrameSystem.machine.run s (outOfDateFrame [0]) = some t ∧
      ¬ OutOfDateHandled [0] s t :=
  ⟨_, _, rfl, rfl, not_outOfDateHandled _ _ [0] rfl⟩

/-- The first frame of a renderer already: the exception leaves `render_frame`. -/
theorem first_frame_throws :
    ∃ t, FrameSystem.machine.run (.createRenderer 2 2) (outOfDateFrame []) = some t ∧
      t.exceptions = 1 ∧ t.regenerations = 1 ∧
      ¬ OutOfDateHandled [] (.createRenderer 2 2) t :=
  ⟨_, rfl, rfl, rfl, fun handled => absurd handled.returned (by decide)⟩

end Vk
end Topaz
