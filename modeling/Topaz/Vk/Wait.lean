import Topaz.Vk.Sync

/-!
# Topaz.Vk.Wait

Whether `FrameAdmin::wait_for` waits for the command buffer it is asked about,
so that `clear_rendering_commands` and `record_rendering_commands` only touch
command buffers the GPU is done with.

`wait_for` goes through `image_index_at_frame`.  `render_frame` writes the table
for every image it submits, so on a windowed renderer the entry of a pending
submission names its fence (`WaitInv.pending_frame`) as long as the acquired
indices stay inside the table, which has one entry per frame slot and not one
per image.  `render_frame_headless` never writes it: there `wait_for` returns at
once with the submission still pending.
-/

namespace Topaz
namespace Vk

/-! ## the property -/

/-- A state in which waiting, resetting and re-recording are all safe. -/
structure WaitSafe (s : FrameSystem) : Prop where
  /-- when `wait_for(k)` returns, no submission of command buffer `k` is pending -/
  waitFor : ∀ k, s.Enabled (.waitForReturn k) → ∀ p ∈ s.pending, p.commandBuffer ≠ k
  /-- when `clear_rendering_commands` resets command buffer `i`, neither is one
  of it -/
  reset : ∀ i, s.Enabled (.reset i) → ∀ p ∈ s.pending, p.commandBuffer ≠ i
  /-- when `record_rendering_commands` records the views again, no submission of
  any of them is -/
  record : s.Enabled .record → ∀ p ∈ s.pending, ¬ p.commandBuffer < s.viewCount

/-- `wait_for` really waits: every run of frames leads to safe states only. -/
def WaitForWaits (headless : Bool) (d n : Nat) : Prop :=
  ∀ (es : List FrameEvent) (s : FrameSystem), (∀ e ∈ es, e.Windowed n) →
    FrameSystem.machine.run (.create headless d n) es = some s → WaitSafe s

/-- The steps that go through the table as it is meant: frames are rendered by
`render_frame`, and every index used with `image_index_at_frame` is one of its
`d` entries. -/
def FrameEvent.WithinDepth (d n : Nat) : FrameEvent → Prop
  | .acquire code => ∀ index, code = .success index → index < d
  | .waitFor k => k < d
  | .clear => n ≤ d
  | .renderFrameHeadless => False
  | _ => True

/-! ## the invariant -/

/-- The part of the state `wait_for` relies on. -/
structure WaitInv (d : Nat) (s : FrameSystem) : Prop where
  table : s.admin.imageIndexAtFrame.length = d
  /-- the entry of a pending submission names its fence -/
  pending_frame : ∀ p ∈ s.pending,
    s.admin.imageIndexAtFrame[p.commandBuffer]? = some (some p.fence)
  acquired : s.phase = .imageFence → s.admin.curImageIndex < d
  cleared : ∀ i, s.phase = .clearing i → ∀ p ∈ s.pending, ¬ p.commandBuffer < i
  recorded : s.phase = .recording → ∀ p ∈ s.pending, ¬ p.commandBuffer < s.viewCount

/-- When `wait_for(k)` returns, nothing pending is of command buffer `k`: its
entry would name the fence that was waited on. -/
theorem WaitInv.unused {d n : Nat} {s : FrameSystem} (hw : WaitInv d s) (h : FrameInv d n s)
    {k : Nat} (hret : s.admin.waitForReturns k = true) :
    ∀ p ∈ s.pending, p.commandBuffer ≠ k := by
  intro p hp hk
  have hentry : s.admin.waitForFence k = some p.fence := by
    have hframe := hw.pending_frame p hp
    rw [hk] at hframe
    simp [FrameAdmin.waitForFence, hframe]
  have hlt : p.fence < d := h.frames_lt _ (FrameAdmin.waitForFence_mem hentry)
  have hfence : s.admin.inFlightFences[p.fence]? = some ⟨true⟩ := by
    rw [FrameAdmin.waitForReturns, hentry] at hret
    exact (s.admin.fenceSignalled_iff _).mp hret
  exact (h.balanced _ hlt).unused hfence p hp rfl

namespace WaitInv

variable {d n : Nat} {s : FrameSystem}

theorem create (d n : Nat) : WaitInv d (FrameSystem.create false d n) where
  table := by simp [FrameSystem.create, FrameAdmin.create]
  pending_frame := by simp [FrameSystem.create]
  acquired := by simp [FrameSystem.create]
  cleared := by simp [FrameSystem.create]
  recorded := by simp [FrameSystem.create]

/-- Moving the host outside a frame and outside the clearing loop. -/
theorem move (hw : WaitInv d s) {phase : Phase} {accesses : List Access}
    {regenerations exceptions : Nat} (himage : phase ≠ .imageFence)
    (hclear : ∀ i, phase ≠ .clearing i) (hrecord : phase ≠ .recording) :
    WaitInv d { s with
      phase := phase, accesses := accesses, regenerations := regenerations
      exceptions := exceptions } :=
  { hw with
    acquired := fun hi => absurd hi himage
    cleared := fun i hi => absurd hi (hclear i)
    recorded := fun hr => absurd hr hrecord }

theorem sizeImages_imageIndexAtFrame (a : FrameAdmin) (count : Nat) :
    (a.sizeImages count).imageIndexAtFrame = a.imageIndexAtFrame := by
  unfold FrameAdmin.sizeImages
  split <;> rfl

theorem renderFrame (hw : WaitInv d s) : WaitInv d (s.next .renderFrame) where
  table := by rw [FrameSystem.next, sizeImages_imageIndexAtFrame]; exact hw.table
  pending_frame := by
    simp only [FrameSystem.next, sizeImages_imageIndexAtFrame]
    exact hw.pending_frame
  acquired := by simp [FrameSystem.next]
  cleared := by simp [FrameSystem.next]
  recorded := by simp [FrameSystem.next]

theorem acquire (hw : WaitInv d s) {code : AcquireCode}
    (hcode : ∀ index, code = .success index → index < d) :
    WaitInv d (s.next (.acquire code)) := by
  cases code with
  | success index =>
      exact
        { hw with
          acquired := fun _ => hcode index rfl
          cleared := by simp [FrameSystem.next, FrameSystem.acquire, acquireNextImageIndex]
          recorded := by simp [FrameSystem.next, FrameSystem.acquire, acquireNextImageIndex] }
  | errorOutOfDate => exact hw.move (by simp) (by simp) (by simp)
  | other => exact hw.move (by simp) (by simp) (by simp)

theorem submit (hw : WaitInv d s) (h : FrameInv d n s) (he : s.Enabled .submit) :
    WaitInv d (s.next .submit) where
  table := by simp [FrameSystem.next, FrameAdmin.finishFrame, hw.table]
  pending_frame := by
    have hcur : s.admin.curImageIndex < s.admin.imageIndexAtFrame.length := by
      rw [hw.table]
      exact hw.acquired he.1
    intro p hp
    simp only [FrameSystem.next, FrameAdmin.finishFrame] at hp ⊢
    cases List.mem_append.mp hp with
    | inl hold =>
        rw [List.getElem?_set_ne (h.imageFence_unused he.2 p hold).symm]
        exact hw.pending_frame p hold
    | inr hnew =>
        rw [List.mem_singleton.mp hnew]
        exact List.getElem?_set_self hcur
  acquired := by simp [FrameSystem.next]
  cleared := by simp [FrameSystem.next]
  recorded := by simp [FrameSystem.next]

theorem complete (hw : WaitInv d s) (j : Nat) : WaitInv d (s.next (.complete j)) := by
  cases hp : s.pending[j]? with
  | none =>
      have hsame : s.next (.complete j) = s := by
        simp [FrameSystem.next, FrameSystem.complete, hp]
      rw [hsame]
      exact hw
  | some p =>
      simp only [FrameSystem.next, FrameSystem.complete, hp]
      have hkept : ∀ q ∈ s.pending.eraseIdx j, q ∈ s.pending :=
        fun q hq => List.mem_of_mem_eraseIdx hq
      exact
        { hw with
          pending_frame := fun q hq => hw.pending_frame q (hkept q hq)
          cleared := fun i hi q hq => hw.cleared i hi q (hkept q hq)
          recorded := fun hr q hq => hw.recorded hr q (hkept q hq) }

/-- The clearing loop reaches view `i` only with nothing pending of the views
before it. -/
theorem clearFrom (hw : WaitInv d s) {i : Nat}
    (hbefore : ∀ p ∈ s.pending, ¬ p.commandBuffer < i) : WaitInv d (s.clearFrom i) := by
  unfold FrameSystem.clearFrom
  split
  · exact
      { hw with
        acquired := by simp
        cleared := by
          intro i' hi' p hp
          have heq : i = i' := by injection hi'
          rw [← heq]
          exact hbefore p hp
        recorded := by simp }
  · rename_i hend
    exact
      { hw with
        acquired := by simp
        cleared := by simp
        recorded := by
          intro _ p hp hlt
          exact hbefore p hp (by simp only at hlt; omega) }

theorem step (hw : WaitInv d s) (h : FrameInv d n s) {e : FrameEvent}
    (hok : e.WithinDepth d n) (he : s.Enabled e) : WaitInv d (s.next e) := by
  cases e with
  | renderFrame => exact hw.renderFrame
  | acquire code => exact hw.acquire hok
  | submit => exact hw.submit h he
  | renderFrameHeadless => exact hok.elim
  | submitHeadless => exact absurd he.1 h.not_headless
  | waitFor k => exact hw.move (by simp) (by simp) (by simp)
  | waitForReturn k => exact hw.move (by simp) (by simp) (by simp)
  | clear => exact hw.clearFrom (fun p hp => Nat.not_lt_zero _)
  | reset i =>
      apply hw.clearFrom
      intro p hp hlt
      have hbefore := hw.cleared i he.1 p hp
      have hself := hw.unused h he.2 p hp
      omega
  | record => exact hw.move (by simp) (by simp) (by simp)
  | recreateSwapchain count => exact { hw with recorded := by simp [FrameSystem.next, he.1] }
  | complete j => exact hw.complete j

theorem waitSafe (hw : WaitInv d s) (h : FrameInv d n s) : WaitSafe s where
  waitFor := fun _ he => hw.unused h he.2
  reset := fun _ he => hw.unused h he.2
  record := fun he => hw.recorded he

end WaitInv

/-! ## runs -/

/-- A headless renderer that renders no frame has nothing pending. -/
theorem headless_pending_eq_nil {d n : Nat} {es : List FrameEvent} {s : FrameSystem}
    (hes : ∀ e ∈ es, e.WithinDepth d n)
    (hrun : FrameSystem.machine.run (.create true d n) es = some s) : s.pending = [] := by
  have hinv : s.headless = true ∧ s.pending = [] ∧ s.phase ≠ .frameFence ∧
      s.phase ≠ .imageFence ∧ s.phase ≠ .headlessFence := by
    refine FrameSystem.machine.run_invariant
      (fun s => s.headless = true ∧ s.pending = [] ∧ s.phase ≠ .frameFence ∧
        s.phase ≠ .imageFence ∧ s.phase ≠ .headlessFence)
      (FrameEvent.WithinDepth d n) ?_ hes (by simp [FrameSystem.create]) hrun
    intro s e hok hs he
    obtain ⟨hheadless, hpending, hframe, himage, hfence⟩ := hs
    have hclear : ∀ i, (s.clearFrom i).headless = true ∧ (s.clearFrom i).pending = [] ∧
        (s.clearFrom i).phase ≠ .frameFence ∧ (s.clearFrom i).phase ≠ .imageFence ∧
        (s.clearFrom i).phase ≠ .headlessFence := by
      intro i
      unfold FrameSystem.clearFrom
      split <;> simp [hheadless, hpending]
    cases e with
    | renderFrame => rw [show s.headless = false from he.2] at hheadless; cases hheadless
    | acquire code => exact absurd he.1 hframe
    | submit => exact absurd he.1 himage
    | renderFrameHeadless => exact hok.elim
    | submitHeadless => exact absurd he.1 hfence
    | waitFor k => simp [FrameSystem.machine, FrameSystem.next, hheadless, hpending]
    | waitForReturn k => simp [FrameSystem.machine, FrameSystem.next, hheadless, hpending]
    | clear => exact hclear 0
    | reset i => exact hclear (i + 1)
    | record => simp [FrameSystem.machine, FrameSystem.next, hheadless, hpending]
    | recreateSwapchain count => rw [show s.headless = false from he.2.1] at hheadless; cases hheadless
    | complete j =>
        have hlt : j < s.pending.length := he
        rw [hpending] at hlt
        exact absurd hlt (Nat.not_lt_zero j)
  exact hinv.2.1

/-- **`wait_for` waits, through its table**: in every run whose steps use the
table within its `d` entries and render no headless frame, nothing pending is of
a command buffer that was waited for, is reset or is re-recorded. -/
theorem wait_for_waits_within_depth (headless : Bool) (d n : Nat) (hd : 1 ≤ d)
    (es : List FrameEvent) (hes : ∀ e ∈ es, e.Windowed n ∧ e.WithinDepth d n) (s : FrameSystem)
    (hrun : FrameSystem.machine.run (.create headless d n) es = some s) : WaitSafe s := by
  cases headless with
  | true =>
      have hpending := headless_pending_eq_nil (fun e he => (hes e he).2) hrun
      constructor <;> simp [hpending]
  | false =>
      have hinv : FrameInv d n s ∧ WaitInv d s :=
        FrameSystem.machine.run_invariant (fun s => FrameInv d n s ∧ WaitInv d s)
          (fun e => e.Windowed n ∧ e.WithinDepth d n)
          (fun _ _ hok h he => ⟨h.1.step hok.1 he, h.2.step h.1 hok.2 he⟩) hes
          ⟨FrameInv.create hd, WaitInv.create d n⟩ hrun
      exact hinv.2.waitSafe hinv.1

/-- Two slots and two images; `clear_rendering_commands` has waited for both
views and the commands are about to be recorded again. -/
def clearedTwoViews : List FrameEvent :=
  [.renderFrame, .acquire (.success 1), .submit, .renderFrame, .acquire (.success 0), .submit,
   .clear, .complete 1, .reset 0, .complete 0, .reset 1]

theorem wait_for_waits_clearedTwoViews :
    ∃ s, FrameSystem.machine.run (.create false 2 2) clearedTwoViews = some s ∧
      s.Enabled .record ∧ WaitSafe s :=
  ⟨_, rfl, rfl, wait_for_waits_within_depth false 2 2 (by decide) clearedTwoViews
    (by simp [clearedTwoViews, FrameEvent.Windowed, FrameEvent.WithinDepth]) _ rfl⟩

/-- A headless renderer never waits: after its first frame `wait_for(0)` still
reads the sentinel and returns with the frame pending. -/
theorem not_waitForWaits_headless (d n : Nat) (hd : 1 ≤ d) : ¬ WaitForWaits true d n := by
  intro hwaits
  obtain ⟨d, rfl⟩ : ∃ k, d = k + 1 := ⟨d - 1, by omega⟩
  have hrun : FrameSystem.machine.run (.create true (d + 1) n)
      [.renderFrameHeadless, .submitHeadless, .waitFor 0] = some _ := rfl
  have hsafe := hwaits _ _ (by simp [FrameEvent.Windowed]) hrun
  exact hsafe.waitFor 0 ⟨rfl, rfl⟩ _ List.mem_cons_self rfl

theorem headless_wait_for_returns_early : ¬ WaitForWaits true 1 1 :=
  not_waitForWaits_headless 1 1 (by decide)

end Vk
end Topaz
