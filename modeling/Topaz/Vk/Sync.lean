import Topaz.Vk.FrameAdmin

/-!
# Topaz.Vk.Sync

Frame synchronisation of `FrameAdmin::render_frame`, over every order of
acquired images and every interleaving with GPU completions.

`images_in_flight` stores pointers to fences that are later reset for other
images, so a stored fence need not stand for the submission it was stored for.
What saves the code is that a fence is only reset after it was waited on: the
invariant `FrameInv` says that a *pending* submission is always the one its
image's entry points to, and that a fence balances — signalled with no user, or
reset with exactly one (`FenceBalanced`).  Every safety property is read off
these two facts.
-/

namespace Topaz
namespace Vk

/-! ## fences and the submissions that use them -/

/-- How many pending submissions use fence `f`. -/
def fenceUses (pending : List Submission) (f : Nat) : Nat :=
  pending.countP (·.fence == f)

theorem fenceUses_append (ps : List Submission) (p : Submission) (f : Nat) :
    fenceUses (ps ++ [p]) f = fenceUses ps f + if p.fence = f then 1 else 0 := by
  simp [fenceUses, List.countP_append, List.countP_cons]

/-- Completing a submission takes away exactly its own use. -/
theorem fenceUses_eraseIdx {ps : List Submission} {j : Nat} {p : Submission}
    (hp : ps[j]? = some p) (f : Nat) :
    fenceUses ps f = fenceUses (ps.eraseIdx j) f + if p.fence = f then 1 else 0 := by
  obtain ⟨hj, hget⟩ := List.getElem?_eq_some_iff.mp hp
  have hsplit : ps = ps.take j ++ p :: ps.drop (j + 1) := by
    rw [← hget, ← List.drop_eq_getElem_cons hj, List.take_append_drop]
  have herase : ps.eraseIdx j = ps.take j ++ ps.drop (j + 1) :=
    List.eraseIdx_eq_take_drop_succ ps j
  rw [herase]
  conv => lhs; rw [hsplit]
  simp only [fenceUses, List.countP_append, List.countP_cons, beq_iff_eq]
  omega

theorem fence_ne_of_fenceUses_eq_zero {ps : List Submission} {f : Nat}
    (h : fenceUses ps f = 0) : ∀ p ∈ ps, p.fence ≠ f := by
  intro p hp heq
  have hnot := List.countP_eq_zero.mp h p hp
  simp [heq] at hnot

theorem exists_of_fenceUses_eq_one {ps : List Submission} {f : Nat}
    (h : fenceUses ps f = 1) : ∃ p ∈ ps, p.fence = f := by
  have hpos : 0 < ps.countP (·.fence == f) := by
    unfold fenceUses at h
    omega
  obtain ⟨p, hp, heq⟩ := List.countP_pos_iff.mp hpos
  exact ⟨p, hp, by simpa using heq⟩

/-- A fence is signalled with no pending submission using it, or unsignalled with
exactly one. -/
def FenceBalanced (fences : List Fence) (pending : List Submission) (f : Nat) : Prop :=
  (fences[f]? = some ⟨true⟩ ∧ fenceUses pending f = 0) ∨
    (fences[f]? = some ⟨false⟩ ∧ fenceUses pending f = 1)

/-- Nothing pending uses a signalled fence. -/
theorem FenceBalanced.unused {fences : List Fence} {pending : List Submission} {f : Nat}
    (h : FenceBalanced fences pending f) (hsig : fences[f]? = some ⟨true⟩) :
    ∀ p ∈ pending, p.fence ≠ f := by
  cases h with
  | inl hs => exact fence_ne_of_fenceUses_eq_zero hs.2
  | inr hu => rw [hu.1] at hsig; cases hsig

/-- Resetting a signalled fence and submitting with it keeps every fence
balanced. -/
theorem FenceBalanced.submit {fences : List Fence} {pending : List Submission}
    {p : Submission} {f : Nat} (h : FenceBalanced fences pending f)
    (hsig : fences[p.fence]? = some ⟨true⟩) :
    FenceBalanced (fences.modify p.fence Fence.signal) (pending ++ [p]) f := by
  unfold FenceBalanced
  rw [fenceUses_append, List.getElem?_modify]
  by_cases hf : p.fence = f
  · subst hf
    have hnone : fenceUses pending p.fence = 0 := by
      cases h with
      | inl hs => exact hs.2
      | inr hu => rw [hu.1] at hsig; cases hsig
    right
    simp [hsig, hnone, Fence.signal]
  · simpa [hf, FenceBalanced] using h

/-- Completing a pending submission keeps every fence balanced. -/
theorem FenceBalanced.complete {fences : List Fence} {pending : List Submission}
    {p : Submission} {j f : Nat} (h : FenceBalanced fences pending f)
    (hp : pending[j]? = some p) (hlt : f < fences.length) :
    FenceBalanced (fences.set p.fence ⟨true⟩) (pending.eraseIdx j) f := by
  have huses := fenceUses_eraseIdx hp f
  unfold FenceBalanced at h ⊢
  by_cases hf : p.fence = f
  · rw [if_pos hf] at huses
    left
    refine ⟨?_, by omega⟩
    rw [hf, List.getElem?_set_self hlt]
  · rw [if_neg hf, Nat.add_zero] at huses
    rw [List.getElem?_set_ne hf, ← huses]
    exact h

/-! ## the invariant -/

/-- What holds in every state of a windowed renderer whose swapchain keeps `n`
images, between and inside calls. -/
structure FrameInv (d n : Nat) (s : FrameSystem) : Prop where
  depth : s.admin.frameDepth = d
  views : s.viewCount = n
  windowed : s.headless = false
  not_headless : s.phase ≠ .headlessFence
  counter : s.admin.frameCounter < d
  fences : s.admin.inFlightFences.length = d
  available : s.admin.imageAvailableSemaphores = (List.range d).map .imageAvailable
  balanced : ∀ f < d, FenceBalanced s.admin.inFlightFences s.pending f
  /-- an entry of either table names a slot -/
  images_lt : ∀ f, some f ∈ s.admin.imagesInFlight → f < d
  frames_lt : ∀ f, some f ∈ s.admin.imageIndexAtFrame → f < d
  /-- a pending submission is the one its image's entry points to -/
  pending_image : ∀ p ∈ s.pending, s.admin.imagesInFlight[p.commandBuffer]? = some (some p.fence)
  pending_wait : ∀ p ∈ s.pending, p.waitSemaphores = [.imageAvailable p.fence]
  /-- `images_in_flight` covers the swapchain from the first frame on -/
  sized : s.admin.imagesInFlight = [] ∨ s.admin.imagesInFlight.length = n
  sized_frame : s.phase = .frameFence ∨ s.phase = .imageFence → s.admin.imagesInFlight.length = n
  /-- once an image is acquired the slot's fence stays signalled until the host
  resets it -/
  acquired : s.phase = .imageFence →
    s.admin.fenceSignalled s.admin.frameCounter = true ∧ s.admin.curImageIndex < n

theorem FrameAdmin.fenceSignalled_iff (a : FrameAdmin) (f : Nat) :
    a.fenceSignalled f = true ↔ a.inFlightFences[f]? = some ⟨true⟩ := by
  simp [FrameAdmin.fenceSignalled]

theorem FrameAdmin.imageFence_mem {a : FrameAdmin} {f : Nat} (h : a.imageFence = some f) :
    some f ∈ a.imagesInFlight := by
  unfold FrameAdmin.imageFence at h
  rw [Option.join_eq_some_iff] at h
  exact List.mem_of_getElem? h

theorem FrameAdmin.waitForFence_mem {a : FrameAdmin} {k f : Nat}
    (h : a.waitForFence k = some f) : some f ∈ a.imageIndexAtFrame := by
  unfold FrameAdmin.waitForFence at h
  rw [Option.join_eq_some_iff] at h
  exact List.mem_of_getElem? h

namespace FrameInv

variable {d n : Nat} {s : FrameSystem}

/-- The constructor establishes the invariant. -/
theorem create (hd : 1 ≤ d) : FrameInv d n (FrameSystem.create false d n) where
  depth := rfl
  views := rfl
  windowed := rfl
  not_headless := by simp [FrameSystem.create]
  counter := hd
  fences := by simp [FrameSystem.create, FrameAdmin.create]
  available := rfl
  balanced := by
    intro f hf
    left
    simp [FrameSystem.create, FrameAdmin.create, Fence.create, fenceUses, hf]
  images_lt := by simp [FrameSystem.create, FrameAdmin.create]
  frames_lt := by simp [FrameSystem.create, FrameAdmin.create]
  pending_image := by simp [FrameSystem.create]
  pending_wait := by simp [FrameSystem.create]
  sized := Or.inl rfl
  sized_frame := by simp [FrameSystem.create]
  acquired := by simp [FrameSystem.create]

/-- Moving the host between places where no frame is under way, and logging
accesses, keeps the invariant. -/
theorem move (h : FrameInv d n s) {phase : Phase} {accesses : List Access}
    {regenerations exceptions : Nat} (hframe : phase ≠ .frameFence)
    (himage : phase ≠ .imageFence) (hheadless : phase ≠ .headlessFence) :
    FrameInv d n { s with
      phase := phase, accesses := accesses, regenerations := regenerations
      exceptions := exceptions } :=
  { h with
    not_headless := hheadless
    sized_frame := by
      intro hp
      cases hp with
      | inl hf => exact absurd hf hframe
      | inr hi => exact absurd hi himage
    acquired := fun hi => absurd hi himage }

/-- Nothing is pending before `images_in_flight` has entries. -/
theorem pending_eq_nil (h : FrameInv d n s) (hempty : s.admin.imagesInFlight = []) :
    s.pending = [] := by
  cases hp : s.pending with
  | nil => rfl
  | cons p ps =>
      have himage := h.pending_image p (by rw [hp]; exact List.mem_cons_self)
      rw [hempty] at himage
      simp at himage

theorem renderFrame (h : FrameInv d n s) : FrameInv d n (s.next .renderFrame) := by
  by_cases hempty : s.admin.imagesInFlight = []
  · -- the first frame: the table goes from no entry to `n` null ones
    have hpending := h.pending_eq_nil hempty
    have hsize : s.admin.sizeImages s.viewCount =
        { s.admin with imagesInFlight := List.replicate n none } := by
      simp [FrameAdmin.sizeImages, hempty, h.views]
    simp only [FrameSystem.next, hsize]
    exact
      { h with
        not_headless := by simp
        images_lt := by simp
        pending_image := by simp [hpending]
        sized := Or.inr (by simp)
        sized_frame := by simp
        acquired := by simp }
  · have hsize : s.admin.sizeImages s.viewCount = s.admin := by
      simp [FrameAdmin.sizeImages, hempty]
    have hlen : s.admin.imagesInFlight.length = n := h.sized.resolve_left hempty
    simp only [FrameSystem.next, hsize]
    exact
      { h with
        not_headless := by simp
        sized_frame := fun _ => hlen
        acquired := by simp }

theorem acquire (h : FrameInv d n s) {code : AcquireCode}
    (hcode : ∀ index, code = .success index → index < n)
    (he : s.Enabled (.acquire code)) : FrameInv d n (s.next (.acquire code)) := by
  obtain ⟨hphase, hsig⟩ := he
  cases code with
  | success index =>
      exact
        { h with
          not_headless := by simp [FrameSystem.next, FrameSystem.acquire, acquireNextImageIndex]
          sized_frame := fun _ => h.sized_frame (Or.inl hphase)
          acquired := fun _ => ⟨hsig, hcode index rfl⟩ }
  | errorOutOfDate => exact h.move (by simp) (by simp) (by simp)
  | other => exact h.move (by simp) (by simp) (by simp)

/-- The submission the host is about to make uses a signalled fence, so no
pending submission uses it. -/
theorem frameFence_unused (h : FrameInv d n s) (hphase : s.phase = .imageFence) :
    ∀ p ∈ s.pending, p.fence ≠ s.admin.frameCounter := by
  have hsig := (s.admin.fenceSignalled_iff _).mp (h.acquired hphase).1
  exact (h.balanced _ h.counter).unused hsig

/-- Once the wait on the image's fence is over, no submission of its command
buffer is pending: a pending one would be the one the entry points to. -/
theorem imageFence_unused (h : FrameInv d n s) (hsig : s.admin.imageFenceSignalled = true) :
    ∀ p ∈ s.pending, p.commandBuffer ≠ s.admin.curImageIndex := by
  intro p hp heq
  have hentry : s.admin.imageFence = some p.fence := by
    have himage := h.pending_image p hp
    rw [heq] at himage
    simp [FrameAdmin.imageFence, himage]
  have hlt : p.fence < d := h.images_lt _ (FrameAdmin.imageFence_mem hentry)
  have hfence : s.admin.inFlightFences[p.fence]? = some ⟨true⟩ := by
    rw [FrameAdmin.imageFenceSignalled, hentry] at hsig
    exact (s.admin.fenceSignalled_iff _).mp hsig
  exact (h.balanced _ hlt).unused hfence p hp rfl

theorem submission_waitSemaphores (h : FrameInv d n s) :
    s.admin.submission.waitSemaphores = [.imageAvailable s.admin.frameCounter] := by
  simp [FrameAdmin.submission, h.available, h.counter]

/-- Entries stay within the frame depth when the current slot is noted among them. -/
theorem lt_of_mem_set (h : FrameInv d n s) {entries : List (Option Nat)} {f i : Nat}
    (hentries : ∀ g, some g ∈ entries → g < d)
    (hmem : some f ∈ entries.set i (some s.admin.frameCounter)) : f < d := by
  cases List.mem_or_eq_of_mem_set hmem with
  | inl hold => exact hentries f hold
  | inr hnew =>
      rw [Option.some.injEq] at hnew
      rw [hnew]
      exact h.counter

theorem counter_finishFrame_lt (h : FrameInv d n s) : s.admin.finishFrame.frameCounter < d := by
  have hpos : 0 < s.admin.frameDepth := by rw [h.depth]; exact Nat.zero_lt_of_lt h.counter
  have hmod := Nat.mod_lt (s.admin.frameCounter + 1) hpos
  rw [h.depth] at hmod
  simpa [FrameAdmin.finishFrame, h.depth] using hmod

theorem submit (h : FrameInv d n s) (he : s.Enabled .submit) : FrameInv d n (s.next .submit) := by
  obtain ⟨hphase, hsig⟩ := he
  have hfree := h.imageFence_unused hsig
  have hfence := (s.admin.fenceSignalled_iff _).mp (h.acquired hphase).1
  have hcur : s.admin.curImageIndex < s.admin.imagesInFlight.length := by
    rw [h.sized_frame (Or.inr hphase)]
    exact (h.acquired hphase).2
  exact
    { h with
      not_headless := by simp [FrameSystem.next]
      counter := h.counter_finishFrame_lt
      fences := by simp [FrameSystem.next, FrameAdmin.finishFrame, h.fences]
      balanced := fun f hf => (h.balanced f hf).submit (p := s.admin.submission) hfence
      images_lt := fun f hmem => h.lt_of_mem_set h.images_lt hmem
      frames_lt := fun f hmem => h.lt_of_mem_set h.frames_lt hmem
      pending_image := by
        intro p hp
        simp only [FrameSystem.next, FrameAdmin.finishFrame] at hp ⊢
        cases List.mem_append.mp hp with
        | inl hold =>
            rw [List.getElem?_set_ne (hfree p hold).symm]
            exact h.pending_image p hold
        | inr hnew =>
            rw [List.mem_singleton.mp hnew]
            exact List.getElem?_set_self hcur
      pending_wait := by
        intro p hp
        cases List.mem_append.mp hp with
        | inl hold => exact h.pending_wait p hold
        | inr hnew =>
            rw [List.mem_singleton.mp hnew, h.submission_waitSemaphores]
            rfl
      sized := by
        right
        simpa [FrameSystem.next, FrameAdmin.finishFrame] using h.sized_frame (Or.inr hphase)
      sized_frame := by simp [FrameSystem.next]
      acquired := by simp [FrameSystem.next] }

theorem complete (h : FrameInv d n s) (j : Nat) : FrameInv d n (s.next (.complete j)) := by
  cases hp : s.pending[j]? with
  | none =>
      have hsame : s.next (.complete j) = s := by
        simp [FrameSystem.next, FrameSystem.complete, hp]
      rw [hsame]
      exact h
  | some p =>
      simp only [FrameSystem.next, FrameSystem.complete, hp]
      have hkept : ∀ q ∈ s.pending.eraseIdx j, q ∈ s.pending :=
        fun q hq => List.mem_of_mem_eraseIdx hq
      exact
        { h with
          fences := by simp [FrameAdmin.signalFence, h.fences]
          balanced := fun f hf => (h.balanced f hf).complete hp (by rw [h.fences]; exact hf)
          pending_image := fun q hq => h.pending_image q (hkept q hq)
          pending_wait := fun q hq => h.pending_wait q (hkept q hq)
          acquired := by
            intro hphase
            obtain ⟨hsig, hcur⟩ := h.acquired hphase
            refine ⟨?_, hcur⟩
            -- a completion only ever signals a fence
            rw [FrameAdmin.fenceSignalled_iff] at hsig ⊢
            simp only [FrameAdmin.signalFence]
            by_cases hf : p.fence = s.admin.frameCounter
            · rw [hf]
              exact List.getElem?_set_self (by rw [h.fences]; exact h.counter)
            · rw [List.getElem?_set_ne hf]
              exact hsig }

theorem clearFrom (h : FrameInv d n s) (i : Nat) : FrameInv d n (s.clearFrom i) := by
  unfold FrameSystem.clearFrom
  split
  · exact h.move (by simp) (by simp) (by simp)
  · exact h.move (by simp) (by simp) (by simp)

end FrameInv

/-! ## safety -/

/-- The host's events on a windowed renderer whose swapchain has `n` images, and
the GPU's: any acquired index is below `n`, completions come in any order. -/
def FrameEvent.Windowed (n : Nat) : FrameEvent → Prop
  | .acquire code => ∀ index, code = .success index → index < n
  | .recreateSwapchain _ => False
  | _ => True

theorem FrameInv.step {d n : Nat} {s : FrameSystem} {e : FrameEvent} (hok : e.Windowed n)
    (h : FrameInv d n s) (he : s.Enabled e) : FrameInv d n (s.next e) := by
  cases e with
  | renderFrame => exact h.renderFrame
  | acquire code => exact h.acquire hok he
  | submit => exact h.submit he
  | renderFrameHeadless => rw [FrameSystem.Enabled, h.windowed] at he; cases he.2
  | submitHeadless => exact absurd he.1 h.not_headless
  | waitFor k => exact h.move (by simp) (by simp) (by simp)
  | waitForReturn k => exact h.move (by simp) (by simp) (by simp)
  | clear => exact h.clearFrom 0
  | reset i => exact h.clearFrom (i + 1)
  | record => exact h.move (by simp) (by simp) (by simp)
  | recreateSwapchain count => exact hok.elim
  | complete j => exact h.complete j

/-- A state from which the next host action is safe, whatever it is. -/
structure SyncSafe (s : FrameSystem) : Prop where
  /-- every in-flight fence is signalled and unused, or unsignalled with exactly
  one user -/
  fences : ∀ f < s.admin.frameDepth, FenceBalanced s.admin.inFlightFences s.pending f
  /-- a command buffer is not submitted while a submission of it is pending -/
  submit : s.Enabled .submit →
    ∀ p ∈ s.pending, p.commandBuffer ≠ s.admin.submission.commandBuffer
  /-- the fence that `render_frame` resets and submits with is not in use -/
  reset : s.Enabled .submit → ∀ p ∈ s.pending, p.fence ≠ s.admin.submission.fence
  /-- nor is the semaphore it acquires with -/
  acquire : ∀ code, s.Enabled (.acquire code) → ∀ p ∈ s.pending, ∀ semaphore,
    s.admin.imageAvailableSemaphores[s.admin.frameCounter]? = some semaphore →
      semaphore ∉ p.waitSemaphores
  /-- a fence the host waits on is signalled or will be: something pending uses
  it -/
  waits : ∀ f ∈ s.waitedOn, s.admin.fenceSignalled f = true ∨ ∃ p ∈ s.pending, p.fence = f

/-- The fences the host can be blocked on all belong to frame slots. -/
theorem FrameInv.waitedOn_lt {d n : Nat} {s : FrameSystem} (h : FrameInv d n s) :
    ∀ f ∈ s.waitedOn, f < d := by
  intro f hf
  unfold FrameSystem.waitedOn at hf
  split at hf
  · rw [List.mem_singleton.mp hf]
    exact h.counter
  · exact h.images_lt f (FrameAdmin.imageFence_mem (Option.mem_toList.mp hf))
  · exact h.images_lt f (FrameAdmin.imageFence_mem (Option.mem_toList.mp hf))
  · exact h.frames_lt f (FrameAdmin.waitForFence_mem (Option.mem_toList.mp hf))
  · exact h.frames_lt f (FrameAdmin.waitForFence_mem (Option.mem_toList.mp hf))
  · cases hf
  · cases hf

theorem FrameInv.syncSafe {d n : Nat} {s : FrameSystem} (h : FrameInv d n s) : SyncSafe s where
  fences := by rw [h.depth]; exact h.balanced
  submit := fun he => h.imageFence_unused he.2
  reset := fun he => h.frameFence_unused he.1
  acquire := by
    intro code he p hp semaphore hget hmem
    have hsem : semaphore = .imageAvailable s.admin.frameCounter := by
      rw [h.available] at hget
      simpa [h.counter, eq_comm] using hget
    -- only the slot's own submission waits on the slot's semaphore
    rw [h.pending_wait p hp, hsem, List.mem_singleton] at hmem
    have hfence : s.admin.frameCounter = p.fence := by injection hmem
    have hsig := (s.admin.fenceSignalled_iff _).mp he.2
    exact (h.balanced _ h.counter).unused hsig p hp hfence.symm
  waits := by
    intro f hf
    cases h.balanced f (h.waitedOn_lt f hf) with
    | inl hs => exact Or.inl ((s.admin.fenceSignalled_iff f).mpr hs.1)
    | inr hu => exact Or.inr (exists_of_fenceUses_eq_one hu.2)

/-- **Frame synchronisation**: for every frame depth and image count, every order
of acquired images and every interleaving of GPU completions, each state a
windowed renderer passes through is safe. -/
theorem render_frame_sync_safe (d n : Nat) (hd : 1 ≤ d) (es : List FrameEvent)
    (hes : ∀ e ∈ es, e.Windowed n) (s : FrameSystem)
    (hrun : FrameSystem.machine.run (.create false d n) es = some s) : SyncSafe s :=
  (FrameSystem.machine.run_invariant (FrameInv d n) (FrameEvent.Windowed n)
    (fun _ _ hok h he => h.step hok he) hes (FrameInv.create hd) hrun).syncSafe

/-- Two slots and three images: slot 0 is taken again, for another image, while
the submission of slot 1 is still pending. -/
def recycledSlot : List FrameEvent :=
  [.renderFrame, .acquire (.success 2), .submit,
   .renderFrame, .acquire (.success 0), .submit, .complete 0,
   .renderFrame, .acquire (.success 1)]

theorem render_frame_sync_safe_recycledSlot :
    ∃ s, FrameSystem.machine.run (.create false 2 3) recycledSlot = some s ∧
      s.pending.length = 1 ∧ SyncSafe s :=
  ⟨_, rfl, rfl, render_frame_sync_safe 2 3 (by decide) recycledSlot
    (by simp [recycledSlot, FrameEvent.Windowed]) _ rfl⟩

/-- A blocked call can always go on: unless the fence it waits on is signalled,
the GPU can complete a submission that signals it. -/
theorem FrameInv.exists_complete {d n : Nat} {s : FrameSystem} (h : FrameInv d n s) {f : Nat}
    (hf : f ∈ s.waitedOn) : s.admin.fenceSignalled f = true ∨
      ∃ j, s.Enabled (.complete j) ∧ (s.next (.complete j)).admin.fenceSignalled f = true := by
  cases h.syncSafe.waits f hf with
  | inl hs => exact Or.inl hs
  | inr hu =>
      obtain ⟨p, hp, hpf⟩ := hu
      obtain ⟨j, hj, hget⟩ := List.getElem_of_mem hp
      right
      refine ⟨j, hj, ?_⟩
      have hget? : s.pending[j]? = some p := by rw [List.getElem?_eq_getElem hj, hget]
      simp only [FrameSystem.next, FrameSystem.complete, hget?]
      rw [FrameAdmin.fenceSignalled_iff, FrameAdmin.signalFence, hpf]
      exact List.getElem?_set_self (by rw [h.fences]; exact h.waitedOn_lt f hf)

end Vk
end Topaz
