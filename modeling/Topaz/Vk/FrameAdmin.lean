import Topaz.Machine
import Mathlib.Algebra.Ring.Nat
import Mathlib.Data.List.Basic

/-!
# Topaz.Vk.FrameAdmin

`vk::FrameAdmin` and the machine it drives together with the GPU.

A frame admin owns `frame_depth` frame slots, each with two semaphores and an
in-flight fence, and two tables: `images_in_flight`, from swapchain images to
the fence of the last frame that drew them, and `image_index_at_frame`, which
`wait_for` reads.  The host blocks on fences in the middle of its calls while
the GPU completes submissions in any order, so a call is cut at the points
where it blocks: between two of them the host runs alone, and a completion
there commutes with what the host does.

* `render_frame` — `renderFrame` (up to the wait on the slot's fence), then
  `acquire` (up to the wait on the image's fence), then `submit`;
* `render_frame_headless` — `renderFrameHeadless`, then `submitHeadless`;
* `wait_for` — `waitFor`, then `waitForReturn`;
* `clear_rendering_commands` and the re-recording after it — `clear`, one
  `reset` per view, then `record`.

`complete` is the GPU's own event.  `accesses` is a ghost log of every vector
element the host touches, with the length of the vector at the time; an access
out of range has no effect on the tables here, since what it does in C++ is
undefined and is a separate obligation (`Topaz.Vk.Bounds`).
-/

namespace Topaz
namespace Vk

/-! ## fences, semaphores and submissions -/

/-- A `vk::Semaphore`, named by the vector and the slot that own it. -/
inductive Semaphore where
  | imageAvailable (slot : Nat)
  | renderFinish (slot : Nat)
deriving DecidableEq, Repr

/-- The state Vulkan keeps for a `vk::Fence`. -/
structure Fence where
  signalled : Bool
deriving DecidableEq, Repr

/-- `Fence::Fence`: created with `VK_FENCE_CREATE_SIGNALED_BIT`. -/
def Fence.create : Fence := ⟨true⟩

/-- `Fence::signal`, which is `vkResetFences` despite its name. -/
def Fence.signal (_ : Fence) : Fence := ⟨false⟩

/-- A `vkQueueSubmit` the GPU has not completed yet.  Command buffers are named
by their index in the command pool, fences by their index in
`in_flight_fences`. -/
structure Submission where
  commandBuffer : Nat
  waitSemaphores : List Semaphore
  signalSemaphores : List Semaphore
  fence : Nat
deriving DecidableEq, Repr

/-- What `vkAcquireNextImageKHR` answers. -/
inductive AcquireCode where
  | success (imageIndex : Nat)
  | errorOutOfDate
  | other
deriving DecidableEq, Repr

/-- `Swapchain::AcquireResponseType`. -/
inductive AcquireResponseType where
  | fine
  | errorSwapchainOutOfDate
  | errorUnknown
deriving DecidableEq, Repr

/-- `Swapchain::AcquireResult`. -/
structure AcquireResult where
  index : Option Nat
  response : AcquireResponseType
deriving DecidableEq, Repr

/-- `Swapchain::acquire_next_image_index`. -/
def acquireNextImageIndex : AcquireCode → AcquireResult
  | .success imageIndex => ⟨some imageIndex, .fine⟩
  | .errorOutOfDate => ⟨none, .errorSwapchainOutOfDate⟩
  | .other => ⟨none, .errorUnknown⟩

/-! ## the frame admin -/

/-- The data of a `FrameAdmin`.  In `image_index_at_frame` the sentinel
`std::numeric_limits<std::size_t>::max()` is `none`; in `images_in_flight` a
`Fence*` is the index of its fence and `nullptr` is `none`. -/
structure FrameAdmin where
  frameDepth : Nat
  imageIndexAtFrame : List (Option Nat)
  frameCounter : Nat
  curImageIndex : Nat
  imageAvailableSemaphores : List Semaphore
  renderFinishSemaphores : List Semaphore
  inFlightFences : List Fence
  imagesInFlight : List (Option Nat)
  /-- whether `set_regeneration_function` has been called -/
  regenerateFunction : Bool
deriving DecidableEq, Repr

namespace FrameAdmin

/-- `FrameAdmin::FrameAdmin`. -/
def create (frameDepth : Nat) : FrameAdmin where
  frameDepth := frameDepth
  imageIndexAtFrame := List.replicate frameDepth none
  frameCounter := 0
  curImageIndex := 0
  imageAvailableSemaphores := (List.range frameDepth).map .imageAvailable
  renderFinishSemaphores := (List.range frameDepth).map .renderFinish
  inFlightFences := List.replicate frameDepth Fence.create
  imagesInFlight := []
  regenerateFunction := false

/-- Whether `in_flight_fences[f].wait_for()` returns at once. -/
def fenceSignalled (a : FrameAdmin) (f : Nat) : Bool :=
  a.inFlightFences[f]? == some ⟨true⟩

/-- `images_in_flight` is sized lazily, at the first frame only. -/
def sizeImages (a : FrameAdmin) (count : Nat) : FrameAdmin :=
  if a.imagesInFlight.isEmpty then
    { a with imagesInFlight := List.replicate count none }
  else a

/-- The fence `images_in_flight[cur_image_index]` points to. -/
def imageFence (a : FrameAdmin) : Option Nat := a.imagesInFlight[a.curImageIndex]?.join

/-- Whether the wait on `images_in_flight[cur_image_index]` is over. -/
def imageFenceSignalled (a : FrameAdmin) : Bool := a.imageFence.all a.fenceSignalled

/-- The submission `render_frame` makes once both waits are over. -/
def submission (a : FrameAdmin) : Submission where
  commandBuffer := a.curImageIndex
  waitSemaphores := a.imageAvailableSemaphores[a.frameCounter]?.toList
  signalSemaphores := a.renderFinishSemaphores[a.frameCounter]?.toList
  fence := a.frameCounter

/-- The host's side of the end of `render_frame`: both tables name the slot,
its fence is reset, the counter advances. -/
def finishFrame (a : FrameAdmin) : FrameAdmin :=
  { a with
    imagesInFlight := a.imagesInFlight.set a.curImageIndex (some a.frameCounter)
    imageIndexAtFrame := a.imageIndexAtFrame.set a.curImageIndex (some a.frameCounter)
    inFlightFences := a.inFlightFences.modify a.frameCounter Fence.signal
    frameCounter := (a.frameCounter + 1) % a.frameDepth }

/-- The submission of `render_frame_headless`: no semaphores. -/
def submissionHeadless (a : FrameAdmin) : Submission where
  commandBuffer := a.curImageIndex
  waitSemaphores := []
  signalSemaphores := []
  fence := a.frameCounter

/-- The host's side of the end of `render_frame_headless`.  Unlike
`render_frame` it does not write `image_index_at_frame`. -/
def finishFrameHeadless (a : FrameAdmin) : FrameAdmin :=
  { a with
    imagesInFlight := a.imagesInFlight.set a.curImageIndex (some a.frameCounter)
    inFlightFences := a.inFlightFences.modify a.frameCounter Fence.signal
    frameCounter := (a.frameCounter + 1) % a.frameDepth }

/-- The fence `wait_for(cmd_buf_id)` waits on; `none` when it returns at once. -/
def waitForFence (a : FrameAdmin) (cmdBufId : Nat) : Option Nat :=
  a.imageIndexAtFrame[cmdBufId]?.join

/-- Whether `wait_for(cmd_buf_id)` returns. -/
def waitForReturns (a : FrameAdmin) (cmdBufId : Nat) : Bool :=
  (a.waitForFence cmdBufId).all a.fenceSignalled

/-- The GPU signals a fence. -/
def signalFence (a : FrameAdmin) (f : Nat) : FrameAdmin :=
  { a with inFlightFences := a.inFlightFences.set f ⟨true⟩ }

end FrameAdmin

/-! ## vector accesses -/

/-- The vectors of a `FrameAdmin`. -/
inductive Table where
  | imageIndexAtFrame
  | imagesInFlight
  | inFlightFences
  | imageAvailableSemaphores
  | renderFinishSemaphores
deriving DecidableEq, Repr

/-- One use of `operator[]`: the vector, the index, and the vector's length at
the time. -/
structure Access where
  table : Table
  index : Nat
  length : Nat
deriving DecidableEq, Repr

def Access.InRange (x : Access) : Prop := x.index < x.length

instance (x : Access) : Decidable x.InRange := inferInstanceAs (Decidable (_ < _))

namespace FrameAdmin

/-- The current length of a vector. -/
def lengthOf (a : FrameAdmin) : Table → Nat
  | .imageIndexAtFrame => a.imageIndexAtFrame.length
  | .imagesInFlight => a.imagesInFlight.length
  | .inFlightFences => a.inFlightFences.length
  | .imageAvailableSemaphores => a.imageAvailableSemaphores.length
  | .renderFinishSemaphores => a.renderFinishSemaphores.length

def access (a : FrameAdmin) (t : Table) (index : Nat) : Access := ⟨t, index, a.lengthOf t⟩

/-- The accesses of `render_frame` before its first wait returns. -/
def frameAccesses (a : FrameAdmin) : List Access :=
  [a.access .inFlightFences a.frameCounter]

/-- The accesses of `render_frame` to acquire an image. -/
def acquireAccesses (a : FrameAdmin) : List Access :=
  [a.access .imageAvailableSemaphores a.frameCounter]

/-- The null check on `images_in_flight[cur_image_index]`, and the second access
to it when there is a fence to wait on. -/
def imageAccesses (a : FrameAdmin) : List Access :=
  a.access .imagesInFlight a.curImageIndex ::
    a.imageFence.toList.map fun _ => a.access .imagesInFlight a.curImageIndex

/-- The accesses of `render_frame` after its second wait, in source order. -/
def submitAccesses (a : FrameAdmin) : List Access :=
  [a.access .imagesInFlight a.curImageIndex,
   a.access .inFlightFences a.frameCounter,
   a.access .imageIndexAtFrame a.curImageIndex,
   a.access .imageAvailableSemaphores a.frameCounter,
   a.access .renderFinishSemaphores a.frameCounter,
   a.access .inFlightFences a.frameCounter,
   a.access .inFlightFences a.frameCounter,
   a.access .renderFinishSemaphores a.frameCounter]

/-- The accesses of `render_frame_headless` after its wait. -/
def submitHeadlessAccesses (a : FrameAdmin) : List Access :=
  [a.access .imagesInFlight a.curImageIndex,
   a.access .inFlightFences a.frameCounter,
   a.access .inFlightFences a.frameCounter,
   a.access .inFlightFences a.frameCounter]

/-- The accesses of `wait_for`. -/
def waitForAccesses (a : FrameAdmin) (cmdBufId : Nat) : List Access :=
  a.access .imageIndexAtFrame cmdBufId ::
    (a.waitForFence cmdBufId).toList.map (a.access .inFlightFences)

end FrameAdmin

/-! ## the host and the GPU -/

/-- Where the host is blocked. -/
inductive Phase where
  | idle
  /-- in `render_frame`, on the fence of the frame slot -/
  | frameFence
  /-- in `render_frame`, on the fence of the acquired image -/
  | imageFence
  /-- in `render_frame_headless`, on the fence of the image -/
  | headlessFence
  | waitFor (cmdBufId : Nat)
  /-- in `clear_rendering_commands`, in its `wait_for(i)` -/
  | clearing (i : Nat)
  /-- between `clear_rendering_commands` and the end of
  `record_rendering_commands` -/
  | recording
deriving DecidableEq, Repr

/-- The frame admin of one renderer, the submissions the GPU still executes, and
the place the host is at.  `viewCount` is `get_view_count()`. -/
structure FrameSystem where
  headless : Bool
  viewCount : Nat
  admin : FrameAdmin
  pending : List Submission
  phase : Phase
  accesses : List Access
  regenerations : Nat
  exceptions : Nat
deriving DecidableEq, Repr

/-- One event of the system. -/
inductive FrameEvent where
  | renderFrame
  | acquire (code : AcquireCode)
  | submit
  | renderFrameHeadless
  | submitHeadless
  | waitFor (cmdBufId : Nat)
  | waitForReturn (cmdBufId : Nat)
  | clear
  | reset (i : Nat)
  | record
  /-- the device recreates the swapchain, after `block_until_idle` -/
  | recreateSwapchain (count : Nat)
  /-- the GPU completes one of the pending submissions -/
  | complete (j : Nat)
deriving DecidableEq, Repr

namespace FrameSystem

/-- A new frame admin; a headless renderer has one view. -/
def create (headless : Bool) (frameDepth viewCount : Nat) : FrameSystem where
  headless := headless
  viewCount := if headless then 1 else viewCount
  admin := .create frameDepth
  pending := []
  phase := .idle
  accesses := []
  regenerations := 0
  exceptions := 0

/-- The fences the host is blocked on. -/
def waitedOn (s : FrameSystem) : List Nat :=
  match s.phase with
  | .frameFence => [s.admin.frameCounter]
  | .imageFence | .headlessFence => s.admin.imageFence.toList
  | .waitFor k | .clearing k => (s.admin.waitForFence k).toList
  | .idle | .recording => []

/-- When an event can happen: calls start when the host is idle, and a blocked
call goes on once the fence it waits on is signalled. -/
def Enabled (s : FrameSystem) : FrameEvent → Prop
  | .renderFrame => s.phase = .idle ∧ s.headless = false
  | .acquire _ => s.phase = .frameFence ∧ s.admin.fenceSignalled s.admin.frameCounter
  | .submit => s.phase = .imageFence ∧ s.admin.imageFenceSignalled
  | .renderFrameHeadless => s.phase = .idle ∧ s.headless = true
  | .submitHeadless => s.phase = .headlessFence ∧ s.admin.imageFenceSignalled
  | .waitFor _ => s.phase = .idle
  | .waitForReturn k => s.phase = .waitFor k ∧ s.admin.waitForReturns k
  | .clear => s.phase = .idle
  | .reset i => s.phase = .clearing i ∧ s.admin.waitForReturns i
  | .record => s.phase = .recording
  | .recreateSwapchain _ => s.phase = .idle ∧ s.headless = false ∧ s.pending = []
  | .complete j => j < s.pending.length

instance : ∀ (s : FrameSystem) (e : FrameEvent), Decidable (s.Enabled e)
  | _, .renderFrame => inferInstanceAs (Decidable (_ ∧ _))
  | _, .acquire _ => inferInstanceAs (Decidable (_ ∧ _))
  | _, .submit => inferInstanceAs (Decidable (_ ∧ _))
  | _, .renderFrameHeadless => inferInstanceAs (Decidable (_ ∧ _))
  | _, .submitHeadless => inferInstanceAs (Decidable (_ ∧ _))
  | _, .waitFor _ => inferInstanceAs (Decidable (_ = _))
  | _, .waitForReturn _ => inferInstanceAs (Decidable (_ ∧ _))
  | _, .clear => inferInstanceAs (Decidable (_ = _))
  | _, .reset _ => inferInstanceAs (Decidable (_ ∧ _))
  | _, .record => inferInstanceAs (Decidable (_ = _))
  | _, .recreateSwapchain _ => inferInstanceAs (Decidable (_ ∧ _))
  | _, .complete _ => inferInstanceAs (Decidable (_ < _))

/-- `clear_rendering_commands` enters the loop body for view `i`, or is done. -/
def clearFrom (s : FrameSystem) (i : Nat) : FrameSystem :=
  if i < s.viewCount then
    { s with phase := .clearing i, accesses := s.accesses ++ s.admin.waitForAccesses i }
  else { s with phase := .recording }

/-- `acquire_next_image_index` has answered.  Without an index the regeneration
function runs when the swapchain is out of date, and then
`acquisition.index.value()` throws in either case. -/
def acquire (s : FrameSystem) (code : AcquireCode) : FrameSystem :=
  let acquisition := acquireNextImageIndex code
  match acquisition.index with
  | some index =>
      let admin := { s.admin with curImageIndex := index }
      { s with
        admin := admin
        phase := .imageFence
        accesses := s.accesses ++ s.admin.acquireAccesses ++ admin.imageAccesses }
  | none =>
      { s with
        phase := .idle
        accesses := s.accesses ++ s.admin.acquireAccesses
        regenerations := match acquisition.response, s.admin.regenerateFunction with
          | .errorSwapchainOutOfDate, true => s.regenerations + 1
          | _, _ => s.regenerations
        exceptions := s.exceptions + 1 }

/-- The GPU completes the `j`-th pending submission and signals its fence. -/
def complete (s : FrameSystem) (j : Nat) : FrameSystem :=
  match s.pending[j]? with
  | some p =>
      { s with pending := s.pending.eraseIdx j, admin := s.admin.signalFence p.fence }
  | none => s

/-- What an event does. -/
def next (s : FrameSystem) : FrameEvent → FrameSystem
  | .renderFrame =>
      { s with
        admin := s.admin.sizeImages s.viewCount
        phase := .frameFence
        accesses := s.accesses ++ s.admin.frameAccesses }
  | .acquire code => s.acquire code
  | .submit =>
      { s with
        admin := s.admin.finishFrame
        pending := s.pending ++ [s.admin.submission]
        phase := .idle
        accesses := s.accesses ++ s.admin.submitAccesses }
  | .renderFrameHeadless =>
      -- `cur_image_index` is a `std::uint32_t`
      let admin := { s.admin.sizeImages s.admin.frameDepth with
        curImageIndex := s.admin.frameCounter % 2 ^ 32 }
      { s with
        admin := admin
        phase := .headlessFence
        accesses := s.accesses ++ admin.imageAccesses }
  | .submitHeadless =>
      { s with
        admin := s.admin.finishFrameHeadless
        pending := s.pending ++ [s.admin.submissionHeadless]
        phase := .idle
        accesses := s.accesses ++ s.admin.submitHeadlessAccesses }
  | .waitFor k =>
      { s with phase := .waitFor k, accesses := s.accesses ++ s.admin.waitForAccesses k }
  | .waitForReturn _ => { s with phase := .idle }
  | .clear => s.clearFrom 0
  | .reset i => s.clearFrom (i + 1)
  | .record => { s with phase := .idle }
  | .recreateSwapchain count => { s with viewCount := count }
  | .complete j => s.complete j

/-- The host and the GPU as a guarded machine. -/
def machine : Machine FrameSystem FrameEvent := ⟨Enabled, next⟩

instance (s : FrameSystem) (e : FrameEvent) : Decidable (machine.Enabled s e) :=
  inferInstanceAs (Decidable (s.Enabled e))

end FrameSystem

end Vk
end Topaz
