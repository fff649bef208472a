import Topaz.Interleaving
import Topaz.Buffer
import Topaz.Vk.FrameAdmin
import Topaz.Vk.Image

/-!
# Topaz.Vk.Transfer

Transfers through the scratch command buffer: what `vk::Fence`, `vk::Buffer`,
`vk::CommandBuffer` and `vk::Submit` ask the driver for, and what the GPU then does.

The host fills a staging buffer, records copies into the one scratch command buffer, submits
it with a fence and waits; the GPU executes the submitted commands one at a time and signals
the fence when it is done.  `TransferState.Valid` is what the driver asks of each call: a
buffer is not written or destroyed while a pending command uses it, a fence is submitted
unsignalled and not reset while it is in use, the command buffer is not recorded, reset or
submitted while it is pending, and what is submitted can be executed.

`runs_transfer` is the whole of one transfer.
-/

namespace Topaz
namespace Vk

/-! ## objects -/

/-- The buffers that scratch commands work on: those of the renderer, and those that live
during one transfer. -/
inductive BufferName where
  | vertexBuffer
  | indexBuffer
  | drawIndirectBuffer
  | drawIndirectDynamicBuffer
  | component (i : Nat)
  | drawStaging
  | drawStagingDynamic
  | staging
deriving DecidableEq, Repr

/-- The `copy_fence` of `record_and_run_scratch_commands`, and that of `record_draw_list`. -/
inductive FenceName where
  | scratch
  | drawList
deriving DecidableEq, Repr

/-- A recorded transfer command. -/
inductive TransferCommand where
  | copyBuffer (source destination : BufferName) (size : Nat)
  | pipelineBarrier (barrier : Barrier)
  | copyBufferToImage (source : BufferName) (image : Nat) (aspectMask : ImageAspect) (size : Nat)
deriving DecidableEq, Repr

/-- The buffers that a command uses. -/
def TransferCommand.buffers : TransferCommand → List BufferName
  | copyBuffer source destination _ => [source, destination]
  | pipelineBarrier _ => []
  | copyBufferToImage source _ _ _ => [source]

/-- An image as the GPU has it; its format gives it its one aspect. -/
structure DeviceImage where
  aspect : ImageAspect
  layout : ImageLayout
  texels : Buffer UInt8

/-- What commands read and write. -/
@[ext] structure DeviceMemory where
  buffers : BufferName → Option (Buffer UInt8)
  images : Nat → Option DeviceImage

namespace DeviceMemory

variable (memory : DeviceMemory)

/-- Create, replace or destroy a buffer. -/
def setBuffer (b : BufferName) (buffer : Option (Buffer UInt8)) : DeviceMemory :=
  { memory with buffers := Function.update memory.buffers b buffer }

def setImage (i : Nat) (image : Option DeviceImage) : DeviceMemory :=
  { memory with images := Function.update memory.images i image }

@[simp] theorem buffers_setBuffer (b b' : BufferName) (buffer : Option (Buffer UInt8)) :
    (memory.setBuffer b buffer).buffers b' = if b' = b then buffer else memory.buffers b' :=
  Function.update_apply ..

@[simp] theorem images_setBuffer (b : BufferName) (buffer : Option (Buffer UInt8)) :
    (memory.setBuffer b buffer).images = memory.images := rfl

@[simp] theorem setBuffer_setBuffer (b : BufferName) (old buffer : Option (Buffer UInt8)) :
    (memory.setBuffer b old).setBuffer b buffer = memory.setBuffer b buffer := by
  simp [setBuffer]

/-- Different buffers can be set in either order. -/
theorem setBuffer_comm {b b' : BufferName} (h : b ≠ b') (x y : Option (Buffer UInt8)) :
    (memory.setBuffer b x).setBuffer b' y = (memory.setBuffer b' y).setBuffer b x := by
  rw [setBuffer, setBuffer, setBuffer, setBuffer, Function.update_comm h]

/-- A buffer set to what it is changes nothing. -/
theorem setBuffer_eq_self {b : BufferName} {buffer : Option (Buffer UInt8)}
    (h : memory.buffers b = buffer) : memory.setBuffer b buffer = memory := by
  rw [setBuffer, ← h, Function.update_eq_self]

@[simp] theorem images_setImage (i j : Nat) (image : Option DeviceImage) :
    (memory.setImage i image).images j = if j = i then image else memory.images j :=
  Function.update_apply ..

theorem images_setImage_self (i : Nat) (image : Option DeviceImage) :
    (memory.setImage i image).images i = image := Function.update_self ..

@[simp] theorem buffers_setImage (i : Nat) (image : Option DeviceImage) :
    (memory.setImage i image).buffers = memory.buffers := rfl

@[simp] theorem setImage_setImage (i : Nat) (old image : Option DeviceImage) :
    (memory.setImage i old).setImage i image = memory.setImage i image := by
  simp [setImage]

/-- What a command asks of the objects when it is executed.  (A command on an image is on an
aspect that it has, and a barrier starts from the layout the image has, or from `Undefined`.) -/
def Executes : TransferCommand → Prop
  | .copyBuffer source destination size => 0 < size ∧
      (∃ b, memory.buffers source = some b ∧ size ≤ b.size) ∧
      ∃ b, memory.buffers destination = some b ∧ size ≤ b.size
  | .pipelineBarrier barrier => ∃ image, memory.images barrier.image = some image ∧
      barrier.aspectMask = image.aspect ∧
      (barrier.oldLayout = .undefined ∨ barrier.oldLayout = image.layout) ∧
      barrier.sourceStage.isSome ∧ barrier.destinationStage.isSome
  | .copyBufferToImage source image aspectMask size => 0 < size ∧
      (∃ b, memory.buffers source = some b ∧ size ≤ b.size) ∧
      ∃ i, memory.images image = some i ∧ aspectMask = i.aspect ∧
        i.layout = .transferDestination ∧ size ≤ i.texels.size

/-- Execute a command.  A barrier from `Undefined` discards what the image holds. -/
def execute : TransferCommand → DeviceMemory
  | .copyBuffer source destination size =>
      match memory.buffers source, memory.buffers destination with
      | some src, some dst =>
          memory.setBuffer destination (some (dst.memcpy 0 (src.read 0 size)))
      | _, _ => memory
  | .pipelineBarrier barrier =>
      memory.setImage barrier.image ((memory.images barrier.image).map fun image =>
        { image with
          layout := barrier.newLayout
          texels :=
            if barrier.oldLayout = .undefined then Buffer.create image.texels.size
            else image.texels })
  | .copyBufferToImage source image _ size =>
      match memory.buffers source, memory.images image with
      | some src, some dst =>
          memory.setImage image
            (some { dst with texels := dst.texels.memcpy 0 (src.read 0 size) })
      | _, _ => memory

/-- Every command can be executed when its turn comes. -/
def ExecutesAll : DeviceMemory → List TransferCommand → Prop
  | _, [] => True
  | memory, c :: cs => memory.Executes c ∧ ExecutesAll (memory.execute c) cs

end DeviceMemory

/-! ## host and GPU -/

inductive CommandBufferState where
  | initial
  | recording (commands : List TransferCommand)
  | executable (commands : List TransferCommand)
deriving DecidableEq, Repr

/-- A submission: what is left of its commands, and its fence. -/
structure PendingTransfer where
  commands : List TransferCommand
  fence : FenceName
deriving DecidableEq, Repr

/-- The objects, the scratch command buffer, and its submission while that is pending. -/
structure TransferState where
  memory : DeviceMemory
  fences : FenceName → Option Fence
  scratchBuf : CommandBufferState
  pending : Option PendingTransfer

/-- A call to the driver. -/
inductive HostCall where
  | createFence (f : FenceName)
  /-- `Fence::signal`, which resets the fence -/
  | signal (f : FenceName)
  | waitFor (f : FenceName)
  | destroyFence (f : FenceName)
  /-- a `vk::Buffer` is constructed; an old one of this name is replaced and destroyed -/
  | createBuffer (b : BufferName) (size : Nat)
  /-- a `vk::Buffer` is destroyed, if there is one -/
  | destroyBuffer (b : BufferName)
  /-- `Buffer::write`: map, copy, unmap -/
  | write (b : BufferName) (bytes : List UInt8)
  /-- `scratch_buf.record()` -/
  | record
  | command (c : TransferCommand)
  /-- the `CommandBufferRecording` is destroyed -/
  | endRecording
  | submit (f : FenceName)
  /-- `scratch_buf.reset()` -/
  | reset
deriving DecidableEq, Repr

namespace TransferState

variable (s : TransferState)

/-- A buffer that a pending command uses. -/
def InUse (b : BufferName) : Prop :=
  ∃ p, s.pending = some p ∧ ∃ c ∈ p.commands, b ∈ c.buffers

/-- A fence that a pending submission will signal. -/
def Awaited (f : FenceName) : Prop := ∃ p, s.pending = some p ∧ p.fence = f

/-- What the driver, and the assertions of the wrappers, ask of a call. -/
def Valid : HostCall → Prop
  | .createFence f => s.fences f = none
  | .signal f => (s.fences f).isSome ∧ ¬ s.Awaited f
  | .waitFor f => (s.fences f).isSome ∧ (s.fences f = some ⟨true⟩ ∨ s.Awaited f)
  | .destroyFence f => (s.fences f).isSome ∧ ¬ s.Awaited f
  | .createBuffer b size => 0 < size ∧ ¬ s.InUse b
  | .destroyBuffer b => ¬ s.InUse b
  | .write b bytes => (∃ x, s.memory.buffers b = some x ∧ bytes.length ≤ x.size) ∧ ¬ s.InUse b
  | .record => (∀ cs, s.scratchBuf ≠ .recording cs) ∧ s.pending = none
  | .command _ => ∃ cs, s.scratchBuf = .recording cs
  | .endRecording => ∃ cs, s.scratchBuf = .recording cs
  | .submit f => s.fences f = some ⟨false⟩ ∧ s.pending = none ∧
      ∃ cs, s.scratchBuf = .executable cs ∧ s.memory.ExecutesAll cs
  | .reset => (∀ cs, s.scratchBuf ≠ .recording cs) ∧ s.pending = none

/-- A wait returns when the fence is signalled; no other call blocks. -/
def Ready : HostCall → Prop
  | .waitFor f => s.fences f = some ⟨true⟩
  | _ => True

instance : ∀ c, Decidable (s.Ready c)
  | .waitFor _ => inferInstanceAs (Decidable (_ = _))
  | .createFence _ | .signal _ | .destroyFence _ | .createBuffer _ _ | .destroyBuffer _
  | .write _ _ | .record | .command _ | .endRecording | .submit _ | .reset =>
      inferInstanceAs (Decidable True)

def call : HostCall → TransferState
  | .createFence f => { s with fences := Function.update s.fences f (some Fence.create) }
  | .signal f => { s with fences := Function.update s.fences f ((s.fences f).map Fence.signal) }
  | .waitFor _ => s
  | .destroyFence f => { s with fences := Function.update s.fences f none }
  | .createBuffer b size => { s with memory := s.memory.setBuffer b (some (Buffer.create size)) }
  | .destroyBuffer b => { s with memory := s.memory.setBuffer b none }
  | .write b bytes =>
      { s with
        memory := s.memory.setBuffer b
          ((s.memory.buffers b).map fun x => x.memcpy 0 (bytes.map some)) }
  | .record => { s with scratchBuf := .recording [] }
  | .command c =>
      match s.scratchBuf with
      | .recording cs => { s with scratchBuf := .recording (cs ++ [c]) }
      | _ => s
  | .endRecording =>
      match s.scratchBuf with
      | .recording cs => { s with scratchBuf := .executable cs }
      | _ => s
  | .submit f =>
      match s.scratchBuf with
      | .executable cs => { s with pending := some ⟨cs, f⟩ }
      | _ => s
  | .reset => { s with scratchBuf := .initial }

/-- The GPU executes the next command, or signals the fence when there is none left. -/
def work : Option TransferState :=
  match s.pending with
  | none => none
  | some ⟨[], f⟩ => some { s with
      fences := Function.update s.fences f (some ⟨true⟩)
      pending := none }
  | some ⟨c :: cs, f⟩ => some { s with
      memory := s.memory.execute c
      pending := some ⟨cs, f⟩ }

end TransferState

/-- The host and the GPU. -/
def transfers : HostDevice TransferState HostCall where
  Valid := TransferState.Valid
  Ready := TransferState.Ready
  call := TransferState.call
  work := TransferState.work

instance (s : TransferState) (c : HostCall) : Decidable (transfers.Ready s c) :=
  inferInstanceAs (Decidable (s.Ready c))

/-! ## the calls of a transfer -/

/-- Create a staging buffer, write it, and record commands. -/
def stagingCalls (bytes : List UInt8) (commands : List TransferCommand) : List HostCall :=
  .createBuffer .staging bytes.length :: .write .staging bytes :: .record ::
    (commands.map .command ++ [.endRecording])

/-- Submit, wait, and leave the scope of the staging buffer. -/
def submitCalls (f : FenceName) : List HostCall :=
  [.submit f, .waitFor f, .destroyBuffer .staging]

/-- A transfer: the fence is reset right before the submission. -/
def transferCalls (bytes : List UInt8) (commands : List TransferCommand) (f : FenceName) :
    List HostCall :=
  stagingCalls bytes commands ++ .signal f :: submitCalls f

namespace TransferState

variable {s : TransferState}

/-- With nothing pending no buffer is in use. -/
theorem not_inUse (h : s.pending = none) (b : BufferName) : ¬ s.InUse b := by
  rintro ⟨p, hp, -⟩
  rw [h] at hp
  cases hp

/-- With nothing pending no fence is waited for. -/
theorem not_awaited (h : s.pending = none) (f : FenceName) : ¬ s.Awaited f := by
  rintro ⟨p, hp, -⟩
  rw [h] at hp
  cases hp

/-- With nothing pending the GPU is idle. -/
theorem work_eq_none (h : s.pending = none) : transfers.work s = none := by
  show s.work = none
  rw [work, h]

end TransferState

section Finishes

open HostDevice

variable {Q : TransferState → Prop} {s : TransferState} {rest : List HostCall}
  {commands : List TransferCommand} {f : FenceName}

/-- A call with nothing pending. -/
theorem finishes_host {c : HostCall} (hpending : s.pending = none) (hvalid : s.Valid c)
    (hready : s.Ready c) (h : transfers.Finishes Q ⟨s.call c, rest⟩) :
    transfers.Finishes Q ⟨s, c :: rest⟩ :=
  finishes_call (TransferState.work_eq_none hpending) hvalid hready h

/-- The commands are recorded in order. -/
theorem finishes_commands {recorded : List TransferCommand} (hpending : s.pending = none)
    (hrecording : s.scratchBuf = .recording recorded)
    (h : transfers.Finishes Q ⟨{ s with scratchBuf := .recording (recorded ++ commands) }, rest⟩) :
    transfers.Finishes Q ⟨s, commands.map .command ++ rest⟩ := by
  induction commands generalizing s recorded with
  | nil =>
      have heq : ({ s with scratchBuf := .recording (recorded ++ []) } : TransferState) = s := by
        rw [List.append_nil, ← hrecording]
      rwa [heq] at h
  | cons c commands ih =>
      refine finishes_host hpending ⟨recorded, hrecording⟩ trivial ?_
      have hcall : s.call (.command c) = { s with scratchBuf := .recording (recorded ++ [c]) } := by
        rw [TransferState.call, hrecording]
      rw [hcall]
      refine ih hpending rfl ?_
      rwa [List.append_assoc, List.singleton_append]

/-- The GPU executes what is pending while the host waits. -/
theorem finishes_wait (hpending : s.pending = some ⟨commands, f⟩)
    (hfence : s.fences f = some ⟨false⟩)
    (h : transfers.Finishes Q
      ⟨{ s with
          memory := commands.foldl DeviceMemory.execute s.memory
          fences := Function.update s.fences f (some ⟨true⟩)
          pending := none }, rest⟩) :
    transfers.Finishes Q ⟨s, .waitFor f :: rest⟩ := by
  have hvalid : s.Valid (.waitFor f) := ⟨by rw [hfence]; rfl, Or.inr ⟨_, hpending, rfl⟩⟩
  have hblocked : ¬ transfers.Ready s (.waitFor f) := by
    show ¬ s.fences f = some ⟨true⟩
    simp [hfence]
  -- one command a turn, and a last turn for the fence
  induction commands generalizing s with
  | nil =>
      have hwork : transfers.work s = some { s with
          fences := Function.update s.fences f (some ⟨true⟩), pending := none } := by
        show s.work = _
        rw [TransferState.work, hpending]
      refine finishes_blocked hwork hvalid hblocked ?_
      have hsignalled : Function.update s.fences f (some ⟨true⟩) f = some ⟨true⟩ :=
        Function.update_self ..
      exact finishes_host rfl ⟨by simp, Or.inl hsignalled⟩ hsignalled h
  | cons c commands ih =>
      have hwork : transfers.work s = some { s with
          memory := s.memory.execute c, pending := some ⟨commands, f⟩ } := by
        show s.work = _
        rw [TransferState.work, hpending]
      exact finishes_blocked hwork hvalid hblocked
        (ih rfl hfence h ⟨hvalid.1, Or.inr ⟨_, rfl, rfl⟩⟩ hblocked)

/-- The staging buffer is created and written, and the commands are recorded. -/
theorem finishes_staging {bytes : List UInt8} (hpending : s.pending = none)
    (hrecording : ∀ cs, s.scratchBuf ≠ .recording cs) (hbytes : bytes ≠ [])
    (h : transfers.Finishes Q
      ⟨{ s with
          memory := s.memory.setBuffer .staging (some ⟨bytes.map some⟩)
          scratchBuf := .executable commands }, rest⟩) :
    transfers.Finishes Q ⟨s, stagingCalls bytes commands ++ rest⟩ := by
  have hsize : 0 < bytes.length := List.length_pos_iff.mpr hbytes
  rw [stagingCalls, List.cons_append, List.cons_append, List.cons_append, List.append_assoc]
  refine finishes_host hpending ⟨hsize, TransferState.not_inUse hpending _⟩ trivial ?_
  have hbuffer : (s.call (.createBuffer .staging bytes.length)).memory.buffers .staging =
      some (Buffer.create bytes.length) := by
    simp [TransferState.call]
  refine finishes_host hpending ⟨⟨_, hbuffer, by simp⟩, TransferState.not_inUse hpending _⟩
    trivial ?_
  have hwritten : (s.call (.createBuffer .staging bytes.length)).call (.write .staging bytes) =
      { s with memory := s.memory.setBuffer .staging (some ⟨bytes.map some⟩) } := by
    have hfill : (Buffer.create bytes.length).memcpy 0 (bytes.map some) = ⟨bytes.map some⟩ :=
      Buffer.memcpy_all _ (by simp)
    simp [TransferState.call, hfill]
  rw [hwritten]
  refine finishes_host hpending ⟨hrecording, hpending⟩ trivial ?_
  refine finishes_commands hpending rfl ?_
  exact finishes_host hpending ⟨_, rfl⟩ trivial h

/-- The commands are submitted and executed, and the staging buffer goes. -/
theorem finishes_submit (hpending : s.pending = none) (hfence : s.fences f = some ⟨false⟩)
    (hcommands : s.scratchBuf = .executable commands) (hexecutes : s.memory.ExecutesAll commands)
    (h : transfers.Finishes Q
      ⟨{ s with
          memory := (commands.foldl DeviceMemory.execute s.memory).setBuffer .staging none
          fences := Function.update s.fences f (some ⟨true⟩) }, rest⟩) :
    transfers.Finishes Q ⟨s, submitCalls f ++ rest⟩ := by
  refine finishes_host hpending ⟨hfence, hpending, commands, hcommands, hexecutes⟩ trivial ?_
  have hcall : s.call (.submit f) = { s with pending := some ⟨commands, f⟩ } := by
    rw [TransferState.call, hcommands]
  rw [hcall]
  refine finishes_wait rfl hfence ?_
  refine finishes_host rfl (TransferState.not_inUse rfl _) trivial ?_
  rw [← hpending]
  exact h

end Finishes

/-! ## between transfers -/

/-- Nothing is pending or being recorded; the memory is as given, and so are the fences there
are. -/
structure Between (memory : DeviceMemory) (live : FenceName → Bool) (s : TransferState) :
    Prop where
  pending : s.pending = none
  notRecording : ∀ cs, s.scratchBuf ≠ .recording cs
  memory : s.memory = memory
  live : ∀ f, (s.fences f).isSome = live f

namespace Between

variable {memory : DeviceMemory} {live : FenceName → Bool} {s : TransferState}

/-- A fence that is there may be reset or signalled. -/
theorem isSome_update (h : Between memory live s) {f : FenceName} (hf : live f = true)
    (fence : Fence) (g : FenceName) :
    (Function.update s.fences f (some fence) g).isSome = live g := by
  by_cases hg : g = f
  · rw [hg, Function.update_self, hf]
    rfl
  · rw [Function.update_of_ne hg, h.live]

/-- A fence that is there can be reset. -/
theorem finishes_signal {Q : TransferState → Prop} {rest : List HostCall}
    (h : Between memory live s) {f : FenceName} (hf : live f = true)
    (hrest : ∀ s', Between memory live s' → s'.scratchBuf = s.scratchBuf →
      s'.fences f = some ⟨false⟩ → transfers.Finishes Q ⟨s', rest⟩) :
    transfers.Finishes Q ⟨s, .signal f :: rest⟩ := by
  have hsome : (s.fences f).isSome := (h.live f).trans hf
  obtain ⟨fence, hfence⟩ := Option.isSome_iff_exists.mp hsome
  have hcall : s.call (.signal f) =
      { s with fences := Function.update s.fences f (some ⟨false⟩) } := by
    rw [TransferState.call, hfence]
    rfl
  refine finishes_host h.pending ⟨hsome, TransferState.not_awaited h.pending f⟩ trivial ?_
  rw [hcall]
  exact hrest _ ⟨h.pending, h.notRecording, h.memory, h.isSome_update hf _⟩ rfl
    (Function.update_self ..)

end Between

section Runs

open HostDevice

variable {memory : DeviceMemory} {live : FenceName → Bool}

/-- The scratch command buffer is reset. -/
theorem runs_reset : transfers.Runs (Between memory live) [.reset] (Between memory live) :=
  .call (fun _ h => TransferState.work_eq_none h.pending)
    (fun _ h => ⟨h.notRecording, h.pending⟩) (fun _ _ => trivial)
    fun _ h => ⟨h.pending, by simp [transfers, TransferState.call], h.memory, h.live⟩

/-- A fence is reset. -/
theorem runs_signal {f : FenceName} (hf : live f = true) :
    transfers.Runs (Between memory live) [.signal f] (Between memory live) :=
  fun _ _ _ hs hrest => hs.finishes_signal hf fun s' hs' _ _ => hrest s' hs'

/-- A fence that is not there is created. -/
theorem runs_createFence {f : FenceName} (hf : live f = false) :
    transfers.Runs (Between memory live) [.createFence f]
      (Between memory (Function.update live f true)) := by
  refine .call (fun _ h => TransferState.work_eq_none h.pending) (fun s h => ?_)
    (fun _ _ => trivial) fun s h => ⟨h.pending, h.notRecording, h.memory, fun g => ?_⟩
  · show s.fences f = none
    rw [← Option.isNone_iff_eq_none, ← Option.not_isSome, h.live, hf]
    rfl
  · show (Function.update s.fences f (some Fence.create) g).isSome = _
    by_cases hg : g = f
    · rw [hg, Function.update_self, Function.update_self]
      rfl
    · rw [Function.update_of_ne hg, Function.update_of_ne hg, h.live]

/-- A fence that is there is destroyed. -/
theorem runs_destroyFence {f : FenceName} (hf : live f = true) :
    transfers.Runs (Between memory live) [.destroyFence f]
      (Between memory (Function.update live f false)) := by
  refine .call (fun _ h => TransferState.work_eq_none h.pending)
    (fun s h => ⟨(h.live f).trans hf, TransferState.not_awaited h.pending f⟩)
    (fun _ _ => trivial) fun s h => ⟨h.pending, h.notRecording, h.memory, fun g => ?_⟩
  show (Function.update s.fences f none g).isSome = _
  by_cases hg : g = f
  · rw [hg, Function.update_self, Function.update_self]
    rfl
  · rw [Function.update_of_ne hg, Function.update_of_ne hg, h.live]

/-- A buffer is created, or replaced. -/
theorem runs_createBuffer {b : BufferName} {size : Nat} (hsize : 0 < size) :
    transfers.Runs (Between memory live) [.createBuffer b size]
      (Between (memory.setBuffer b (some (Buffer.create size))) live) :=
  .call (fun _ h => TransferState.work_eq_none h.pending)
    (fun _ h => ⟨hsize, TransferState.not_inUse h.pending b⟩) (fun _ _ => trivial)
    fun _ h => ⟨h.pending, h.notRecording, by rw [← h.memory]; rfl, h.live⟩

/-- A buffer is destroyed, if there is one. -/
theorem runs_destroyBuffer (b : BufferName) :
    transfers.Runs (Between memory live) [.destroyBuffer b]
      (Between (memory.setBuffer b none) live) :=
  .call (fun _ h => TransferState.work_eq_none h.pending)
    (fun _ h => TransferState.not_inUse h.pending b) (fun _ _ => trivial)
    fun _ h => ⟨h.pending, h.notRecording, by rw [← h.memory]; rfl, h.live⟩

/-- Bytes are written to the front of a buffer that is large enough. -/
theorem runs_write {b : BufferName} {buffer : Buffer UInt8} {bytes : List UInt8}
    (hbuffer : memory.buffers b = some buffer) (hsize : bytes.length ≤ buffer.size) :
    transfers.Runs (Between memory live) [.write b bytes]
      (Between (memory.setBuffer b (some (buffer.memcpy 0 (bytes.map some)))) live) := by
  refine .call (fun _ h => TransferState.work_eq_none h.pending)
    (fun s h => ⟨⟨buffer, by rw [h.memory, hbuffer], hsize⟩, TransferState.not_inUse h.pending b⟩)
    (fun _ _ => trivial) fun s h => ⟨h.pending, h.notRecording, ?_, h.live⟩
  show s.memory.setBuffer b ((s.memory.buffers b).map _) = _
  rw [h.memory, hbuffer]
  rfl

/-- What a transfer leaves of the memory. -/
def transferred (memory : DeviceMemory) (bytes : List UInt8) (commands : List TransferCommand) :
    DeviceMemory :=
  (commands.foldl DeviceMemory.execute
    (memory.setBuffer .staging (some ⟨bytes.map some⟩))).setBuffer .staging none

/-- The staging buffer is written and the commands are recorded, submitted with a fence that
is reset before or after that, and waited for. -/
theorem runs_transfer {bytes : List UInt8} {commands : List TransferCommand} {f : FenceName}
    (hf : live f = true) (hbytes : bytes ≠ [])
    (hexecutes :
      (memory.setBuffer .staging (some ⟨bytes.map some⟩)).ExecutesAll commands) :
    transfers.Runs (Between memory live) (transferCalls bytes commands f)
      (Between (transferred memory bytes commands) live) := by
  intro Q s rest hs hrest
  rw [transferCalls, List.append_assoc]
  refine finishes_staging hs.pending hs.notRecording hbytes ?_
  have hstaged : Between (memory.setBuffer .staging (some ⟨bytes.map some⟩)) live
      { s with
        memory := s.memory.setBuffer .staging (some ⟨bytes.map some⟩)
        scratchBuf := .executable commands } :=
    ⟨hs.pending, by simp, by rw [hs.memory], hs.live⟩
  refine hstaged.finishes_signal hf fun s' hs' hcommands hfence => ?_
  refine finishes_submit hs'.pending hfence hcommands (hs'.memory ▸ hexecutes) (hrest _ ?_)
  exact ⟨hs'.pending, by simp [hcommands], by rw [hs'.memory]; rfl, hs'.isSome_update hf _⟩

/-- The same transfer with the fence reset before the staging buffer is created. -/
theorem runs_signal_transfer {bytes : List UInt8} {commands : List TransferCommand}
    {f : FenceName} (hf : live f = true) (hbytes : bytes ≠ [])
    (hexecutes :
      (memory.setBuffer .staging (some ⟨bytes.map some⟩)).ExecutesAll commands) :
    transfers.Runs (Between memory live)
      (.signal f :: (stagingCalls bytes commands ++ submitCalls f))
      (Between (transferred memory bytes commands) live) := by
  intro Q s rest hs hrest
  rw [List.cons_append, List.append_assoc]
  refine hs.finishes_signal hf fun s' hs' _ hfence => ?_
  refine finishes_staging hs'.pending hs'.notRecording hbytes ?_
  refine finishes_submit hs'.pending hfence rfl (hs'.memory ▸ hexecutes) (hrest _ ?_)
  exact ⟨hs'.pending, by simp, by rw [hs'.memory]; rfl, hs'.isSome_update hf _⟩

end Runs

/-! ## filling a buffer -/

/-- The command that fills a buffer from the staging buffer. -/
def fillCommands (b : BufferName) (bytes : List UInt8) : List TransferCommand :=
  [.copyBuffer .staging b bytes.length]

section Fill

variable {memory : DeviceMemory} {b : BufferName} {buffer : Buffer UInt8} {bytes : List UInt8}

/-- A buffer of the right size can be filled. -/
theorem executesAll_fill (hb : b ≠ .staging) (hbuffer : memory.buffers b = some buffer)
    (hsize : buffer.size = bytes.length) (hbytes : bytes ≠ []) :
    (memory.setBuffer .staging (some ⟨bytes.map some⟩)).ExecutesAll (fillCommands b bytes) := by
  refine ⟨⟨List.length_pos_iff.mpr hbytes, ⟨⟨bytes.map some⟩, by simp, ?_⟩, buffer, ?_, ?_⟩, trivial⟩
  · simp [Buffer.size]
  · simp [hb, hbuffer]
  · exact hsize.ge

/-- The buffer then holds the bytes, and nothing else has changed. -/
theorem transferred_fill (hb : b ≠ .staging) (hstaging : memory.buffers .staging = none)
    (hbuffer : memory.buffers b = some buffer) (hsize : buffer.size = bytes.length) :
    transferred memory bytes (fillCommands b bytes) =
      memory.setBuffer b (some ⟨bytes.map some⟩) := by
  have hread : (⟨bytes.map some⟩ : Buffer UInt8).read 0 bytes.length = bytes.map some := by
    have hall := Buffer.read_size (⟨bytes.map some⟩ : Buffer UInt8)
    rwa [Buffer.size, List.length_map] at hall
  have hfill : buffer.memcpy 0 (bytes.map some) = ⟨bytes.map some⟩ :=
    buffer.memcpy_all (by rw [List.length_map, hsize])
  have hexecute : transferred memory bytes (fillCommands b bytes) =
      ((memory.setBuffer .staging (some ⟨bytes.map some⟩)).setBuffer b
        (some ⟨bytes.map some⟩)).setBuffer .staging none := by
    simp [transferred, fillCommands, DeviceMemory.execute, hb, hbuffer, hread, hfill]
  rw [hexecute]
  -- the staging buffer comes and goes
  simp only [DeviceMemory.setBuffer, DeviceMemory.mk.injEq, and_true]
  funext b'
  by_cases hstage : b' = .staging
  · simp [hstage, hb.symm, hstaging]
  · simp [hstage, Function.update_apply]

end Fill

end Vk
end Topaz
