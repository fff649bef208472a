import Mathlib.Algebra.Ring.Nat
import Mathlib.Data.List.Nodup
import Topaz.Machine

/-!
# Topaz.Vk.CommandPool

`vk::CommandPool`: buffers whose handles the driver allocates.

`with(count)` gathers the handles of all buffers, old and new, in one array, lets the
driver write the new handles at the *start* of it, and copies the array back over all
buffers (`natives_withCount`).  On an empty pool that is what it should be; otherwise the
first old buffers get the new handles and the last new ones stay null.  The renderer
clears its pool before each allocation (`initialiseAll_safe`).
-/

namespace Topaz
namespace Vk

/-- A `VkCommandBuffer`; `VK_NULL_HANDLE` is zero. -/
abbrev VkCommandBuffer := Nat

structure CommandBuffer where
  commandBuffer : VkCommandBuffer
  currentlyRecording : Bool
deriving DecidableEq, Repr

namespace CommandBuffer

/-- The constructor: the pool fills in the handle. -/
def new : CommandBuffer := ⟨0, false⟩

def native (buffer : CommandBuffer) : VkCommandBuffer := buffer.commandBuffer

end CommandBuffer

/-- The buffers of a `CommandPool`, on which its other members have no influence. -/
structure CommandPool where
  buffers : List CommandBuffer
deriving DecidableEq, Repr

namespace CommandPool

/-! ## allocation -/

def new : CommandPool := ⟨[]⟩

def empty (pool : CommandPool) : Bool := pool.buffers.isEmpty

def getBufferNatives (pool : CommandPool) : List VkCommandBuffer :=
  pool.buffers.map CommandBuffer.native

/-- `vkAllocateCommandBuffers` writes handles from the start of an array. -/
def vkAllocateCommandBuffers (handles array : List VkCommandBuffer) : List VkCommandBuffer :=
  handles ++ array.drop handles.length

/-- `with`, when the driver writes `handles`: the pool, and the index that is returned. -/
def withCount (pool : CommandPool) (count : Nat) (handles : List VkCommandBuffer) :
    CommandPool × Nat :=
  let index := pool.buffers.length
  let buffers := pool.buffers ++ List.replicate count CommandBuffer.new
  let bufferNatives := vkAllocateCommandBuffers handles (getBufferNatives ⟨buffers⟩)
  (⟨List.zipWith (fun buffer native => { buffer with commandBuffer := native })
    buffers bufferNatives⟩, index)

/-- The `commandBufferCount` of a request has 32 bits. -/
def commandBufferCount (count : Nat) : Nat := count % 2 ^ 32

/-- `clear`: the pool, and the handles that `vkFreeCommandBuffers` is given. -/
def clear (pool : CommandPool) : CommandPool × List VkCommandBuffer :=
  let bufferNatives := pool.getBufferNatives
  (⟨[]⟩, bufferNatives.take (commandBufferCount bufferNatives.length))

/-- A call, with the handles that the driver writes during it. -/
inductive Call where
  | withCount (count : Nat) (handles : List VkCommandBuffer)
  | clear
deriving DecidableEq, Repr

def exec (pool : CommandPool) : Call → CommandPool
  | .withCount count handles => (pool.withCount count handles).1
  | .clear => pool.clear.1

/-- The pool after some calls. -/
def after (calls : List Call) : CommandPool := calls.foldl exec new

/-! ## what the calls should do -/

/-- The handles that the driver has allocated since the last `clear`. -/
def allocated (calls : List Call) : List VkCommandBuffer :=
  calls.foldl (fun handles call =>
    match call with
    | .withCount _ new => handles ++ new
    | .clear => []) []

/-- The driver writes as many handles as it is asked for: fresh, distinct, and none null. -/
structure Fresh (inUse : List VkCommandBuffer) (count : Nat) (handles : List VkCommandBuffer) :
    Prop where
  length : handles.length = commandBufferCount count
  nodup : handles.Nodup
  nonNull : 0 ∉ handles
  disjoint : inUse.Disjoint handles

def DriverFresh (history : List Call) : Call → Prop
  | .withCount count handles => Fresh (allocated history) count handles
  | .clear => True

/-- `count` more buffers, the old ones with the handles they had, all handles distinct and
none null, and the index of the first new buffer returned. -/
structure AllocatesRight (before : CommandPool) (count : Nat) (result : CommandPool × Nat) :
    Prop where
  length : result.1.buffers.length = before.buffers.length + count
  kept : ∃ new : List VkCommandBuffer, result.1.getBufferNatives = before.getBufferNatives ++ new
  nodup : result.1.getBufferNatives.Nodup
  nonNull : 0 ∉ result.1.getBufferNatives
  index : result.2 = before.buffers.length

/-- An allocation is right, and `clear` frees each allocated handle once. -/
def CallRight (history : List Call) : Call → Prop
  | .withCount count handles =>
      AllocatesRight (after history) count ((after history).withCount count handles)
  | .clear => ∀ handle ∈ allocated history, (after history).clear.2.count handle = 1

/-- Buffers are added to an empty pool only, and fewer than 2^32 of them. -/
def CallSafe (history : List Call) : Call → Prop
  | .withCount count _ => count ≠ 0 → (after history).buffers = [] ∧ count < 2 ^ 32
  | .clear => True

/-! ## the handles after an allocation -/

@[simp] theorem length_getBufferNatives (pool : CommandPool) :
    pool.getBufferNatives.length = pool.buffers.length := by simp [getBufferNatives]

theorem getBufferNatives_replicate (pool : CommandPool) (count : Nat) :
    getBufferNatives ⟨pool.buffers ++ List.replicate count CommandBuffer.new⟩ =
      pool.getBufferNatives ++ List.replicate count 0 := by
  simp [getBufferNatives, CommandBuffer.new, CommandBuffer.native]

/-- Copying an array over all buffers. -/
theorem getBufferNatives_zipWith {buffers : List CommandBuffer} {array : List VkCommandBuffer}
    (hlength : array.length = buffers.length) :
    getBufferNatives ⟨List.zipWith (fun buffer native => { buffer with commandBuffer := native })
      buffers array⟩ = array := by
  induction buffers generalizing array with
  | nil => simp [getBufferNatives, List.length_eq_zero_iff.mp hlength]
  | cons buffer buffers ih =>
      cases array with
      | nil => simp at hlength
      | cons native array =>
          have htail := ih (by simpa using hlength)
          simp only [getBufferNatives, List.zipWith_cons_cons, List.map_cons] at htail ⊢
          rw [htail]
          rfl

theorem commandBufferCount_le (count : Nat) : commandBufferCount count ≤ count := Nat.mod_le _ _

/-- The new handles come first, then what they have not overwritten of the old ones and of the
null handles of the new buffers. -/
theorem natives_withCount (pool : CommandPool) {count : Nat} {handles : List VkCommandBuffer}
    (hlength : handles.length = commandBufferCount count) :
    (pool.withCount count handles).1.getBufferNatives =
      handles ++ (pool.getBufferNatives ++ List.replicate count 0).drop handles.length := by
  have hcount := commandBufferCount_le count
  rw [withCount, getBufferNatives_zipWith, vkAllocateCommandBuffers, getBufferNatives_replicate]
  rw [vkAllocateCommandBuffers, getBufferNatives_replicate]
  simp only [List.length_append, List.length_drop, length_getBufferNatives, List.length_replicate]
  omega

@[simp] theorem after_concat (calls : List Call) (call : Call) :
    after (calls ++ [call]) = exec (after calls) call := List.foldl_concat _ _ _ _

@[simp] theorem allocated_withCount (calls : List Call) (count : Nat)
    (handles : List VkCommandBuffer) :
    allocated (calls ++ [Call.withCount count handles]) = allocated calls ++ handles :=
  List.foldl_concat _ _ _ _

@[simp] theorem allocated_clear (calls : List Call) : allocated (calls ++ [Call.clear]) = [] :=
  List.foldl_concat _ _ _ _

/-! ## valid pools -/

/-- The buffers have the handles that were allocated since the last `clear`. -/
structure Valid (pool : CommandPool) (inUse : List VkCommandBuffer) : Prop where
  natives : pool.getBufferNatives = inUse
  nodup : inUse.Nodup
  nonNull : 0 ∉ inUse
  length : inUse.length < 2 ^ 32

theorem Valid.nil : Valid new [] := ⟨rfl, List.nodup_nil, by simp, by simp⟩

section Valid

variable {pool : CommandPool} {inUse handles : List VkCommandBuffer} {count : Nat}

/-- On an empty pool, the buffers get the new handles. -/
theorem natives_of_empty (hempty : pool.buffers = []) (hlt : count < 2 ^ 32)
    (hlength : handles.length = commandBufferCount count) :
    (pool.withCount count handles).1.getBufferNatives = handles := by
  have hcount : handles.length = count := hlength.trans (Nat.mod_eq_of_lt hlt)
  rw [natives_withCount pool hlength]
  simp [getBufferNatives, hempty, hcount]

/-- Nothing is asked for, and nothing changes. -/
theorem natives_of_zero (hlength : handles.length = commandBufferCount 0) :
    (pool.withCount 0 handles).1.getBufferNatives = pool.getBufferNatives := by
  have hnil : handles = [] := List.length_eq_zero_iff.mp hlength
  rw [natives_withCount pool hlength]
  simp [hnil]

/-- A safe allocation keeps the pool valid. -/
theorem Valid.withCount (h : Valid pool inUse) (hfresh : Fresh inUse count handles)
    (hsafe : count ≠ 0 → pool.buffers = [] ∧ count < 2 ^ 32) :
    Valid (pool.withCount count handles).1 (inUse ++ handles) := by
  by_cases hzero : count = 0
  · subst hzero
    have hnil : handles = [] := List.length_eq_zero_iff.mp hfresh.length
    rw [hnil, List.append_nil]
    exact ⟨by rw [natives_of_zero rfl, h.natives], h.nodup, h.nonNull, h.length⟩
  · obtain ⟨hempty, hlt⟩ := hsafe hzero
    have hnil : inUse = [] := by rw [← h.natives, getBufferNatives, hempty, List.map_nil]
    rw [hnil, List.nil_append]
    refine ⟨natives_of_empty hempty hlt hfresh.length, hfresh.nodup, hfresh.nonNull, ?_⟩
    rw [hfresh.length]
    exact Nat.lt_of_le_of_lt (commandBufferCount_le count) hlt

/-- An allocation that is right was safe: the first old buffer would have a new handle, and a
new buffer that the driver has not written would be null. -/
theorem Valid.safe_of_right (h : Valid pool inUse) (hfresh : Fresh inUse count handles)
    (hright : AllocatesRight pool count (pool.withCount count handles)) (hzero : count ≠ 0) :
    pool.buffers = [] ∧ count < 2 ^ 32 := by
  have hnatives := natives_withCount pool hfresh.length
  have hnonNull := hright.nonNull
  rw [hnatives, List.mem_append, not_or] at hnonNull
  -- without new handles the new buffers stay null
  have hhandles : handles ≠ [] := by
    rintro rfl
    exact hnonNull.2 (by simp [hzero])
  -- the first old buffer would get the first new handle, which is not its own
  have hold : pool.getBufferNatives = [] := by
    obtain ⟨new, hkept⟩ := hright.kept
    by_contra hne
    obtain ⟨old, olds, holds⟩ := List.exists_cons_of_ne_nil hne
    obtain ⟨first, rest, rfl⟩ := List.exists_cons_of_ne_nil hhandles
    rw [hnatives, holds, List.cons_append, List.cons_append] at hkept
    obtain ⟨rfl, -⟩ := List.cons.inj hkept
    exact hfresh.disjoint (by simp [← h.natives, holds]) List.mem_cons_self
  have hle : count ≤ handles.length := by
    simpa [hold, Nat.sub_eq_zero_iff_le] using hnonNull.2
  refine ⟨by simpa [getBufferNatives] using hold, ?_⟩
  rw [hfresh.length] at hle
  exact Nat.lt_of_le_of_lt hle (Nat.mod_lt _ (by simp))

theorem Valid.allocatesRight_iff (h : Valid pool inUse) (hfresh : Fresh inUse count handles) :
    AllocatesRight pool count (pool.withCount count handles) ↔
      (count ≠ 0 → pool.buffers = [] ∧ count < 2 ^ 32) := by
  refine ⟨h.safe_of_right hfresh, fun hsafe => ?_⟩
  have hvalid := h.withCount hfresh hsafe
  have hkept := hvalid.natives
  rw [← h.natives] at hkept
  have hlength : handles.length = count := by
    rw [hfresh.length]
    by_cases hzero : count = 0
    · rw [hzero]
      rfl
    · exact Nat.mod_eq_of_lt (hsafe hzero).2
  refine ⟨?_, ⟨handles, hkept⟩, hvalid.natives ▸ hvalid.nodup, hvalid.natives ▸ hvalid.nonNull, rfl⟩
  rw [← length_getBufferNatives, hkept, List.length_append, length_getBufferNatives, hlength]

/-- `clear` frees what is in use. -/
theorem Valid.frees (h : Valid pool inUse) : pool.clear.2 = inUse := by
  rw [clear, h.natives, commandBufferCount, Nat.mod_eq_of_lt h.length, List.take_length]

end Valid

/-! ## histories -/

def ValidAfter (history : List Call) : Prop := Valid (after history) (allocated history)

theorem ValidAfter.nil : ValidAfter [] := Valid.nil

theorem ValidAfter.right_iff_safe {history : List Call} (h : ValidAfter history) {call : Call}
    (hfresh : DriverFresh history call) : CallRight history call ↔ CallSafe history call := by
  cases call with
  | withCount count handles => exact h.allocatesRight_iff hfresh
  | clear =>
      refine iff_of_true (fun handle hhandle => ?_) trivial
      rw [h.frees]
      exact List.count_eq_one_of_mem h.nodup hhandle

theorem ValidAfter.step {history : List Call} (h : ValidAfter history) {call : Call}
    (hfresh : DriverFresh history call) (hsafe : CallSafe history call) :
    ValidAfter (history ++ [call]) := by
  rw [ValidAfter, after_concat]
  cases call with
  | withCount count handles =>
      rw [allocated_withCount]
      exact h.withCount hfresh hsafe
  | clear =>
      rw [allocated_clear]
      exact Valid.nil

/-- **Allocation from a pool**: if the driver returns fresh handles, then every call of a
sequence does what it should exactly when buffers are only ever added to an empty pool, and
fewer than 2^32 of them. -/
theorem command_pool_right_iff {calls : List Call} (hfresh : Always DriverFresh calls) :
    Always CallRight calls ↔ Always CallSafe calls :=
  always_iff ValidAfter.nil (fun _ _ h hfresh => h.right_iff_safe hfresh)
    (fun _ _ h hfresh hsafe => h.step hfresh hsafe) hfresh

/-- A pool that is cleared before it is used again. -/
theorem command_pool_right_cleared :
    Always CallRight [.withCount 2 [1, 2], .clear, .withCount 1 [2]] := by
  have hfresh : Always DriverFresh [.withCount 2 [1, 2], .clear, .withCount 1 [2]] := by
    simp only [always_cons, always_nil, and_true]
    exact ⟨⟨rfl, by decide, by decide, by simp [allocated]⟩, trivial,
      ⟨rfl, by decide, by decide, by simp [allocated]⟩⟩
  refine (command_pool_right_iff hfresh).mpr ?_
  simp only [always_cons, always_nil, and_true]
  exact ⟨fun _ => ⟨rfl, by decide⟩, trivial, fun _ => ⟨rfl, by decide⟩⟩

/-- One buffer and then another: the first has the handle of the second, which is null, and the
handle of the first is never freed. -/
theorem command_pool_overwrites :
    Always DriverFresh [.withCount 1 [1], .withCount 1 [2], .clear] ∧
    (after [.withCount 1 [1], .withCount 1 [2]]).getBufferNatives = [2, 0] ∧
    (after [.withCount 1 [1], .withCount 1 [2]]).clear.2 = [2, 0] ∧
    ¬ Always CallRight [.withCount 1 [1], .withCount 1 [2], .clear] := by
  refine ⟨?_, rfl, rfl, fun h => ?_⟩
  · simp only [always_cons, always_nil, and_true]
    exact ⟨⟨rfl, by decide, by decide, by simp [allocated]⟩,
      ⟨rfl, by decide, by decide, by simp [allocated]⟩, trivial⟩
  · have hright : AllocatesRight _ 1 _ := h [.withCount 1 [1]] (.withCount 1 [2]) [.clear] rfl
    exact hright.nonNull (by decide)

/-! ## the renderer's pool -/

/-- `RendererProcessorVulkan::initialise_command_pool`, as the calls it makes. -/
def initialiseCommandPool (pool : CommandPool) (viewCount : Nat) (handles : List VkCommandBuffer) :
    List Call :=
  let numScratchCommandBufs := 1
  (if pool.empty then [] else [Call.clear]) ++
    [Call.withCount (viewCount + numScratchCommandBufs) handles]

/-- The calls of several initialisations. -/
def initialiseAll (views : List (Nat × List VkCommandBuffer)) : List Call :=
  views.foldl (fun calls view => calls ++ initialiseCommandPool (after calls) view.1 view.2) []

/-- The renderer adds buffers to an empty pool only. -/
theorem initialiseAll_safe {views : List (Nat × List VkCommandBuffer)}
    (hviews : ∀ view ∈ views, view.1 + 1 < 2 ^ 32) : Always CallSafe (initialiseAll views) := by
  induction views using List.reverseRecOn with
  | nil => exact always_nil
  | append_singleton views view ih =>
      have hsafe := ih fun v hv => hviews v (List.mem_append_left _ hv)
      have hcount : view.1 + 1 < 2 ^ 32 := hviews view (by simp)
      have hcalls : initialiseAll (views ++ [view]) = initialiseAll views ++
          initialiseCommandPool (after (initialiseAll views)) view.1 view.2 :=
        List.foldl_concat _ _ _ _
      rw [hcalls, initialiseCommandPool]
      split
      next hempty =>
        rw [List.nil_append, always_concat]
        exact ⟨hsafe, fun _ => ⟨List.isEmpty_iff.mp hempty, hcount⟩⟩
      next =>
        rw [← List.append_assoc, always_concat, always_concat]
        exact ⟨⟨hsafe, trivial⟩, fun _ => ⟨by rw [after_concat]; rfl, hcount⟩⟩

end CommandPool
end Vk
end Topaz
