import Topaz.Vk.Renderer
import Topaz.Vk.Transfer
import Topaz.Texture

/-!
# Topaz.Vk.Scratch

`RendererProcessorVulkan::record_and_run_scratch_commands` and `record_draw_list`, call by
call.

`Topaz.Geometry` and `Topaz.Vk.Renderer` say what is in the buffers of a renderer when it has
been constructed; here is how it gets there.  `scratchCalls` is everything the host asks of
the driver, in order.  In every order in which the host and the GPU can move, the calls are
valid, the host is not left waiting, and the buffers end up with the bytes of what
`Vk.staticGeometry` and `RendererVulkan.create` have in them (`runs_scratchCalls`).

The textures end up in the layout that shaders read them in, without their texels: the second
barrier of each upload starts from `Undefined` again (see `Topaz.Vk.Image`).
-/

namespace Topaz
namespace Vk

/-! ## bytes -/

/-- The bytes of an `unsigned int`, the least significant first. -/
def wordBytes (x : BitVec 32) : List UInt8 :=
  (List.range 4).map fun i => UInt8.ofBitVec (x.extractLsb' (8 * i) 8)

/-- The bytes of a draw command, in the order of its fields. -/
def commandBytes (cmd : DrawIndirectCommand) : List UInt8 :=
  [cmd.count, cmd.instanceCount, cmd.firstIndex, cmd.baseVertex, cmd.baseInstance].flatMap
    wordBytes

/-- `sizeof(DrawIndirectCommand)`. -/
def sizeofDrawIndirectCommand : Nat := 20

/-- Encodings of a fixed width. -/
theorem length_flatMap_of_length {α β : Type} {f : α → List β} {n : Nat}
    (h : ∀ x, (f x).length = n) (xs : List α) : (xs.flatMap f).length = xs.length * n := by
  induction xs with
  | nil => simp
  | cons x xs ih =>
      rw [List.flatMap_cons, List.length_append, h, ih, List.length_cons, Nat.succ_mul,
        Nat.add_comm]

theorem flatMap_ne_nil_of_length {α β : Type} {f : α → List β} {n : Nat}
    (h : ∀ x, (f x).length = n) (hn : 0 < n) {xs : List α} (hxs : xs ≠ []) :
    xs.flatMap f ≠ [] := by
  rw [← List.length_pos_iff, length_flatMap_of_length h]
  exact Nat.mul_pos (List.length_pos_iff.mpr hxs) hn

theorem length_wordBytes (x : BitVec 32) : (wordBytes x).length = 4 := by
  simp [wordBytes]

theorem length_commandBytes (cmd : DrawIndirectCommand) :
    (commandBytes cmd).length = sizeofDrawIndirectCommand :=
  length_flatMap_of_length length_wordBytes _

/-! ## the calls -/

/-- `draw_indirect_buffer` and `draw_indirect_dynamic_buffer`. -/
def indirectName : RendererInputDataAccess → BufferName
  | .staticFixed => .drawIndirectBuffer
  | .dynamicFixed => .drawIndirectDynamicBuffer

/-- `draw_staging` and `draw_staging_dynamic`. -/
def drawStagingName : RendererInputDataAccess → BufferName
  | .staticFixed => .drawStaging
  | .dynamicFixed => .drawStagingDynamic

/-- The commands that the loop over the inputs writes to a draw staging buffer; it counts in
`std::uint32_t`. -/
def stagedDraws (inputs : List RendererInput) (a : RendererInputDataAccess) :
    List DrawIndirectCommand :=
  (((drawTables 32 inputs).of a).draws.map Prod.snd).reverse

def createDrawStaging (inputs : List RendererInput) (a : RendererInputDataAccess) :
    List HostCall :=
  if 0 < numInputsOf a inputs then
    [.createBuffer (drawStagingName a)
      (BitVec.ofNat 64 sizeofDrawIndirectCommand * numInputsOf a inputs).toNat]
  else []

/-- The draw staging buffer is mapped, filled and unmapped.  It is never read. -/
def fillDrawStaging (inputs : List RendererInput) (a : RendererInputDataAccess) :
    List HostCall :=
  if 0 < numInputsOf a inputs then
    [.write (drawStagingName a) ((stagedDraws inputs a).flatMap commandBytes)]
  else []

/-- Part 1 and part 2: the vertices, and the indices. -/
def transferInputs (inputs : List RendererInput) : List HostCall :=
  let s := scratchUpload inputs
  let indexData := s.totalIndices.flatMap wordBytes
  if 0 < s.indexCountSoFar then
    .signal .scratch :: (stagingCalls s.totalVertices
        (fillCommands .vertexBuffer s.totalVertices) ++ submitCalls .scratch) ++
      (.reset :: transferCalls indexData (fillCommands .indexBuffer indexData) .scratch) ++
      [.reset]
  else []

/-- Give an access a new indirect buffer, or none if there are no commands. -/
def replaceIndirect (a : RendererInputDataAccess) (cmds : List DrawIndirectCommand) :
    List HostCall :=
  let bytes := cmds.flatMap commandBytes
  if cmds.isEmpty then [.destroyBuffer (indirectName a)]
  else
    .createBuffer (indirectName a) (cmds.length * sizeofDrawIndirectCommand) ::
      transferCalls bytes (fillCommands (indirectName a) bytes) .drawList

/-- The calls of `record_draw_list`. -/
def recordDrawListCalls (inputs : List RendererInput) (drawCache draws : RendererDrawList) :
    List HostCall :=
  if drawCache = draws then []
  else
    let d := internalDraws inputs draws
    [.createFence .drawList, .signal .drawList] ++
      replaceIndirect .staticFixed d.internalDraws ++
      replaceIndirect .dynamicFixed d.internalDrawsDynamic ++
      [.destroyFence .drawList]

/-- The upload of a buffer resource. -/
def transferComponent (resource : Resource) (i : Nat) : List HostCall :=
  match resource.dataAccess with
  | .staticFixed =>
      .reset :: transferCalls resource.bytes (fillCommands (.component i) resource.bytes) .scratch
  | .dynamicFixed => []

/-- A command of an image upload, which copies `size` bytes from the staging buffer. -/
def imageTransfer (size : Nat) : ImageCommand → TransferCommand
  | .pipelineBarrier barrier => .pipelineBarrier barrier
  | .copyBufferToImage image aspectMask => .copyBufferToImage .staging image aspectMask size

/-- The upload of a texture resource. -/
def transferTexture (resource : TextureResource) (i : Nat) : List HostCall :=
  .reset :: transferCalls resource.data.imageData
    ((ImageRecording.start.uploadTexture i).commands.map (imageTransfer (uploadReads resource)))
    .scratch

/-- The scope of the inputs; it ends with the destruction of the draw staging buffers. -/
def scratchInputs (inputs : List RendererInput) : List HostCall :=
  createDrawStaging inputs .staticFixed ++ createDrawStaging inputs .dynamicFixed ++
    fillDrawStaging inputs .staticFixed ++ fillDrawStaging inputs .dynamicFixed ++
    (transferInputs inputs ++
      recordDrawListCalls inputs [] (allInputsOnce inputs) ++
      [.destroyBuffer .drawStagingDynamic, .destroyBuffer .drawStaging])

/-- The calls of `record_and_run_scratch_commands`. -/
def scratchCalls (inputs : List RendererInput) (components : List Resource)
    (textures : List TextureResource) : List HostCall :=
  [.createFence .scratch, .signal .scratch] ++
    scratchInputs inputs ++
    components.zipIdx.flatMap (fun x => transferComponent x.1 x.2) ++
    textures.zipIdx.flatMap (fun x => transferTexture x.1 x.2) ++
    [.destroyFence .scratch]

/-! ## what is there before -/

/-- The buffer of a buffer resource, as `setup_buffers` leaves it: a dynamic one has been
handed to its resource, which copied its bytes there. -/
def componentBuffer (resource : Resource) : Buffer UInt8 :=
  match resource.dataAccess with
  | .staticFixed => Buffer.create resource.bytes.length
  | .dynamicFixed => (Buffer.create resource.bytes.length).memcpy 0 (resource.bytes.map some)

/-- The aspect of the images of a format, as `ImageView` has it. -/
def ImageFormat.aspect : ImageFormat → ImageAspect
  | depthFloat32 => .depth
  | _ => .colour

/-- The image of a texture in a layout, with nothing known of its texels. -/
def textureImage (texture : TextureResource) (layout : ImageLayout) : DeviceImage :=
  ⟨(imageFormat texture.format).aspect, layout, Buffer.create (uploadReads texture)⟩

/-- The indirect buffer of a renderer, in bytes. -/
def indirectBytes (b : IndirectBuffer) : Buffer UInt8 :=
  b.contents.encode commandBytes sizeofDrawIndirectCommand

/-- The objects that are there when the scratch commands are run: those of
`setup_buffers` and `initialise_resources`, and the indirect buffers the processor was
constructed with. -/
def constructedMemory (config : RendererConfig) (components : List Resource)
    (textures : List TextureResource) : DeviceMemory where
  buffers
    | .vertexBuffer =>
        let c := compileInputs 4 config.inputs
        if c.anyStaticGeometry then some (Buffer.create c.staticVertexBytes.length) else none
    | .indexBuffer =>
        let c := compileInputs 4 config.inputs
        if c.anyStaticGeometry then some (Buffer.create (c.staticIndices.length * 4)) else none
    | .drawIndirectBuffer =>
        (RendererVulkan.members config).drawIndirectBuffer.map indirectBytes
    | .drawIndirectDynamicBuffer =>
        (RendererVulkan.members config).drawIndirectDynamicBuffer.map indirectBytes
    | .component i => components[i]?.map componentBuffer
    | .drawStaging | .drawStagingDynamic | .staging => none
  images i := textures[i]?.map fun texture => textureImage texture .undefined

/-- The state in which `record_and_run_scratch_commands` is called. -/
def scratchStart (config : RendererConfig) (components : List Resource)
    (textures : List TextureResource) : TransferState where
  memory := constructedMemory config components textures
  fences := fun _ => none
  scratchBuf := .initial
  pending := none

/-! ## what is there afterwards -/

/-- The objects of a constructed renderer.  What its textures hold is not known: the upload has
discarded it. -/
def createdMemory (config : RendererConfig) (components : List Resource)
    (textures : List TextureResource) : DeviceMemory where
  buffers
    | .vertexBuffer => (staticGeometry config.inputs).vertexBuffer
    | .indexBuffer => (staticGeometry config.inputs).indexBuffer.map (Buffer.encode wordBytes 4)
    | .drawIndirectBuffer => (RendererVulkan.create config).drawIndirectBuffer.map indirectBytes
    | .drawIndirectDynamicBuffer =>
        (RendererVulkan.create config).drawIndirectDynamicBuffer.map indirectBytes
    | .component i => components[i]?.map fun resource => ⟨resource.bytes.map some⟩
    | .drawStaging | .drawStagingDynamic | .staging => none
  images i := textures[i]?.map fun texture => textureImage texture .shaderResource

/-- What the driver asks of the data: no buffer is empty, and textures have the bytes that the
copy to their image reads, and are colours, the one aspect that the commands work on. -/
structure Uploadable (inputs : List RendererInput) (components : List Resource)
    (textures : List TextureResource) : Prop where
  inputs_lt : inputs.length < 2 ^ 31
  vertices : inputs.flatMap (RendererInput.indicesIn .staticFixed) ≠ [] →
    inputs.flatMap (RendererInput.verticesIn .staticFixed) ≠ []
  components : ∀ resource ∈ components, resource.bytes ≠ []
  textures : ∀ texture ∈ textures,
    0 < uploadReads texture ∧ uploadReads texture ≤ texture.data.imageData.length ∧
      texture.format ≠ .depthFloat32

/-- All formats but one are colours. -/
theorem aspect_imageFormat_iff {format : TextureFormat} :
    (imageFormat format).aspect = .colour ↔ format ≠ .depthFloat32 := by
  cases format <;> decide

/-! ## draw staging -/

/-- One draw for each input of an access. -/
theorem length_draws_addAll {w : Nat} (t : DrawTables w) (a : RendererInputDataAccess) (k : Nat)
    (inputs : List RendererInput) :
    ((t.addAll k inputs).of a).draws.length =
      (t.of a).draws.length + (inputs.map fun input => decide (input.dataAccess = a)).count true := by
  induction inputs generalizing t k with
  | nil => rfl
  | cons input inputs ih =>
      rw [DrawTables.addAll, ih, DrawTables.of_add]
      by_cases ha : input.dataAccess = a
      · simp [ha, InputDraws.add]
        omega
      · simp [ha]

/-- The number of inputs of an access fits in an `int`. -/
theorem toNat_numInputsOf {inputs : List RendererInput} (h : inputs.length < 2 ^ 31)
    (a : RendererInputDataAccess) :
    (numInputsOf a inputs).toNat =
      (inputs.map fun input => decide (input.dataAccess = a)).count true := by
  have hle := List.count_le_length (a := true)
    (l := inputs.map fun input => decide (input.dataAccess = a))
  rw [List.length_map] at hle
  exact (toNat_accumulate_eq_iff (by rw [List.length_map]; omega)).mpr (by omega)

/-- The staging buffer is as large as the draws that are written to it. -/
theorem length_stagedDraws {inputs : List RendererInput} (h : inputs.length < 2 ^ 31)
    (a : RendererInputDataAccess) :
    (stagedDraws inputs a).length = (numInputsOf a inputs).toNat := by
  have hlength := length_draws_addAll (DrawTables.empty : DrawTables 32) a 0 inputs
  have hempty : ((DrawTables.empty : DrawTables 32).of a).draws.length = 0 := by cases a <;> rfl
  rw [hempty, Nat.zero_add] at hlength
  rw [toNat_numInputsOf h, stagedDraws, List.length_reverse, List.length_map]
  exact hlength

/-- What `createDrawStaging` leaves there. -/
def drawStagingSpace (inputs : List RendererInput) (a : RendererInputDataAccess) :
    Option (Buffer UInt8) :=
  if 0 < numInputsOf a inputs then
    some (Buffer.create ((numInputsOf a inputs).toNat * sizeofDrawIndirectCommand))
  else none

section Runs

open HostDevice

variable {memory : DeviceMemory} {live : FenceName → Bool} {inputs : List RendererInput}

/-- The staging buffer for the draws of an access, if there are inputs of it. -/
theorem runs_createDrawStaging (h : inputs.length < 2 ^ 31) {a : RendererInputDataAccess}
    (hnone : memory.buffers (drawStagingName a) = none) :
    transfers.Runs (Between memory live) (createDrawStaging inputs a)
      (Between (memory.setBuffer (drawStagingName a) (drawStagingSpace inputs a)) live) := by
  rw [createDrawStaging, drawStagingSpace]
  split
  · next hpos =>
    have hle : (numInputsOf a inputs).toNat < 2 ^ 31 := by
      rw [toNat_numInputsOf h]
      refine Nat.lt_of_le_of_lt List.count_le_length ?_
      rwa [List.length_map]
    have hsize : (BitVec.ofNat 64 sizeofDrawIndirectCommand * numInputsOf a inputs).toNat =
        (numInputsOf a inputs).toNat * sizeofDrawIndirectCommand := by
      rw [BitVec.toNat_mul, BitVec.toNat_ofNat, sizeofDrawIndirectCommand]
      omega
    rw [hsize]
    refine runs_createBuffer ?_
    exact Nat.mul_pos (BitVec.lt_def.mp hpos) (by decide)
  · refine .nil fun s hs => ?_
    rwa [memory.setBuffer_eq_self hnone]

/-- It is filled through its mapping; nothing reads it afterwards. -/
theorem runs_fillDrawStaging (h : inputs.length < 2 ^ 31) {a : RendererInputDataAccess}
    (hspace : memory.buffers (drawStagingName a) = drawStagingSpace inputs a) :
    transfers.Runs (Between memory live) (fillDrawStaging inputs a)
      (fun s => ∃ buffer, Between (memory.setBuffer (drawStagingName a) buffer) live s) := by
  rw [fillDrawStaging]
  split
  · next hpos =>
    rw [drawStagingSpace, if_pos hpos] at hspace
    refine (runs_write hspace ?_).weaken fun s hs => ⟨_, hs⟩
    rw [length_flatMap_of_length length_commandBytes, length_stagedDraws h, Buffer.size_create]
  · refine .nil fun s hs => ⟨drawStagingSpace inputs a, ?_⟩
    rwa [memory.setBuffer_eq_self hspace]

/-- A new buffer is filled. -/
theorem runs_fill {b : BufferName} {bytes : List UInt8} {f : FenceName} (hf : live f = true)
    (hb : b ≠ .staging) (hstaging : memory.buffers .staging = none)
    (hbuffer : memory.buffers b = some (Buffer.create bytes.length)) (hbytes : bytes ≠ []) :
    transfers.Runs (Between memory live) (transferCalls bytes (fillCommands b bytes) f)
      (Between (memory.setBuffer b (some ⟨bytes.map some⟩)) live) := by
  rw [← transferred_fill hb hstaging hbuffer (by simp)]
  exact runs_transfer hf hbytes (executesAll_fill hb hbuffer (by simp) hbytes)

/-! ## vertices and indices -/

/-- What `setup_buffers` created for static geometry. -/
structure HasStaticSpace (inputs : List RendererInput) (memory : DeviceMemory) : Prop where
  staging : memory.buffers .staging = none
  vertexBuffer : memory.buffers .vertexBuffer =
    if (compileInputs 4 inputs).anyStaticGeometry then
      some (Buffer.create (compileInputs 4 inputs).staticVertexBytes.length)
    else none
  indexBuffer : memory.buffers .indexBuffer =
    if (compileInputs 4 inputs).anyStaticGeometry then
      some (Buffer.create ((compileInputs 4 inputs).staticIndices.length * 4))
    else none

/-- There is static geometry if there is a static index. -/
theorem anyStaticGeometry_of_pos
    (h : 0 < (ScratchUpload.collected inputs).indexCountSoFar) :
    (compileInputs 4 inputs).anyStaticGeometry = true ∧
      inputs.flatMap (RendererInput.indicesIn .staticFixed) ≠ [] := by
  have hne : inputs.flatMap (RendererInput.indicesIn .staticFixed) ≠ [] := by
    intro hnil
    have hsum : (inputs.map (RendererInput.indexCountIn .staticFixed)).sum = 0 := by
      have hlength := congrArg List.length hnil
      rw [length_flatMap_eq_sum] at hlength
      simp only [RendererInput.length_indicesIn] at hlength
      exact hlength
    simp only [ScratchUpload.collected, hsum] at h
    exact absurd h (by decide)
  refine ⟨?_, hne⟩
  obtain ⟨x, hx⟩ := List.exists_mem_of_ne_nil _ hne
  obtain ⟨input, hmem, hin⟩ := List.mem_flatMap.mp hx
  refine anyStaticGeometry_of_mem 4 hmem ?_
  by_contra hdynamic
  rw [RendererInput.indicesIn, if_neg hdynamic] at hin
  exact absurd hin List.not_mem_nil

/-- The vertices and indices of the static inputs reach their buffers. -/
theorem runs_transferInputs (hf : live .scratch = true) (hspace : HasStaticSpace inputs memory)
    (hvertices : inputs.flatMap (RendererInput.indicesIn .staticFixed) ≠ [] →
      inputs.flatMap (RendererInput.verticesIn .staticFixed) ≠ []) :
    transfers.Runs (Between memory live) (transferInputs inputs)
      (Between ((memory.setBuffer .vertexBuffer (staticGeometry inputs).vertexBuffer).setBuffer
        .indexBuffer ((staticGeometry inputs).indexBuffer.map (Buffer.encode wordBytes 4)))
        live) := by
  have hc := covers_compileInputs 4 inputs
  have hv := hspace.vertexBuffer
  have hi := hspace.indexBuffer
  rw [transferInputs, staticGeometry]
  simp only [scratchUpload_eq]
  by_cases hpos : 0 < (ScratchUpload.collected inputs).indexCountSoFar
  · obtain ⟨hany, hindices⟩ := anyStaticGeometry_of_pos hpos
    have hbytes := flatMap_ne_nil_of_length length_wordBytes (by decide) hindices
    have hlength := length_flatMap_of_length length_wordBytes
      (inputs.flatMap (RendererInput.indicesIn .staticFixed))
    simp only [hany, hpos, if_true] at hv hi ⊢
    simp only [ScratchUpload.collected, hc.staticIndices, hc.staticVertexBytes,
      Buffer.subData_create_eq, Option.map_some, Buffer.encode_mk] at hv hi ⊢
    have hvertexRuns := runs_signal_transfer hf (hvertices hindices)
      (executesAll_fill (by decide) hv (Buffer.size_create _) (hvertices hindices))
    rw [transferred_fill (by decide) hspace.staging hv (Buffer.size_create _)] at hvertexRuns
    refine (hvertexRuns.append (runs_reset.cons ?_)).append runs_reset
    refine runs_fill hf (by decide) ?_ ?_ hbytes
    · rw [DeviceMemory.buffers_setBuffer, if_neg (by decide), hspace.staging]
    · rw [DeviceMemory.buffers_setBuffer, if_neg (by decide), hi, hlength]
  · rw [if_neg hpos, if_neg hpos]
    refine .nil fun s hs => ?_
    have hsame : (memory.setBuffer .vertexBuffer (memory.buffers .vertexBuffer)).setBuffer
        .indexBuffer (memory.buffers .indexBuffer) = memory := by
      rw [memory.setBuffer_eq_self rfl, memory.setBuffer_eq_self rfl]
    rw [hv, hi] at hsame
    split
    · next hany =>
      rw [if_pos hany, if_pos hany] at hsame
      rwa [Option.map_some, Buffer.encode_create, hsame]
    · next hany =>
      rw [if_neg hany, if_neg hany] at hsame
      rwa [Option.map_none, hsame]

/-! ## indirect buffers -/

theorem indirectName_ne_staging (a : RendererInputDataAccess) : indirectName a ≠ .staging := by
  cases a <;> decide

/-- The indirect buffer of an access is replaced, or destroyed if there are no draws. -/
theorem runs_replaceIndirect (hf : live .drawList = true)
    (hstaging : memory.buffers .staging = none) (a : RendererInputDataAccess)
    (cmds : List DrawIndirectCommand) (id : Nat) :
    transfers.Runs (Between memory live) (replaceIndirect a cmds)
      (Between (memory.setBuffer (indirectName a)
        ((RendererVulkan.newIndirect id cmds).map indirectBytes)) live) := by
  rw [replaceIndirect, RendererVulkan.newIndirect]
  split
  · exact runs_destroyBuffer _
  · next hne =>
    have hname := indirectName_ne_staging a
    have hlength := length_flatMap_of_length length_commandBytes cmds
    have hbytes : cmds.flatMap commandBytes ≠ [] :=
      flatMap_ne_nil_of_length length_commandBytes (by decide) fun hnil => hne (by simp [hnil])
    have hcontents : indirectBytes ⟨id, (Buffer.create cmds.length).subData cmds⟩ =
        ⟨(cmds.flatMap commandBytes).map some⟩ := by
      rw [indirectBytes, Buffer.subData_create_eq, Buffer.encode_mk]
    rw [Option.map_some, hcontents, ← hlength]
    have hfill : transfers.Runs
        (Between (memory.setBuffer (indirectName a)
          (some (Buffer.create (cmds.flatMap commandBytes).length))) live)
        (transferCalls (cmds.flatMap commandBytes)
          (fillCommands (indirectName a) (cmds.flatMap commandBytes)) .drawList) _ :=
      runs_fill hf hname (by rw [DeviceMemory.buffers_setBuffer, if_neg hname.symm, hstaging])
        (by rw [DeviceMemory.buffers_setBuffer, if_pos rfl]) hbytes
    rw [DeviceMemory.setBuffer_setBuffer] at hfill
    exact (runs_createBuffer (List.length_pos_iff.mpr hbytes)).cons hfill

/-- The calls of `record_draw_list` do to the indirect buffers what it does to the renderer. -/
theorem runs_recordDrawList (hf : live .drawList = false)
    (hstaging : memory.buffers .staging = none) (r : RendererVulkan)
    (hindirect : ∀ a, memory.buffers (indirectName a) = (r.indirectOf a).map indirectBytes)
    (draws : RendererDrawList) :
    transfers.Runs (Between memory live) (recordDrawListCalls r.inputs r.drawCache draws)
      (Between ((memory.setBuffer .drawIndirectBuffer
          ((r.recordDrawList draws).drawIndirectBuffer.map indirectBytes)).setBuffer
        .drawIndirectDynamicBuffer
          ((r.recordDrawList draws).drawIndirectDynamicBuffer.map indirectBytes)) live) := by
  rw [recordDrawListCalls, RendererVulkan.recordDrawList]
  by_cases hcache : r.drawCache = draws
  · rw [if_pos hcache, if_pos (r.drawsMatchCache_iff.mpr hcache)]
    have hstatic : memory.buffers .drawIndirectBuffer = r.drawIndirectBuffer.map indirectBytes :=
      hindirect .staticFixed
    have hdynamic : memory.buffers .drawIndirectDynamicBuffer =
        r.drawIndirectDynamicBuffer.map indirectBytes := hindirect .dynamicFixed
    refine .nil fun s hs => ?_
    rwa [memory.setBuffer_eq_self hstatic, memory.setBuffer_eq_self hdynamic]
  · rw [if_neg hcache, if_neg fun hmatch => hcache (r.drawsMatchCache_iff.mp hmatch)]
    have hlive : Function.update live .drawList true .drawList = true := Function.update_self ..
    have hrestore : Function.update (Function.update live .drawList true) .drawList false =
        live := by
      rw [Function.update_idem, ← hf, Function.update_eq_self]
    have hstatic := runs_replaceIndirect hlive hstaging .staticFixed
      (internalDraws r.inputs draws).internalDraws r.nextId
    have hnone : (memory.setBuffer (indirectName .staticFixed)
        ((RendererVulkan.newIndirect r.nextId (internalDraws r.inputs draws).internalDraws).map
          indirectBytes)).buffers .staging = none := by
      rw [DeviceMemory.buffers_setBuffer, if_neg (by decide), hstaging]
    have hdynamic := runs_replaceIndirect hlive hnone .dynamicFixed
      (internalDraws r.inputs draws).internalDrawsDynamic (r.nextId + 1)
    have hruns := ((((runs_createFence hf).cons (runs_signal hlive)).append hstatic).append
      hdynamic).append (runs_destroyFence hlive)
    rwa [hrestore] at hruns

/-! ## resources -/

/-- The memory with the first `k` buffer resources uploaded. -/
def withComponents (memory : DeviceMemory) (components : List Resource) (k : Nat) :
    DeviceMemory :=
  { memory with
    buffers
      | .component i =>
          if i < k then components[i]?.map fun resource => ⟨resource.bytes.map some⟩
          else memory.buffers (.component i)
      | b => memory.buffers b }

theorem withComponents_zero (components : List Resource) :
    withComponents memory components 0 = memory := by
  cases memory
  simp only [withComponents, DeviceMemory.mk.injEq, and_true]
  funext b
  cases b <;> simp

/-- The loop over the components fills one buffer more. -/
theorem withComponents_succ {components : List Resource} {k : Nat} {resource : Resource}
    (h : components[k]? = some resource) :
    withComponents memory components (k + 1) =
      (withComponents memory components k).setBuffer (.component k)
        (some ⟨resource.bytes.map some⟩) := by
  simp only [withComponents, DeviceMemory.setBuffer, DeviceMemory.mk.injEq, and_true]
  funext b
  rw [Function.update_apply]
  cases b with
  | component i =>
      rcases Nat.lt_trichotomy i k with hlt | heq | hgt
      · simp [hlt, Nat.lt_succ_of_lt hlt, Nat.ne_of_lt hlt]
      · simp [heq, h]
      · simp [Nat.not_lt_of_gt hgt, Nat.not_lt.mpr (Nat.succ_le_of_lt hgt), Nat.ne_of_gt hgt]
  | _ => simp

/-- The buffer of a component is filled.  That of a dynamic one has been already. -/
theorem runs_transferComponent (hf : live .scratch = true)
    (hstaging : memory.buffers .staging = none) {components : List Resource} {k : Nat}
    {resource : Resource} (hk : components[k]? = some resource) (hbytes : resource.bytes ≠ [])
    (hbuffer : memory.buffers (.component k) = some (componentBuffer resource)) :
    transfers.Runs (Between (withComponents memory components k) live)
      (transferComponent resource k)
      (Between (withComponents memory components (k + 1)) live) := by
  rw [withComponents_succ hk, transferComponent]
  have hbefore : (withComponents memory components k).buffers (.component k) =
      some (componentBuffer resource) := by
    simp [withComponents, hbuffer]
  rw [componentBuffer] at hbefore
  cases hd : resource.dataAccess with
  | staticFixed =>
      simp only [hd] at hbefore ⊢
      exact runs_reset.cons (runs_fill hf (by simp) hstaging hbefore hbytes)
  | dynamicFixed =>
      -- the resource has copied its bytes into the mapped buffer
      simp only [hd] at hbefore ⊢
      rw [Buffer.memcpy_all _ (by simp)] at hbefore
      refine .nil fun s hs => ?_
      rwa [DeviceMemory.setBuffer_eq_self _ hbefore]

/-- The memory with the first `k` textures uploaded. -/
def withTextures (memory : DeviceMemory) (textures : List TextureResource) (k : Nat) :
    DeviceMemory :=
  { memory with
    images := fun i =>
      if i < k then
        textures[i]?.map fun texture => textureImage texture .shaderResource
      else memory.images i }

theorem withTextures_zero (textures : List TextureResource) :
    withTextures memory textures 0 = memory := by
  simp [withTextures]

/-- The loop over the textures uploads one more. -/
theorem withTextures_succ {textures : List TextureResource} {k : Nat} {texture : TextureResource}
    (h : textures[k]? = some texture) :
    withTextures memory textures (k + 1) =
      (withTextures memory textures k).setImage k
        (some (textureImage texture .shaderResource)) := by
  simp only [withTextures, DeviceMemory.setImage, DeviceMemory.mk.injEq, true_and]
  funext i
  rw [Function.update_apply]
  rcases Nat.lt_trichotomy i k with hlt | heq | hgt
  · simp [hlt, Nat.lt_succ_of_lt hlt, Nat.ne_of_lt hlt]
  · simp [heq, h]
  · simp [Nat.not_lt_of_gt hgt, Nat.not_lt.mpr (Nat.succ_le_of_lt hgt), Nat.ne_of_gt hgt]

/-- What is recorded for a texture: the barriers start from `Undefined`, both of them. -/
theorem uploadTexture_commands (i size : Nat) :
    (ImageRecording.start.uploadTexture i).commands.map (imageTransfer size) =
      [.pipelineBarrier (ImageRecording.start.barrier i .transferDestination),
        .copyBufferToImage .staging i .colour size,
        .pipelineBarrier (ImageRecording.start.barrier i .shaderResource)] := rfl

/-- A barrier from `Undefined` leaves nothing known. -/
theorem execute_barrier {i size : Nat} {aspect : ImageAspect} {layout newLayout : ImageLayout}
    {texels : Buffer UInt8} (himage : memory.images i = some ⟨aspect, layout, texels⟩)
    (hsize : texels.size = size) :
    memory.execute (.pipelineBarrier (ImageRecording.start.barrier i newLayout)) =
      memory.setImage i (some ⟨aspect, newLayout, Buffer.create size⟩) := by
  subst hsize
  show memory.setImage i ((memory.images i).map _) = _
  rw [himage]
  rfl

theorem execute_copyBufferToImage {source : BufferName} {src : Buffer UInt8} {i size : Nat}
    {aspectMask : ImageAspect} {image : DeviceImage} (hsrc : memory.buffers source = some src)
    (himage : memory.images i = some image) :
    memory.execute (.copyBufferToImage source i aspectMask size) =
      memory.setImage i
        (some { image with texels := image.texels.memcpy 0 (src.read 0 size) }) := by
  simp only [DeviceMemory.execute, hsrc, himage]

theorem buffers_staged (i : Nat) (image : Option DeviceImage) (bytes : List UInt8) :
    ((memory.setBuffer .staging (some ⟨bytes.map some⟩)).setImage i image).buffers .staging =
      some ⟨bytes.map some⟩ := by
  simp

/-- The copy to the image. -/
theorem execute_copy_texels (i size : Nat) (aspect : ImageAspect) (bytes : List UInt8) :
    ((memory.setBuffer .staging (some ⟨bytes.map some⟩)).setImage i
        (some ⟨aspect, .transferDestination, Buffer.create size⟩)).execute
        (.copyBufferToImage .staging i .colour size) =
      (memory.setBuffer .staging (some ⟨bytes.map some⟩)).setImage i
        (some ⟨aspect, .transferDestination,
          (Buffer.create size).memcpy 0 (Buffer.read ⟨bytes.map some⟩ 0 size)⟩) := by
  rw [execute_copyBufferToImage (buffers_staged ..) (DeviceMemory.images_setImage_self ..),
    DeviceMemory.setImage_setImage]

section UploadTexture

variable {i size : Nat} {aspect : ImageAspect} {bytes : List UInt8}
  (himage : memory.images i = some ⟨aspect, .undefined, Buffer.create size⟩)
include himage

/-- The barrier before the copy. -/
theorem execute_first_barrier :
    (memory.setBuffer .staging (some ⟨bytes.map some⟩)).execute
        (.pipelineBarrier (ImageRecording.start.barrier i .transferDestination)) =
      (memory.setBuffer .staging (some ⟨bytes.map some⟩)).setImage i
        (some ⟨aspect, .transferDestination, Buffer.create size⟩) :=
  execute_barrier himage (Buffer.size_create size)

/-- The commands of an upload can be executed on a colour image. -/
theorem executesAll_uploadTexture (haspect : aspect = .colour) (hsize : 0 < size)
    (hbytes : size ≤ bytes.length) :
    (memory.setBuffer .staging (some ⟨bytes.map some⟩)).ExecutesAll
      ((ImageRecording.start.uploadTexture i).commands.map (imageTransfer size)) := by
  rw [uploadTexture_commands, DeviceMemory.ExecutesAll, DeviceMemory.ExecutesAll,
    DeviceMemory.ExecutesAll, DeviceMemory.ExecutesAll, execute_first_barrier himage,
    execute_copy_texels]
  have hstaging : size ≤ (⟨bytes.map some⟩ : Buffer UInt8).size := by
    rwa [Buffer.size, List.length_map]
  refine ⟨⟨_, himage, haspect.symm, Or.inl rfl, rfl, rfl⟩,
    ⟨hsize, ⟨_, buffers_staged .., hstaging⟩, ?_⟩, ?_, trivial⟩
  · exact ⟨_, DeviceMemory.images_setImage_self .., haspect.symm, rfl,
      (Buffer.size_create size).ge⟩
  · exact ⟨_, DeviceMemory.images_setImage_self .., haspect.symm, Or.inl rfl, rfl, rfl⟩

/-- The second barrier gives up the texels. -/
theorem transferred_uploadTexture (hstaging : memory.buffers .staging = none) :
    transferred memory bytes
        ((ImageRecording.start.uploadTexture i).commands.map (imageTransfer size)) =
      memory.setImage i (some ⟨aspect, .shaderResource, Buffer.create size⟩) := by
  rw [transferred, uploadTexture_commands, List.foldl_cons, List.foldl_cons, List.foldl_cons,
    List.foldl_nil, execute_first_barrier himage, execute_copy_texels,
    execute_barrier (DeviceMemory.images_setImage_self ..) (Buffer.size_memcpy ..),
    Buffer.size_create, DeviceMemory.setImage_setImage]
  show ((memory.setBuffer .staging _).setBuffer .staging none).setImage i _ = _
  rw [DeviceMemory.setBuffer_setBuffer, memory.setBuffer_eq_self hstaging]

end UploadTexture

/-- A texture is uploaded, and what it holds is then unknown. -/
theorem runs_transferTexture (hf : live .scratch = true)
    (hstaging : memory.buffers .staging = none) {textures : List TextureResource} {k : Nat}
    {texture : TextureResource} (hk : textures[k]? = some texture)
    (hcolour : texture.format ≠ .depthFloat32) (hreads : 0 < uploadReads texture)
    (hbytes : uploadReads texture ≤ texture.data.imageData.length)
    (himage : memory.images k = some (textureImage texture .undefined)) :
    transfers.Runs (Between (withTextures memory textures k) live)
      (transferTexture texture k)
      (Between (withTextures memory textures (k + 1)) live) := by
  have hbefore : (withTextures memory textures k).images k =
      some (textureImage texture .undefined) := by
    simp [withTextures, himage]
  have hnone : (withTextures memory textures k).buffers .staging = none := hstaging
  have hafter : transferred _ texture.data.imageData _ = _ :=
    transferred_uploadTexture hbefore hnone
  have hexecutes := executesAll_uploadTexture hbefore (aspect_imageFormat_iff.mpr hcolour) hreads
    hbytes
  rw [withTextures_succ hk, transferTexture, textureImage, ← hafter]
  exact runs_reset.cons (runs_transfer hf (List.length_pos_iff.mp (by omega)) hexecutes)

/-! ## the whole -/

variable {config : RendererConfig} {components : List Resource}
  {textures : List TextureResource}

/-- Both staging buffers for draws come and are filled. -/
theorem runs_drawStaging (h : inputs.length < 2 ^ 31)
    (hstatic : memory.buffers .drawStaging = none)
    (hdynamic : memory.buffers .drawStagingDynamic = none) :
    transfers.Runs (Between memory live)
      (createDrawStaging inputs .staticFixed ++ createDrawStaging inputs .dynamicFixed ++
        fillDrawStaging inputs .staticFixed ++ fillDrawStaging inputs .dynamicFixed)
      (fun s => ∃ x y, Between ((memory.setBuffer .drawStaging x).setBuffer
        .drawStagingDynamic y) live s) := by
  have hcreate : transfers.Runs (Between memory live) (createDrawStaging inputs .staticFixed)
      (Between (memory.setBuffer .drawStaging (drawStagingSpace inputs .staticFixed)) live) :=
    runs_createDrawStaging h hstatic
  have hcreateDynamic : transfers.Runs
      (Between (memory.setBuffer .drawStaging (drawStagingSpace inputs .staticFixed)) live)
      (createDrawStaging inputs .dynamicFixed)
      (Between ((memory.setBuffer .drawStaging (drawStagingSpace inputs .staticFixed)).setBuffer
        .drawStagingDynamic (drawStagingSpace inputs .dynamicFixed)) live) :=
    runs_createDrawStaging h (by rwa [drawStagingName, DeviceMemory.buffers_setBuffer,
      if_neg (by decide)])
  refine ((hcreate.append hcreateDynamic).append
    (runs_fillDrawStaging h (by simp [drawStagingName]))).append (.exists fun x => ?_)
  refine (runs_fillDrawStaging h (by simp [drawStagingName])).weaken fun s hs => ?_
  obtain ⟨y, hy⟩ := hs
  refine ⟨x, y, ?_⟩
  rwa [drawStagingName, drawStagingName, DeviceMemory.setBuffer_comm _ (by decide),
    DeviceMemory.setBuffer_setBuffer, DeviceMemory.setBuffer_comm _ (by decide),
    DeviceMemory.setBuffer_setBuffer] at hy

/-- The objects between the inputs' part of the scratch commands and that of the resources. -/
def inputsMemory (config : RendererConfig) (components : List Resource)
    (textures : List TextureResource) : DeviceMemory where
  buffers
    | .component i => components[i]?.map componentBuffer
    | b => (createdMemory config components textures).buffers b
  images := (constructedMemory config components textures).images

/-- The part of the scratch commands that is about inputs. -/
theorem runs_scratchInputs (h : Uploadable config.inputs components textures)
    (hscratch : live .scratch = true) (hdrawList : live .drawList = false) :
    transfers.Runs (Between (constructedMemory config components textures) live)
      (scratchInputs config.inputs)
      (Between (inputsMemory config components textures) live) := by
  refine (runs_drawStaging h.inputs_lt rfl rfl).append (.exists fun x => .exists fun y => ?_)
  have hspace : HasStaticSpace config.inputs
      (((constructedMemory config components textures).setBuffer .drawStaging x).setBuffer
        .drawStagingDynamic y) := ⟨rfl, rfl, rfl⟩
  have htransfer := runs_transferInputs hscratch hspace h.vertices
  -- the renderer whose draw list is recorded here
  obtain ⟨depth, id, hrecorded⟩ := RendererVulkan.recorded_eq config
  have hinputs : (RendererVulkan.recorded config).inputs = config.inputs := by
    rw [hrecorded]
    rfl
  have hcache : (RendererVulkan.recorded config).drawCache = [] := by
    rw [hrecorded]
    rfl
  have hindirect : ∀ a, (constructedMemory config components textures).buffers (indirectName a) =
      ((RendererVulkan.recorded config).indirectOf a).map indirectBytes := by
    intro a
    rw [hrecorded]
    cases a <;> rfl
  have hdraws := fun memory hstaging hindirect => runs_recordDrawList hdrawList
    (hstaging : DeviceMemory.buffers memory .staging = none) (RendererVulkan.recorded config)
    hindirect (allInputsOnce config.inputs)
  rw [hinputs, hcache] at hdraws
  have hruns := (htransfer.append (hdraws _ rfl fun a =>
    Eq.trans (by cases a <;> rfl) (hindirect a))).append
      ((runs_destroyBuffer .drawStagingDynamic).cons (runs_destroyBuffer .drawStaging))
  refine hruns.weaken fun s hs => ⟨hs.pending, hs.notRecording, hs.memory.trans ?_, hs.live⟩
  refine DeviceMemory.ext (funext fun b => ?_) rfl
  cases b <;> rfl

/-- The loop over the components. -/
theorem runs_components (h : Uploadable config.inputs components textures)
    (hscratch : live .scratch = true) :
    transfers.Runs (Between (inputsMemory config components textures) live)
      (components.zipIdx.flatMap fun x => transferComponent x.1 x.2)
      (Between (withComponents (inputsMemory config components textures) components
        components.length) live) := by
  have hbody : ∀ k resource, components[k]? = some resource →
      transfers.Runs
        (Between (withComponents (inputsMemory config components textures) components k) live)
        (transferComponent resource k)
        (Between (withComponents (inputsMemory config components textures) components (k + 1))
          live) := by
    intro k resource hk
    refine runs_transferComponent hscratch rfl hk (h.components _ (List.mem_of_getElem? hk)) ?_
    simp [inputsMemory, hk]
  have hloop := Runs.loop hbody
  rwa [withComponents_zero] at hloop

/-- After both loops the memory is that of a constructed renderer. -/
theorem withTextures_withComponents :
    withTextures (withComponents (inputsMemory config components textures) components
        components.length) textures textures.length =
      createdMemory config components textures := by
  refine DeviceMemory.ext (funext fun b => ?_) (funext fun i => ?_)
  · cases b with
    | component i =>
        show (if i < components.length then _ else components[i]?.map componentBuffer) =
          components[i]?.map fun resource => ⟨resource.bytes.map some⟩
        by_cases hi : i < components.length
        · rw [if_pos hi]
        · rw [if_neg hi, List.getElem?_eq_none (Nat.le_of_not_lt hi)]
          rfl
    | _ => rfl
  · show (if i < textures.length then _ else
        textures[i]?.map fun texture => textureImage texture .undefined) =
      textures[i]?.map fun texture => textureImage texture .shaderResource
    by_cases hi : i < textures.length
    · rw [if_pos hi]
    · rw [if_neg hi, List.getElem?_eq_none (Nat.le_of_not_lt hi)]
      rfl

/-- The loop over the textures. -/
theorem runs_textures (h : Uploadable config.inputs components textures)
    (hscratch : live .scratch = true) :
    transfers.Runs
      (Between (withComponents (inputsMemory config components textures) components
        components.length) live)
      (textures.zipIdx.flatMap fun x => transferTexture x.1 x.2)
      (Between (createdMemory config components textures) live) := by
  have hbody : ∀ k texture, textures[k]? = some texture →
      transfers.Runs
        (Between (withTextures (withComponents (inputsMemory config components textures)
          components components.length) textures k) live)
        (transferTexture texture k)
        (Between (withTextures (withComponents (inputsMemory config components textures)
          components components.length) textures (k + 1)) live) := by
    intro k texture hk
    obtain ⟨hreads, hbytes, hcolour⟩ := h.textures _ (List.mem_of_getElem? hk)
    refine runs_transferTexture hscratch rfl hk hcolour hreads hbytes ?_
    show textures[k]?.map _ = _
    rw [hk]
    rfl
  have hloop := Runs.loop hbody
  rwa [withTextures_zero, withTextures_withComponents] at hloop

/-- The scratch commands turn what `setup_buffers` left into what a constructed renderer has. -/
theorem runs_scratchCalls (h : Uploadable config.inputs components textures) :
    transfers.Runs (Between (constructedMemory config components textures) fun _ => false)
      (scratchCalls config.inputs components textures)
      (Between (createdMemory config components textures) fun _ => false) := by
  have hscratch : Function.update (fun _ => false) FenceName.scratch true .scratch = true :=
    Function.update_self ..
  have hnone : Function.update (Function.update (fun _ => false) FenceName.scratch true)
      .scratch false = fun _ => false := by
    rw [Function.update_idem, Function.update_eq_self_iff]
  have hruns := (((((runs_createFence rfl).cons (runs_signal hscratch)).append
    (runs_scratchInputs h hscratch rfl)).append (runs_components h hscratch)).append
      (runs_textures h hscratch)).append (runs_destroyFence hscratch)
  rwa [hnone] at hruns

end Runs

/-- **Scratch commands**: however the host and the GPU take turns while
`record_and_run_scratch_commands` runs, every call is valid when it is made, one of the two can
always move until the host is done, that takes a bounded number of turns, and then the objects
are those of a constructed renderer, nothing is pending and no fence is left. -/
theorem scratch_refines_create (config : RendererConfig) (components : List Resource)
    (textures : List TextureResource) (h : Uploadable config.inputs components textures) :
    (∀ turns r, transfers.run ⟨scratchStart config components textures,
        scratchCalls config.inputs components textures⟩ turns = some r →
      (∀ c rest, r.program = c :: rest → r.state.Valid c) ∧
      (r.program ≠ [] → ∃ t r', transfers.step r t = some r') ∧
      (r.program = [] →
        Between (createdMemory config components textures) (fun _ => false) r.state)) ∧
    ∃ n, ∀ turns r, transfers.run ⟨scratchStart config components textures,
        scratchCalls config.inputs components textures⟩ turns = some r → turns.length ≤ n := by
  have hstart : Between (constructedMemory config components textures) (fun _ => false)
      (scratchStart config components textures) := ⟨rfl, by simp [scratchStart], rfl, fun _ => rfl⟩
  have hfinishes := (runs_scratchCalls h).finishes
    (fun _ hs => TransferState.work_eq_none hs.pending) hstart
  refine ⟨fun turns r hrun => ?_, hfinishes.exists_bound⟩
  have hr := hfinishes.run hrun
  exact ⟨fun c rest hprogram => hr.valid hprogram, hr.progress, hr.done⟩

/-- A static and a dynamic point. -/
def mixedPoints : RendererConfig where
  headless := true
  inputs := [⟨.staticFixed, ⟨1, .perVertexBasis, []⟩, [7], [0]⟩,
    ⟨.dynamicFixed, ⟨1, .perVertexBasis, []⟩, [8], [0]⟩]
  resources := []
  requiresDepthImage := false
  viewCount := 1

/-- A uniform of either access. -/
def mixedComponents : List Resource := [⟨.buffer, .staticFixed, [1]⟩, ⟨.buffer, .dynamicFixed, [2]⟩]

/-- A texture of one texel. -/
def oneTexelTexture : List TextureResource := [⟨⟨1, 1, [9, 9, 9, 9]⟩, .rgba32Signed⟩]

theorem scratch_refines_create_mixedPoints :
    (∃ n, ∀ turns r, transfers.run ⟨scratchStart mixedPoints mixedComponents oneTexelTexture,
        scratchCalls mixedPoints.inputs mixedComponents oneTexelTexture⟩ turns = some r →
      turns.length ≤ n) ∧
    ∀ turns r, transfers.run ⟨scratchStart mixedPoints mixedComponents oneTexelTexture,
        scratchCalls mixedPoints.inputs mixedComponents oneTexelTexture⟩ turns = some r →
      (∀ c rest, r.program = c :: rest → r.state.Valid c) ∧
      (r.program = [] →
        r.state.memory.buffers .vertexBuffer = some ⟨[some 7]⟩ ∧
        r.state.memory.buffers (.component 0) = some ⟨[some 1]⟩ ∧
        r.state.memory.images 0 = some ⟨.colour, .shaderResource, ⟨[none, none, none, none]⟩⟩) := by
  obtain ⟨hruns, hbound⟩ := scratch_refines_create mixedPoints mixedComponents oneTexelTexture
    ⟨by decide, by decide, by decide, by decide⟩
  refine ⟨hbound, fun turns r hrun => ⟨(hruns turns r hrun).1, fun hdone => ?_⟩⟩
  have hmemory := ((hruns turns r hrun).2.2 hdone).memory
  rw [hmemory]
  exact ⟨by decide, by decide, rfl⟩

end Vk
end Topaz
