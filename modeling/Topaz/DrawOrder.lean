import Topaz.Backends
import Topaz.Vk.Coherence

/-!
# Topaz.DrawOrder

The draws that one `render(draws)` issues, and their order.

Both backends sort a draw list into a static and a dynamic stream of indirect
commands and issue all of the first before all of the second, so the order of the
list survives only where it already has its static handles first.  `issued` is the
sequence of commands that a `render` issues, read from the indirect buffers as they
are when it does; `issuedDraws_eq_iff` reduces its order to a property of the list, and
`issuedCount_issuedDraws` the number of its draws to those of the two streams.
-/

namespace Topaz

/-! ## draws in order -/

/-- An issued indirect command: the buffers it draws from and the command the GPU
reads there. -/
abbrev IssuedDraw := RendererInputDataAccess × Option DrawIndirectCommand

/-- The draw of the input a handle names. -/
def drawOf (inputs : List RendererInput) (handle : RendererInputHandle) : Option IssuedDraw :=
  (accessOf inputs handle).map fun a => (a, some (drawCommand a inputs handle.value))

/-- The draws of a list, in order and with multiplicity.  (A valid handle has one.) -/
def drawsOf (inputs : List RendererInput) (draws : RendererDrawList) : List IssuedDraw :=
  draws.filterMap (drawOf inputs)

/-- No dynamic handle comes before a static one. -/
def StaticFirst (inputs : List RendererInput) (draws : RendererDrawList) : Prop :=
  draws.Pairwise fun x y =>
    accessOf inputs y = some .staticFixed → accessOf inputs x ≠ some .dynamicFixed

instance (inputs : List RendererInput) (draws : RendererDrawList) :
    Decidable (StaticFirst inputs draws) :=
  inferInstanceAs (Decidable (draws.Pairwise _))

/-- The static indirect draws are issued first, then the dynamic ones. -/
def issuedDraws (commands : RendererInputDataAccess → List (Option DrawIndirectCommand)) :
    List IssuedDraw :=
  (commands .staticFixed).map (Prod.mk .staticFixed) ++
    (commands .dynamicFixed).map (Prod.mk .dynamicFixed)

/-- How many of the issued draws are of an access. -/
def issuedCount (a : RendererInputDataAccess) (issued : List IssuedDraw) : Nat :=
  issued.countP (·.1 = a)

/-- Sorting a list in two changes nothing exactly when it is already sorted. -/
theorem filter_append_filter_not_eq_iff {α : Type} (p : α → Bool) (l : List α) :
    l.filter p ++ l.filter (fun x => !p x) = l ↔ l.Pairwise fun x y => p y → p x := by
  induction l with
  | nil => simp
  | cons x l ih =>
      rw [List.pairwise_cons, ← ih]
      cases hx : p x with
      | true => simp [hx]
      | false =>
          have hnil : l.filter p = [] → l.filter (fun x => !p x) = l := by
            simp only [List.filter_eq_nil_iff, List.filter_eq_self]
            grind
          simp only [List.filter_cons, hx, Bool.not_false, if_true]
          cases hf : l.filter p with
          | nil => grind [List.filter_eq_nil_iff]
          | cons y ys =>
              have hy := List.mem_filter.mp (hf ▸ List.mem_cons_self : y ∈ l.filter p)
              grind

theorem filter_issuedDraws (commands : RendererInputDataAccess → List (Option DrawIndirectCommand))
    (a : RendererInputDataAccess) :
    (issuedDraws commands).filter (·.1 = a) = (commands a).map (Prod.mk a) := by
  have hall : ∀ (b : RendererInputDataAccess) (cells : List (Option DrawIndirectCommand)),
      (cells.map (Prod.mk b)).filter (fun d : IssuedDraw => d.1 = a) =
        if b = a then cells.map (Prod.mk b) else [] := by
    intro b cells
    induction cells with
    | nil => simp
    | cons cell cells ih => by_cases hb : b = a <;> simp_all
  rw [issuedDraws, List.filter_append, hall, hall]
  cases a <;> simp

theorem issuedCount_issuedDraws
    (commands : RendererInputDataAccess → List (Option DrawIndirectCommand))
    (a : RendererInputDataAccess) : issuedCount a (issuedDraws commands) = (commands a).length := by
  rw [issuedCount, List.countP_eq_length_filter, filter_issuedDraws, List.length_map]

/-- The draws of one access are those of its handles. -/
theorem filter_drawsOf (inputs : List RendererInput) (draws : RendererDrawList)
    (a : RendererInputDataAccess) :
    (drawsOf inputs draws).filter (·.1 = a) = (handlesOf a inputs draws).map fun handle =>
      (a, some (drawCommand a inputs handle.value)) := by
  induction draws with
  | nil => rfl
  | cons handle draws ih =>
      unfold drawsOf handlesOf at ih ⊢
      cases hb : accessOf inputs handle with
      | none => simp [drawOf, hb, ih]
      | some b => by_cases hba : b = a <;> simp [drawOf, hb, hba, ih]

theorem pairwise_drawsOf (inputs : List RendererInput) (draws : RendererDrawList) :
    (drawsOf inputs draws).Pairwise (fun x y => y.1 = .staticFixed → x.1 = .staticFixed) ↔
      StaticFirst inputs draws := by
  rw [drawsOf, StaticFirst, List.pairwise_filterMap]
  have hpair : ∀ x y : RendererInputHandle,
      (∀ d, drawOf inputs x = some d → ∀ e, drawOf inputs y = some e →
        e.1 = .staticFixed → d.1 = .staticFixed) ↔
      (accessOf inputs y = some .staticFixed → accessOf inputs x ≠ some .dynamicFixed) := by
    intro x y
    unfold drawOf
    cases accessOf inputs x with
    | none => simp
    | some b => cases accessOf inputs y with
      | none => simp
      | some c => cases b <;> cases c <;> simp
  exact List.Pairwise.iff hpair

/-- **Order of the two streams**: issuing them one after the other draws the list in
order exactly when each is the list's own and the list has its static handles
first. -/
theorem issuedDraws_eq_iff (inputs : List RendererInput) (draws : RendererDrawList)
    (commands : RendererInputDataAccess → List (Option DrawIndirectCommand)) :
    issuedDraws commands = drawsOf inputs draws ↔
      StaticFirst inputs draws ∧ ∀ a, commands a =
        (handlesOf a inputs draws).map fun handle => some (drawCommand a inputs handle.value) := by
  have hmap : ∀ a, (commands a).map (Prod.mk a) = (drawsOf inputs draws).filter (·.1 = a) ↔
      commands a = (handlesOf a inputs draws).map fun handle =>
        some (drawCommand a inputs handle.value) := by
    intro a
    have htag : ((handlesOf a inputs draws).map fun handle =>
        (a, some (drawCommand a inputs handle.value))) =
          ((handlesOf a inputs draws).map fun handle =>
            some (drawCommand a inputs handle.value)).map (Prod.mk a) := by
      rw [List.map_map]
      rfl
    rw [filter_drawsOf, htag]
    exact (List.map_injective_iff.mpr fun _ _ h => (Prod.mk.inj h).2).eq_iff
  have hnot : (drawsOf inputs draws).filter (·.1 = .dynamicFixed) =
      (drawsOf inputs draws).filter fun d => !decide (d.1 = .staticFixed) := by
    refine List.filter_congr fun d _ => ?_
    cases d.1 <;> rfl
  have hsorted := filter_append_filter_not_eq_iff (fun d : IssuedDraw => d.1 = .staticFixed)
    (drawsOf inputs draws)
  simp only [decide_eq_true_eq] at hsorted
  rw [← pairwise_drawsOf, ← hsorted, ← hnot]
  constructor
  · intro h
    have hall : ∀ a, (commands a).map (Prod.mk a) = (drawsOf inputs draws).filter (·.1 = a) :=
      fun a => by rw [← h, filter_issuedDraws]
    exact ⟨by rw [← hall, ← hall]; exact h, fun a => (hmap a).mp (hall a)⟩
  · intro h
    rw [← h.1, ← (hmap .staticFixed).mpr (h.2 .staticFixed),
      ← (hmap .dynamicFixed).mpr (h.2 .dynamicFixed)]
    rfl

/-! ## OpenGL -/

namespace Ogl

namespace RendererOGL

/-- `glMultiDrawElementsIndirect` on the indirect buffer of an access, if there is one.
Its count is cast to `GLsizei`, and a negative one is refused. -/
def multiDraw (r : RendererOGL) (a : RendererInputDataAccess) :
    List (Option DrawIndirectCommand) :=
  match r.indirectOf a with
  | some b => b.read 0 ((r.numDraws a).setWidth 32).toInt.toNat
  | none => []

/-- What `RendererOGL::render` issues. -/
def issued (r : RendererOGL) : List IssuedDraw := issuedDraws r.multiDraw

/-- The count that is issued, from its 32 bits. -/
theorem toNat_toInt_numDraws (r : RendererOGL) (a : RendererInputDataAccess) :
    ((r.numDraws a).setWidth 32).toInt.toNat =
      if drawCount a r.inputs r.drawCache % 2 ^ 32 < 2 ^ 31
      then drawCount a r.inputs r.drawCache % 2 ^ 32 else 0 := by
  have hnat := toNat_setWidth_numDrawsOf a r.inputs r.drawCache
  rw [BitVec.toInt_eq_toNat_cond, numDraws, hnat, drawCount]
  split <;> split <;> omega

/-- It is never too large, and right as long as it is an `int`. -/
theorem toInt_numDraws (r : RendererOGL) (a : RendererInputDataAccess) :
    ((r.numDraws a).setWidth 32).toInt.toNat ≤ drawCount a r.inputs r.drawCache ∧
    (((r.numDraws a).setWidth 32).toInt.toNat = drawCount a r.inputs r.drawCache ↔
      drawCount a r.inputs r.drawCache < 2 ^ 31) := by
  rw [toNat_toInt_numDraws]
  split <;> omega

end RendererOGL

theorem commandsOf_eq (a : RendererInputDataAccess) (inputs : List RendererInput)
    (draws : RendererDrawList) : commandsOf a inputs draws =
      (handlesOf a inputs draws).map fun handle => drawCommand a inputs handle.value := by
  rw [← internalDraws_of, internalDraws, commands_internalDraws (by decide) (by decide)]

/-- The stream of an access is that of the cached list exactly when the list fits in
the buffer and its count in an `int`. -/
theorem Tracks.multiDraw_eq_iff {a : RendererInputDataAccess} {c : Nat} {r : RendererOGL}
    (h : Tracks a c r) :
    r.multiDraw a = ((handlesOf a r.inputs r.drawCache).map fun handle =>
        some (drawCommand a r.inputs handle.value)) ↔
      drawCount a r.inputs r.drawCache ≤ c ∧ drawCount a r.inputs r.drawCache < 2 ^ 31 := by
  obtain ⟨hle, hcount⟩ := r.toInt_numDraws a
  have hneeded := h.needed
  unfold RendererOGL.multiDraw
  cases hbuf : r.indirectOf a with
  | none =>
      have hzero : drawCount a r.inputs r.drawCache = 0 := hneeded.mp (h.room.none.mp hbuf)
      have hnil : handlesOf a r.inputs r.drawCache = [] := List.eq_nil_of_length_eq_zero hzero
      simp [hnil, hzero]
  | some b =>
      have hsize : b.cells.length = c := h.room.size b hbuf
      constructor
      · intro hread
        have hlen : (b.read 0 _).length = _ := congrArg List.length hread
        rw [Buffer.read, length_slice, hsize, List.length_map, ← drawCount] at hlen
        exact ⟨by omega, hcount.mp (by omega)⟩
      · intro hfit
        show b.read 0 _ = _
        rw [hcount.mpr hfit.2, h.contents hfit.1 b hbuf, commandsOf_eq, List.map_map]
        rfl

/-- As many commands are issued as the buffer has, up to the count. -/
theorem Tracks.length_multiDraw {a : RendererInputDataAccess} {c : Nat} {r : RendererOGL}
    (h : Tracks a c r) : (r.multiDraw a).length =
      min c (if drawCount a r.inputs r.drawCache % 2 ^ 32 < 2 ^ 31
        then drawCount a r.inputs r.drawCache % 2 ^ 32 else 0) := by
  rw [← r.toNat_toInt_numDraws a]
  unfold RendererOGL.multiDraw
  cases hbuf : r.indirectOf a with
  | none =>
      have hc : c = 0 := h.room.none.mp hbuf
      rw [hc, Nat.zero_min]
      rfl
  | some b =>
      have hsize : b.cells.length = c := h.room.size b hbuf
      show (b.read 0 _).length = _
      rw [Buffer.read, length_slice, hsize, Nat.sub_zero, Nat.min_comm]

/-- A renderer after some `render(draws)`: the last list is cached, and the buffers are those that
were created for one of the lists. -/
theorem tracks_renderAll (a : RendererInputDataAccess) (inputs : List RendererInput)
    (lists : List RendererDrawList) (draws : RendererDrawList) :
    Tracks a (capacity a inputs (allInputsOnce inputs :: (lists ++ [draws])))
        ((RendererOGL.create inputs).renderAll (lists ++ [draws])) ∧
      ((RendererOGL.create inputs).renderAll (lists ++ [draws])).drawCache = draws ∧
      ((RendererOGL.create inputs).renderAll (lists ++ [draws])).inputs = inputs :=
  ⟨Tracks.create a inputs (lists ++ [draws]),
    (RendererOGL.create inputs).drawCache_renderAll lists draws,
    ((RendererOGL.create inputs).inputs_renderAll (lists ++ [draws])).trans
      (RendererOGL.inputs_create inputs)⟩

/-- What an OpenGL renderer issues after any draw lists. -/
theorem issued_renderAll_iff (inputs : List RendererInput) (lists : List RendererDrawList)
    (draws : RendererDrawList) :
    ((RendererOGL.create inputs).renderAll (lists ++ [draws])).issued = drawsOf inputs draws ↔
      StaticFirst inputs draws ∧ ∀ a,
        drawCount a inputs draws ≤
          capacity a inputs (allInputsOnce inputs :: (lists ++ [draws])) ∧
        drawCount a inputs draws < 2 ^ 31 := by
  rw [RendererOGL.issued, issuedDraws_eq_iff]
  refine and_congr_right fun _ => forall_congr' fun a => ?_
  obtain ⟨htracks, hcache, hinputs⟩ := tracks_renderAll a inputs lists draws
  have hiff := htracks.multiDraw_eq_iff
  rwa [hcache, hinputs] at hiff

end Ogl

/-! ## Vulkan -/

namespace Vk

namespace RendererVulkan

/-- The indirect commands of an access that command buffer `i` draws.  What a buffer
that has been replaced since the recording holds is not known. -/
def indirectCommands (r : RendererVulkan) (i : Nat) (a : RendererInputDataAccess) :
    List (Option DrawIndirectCommand) :=
  match (r.commandPool[i]?).join.bind (Recording.drawOf · a) with
  | some d =>
      (((r.indirectOf a).filter fun b => b.id = d.buffer).map fun b =>
        b.contents.read 0 d.drawCount.toNat).getD (List.replicate d.drawCount.toNat none)
  | none => []

/-- What the submission of command buffer `i` issues. -/
def issued (r : RendererVulkan) (i : Nat) : List IssuedDraw := issuedDraws (r.indirectCommands i)

def runAll (r : RendererVulkan) (ops : List RendererOp) : RendererVulkan := ops.foldl step r

end RendererVulkan

/-- The indirect buffers hold the commands of the cached list. -/
def Filled (r : RendererVulkan) : Prop :=
  ∀ a b, r.indirectOf a = some b →
    b.contents.cells = ((internalDraws r.inputs r.drawCache).of a).map some

namespace Filled

variable {r : RendererVulkan}

theorem newIndirect {id : Nat} {cmds : List DrawIndirectCommand} {b : IndirectBuffer}
    (h : RendererVulkan.newIndirect id cmds = some b) : b.contents.cells = cmds.map some := by
  unfold RendererVulkan.newIndirect at h
  split at h
  · contradiction
  · rw [← Option.some.inj h]
    exact Buffer.subData_create cmds

theorem recordDrawList_of_ne {draws : RendererDrawList} (h : r.drawCache ≠ draws) :
    Filled (r.recordDrawList draws) := by
  have hmatch : ¬ r.drawsMatchCache draws = true := mt r.drawsMatchCache_iff.mp h
  rw [RendererVulkan.recordDrawList, if_neg hmatch]
  intro a b hb
  cases a with
  | staticFixed => exact newIndirect hb
  | dynamicFixed => exact newIndirect hb

theorem handleResize (h : Filled r) : Filled r.handleResize := by
  obtain ⟨pipeline, depth, id, heq⟩ := r.handleResize_eq
  rw [heq]
  exact h

theorem supply (h : Filled r) (draws : RendererDrawList) : Filled (r.supply draws) := by
  unfold RendererVulkan.supply
  split
  · exact h
  · next hmatch =>
    have hne : r.clearRenderingCommands.drawCache ≠ draws := mt r.drawsMatchCache_iff.mpr hmatch
    have hfilled := recordDrawList_of_ne hne
    exact hfilled

theorem processorRender (h : Filled r) (code : AcquireCode) :
    Filled (r.processorRender code) :=
  r.processorRender_rule code h h.handleResize h

theorem onWindowResize (h : Filled r) (viewCount : Nat) :
    Filled (r.onWindowResize viewCount) := by
  unfold RendererVulkan.onWindowResize
  split
  · exact h.handleResize
  · exact handleResize h

theorem step (h : Filled r) (op : RendererOp) : Filled (r.step op) := by
  cases op with
  | render code => exact h.processorRender code
  | renderDraws draws code => exact (h.supply draws).processorRender code
  | setClearColour clearColour => exact h
  | handleResize => exact h.handleResize
  | windowResize viewCount => exact h.onWindowResize viewCount

theorem runAll (h : Filled r) (ops : List RendererOp) : Filled (r.runAll ops) := by
  induction ops generalizing r with
  | nil => exact h
  | cons op ops ih => exact ih (h.step op)

/-- Without inputs there are no buffers; with inputs the default list fills new ones. -/
theorem create (config : RendererConfig) : Filled (RendererVulkan.create config) := by
  by_cases hnil : config.inputs = []
  · intro a b hb
    obtain ⟨_, _, hcache⟩ := RendererVulkan.create_fields config
    have hnone := ((RendererVulkan.steady_create config).buffers a).mpr
      (by rw [hcache, hnil]; rfl)
    rw [hnone] at hb
    contradiction
  · have hcache := (RendererVulkan.recorded_fields config).2.2.1
    refine recordDrawList_of_ne ?_
    rw [hcache]
    exact (allInputsOnce_ne_nil hnil).symm

end Filled

/-- A view that is recorded as it would be now draws the cached list, cut to the 32
bits of its count. -/
theorem Recorded.indirectCommands {r : RendererVulkan} (hs : Steady r) (hr : Recorded r)
    (hf : Filled r) {i : Nat} (hi : i < r.getViewCount) (a : RendererInputDataAccess) :
    r.indirectCommands i a =
      ((handlesOf a r.inputs r.drawCache).map fun handle =>
        some (drawCommand a r.inputs handle.value)).take
          ((handlesOf a r.inputs r.drawCache).length % 2 ^ 32) := by
  rw [RendererVulkan.indirectCommands, hr i hi, Option.join_some, Option.bind_some,
    r.drawOf_recording i a]
  cases hbuf : r.indirectOf a with
  | none => simp [(hs.buffers a).mp hbuf]
  | some b =>
      have hcount := toNat_setWidth_numDrawsOf a r.inputs r.drawCache
      have hcells := hf a b hbuf
      rw [internalDraws, commands_internalDraws (by decide) (by decide), List.map_map] at hcells
      simp only [Option.map_some, Option.filter_some, decide_true, if_true, Option.getD_some]
      rw [RendererVulkan.numDraws, hcount, Buffer.read, slice, List.drop_zero, hcells]
      rfl

theorem Recorded.issued_iff {r : RendererVulkan} (hs : Steady r) (hr : Recorded r)
    (hf : Filled r) {i : Nat} (hi : i < r.getViewCount) :
    r.issued i = drawsOf r.inputs r.drawCache ↔
      StaticFirst r.inputs r.drawCache ∧
        ∀ a, (handlesOf a r.inputs r.drawCache).length < 2 ^ 32 := by
  rw [RendererVulkan.issued, issuedDraws_eq_iff]
  refine and_congr_right fun _ => forall_congr' fun a => ?_
  rw [hr.indirectCommands hs hf hi, List.take_eq_self_iff, List.length_map]
  omega

/-- The views of a stale renderer draw nothing. -/
theorem Stale.indirectCommands {r : RendererVulkan} (h : Stale r) (i : Nat)
    (a : RendererInputDataAccess) : r.indirectCommands i a = [] := by
  unfold RendererVulkan.indirectCommands
  cases hc : (r.commandPool[i]?).join with
  | none => rfl
  | some c =>
      have hzero := h.undrawn i c (Option.join_eq_some_iff.mp hc) a
      cases hd : c.drawOf a with
      | none => simp [hd]
      | some d =>
          rw [hd] at hzero
          have hcount : d.drawCount.toNat = 0 := hzero
          cases hb : (r.indirectOf a).filter fun b => b.id = d.buffer with
          | none => simp [hd, hb, hcount]
          | some b => simp [hd, hb, hcount, Buffer.read, slice]

/-- The default list is not empty. -/
theorem Stale.issued_ne {r : RendererVulkan} (h : Stale r) (i : Nat) :
    r.issued i ≠ drawsOf r.inputs r.drawCache := by
  rw [RendererVulkan.issued, Ne, issuedDraws_eq_iff, h.drawCache]
  intro hissued
  obtain ⟨a, ha⟩ := exists_mem_handlesOf_allInputsOnce h.nonempty
  have hnil := h.indirectCommands i a
  rw [hissued.2 a, List.map_eq_nil_iff] at hnil
  exact ha hnil

/-! ## runs of a Vulkan renderer -/

theorem promisedRun_append {r : RendererVulkan} {xs ys : List RendererOp} :
    PromisedRun r (xs ++ ys) ↔ PromisedRun r xs ∧ PromisedRun (r.runAll xs) ys := by
  induction xs generalizing r with
  | nil => simp [PromisedRun, RendererVulkan.runAll]
  | cons op xs ih =>
      simp only [List.cons_append, PromisedRun, ih, and_assoc]
      rfl

theorem FreshFrom.runAll {r : RendererVulkan} (hs : Steady r) (hr : Recorded r)
    (ops : List RendererOp) : ∃ draws, FreshFrom r draws (r.runAll ops) := by
  induction ops generalizing r with
  | nil => exact ⟨r.drawCache, FreshFrom.refl hs hr⟩
  | cons op ops ih =>
      have hstep := FreshFrom.step hs hr op
      obtain ⟨draws, hrest⟩ := ih hstep.steady hstep.recorded
      exact ⟨draws, hstep.trans hrest⟩

/-- A stale renderer stays so until something makes it record its views again. -/
theorem Stale.runAll {r : RendererVulkan} (h : Stale r) {ops : List RendererOp}
    (hp : PromisedRun r ops) :
    ((∃ op ∈ ops, op.Refreshes r.headless r.inputs) → ∃ draws, FreshFrom r draws (r.runAll ops)) ∧
    ((¬ ∃ op ∈ ops, op.Refreshes r.headless r.inputs) →
      Stale (r.runAll ops) ∧ (r.runAll ops).headless = r.headless ∧
        (r.runAll ops).inputs = r.inputs) := by
  induction ops generalizing r with
  | nil => exact ⟨by simp, fun _ => ⟨h, rfl, rfl⟩⟩
  | cons op ops ih =>
      by_cases hop : op.Refreshes r.headless r.inputs
      · have hstep := (h.refresh hop hp.1).1
        obtain ⟨draws, hrest⟩ := FreshFrom.runAll hstep.steady hstep.recorded ops
        exact ⟨fun _ => ⟨draws, hstep.trans hrest⟩, fun hno => absurd ⟨op, by simp, hop⟩ hno⟩
      · obtain ⟨code, _, hdate, _, hstep, _⟩ := h.exists_code hop
        obtain ⟨hstale, hheadless, hinputs⟩ := h.processorRender hdate
        rw [← hstep] at hstale hheadless hinputs
        have hrest := ih hstale hp.2
        rw [hheadless, hinputs] at hrest
        refine ⟨fun hsome => ?_, fun hno => hrest.2 fun ⟨o, ho, hr⟩ => hno ⟨o, by simp [ho], hr⟩⟩
        obtain ⟨o, ho, hr⟩ := hsome
        obtain ⟨draws, hfresh⟩ := hrest.1 (by grind)
        exact ⟨draws, hheadless ▸ hfresh.headless, hinputs ▸ hfresh.inputs, hfresh.drawCache,
          hfresh.steady, hfresh.recorded⟩

/-- The views have been recorded since the constructor recorded them with no draw
list; without inputs that list was the right one. -/
def RecordedSince (config : RendererConfig) (ops : List RendererOp) : Prop :=
  config.inputs = [] ∨ ∃ op ∈ ops, op.Refreshes config.headless config.inputs

theorem recordedSince_append {config : RendererConfig} {xs ys : List RendererOp} :
    RecordedSince config (xs ++ ys) ↔ RecordedSince config xs ∨ RecordedSince config ys := by
  grind [RecordedSince]

/-- After any operations the views are recorded as they would be now, or have not been
recorded since the constructor. -/
theorem recorded_or_stale (config : RendererConfig) {ops : List RendererOp}
    (hp : PromisedRun (.create config) ops) :
    ((RendererVulkan.create config).runAll ops).headless = config.headless ∧
    ((RendererVulkan.create config).runAll ops).inputs = config.inputs ∧
    (RecordedSince config ops → Steady ((RendererVulkan.create config).runAll ops) ∧
      Recorded ((RendererVulkan.create config).runAll ops)) ∧
    (¬ RecordedSince config ops → Stale ((RendererVulkan.create config).runAll ops)) := by
  obtain ⟨hheadless, hinputs, _⟩ := RendererVulkan.create_fields config
  by_cases hnil : config.inputs = []
  · have hr : Recorded (.create config) := by
      rw [RendererVulkan.create_of_nil config hnil]
      exact RendererVulkan.recorded_recorded config
    obtain ⟨draws, hf⟩ := FreshFrom.runAll (RendererVulkan.steady_create config) hr ops
    exact ⟨hf.headless.trans hheadless, hf.inputs.trans hinputs,
      fun _ => ⟨hf.steady, hf.recorded⟩, fun hno => absurd (Or.inl hnil) hno⟩
  · have hrun := (RendererVulkan.stale_create config hnil).runAll hp
    rw [hheadless, hinputs] at hrun
    by_cases hsome : ∃ op ∈ ops, op.Refreshes config.headless config.inputs
    · obtain ⟨draws, hf⟩ := hrun.1 hsome
      exact ⟨hf.headless.trans hheadless, hf.inputs.trans hinputs,
        fun _ => ⟨hf.steady, hf.recorded⟩, fun hno => absurd (Or.inr hsome) hno⟩
    · obtain ⟨hstale, hh, hi⟩ := hrun.2 hsome
      exact ⟨hh, hi, fun hsince => (hsince.elim hnil hsome).elim, fun _ => hstale⟩

/-- Where a submission comes from. -/
theorem submission_cases {r s : RendererVulkan} {op : RendererOp} {i : Nat}
    (h : r.submission op = some (s, i)) :
    (∃ code, op = .render code ∧ s = r ∧ r.submits code = some i) ∨
    ∃ draws code, op = .renderDraws draws code ∧ s = r.supply draws ∧
      (r.supply draws).submits code = some i := by
  cases op with
  | render code =>
      obtain ⟨j, hj, hpair⟩ := Option.map_eq_some_iff.mp h
      obtain ⟨rfl, rfl⟩ := Prod.mk.inj hpair
      exact Or.inl ⟨code, rfl, rfl, hj⟩
  | renderDraws draws code =>
      obtain ⟨j, hj, hpair⟩ := Option.map_eq_some_iff.mp h
      obtain ⟨rfl, rfl⟩ := Prod.mk.inj hpair
      exact Or.inr ⟨draws, code, rfl, rfl, hj⟩
  | setClearColour clearColour => simp [RendererVulkan.submission] at h
  | handleResize => simp [RendererVulkan.submission] at h
  | windowResize viewCount => simp [RendererVulkan.submission] at h

/-- With an out-of-date swapchain nothing is submitted. -/
theorem not_outOfDate_of_submits {r : RendererVulkan} {code : AcquireCode} {i : Nat}
    (h : r.submits code = some i) : ¬ (r.headless = false ∧ code = .errorOutOfDate) := by
  rintro ⟨hheadless, rfl⟩
  simp [RendererVulkan.submits, hheadless, acquireNextImageIndex] at h

theorem headless_supply (r : RendererVulkan) (draws : RendererDrawList) :
    (r.supply draws).headless = r.headless := by
  unfold RendererVulkan.supply
  split
  · rfl
  · exact (r.clearRenderingCommands.recordDrawList_spec draws).1

/-- What an operation submits, if it or one before it has recorded the views, is a view
recorded as it would be now. -/
theorem recorded_submission (config : RendererConfig) {ops : List RendererOp} {op : RendererOp}
    {s : RendererVulkan} {i : Nat} (hp : PromisedRun (.create config) (ops ++ [op]))
    (hsince : RecordedSince config (ops ++ [op]))
    (hsub : ((RendererVulkan.create config).runAll ops).submission op = some (s, i)) :
    Steady s ∧ Recorded s ∧ Filled s ∧ s.inputs = config.inputs ∧ i < s.getViewCount := by
  obtain ⟨hops, hlast⟩ := promisedRun_append.mp hp
  obtain ⟨hheadless, hinputs, hrecorded, hstale⟩ := recorded_or_stale config hops
  have hfilled := (Filled.create config).runAll ops
  generalize (RendererVulkan.create config).runAll ops = r at *
  have hcode : ∀ code, op.code = some code → ∀ j, code = .success j → j < r.getViewCount :=
    fun code hop j hj => hlast.1 j (hj ▸ hop)
  by_cases hbefore : RecordedSince config ops
  · obtain ⟨hs, hr⟩ := hrecorded hbefore
    obtain ⟨code, rfl, rfl, hj⟩ | ⟨draws, code, rfl, rfl, hj⟩ := submission_cases hsub
    · exact ⟨hs, hr, hfilled, hinputs, s.submits_lt hs (hcode code rfl) hj⟩
    · have hfresh := FreshFrom.supply_any hs hr draws
      have hviews := r.getViewCount_supply draws
      exact ⟨hfresh.steady, hfresh.recorded, hfilled.supply draws, hfresh.inputs.trans hinputs,
        (r.supply draws).submits_lt hfresh.steady (hviews ▸ hcode code rfl) hj⟩
  · have hs := hstale hbefore
    have hnonempty : config.inputs ≠ [] := hinputs ▸ hs.nonempty
    have hrefresh : op.Refreshes config.headless config.inputs := by
      obtain hnil | ⟨op', hop', hrefresh⟩ := (recordedSince_append.mp hsince).resolve_left hbefore
      · exact absurd hnil hnonempty
      · rwa [List.mem_singleton.mp hop'] at hrefresh
    rw [← hheadless] at hrefresh
    obtain ⟨code, rfl, rfl, hj⟩ | ⟨draws, code, rfl, rfl, hj⟩ := submission_cases hsub
    · exact absurd hrefresh (not_outOfDate_of_submits hj)
    · have hdate : ¬ (r.headless = false ∧ code = .errorOutOfDate) := by
        rintro ⟨hh, rfl⟩
        exact not_outOfDate_of_submits hj ⟨(headless_supply r draws).trans hh, rfl⟩
      have hne : r.drawCache ≠ draws := by
        rw [hs.drawCache, hinputs]
        exact (hrefresh.resolve_right hdate).symm
      have hfresh := FreshFrom.supply hs.steady hne
      have hviews := r.getViewCount_supply draws
      exact ⟨hfresh.steady, hfresh.recorded, hfilled.supply draws, hfresh.inputs.trans hinputs,
        (r.supply draws).submits_lt hfresh.steady (hviews ▸ hcode code rfl) hj⟩

/-- Without that, what is submitted is a view of the constructor. -/
theorem stale_submission (config : RendererConfig) {ops : List RendererOp} {op : RendererOp}
    {s : RendererVulkan} {i : Nat} (hp : PromisedRun (.create config) (ops ++ [op]))
    (hsince : ¬ RecordedSince config (ops ++ [op]))
    (hsub : ((RendererVulkan.create config).runAll ops).submission op = some (s, i)) :
    Stale s ∧ s.inputs = config.inputs := by
  obtain ⟨hheadless, hinputs, -, hstale⟩ := recorded_or_stale config (promisedRun_append.mp hp).1
  rw [recordedSince_append, not_or] at hsince
  have hs := hstale hsince.1
  have hop : ¬ op.Refreshes config.headless config.inputs :=
    fun h => hsince.2 (Or.inr ⟨op, List.mem_singleton_self op, h⟩)
  rw [← hheadless, ← hinputs] at hop
  obtain ⟨code, -, -, -, -, hsubmission⟩ := hs.exists_code hop
  rw [hsubmission] at hsub
  obtain ⟨j, -, hpair⟩ := Option.map_eq_some_iff.mp hsub
  rw [← (Prod.mk.inj hpair).1]
  exact ⟨hs, hinputs⟩

/-- The list that was supplied is in force. -/
theorem drawCache_submission {r s : RendererVulkan} {draws : RendererDrawList}
    {code : AcquireCode} {i : Nat} (hsub : r.submission (.renderDraws draws code) = some (s, i)) :
    s.drawCache = draws := by
  obtain ⟨j, -, hpair⟩ := Option.map_eq_some_iff.mp hsub
  rw [← (Prod.mk.inj hpair).1]
  unfold RendererVulkan.supply
  split
  · next hmatch => exact r.drawsMatchCache_iff.mp hmatch
  · obtain ⟨_, _, _, _, _, hcache⟩ := r.clearRenderingCommands.recordDrawList_spec draws
    exact hcache

/-- The commands that a view which has been recorded since reads for a draw list: as many as the
low 32 bits of their number say. -/
theorem indirectCommands_submission (config : RendererConfig) {ops : List RendererOp}
    {draws : RendererDrawList} {code : AcquireCode} {s : RendererVulkan} {i : Nat}
    (hp : PromisedRun (.create config) (ops ++ [.renderDraws draws code]))
    (hsince : RecordedSince config (ops ++ [.renderDraws draws code]))
    (hsub : ((RendererVulkan.create config).runAll ops).submission (.renderDraws draws code) =
      some (s, i)) (a : RendererInputDataAccess) :
    s.indirectCommands i a =
      ((handlesOf a config.inputs draws).map fun handle =>
        some (drawCommand a config.inputs handle.value)).take
          ((handlesOf a config.inputs draws).length % 2 ^ 32) := by
  obtain ⟨hs, hr, hf, hinputs, hi⟩ := recorded_submission config hp hsince hsub
  rw [hr.indirectCommands hs hf hi, drawCache_submission hsub, hinputs]

/-- What a Vulkan renderer issues for a draw list, after any operations. -/
theorem issued_renderDraws_iff (config : RendererConfig) {ops : List RendererOp}
    {draws : RendererDrawList} {code : AcquireCode} {s : RendererVulkan} {i : Nat}
    (hp : PromisedRun (.create config) (ops ++ [.renderDraws draws code]))
    (hsub : ((RendererVulkan.create config).runAll ops).submission (.renderDraws draws code) =
      some (s, i)) :
    s.issued i = drawsOf config.inputs draws ↔
      StaticFirst config.inputs draws ∧
      RecordedSince config (ops ++ [.renderDraws draws code]) ∧
      ∀ a, (handlesOf a config.inputs draws).length < 2 ^ 32 := by
  have hcache := drawCache_submission hsub
  by_cases hsince : RecordedSince config (ops ++ [.renderDraws draws code])
  · obtain ⟨hs, hr, hf, hinputs, hi⟩ := recorded_submission config hp hsince hsub
    have hiff := hr.issued_iff hs hf hi
    rw [hcache, hinputs] at hiff
    simp [hiff, hsince]
  · obtain ⟨hs, hinputs⟩ := stale_submission config hp hsince hsub
    have hne := hs.issued_ne i
    rw [hcache, hinputs] at hne
    simp [hne, hsince]

/-- The draw lists among some operations. -/
def suppliedLists (ops : List RendererOp) : List RendererDrawList :=
  ops.filterMap fun
    | .renderDraws draws _ => some draws
    | _ => none

end Vk

/-! ## both backends -/

/-- **Same draws**: for the same inputs and draw list the two backends build equal
commands, word for word.  After the same calls they issue equally many of them, of either
access, exactly when the Vulkan views have been recorded since the constructor, and the
count fits in an `int` and in the OpenGL indirect buffer; or the views have not been, and
OpenGL too issues nothing, the count being no positive `int`.  (Only the low 32 bits of a
count are issued.)  They issue the same draws then, if no count has more than these. -/
theorem backends_issue_same_draws (config : Vk.RendererConfig) (ops : List Vk.RendererOp)
    (draws : RendererDrawList) (code : Vk.AcquireCode)
    (hp : Vk.PromisedRun (.create config) (ops ++ [.renderDraws draws code]))
    (s : Vk.RendererVulkan) (i : Nat)
    (hsub : ((Vk.RendererVulkan.create config).runAll ops).submission (.renderDraws draws code) =
      some (s, i)) :
    Ogl.internalDraws config.inputs draws = Vk.internalDraws config.inputs draws ∧
    ((∀ a, issuedCount a ((Ogl.RendererOGL.create config.inputs).renderAll
          (Vk.suppliedLists ops ++ [draws])).issued = issuedCount a (s.issued i)) ↔
      ∀ a, (Vk.RecordedSince config (ops ++ [.renderDraws draws code]) →
          Ogl.drawCount a config.inputs draws % 2 ^ 32 < 2 ^ 31 ∧
          Ogl.drawCount a config.inputs draws % 2 ^ 32 ≤ Ogl.capacity a config.inputs
            (allInputsOnce config.inputs :: (Vk.suppliedLists ops ++ [draws]))) ∧
        (¬ Vk.RecordedSince config (ops ++ [.renderDraws draws code]) →
          Ogl.drawCount a config.inputs draws % 2 ^ 32 = 0 ∨
          2 ^ 31 ≤ Ogl.drawCount a config.inputs draws % 2 ^ 32)) ∧
    (Vk.RecordedSince config (ops ++ [.renderDraws draws code]) →
      (∀ a, Ogl.drawCount a config.inputs draws < 2 ^ 31 ∧
        Ogl.drawCount a config.inputs draws ≤ Ogl.capacity a config.inputs
          (allInputsOnce config.inputs :: (Vk.suppliedLists ops ++ [draws]))) →
      ((Ogl.RendererOGL.create config.inputs).renderAll
        (Vk.suppliedLists ops ++ [draws])).issued = s.issued i) := by
  refine ⟨internalDraws_eq config.inputs draws, forall_congr' fun a => ?_, fun hsince hfit => ?_⟩
  · obtain ⟨htracks, hcache, hinputs⟩ :=
      Ogl.tracks_renderAll a config.inputs (Vk.suppliedLists ops) draws
    have hneeded := htracks.needed
    have hopengl := htracks.length_multiDraw
    rw [hcache, hinputs] at hneeded hopengl
    rw [Ogl.RendererOGL.issued, Vk.RendererVulkan.issued, issuedCount_issuedDraws,
      issuedCount_issuedDraws, hopengl]
    by_cases hsince : Vk.RecordedSince config (ops ++ [.renderDraws draws code])
    · have hvulkan : (s.indirectCommands i a).length =
          Ogl.drawCount a config.inputs draws % 2 ^ 32 := by
        rw [Vk.indirectCommands_submission config hp hsince hsub, List.length_take, List.length_map]
        exact Nat.min_eq_left (Nat.mod_le _ _)
      simp only [hsince, hvulkan, not_true_eq_false, true_imp_iff, false_imp_iff, and_true]
      split <;> omega
    · have hvulkan := (Vk.stale_submission config hp hsince hsub).1.indirectCommands i a
      simp only [hsince, hvulkan, not_false_eq_true, true_imp_iff, false_imp_iff, true_and,
        List.length_nil]
      split <;> omega
  · refine congrArg issuedDraws (funext fun a => ?_)
    obtain ⟨htracks, hcache, hinputs⟩ :=
      Ogl.tracks_renderAll a config.inputs (Vk.suppliedLists ops) draws
    have hopengl := htracks.multiDraw_eq_iff
    rw [hcache, hinputs] at hopengl
    rw [hopengl.mpr (hfit a).symm, Vk.indirectCommands_submission config hp hsince hsub,
      List.take_of_length_le]
    have hcount : (handlesOf a config.inputs draws).length < 2 ^ 31 := (hfit a).1
    rw [List.length_map, Nat.mod_eq_of_lt (by omega)]

theorem backends_issue_same_draws_twoPoints :
    ((Ogl.RendererOGL.create twoPoints).renderAll [[⟨1⟩, ⟨0⟩]]).issued =
      ((Vk.RendererVulkan.create twoPointsConfig).supply [⟨1⟩, ⟨0⟩]).issued 0 :=
  (backends_issue_same_draws twoPointsConfig [] [⟨1⟩, ⟨0⟩] .other
    ⟨fun i hi => by simp [Vk.RendererOp.code] at hi, trivial⟩ _ 0 rfl).2.2
    (Or.inr ⟨_, List.mem_singleton_self _, Or.inl (by decide)⟩) fun a => by cases a <;> decide

/-- The default list: two draws in OpenGL, none in Vulkan.  The static point twice: one
draw in OpenGL, two in Vulkan. -/
theorem backends_issue_different_draws :
    ValidDraws twoPoints [⟨0⟩, ⟨1⟩] ∧
    ((Ogl.RendererOGL.create twoPoints).renderAll [[⟨0⟩, ⟨1⟩]]).issued.length = 2 ∧
    (((Vk.RendererVulkan.create twoPointsConfig).supply [⟨0⟩, ⟨1⟩]).issued 0).length = 0 ∧
    ValidDraws twoPoints [⟨1⟩, ⟨1⟩] ∧
    ((Ogl.RendererOGL.create twoPoints).renderAll [[⟨1⟩, ⟨1⟩]]).issued.length = 1 ∧
    (((Vk.RendererVulkan.create twoPointsConfig).supply [⟨1⟩, ⟨1⟩]).issued 0).length = 2 := by
  unfold ValidDraws
  decide

/-- **Draw order**: a `render(draws)` draws its list in order, in either backend, only
if no dynamic handle of the list comes before a static one.  It then does if the
indirect buffers hold the list (in OpenGL) and the submitted view was recorded for it
(in Vulkan), with the number of its draws. -/
theorem draws_in_order_iff (config : Vk.RendererConfig) (lists : List RendererDrawList)
    (ops : List Vk.RendererOp) (draws : RendererDrawList) (code : Vk.AcquireCode)
    (hp : Vk.PromisedRun (.create config) (ops ++ [.renderDraws draws code]))
    (s : Vk.RendererVulkan) (i : Nat)
    (hsub : ((Vk.RendererVulkan.create config).runAll ops).submission (.renderDraws draws code) =
      some (s, i)) :
    (((Ogl.RendererOGL.create config.inputs).renderAll (lists ++ [draws])).issued =
        drawsOf config.inputs draws ↔
      StaticFirst config.inputs draws ∧ ∀ a,
        Ogl.drawCount a config.inputs draws ≤
          Ogl.capacity a config.inputs (allInputsOnce config.inputs :: (lists ++ [draws])) ∧
        Ogl.drawCount a config.inputs draws < 2 ^ 31) ∧
    (s.issued i = drawsOf config.inputs draws ↔
      StaticFirst config.inputs draws ∧
      Vk.RecordedSince config (ops ++ [.renderDraws draws code]) ∧
      ∀ a, (handlesOf a config.inputs draws).length < 2 ^ 32) :=
  ⟨Ogl.issued_renderAll_iff config.inputs lists draws, Vk.issued_renderDraws_iff config hp hsub⟩

/-- Static before dynamic: `twoPoints` is drawn in order by its first frame. -/
theorem draws_in_order_staticFirst :
    ((Ogl.RendererOGL.create twoPoints).renderAll [[⟨1⟩, ⟨0⟩]]).issued =
        drawsOf twoPoints [⟨1⟩, ⟨0⟩] ∧
    (((Vk.RendererVulkan.create twoPointsConfig).supply [⟨1⟩, ⟨0⟩]).issued 0) =
        drawsOf twoPoints [⟨1⟩, ⟨0⟩] := by
  have h := draws_in_order_iff twoPointsConfig [] [] [⟨1⟩, ⟨0⟩] .other
    ⟨fun i hi => by simp [Vk.RendererOp.code] at hi, trivial⟩ _ 0 rfl
  refine ⟨h.1.mpr ⟨by decide, fun a => by cases a <;> decide⟩, h.2.mpr ⟨by decide, ?_, ?_⟩⟩
  · exact Or.inr ⟨_, List.mem_singleton_self _, Or.inl (by decide)⟩
  · intro a
    cases a <;> decide

/-- Dynamic before static: both backends draw the static point first. -/
theorem draws_out_of_order :
    ValidDraws Ogl.staticAndDynamic [⟨1⟩, ⟨0⟩] ∧
    ((Ogl.RendererOGL.create Ogl.staticAndDynamic).renderAll [[⟨1⟩, ⟨0⟩]]).issued =
      drawsOf Ogl.staticAndDynamic [⟨0⟩, ⟨1⟩] ∧
    ((Vk.RendererVulkan.create ⟨true, Ogl.staticAndDynamic, [], false, 1⟩).supply
      [⟨1⟩, ⟨0⟩]).issued 0 = drawsOf Ogl.staticAndDynamic [⟨0⟩, ⟨1⟩] ∧
    drawsOf Ogl.staticAndDynamic [⟨0⟩, ⟨1⟩] ≠ drawsOf Ogl.staticAndDynamic [⟨1⟩, ⟨0⟩] := by
  refine ⟨?_, ?_⟩
  · unfold ValidDraws
    decide
  · decide

end Topaz
