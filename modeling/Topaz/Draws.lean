import Topaz.Input

/-!
# Topaz.Draws

From a draw list to indirect draw commands: `RendererOGL::bind_draw_list` and
`RendererProcessorVulkan::record_draw_list`, up to the point where the commands
are handed to a buffer.

The two copies of the algorithm differ in the width of their running counts
(`unsigned int` against `std::size_t`, each cut to 32 bits in the command), so
the loops are written once over a width `w`.  For every width from 32 to 64 they
compute `drawCommand`, whose offsets are prefix sums over the inputs
(`commands_internalDraws`), and `num_static_draws` and its siblings compute the
number of commands, counted in an `int` (`toNat_numDrawsOf_eq_iff`).
-/

namespace Topaz

/-- An indexed indirect draw, as the 32-bit words the GPU reads.  (The Vulkan names
of the fields are `indexCount`, `instanceCount`, `firstIndex`, `vertexOffset`,
`firstInstance`.) -/
structure DrawIndirectCommand where
  count : BitVec 32
  instanceCount : BitVec 32
  firstIndex : BitVec 32
  baseVertex : BitVec 32
  baseInstance : BitVec 32
deriving DecidableEq, Repr

/-- The value-initialised command an `unordered_map` inserts for a missing key. -/
instance : Inhabited DrawIndirectCommand := ⟨⟨0, 0, 0, 0, 0⟩⟩

/-! ## one command per input -/

/-- `acc += n` for a `w`-bit unsigned accumulator and a `size_t` count: the sum is
a `size_t`, cut back to the accumulator. -/
def addCount {w : Nat} (acc : BitVec w) (n : Nat) : BitVec w :=
  (acc.setWidth 64 + BitVec.ofNat 64 n).setWidth w

theorem addCount_ofNat {w : Nat} (hw : w ≤ 64) (x n : Nat) :
    addCount (BitVec.ofNat w x) n = BitVec.ofNat w (x + n) := by
  rw [addCount, BitVec.setWidth_add _ _ hw, BitVec.setWidth_setWidth_of_le _ hw,
    BitVec.setWidth_eq, BitVec.setWidth_ofNat_of_le hw, BitVec.ofNat_add]

/-- The commands of the inputs of one access: the running counts, and the map from
inputs to commands.  Inputs are told apart by position: the renderer owns a clone
of each, so no two of its input pointers are equal. -/
structure InputDraws (w : Nat) where
  vtxCount : BitVec w
  idxCount : BitVec w
  draws : List (Nat × DrawIndirectCommand)

namespace InputDraws

variable {w : Nat}

def empty : InputDraws w := ⟨0, 0, []⟩

/-- Store the command of input `k` and count its vertices and indices. -/
def add (d : InputDraws w) (k : Nat) (input : RendererInput) : InputDraws w where
  vtxCount := addCount d.vtxCount input.vertexCount
  idxCount := addCount d.idxCount input.indexCount
  draws :=
    (k, { count := BitVec.ofNat 32 input.indexCount
          instanceCount := 1
          firstIndex := d.idxCount.setWidth 32
          baseVertex := d.vtxCount.setWidth 32
          baseInstance := 0 }) :: d.draws

/-- `input_draws[input]`. -/
def command (d : InputDraws w) (k : Nat) : DrawIndirectCommand :=
  (d.draws.lookup k).getD default

end InputDraws

/-- The two maps of the loop, `input_draws` and `dynamic_input_draws`. -/
structure DrawTables (w : Nat) where
  inputDraws : InputDraws w
  dynamicInputDraws : InputDraws w

namespace DrawTables

variable {w : Nat}

def empty : DrawTables w := ⟨.empty, .empty⟩

/-- The table of an access. -/
def of (t : DrawTables w) : RendererInputDataAccess → InputDraws w
  | .staticFixed => t.inputDraws
  | .dynamicFixed => t.dynamicInputDraws

def add (t : DrawTables w) (k : Nat) (input : RendererInput) : DrawTables w :=
  match input.dataAccess with
  | .staticFixed => { t with inputDraws := t.inputDraws.add k input }
  | .dynamicFixed => { t with dynamicInputDraws := t.dynamicInputDraws.add k input }

/-- The loop over the inputs from position `k` on. -/
def addAll (t : DrawTables w) (k : Nat) : List RendererInput → DrawTables w
  | [] => t
  | input :: inputs => (t.add k input).addAll (k + 1) inputs

theorem of_add (t : DrawTables w) (a : RendererInputDataAccess) (k : Nat)
    (input : RendererInput) :
    (t.add k input).of a =
      if input.dataAccess = a then (t.of a).add k input else t.of a := by
  unfold add
  cases input.dataAccess <;> cases a <;> rfl

end DrawTables

/-- The commands of every input, with `w`-bit running counts. -/
def drawTables (w : Nat) (inputs : List RendererInput) : DrawTables w :=
  DrawTables.empty.addAll 0 inputs

/-- The command `RendererOGL::bind_draw_list` makes for an input. -/
def Ogl.inputCommand (a : RendererInputDataAccess) (inputs : List RendererInput) (k : Nat) :
    DrawIndirectCommand := ((drawTables 32 inputs).of a).command k

/-- The command `RendererProcessorVulkan::record_draw_list` makes for an input. -/
def Vk.inputCommand (a : RendererInputDataAccess) (inputs : List RendererInput) (k : Nat) :
    DrawIndirectCommand := ((drawTables 64 inputs).of a).command k

/-- `DrawIndirectCommand::baseVertex` is an `unsigned int` in OpenGL. -/
def Ogl.baseVertex (cmd : DrawIndirectCommand) : Int := cmd.baseVertex.toNat

/-- `VkDrawIndexedIndirectCommand::vertexOffset` is an `int32_t`. -/
def Vk.vertexOffset (cmd : DrawIndirectCommand) : Int := cmd.baseVertex.toInt

/-! ## the draw list -/

/-- The two command vectors of the second loop. -/
structure InternalDraws where
  internalDraws : List DrawIndirectCommand
  internalDrawsDynamic : List DrawIndirectCommand
deriving DecidableEq, Repr

namespace InternalDraws

def of (d : InternalDraws) : RendererInputDataAccess → List DrawIndirectCommand
  | .staticFixed => d.internalDraws
  | .dynamicFixed => d.internalDrawsDynamic

/-- Append the command of one handle.  An out-of-range handle is undefined
behaviour in the source; here it draws nothing. -/
def push {w : Nat} (tables : DrawTables w) (inputs : List RendererInput) (d : InternalDraws)
    (handle : RendererInputHandle) : InternalDraws :=
  match accessOf inputs handle with
  | none => d
  | some .staticFixed =>
      { d with internalDraws :=
          d.internalDraws ++ [tables.inputDraws.command handle.value] }
  | some .dynamicFixed =>
      { d with internalDrawsDynamic :=
          d.internalDrawsDynamic ++ [tables.dynamicInputDraws.command handle.value] }

end InternalDraws

/-- The commands of a draw list, with `w`-bit running counts. -/
def internalDraws (w : Nat) (inputs : List RendererInput) (draws : RendererDrawList) :
    InternalDraws :=
  draws.foldl (InternalDraws.push (drawTables w inputs) inputs) ⟨[], []⟩

/-- `RendererOGL::bind_draw_list` counts in `unsigned int`. -/
def Ogl.internalDraws (inputs : List RendererInput) (draws : RendererDrawList) :
    InternalDraws := Topaz.internalDraws 32 inputs draws

/-- `RendererProcessorVulkan::record_draw_list` counts in `std::size_t`. -/
def Vk.internalDraws (inputs : List RendererInput) (draws : RendererDrawList) :
    InternalDraws := Topaz.internalDraws 64 inputs draws

/-! ## how many draws -/

/-- One step of `std::accumulate(.., 0, ..)`: the accumulator is an `int`, widened
to `size_t` for the lambda and cut back to `int` when its result is stored. -/
def accumulateStep (acc : BitVec 32) (counts : Bool) : BitVec 32 :=
  (acc.signExtend 64 + (if counts then 1 else 0)).setWidth 32

/-- `std::accumulate` from the `int` `0`, stored in a `std::size_t`. -/
def accumulate (counts : List Bool) : BitVec 64 :=
  (counts.foldl accumulateStep 0).signExtend 64

/-- The number of handles of an access in a draw list. -/
def numDrawsOf (a : RendererInputDataAccess) (inputs : List RendererInput)
    (drawCache : RendererDrawList) : BitVec 64 :=
  accumulate (drawCache.map fun handle => accessOf inputs handle = some a)

/-- The number of inputs of an access. -/
def numInputsOf (a : RendererInputDataAccess) (inputs : List RendererInput) : BitVec 64 :=
  accumulate (inputs.map fun input => input.dataAccess = a)

/-! ## what the loops compute -/

/-- The command of input `k`: its offsets are the vertices and indices of the
inputs of the same access before it. -/
def drawCommand (a : RendererInputDataAccess) (inputs : List RendererInput) (k : Nat) :
    DrawIndirectCommand where
  count := BitVec.ofNat 32 (((inputs[k]?).map RendererInput.indexCount).getD 0)
  instanceCount := 1
  firstIndex := BitVec.ofNat 32 (before (RendererInput.indexCountIn a) inputs k)
  baseVertex := BitVec.ofNat 32 (before (RendererInput.vertexCountIn a) inputs k)
  baseInstance := 0

/-- The command of an input does not depend on the inputs after it. -/
theorem drawCommand_append (a : RendererInputDataAccess) (inputs rest : List RendererInput)
    {k : Nat} (hk : k < inputs.length) :
    drawCommand a (inputs ++ rest) k = drawCommand a inputs k := by
  have hle : k ≤ inputs.length := Nat.le_of_lt hk
  simp only [drawCommand, before_append_left _ _ _ hle, List.getElem?_append_left hk]

/-- The table of access `a` after the loop has seen `inputs`. -/
structure InputDraws.Covers {w : Nat} (a : RendererInputDataAccess)
    (inputs : List RendererInput) (d : InputDraws w) : Prop where
  vtxCount : d.vtxCount =
    BitVec.ofNat w (before (RendererInput.vertexCountIn a) inputs inputs.length)
  idxCount : d.idxCount =
    BitVec.ofNat w (before (RendererInput.indexCountIn a) inputs inputs.length)
  command : ∀ k input, inputs[k]? = some input → input.dataAccess = a →
    d.command k = drawCommand a inputs k

namespace InputDraws

variable {w : Nat} {a : RendererInputDataAccess} {inputs : List RendererInput}
  {d : InputDraws w}

theorem command_add_self (d : InputDraws w) (k : Nat) (input : RendererInput) :
    (d.add k input).command k =
      { count := BitVec.ofNat 32 input.indexCount
        instanceCount := 1
        firstIndex := d.idxCount.setWidth 32
        baseVertex := d.vtxCount.setWidth 32
        baseInstance := 0 } := by
  simp [command, add]

theorem command_add_of_ne (d : InputDraws w) {k l : Nat} (hkl : l ≠ k) (input : RendererInput) :
    (d.add k input).command l = d.command l := by
  have hbeq : (l == k) = false := by simpa using hkl
  simp [command, add, List.lookup_cons, hbeq]

/-- An input of another access changes neither the table nor its meaning. -/
theorem Covers.skip (h : d.Covers a inputs) {input : RendererInput}
    (ha : input.dataAccess ≠ a) : d.Covers a (inputs ++ [input]) := by
  have hv : input.vertexCountIn a = 0 := if_neg ha
  have hi : input.indexCountIn a = 0 := if_neg ha
  refine ⟨?_, ?_, fun k i hk hia => ?_⟩
  · rw [h.vtxCount, before_length, before_length]
    simp [hv]
  · rw [h.idxCount, before_length, before_length]
    simp [hi]
  · by_cases hlt : k < inputs.length
    · rw [drawCommand_append a inputs [input] hlt]
      exact h.command k i (by rwa [List.getElem?_append_left hlt] at hk) hia
    · rw [List.getElem?_append_right (by omega)] at hk
      have hmem := List.mem_singleton.mp (List.mem_of_getElem? hk)
      exact absurd (hmem ▸ hia) ha

/-- An input of the access is added at the running counts. -/
theorem Covers.add (h : d.Covers a inputs) (hlo : 32 ≤ w) (hhi : w ≤ 64)
    {input : RendererInput} (ha : input.dataAccess = a) :
    (d.add inputs.length input).Covers a (inputs ++ [input]) := by
  have hv : input.vertexCountIn a = input.vertexCount := if_pos ha
  have hi : input.indexCountIn a = input.indexCount := if_pos ha
  refine ⟨?_, ?_, fun k i hk hia => ?_⟩
  · rw [InputDraws.add, h.vtxCount, addCount_ofNat hhi, before_length, before_length]
    simp [hv]
  · rw [InputDraws.add, h.idxCount, addCount_ofNat hhi, before_length, before_length]
    simp [hi]
  · by_cases hlt : k < inputs.length
    · rw [command_add_of_ne d (by omega), drawCommand_append a inputs [input] hlt]
      exact h.command k i (by rwa [List.getElem?_append_left hlt] at hk) hia
    · have hlen : k < (inputs ++ [input]).length := (List.getElem?_eq_some_iff.mp hk).1
      have hkeq : k = inputs.length := by
        rw [List.length_append, List.length_singleton] at hlen
        omega
      rw [hkeq, command_add_self, h.vtxCount, h.idxCount, BitVec.setWidth_ofNat_of_le hlo,
        BitVec.setWidth_ofNat_of_le hlo]
      simp [drawCommand, before_append_left]

end InputDraws

/-- **Offsets loop**: after the loop, every input of an access has the command
whose offsets count what precedes it. -/
theorem DrawTables.covers_addAll {w : Nat} (hlo : 32 ≤ w) (hhi : w ≤ 64)
    (a : RendererInputDataAccess) (rest seen : List RendererInput) (t : DrawTables w)
    (h : (t.of a).Covers a seen) :
    ((t.addAll seen.length rest).of a).Covers a (seen ++ rest) := by
  induction rest generalizing seen t with
  | nil => rwa [List.append_nil]
  | cons input rest ih =>
      have hstep : ((t.add seen.length input).of a).Covers a (seen ++ [input]) := by
        rw [DrawTables.of_add]
        split
        · next ha => exact h.add hlo hhi ha
        · next ha => exact h.skip ha
      have hrest := ih (seen ++ [input]) (t.add seen.length input) hstep
      rwa [List.length_append, List.length_singleton, List.append_assoc] at hrest

theorem drawTables_command {w : Nat} (hlo : 32 ≤ w) (hhi : w ≤ 64)
    {a : RendererInputDataAccess} {inputs : List RendererInput} {k : Nat}
    {input : RendererInput} (hk : inputs[k]? = some input) (ha : input.dataAccess = a) :
    ((drawTables w inputs).of a).command k = drawCommand a inputs k := by
  have hempty : ((DrawTables.empty : DrawTables w).of a).Covers a [] := by
    cases a <;> exact ⟨rfl, rfl, fun k i hk _ => by simp at hk⟩
  exact (DrawTables.covers_addAll hlo hhi a inputs [] .empty hempty).command k input hk ha

theorem InternalDraws.of_push {w : Nat} (tables : DrawTables w) (inputs : List RendererInput)
    (d : InternalDraws) (handle : RendererInputHandle) (a : RendererInputDataAccess) :
    (InternalDraws.push tables inputs d handle).of a =
      d.of a ++ (handlesOf a inputs [handle]).map fun h => (tables.of a).command h.value := by
  unfold InternalDraws.push
  split
  · next hacc => simp [handlesOf, hacc]
  · next hacc => cases a <;> simp [handlesOf, hacc, InternalDraws.of, DrawTables.of]
  · next hacc => cases a <;> simp [handlesOf, hacc, InternalDraws.of, DrawTables.of]

/-- **Commands of a draw list**: one for each handle of the access, in order, with
the offsets of the input it names; for every width of the running counts. -/
theorem commands_internalDraws {w : Nat} (hlo : 32 ≤ w) (hhi : w ≤ 64)
    (a : RendererInputDataAccess) (inputs : List RendererInput) (draws : RendererDrawList) :
    (internalDraws w inputs draws).of a =
      (handlesOf a inputs draws).map fun h => drawCommand a inputs h.value := by
  have hfold : ∀ d : InternalDraws,
      (draws.foldl (InternalDraws.push (drawTables w inputs) inputs) d).of a =
        d.of a ++ (handlesOf a inputs draws).map fun h => drawCommand a inputs h.value := by
    induction draws with
    | nil => simp [handlesOf]
    | cons handle draws ih =>
        intro d
        have hhead : ((handlesOf a inputs [handle]).map fun h =>
            ((drawTables w inputs).of a).command h.value) =
              (handlesOf a inputs [handle]).map fun h => drawCommand a inputs h.value := by
          refine List.map_congr_left fun h hh => ?_
          obtain ⟨input, hinput, ha⟩ := exists_of_mem_handlesOf hh
          exact drawTables_command hlo hhi hinput ha
        have hsplit : handlesOf a inputs (handle :: draws) =
            handlesOf a inputs [handle] ++ handlesOf a inputs draws :=
          List.filter_append [handle] draws
        rw [List.foldl_cons, ih, InternalDraws.of_push, hhead, hsplit, List.map_append,
          List.append_assoc]
  rw [internalDraws, hfold]
  cases a <;> rfl

/-! ## what the counts are -/

theorem setWidth_signExtend_int (x : BitVec 32) : (x.signExtend 64).setWidth 32 = x := by
  apply BitVec.eq_of_toNat_eq
  rw [BitVec.toNat_setWidth, BitVec.toNat_signExtend, BitVec.toNat_setWidth]
  split <;> omega

theorem accumulateStep_ofNat (n : Nat) (counts : Bool) :
    accumulateStep (BitVec.ofNat 32 n) counts = BitVec.ofNat 32 (n + counts.toNat) := by
  rw [accumulateStep, BitVec.setWidth_add _ _ (by decide), setWidth_signExtend_int,
    BitVec.ofNat_add]
  cases counts <;> rfl

/-- The accumulation counts modulo `2 ^ 32` and reads the result as an `int`. -/
theorem accumulate_eq (counts : List Bool) :
    accumulate counts = (BitVec.ofNat 32 (counts.count true)).signExtend 64 := by
  have hfold : ∀ n : Nat, counts.foldl accumulateStep (BitVec.ofNat 32 n) =
      BitVec.ofNat 32 (n + counts.count true) := by
    induction counts with
    | nil => intro n; rfl
    | cons b counts ih =>
        intro n
        rw [List.foldl_cons, accumulateStep_ofNat, ih]
        cases b <;> simp [Nat.add_assoc, Nat.add_comm 1]
  rw [accumulate, show (0 : BitVec 32) = BitVec.ofNat 32 0 from rfl, hfold, Nat.zero_add]

/-- The count is right as long as the `int` does not turn negative. -/
theorem toNat_accumulate_eq_iff {counts : List Bool} (hlen : counts.length < 2 ^ 63) :
    (accumulate counts).toNat = counts.count true ↔ counts.count true < 2 ^ 31 := by
  have hle : counts.count true ≤ counts.length := List.count_le_length
  simp only [accumulate_eq, BitVec.toNat_signExtend, BitVec.toNat_setWidth,
    BitVec.msb_eq_decide, BitVec.toNat_ofNat, decide_eq_true_eq]
  split <;> omega

theorem count_map_handles (a : RendererInputDataAccess) (inputs : List RendererInput)
    (draws : RendererDrawList) :
    (draws.map fun handle => decide (accessOf inputs handle = some a)).count true =
      (handlesOf a inputs draws).length := by
  rw [handlesOf, ← List.countP_eq_length_filter, List.count, List.countP_map]
  congr 1
  funext handle
  simp

/-- **Draw counts**: `num_static_draws` and `num_dynamic_draws` are the number of
commands built from the list exactly as long as that number fits in an `int`. -/
theorem toNat_numDrawsOf_eq_iff (a : RendererInputDataAccess) (inputs : List RendererInput)
    {draws : RendererDrawList} (hlen : draws.length < 2 ^ 63) :
    (numDrawsOf a inputs draws).toNat = (handlesOf a inputs draws).length ↔
      (handlesOf a inputs draws).length < 2 ^ 31 := by
  rw [← count_map_handles, numDrawsOf]
  exact toNat_accumulate_eq_iff (by rwa [List.length_map])

/-- Passed on as a `std::uint32_t`, the count is modulo `2 ^ 32`. -/
theorem toNat_setWidth_numDrawsOf (a : RendererInputDataAccess) (inputs : List RendererInput)
    (draws : RendererDrawList) :
    ((numDrawsOf a inputs draws).setWidth 32).toNat =
      (handlesOf a inputs draws).length % 2 ^ 32 := by
  rw [numDrawsOf, accumulate_eq, setWidth_signExtend_int, BitVec.toNat_ofNat, count_map_handles]

end Topaz
