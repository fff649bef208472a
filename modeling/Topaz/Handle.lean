import Topaz.Ogl.Move

/-!
# Topaz.Handle

The handles that a renderer builder returns, and what they mean in the builder and in the
renderer built from it.

Inputs and resources are numbered from 0 on, independently of each other, and 0 is also the
value of the null handle.  So the first input and the first resource have a handle that
compares equal to `tz::nullhand`, and the null handle means the first input.  Otherwise
input handles are unambiguous: after any calls, the builder's inputs are the added ones in
order, and the handles their positions (`run_inputs`, `inputHandles_run`).
-/

namespace Topaz

/-! ## handles -/

/-- The value of `Handle(nullhand)`. -/
def nullhand : Nat := 0

def RendererInputHandle.null : RendererInputHandle := ⟨nullhand⟩

/-- A handle that a builder returned. -/
inductive ReturnedHandle where
  | input (handle : RendererInputHandle)
  | resource (handle : ResourceHandle)
deriving DecidableEq, Repr

namespace ReturnedHandle

def value : ReturnedHandle → Nat
  | input handle => handle.value
  | resource handle => handle.value

/-- `operator==(nullhand)`. -/
def isNull (handle : ReturnedHandle) : Bool := handle.value = nullhand

def input? : ReturnedHandle → Option RendererInputHandle
  | input handle => some handle
  | resource _ => none

end ReturnedHandle

/-! ## the builder -/

/-- The pointers to inputs and the resources of a renderer builder, in both backends; `none` is
the null pointer. -/
structure RendererBuilder (I : Type) where
  inputs : List (Option I)
  resources : ResourceBuilder

/-- A call that returns a handle. -/
inductive BuilderCall (I : Type) where
  | addInput (input : I)
  | addResource (resource : Resource)

def BuilderCall.input? {I : Type} : BuilderCall I → Option I
  | addInput input => some input
  | addResource _ => none

/-- The inputs that calls add. -/
def addedInputs {I : Type} (calls : List (BuilderCall I)) : List I :=
  calls.filterMap BuilderCall.input?

namespace RendererBuilder

variable {I : Type}

def empty : RendererBuilder I := ⟨[], ResourceBuilder.empty⟩

def addInput (b : RendererBuilder I) (input : I) : RendererBuilder I × RendererInputHandle :=
  let sz := b.inputs.length
  ({ b with inputs := b.inputs ++ [some input] }, ⟨sz⟩)

/-- `get_input`; `none` if the assertion fires. -/
def getInput (b : RendererBuilder I) (handle : RendererInputHandle) : Option (Option I) :=
  if handle.value < b.inputs.length then b.inputs[handle.value]? else none

def call (b : RendererBuilder I) : BuilderCall I → RendererBuilder I × ReturnedHandle
  | .addInput input =>
      let (b', handle) := b.addInput input
      (b', ReturnedHandle.input handle)
  | .addResource resource =>
      let (resources, handle) := b.resources.addResource resource
      ({ b with resources := resources }, ReturnedHandle.resource handle)

/-- A sequence of calls, with the handles they return. -/
def run (b : RendererBuilder I) : List (BuilderCall I) → RendererBuilder I × List ReturnedHandle
  | [] => (b, [])
  | c :: calls =>
      let (b', handle) := b.call c
      let (b'', handles) := b'.run calls
      (b'', handle :: handles)

end RendererBuilder

/-- The handles of inputs among those returned. -/
def inputHandles (handles : List ReturnedHandle) : List RendererInputHandle :=
  handles.filterMap ReturnedHandle.input?

/-! ## the renderer -/

section Renderer

variable {I C : Type}

/-- `RendererOGL::copy_inputs`; `none` if a null pointer is dereferenced. -/
def Ogl.copyInputs (uniqueClone : I → C) (builder : RendererBuilder I) : Option (List (Option C)) :=
  builder.inputs.foldlM (fun inputs input => do
    let input ← input
    return inputs ++ [some (uniqueClone input)]) []

/-- `RendererVulkan::copy_inputs`: a null pointer stays one. -/
def Vk.copyInputs (uniqueClone : I → C) (builder : RendererBuilder I) : List (Option C) :=
  builder.inputs.foldl (fun inputDuplicates input => inputDuplicates ++ [input.map uniqueClone]) []

/-- `get_input` of a renderer with these inputs, in both backends; `none` is `nullptr`. -/
def RendererInputs.getInput (inputs : List (Option C)) (handle : RendererInputHandle) : Option C :=
  if inputs.length ≤ handle.value then none else inputs[handle.value]?.join

end Renderer

/-! ## what calls do -/

section Run

variable {I C : Type}

namespace RendererBuilder

/-- A call adds its input, if it has one, at the end, and its handle is the position. -/
theorem call_inputs (b : RendererBuilder I) (c : BuilderCall I) :
    (b.call c).1.inputs = b.inputs ++ (c.input?.map some).toList ∧
    (b.call c).2.input? = c.input?.map fun _ => ⟨b.inputs.length⟩ := by
  cases c with
  | addInput input => exact ⟨rfl, rfl⟩
  | addResource resource => exact ⟨(List.append_nil _).symm, rfl⟩

theorem run_cons (b : RendererBuilder I) (c : BuilderCall I) (calls : List (BuilderCall I)) :
    b.run (c :: calls) =
      (((b.call c).1.run calls).1, (b.call c).2 :: ((b.call c).1.run calls).2) := rfl

theorem run_inputs (b : RendererBuilder I) (calls : List (BuilderCall I)) :
    (b.run calls).1.inputs = b.inputs ++ (addedInputs calls).map some := by
  induction calls generalizing b with
  | nil => simp [run, addedInputs]
  | cons c calls ih =>
      rw [run_cons, ih, (b.call_inputs c).1, List.append_assoc]
      cases hc : c.input? <;> simp [addedInputs, hc]

theorem inputHandles_run (b : RendererBuilder I) (calls : List (BuilderCall I)) :
    inputHandles (b.run calls).2 =
      (List.range' b.inputs.length (addedInputs calls).length).map RendererInputHandle.mk := by
  induction calls generalizing b with
  | nil => simp [run, addedInputs, inputHandles]
  | cons c calls ih =>
      have hih := ih (b.call c).1
      rw [(b.call_inputs c).1] at hih
      unfold inputHandles at hih ⊢
      rw [run_cons]
      cases hc : c.input? with
      | none => simp [(b.call_inputs c).2, hih, addedInputs, hc]
      | some input => simp [(b.call_inputs c).2, hih, addedInputs, hc, List.range'_succ]

/-- The first call returns the null handle. -/
theorem isNull_first (c : BuilderCall I) :
    ((empty : RendererBuilder I).call c).2.isNull = true := by
  cases c with
  | addInput input => rfl
  | addResource resource =>
      cases htype : resource.type <;>
        simp [call, ResourceBuilder.addResource, htype, ReturnedHandle.isNull,
          ReturnedHandle.value, empty, ResourceBuilder.empty, nullhand]

end RendererBuilder

theorem Vk.copyInputs_eq (uniqueClone : I → C) (builder : RendererBuilder I) :
    Vk.copyInputs uniqueClone builder = builder.inputs.map fun input => input.map uniqueClone := by
  unfold Vk.copyInputs
  induction builder.inputs using List.reverseRecOn with
  | nil => rfl
  | append_singleton inputs input ih =>
      rw [List.foldl_concat, ih, List.map_append]
      rfl

theorem Ogl.copyInputs_eq (uniqueClone : I → C) {builder : RendererBuilder I} {added : List I}
    (h : builder.inputs = added.map some) :
    Ogl.copyInputs uniqueClone builder =
      some (added.map fun input => some (uniqueClone input)) := by
  unfold Ogl.copyInputs
  rw [h]
  clear h
  induction added using List.reverseRecOn with
  | nil => rfl
  | append_singleton added input ih =>
      rw [List.map_append, List.map_singleton, foldlM_concat, ih]
      simp

/-- Handles are positions among the inputs. -/
theorem RendererInputs.getInput_map (uniqueClone : I → C) (added : List I)
    (handle : RendererInputHandle) :
    RendererInputs.getInput (added.map fun input => some (uniqueClone input)) handle =
      added[handle.value]?.map uniqueClone := by
  unfold RendererInputs.getInput
  split
  · next hle =>
      rw [List.length_map] at hle
      rw [List.getElem?_eq_none hle, Option.map_none]
  · rw [List.getElem?_map]
    cases added[handle.value]? <;> rfl

/-- A `RendererOGL` with all its members answers the same. -/
theorem RendererInputs.getInput_create (builder : Ogl.RendererBuilderOGL) (names : Ogl.ObjectNames)
    (handle : RendererInputHandle) :
    (Ogl.RendererObject.create builder names).getInput handle =
      RendererInputs.getInput (builder.inputs.map some) handle := by
  rw [RendererInputs.getInput_map fun input : RendererInput => input, Option.map_id']
  exact ite_length_le_getElem? builder.inputs handle.value

end Run

/-! ## what handles mean -/

section Meaning

variable {I C : Type} (uniqueClone : I → C)

/-- What `get_input` of a renderer with these inputs answers, if `handles` were returned for
`added`. -/
structure RendererAnswers (added : List I) (handles : List RendererInputHandle)
    (inputs : List (Option C)) : Prop where
  inputCount : inputs.length = added.length
  clone : ∀ (i : Nat) (input : I), added[i]? = some input →
    ∃ handle, handles[i]? = some handle ∧
      RendererInputs.getInput inputs handle = some (uniqueClone input)
  outOfRange : ∀ handle : RendererInputHandle, inputs.length ≤ handle.value →
    RendererInputs.getInput inputs handle = none

/-- The input handles of a builder and of both renderers built from it mean the inputs they were
returned for. -/
structure InputHandlesAnswered (calls : List (BuilderCall I)) : Prop where
  distinct : (inputHandles (RendererBuilder.empty.run calls).2).Nodup
  builder : ∀ (i : Nat) (input : I), (addedInputs calls)[i]? = some input →
    ∃ handle, (inputHandles (RendererBuilder.empty.run calls).2)[i]? = some handle ∧
      (RendererBuilder.empty.run calls).1.getInput handle = some (some input)
  ogl : ∃ inputs, Ogl.copyInputs uniqueClone (RendererBuilder.empty.run calls).1 = some inputs ∧
    RendererAnswers uniqueClone (addedInputs calls)
      (inputHandles (RendererBuilder.empty.run calls).2) inputs
  vk : RendererAnswers uniqueClone (addedInputs calls)
    (inputHandles (RendererBuilder.empty.run calls).2)
    (Vk.copyInputs uniqueClone (RendererBuilder.empty.run calls).1)

/-- The null handle means nothing in the renderers. -/
structure NullMeansNothing (calls : List (BuilderCall I)) : Prop where
  ogl : ∀ inputs, Ogl.copyInputs uniqueClone (RendererBuilder.empty.run calls).1 = some inputs →
    RendererInputs.getInput inputs RendererInputHandle.null = none
  vk : RendererInputs.getInput (Vk.copyInputs uniqueClone (RendererBuilder.empty.run calls).1)
    RendererInputHandle.null = none

/-- What is expected of handles. -/
structure HandlesSound (calls : List (BuilderCall I)) : Prop where
  notNull : ∀ handle ∈ (RendererBuilder.empty.run calls).2, handle.isNull = false
  answered : InputHandlesAnswered uniqueClone calls
  nullMeansNothing : NullMeansNothing uniqueClone calls

variable (calls : List (BuilderCall I))

theorem vk_copyInputs_run :
    Vk.copyInputs uniqueClone (RendererBuilder.empty.run calls).1 =
      (addedInputs calls).map fun input => some (uniqueClone input) := by
  rw [Vk.copyInputs_eq, RendererBuilder.run_inputs]
  simp [RendererBuilder.empty]

theorem ogl_copyInputs_run :
    Ogl.copyInputs uniqueClone (RendererBuilder.empty.run calls).1 =
      some ((addedInputs calls).map fun input => some (uniqueClone input)) :=
  Ogl.copyInputs_eq uniqueClone (RendererBuilder.run_inputs _ _)

theorem inputHandles_getElem? {i : Nat} (hi : i < (addedInputs calls).length) :
    (inputHandles ((RendererBuilder.empty : RendererBuilder I).run calls).2)[i]? = some ⟨i⟩ := by
  rw [RendererBuilder.inputHandles_run]
  simp [RendererBuilder.empty, hi]

/-- The renderers' inputs are the clones in order. -/
theorem rendererAnswers_map : RendererAnswers uniqueClone (addedInputs calls)
    (inputHandles (RendererBuilder.empty.run calls).2)
    ((addedInputs calls).map fun input => some (uniqueClone input)) where
  inputCount := List.length_map _
  clone i input hi := by
    have hlt := (List.getElem?_eq_some_iff.mp hi).1
    refine ⟨⟨i⟩, inputHandles_getElem? calls hlt, ?_⟩
    rw [RendererInputs.getInput_map, hi, Option.map_some]
  outOfRange handle hle := if_pos hle

theorem inputHandlesAnswered : InputHandlesAnswered uniqueClone calls where
  distinct := by
    rw [RendererBuilder.inputHandles_run]
    exact List.Pairwise.map _ (fun _ _ hne heq => hne (congrArg RendererInputHandle.value heq))
      List.nodup_range'
  builder i input hi := by
    have hlt := (List.getElem?_eq_some_iff.mp hi).1
    refine ⟨⟨i⟩, inputHandles_getElem? calls hlt, ?_⟩
    have hinputs : (RendererBuilder.empty.run calls).1.inputs = (addedInputs calls).map some :=
      RendererBuilder.run_inputs _ _
    rw [RendererBuilder.getInput, hinputs, if_pos (by rwa [List.length_map]), List.getElem?_map, hi,
      Option.map_some]
  ogl := ⟨_, ogl_copyInputs_run uniqueClone calls, rendererAnswers_map uniqueClone calls⟩
  vk := by
    rw [vk_copyInputs_run]
    exact rendererAnswers_map uniqueClone calls

theorem nullMeansNothing_iff : NullMeansNothing uniqueClone calls ↔ addedInputs calls = [] := by
  have hnull : RendererInputs.getInput
      ((addedInputs calls).map fun input => some (uniqueClone input)) RendererInputHandle.null =
        none ↔ addedInputs calls = [] := by
    rw [RendererInputs.getInput_map]
    simp [RendererInputHandle.null, nullhand]
  constructor
  · intro h
    rw [← hnull, ← vk_copyInputs_run]
    exact h.vk
  · intro h
    refine ⟨?_, ?_⟩
    · intro inputs hinputs
      rw [ogl_copyInputs_run, Option.some.injEq] at hinputs
      rw [← hinputs, hnull, h]
    · rw [vk_copyInputs_run, hnull, h]

/-- The first call returns the null handle. -/
theorem notNull_iff : (∀ handle ∈ ((RendererBuilder.empty : RendererBuilder I).run calls).2,
    handle.isNull = false) ↔ calls = [] := by
  constructor
  · intro h
    cases calls with
    | nil => rfl
    | cons c calls =>
        rw [RendererBuilder.run_cons] at h
        have hfirst := h _ List.mem_cons_self
        rw [RendererBuilder.isNull_first] at hfirst
        exact absurd hfirst (by decide)
  · rintro rfl
    simp [RendererBuilder.run]

/-- **Handles**: they are sound exactly if none was returned.  Input handles are unambiguous after
any calls, and the null handle means nothing exactly if there is no input. -/
theorem handles_sound_iff :
    (HandlesSound uniqueClone calls ↔ calls = []) ∧
    InputHandlesAnswered uniqueClone calls ∧
    (NullMeansNothing uniqueClone calls ↔ addedInputs calls = []) := by
  refine ⟨?_, inputHandlesAnswered uniqueClone calls, nullMeansNothing_iff uniqueClone calls⟩
  constructor
  · intro h
    exact (notNull_iff calls).mp h.notNull
  · intro h
    refine ⟨(notNull_iff calls).mpr h, inputHandlesAnswered uniqueClone calls, ?_⟩
    rw [nullMeansNothing_iff, h]
    rfl

end Meaning

/-- An input and a resource: both handles are null, and the null handle means the input. -/
theorem handles_first_null :
    ((RendererBuilder.empty : RendererBuilder Nat).run
      [.addInput 7, .addResource ⟨.buffer, .staticFixed, [1]⟩]).2 =
        [ReturnedHandle.input ⟨0⟩, ReturnedHandle.resource ⟨0⟩] ∧
    (ReturnedHandle.input ⟨0⟩).isNull = true ∧
    (ReturnedHandle.resource ⟨0⟩).isNull = true ∧
    RendererInputs.getInput (Vk.copyInputs id ((RendererBuilder.empty : RendererBuilder Nat).run
      [.addInput 7, .addResource ⟨.buffer, .staticFixed, [1]⟩]).1) RendererInputHandle.null =
        some 7 := by decide

end Topaz
