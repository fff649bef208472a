import Mathlib.Logic.Equiv.Basic
import Topaz.Machine

/-!
# Topaz.Vk.Recording

`vk::CommandBufferRecording`: an object that lives as long as a command buffer is recorded.
`record` begins the recording and flags the buffer, the destructor ends both, and moves
swap the buffer and the callback of two objects.

Swaps only permute who refers to what (`Consistent.swap`), so that the flag of a buffer says
whether a recording refers to it as long as every object is destroyed while it refers to
some buffer.  The destructor does not ask: it follows the null pointer of a moved-from
object.
-/

namespace Topaz
namespace Vk
namespace Recording

/-! ## the objects -/

/-- A command buffer, by its address; its handle stays the same. -/
abbrev BufferId := Nat

/-- The address of a recording. -/
abbrev ObjectId := Nat

/-- `on_recording_end` is empty or calls `notify_recording_end` of a buffer. -/
structure CommandBufferRecording where
  commandBuffer : Option BufferId
  onRecordingEnd : Option BufferId
deriving DecidableEq, Repr

inductive DriverCall where
  | vkBeginCommandBuffer (buffer : BufferId)
  | vkEndCommandBuffer (buffer : BufferId)
  | vkResetCommandBuffer (buffer : BufferId)
deriving DecidableEq, Repr

/-- The flags of the buffers, the live recordings, and what the driver was called with. -/
structure State where
  currentlyRecording : BufferId → Bool
  recordings : ObjectId → Option CommandBufferRecording
  driver : List DriverCall

def State.initial : State := ⟨fun _ => false, fun _ => none, []⟩

/-- `move` stands for `std::move` of the object at an address. -/
inductive Event where
  | record (buffer : BufferId) (object : ObjectId)
  | moveConstruct (object move : ObjectId)
  | moveAssign (object rhs : ObjectId)
  | destroy (object : ObjectId)
  | reset (buffer : BufferId)
deriving DecidableEq, Repr

namespace State

/-- `CommandBuffer::record`, its result constructed at an address. -/
def record (s : State) (buffer : BufferId) (object : ObjectId) : State :=
  { currentlyRecording := Function.update s.currentlyRecording buffer true
    recordings := Function.update s.recordings object (some ⟨some buffer, some buffer⟩)
    driver := s.driver ++ [.vkBeginCommandBuffer buffer] }

/-- `operator=(CommandBufferRecording&&)` swaps both members. -/
def moveAssign (s : State) (object rhs : ObjectId) : State :=
  let assigned := Function.update s.recordings object (s.recordings rhs)
  { s with recordings := Function.update assigned rhs (s.recordings object) }

/-- The move constructor assigns to a null recording. -/
def moveConstruct (s : State) (object move : ObjectId) : State :=
  moveAssign { s with recordings := Function.update s.recordings object (some ⟨none, none⟩) }
    object move

/-- The destructor; `none` if it dereferences a null pointer or calls an empty function. -/
def destroy (s : State) (object : ObjectId) : Option State :=
  (s.recordings object).bind fun recording =>
    recording.commandBuffer.bind fun buffer =>
      recording.onRecordingEnd.map fun notified =>
        { currentlyRecording := Function.update s.currentlyRecording notified false
          recordings := Function.update s.recordings object none
          driver := s.driver ++ [.vkEndCommandBuffer buffer] }

def reset (s : State) (buffer : BufferId) : State :=
  { s with driver := s.driver ++ [.vkResetCommandBuffer buffer] }

/-- An event, with its assertions taken to hold; `none` if its behaviour is undefined. -/
def step (s : State) : Event → Option State
  | .record buffer object => some (s.record buffer object)
  | .moveConstruct object move => some (s.moveConstruct object move)
  | .moveAssign object rhs => some (s.moveAssign object rhs)
  | .destroy object => s.destroy object
  | .reset buffer => some (s.reset buffer)

/-- Objects are constructed where none lives, and used and destroyed while they live. -/
def Legal (s : State) : Event → Prop
  | .record _ object => s.recordings object = none
  | .moveConstruct object move => s.recordings object = none ∧ s.recordings move ≠ none
  | .moveAssign object rhs => s.recordings object ≠ none ∧ s.recordings rhs ≠ none
  | .destroy object => s.recordings object ≠ none
  | .reset _ => True

/-- The assertions of the buffers. -/
def Asserted (s : State) : Event → Prop
  | .record buffer _ => s.currentlyRecording buffer = false
  | .destroy object => ∀ recording, s.recordings object = some recording →
      ∀ buffer, recording.onRecordingEnd = some buffer → s.currentlyRecording buffer = true
  | .reset buffer => s.currentlyRecording buffer = false
  | _ => True

end State

def after (events : List Event) : Option State := events.foldlM State.step State.initial

/-- An event of a program that trips no assertion. -/
def Allowed (history : List Event) (event : Event) : Prop :=
  ∀ s, after history = some s → s.Legal event ∧ s.Asserted event

/-! ## what should hold -/

/-- The object at an address lives and refers to a buffer. -/
def State.RefersTo (s : State) (object : ObjectId) (buffer : BufferId) : Prop :=
  ∃ recording, s.recordings object = some recording ∧ recording.commandBuffer = some buffer

/-- What a call does to a buffer that is recorded or not; `none` if it does not fit. -/
def DriverCall.exec (buffer : BufferId) (recorded : Bool) : DriverCall → Option Bool
  | .vkBeginCommandBuffer b =>
      if b = buffer then if recorded then none else some true else some recorded
  | .vkEndCommandBuffer b =>
      if b = buffer then if recorded then some false else none else some recorded
  | .vkResetCommandBuffer b =>
      if b = buffer then if recorded then none else some false else some recorded

/-- Each beginning of a buffer is followed by one end before the next; the buffer is recorded
if the last beginning has none yet. -/
def driverState (buffer : BufferId) (calls : List DriverCall) : Option Bool :=
  calls.foldlM (DriverCall.exec buffer) false

/-- The calls of an event: the end of a recording comes when the object that refers to it
dies. -/
def State.expectedCalls (s : State) : Event → List DriverCall
  | .record buffer _ => [.vkBeginCommandBuffer buffer]
  | .destroy object =>
      ((s.recordings object).bind CommandBufferRecording.commandBuffer).toList.map
        .vkEndCommandBuffer
  | .reset buffer => [.vkResetCommandBuffer buffer]
  | _ => []

/-- A buffer is flagged iff exactly one live object refers to it, beginnings and ends match,
and the destruction of a moved-from object touches no buffer. -/
structure EventRight (s : State) (event : Event) (s' : State) : Prop where
  flagged : ∀ buffer, s'.currentlyRecording buffer = true ↔ ∃! object, s'.RefersTo object buffer
  matched : ∀ buffer, driverState buffer s'.driver = some (s'.currentlyRecording buffer)
  calls : s'.driver = s.driver ++ s.expectedCalls event
  untouched : ∀ object, event = .destroy object → (∀ buffer, ¬ s.RefersTo object buffer) →
    s'.currentlyRecording = s.currentlyRecording

def Right (history : List Event) (event : Event) : Prop :=
  ∃ s s', after history = some s ∧ s.step event = some s' ∧ EventRight s event s'

/-- No moved-from object is destroyed. -/
def Safe (history : List Event) (event : Event) : Prop :=
  ∀ s, after history = some s → ∀ object, event = .destroy object →
    ∃ buffer, s.RefersTo object buffer

/-! ## what a step preserves -/

/-- The invariant of the objects: callback and pointer agree, and a buffer is flagged for the
one object that refers to it. -/
structure Consistent (s : State) : Prop where
  callback : ∀ object recording, s.recordings object = some recording →
    recording.onRecordingEnd = recording.commandBuffer
  unique : ∀ object object' buffer, s.RefersTo object buffer → s.RefersTo object' buffer →
    object = object'
  flagged : ∀ buffer, s.currentlyRecording buffer = true ↔ ∃ object, s.RefersTo object buffer
  matched : ∀ buffer, driverState buffer s.driver = some (s.currentlyRecording buffer)

theorem Consistent.initial : Consistent State.initial where
  callback := by simp [State.initial]
  unique := by simp [State.initial, State.RefersTo]
  flagged := by simp [State.initial, State.RefersTo]
  matched := fun _ => rfl

theorem driverState_concat (buffer : BufferId) (calls : List DriverCall) (call : DriverCall) :
    driverState buffer (calls ++ [call]) =
      (driverState buffer calls).bind fun recorded => call.exec buffer recorded :=
  foldlM_concat _ _ _ _

section Consistent

variable {s : State} (h : Consistent s)
include h

/-- One more beginning, of a buffer that is not flagged. -/
theorem Consistent.record {buffer : BufferId} {object : ObjectId}
    (hnone : s.recordings object = none) (hidle : s.currentlyRecording buffer = false) :
    Consistent (s.record buffer object) := by
  have hrefers : ∀ o b, (s.record buffer object).RefersTo o b ↔
      (o = object ∧ b = buffer) ∨ s.RefersTo o b := by
    intro o b
    by_cases ho : o = object
    · subst ho
      simp [State.RefersTo, State.record, hnone, eq_comm]
    · simp [State.RefersTo, State.record, ho]
  -- a buffer that is not flagged is referred to by nothing
  have hother : ∀ o, ¬ s.RefersTo o buffer := by
    intro o ho
    simp [(h.flagged buffer).mpr ⟨o, ho⟩] at hidle
  refine ⟨?_, ?_, ?_, ?_⟩
  · intro o recording ho
    by_cases heq : o = object
    · subst heq
      simp only [State.record, Function.update_self, Option.some.injEq] at ho
      rw [← ho]
    · simp only [State.record, Function.update_of_ne heq] at ho
      exact h.callback o recording ho
  · intro o o' b ho ho'
    rw [hrefers] at ho ho'
    rcases ho with ⟨ho, hb⟩ | ho <;> rcases ho' with ⟨ho', hb'⟩ | ho'
    · rw [ho, ho']
    · exact absurd (hb ▸ ho') (hother o')
    · exact absurd (hb' ▸ ho) (hother o)
    · exact h.unique o o' b ho ho'
  · intro b
    simp only [hrefers]
    by_cases hb : b = buffer
    · subst hb
      simp [State.record]
    · simp [State.record, hb, h.flagged b]
  · intro b
    rw [State.record, driverState_concat, h.matched b]
    by_cases hb : b = buffer
    · subst hb
      simp [DriverCall.exec, hidle]
    · simp [DriverCall.exec, hb, Ne.symm hb]

/-- A null recording refers to nothing. -/
theorem Consistent.construct {object : ObjectId} (hnone : s.recordings object = none) :
    Consistent { s with recordings := Function.update s.recordings object (some ⟨none, none⟩) } := by
  have hrefers : ∀ o b, State.RefersTo { s with
      recordings := Function.update s.recordings object (some ⟨none, none⟩) } o b ↔
      s.RefersTo o b := by
    intro o b
    by_cases ho : o = object
    · subst ho
      simp [State.RefersTo, hnone]
    · simp [State.RefersTo, ho]
  refine ⟨?_, ?_, ?_, h.matched⟩
  · intro o recording ho
    by_cases heq : o = object
    · subst heq
      simp only [Function.update_self, Option.some.injEq] at ho
      rw [← ho]
    · simp only [Function.update_of_ne heq] at ho
      exact h.callback o recording ho
  · simpa only [hrefers] using h.unique
  · simpa only [hrefers] using h.flagged

/-- Two objects exchange what they refer to. -/
theorem Consistent.moveAssign (object rhs : ObjectId) : Consistent (s.moveAssign object rhs) := by
  have hswap : (s.moveAssign object rhs).recordings = s.recordings ∘ Equiv.swap object rhs := by
    rw [Equiv.swap_comm, Equiv.comp_swap_eq_update]
    rfl
  have hrefers : ∀ o b, (s.moveAssign object rhs).RefersTo o b ↔
      s.RefersTo (Equiv.swap object rhs o) b := by
    intro o b
    rw [State.RefersTo, hswap]
    rfl
  refine ⟨?_, ?_, ?_, h.matched⟩
  · intro o recording ho
    rw [hswap] at ho
    exact h.callback _ recording ho
  · intro o o' b ho ho'
    rw [hrefers] at ho ho'
    exact (Equiv.swap object rhs).injective (h.unique _ _ b ho ho')
  · intro b
    simp only [hrefers]
    exact (h.flagged b).trans (Equiv.swap object rhs).surjective.exists

/-- The destructor of an object that refers to a buffer. -/
theorem Consistent.destroy_eq {object : ObjectId} {buffer : BufferId}
    (hobject : s.RefersTo object buffer) :
    s.destroy object = some
      { currentlyRecording := Function.update s.currentlyRecording buffer false
        recordings := Function.update s.recordings object none
        driver := s.driver ++ [.vkEndCommandBuffer buffer] } := by
  obtain ⟨recording, hrecording, hbuffer⟩ := hobject
  have hcallback := h.callback object recording hrecording
  simp [State.destroy, hrecording, hcallback, hbuffer]

/-- The recording that the object refers to ends. -/
theorem Consistent.destroy {object : ObjectId} {buffer : BufferId} {s' : State}
    (hobject : s.RefersTo object buffer) (hdestroy : s.destroy object = some s') :
    Consistent s' := by
  rw [h.destroy_eq hobject, Option.some.injEq] at hdestroy
  subst hdestroy
  have hrefers : ∀ o b, State.RefersTo
      { currentlyRecording := Function.update s.currentlyRecording buffer false
        recordings := Function.update s.recordings object none
        driver := s.driver ++ [.vkEndCommandBuffer buffer] } o b ↔
      o ≠ object ∧ s.RefersTo o b := by
    intro o b
    by_cases ho : o = object <;> simp [State.RefersTo, ho]
  have hrecorded : s.currentlyRecording buffer = true := (h.flagged buffer).mpr ⟨object, hobject⟩
  refine ⟨?_, ?_, ?_, ?_⟩
  · intro o recording ho
    have hne : o ≠ object := by
      rintro rfl
      simp at ho
    simp only [Function.update_of_ne hne] at ho
    exact h.callback o recording ho
  · intro o o' b ho ho'
    exact h.unique o o' b ((hrefers o b).mp ho).2 ((hrefers o' b).mp ho').2
  · intro b
    simp only [hrefers]
    by_cases hb : b = buffer
    · -- no other object refers to the buffer
      subst hb
      simp only [Function.update_self, Bool.false_eq_true, false_iff, not_exists, not_and]
      intro o hne ho
      exact hne (h.unique o object b ho hobject)
    · -- the object does not refer to another one
      rw [Function.update_of_ne hb, h.flagged b]
      refine exists_congr fun o => (and_iff_right_of_imp ?_).symm
      rintro ho rfl
      obtain ⟨recording, hrecording, hbuffer⟩ := hobject
      obtain ⟨recording', hrecording', hb'⟩ := ho
      grind
  · intro b
    rw [driverState_concat, h.matched b]
    by_cases hb : b = buffer
    · subst hb
      simp [DriverCall.exec, hrecorded]
    · simp [DriverCall.exec, hb, Ne.symm hb]

theorem Consistent.reset {buffer : BufferId} (hidle : s.currentlyRecording buffer = false) :
    Consistent (s.reset buffer) := by
  refine ⟨h.callback, h.unique, h.flagged, fun b => ?_⟩
  rw [State.reset, driverState_concat, h.matched b]
  by_cases hb : b = buffer
  · subst hb
    simp [DriverCall.exec, hidle]
  · simp [DriverCall.exec, Ne.symm hb]

/-- What is wanted of an event follows from the invariant, but for the calls. -/
theorem Consistent.flagged_iff_unique (buffer : BufferId) :
    s.currentlyRecording buffer = true ↔ ∃! object, s.RefersTo object buffer := by
  rw [h.flagged buffer]
  constructor
  · rintro ⟨object, hobject⟩
    exact ⟨object, hobject, fun other hother => h.unique other object buffer hother hobject⟩
  · rintro ⟨object, hobject, -⟩
    exact ⟨object, hobject⟩

/-- **Step**: an allowed event does what it should, unless it destroys a moved-from object. -/
theorem Consistent.step {event : Event} (hlegal : s.Legal event) (hasserted : s.Asserted event)
    (hsafe : ∀ object, event = .destroy object → ∃ buffer, s.RefersTo object buffer) :
    ∃ s', s.step event = some s' ∧ Consistent s' ∧
      s'.driver = s.driver ++ s.expectedCalls event := by
  cases event with
  | record buffer object => exact ⟨_, rfl, h.record hlegal hasserted, rfl⟩
  | moveConstruct object move =>
      exact ⟨_, rfl, (h.construct hlegal.1).moveAssign object move, (List.append_nil _).symm⟩
  | moveAssign object rhs => exact ⟨_, rfl, h.moveAssign object rhs, (List.append_nil _).symm⟩
  | destroy object =>
      obtain ⟨buffer, hobject⟩ := hsafe object rfl
      have hdestroy := h.destroy_eq hobject
      refine ⟨_, hdestroy, h.destroy hobject hdestroy, ?_⟩
      obtain ⟨recording, hrecording, hbuffer⟩ := hobject
      simp [State.expectedCalls, hrecording, hbuffer]
  | reset buffer => exact ⟨_, rfl, h.reset hasserted, rfl⟩

end Consistent

/-! ## histories -/

def ConsistentAfter (history : List Event) : Prop :=
  ∃ s, after history = some s ∧ Consistent s

theorem ConsistentAfter.nil : ConsistentAfter [] := ⟨_, rfl, Consistent.initial⟩

theorem after_concat (history : List Event) (event : Event) :
    after (history ++ [event]) = (after history).bind fun s => s.step event :=
  foldlM_concat _ _ _ _

/-- The destructor of a moved-from object has no defined behaviour. -/
theorem refersTo_of_destroy {s s' : State} {object : ObjectId}
    (h : s.destroy object = some s') : ∃ buffer, s.RefersTo object buffer := by
  obtain ⟨recording, hrecording, h⟩ := Option.bind_eq_some_iff.mp h
  obtain ⟨buffer, hbuffer, -⟩ := Option.bind_eq_some_iff.mp h
  exact ⟨buffer, recording, hrecording, hbuffer⟩

theorem ConsistentAfter.step {history : List Event} (h : ConsistentAfter history) {event : Event}
    (hallowed : Allowed history event) (hsafe : Safe history event) :
    ConsistentAfter (history ++ [event]) := by
  obtain ⟨s, hs, hconsistent⟩ := h
  obtain ⟨hlegal, hasserted⟩ := hallowed s hs
  obtain ⟨s', hstep, hconsistent', -⟩ := hconsistent.step hlegal hasserted (hsafe s hs)
  exact ⟨s', by rw [after_concat, hs, Option.bind_some, hstep], hconsistent'⟩

theorem ConsistentAfter.right_iff_safe {history : List Event} (h : ConsistentAfter history)
    {event : Event} (hallowed : Allowed history event) :
    Right history event ↔ Safe history event := by
  obtain ⟨s, hs, hconsistent⟩ := h
  constructor
  · rintro ⟨s₁, s', hs₁, hstep, -⟩ s₂ hs₂ object rfl
    obtain rfl := Option.some.inj (hs₁.symm.trans hs₂)
    exact refersTo_of_destroy hstep
  · intro hsafe
    obtain ⟨hlegal, hasserted⟩ := hallowed s hs
    obtain ⟨s', hstep, hconsistent', hcalls⟩ := hconsistent.step hlegal hasserted (hsafe s hs)
    refine ⟨s, s', hs, hstep, hconsistent'.flagged_iff_unique, hconsistent'.matched, hcalls, ?_⟩
    intro object hobject hnone
    obtain ⟨buffer, hbuffer⟩ := hsafe s hs object hobject
    exact absurd hbuffer (hnone buffer)

/-- **Recordings**: along every sequence of events that trips no assertion, each event leaves
a buffer flagged iff exactly one live object refers to it, with beginnings and ends
matched, exactly when no moved-from object is destroyed. -/
theorem recordings_matched_iff {events : List Event} (hallowed : Always Allowed events) :
    Always Right events ↔ Always Safe events :=
  always_iff ConsistentAfter.nil (fun _ _ h hallowed => h.right_iff_safe hallowed)
    (fun _ _ h hallowed hsafe => h.step hallowed hsafe) hallowed

/-- Two recordings exchange their buffers and end. -/
theorem recordings_matched_exchanged :
    Always Right [.record 0 1, .record 5 2, .moveAssign 1 2, .destroy 1, .destroy 2] := by
  refine (recordings_matched_iff ?_).mpr ?_
  · simp only [always_cons, always_nil, and_true]
    refine ⟨?_, ?_, ?_, ?_, ?_⟩
    all_goals
      intro s hs
      obtain rfl := Option.some.inj hs
      simp [State.Legal, State.Asserted, State.record, State.moveAssign, State.initial]
  · simp only [always_cons, always_nil, and_true]
    refine ⟨?_, ?_, ?_, ?_, ?_⟩
    all_goals
      intro s hs object hobject
      obtain rfl := Option.some.inj hs
      simp at hobject
    · subst hobject
      exact ⟨5, _, rfl, rfl⟩
    · subst hobject
      exact ⟨0, _, rfl, rfl⟩

/-- A recording is moved, and then the moved-from object destroyed: its null pointer is
dereferenced. -/
theorem recordings_moved_from :
    Always Allowed [.record 0 1, .moveConstruct 2 1, .destroy 1] ∧
    after [.record 0 1, .moveConstruct 2 1, .destroy 1] = none ∧
    ¬ Always Right [.record 0 1, .moveConstruct 2 1, .destroy 1] := by
  refine ⟨?_, rfl, fun h => ?_⟩
  · simp only [always_cons, always_nil, and_true]
    refine ⟨?_, ?_, ?_⟩
    all_goals
      intro s hs
      obtain rfl := Option.some.inj hs
      simp [State.Legal, State.Asserted, State.record, State.moveConstruct, State.moveAssign,
        State.initial]
  · obtain ⟨s, s', hs, hstep, -⟩ := h [.record 0 1, .moveConstruct 2 1] (.destroy 1) [] rfl
    obtain rfl := Option.some.inj hs
    cases hstep

end Recording
end Vk
end Topaz
