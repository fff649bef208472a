import Mathlib.Data.List.Basic
import Mathlib.Logic.Equiv.Basic
import Topaz.Machine

/-!
# Topaz.Core.Window

`tz::Window`: an object that owns a native window, with callbacks that should run when that
window is resized.

GLFW stores one pointer with each native window, which the constructor sets to the object
it constructs.  A move takes the native window to another object and leaves the pointer and
the callbacks where they are, so that `window_resize_callback` runs what is registered with
the object at the old address.  For a move to a new object that is what should run
(`Consistent.moveConstruct`); it is not when the object moved to has callbacks of its own
(`Consistent.moveAssign_iff`), and not any more when a callback is added after a move, or when
the object that the pointer leads to is destroyed.
-/

namespace Topaz
namespace Core

/-- A native window of GLFW. -/
abbrev GlfwWindow := Nat

/-- The address of a `Window`. -/
abbrev Address := Nat

/-- A registered function, by its identity. -/
abbrev ResizeCallback := Nat

structure Window where
  wnd : Option GlfwWindow
  windowResizeCallbacks : List ResizeCallback
deriving DecidableEq, Repr

/-- The live objects, and the user pointer of each native window that exists. -/
structure WindowSystem where
  windows : Address → Option Window
  userPointer : GlfwWindow → Option Address

namespace WindowSystem

/-! ## the events -/

def initial : WindowSystem := ⟨fun _ => none, fun _ => none⟩

/-- `native` is what `glfwCreateWindow` returns. -/
inductive Event where
  | construct (object : Address) (native : GlfwWindow)
  | constructNull (object : Address)
  | moveConstruct (object move : Address)
  | moveAssign (object rhs : Address)
  | destroy (object : Address)
  | addResizeCallback (object : Address) (callback : ResizeCallback)
deriving DecidableEq, Repr

def construct (s : WindowSystem) (object : Address) (native : GlfwWindow) : WindowSystem :=
  { windows := Function.update s.windows object (some ⟨some native, []⟩)
    userPointer := Function.update s.userPointer native (some object) }

def constructNull (s : WindowSystem) (object : Address) : WindowSystem :=
  { s with windows := Function.update s.windows object (some ⟨none, []⟩) }

/-- `operator=(Window&&)` swaps the native windows. -/
def moveAssign (s : WindowSystem) (object rhs : Address) : WindowSystem :=
  match s.windows object, s.windows rhs with
  | some x, some y =>
      let assigned := Function.update s.windows object (some { x with wnd := y.wnd })
      { s with windows := Function.update assigned rhs (some { y with wnd := x.wnd }) }
  | _, _ => s

/-- The move constructor swaps with a null window. -/
def moveConstruct (s : WindowSystem) (object move : Address) : WindowSystem :=
  (s.constructNull object).moveAssign object move

/-- The destructor destroys the native window, if there is one. -/
def destroy (s : WindowSystem) (object : Address) : WindowSystem :=
  { windows := Function.update s.windows object none
    userPointer := match (s.windows object).bind Window.wnd with
      | some native => Function.update s.userPointer native none
      | none => s.userPointer }

def addResizeCallback (s : WindowSystem) (object : Address) (callback : ResizeCallback) :
    WindowSystem :=
  { s with windows := Function.update s.windows object ((s.windows object).map fun window =>
      { window with windowResizeCallbacks := window.windowResizeCallbacks ++ [callback] }) }

def step (s : WindowSystem) : Event → WindowSystem
  | .construct object native => s.construct object native
  | .constructNull object => s.constructNull object
  | .moveConstruct object move => s.moveConstruct object move
  | .moveAssign object rhs => s.moveAssign object rhs
  | .destroy object => s.destroy object
  | .addResizeCallback object callback => s.addResizeCallback object callback

/-- Objects are constructed where none lives, and used and destroyed while they live; GLFW
returns native windows that do not exist yet. -/
def Legal (s : WindowSystem) : Event → Prop
  | .construct object native => s.windows object = none ∧ s.userPointer native = none
  | .constructNull object => s.windows object = none
  | .moveConstruct object move => s.windows object = none ∧ s.windows move ≠ none
  | .moveAssign object rhs => s.windows object ≠ none ∧ s.windows rhs ≠ none
  | .destroy object => s.windows object ≠ none
  | .addResizeCallback object _ => s.windows object ≠ none

instance (s : WindowSystem) : (event : Event) → Decidable (s.Legal event)
  | .construct object native =>
      inferInstanceAs (Decidable (s.windows object = none ∧ s.userPointer native = none))
  | .constructNull object => inferInstanceAs (Decidable (s.windows object = none))
  | .moveConstruct object move =>
      inferInstanceAs (Decidable (s.windows object = none ∧ s.windows move ≠ none))
  | .moveAssign object rhs =>
      inferInstanceAs (Decidable (s.windows object ≠ none ∧ s.windows rhs ≠ none))
  | .destroy object | .addResizeCallback object _ =>
      inferInstanceAs (Decidable (s.windows object ≠ none))

/-- `window_resize_callback`: the callbacks that are run, in order; `none` if the user pointer
leads to no live object. -/
def windowResizeCallback (s : WindowSystem) (native : GlfwWindow) : Option (List ResizeCallback) :=
  (s.userPointer native).bind fun object => (s.windows object).map Window.windowResizeCallbacks

def after (events : List Event) : WindowSystem := events.foldl step initial

/-! ## what should run -/

/-- A callback that was registered, and the objects whose it is. -/
structure Registration where
  callback : ResizeCallback
  heldBy : Address → Bool

namespace Registration

/-- An object that is constructed or destroyed has no callbacks. -/
def release (object : Address) (r : Registration) : Registration :=
  { r with heldBy := Function.update r.heldBy object false }

/-- An object that another is moved to has the callbacks of that one beside its own.  The other
one gets its native window; whether its callbacks go with it is `exchanged`. -/
def assign (exchanged : Bool) (object rhs : Address) (r : Registration) : Registration :=
  let returned := Function.update r.heldBy rhs (r.heldBy rhs || (exchanged && r.heldBy object))
  { r with heldBy := Function.update returned object (r.heldBy object || r.heldBy rhs) }

end Registration

/-- The registrations after an event, in the order in which they were made. -/
def register (exchanged : Bool) (registrations : List Registration) : Event → List Registration
  | .construct object _ | .constructNull object | .destroy object =>
      registrations.map (.release object)
  | .moveConstruct object move =>
      (registrations.map (.release object)).map (.assign exchanged object move)
  | .moveAssign object rhs => registrations.map (.assign exchanged object rhs)
  | .addResizeCallback object callback => registrations ++ [⟨callback, fun o => o = object⟩]

def registrations (exchanged : Bool) (events : List Event) : List Registration :=
  events.foldl (register exchanged) []

/-- The callbacks of an object, in the order in which they were registered. -/
def callbacksOf (registrations : List Registration) (object : Address) : List ResizeCallback :=
  (registrations.filter fun r => r.heldBy object).map Registration.callback

/-- The callbacks of each object: those that were registered with it, and those of the objects
that were moved to it. -/
def registered (exchanged : Bool) (events : List Event) : Address → List ResizeCallback :=
  callbacksOf (registrations exchanged events)

/-- Every callback of one object is one of another. -/
def Covered (registrations : List Registration) (object other : Address) : Prop :=
  ∀ r ∈ registrations, r.heldBy object = true → r.heldBy other = true

/-- The object at an address lives and owns a native window. -/
def Owns (s : WindowSystem) (object : Address) (native : GlfwWindow) : Prop :=
  (s.windows object).bind Window.wnd = some native

/-- A resize of an owned native window runs the callbacks of its owner. -/
def Dispatches (s : WindowSystem) (registered : Address → List ResizeCallback) : Prop :=
  ∀ object native, s.Owns object native →
    s.windowResizeCallback native = some (registered object)

/-- After an event, every resize runs what it should. -/
def EventRight (exchanged : Bool) (history : List Event) (event : Event) : Prop :=
  (after (history ++ [event])).Dispatches (registered exchanged (history ++ [event]))

def EventLegal (history : List Event) (event : Event) : Prop := (after history).Legal event

instance (history : List Event) (event : Event) : Decidable (EventLegal history event) :=
  inferInstanceAs (Decidable ((after history).Legal event))

/-- A native window is moved only to an object whose callbacks are among those of its owner, and
if the owner gets one in return, that is so the other way round, or they have the same callbacks.
Callbacks are added to an object only if the native windows whose pointers lead to it are
those that it owns, and no object is destroyed that the pointer of another's native window
leads to. -/
def EventSafe (exchanged : Bool) (history : List Event) : Event → Prop
  | .moveAssign object rhs =>
      (∀ native, (after history).Owns rhs native →
        Covered (registrations exchanged history) object rhs) ∧
      ∀ native, (after history).Owns object native →
        if exchanged then Covered (registrations exchanged history) rhs object
        else registered exchanged history rhs = registered exchanged history object
  | .addResizeCallback object _ => ∀ owner native, (after history).Owns owner native →
      ((after history).userPointer native = some object ↔ owner = object)
  | .destroy object => ∀ owner native, (after history).Owns owner native →
      (after history).userPointer native = some object → owner = object
  | _ => True

/-! ## the callbacks of an object -/

section Callbacks

/-- More is kept only if something is. -/
theorem map_filter_or_eq_iff {α β : Type} (f : α → β) (p q : α → Bool) (l : List α) :
    (l.filter fun x => p x || q x).map f = (l.filter q).map f ↔
      ∀ x ∈ l, p x = true → q x = true := by
  constructor
  · intro h x hx hp
    by_contra hq
    have hlen := congrArg List.length h
    rw [List.length_map, List.length_map] at hlen
    have hsub : (l.filter q).Sublist (l.filter fun x => p x || q x) :=
      List.monotone_filter_right l fun y hy => by simp [hy]
    have heq := hsub.eq_of_length hlen.symm
    have hmem : x ∈ l.filter q := heq ▸ List.mem_filter.mpr ⟨hx, by simp [hp]⟩
    exact hq (List.mem_filter.mp hmem).2
  · intro h
    refine congrArg (List.map f) (List.filter_congr fun x hx => ?_)
    cases hp : p x with
    | false => rfl
    | true => simp [h x hx hp]

/-- What changes only whose callbacks they are. -/
theorem callbacksOf_map (g : Registration → Registration)
    (hg : ∀ r, (g r).callback = r.callback) (log : List Registration) (o : Address) :
    callbacksOf (log.map g) o = (log.filter fun r => (g r).heldBy o).map Registration.callback := by
  rw [callbacksOf, List.filter_map, List.map_map]
  exact congrArg₂ List.map (funext hg) rfl

/-- A new object, or a destroyed one, has no callbacks. -/
theorem callbacksOf_release (object : Address) (log : List Registration) :
    callbacksOf (log.map (.release object)) = Function.update (callbacksOf log) object [] := by
  funext o
  rw [callbacksOf_map (.release object) fun _ => rfl]
  by_cases ho : o = object
  · subst ho
    simp [Registration.release]
  · simp [Registration.release, ho, callbacksOf]

variable (exchanged : Bool) {object rhs : Address} (log : List Registration)

/-- An assignment is about two objects. -/
theorem callbacksOf_assign_of_ne {o : Address} (ho : o ≠ object) (ho' : o ≠ rhs) :
    callbacksOf (log.map (.assign exchanged object rhs)) o = callbacksOf log o := by
  rw [callbacksOf_map (.assign exchanged object rhs) fun _ => rfl]
  simp [Registration.assign, ho, ho', callbacksOf]

/-- The object moved to has no other callbacks than the one moved from exactly when it brings
none. -/
theorem callbacksOf_assign_object_eq_iff :
    callbacksOf (log.map (.assign exchanged object rhs)) object = callbacksOf log rhs ↔
      Covered log object rhs := by
  rw [callbacksOf_map (.assign exchanged object rhs) fun _ => rfl, Covered, callbacksOf,
    ← map_filter_or_eq_iff Registration.callback]
  simp [Registration.assign]

/-- When the moved-from object has just the callbacks of the one it was exchanged with. -/
theorem callbacksOf_assign_rhs_eq_iff (hne : rhs ≠ object) :
    callbacksOf (log.map (.assign exchanged object rhs)) rhs = callbacksOf log object ↔
      if exchanged then Covered log rhs object
      else callbacksOf log rhs = callbacksOf log object := by
  rw [callbacksOf_map (.assign exchanged object rhs) fun _ => rfl]
  cases exchanged with
  | true =>
      rw [if_pos rfl, Covered, callbacksOf, ← map_filter_or_eq_iff Registration.callback]
      simp [Registration.assign, hne]
  | false => simp [Registration.assign, hne, callbacksOf]

/-- A callback comes last. -/
theorem callbacksOf_append (callback : ResizeCallback) :
    callbacksOf (log ++ [⟨callback, fun o => o = object⟩]) =
      Function.update (callbacksOf log) object (callbacksOf log object ++ [callback]) := by
  funext o
  by_cases ho : o = object
  · subst ho
    simp [callbacksOf]
  · simp [callbacksOf, ho]

end Callbacks

/-! ## what a step preserves -/

/-- Resizes run what they should, and a native window has one owner. -/
structure Consistent (s : WindowSystem) (registered : Address → List ResizeCallback) : Prop where
  dispatches : s.Dispatches registered
  unique : ∀ object object' native, s.Owns object native → s.Owns object' native →
    object = object'

theorem Consistent.initial : Consistent initial fun _ => [] := by
  refine ⟨?_, ?_⟩ <;> intro object <;> simp [Owns, WindowSystem.initial]

/-- The callbacks at an address. -/
def callbacksAt (s : WindowSystem) (object : Address) : Option (List ResizeCallback) :=
  (s.windows object).map Window.windowResizeCallbacks

/-- The callback goes to where the user pointer leads. -/
theorem windowResizeCallback_eq_some_iff {s : WindowSystem} {native : GlfwWindow}
    {callbacks : List ResizeCallback} : s.windowResizeCallback native = some callbacks ↔
      ∃ object, s.userPointer native = some object ∧ s.callbacksAt object = some callbacks :=
  Option.bind_eq_some_iff

/-- Only the destroyed object stops owning. -/
theorem owns_destroy {s : WindowSystem} {object o : Address} {n : GlfwWindow} :
    (s.destroy object).Owns o n ↔ o ≠ object ∧ s.Owns o n := by
  by_cases ho : o = object <;> simp [Owns, WindowSystem.destroy, ho]

/-- Adding a callback changes no owner. -/
theorem owns_addResizeCallback {s : WindowSystem} {object o : Address} {callback : ResizeCallback}
    {n : GlfwWindow} : (s.addResizeCallback object callback).Owns o n ↔ s.Owns o n := by
  by_cases ho : o = object
  · subst ho
    cases hs : s.windows o <;> simp [Owns, addResizeCallback, hs]
  · simp [Owns, addResizeCallback, ho]

theorem callbacksAt_addResizeCallback (s : WindowSystem) (object o : Address)
    (callback : ResizeCallback) : (s.addResizeCallback object callback).callbacksAt o =
      (s.callbacksAt o).map fun callbacks =>
        if o = object then callbacks ++ [callback] else callbacks := by
  by_cases ho : o = object
  · subst ho
    simp [callbacksAt, addResizeCallback, Function.comp_def]
  · simp [callbacksAt, addResizeCallback, ho, Function.comp_def]

/-- Who owns what is exchanged. -/
theorem owns_moveAssign {s : WindowSystem} {object rhs o : Address} {n : GlfwWindow}
    (hobject : s.windows object ≠ none) (hrhs : s.windows rhs ≠ none) :
    (s.moveAssign object rhs).Owns o n ↔ s.Owns (Equiv.swap object rhs o) n := by
  obtain ⟨x, hx⟩ := Option.ne_none_iff_exists'.mp hobject
  obtain ⟨y, hy⟩ := Option.ne_none_iff_exists'.mp hrhs
  simp only [Owns, WindowSystem.moveAssign, hx, hy, Function.update_apply, Equiv.swap_apply_def]
  grind

/-- The pointers and the callbacks stay. -/
theorem windowResizeCallback_moveAssign (s : WindowSystem) (object rhs : Address)
    (n : GlfwWindow) :
    (s.moveAssign object rhs).windowResizeCallback n = s.windowResizeCallback n := by
  cases hx : s.windows object with
  | none => simp [WindowSystem.moveAssign, hx]
  | some x =>
      cases hy : s.windows rhs with
      | none => simp [WindowSystem.moveAssign, hx, hy]
      | some y =>
          have hcallbacks : ∀ o, ((s.moveAssign object rhs).windows o).map
              Window.windowResizeCallbacks = (s.windows o).map Window.windowResizeCallbacks := by
            intro o
            simp only [WindowSystem.moveAssign, hx, hy, Function.update_apply]
            grind
          have hpointer : (s.moveAssign object rhs).userPointer = s.userPointer := by
            simp only [WindowSystem.moveAssign, hx, hy]
          simp only [windowResizeCallback, hcallbacks, hpointer]

section Consistent

variable {s : WindowSystem} {reg : Address → List ResizeCallback} (h : Consistent s reg)
include h

/-- The user pointer of an owned native window leads to an object with the callbacks of the
owner. -/
theorem Consistent.pointer {owner : Address} {native : GlfwWindow} (howns : s.Owns owner native) :
    ∃ object, s.userPointer native = some object ∧ s.callbacksAt object = some (reg owner) :=
  windowResizeCallback_eq_some_iff.mp (h.dispatches owner native howns)

/-- Neither the owner nor where its pointer leads to is an address where no object lives. -/
theorem Consistent.pointer_of_none {object owner : Address} {native : GlfwWindow}
    (hobject : s.windows object = none) (howns : s.Owns owner native) :
    owner ≠ object ∧ ∃ p, p ≠ object ∧ s.userPointer native = some p ∧
      s.callbacksAt p = some (reg owner) := by
  obtain ⟨p, hp, hcallbacks⟩ := h.pointer howns
  refine ⟨?_, p, ?_, hp, hcallbacks⟩
  · rintro rfl
    simp [Owns, hobject] at howns
  · rintro rfl
    simp [callbacksAt, hobject] at hcallbacks

/-- A new native window leads to its object. -/
theorem Consistent.construct {object : Address} {native : GlfwWindow}
    (hobject : s.windows object = none) (hnative : s.userPointer native = none) :
    Consistent (s.construct object native) (Function.update reg object []) := by
  have howns : ∀ o n, (s.construct object native).Owns o n ↔
      (o = object ∧ n = native) ∨ s.Owns o n := by
    intro o n
    by_cases ho : o = object
    · subst ho
      simp [Owns, WindowSystem.construct, hobject, eq_comm]
    · simp [Owns, WindowSystem.construct, ho]
  -- what is owned already has a pointer, and GLFW's new native window has none
  have hfresh : ∀ o n, s.Owns o n → n ≠ native := by
    rintro o n ho rfl
    obtain ⟨p, hp, -⟩ := h.pointer ho
    simp [hnative] at hp
  constructor
  · intro o n ho
    rw [windowResizeCallback_eq_some_iff]
    rcases (howns o n).mp ho with ⟨rfl, rfl⟩ | ho
    · exact ⟨o, by simp [WindowSystem.construct], by simp [callbacksAt, WindowSystem.construct]⟩
    · obtain ⟨hne, p, hpne, hp, hcallbacks⟩ := h.pointer_of_none hobject ho
      refine ⟨p, by simp [WindowSystem.construct, hfresh o n ho, hp], ?_⟩
      simpa [callbacksAt, WindowSystem.construct, hpne, hne] using hcallbacks
  · intro o o' n ho ho'
    rw [howns] at ho ho'
    rcases ho with ⟨ho, hn⟩ | ho <;> rcases ho' with ⟨ho', hn'⟩ | ho'
    · rw [ho, ho']
    · exact absurd hn (hfresh o' n ho')
    · exact absurd hn' (hfresh o n ho)
    · exact h.unique o o' n ho ho'

theorem Consistent.constructNull {object : Address} (hobject : s.windows object = none) :
    Consistent (s.constructNull object) (Function.update reg object []) := by
  have howns : ∀ o n, (s.constructNull object).Owns o n ↔ s.Owns o n := by
    intro o n
    by_cases ho : o = object
    · subst ho
      simp [Owns, WindowSystem.constructNull, hobject]
    · simp [Owns, WindowSystem.constructNull, ho]
  constructor
  · intro o n ho
    obtain ⟨hne, p, hpne, hp, hcallbacks⟩ := h.pointer_of_none hobject ((howns o n).mp ho)
    refine windowResizeCallback_eq_some_iff.mpr ⟨p, hp, ?_⟩
    simpa [callbacksAt, WindowSystem.constructNull, hpne, hne] using hcallbacks
  · simpa only [howns] using h.unique

/-- After a move assignment resizes run what they should exactly when what should run for each
of the two native windows has not changed. -/
theorem Consistent.moveAssign_iff {object rhs : Address} (hobject : s.windows object ≠ none)
    (hrhs : s.windows rhs ≠ none) {reg' : Address → List ResizeCallback}
    (hother : ∀ o, o ≠ object → o ≠ rhs → reg' o = reg o) :
    (s.moveAssign object rhs).Dispatches reg' ↔
      (∀ n, s.Owns rhs n → reg' object = reg rhs) ∧
      (∀ n, s.Owns object n → reg' rhs = reg object) := by
  have howns := fun o n => owns_moveAssign (o := o) (n := n) hobject hrhs
  have hright : ∀ o n, (s.moveAssign object rhs).Owns o n →
      ((s.moveAssign object rhs).windowResizeCallback n = some (reg' o) ↔
        reg' o = reg (Equiv.swap object rhs o)) := by
    intro o n ho
    rw [windowResizeCallback_moveAssign, h.dispatches _ n ((howns o n).mp ho), Option.some.injEq]
    exact eq_comm
  constructor
  · intro hdispatches
    refine ⟨fun n hn => ?_, fun n hn => ?_⟩
    · have ho := (howns object n).mpr (by rwa [Equiv.swap_apply_left])
      have heq := (hright object n ho).mp (hdispatches object n ho)
      rwa [Equiv.swap_apply_left] at heq
    · have ho := (howns rhs n).mpr (by rwa [Equiv.swap_apply_right])
      have heq := (hright rhs n ho).mp (hdispatches rhs n ho)
      rwa [Equiv.swap_apply_right] at heq
  · intro ⟨hto, hfrom⟩ o n ho
    rw [hright o n ho]
    rw [howns] at ho
    by_cases hobj : o = object
    · subst hobj
      rw [Equiv.swap_apply_left] at ho ⊢
      exact hto n ho
    · by_cases hr : o = rhs
      · subst hr
        rw [Equiv.swap_apply_right] at ho ⊢
        exact hfrom n ho
      · rw [Equiv.swap_apply_of_ne_of_ne hobj hr]
        exact hother o hobj hr

/-- An exchange leaves every native window with one owner. -/
theorem Consistent.unique_moveAssign {object rhs : Address} (hobject : s.windows object ≠ none)
    (hrhs : s.windows rhs ≠ none) : ∀ o o' n, (s.moveAssign object rhs).Owns o n →
      (s.moveAssign object rhs).Owns o' n → o = o' := by
  intro o o' n ho ho'
  rw [owns_moveAssign hobject hrhs] at ho ho'
  exact (Equiv.swap object rhs).injective (h.unique _ _ n ho ho')

/-- A new object has nothing of its own. -/
theorem Consistent.moveConstruct {object move : Address} (hobject : s.windows object = none)
    (hmove : s.windows move ≠ none) {reg' : Address → List ResizeCallback}
    (hother : ∀ o, o ≠ object → o ≠ move → reg' o = reg o) (hto : reg' object = reg move) :
    Consistent (s.moveConstruct object move) reg' := by
  have hne : move ≠ object := by
    rintro rfl
    exact hmove hobject
  have hnull := h.constructNull hobject
  have hobject' : (s.constructNull object).windows object ≠ none := by
    simp [WindowSystem.constructNull]
  have hmove' : (s.constructNull object).windows move ≠ none := by
    simpa [WindowSystem.constructNull, hne] using hmove
  refine ⟨?_, hnull.unique_moveAssign hobject' hmove'⟩
  refine (hnull.moveAssign_iff hobject' hmove' fun o ho ho' => ?_).mpr ⟨fun _ _ => ?_, ?_⟩
  · rw [Function.update_of_ne ho, hother o ho ho']
  · rw [Function.update_of_ne hne, hto]
  · intro n hn
    simp [Owns, WindowSystem.constructNull] at hn

/-- Other native windows keep their pointers. -/
theorem Consistent.userPointer_destroy {object owner : Address} {native : GlfwWindow}
    (hne : owner ≠ object) (howns : s.Owns owner native) :
    (s.destroy object).userPointer native = s.userPointer native := by
  cases hdestroyed : (s.windows object).bind Window.wnd with
  | none => simp [WindowSystem.destroy, hdestroyed]
  | some destroyed =>
      have hother : native ≠ destroyed := by
        rintro rfl
        exact hne (h.unique owner object native howns hdestroyed)
      simp [WindowSystem.destroy, hdestroyed, hother]

/-- After a destruction the pointers of the others still lead to live objects exactly when none
leads to the destroyed one. -/
theorem Consistent.destroy_iff (object : Address) :
    (s.destroy object).Dispatches (Function.update reg object []) ↔
      ∀ owner native, s.Owns owner native → s.userPointer native = some object →
        owner = object := by
  have hdispatch : ∀ owner native, owner ≠ object → s.Owns owner native →
      ((s.destroy object).windowResizeCallback native =
        some (Function.update reg object [] owner) ↔ s.userPointer native ≠ some object) := by
    intro owner native hne howns
    obtain ⟨p, hp, hcallbacks⟩ := h.pointer howns
    rw [windowResizeCallback_eq_some_iff, h.userPointer_destroy hne howns, hp,
      Function.update_of_ne hne]
    by_cases hpo : p = object
    · subst hpo
      simp [callbacksAt, WindowSystem.destroy]
    · simpa [callbacksAt, WindowSystem.destroy, hpo] using hcallbacks
  constructor
  · intro hdispatches owner native howns hpointer
    by_contra hne
    have howns' := owns_destroy.mpr ⟨hne, howns⟩
    exact (hdispatch owner native hne howns).mp (hdispatches owner native howns') hpointer
  · intro hsafe owner native howns
    obtain ⟨hne, howns⟩ := owns_destroy.mp howns
    exact (hdispatch owner native hne howns).mpr fun hp => hne (hsafe owner native howns hp)

theorem Consistent.unique_destroy (object : Address) : ∀ o o' n, (s.destroy object).Owns o n →
    (s.destroy object).Owns o' n → o = o' := fun o o' n ho ho' =>
  h.unique o o' n (owns_destroy.mp ho).2 (owns_destroy.mp ho').2

/-- The new callback is run for the owner whose it is, and for no other, exactly when the
pointer that leads to the object is the one of its own native window. -/
theorem Consistent.addResizeCallback_iff {object : Address} (callback : ResizeCallback) :
    (s.addResizeCallback object callback).Dispatches
        (Function.update reg object (reg object ++ [callback])) ↔
      ∀ owner native, s.Owns owner native →
        (s.userPointer native = some object ↔ owner = object) := by
  refine forall_congr' fun owner => forall_congr' fun native => ?_
  rw [owns_addResizeCallback]
  refine imp_congr_right fun howns => ?_
  -- the list that is run and the list that should be run each grow by the callback or stay
  obtain ⟨p, hp, hcallbacks⟩ := h.pointer howns
  have hafter : (s.addResizeCallback object callback).callbacksAt p =
      some (if p = object then reg owner ++ [callback] else reg owner) := by
    rw [callbacksAt_addResizeCallback, hcallbacks]
    split <;> rfl
  have hresize : (s.addResizeCallback object callback).windowResizeCallback native =
      (s.addResizeCallback object callback).callbacksAt p := by
    rw [windowResizeCallback, WindowSystem.addResizeCallback, hp]
    rfl
  rw [hresize, hafter, hp, Option.some.injEq, Option.some.injEq, Function.update_apply]
  by_cases hpo : p = object <;> by_cases ho : owner = object <;> simp [hpo, ho]

end Consistent

/-! ## histories -/

@[simp] theorem after_concat (history : List Event) (event : Event) :
    after (history ++ [event]) = (after history).step event := List.foldl_concat _ _ _ _

@[simp] theorem registrations_concat (exchanged : Bool) (history : List Event) (event : Event) :
    registrations exchanged (history ++ [event]) =
      register exchanged (registrations exchanged history) event := List.foldl_concat _ _ _ _

def ConsistentAfter (exchanged : Bool) (history : List Event) : Prop :=
  Consistent (after history) (registered exchanged history)

theorem ConsistentAfter.nil (exchanged : Bool) : ConsistentAfter exchanged [] := Consistent.initial

section ConsistentAfter

variable {exchanged : Bool} {history : List Event} (h : ConsistentAfter exchanged history)
include h

/-- A new object takes over callbacks and native window; the pointer still leads to the old one,
which has the same callbacks. -/
theorem ConsistentAfter.moveConstruct {object move : Address}
    (hlegal : EventLegal history (.moveConstruct object move)) :
    Consistent ((after history).moveConstruct object move)
      (registered exchanged (history ++ [.moveConstruct object move])) := by
  have hne : move ≠ object := by
    rintro rfl
    exact hlegal.2 hlegal.1
  have hreleased := callbacksOf_release object (registrations exchanged history)
  rw [registered, registrations_concat]
  refine Consistent.moveConstruct h hlegal.1 hlegal.2 (fun o ho ho' => ?_) ?_
  · show callbacksOf (List.map _ (List.map _ _)) o = _
    rw [callbacksOf_assign_of_ne exchanged _ ho ho', hreleased, Function.update_of_ne ho]
    rfl
  · show callbacksOf (List.map _ (List.map _ _)) object = _
    rw [(callbacksOf_assign_object_eq_iff exchanged _).mpr, hreleased, Function.update_of_ne hne]
    · rfl
    · intro r hr hheld
      obtain ⟨r, -, rfl⟩ := List.mem_map.mp hr
      simp [Registration.release] at hheld

/-- After an exchange the pointers lead to the other object. -/
theorem ConsistentAfter.moveAssign_iff {object rhs : Address}
    (hlegal : EventLegal history (.moveAssign object rhs)) :
    EventRight exchanged history (.moveAssign object rhs) ↔
      EventSafe exchanged history (.moveAssign object rhs) := by
  rw [EventRight, after_concat, registered, registrations_concat]
  refine (Consistent.moveAssign_iff h hlegal.1 hlegal.2 fun o ho ho' =>
    callbacksOf_assign_of_ne exchanged _ ho ho').trans ?_
  refine and_congr (forall₂_congr fun _ _ => ?_) (forall₂_congr fun _ _ => ?_)
  · exact callbacksOf_assign_object_eq_iff exchanged _
  · by_cases hne : rhs = object
    · subst hne
      -- an assignment to itself: nothing changes
      have hself : callbacksOf (register exchanged (registrations exchanged history)
          (.moveAssign rhs rhs)) rhs = registered exchanged history rhs :=
        (callbacksOf_assign_object_eq_iff exchanged _).mpr fun _ _ h => h
      refine iff_of_true hself ?_
      cases exchanged
      · exact rfl
      · exact fun _ _ h => h
    · exact callbacksOf_assign_rhs_eq_iff exchanged _ hne

variable {event : Event} (hlegal : EventLegal history event)
include hlegal

/-- **Step**: after a consistent history, resizes are right exactly if the event is safe. -/
theorem ConsistentAfter.right_iff_safe :
    EventRight exchanged history event ↔ EventSafe exchanged history event := by
  cases event with
  | moveAssign object rhs => exact h.moveAssign_iff hlegal
  | moveConstruct object move =>
      rw [EventRight, after_concat]
      exact iff_of_true (h.moveConstruct hlegal).dispatches trivial
  | construct object native =>
      rw [EventRight, after_concat, registered, registrations_concat, register,
        callbacksOf_release]
      exact iff_of_true (Consistent.construct h hlegal.1 hlegal.2).dispatches trivial
  | constructNull object =>
      rw [EventRight, after_concat, registered, registrations_concat, register,
        callbacksOf_release]
      exact iff_of_true (Consistent.constructNull h hlegal).dispatches trivial
  | destroy object =>
      rw [EventRight, after_concat, registered, registrations_concat, register,
        callbacksOf_release]
      exact Consistent.destroy_iff h object
  | addResizeCallback object callback =>
      rw [EventRight, after_concat, registered, registrations_concat, register,
        callbacksOf_append]
      exact Consistent.addResizeCallback_iff h callback

/-- A safe event leads to a consistent state again. -/
theorem ConsistentAfter.step (hsafe : EventSafe exchanged history event) :
    ConsistentAfter exchanged (history ++ [event]) := by
  refine ⟨(h.right_iff_safe hlegal).mpr hsafe, ?_⟩
  rw [after_concat]
  cases event with
  | construct object native => exact (Consistent.construct h hlegal.1 hlegal.2).unique
  | constructNull object => exact (Consistent.constructNull h hlegal).unique
  | moveConstruct object move => exact (h.moveConstruct hlegal).unique
  | moveAssign object rhs => exact Consistent.unique_moveAssign h hlegal.1 hlegal.2
  | destroy object => exact Consistent.unique_destroy h object
  | addResizeCallback object callback =>
      intro o o' n ho ho'
      exact h.unique o o' n (owns_addResizeCallback.mp ho) (owns_addResizeCallback.mp ho')

end ConsistentAfter

/-- **Resize events**: along every sequence of events, a resize of a native window always runs
the callbacks of its owner, those registered with it and those of the objects that were moved
to it, once and in order of registration, exactly when native windows are only moved to objects
with no callbacks but their owner's, callbacks are only added to objects that own what the
pointers lead to them for, and no object is destroyed that the pointer of another's native
window leads to.  This is so whether or not the callbacks of an object that is assigned to go
with its native window. -/
theorem window_resize_reaches_owner_iff (exchanged : Bool) {events : List Event}
    (hlegal : Always EventLegal events) :
    Always (EventRight exchanged) events ↔ Always (EventSafe exchanged) events :=
  always_iff (ConsistentAfter.nil exchanged) (fun _ _ h hlegal => h.right_iff_safe hlegal)
    (fun _ _ h hlegal hsafe => h.step hlegal hsafe) hlegal

/-- A callback is registered before the window is moved, and the moved-from object stays. -/
theorem window_resize_moved : Always (EventRight false)
    [.construct 1 7, .addResizeCallback 1 3, .constructNull 2, .moveAssign 2 1] := by
  refine (window_resize_reaches_owner_iff false ?_).mpr ?_
  · simp only [always_cons, always_nil, and_true]
    decide
  · simp only [always_cons, always_nil, and_true]
    refine ⟨trivial, ?_, trivial, ?_, ?_⟩
    · intro owner native howns
      by_cases howner : owner = 1
      · subst howner
        obtain rfl := Option.some.inj howns
        exact iff_of_true rfl rfl
      · simp [after, step, construct, initial, Owns, howner] at howns
    · intro native _ r hr
      simp_all [registrations, register, Registration.release]
    · intro native howns
      simp [after, step, construct, constructNull, addResizeCallback, initial, Owns] at howns

/-- A callback is registered after the window is moved, and does not run; when the moved-from
object is destroyed, the pointer dangles.  A callback that is registered with an object before
a window is moved to it does not run either. -/
theorem window_resize_lost :
    (Always EventLegal [.construct 1 7, .moveConstruct 2 1, .addResizeCallback 2 3, .destroy 1] ∧
    (after [.construct 1 7, .moveConstruct 2 1, .addResizeCallback 2 3]).windowResizeCallback 7 =
      some [] ∧
    registered false [.construct 1 7, .moveConstruct 2 1, .addResizeCallback 2 3] 2 = [3] ∧
    (after [.construct 1 7, .moveConstruct 2 1, .addResizeCallback 2 3,
      .destroy 1]).windowResizeCallback 7 = none ∧
    ¬ Always (EventRight false) [.construct 1 7, .moveConstruct 2 1, .addResizeCallback 2 3,
      .destroy 1]) ∧
    Always EventLegal [.constructNull 1, .addResizeCallback 1 3, .construct 2 8,
      .moveAssign 1 2] ∧
    (after [.constructNull 1, .addResizeCallback 1 3, .construct 2 8,
      .moveAssign 1 2]).windowResizeCallback 8 = some [] ∧
    registered false [.constructNull 1, .addResizeCallback 1 3, .construct 2 8,
      .moveAssign 1 2] 1 = [3] ∧
    ¬ Always (EventRight false) [.constructNull 1, .addResizeCallback 1 3, .construct 2 8,
      .moveAssign 1 2] := by
  refine ⟨⟨?_, rfl, rfl, rfl, fun h => ?_⟩, ?_, rfl, rfl, fun h => ?_⟩
  · simp only [always_cons, always_nil, and_true]
    decide
  · have hright := h [.construct 1 7, .moveConstruct 2 1] (.addResizeCallback 2 3) [.destroy 1] rfl
      2 7 rfl
    exact absurd hright (by decide)
  · simp only [always_cons, always_nil, and_true]
    decide
  · have hright := h [.constructNull 1, .addResizeCallback 1 3, .construct 2 8] (.moveAssign 1 2) []
      rfl 1 8 rfl
    exact absurd hright (by decide)

end WindowSystem
end Core
end Topaz
