import Mathlib.Logic.Function.Basic
import Mathlib.Data.List.Induction

/-!
# Topaz.Machine

Guarded state machines and their runs.  A `Machine` names, for every event,
when it may happen (`Enabled`) and what it does (`next`); `run` executes a
list of events and fails on the first one that is not enabled.

Nothing here knows what the states are.  The two rules the rest of the
development uses are `run_invariant` (what every enabled event preserves
holds at the end of every run) and `run_append` (a run can be cut after any
of its events, so every state *passed through* is itself the end of a run).

`view_foldl` is about machines without guards, run by `List.foldl`: what each
event sets or leaves alone is, at the end, what the last event set.

`Always` says of every event of a sequence something about it and the events before it.
`always_iff` is the rule for showing that what is wanted of every event holds exactly when
every event is safe.
-/

namespace Topaz

/-- A state machine with guarded events. -/
structure Machine (σ ε : Type) where
  Enabled : σ → ε → Prop
  next : σ → ε → σ

namespace Machine

variable {σ ε : Type} (m : Machine σ ε) [∀ s e, Decidable (m.Enabled s e)]

/-- Execute a list of events; `none` as soon as one of them is not enabled. -/
def run : σ → List ε → Option σ
  | s, [] => some s
  | s, e :: es => if m.Enabled s e then run (m.next s e) es else none

@[simp] theorem run_nil (s : σ) : m.run s [] = some s := rfl

/-- The first event of a run is enabled, and the rest runs from its effect. -/
theorem run_cons {s t : σ} {e : ε} {es : List ε} :
    m.run s (e :: es) = some t ↔ m.Enabled s e ∧ m.run (m.next s e) es = some t := by
  by_cases he : m.Enabled s e <;> simp [run, he]

/-- A run of an append passes through a middle state. -/
theorem run_append {s t : σ} {xs ys : List ε} :
    m.run s (xs ++ ys) = some t ↔ ∃ u, m.run s xs = some u ∧ m.run u ys = some t := by
  induction xs generalizing s with
  | nil => simp
  | cons e xs ih =>
      rw [List.cons_append, run_cons, ih]
      constructor
      · intro h
        obtain ⟨he, u, hxs, hys⟩ := h
        exact ⟨u, (m.run_cons).mpr ⟨he, hxs⟩, hys⟩
      · intro h
        obtain ⟨u, hxs, hys⟩ := h
        obtain ⟨he, hxs⟩ := (m.run_cons).mp hxs
        exact ⟨he, u, hxs, hys⟩

/-- **Invariant rule**: a property that every enabled event of the allowed
kind preserves holds at the end of every run of such events. -/
theorem run_invariant (Inv : σ → Prop) (Ok : ε → Prop)
    (hstep : ∀ s e, Ok e → Inv s → m.Enabled s e → Inv (m.next s e))
    {s t : σ} {es : List ε} (hok : ∀ e ∈ es, Ok e) (hs : Inv s)
    (hrun : m.run s es = some t) : Inv t := by
  induction es generalizing s with
  | nil =>
      rw [run_nil, Option.some.injEq] at hrun
      exact hrun ▸ hs
  | cons e es ih =>
      obtain ⟨he, hrest⟩ := (m.run_cons).mp hrun
      have hnext : Inv (m.next s e) := hstep s e (hok e List.mem_cons_self) hs he
      exact ih (fun e' he' => hok e' (List.mem_cons_of_mem e he')) hnext hrest

end Machine

/-- **Last write**: a view of the state that every event either sets or keeps shows, after
any events, what was set last. -/
theorem view_foldl {σ ε β : Type} {next : σ → ε → σ} {view : σ → β} {set? : ε → Option β}
    (hstep : ∀ s e, view (next s e) = (set? e).getD (view s)) (s : σ) (es : List ε) :
    view (es.foldl next s) = (es.filterMap set?).getLast?.getD (view s) := by
  induction es generalizing s with
  | nil => rfl
  | cons e es ih =>
      rw [List.foldl_cons, ih, hstep]
      cases hset : set? e with
      | none => simp [hset]
      | some b => simp [hset, List.getLast?_cons]

/-! ## histories -/

/-- One more step that can fail. -/
theorem foldlM_concat {σ ε : Type} (step : σ → ε → Option σ) (s : σ) (events : List ε) (e : ε) :
    (events ++ [e]).foldlM step s = (events.foldlM step s).bind fun t => step t e := by
  rw [List.foldlM_append]
  exact congrArg ((events.foldlM step s).bind ·) (funext fun _ => by simp)

/-- `P` holds of every event of a sequence and the events before it. -/
def Always {ε : Type} (P : List ε → ε → Prop) (events : List ε) : Prop :=
  ∀ history e rest, events = history ++ e :: rest → P history e

section Always

variable {ε : Type} {P : List ε → ε → Prop}

@[simp] theorem always_nil : Always P [] := by simp [Always]

theorem always_true (events : List ε) : Always (fun _ _ => True) events := fun _ _ _ _ => trivial

theorem always_cons {e : ε} {events : List ε} :
    Always P (e :: events) ↔ P [] e ∧ Always (fun history => P (e :: history)) events := by
  constructor
  · intro h
    refine ⟨h [] e events rfl, ?_⟩
    intro history e' rest heq
    exact h (e :: history) e' rest (by rw [heq, List.cons_append])
  · intro h history e' rest heq
    cases history with
    | nil =>
        obtain ⟨rfl, -⟩ := List.cons.inj heq
        exact h.1
    | cons first history =>
        obtain ⟨rfl, hrest⟩ := List.cons.inj heq
        exact h.2 history e' rest hrest

/-- What always holds is added to by the last event. -/
theorem always_concat {events : List ε} {e : ε} :
    Always P (events ++ [e]) ↔ Always P events ∧ P events e := by
  constructor
  · intro h
    refine ⟨?_, h events e [] rfl⟩
    intro history e' rest heq
    exact h history e' (rest ++ [e]) (by simp [heq])
  · intro h history e' rest heq
    rcases List.eq_nil_or_concat rest with rfl | ⟨rest, last, rfl⟩
    · obtain ⟨rfl, hlast⟩ := List.append_inj' heq rfl
      obtain ⟨rfl, -⟩ := List.cons.inj hlast
      exact h.2
    · rw [List.concat_eq_append, ← List.cons_append, ← List.append_assoc] at heq
      obtain ⟨hinit, -⟩ := List.append_inj' heq rfl
      exact h.1 history e' rest hinit

/-- **Exactness rule**: two properties of events that agree as long as an invariant of the
histories holds, one of which keeps that invariant, are always true of the same
sequences of allowed events. -/
theorem always_iff {Inv : List ε → Prop} {Ok Good Safe : List ε → ε → Prop} (hnil : Inv [])
    (hiff : ∀ history e, Inv history → Ok history e → (Good history e ↔ Safe history e))
    (hstep : ∀ history e, Inv history → Ok history e → Safe history e → Inv (history ++ [e]))
    {events : List ε} (hok : Always Ok events) : Always Good events ↔ Always Safe events := by
  -- along with the equivalence, safe sequences keep the invariant
  suffices h : (Always Good events ↔ Always Safe events) ∧ (Always Safe events → Inv events) from h.1
  induction events using List.reverseRecOn with
  | nil => simp [hnil]
  | append_singleton events e ih =>
      obtain ⟨hok, he⟩ := always_concat.mp hok
      obtain ⟨ihiff, ihinv⟩ := ih hok
      simp only [always_concat, ihiff]
      refine ⟨and_congr_right fun hsafe => hiff events e (ihinv hsafe) he, ?_⟩
      intro hsafe
      exact hstep events e (ihinv hsafe.1) he hsafe.2

end Always
end Topaz
