import Mathlib.Data.List.Basic

/-!
# Topaz.Interleaving

A host that makes calls in order, beside a device that does the work it was given on its
own time.

A call can block: the host makes it when it is `Ready`, and meanwhile only the device moves.
A call also asks something of the state it is made in (`Valid`); making it anyway is the
host's fault.  `Finishes m Q s` says of every order in which the two can take turns from
`s` that no call is ever made or waited for invalidly, that somebody can always move until
the host is done, that the turns come to an end, and that `Q` holds when the host is done.

Proofs run the host call by call: `finishes_call` while the device has nothing to do,
`finishes_blocked` while the host waits.  `Runs` is the triple that parts of a program are
proved with; it composes by `Runs.append` and `runs_loop`.  `Finishes.run` and
`Finishes.exists_bound` turn the result into one about runs.
-/

namespace Topaz

/-- What the calls of a host and the work of a device do to a state. -/
structure HostDevice (σ γ : Type) where
  /-- what a call asks of the state it is made in -/
  Valid : σ → γ → Prop
  /-- the call returns -/
  Ready : σ → γ → Prop
  call : σ → γ → σ
  /-- the next piece of the device's work, if it has any -/
  work : σ → Option σ

/-- Who moves. -/
inductive Turn where
  | host
  | device
deriving DecidableEq, Repr

/-- A state, and the calls the host has yet to make. -/
structure Running (σ γ : Type) where
  state : σ
  program : List γ

namespace HostDevice

variable {σ γ : Type} (m : HostDevice σ γ) [∀ s c, Decidable (m.Ready s c)]

/-- Take a turn, if it can be taken. -/
def step (r : Running σ γ) : Turn → Option (Running σ γ)
  | .host =>
      match r.program with
      | [] => none
      | c :: program => if m.Ready r.state c then some ⟨m.call r.state c, program⟩ else none
  | .device => (m.work r.state).map fun s => ⟨s, r.program⟩

/-- Take turns one after the other. -/
def run : Running σ γ → List Turn → Option (Running σ γ)
  | r, [] => some r
  | r, t :: turns => (m.step r t).bind fun r' => run r' turns

/-- However the turns are taken, all goes well and ends in `Q`. -/
inductive Finishes (Q : σ → Prop) : Running σ γ → Prop where
  | intro (r : Running σ γ)
      (valid : ∀ c program, r.program = c :: program → m.Valid r.state c)
      (progress : r.program ≠ [] → ∃ t r', m.step r t = some r')
      (done : r.program = [] → Q r.state)
      (next : ∀ t r', m.step r t = some r' → Finishes Q r') : Finishes Q r

namespace Finishes

variable {m} {Q : σ → Prop} {r : Running σ γ}

theorem valid (h : m.Finishes Q r) {c : γ} {program : List γ} (hr : r.program = c :: program) :
    m.Valid r.state c := by
  cases h with
  | intro _ valid _ _ _ => exact valid c program hr

theorem progress (h : m.Finishes Q r) (hr : r.program ≠ []) : ∃ t r', m.step r t = some r' := by
  cases h with
  | intro _ _ progress _ _ => exact progress hr

theorem done (h : m.Finishes Q r) (hr : r.program = []) : Q r.state := by
  cases h with
  | intro _ _ _ done _ => exact done hr

theorem next (h : m.Finishes Q r) {t : Turn} {r' : Running σ γ} (hr : m.step r t = some r') :
    m.Finishes Q r' := by
  cases h with
  | intro _ _ _ _ next => exact next t r' hr

/-- What finishes does so from every state it passes through. -/
theorem run (h : m.Finishes Q r) {turns : List Turn} {r' : Running σ γ}
    (hr : m.run r turns = some r') : m.Finishes Q r' := by
  induction turns generalizing r with
  | nil =>
      rw [HostDevice.run, Option.some.injEq] at hr
      exact hr ▸ h
  | cons t turns ih =>
      obtain ⟨r₁, hstep, hrest⟩ := Option.bind_eq_some_iff.mp hr
      exact ih (h.next hstep) hrest

/-- There are only so many turns to take. -/
theorem exists_bound (h : m.Finishes Q r) :
    ∃ n, ∀ turns r', m.run r turns = some r' → turns.length ≤ n := by
  induction h with
  | intro r _ _ _ _ ih =>
      have hturn : ∀ t, ∃ n, ∀ turns r', m.run r (t :: turns) = some r' → turns.length ≤ n := by
        intro t
        cases hstep : m.step r t with
        | none => exact ⟨0, by simp [HostDevice.run, hstep]⟩
        | some r₁ =>
            obtain ⟨n, hn⟩ := ih t r₁ hstep
            exact ⟨n, fun turns r' hrun => hn turns r' (by simpa [HostDevice.run, hstep] using hrun)⟩
      obtain ⟨n, hn⟩ := hturn .host
      obtain ⟨k, hk⟩ := hturn .device
      refine ⟨n + k + 1, fun turns r' hrun => ?_⟩
      match turns with
      | [] => simp
      | .host :: turns => have := hn turns r' hrun; simp only [List.length_cons]; omega
      | .device :: turns => have := hk turns r' hrun; simp only [List.length_cons]; omega

end Finishes

variable {m} {Q : σ → Prop}

/-- The host is done and so is the device. -/
theorem finishes_nil {s : σ} (hwork : m.work s = none) (hQ : Q s) : m.Finishes Q ⟨s, []⟩ :=
  .intro _ (by simp) (by simp) (fun _ => hQ) fun t r' hr => by
    cases t <;> simp [step, hwork] at hr

/-- A call that does not block, while the device has nothing to do. -/
theorem finishes_call {s : σ} {c : γ} {program : List γ} (hwork : m.work s = none)
    (hvalid : m.Valid s c) (hready : m.Ready s c)
    (h : m.Finishes Q ⟨m.call s c, program⟩) : m.Finishes Q ⟨s, c :: program⟩ := by
  have hhost : m.step ⟨s, c :: program⟩ .host = some ⟨m.call s c, program⟩ := if_pos hready
  refine .intro _ ?_ (fun _ => ⟨.host, _, hhost⟩) (by simp) fun t r' hr => ?_
  · intro c' program' heq
    rw [← (List.cons.inj heq).1]
    exact hvalid
  · cases t with
    | host => rw [← Option.some.inj (hhost.symm.trans hr)]; exact h
    | device => simp [step, hwork] at hr

/-- A call that blocks, while the device works. -/
theorem finishes_blocked {s s' : σ} {c : γ} {program : List γ} (hwork : m.work s = some s')
    (hvalid : m.Valid s c) (hblocked : ¬ m.Ready s c)
    (h : m.Finishes Q ⟨s', c :: program⟩) : m.Finishes Q ⟨s, c :: program⟩ := by
  have hdevice : m.step ⟨s, c :: program⟩ .device = some ⟨s', c :: program⟩ := by
    simp [step, hwork]
  refine .intro _ ?_ (fun _ => ⟨.device, _, hdevice⟩) (by simp) fun t r' hr => ?_
  · intro c' program' heq
    rw [← (List.cons.inj heq).1]
    exact hvalid
  · cases t with
    | host => simp [step, hblocked] at hr
    | device => rw [← Option.some.inj (hdevice.symm.trans hr)]; exact h

/-! ## parts of a program -/

variable (m) in
/-- From a state with `P`, `program` goes well, and what follows it is started with `P'`. -/
def Runs (P : σ → Prop) (program : List γ) (P' : σ → Prop) : Prop :=
  ∀ (Q : σ → Prop) (s : σ) (rest : List γ), P s →
    (∀ s', P' s' → m.Finishes Q ⟨s', rest⟩) → m.Finishes Q ⟨s, program ++ rest⟩

variable {P P' P'' : σ → Prop} {program program' : List γ}

theorem Runs.nil (h : ∀ s, P s → P' s) : m.Runs P [] P' :=
  fun _ s _ hs hrest => hrest s (h s hs)

theorem Runs.weaken (h : m.Runs P program P') (hpost : ∀ s, P' s → P'' s) :
    m.Runs P program P'' :=
  fun Q s rest hs hrest => h Q s rest hs fun s' hs' => hrest s' (hpost s' hs')

theorem Runs.exists {α : Type} {P : α → σ → Prop} (h : ∀ x, m.Runs (P x) program P') :
    m.Runs (fun s => ∃ x, P x s) program P' :=
  fun Q s rest ⟨x, hx⟩ hrest => h x Q s rest hx hrest

theorem Runs.append (h : m.Runs P program P') (h' : m.Runs P' program' P'') :
    m.Runs P (program ++ program') P'' := by
  intro Q s rest hs hrest
  rw [List.append_assoc]
  exact h Q s (program' ++ rest) hs fun s' hs' => h' Q s' rest hs' hrest

theorem Runs.cons {c : γ} (h : m.Runs P [c] P') (h' : m.Runs P' program P'') :
    m.Runs P (c :: program) P'' := h.append h'

/-- A single call that does not block, while the device has nothing to do. -/
theorem Runs.call {c : γ} (hwork : ∀ s, P s → m.work s = none)
    (hvalid : ∀ s, P s → m.Valid s c) (hready : ∀ s, P s → m.Ready s c)
    (hpost : ∀ s, P s → P' (m.call s c)) : m.Runs P [c] P' :=
  fun _ s _ hs hrest =>
    finishes_call (hwork s hs) (hvalid s hs) (hready s hs) (hrest _ (hpost s hs))

/-- A loop over the elements of a list and their positions: `P k` holds before the body is
run for position `k`. -/
theorem Runs.loop {α : Type} {xs : List α} {body : α → Nat → List γ} {P : Nat → σ → Prop}
    (h : ∀ k x, xs[k]? = some x → m.Runs (P k) (body x k) (P (k + 1))) :
    m.Runs (P 0) (xs.zipIdx.flatMap fun x => body x.1 x.2) (P xs.length) := by
  have hfrom : ∀ start, (∀ k x, xs[k]? = some x →
      m.Runs (P (start + k)) (body x (start + k)) (P (start + k + 1))) →
      m.Runs (P start) ((xs.zipIdx start).flatMap fun x => body x.1 x.2)
        (P (start + xs.length)) := by
    clear h
    induction xs with
    | nil => exact fun start _ => .nil fun _ hs => hs
    | cons x xs ih =>
        intro start h
        have hrest := ih (start + 1) fun k y hy => by
          have hnext := h (k + 1) y hy
          rwa [show start + (k + 1) = start + 1 + k by omega] at hnext
        rw [show start + 1 + xs.length = start + (x :: xs).length by
          rw [List.length_cons]; omega] at hrest
        exact (h 0 x rfl).append hrest
  have hall := hfrom 0 fun k x hx => by
    rw [Nat.zero_add]
    exact h k x hx
  rwa [Nat.zero_add] at hall

/-- A whole program. -/
theorem Runs.finishes (h : m.Runs P program P') (hwork : ∀ s, P' s → m.work s = none) {s : σ}
    (hs : P s) : m.Finishes P' ⟨s, program⟩ := by
  have hdone := h P' s [] hs fun s' hs' => finishes_nil (hwork s' hs') hs'
  rwa [List.append_nil] at hdone

end HostDevice

end Topaz
