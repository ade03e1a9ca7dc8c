import Mathlib

/-!
# Guarded runs of an event-driven machine

A `Machine` steps on explicit events and refuses an event by answering `none`.
`Machine.Reach` is reachability along runs whose every step meets a side
condition `allow` on the state before the step and the event taken; the
condition that is always true gives plain reachability.

* `Machine.Reach.invariant` is the one induction over runs: a predicate that
  holds initially and is preserved by every allowed step holds wherever an
  allowed run leads.
* `Machine.Run` is a run together with its history; `Run.invariant` is the induction
  for a predicate that speaks about what has happened so far.  `Run.once`: what stays
  spent is spent once; `Run.origin`: what a state has was brought by some moment.
* `Machine.exec` runs a list of events, so that a concrete run can be evaluated;
  `Machine.Reach.of_exec` turns an evaluated run into reachability.
* `Machine.Simulates.reach` transports reachability along a projection under
  which every step is either invisible or a step of the smaller machine.
-/

namespace Transition

/-- A deterministic machine: the event resolves every choice of a step. -/
structure Machine (σ ε : Type) where
  init : σ
  step : σ → ε → Option σ

namespace Machine

variable {σ ε τ η : Type}

/-- The side condition that allows every step. -/
def anyStep : σ → ε → Prop := fun _ _ => True

/-- States reached by runs whose steps all meet `allow`. -/
inductive Reach (M : Machine σ ε) (allow : σ → ε → Prop) : σ → Prop
  | init : Reach M allow M.init
  | step {s t : σ} {e : ε} :
      Reach M allow s → allow s e → M.step s e = some t → Reach M allow t

/-- One step, the event forgotten. -/
def Next (M : Machine σ ε) (s t : σ) : Prop := ∃ e, M.step s e = some t

/-- Any number of further steps. -/
abbrev Steps (M : Machine σ ε) : σ → σ → Prop := Relation.ReflTransGen M.Next

/-- **Induction over guarded runs.**  The reachability of the state before the
step is kept, so that an invariant may rely on one proved earlier. -/
theorem Reach.invariant {M : Machine σ ε} {allow : σ → ε → Prop} {I : σ → Prop}
    (initial : I M.init)
    (preserved : ∀ {s t : σ} {e : ε}, M.Reach allow s → I s → allow s e →
      M.step s e = some t → I t)
    {s : σ} (reached : M.Reach allow s) : I s := by
  induction reached with
  | init => exact initial
  | step before allowed step ih => exact preserved before ih allowed step

/-- A side condition that implies another wherever it leads keeps a run. -/
theorem Reach.mono {M : Machine σ ε} {allow allow' : σ → ε → Prop}
    (weaker : ∀ {s : σ} {e : ε}, M.Reach allow s → allow s e → allow' s e) {s : σ}
    (reached : M.Reach allow s) : M.Reach allow' s := by
  induction reached with
  | init => exact .init
  | step before allowed step ih => exact .step ih (weaker before allowed) step

theorem Reach.forget {M : Machine σ ε} {allow : σ → ε → Prop} {s : σ}
    (reached : M.Reach allow s) : M.Reach anyStep s :=
  reached.mono fun _ _ => trivial

/-- Unguarded reachability is closed under further steps. -/
theorem Reach.steps {M : Machine σ ε} {s t : σ} (reached : M.Reach anyStep s)
    (run : M.Steps s t) : M.Reach anyStep t := by
  induction run with
  | refl => exact reached
  | tail _ next ih =>
      obtain ⟨e, step⟩ := next
      exact .step ih trivial step

/-- What every single step preserves, any number of steps preserves. -/
theorem Steps.invariant {M : Machine σ ε} {I : σ → Prop}
    (preserved : ∀ {s t : σ} {e : ε}, I s → M.step s e = some t → I t)
    {s t : σ} (run : M.Steps s t) (start : I s) : I t := by
  induction run with
  | refl => exact start
  | tail _ next ih =>
      obtain ⟨e, step⟩ := next
      exact preserved ih step

/-! ## Evaluating a run -/

/-- Run a list of events, stopping with `none` at the first one refused. -/
def exec (M : Machine σ ε) : σ → List ε → Option σ
  | s, [] => some s
  | s, e :: es =>
      match M.step s e with
      | some t => exec M t es
      | none => none

/-- `exec` that also checks a decidable side condition before every step. -/
def execIf (M : Machine σ ε) (check : σ → ε → Bool) : σ → List ε → Option σ
  | s, [] => some s
  | s, e :: es =>
      if check s e then
        match M.step s e with
        | some t => execIf M check t es
        | none => none
      else none

theorem Reach.of_exec {M : Machine σ ε} {s t : σ} {es : List ε}
    (reached : M.Reach anyStep s) (run : M.exec s es = some t) :
    M.Reach anyStep t := by
  induction es generalizing s with
  | nil =>
      cases run
      exact reached
  | cons e es ih =>
      unfold exec at run
      split at run
      · rename_i u step
        exact ih (.step reached trivial step) run
      · cases run

theorem Reach.of_execIf {M : Machine σ ε} {allow : σ → ε → Prop} {check : σ → ε → Bool}
    (sound : ∀ s e, check s e = true → allow s e) {s t : σ} {es : List ε}
    (reached : M.Reach allow s) (run : M.execIf check s es = some t) :
    M.Reach allow t := by
  induction es generalizing s with
  | nil =>
      cases run
      exact reached
  | cons e es ih =>
      unfold execIf at run
      split at run
      · rename_i checked
        split at run
        · rename_i u step
          exact ih (.step reached (sound s e checked) step) run
        · cases run
      · cases run

/-- A run that can be evaluated ends in a state with a property that can be decided. -/
theorem Reach.exists_of_execIf {M : Machine σ ε} {allow : σ → ε → Prop}
    [∀ s e, Decidable (allow s e)] {s : σ} (reached : M.Reach allow s) (es : List ε)
    (P : σ → Bool) (run : (M.execIf (fun s e => decide (allow s e)) s es).any P = true) :
    ∃ t, M.Reach allow t ∧ P t = true := by
  obtain ⟨t, ended, holds⟩ := (Option.any_eq_true _ _).mp run
  exact ⟨t, .of_execIf (fun _ _ => of_decide_eq_true) reached ended, holds⟩

theorem Reach.exists_of_exec {M : Machine σ ε} {s : σ} (reached : M.Reach anyStep s)
    (es : List ε) (P : σ → Bool) (run : (M.exec s es).any P = true) :
    ∃ t, M.Reach anyStep t ∧ P t = true := by
  obtain ⟨t, ended, holds⟩ := (Option.any_eq_true _ _).mp run
  exact ⟨t, .of_exec reached ended, holds⟩

/-- The machine that starts in a given state. -/
def startAt (M : Machine σ ε) (s : σ) : Machine σ ε := ⟨s, M.step⟩

/-- A run on from a state that can be reached leads to one that can be reached. -/
theorem Reach.startAt {M : Machine σ ε} {allow : σ → ε → Prop} {s t : σ}
    (reached : M.Reach anyStep s) (later : (M.startAt s).Reach allow t) : M.Reach anyStep t := by
  induction later with
  | init => exact reached
  | step _ _ step ih => exact .step ih trivial step

/-! ## Runs with their history -/

/-- One step of a run, between the states it joins. -/
structure Moment (σ ε : Type) where
  before : σ
  event : ε
  after : σ

/-- The runs, with everything that happened in them in order. -/
inductive Run (M : Machine σ ε) : List (Moment σ ε) → σ → Prop
  | init : Run M [] M.init
  | step {past : List (Moment σ ε)} {s t : σ} {e : ε} :
      Run M past s → M.step s e = some t → Run M (past ++ [⟨s, e, t⟩]) t

theorem Run.reach {M : Machine σ ε} {past : List (Moment σ ε)} {s : σ} (run : M.Run past s) :
    M.Reach anyStep s := by
  induction run with
  | init => exact .init
  | step _ step ih => exact .step ih trivial step

/-- **Induction over runs with their history.** -/
theorem Run.invariant {M : Machine σ ε} {I : List (Moment σ ε) → σ → Prop}
    (initial : I [] M.init)
    (preserved : ∀ {past : List (Moment σ ε)} {s t : σ} {e : ε}, M.Run past s → I past s →
      M.step s e = some t → I (past ++ [⟨s, e, t⟩]) t)
    {past : List (Moment σ ε)} {s : σ} (run : M.Run past s) : I past s := by
  induction run with
  | init => exact initial
  | step before step ih => exact preserved before ih step

/-- A run up to one of its moments. -/
theorem Run.upTo {M : Machine σ ε} {past rest : List (Moment σ ε)} {m : Moment σ ε} {s : σ}
    (run : M.Run (past ++ m :: rest) s) :
    M.Run past m.before ∧ M.step m.before m.event = some m.after := by
  generalize split : past ++ m :: rest = h at run
  induction run generalizing rest with
  | init => cases past <;> cases split
  | @step h s t e before step ih =>
      rcases List.eq_nil_or_concat rest with rfl | ⟨rest, last, rfl⟩
      · obtain ⟨rfl, same⟩ := List.append_inj' split rfl
        cases same
        exact ⟨before, step⟩
      · have shifted : (past ++ m :: rest) ++ [last] = h ++ [⟨s, e, t⟩] := by
          rw [← split]
          simp only [List.append_assoc, List.cons_append, List.concat_eq_append]
        exact ih (List.append_inj' shifted rfl).1

/-- A moment of a run is a step. -/
theorem Run.step_of_mem {M : Machine σ ε} {past : List (Moment σ ε)} {s : σ}
    (run : M.Run past s) {m : Moment σ ε} (mem : m ∈ past) :
    M.step m.before m.event = some m.after := by
  obtain ⟨before, after, rfl⟩ := List.append_of_mem mem
  exact run.upTo.2

/-- A moment at which something that can be spent is spent. -/
def Moment.Spends {κ : Type} (P : σ → κ → Prop) (m : Moment σ ε) (x : κ) : Prop :=
  ¬ P m.before x ∧ P m.after x

/-- What has been spent at a moment stays spent, where no step gives anything back. -/
theorem Run.spent {κ : Type} {M : Machine σ ε} {P : σ → κ → Prop}
    (stays : ∀ {s t : σ} {e : ε} {x : κ}, M.step s e = some t → P s x → P t x)
    {past : List (Moment σ ε)} {s : σ} (run : M.Run past s) :
    ∀ m ∈ past, ∀ x, P m.after x → P s x := by
  induction run with
  | init => exact fun m mem => nomatch mem
  | step before step ih =>
      intro m mem x spends
      rcases List.mem_append.mp mem with old | isLast
      · exact stays step (ih m old x spends)
      · rw [List.mem_singleton.mp isLast] at spends
        exact spends

/-- **What stays spent is spent at one moment only.** -/
theorem Run.once {κ : Type} {M : Machine σ ε} {P : σ → κ → Prop}
    (stays : ∀ {s t : σ} {e : ε} {x : κ}, M.step s e = some t → P s x → P t x)
    {past : List (Moment σ ε)} {s : σ} (run : M.Run past s) :
    past.Pairwise fun m m' => ∀ x, m.Spends P x → ¬ m'.Spends P x := by
  induction run with
  | init => exact .nil
  | step before step ih =>
      refine List.pairwise_append.mpr ⟨ih, List.pairwise_singleton _ _, ?_⟩
      intro m mem m' isLast x spends again
      rw [List.mem_singleton.mp isLast] at again
      exact again.1 (before.spent stays m mem x spends.2)

/-- Two moments that spend one thing are one moment. -/
theorem Run.spends_eq {κ : Type} {M : Machine σ ε} {P : σ → κ → Prop}
    (stays : ∀ {s t : σ} {e : ε} {x : κ}, M.step s e = some t → P s x → P t x)
    {past : List (Moment σ ε)} {s : σ} (run : M.Run past s) {m m' : Moment σ ε} {x : κ}
    (mem : m ∈ past) (mem' : m' ∈ past) (spends : m.Spends P x) (spends' : m'.Spends P x) :
    m = m' := by
  have symm : Std.Symm fun m m' : Moment σ ε => ∀ x, m.Spends P x → ¬ m'.Spends P x :=
    ⟨fun _ _ apart x spends spends' => apart x spends' spends⟩
  by_contra different
  exact (run.once (P := P) stays).forall mem mem' different x spends spends'

/-- **What a state has was brought by a moment of the run**, where every step keeps what
there was (`P`) or brings it (`Q`); `past` is what happened before that moment. -/
theorem Run.origin {α : Type} {M : Machine σ ε} {P : σ → α → Prop}
    {Q : List (Moment σ ε) → Moment σ ε → α → Prop} (initial : ∀ x, ¬ P M.init x)
    (traced : ∀ {past : List (Moment σ ε)} {s t : σ} {e : ε} {x : α}, M.Run past s →
      M.step s e = some t → P t x → P s x ∨ Q past ⟨s, e, t⟩ x)
    {past : List (Moment σ ε)} {s : σ} (run : M.Run past s) {x : α} (here : P s x) :
    ∃ before m after, past = before ++ m :: after ∧ Q before m x := by
  induction run with
  | init => exact absurd here (initial x)
  | step before step ih =>
      rcases traced before step here with old | isNew
      · obtain ⟨first, m, after, rfl, brought⟩ := ih old
        exact ⟨first, m, after ++ [_], List.append_assoc _ _ _, brought⟩
      · exact ⟨_, _, [], rfl, isNew⟩

/-- The moments of a run of a list of events. -/
def history (M : Machine σ ε) : σ → List ε → List (Moment σ ε)
  | _, [] => []
  | s, e :: es =>
      match M.step s e with
      | some t => ⟨s, e, t⟩ :: history M t es
      | none => []

/-- The events of a history are those of its list. -/
theorem event_of_history {M : Machine σ ε} {s : σ} {es : List ε} {m : Moment σ ε}
    (mem : m ∈ M.history s es) : m.event ∈ es := by
  induction es generalizing s with
  | nil => cases mem
  | cons e es ih =>
      unfold history at mem
      split at mem
      · rcases List.mem_cons.mp mem with rfl | later
        · exact List.mem_cons_self
        · exact List.mem_cons_of_mem _ (ih later)
      · cases mem

/-- A run that goes through has a moment for each event of its list. -/
theorem events_of_exec {M : Machine σ ε} {s t : σ} {es : List ε} (ended : M.exec s es = some t) :
    (M.history s es).map Moment.event = es := by
  induction es generalizing s with
  | nil => rfl
  | cons e es ih =>
      unfold exec at ended
      split at ended
      · rename_i u step
        rw [history, step]
        exact congrArg (e :: ·) (ih ended)
      · cases ended

theorem Run.of_exec {M : Machine σ ε} {past : List (Moment σ ε)} {s t : σ} {es : List ε}
    (run : M.Run past s) (ended : M.exec s es = some t) :
    M.Run (past ++ M.history s es) t := by
  induction es generalizing past s with
  | nil =>
      cases ended
      rw [history, List.append_nil]
      exact run
  | cons e es ih =>
      unfold exec at ended
      split at ended
      · rename_i u step
        have rest := ih (.step run step) ended
        rw [List.append_assoc, List.singleton_append] at rest
        rw [history, step]
        exact rest
      · cases ended

/-- A checked run of a list of events, whose moments have all passed the check. -/
theorem Run.of_execIf {M : Machine σ ε} {allow : σ → ε → Prop} [∀ s e, Decidable (allow s e)]
    {past : List (Moment σ ε)} {s t : σ} {es : List ε} (run : M.Run past s)
    (ended : M.execIf (fun s e => decide (allow s e)) s es = some t) :
    M.Run (past ++ M.history s es) t ∧ ∀ m ∈ M.history s es, allow m.before m.event := by
  induction es generalizing past s with
  | nil =>
      cases ended
      rw [history, List.append_nil]
      exact ⟨run, fun m mem => absurd mem List.not_mem_nil⟩
  | cons e es ih =>
      unfold execIf at ended
      split at ended
      · rename_i checked
        split at ended
        · rename_i u step
          obtain ⟨rest, allowed⟩ := ih (.step run step) ended
          rw [List.append_assoc, List.singleton_append] at rest
          rw [history, step]
          refine ⟨rest, fun m mem => ?_⟩
          rcases List.mem_cons.mp mem with rfl | later
          · exact of_decide_eq_true checked
          · exact allowed m later
        · cases ended
      · cases ended

/-! ## Projections -/

/-- `view` maps every step of `M` to a step of `N`, or to no step at all;
`shown` says which step of `N` an event stands for. -/
structure Simulates (M : Machine σ ε) (N : Machine τ η) (view : σ → τ)
    (shown : σ → ε → Option η) : Prop where
  init : view M.init = N.init
  step : ∀ {s t : σ} {e : ε}, M.step s e = some t →
    match shown s e with
    | some a => N.step (view s) a = some (view t)
    | none => view t = view s

/-- The side condition of the smaller machine, read on the events of the larger. -/
def lift (view : σ → τ) (shown : σ → ε → Option η) (allow : τ → η → Prop) : σ → ε → Prop :=
  fun s e => ∀ a, shown s e = some a → allow (view s) a

theorem Simulates.reach {M : Machine σ ε} {N : Machine τ η} {view : σ → τ}
    {shown : σ → ε → Option η} (sim : Simulates M N view shown) {allow : τ → η → Prop}
    {s : σ} (reached : M.Reach (lift view shown allow) s) : N.Reach allow (view s) := by
  induction reached with
  | init => rw [sim.init]; exact .init
  | @step s t e _ allowed step ih =>
      have stepped := sim.step step
      cases shownEq : shown s e with
      | none =>
          simp only [shownEq] at stepped
          rw [stepped]
          exact ih
      | some a =>
          simp only [shownEq] at stepped
          exact .step ih (allowed a shownEq) stepped

theorem Simulates.reach_any {M : Machine σ ε} {N : Machine τ η} {view : σ → τ}
    {shown : σ → ε → Option η} (sim : Simulates M N view shown)
    {s : σ} (reached : M.Reach anyStep s) : N.Reach anyStep (view s) :=
  sim.reach (reached.mono fun _ _ _ _ => trivial)

end Machine

end Transition
