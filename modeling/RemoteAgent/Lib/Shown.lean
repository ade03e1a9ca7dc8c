import RemoteAgent.Lib.Transition

/-!
# What a run of the larger machine shows of the smaller

`Simulates` maps every step of a machine to at most one step of another.  `Simulates.run`
maps a whole run, moment by moment, so that what is known of the runs of the smaller
machine can be said of the runs of the larger.
-/

namespace Transition

namespace Machine

variable {σ ε τ η : Type}

/-- What a moment shows of the smaller machine, if anything. -/
def Moment.shown (view : σ → τ) (shown : σ → ε → Option η) (m : Moment σ ε) :
    Option (Moment τ η) :=
  (shown m.before m.event).map fun a => ⟨view m.before, a, view m.after⟩

theorem Moment.shown_eq_some {view : σ → τ} {shown : σ → ε → Option η} {m : Moment σ ε}
    {n : Moment τ η} : m.shown view shown = some n ↔
      shown m.before m.event = some n.event ∧ n.before = view m.before ∧ n.after = view m.after := by
  unfold Moment.shown
  constructor
  · intro isShown
    obtain ⟨a, event, rfl⟩ := Option.map_eq_some_iff.mp isShown
    exact ⟨event, rfl, rfl⟩
  · rintro ⟨event, before, after⟩
    obtain ⟨s, a, t⟩ := n
    cases before
    cases after
    rw [event]
    rfl

/-- **A run of the larger machine shows a run of the smaller.** -/
theorem Simulates.run {M : Machine σ ε} {N : Machine τ η} {view : σ → τ}
    {shown : σ → ε → Option η} (sim : Simulates M N view shown) {past : List (Moment σ ε)}
    {s : σ} (run : M.Run past s) : N.Run (past.filterMap (Moment.shown view shown)) (view s) := by
  induction run with
  | init =>
      rw [sim.init]
      exact .init
  | @step past s t e before stepped ih =>
      have next := sim.step stepped
      rw [List.filterMap_append]
      cases isShown : shown s e with
      | none =>
          rw [isShown] at next
          simp only [List.filterMap_cons, Moment.shown, isShown, Option.map_none,
            List.filterMap_nil, List.append_nil]
          rw [next]
          exact ih
      | some a =>
          rw [isShown] at next
          simp only [List.filterMap_cons, Moment.shown, isShown, Option.map_some,
            List.filterMap_nil]
          exact .step ih next

/-- A moment that is shown is one of the larger run. -/
theorem mem_shown {view : σ → τ} {shown : σ → ε → Option η} {past : List (Moment σ ε)}
    {n : Moment τ η} (mem : n ∈ past.filterMap (Moment.shown view shown)) :
    ∃ m ∈ past, shown m.before m.event = some n.event ∧ n.before = view m.before ∧
      n.after = view m.after := by
  obtain ⟨m, mem, isShown⟩ := List.mem_filterMap.mp mem
  exact ⟨m, mem, Moment.shown_eq_some.mp isShown⟩

end Machine

end Transition
