import RemoteAgent.Lib.Transition

/-!
# Winding a machine down

What is busy in a state of a machine is a set of items: calls that run, connections
that are open.  Each of them can be brought to its end by a few events that start
nothing; then all of them can.

* `Machine.Reach.covered`: in a state that can be reached only finitely many items are
  busy, if a step makes only finitely many busy.
* `Machine.Clears`: a busy item can be ended by events of one kind.
* `Machine.Clears.all`: if every busy item can be, one run ends them all.
-/

namespace Transition

namespace Machine

variable {σ ε κ : Type} {M : Machine σ ε}

theorem exec_append (M : Machine σ ε) (s : σ) (es es' : List ε) :
    M.exec s (es ++ es') = (M.exec s es).bind fun t => M.exec t es' := by
  induction es generalizing s with
  | nil => rfl
  | cons e es ih =>
      simp only [List.cons_append, exec]
      cases M.step s e with
      | none => rfl
      | some t => exact ih t

theorem exec_singleton {s t : σ} {e : ε} (stepped : M.step s e = some t) :
    M.exec s [e] = some t := by
  simp only [exec, stepped]

/-- What every event of kind `P` preserves, the run of a list of them preserves. -/
theorem exec_invariant {I : σ → Prop} {P : ε → Prop}
    (preserved : ∀ {s t : σ} {e : ε}, I s → P e → M.step s e = some t → I t) {es : List ε}
    (kind : ∀ e ∈ es, P e) {s t : σ} (ran : M.exec s es = some t) (start : I s) : I t := by
  induction es generalizing s with
  | nil =>
      cases ran
      exact start
  | cons e es ih =>
      unfold exec at ran
      split at ran
      · rename_i u stepped
        have next := preserved start (kind e List.mem_cons_self) stepped
        exact ih (fun e' mem => kind e' (List.mem_cons_of_mem e mem)) ran next
      · cases ran

/-- **Finitely many items are busy**, where none is at first and a step adds finitely
many. -/
theorem Reach.covered {allow : σ → ε → Prop} {Busy : σ → κ → Prop}
    (idle : ∀ x, ¬ Busy M.init x)
    (adds : ∀ {s t : σ} {e : ε}, M.step s e = some t →
      ∃ new : List κ, ∀ x, Busy t x → Busy s x ∨ x ∈ new)
    {s : σ} (reached : M.Reach allow s) : ∃ xs : List κ, ∀ x, Busy s x → x ∈ xs := by
  induction reached with
  | init => exact ⟨[], fun x busy => absurd busy (idle x)⟩
  | step _ _ stepped ih =>
      obtain ⟨xs, covers⟩ := ih
      obtain ⟨new, added⟩ := adds stepped
      refine ⟨xs ++ new, fun x busy => ?_⟩
      rcases added x busy with old | isNew
      · exact List.mem_append_left _ (covers x old)
      · exact List.mem_append_right _ isNew

/-- A run of events of kind `P` from `s` to `t` that makes nothing busy. -/
structure Quietens (M : Machine σ ε) (Busy : σ → κ → Prop) (P : ε → Prop) (s t : σ) : Prop where
  run : ∃ es, M.exec s es = some t ∧ ∀ e ∈ es, P e
  busy : ∀ x, Busy t x → Busy s x

theorem Quietens.refl {Busy : σ → κ → Prop} {P : ε → Prop} (s : σ) : M.Quietens Busy P s s :=
  ⟨⟨[], rfl, fun _ mem => absurd mem List.not_mem_nil⟩, fun _ => id⟩

theorem Quietens.trans {Busy : σ → κ → Prop} {P : ε → Prop} {s t u : σ}
    (first : M.Quietens Busy P s t) (second : M.Quietens Busy P t u) : M.Quietens Busy P s u := by
  obtain ⟨es, ran, kind⟩ := first.run
  obtain ⟨es', ran', kind'⟩ := second.run
  refine ⟨⟨es ++ es', ?_, fun e mem => ?_⟩, fun x busy => first.busy x (second.busy x busy)⟩
  · rw [exec_append, ran]
    exact ran'
  · rcases List.mem_append.mp mem with early | late
    · exact kind e early
    · exact kind' e late

/-- One event that makes nothing busy. -/
theorem Quietens.step {Busy : σ → κ → Prop} {P : ε → Prop} {s t : σ} {e : ε}
    (stepped : M.step s e = some t) (kind : P e) (busy : ∀ x, Busy t x → Busy s x) :
    M.Quietens Busy P s t :=
  ⟨⟨[e], exec_singleton stepped, fun _ mem => List.mem_singleton.mp mem ▸ kind⟩, busy⟩

/-- Where `I` holds, a busy item can be ended by events of kind `P`. -/
def Clears (M : Machine σ ε) (I : σ → Prop) (Busy : σ → κ → Prop) (P : ε → Prop) : Prop :=
  ∀ s x, I s → Busy s x → ∃ t, M.Quietens Busy P s t ∧ ¬ Busy t x

/-- **If each busy item can be ended, one run ends them all.** -/
theorem Clears.all {I : σ → Prop} {Busy : σ → κ → Prop} {P : ε → Prop}
    (clears : M.Clears I Busy P)
    (preserved : ∀ {s t : σ} {e : ε}, I s → P e → M.step s e = some t → I t)
    (xs : List κ) {s : σ} (start : I s) (covers : ∀ x, Busy s x → x ∈ xs) :
    ∃ t, M.Quietens Busy P s t ∧ ∀ x, ¬ Busy t x := by
  induction xs generalizing s with
  | nil => exact ⟨s, .refl s, fun x busy => absurd (covers x busy) List.not_mem_nil⟩
  | cons x xs ih =>
      have ended : ∃ t, M.Quietens Busy P s t ∧ ¬ Busy t x := by
        by_cases busy : Busy s x
        · exact clears s x start busy
        · exact ⟨s, .refl s, busy⟩
      obtain ⟨t, first, isOver⟩ := ended
      obtain ⟨es, ran, kind⟩ := first.run
      have later : ∀ y, Busy t y → y ∈ xs := by
        intro y busy
        rcases List.mem_cons.mp (covers y (first.busy y busy)) with rfl | mem
        · exact absurd busy isOver
        · exact mem
      obtain ⟨u, second, allOver⟩ := ih (exec_invariant preserved kind ran start) later
      exact ⟨u, first.trans second, allOver⟩

end Machine

end Transition
