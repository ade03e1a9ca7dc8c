import Mathlib

/-!
# Scripts that fail after having changed the state

A script is an `EStateM` program: an exception leaves the state as it is at the moment of
raising, and a handler goes on from there.

* `bind_eq_ok`, `bind_eq_error`, `tryCatch_eq_ok`, `tryCatch_eq_error`: how a script ends, by
  how its parts end.
* `Keeps`: what a script leaves unchanged whichever way it ends.
-/

namespace Script

variable {ε σ α β γ : Type} {x : EStateM ε σ α} {f : α → EStateM ε σ β} {s t : σ} {e : ε}

theorem bind_eq_ok {b : β} :
    (x >>= f) s = .ok b t ↔ ∃ a s', x s = .ok a s' ∧ f a s' = .ok b t := by
  change EStateM.bind x f s = _ ↔ _
  unfold EStateM.bind
  cases x s with
  | ok a s' => simp [and_assoc]
  | error e s' => simp

theorem bind_eq_error :
    (x >>= f) s = .error e t ↔
      x s = .error e t ∨ ∃ a s', x s = .ok a s' ∧ f a s' = .error e t := by
  change EStateM.bind x f s = _ ↔ _
  unfold EStateM.bind
  cases x s with
  | ok a s' => simp [and_assoc]
  | error e' s' => simp

@[simp]
theorem pure_eq_ok {a b : α} : (pure a : EStateM ε σ α) s = .ok b t ↔ a = b ∧ s = t := by
  change EStateM.Result.ok a s = _ ↔ _
  simp

@[simp]
theorem pure_eq_error {a : α} : (pure a : EStateM ε σ α) s = .error e t ↔ False := by
  change EStateM.Result.ok a s = _ ↔ _
  simp

@[simp]
theorem throw_eq_ok {a : α} {e : ε} : (throw e : EStateM ε σ α) s = .ok a t ↔ False := by
  change EStateM.Result.error e s = _ ↔ _
  simp

@[simp]
theorem throw_eq_error {e' : ε} :
    (throw e : EStateM ε σ α) s = .error e' t ↔ e = e' ∧ s = t := by
  change EStateM.Result.error e s = _ ↔ _
  simp

theorem tryCatch_eq_ok {handle : ε → EStateM ε σ α} {a : α} :
    (tryCatch x handle) s = .ok a t ↔
      x s = .ok a t ∨ ∃ e s', x s = .error e s' ∧ handle e s' = .ok a t := by
  change EStateM.tryCatch x handle s = _ ↔ _
  unfold EStateM.tryCatch
  cases x s with
  | ok a' s' => simp
  | error e' s' => simp [EStateM.Backtrackable.restore, EStateM.dummyRestore, and_assoc]

theorem tryCatch_eq_error {handle : ε → EStateM ε σ α} :
    (tryCatch x handle) s = .error e t ↔
      ∃ e' s', x s = .error e' s' ∧ handle e' s' = .error e t := by
  change EStateM.tryCatch x handle s = _ ↔ _
  unfold EStateM.tryCatch
  cases x s with
  | ok a' s' => simp
  | error e' s' => simp [EStateM.Backtrackable.restore, EStateM.dummyRestore, and_assoc]

/-! ## What a script keeps -/

/-- The state in which a script ends, with a value or with an exception. -/
def final (x : EStateM ε σ α) (s : σ) : σ :=
  match x s with
  | .ok _ t => t
  | .error _ t => t

theorem final_ok {a : α} (ended : x s = .ok a t) : final x s = t := by
  unfold final
  rw [ended]

theorem final_error (ended : x s = .error e t) : final x s = t := by
  unfold final
  rw [ended]

theorem final_bind_ok {a : α} (first : x s = .ok a t) :
    final (x >>= f) s = final (f a) t := by
  cases rest : f a t with
  | ok b t' => rw [final_ok rest, final_ok (bind_eq_ok.mpr ⟨a, t, first, rest⟩)]
  | error e t' =>
    rw [final_error rest, final_error (bind_eq_error.mpr (.inr ⟨a, t, first, rest⟩))]

theorem final_bind_error (first : x s = .error e t) : final (x >>= f) s = t :=
  final_error (bind_eq_error.mpr (.inl first))

/-- A script that goes on without touching the state. -/
theorem final_bind_idle (idle : ∀ a t, final (f a) t = t) : final (x >>= f) s = final x s := by
  cases first : x s with
  | ok a t => rw [final_bind_ok first, final_ok first, idle]
  | error e t => rw [final_bind_error first, final_error first]

/-- No run of the script changes `view`. -/
def Keeps (view : σ → γ) (x : EStateM ε σ α) : Prop := ∀ s, view (final x s) = view s

variable {view : σ → γ}

theorem Keeps.ok {a : α} (keeps : Keeps view x) (ended : x s = .ok a t) : view t = view s := by
  rw [← keeps s, final_ok ended]

theorem Keeps.error (keeps : Keeps view x) (ended : x s = .error e t) : view t = view s := by
  rw [← keeps s, final_error ended]

theorem keeps_of_ends (ok : ∀ s a t, x s = .ok a t → view t = view s)
    (error : ∀ s e t, x s = .error e t → view t = view s) : Keeps view x := by
  intro s
  cases ended : x s with
  | ok a t => rw [final_ok ended, ok s a t ended]
  | error e t => rw [final_error ended, error s e t ended]

theorem keeps_pure (a : α) : Keeps view (pure a : EStateM ε σ α) := fun _ => rfl

theorem keeps_bind (first : Keeps view x) (rest : ∀ a, Keeps view (f a)) :
    Keeps view (x >>= f) := by
  refine keeps_of_ends ?_ ?_
  · intro s b t ended
    obtain ⟨a, s', one, two⟩ := bind_eq_ok.mp ended
    rw [(rest a).ok two, first.ok one]
  · intro s e t ended
    rcases bind_eq_error.mp ended with one | ⟨a, s', one, two⟩
    · exact first.error one
    · rw [(rest a).error two, first.ok one]

theorem keeps_throw (e : ε) : Keeps view (throw e : EStateM ε σ α) := fun _ => rfl

theorem keeps_tryCatch {handle : ε → EStateM ε σ α} (body : Keeps view x)
    (handler : ∀ e, Keeps view (handle e)) : Keeps view (tryCatch x handle) := by
  refine keeps_of_ends ?_ ?_
  · intro s a t ended
    rcases tryCatch_eq_ok.mp ended with one | ⟨e, s', one, two⟩
    · exact body.ok one
    · rw [(handler e).ok two, body.error one]
  · intro s e t ended
    obtain ⟨e', s', one, two⟩ := tryCatch_eq_error.mp ended
    rw [(handler e').error two, body.error one]

end Script
