import RemoteAgent.DispatcherSteps

/-!
# The in-flight collision guard

`_in_flight` holds a key exactly while one running call has that collision key
(`Guarded`).  `_release_collision_guard` pops a key without asking whose it is;
what makes that safe is `Guarded.one`: no other running call can have it.
-/

open Wire Storage Transition

namespace RemoteAgent

namespace Dispatcher

variable {env : Env} {d d' : Dispatcher} {a : Act}

/-- The guard map is the set of the collision keys of the running calls. -/
structure Guarded (env : Env) (d : Dispatcher) : Prop where
  held : ∀ c rq key, d.Running c rq → rq.collisionKey env = some key →
    d.inFlight.get? key = some rq.requestId
  holder : ∀ key id, d.inFlight.get? key = some id →
    ∃ c rq, d.Running c rq ∧ rq.collisionKey env = some key
  one : ∀ c c' rq rq' key, d.Running c rq → d.Running c' rq' →
    rq.collisionKey env = some key → rq'.collisionKey env = some key → c = c'

theorem guarded_init : Guarded env init where
  held := fun _ _ _ running => nomatch running.choose_spec.1
  holder := fun _ _ found => nomatch found
  one := fun _ _ _ _ _ running => nomatch running.choose_spec.1

/-- What acquiring the guard does. -/
theorem acquireCollisionGuard_spec {inFlight inFlight' : Dict CollisionKey String}
    {key : Option CollisionKey} {id : String}
    (acquired : acquireCollisionGuard inFlight key id = some inFlight') :
    (key = none ∧ inFlight' = inFlight) ∨
      ∃ k, key = some k ∧ inFlight.get? k = none ∧ inFlight' = inFlight.insert k id := by
  unfold acquireCollisionGuard at acquired
  cases key with
  | none => exact Or.inl ⟨rfl, (Option.some.inj acquired).symm⟩
  | some k =>
      simp only at acquired
      split at acquired
      · cases acquired
      · rename_i free
        exact Or.inr ⟨k, rfl, free, (Option.some.inj acquired).symm⟩

theorem Guarded.effect (guarded : Guarded env d) (effect : Effect env d d' a) : Guarded env d' := by
  rcases effect.running with ⟨same, _, _, running⟩ |
    ⟨c₀, rq₀, _, _, _, acquired, _, _, running⟩ | ⟨c₀, rq₀, was, released, _, _, running⟩
  · -- The running calls and the map are the same.
    constructor
    · intro c rq key now isKey
      rw [same]
      exact guarded.held c rq key ((running c rq).mp now) isKey
    · intro key id found
      rw [same] at found
      obtain ⟨c, rq, before, isKey⟩ := guarded.holder key id found
      exact ⟨c, rq, (running c rq).mpr before, isKey⟩
    · intro c c' rq rq' key now now'
      exact guarded.one c c' rq rq' key ((running c rq).mp now) ((running c' rq').mp now')
  · rcases acquireCollisionGuard_spec acquired with ⟨none, same⟩ | ⟨k, isK, free, same⟩
    · -- The new call is not guarded.
      constructor
      · intro c rq key now isKey
        rw [same]
        rcases (running c rq).mp now with before | ⟨_, rfl⟩
        · exact guarded.held c rq key before isKey
        · rw [none] at isKey
          cases isKey
      · intro key id found
        rw [same] at found
        obtain ⟨c, rq, before, isKey⟩ := guarded.holder key id found
        exact ⟨c, rq, (running c rq).mpr (Or.inl before), isKey⟩
      · intro c c' rq rq' key now now' isKey isKey'
        rcases (running c rq).mp now with before | ⟨_, rfl⟩
        · rcases (running c' rq').mp now' with before' | ⟨_, rfl⟩
          · exact guarded.one c c' rq rq' key before before' isKey isKey'
          · rw [none] at isKey'
            cases isKey'
        · rw [none] at isKey
          cases isKey
    · -- The new call takes a key that no running call has.
      have unheld : ∀ c rq, d.Running c rq → rq.collisionKey env ≠ some k := by
        intro c rq before isKey
        rw [guarded.held c rq k before isKey] at free
        cases free
      constructor
      · intro c rq key now isKey
        rw [same, Dict.get?_insert]
        rcases (running c rq).mp now with before | ⟨_, rfl⟩
        · have differ : key ≠ k := by
            rintro rfl
            exact unheld c rq before isKey
          rw [if_neg differ]
          exact guarded.held c rq key before isKey
        · rw [isK] at isKey
          rw [if_pos (Option.some.inj isKey).symm]
      · intro key id found
        rw [same, Dict.get?_insert] at found
        split at found
        · rename_i eq
          exact ⟨c₀, rq₀, (running c₀ rq₀).mpr (Or.inr ⟨rfl, rfl⟩), eq ▸ isK⟩
        · obtain ⟨c, rq, before, isKey⟩ := guarded.holder key id found
          exact ⟨c, rq, (running c rq).mpr (Or.inl before), isKey⟩
      · intro c c' rq rq' key now now' isKey isKey'
        rcases (running c rq).mp now with before | ⟨at₀, rfl⟩
        · rcases (running c' rq').mp now' with before' | ⟨_, rfl⟩
          · exact guarded.one c c' rq rq' key before before' isKey isKey'
          · rw [isK] at isKey'
            exact absurd (isKey.trans isKey'.symm) (unheld c rq before)
        · rcases (running c' rq').mp now' with before' | ⟨at₀', _⟩
          · rw [isK] at isKey
            exact absurd (isKey'.trans isKey.symm) (unheld c' rq' before')
          · exact at₀.trans at₀'.symm
  · -- The call that ends releases its own key: no other running call has it.
    have others : ∀ c rq key, d.Running c rq → c ≠ c₀ → rq.collisionKey env = some key →
        d'.inFlight.get? key = d.inFlight.get? key := by
      intro c rq key before differ isKey
      rw [released]
      unfold releaseCollisionGuard
      split
      · rfl
      · rename_i k isK
        refine Dict.get?_erase_of_ne fun eq => ?_
        exact differ (guarded.one c c₀ rq rq₀ key before was isKey (eq ▸ isK))
    constructor
    · intro c rq key now isKey
      obtain ⟨before, differ⟩ := (running c rq).mp now
      rw [others c rq key before differ isKey]
      exact guarded.held c rq key before isKey
    · intro key id found
      have foundBefore : rq₀.collisionKey env ≠ some key ∧ d.inFlight.get? key = some id := by
        rw [released] at found
        unfold releaseCollisionGuard at found
        split at found
        · rename_i isNone
          exact ⟨by rw [isNone]; exact (Option.some_ne_none key).symm, found⟩
        · rename_i k isK
          obtain ⟨differ, old⟩ := Dict.get?_of_get?_erase found
          exact ⟨by rw [isK]; exact fun eq => differ (Option.some.inj eq).symm, old⟩
      obtain ⟨c, rq, before, isKey⟩ := guarded.holder key id foundBefore.2
      refine ⟨c, rq, (running c rq).mpr ⟨before, ?_⟩, isKey⟩
      rintro rfl
      rw [was.unique before] at foundBefore
      exact foundBefore.1 isKey
    · intro c c' rq rq' key now now'
      exact guarded.one c c' rq rq' key ((running c rq).mp now).1 ((running c' rq').mp now').1

theorem guarded_of_reach {allow : Dispatcher → Act → Prop}
    (reached : (dispatcher env).Reach allow d) : Guarded env d :=
  reached.invariant guarded_init fun _ guarded _ step => guarded.effect (step_effect step)

/-! ## Refusals -/

/-- Only a call of a mutating verb is refused with `command_in_flight`. -/
def Refusals (d : Dispatcher) : Prop :=
  ∀ c rq, d.calls.get? c = some (.settled rq (.raised .commandInFlight)) →
    rq.tool ∈ mutatingRelayTools

theorem mutating_of_collisionKey {rq : Request} {key : CollisionKey}
    (isKey : rq.collisionKey env = some key) : rq.tool ∈ mutatingRelayTools := by
  unfold Request.collisionKey at isKey
  split at isKey
  · rename_i mutating
    exact List.contains_iff_mem.mp mutating
  · cases isKey

/-- A call that is found refused with `command_in_flight` was so before, or has
just met a key that is held, and the guard map is what it was. -/
theorem Effect.refused_cases (effect : Effect env d d' a) {c : CallId} {rq : Request}
    (found : d'.calls.get? c = some (.settled rq (.raised .commandInFlight))) :
    d.calls.get? c = some (.settled rq (.raised .commandInFlight)) ∨
      (d'.inFlight = d.inFlight ∧ ∃ key id, rq.collisionKey env = some key ∧
        d.inFlight.get? key = some id) := by
  have inserted : ∀ (c₀ : CallId) (call : Call), d'.calls = d.calls.insert c₀ call →
      call ≠ .settled rq (.raised .commandInFlight) →
        d.calls.get? c = some (.settled rq (.raised .commandInFlight)) := by
    intro c₀ call calls other
    rw [calls, Dict.get?_insert] at found
    split at found
    · exact absurd (Option.some.inj found) other
    · exact found
  cases effect with
  | idle requests inFlight pending dispatched calls =>
      rcases calls c with same | ⟨_, e, refused, _⟩
      · exact Or.inl (same ▸ found)
      · rw [refused] at found
        cases found
  | tuned c₀ l l' was tunes requests inFlight pending dispatched calls =>
      refine Or.inl (inserted c₀ (.live l') calls fun eq => ?_)
      cases eq
  | lost k requests inFlight pending dispatched calls =>
      rw [calls] at found
      exact Or.inl (get?_of_failPending found fun _ live => nomatch live)
  | answered c₀ rq₀ came fresh notNew eq =>
      refine Or.inl (inserted c₀ _ (congrArg Dispatcher.calls eq) fun eq => ?_)
      cases eq
  | blocked c₀ rq₀ came fresh new taken eq =>
      subst eq
      have found : (d.calls.insert c₀ (.settled rq₀ (.raised .commandInFlight))).get? c =
        some (.settled rq (.raised .commandInFlight)) := found
      rw [Dict.get?_insert] at found
      split at found
      · cases found
        exact Or.inr ⟨rfl, taken⟩
      · exact Or.inl found
  | dispatch c₀ rq₀ inFlight came fresh new acquired eq =>
      refine Or.inl (inserted c₀ _ (congrArg Dispatcher.calls eq) fun eq => ?_)
      cases eq
  | settled c₀ l out was interrupted raised returned requests inFlight pending dispatched calls =>
      refine Or.inl (inserted c₀ _ calls fun eq => ?_)
      cases eq
      rcases raised _ rfl with other | other | other <;> cases other

theorem refusals_of_reach {allow : Dispatcher → Act → Prop}
    (reached : (dispatcher env).Reach allow d) : Refusals d :=
  reached.invariant (fun _ _ found => nomatch found) fun _ refusals _ step c rq found => by
    rcases (step_effect step).refused_cases found with before | ⟨_, key, id, isKey, _⟩
    · exact refusals c rq before
    · exact mutating_of_collisionKey isKey

/-- A call that has ended before the claim had done so before an effect, or has just
been refused by a check that does not raise `command_in_flight`. -/
theorem Effect.refusedEarly_cases (effect : Effect env d d' a) {c : CallId} {e : Exc}
    (found : d'.calls.get? c = some (.refused e)) :
    d.calls.get? c = some (.refused e) ∨ a = .refuse c e ∨
      ∃ x, e = .agent x ∧ x ≠ .commandInFlight := by
  have inserted : ∀ (c₀ : CallId) (call : Call), d'.calls = d.calls.insert c₀ call →
      call ≠ .refused e → d.calls.get? c = some (.refused e) := by
    intro c₀ call calls other
    rw [calls, Dict.get?_insert] at found
    split at found
    · exact absurd (Option.some.inj found) other
    · exact found
  cases effect with
  | idle requests inFlight pending dispatched calls =>
      rcases calls c with same | ⟨_, e', refused, why⟩
      · exact Or.inl (same ▸ found)
      · rw [refused] at found
        cases found
        exact Or.inr why
  | tuned c₀ l l' was tunes requests inFlight pending dispatched calls =>
      refine Or.inl (inserted c₀ (.live l') calls fun eq => ?_)
      cases eq
  | lost k requests inFlight pending dispatched calls =>
      rw [calls] at found
      exact Or.inl (get?_of_failPending found fun _ live => nomatch live)
  | answered c₀ rq₀ came fresh notNew eq =>
      refine Or.inl (inserted c₀ _ (congrArg Dispatcher.calls eq) fun eq => ?_)
      cases eq
  | blocked c₀ rq₀ came fresh new taken eq =>
      refine Or.inl (inserted c₀ _ (congrArg Dispatcher.calls eq) fun eq => ?_)
      cases eq
  | dispatch c₀ rq₀ inFlight came fresh new acquired eq =>
      refine Or.inl (inserted c₀ _ (congrArg Dispatcher.calls eq) fun eq => ?_)
      cases eq
  | settled c₀ l out was interrupted raised returned requests inFlight pending dispatched calls =>
      refine Or.inl (inserted c₀ _ calls fun eq => ?_)
      cases eq

/-- No call is refused with `command_in_flight` before the claim. -/
def Late (d : Dispatcher) : Prop :=
  ∀ c, d.calls.get? c ≠ some (.refused (.agent .commandInFlight))

theorem late_of_reach
    (reached : (dispatcher env).Reach (fun _ a => ∀ c, a ≠ .refuse c (.agent .commandInFlight)) d) :
    Late d :=
  reached.invariant (fun _ found => nomatch found) fun _ late allowed step c found => by
    rcases (step_effect step).refusedEarly_cases found with before | act | ⟨x, same, other⟩
    · exact late c before
    · exact allowed c act
    · exact other (Exc.agent.inj same).symm

end Dispatcher

end RemoteAgent
