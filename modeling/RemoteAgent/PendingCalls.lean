import RemoteAgent.RequestOwnership

/-!
# Sessions, the registry and the pending maps

`Wired` holds in every run: an entry of a `pending` map names a running call of
that session under its own request id, the registry names sessions of the right
connector, and a session that is not in the registry has an empty map.

`Effect.unregistered` is the one way a session leaves the registry: its map is
emptied and its futures fail.
-/

open Wire Storage Transition

namespace RemoteAgent

namespace Dispatcher

variable {env : Env} {d d' : Dispatcher} {a : Act}

/-! ## The registry -/

structure Wired (d : Dispatcher) : Prop where
  entry : ∀ k id c, (d.pending k).get? id = some c →
    ∃ rq, d.Running c rq ∧ rq.conn = k ∧ rq.requestId = id
  registered : ∀ connectorId k, d.registry.get? connectorId = some k →
    d.connectorOf k = some connectorId
  emptied : ∀ k connectorId, d.connectorOf k = some connectorId →
    d.registry.get? connectorId ≠ some k → ∀ id, (d.pending k).get? id = none
  homed : ∀ c rq, d.Told c rq → d.connectorOf rq.conn = some rq.key.connectorId
  framed : ∀ rq ∈ d.dispatched, ∃ c, d.Told c rq

theorem wired_init : Wired init where
  entry := fun _ _ _ found => nomatch found
  registered := fun _ _ found => nomatch found
  emptied := fun _ _ _ _ _ => rfl
  homed := fun _ _ told => nomatch told.choose_spec.1
  framed := fun _ mem => nomatch mem

theorem Running.told {c : CallId} {rq : Request} (running : d.Running c rq) : d.Told c rq := by
  obtain ⟨l, live, rfl⟩ := running
  exact live.told

/-- A claim is made on the session that the registry holds for its connector. -/
theorem incoming_registered {c : CallId} {rq : Request} (came : d.incoming env a = some (c, rq)) :
    d.registry.get? rq.key.connectorId = some rq.conn ∧
      ∃ session, d.sessions.get? rq.conn = some session ∧ session.instanceId = rq.instanceId ∧
        session.hasCapability (capabilityOf rq.tool) = true := by
  unfold incoming at came
  split at came
  · rename_i c₀ connectorId input row uuid now
    split at came
    · cases came
    · split at came
      · rename_i rq₀ prepared
        cases came
        unfold prepare at prepared
        split at prepared
        · cases prepared
        · rename_i row
          split at prepared
          · cases prepared
          · rename_i k session found
            unfold getExact at found
            split at found
            · cases found
            · rename_i k' registered
              split at found
              · cases found
              · rename_i session' here
                split at found
                · rename_i sameInstance
                  cases found
                  split at prepared
                  · cases prepared
                  · rename_i capable
                    split at prepared
                    · cases prepared
                    · split at prepared
                      · cases prepared
                      · cases prepared
                        exact ⟨registered, session, here, sameInstance, by simpa using capable⟩
                · cases found
      · cases came
  · cases came

theorem Joins.connectorOf {k k' : ConnId} {session : AgentRelaySession}
    (joins : Joins d d' k session) :
    d'.connectorOf k' = if k' = k then some session.connectorId else d.connectorOf k' := by
  unfold Dispatcher.connectorOf
  rw [joins.sessions, Dict.get?_insert]
  split <;> rfl

theorem Joins.ne_of_connectorOf {k k' : ConnId} {session : AgentRelaySession}
    (joins : Joins d d' k session) {connectorId : String}
    (has : d.connectorOf k' = some connectorId) : k' ≠ k := by
  rintro rfl
  unfold Dispatcher.connectorOf at has
  rw [joins.free] at has
  cases has

/-- A session keeps its connector. -/
theorem Joins.connectorOf_mono {k k' : ConnId} {session : AgentRelaySession}
    (joins : Joins d d' k session) {connectorId : String}
    (has : d.connectorOf k' = some connectorId) : d'.connectorOf k' = some connectorId := by
  rw [joins.connectorOf, if_neg (joins.ne_of_connectorOf has), has]

theorem Effect.connectorOf_mono (effect : Effect env d d' a) {k : ConnId} {connectorId : String}
    (has : d.connectorOf k = some connectorId) : d'.connectorOf k = some connectorId := by
  cases effect with
  | idle requests inFlight pending dispatched calls links =>
      rcases links with same | ⟨_, _, _, _, joins⟩
      · exact (same.connectors k).trans has
      · exact joins.connectorOf_mono has
  | tuned c₀ l l' was tunes requests inFlight pending dispatched calls links =>
      exact (links.connectors k).trans has
  | lost k₀ requests inFlight pending dispatched calls loses =>
      cases loses with
      | removed session act was registry sessions =>
          unfold Dispatcher.connectorOf at has ⊢
          rw [sessions, has]
      | replaced k' session act was joins => exact joins.connectorOf_mono has
  | answered c₀ rq₀ came fresh notNew eq => exact eq ▸ has
  | blocked c₀ rq₀ came fresh new taken eq => exact eq ▸ has
  | dispatch c₀ rq₀ inFlight came fresh new acquired eq => exact eq ▸ has
  | settled c₀ l out was interrupted raised returned requests inFlight pending dispatched calls
      links =>
      exact (links.connectors k).trans has

/-- Only a registration gives a connection a session. -/
theorem Effect.connectorOf_none (effect : Effect env d d' a) {k : ConnId}
    (none_ : d.connectorOf k = none) (other : ∀ session, a ≠ .register k session) :
    d'.connectorOf k = none := by
  have joined : ∀ {k' session}, a = .register k' session → Joins d d' k' session →
      d'.connectorOf k = none := by
    intro k' session act joins
    rw [joins.connectorOf, if_neg, none_]
    rintro rfl
    exact other session act
  cases effect with
  | idle requests inFlight pending dispatched calls links =>
      rcases links with same | ⟨_, _, act, _, joins⟩
      · exact (same.connectors k).trans none_
      · exact joined act joins
  | tuned c₀ l l' was tunes requests inFlight pending dispatched calls links =>
      exact (links.connectors k).trans none_
  | lost k₀ requests inFlight pending dispatched calls loses =>
      cases loses with
      | removed session act was registry sessions =>
          unfold Dispatcher.connectorOf at none_ ⊢
          rw [sessions, none_]
      | replaced k' session act was joins => exact joined act joins
  | answered c₀ rq₀ came fresh notNew eq => exact eq ▸ none_
  | blocked c₀ rq₀ came fresh new taken eq => exact eq ▸ none_
  | dispatch c₀ rq₀ inFlight came fresh new acquired eq => exact eq ▸ none_
  | settled c₀ l out was interrupted raised returned requests inFlight pending dispatched calls
      links => exact (links.connectors k).trans none_

/-- A session that was not in the registry does not come back. -/
theorem Effect.unregistered_mono (effect : Effect env d d' a) {k : ConnId} {connectorId : String}
    (has : d.connectorOf k = some connectorId)
    (gone : d.registry.get? connectorId ≠ some k) : d'.registry.get? connectorId ≠ some k := by
  have joined : ∀ {k' session}, Joins d d' k' session →
      d'.registry.get? connectorId ≠ some k := by
    intro k' session joins
    rw [joins.registry, Dict.get?_insert]
    split
    · exact fun eq => joins.ne_of_connectorOf has (Option.some.inj eq).symm
    · exact gone
  cases effect with
  | idle requests inFlight pending dispatched calls links =>
      rcases links with same | ⟨_, _, _, _, joins⟩
      · rw [same.registry]
        exact gone
      · exact joined joins
  | tuned c₀ l l' was tunes requests inFlight pending dispatched calls links =>
      rw [links.registry]
      exact gone
  | lost k₀ requests inFlight pending dispatched calls loses =>
      cases loses with
      | removed session act was registry sessions =>
          rw [registry]
          split
          · exact fun found => gone (Dict.get?_of_get?_erase found).2
          · exact gone
      | replaced k' session act was joins => exact joined joins
  | answered c₀ rq₀ came fresh notNew eq => exact eq ▸ gone
  | blocked c₀ rq₀ came fresh new taken eq => exact eq ▸ gone
  | dispatch c₀ rq₀ inFlight came fresh new acquired eq => exact eq ▸ gone
  | settled c₀ l out was interrupted raised returned requests inFlight pending dispatched calls
      links =>
      rw [links.registry]
      exact gone

/-- What a lost session leaves behind: it is out of the registry. -/
theorem Loses.gone {k : ConnId} {connectorId : String} (wired : Wired d) (loses : Loses d d' a k)
    (has : d.connectorOf k = some connectorId) : d'.registry.get? connectorId ≠ some k := by
  cases loses with
  | removed session act was registry sessions =>
      have own : session.connectorId = connectorId := by
        unfold Dispatcher.connectorOf at has
        rw [was] at has
        exact Option.some.inj has
      rw [registry]
      split
      · rw [own, Dict.get?_erase_self]
        exact fun eq => nomatch eq
      · rename_i kept
        simpa only [removes, own, decide_eq_true_eq] using kept
  | replaced k' session act was joins =>
      have own : session.connectorId = connectorId := by
        have same := wired.registered _ _ was
        rw [has] at same
        exact (Option.some.inj same).symm
      rw [joins.registry, own, Dict.get?_insert_self]
      exact fun eq => joins.ne_of_connectorOf has (Option.some.inj eq).symm

/-- **A session leaves the registry only by being lost**: its map is emptied and
its futures fail. -/
theorem Effect.unregistered (effect : Effect env d d' a) {k : ConnId} {connectorId : String}
    (was : d.registry.get? connectorId = some k)
    (gone : d'.registry.get? connectorId ≠ some k) :
    (∀ id, (d'.pending k).get? id = none) ∧ d'.calls = (d.failPending k).calls := by
  cases effect with
  | idle requests inFlight pending dispatched calls links =>
      rcases links with same | ⟨k', session, _, absent, joins⟩
      · rw [same.registry] at gone
        exact absurd was gone
      · refine absurd ?_ gone
        rw [joins.registry, Dict.get?_insert_of_ne, was]
        rintro rfl
        rw [absent] at was
        cases was
  | tuned c₀ l l' was₀ tunes requests inFlight pending dispatched calls links =>
      rw [links.registry] at gone
      exact absurd was gone
  | lost k₀ requests inFlight pending dispatched calls loses =>
      have same : k₀ = k := by
        by_contra differ
        refine gone ?_
        cases loses with
        | removed session act was₀ registry sessions =>
            rw [registry]
            split
            · rename_i holds
              have held : d.registry.get? session.connectorId = some k₀ := of_decide_eq_true holds
              rw [Dict.get?_erase_of_ne, was]
              rintro rfl
              exact differ (Option.some.inj (held.symm.trans was))
            · exact was
        | replaced k' session act was₀ joins =>
            rw [joins.registry, Dict.get?_insert_of_ne, was]
            rintro rfl
            exact differ (Option.some.inj (was₀.symm.trans was))
      subst same
      refine ⟨fun id => ?_, calls⟩
      rw [pending, pending_failPending, if_pos rfl]
      rfl
  | answered c₀ rq₀ came fresh notNew eq => subst eq; exact absurd was gone
  | blocked c₀ rq₀ came fresh new taken eq => subst eq; exact absurd was gone
  | dispatch c₀ rq₀ inFlight came fresh new acquired eq => subst eq; exact absurd was gone
  | settled c₀ l out was₀ interrupted raised returned requests inFlight pending dispatched calls
      links =>
      rw [links.registry] at gone
      exact absurd was gone

/-- A registry entry after an effect was there, or is that of a session that joins. -/
theorem Effect.registered_cases (effect : Effect env d d' a) {k : ConnId} {connectorId : String}
    (found : d'.registry.get? connectorId = some k) :
    d.registry.get? connectorId = some k ∨
      ∃ session, Joins d d' k session ∧ session.connectorId = connectorId := by
  have joined : ∀ {k' session}, Joins d d' k' session →
      d.registry.get? connectorId = some k ∨
        ∃ session, Joins d d' k session ∧ session.connectorId = connectorId := by
    intro k' session joins
    rw [joins.registry, Dict.get?_insert] at found
    split at found
    · rename_i same
      cases found
      exact Or.inr ⟨session, joins, same.symm⟩
    · exact Or.inl found
  cases effect with
  | idle requests inFlight pending dispatched calls links =>
      rcases links with same | ⟨_, _, _, _, joins⟩
      · exact Or.inl (same.registry ▸ found)
      · exact joined joins
  | tuned c₀ l l' was tunes requests inFlight pending dispatched calls links =>
      exact Or.inl (links.registry ▸ found)
  | lost k₀ requests inFlight pending dispatched calls loses =>
      cases loses with
      | removed session act was registry sessions =>
          rw [registry] at found
          split at found
          · exact Or.inl (Dict.get?_of_get?_erase found).2
          · exact Or.inl found
      | replaced k' session act was joins => exact joined joins
  | answered c₀ rq₀ came fresh notNew eq => subst eq; exact Or.inl found
  | blocked c₀ rq₀ came fresh new taken eq => subst eq; exact Or.inl found
  | dispatch c₀ rq₀ inFlight came fresh new acquired eq => subst eq; exact Or.inl found
  | settled c₀ l out was interrupted raised returned requests inFlight pending dispatched calls
      links => exact Or.inl (links.registry ▸ found)

/-- A session after an effect was there, or has just joined the registry. -/
theorem Effect.connectorOf_cases (effect : Effect env d d' a) {k : ConnId} {connectorId : String}
    (has : d'.connectorOf k = some connectorId) :
    d.connectorOf k = some connectorId ∨ d'.registry.get? connectorId = some k := by
  have joined : ∀ {k' session}, Joins d d' k' session →
      d.connectorOf k = some connectorId ∨ d'.registry.get? connectorId = some k := by
    intro k' session joins
    rw [joins.connectorOf] at has
    split at has
    · rename_i same
      cases has
      refine Or.inr ?_
      rw [joins.registry, same, Dict.get?_insert_self]
    · exact Or.inl has
  cases effect with
  | idle requests inFlight pending dispatched calls links =>
      rcases links with same | ⟨_, _, _, _, joins⟩
      · exact Or.inl ((same.connectors k).symm.trans has)
      · exact joined joins
  | tuned c₀ l l' was tunes requests inFlight pending dispatched calls links =>
      exact Or.inl ((links.connectors k).symm.trans has)
  | lost k₀ requests inFlight pending dispatched calls loses =>
      cases loses with
      | removed session act was registry sessions =>
          unfold Dispatcher.connectorOf at has ⊢
          rw [sessions] at has
          exact Or.inl has
      | replaced k' session act was joins => exact joined joins
  | answered c₀ rq₀ came fresh notNew eq => subst eq; exact Or.inl has
  | blocked c₀ rq₀ came fresh new taken eq => subst eq; exact Or.inl has
  | dispatch c₀ rq₀ inFlight came fresh new acquired eq => subst eq; exact Or.inl has
  | settled c₀ l out was interrupted raised returned requests inFlight pending dispatched calls
      links => exact Or.inl ((links.connectors k).symm.trans has)

theorem Wired.effect (wired : Wired d) (effect : Effect env d d' a) : Wired d' where
  entry := by
    intro k id c found
    rcases effect.running with ⟨_, _, pending, running⟩ |
      ⟨c₀, rq₀, _, free, _, _, _, pending, running⟩ | ⟨c₀, rq₀, was, _, _, pending, running⟩
    · obtain ⟨rq, now, here⟩ := wired.entry k id c (pending k id c found)
      exact ⟨rq, (running c rq).mpr now, here⟩
    · -- The new entry names the new call; the others are as they were.
      have old : (d.pending k).get? id = some c →
          ∃ rq, d'.Running c rq ∧ rq.conn = k ∧ rq.requestId = id := by
        intro before
        obtain ⟨rq, now, here⟩ := wired.entry k id c before
        exact ⟨rq, (running c rq).mpr (Or.inl now), here⟩
      rw [pending] at found
      simp only at found
      split at found
      · rename_i sameConn
        rw [Dict.get?_insert] at found
        split at found
        · rename_i sameId
          cases found
          exact ⟨rq₀, (running _ rq₀).mpr (Or.inr ⟨rfl, rfl⟩), sameConn.symm, sameId.symm⟩
        · exact old found
      · exact old found
    · -- The only entry of the call that ends is the one that it erases.
      have before : (d.pending k).get? id = some c ∧ ¬ (k = rq₀.conn ∧ id = rq₀.requestId) := by
        rw [pending] at found
        simp only at found
        split at found
        · obtain ⟨differ, old⟩ := Dict.get?_of_get?_erase found
          exact ⟨old, fun both => differ both.2⟩
        · rename_i differ
          exact ⟨found, fun both => differ both.1⟩
      obtain ⟨rq, now, here, sameId⟩ := wired.entry k id c before.1
      refine ⟨rq, (running c rq).mpr ⟨now, fun same => ?_⟩, here, sameId⟩
      rw [same] at now
      rw [now.unique was] at here sameId
      exact before.2 ⟨here.symm, sameId.symm⟩
  registered := by
    intro connectorId k found
    rcases effect.registered_cases found with before | ⟨session, joins, rfl⟩
    · exact effect.connectorOf_mono (wired.registered connectorId k before)
    · rw [joins.connectorOf, if_pos rfl]
  emptied := by
    intro k connectorId has gone id
    have hasBefore : d.connectorOf k = some connectorId := by
      rcases effect.connectorOf_cases has with before | now
      · exact before
      · exact absurd now gone
    by_cases was : d.registry.get? connectorId = some k
    · exact (effect.unregistered was gone).1 id
    · have empty := wired.emptied k connectorId hasBefore was
      rcases effect.running with ⟨_, _, pending, _⟩ | ⟨c₀, rq₀, came, _, _, _, _, pending, _⟩ |
        ⟨c₀, rq₀, _, _, _, pending, _⟩
      · cases found : (d'.pending k).get? id with
        | none => rfl
        | some c =>
            have old := pending k id c found
            rw [empty id] at old
            cases old
      · -- A call is added to a registered session only.
        have other : k ≠ rq₀.conn := by
          rintro rfl
          have live := (incoming_registered came).1
          have own := wired.registered _ _ live
          rw [hasBefore] at own
          rw [← Option.some.inj own] at live
          exact was live
        rw [pending]
        simp only [if_neg other, empty id]
      · rw [pending]
        simp only
        split
        · rw [Dict.get?_erase]
          split
          · rfl
          · exact empty id
        · exact empty id
  homed := by
    intro c rq told
    rcases effect.told_cases told with before | ⟨came, _, _, _⟩
    · exact effect.connectorOf_mono (wired.homed c rq before)
    · exact effect.connectorOf_mono (wired.registered _ _ (incoming_registered came).1)
  framed := by
    intro rq mem
    rcases effect.dispatched_cases with same | ⟨c, rq₀, more, _, _, _, told⟩
    · rw [same] at mem
      obtain ⟨c, told⟩ := wired.framed rq mem
      exact ⟨c, effect.told_mono told⟩
    · rw [more] at mem
      rcases List.mem_append.mp mem with old | new
      · obtain ⟨c', told'⟩ := wired.framed rq old
        exact ⟨c', effect.told_mono told'⟩
      · exact ⟨c, List.mem_singleton.mp new ▸ told⟩

theorem wired_of_reach {allow : Dispatcher → Act → Prop}
    (reached : (dispatcher env).Reach allow d) : Wired d :=
  reached.invariant wired_init fun _ wired _ step => wired.effect (step_effect step)

end Dispatcher

end RemoteAgent
