import RemoteAgent.PendingCalls

/-!
# One frame and one waiter for a request id

`FreshDispatch` is the side condition that a call which is dispatched does not
reuse the request id of an earlier frame.  In runs that meet it (`Waiters`) a
request id is on one frame, and a running call owns its `pending` entry until its
session is lost; its future is then done.

`DistinctIds`, by which no two calls that reach `claim_request` bear one request
id, implies `FreshDispatch` and `FreshClaim`.

Where no session is lost while calls wait on it (`SparesWaiters`), a running call
owns its entry without exception (`Owning`).
-/

open Wire Storage Transition

namespace RemoteAgent

namespace Dispatcher

variable {env : Env} {d d' : Dispatcher} {a : Act}

/-! ## Side conditions -/

/-- A claim that is dispatched does not reuse the request id of a frame. -/
def FreshDispatch (env : Env) (d : Dispatcher) (a : Act) : Prop :=
  ∀ c rq, d.incoming env a = some (c, rq) → d.ClaimsNew env rq →
    acquireCollisionGuard d.inFlight (rq.collisionKey env) rq.requestId ≠ none →
    ∀ rq' ∈ d.dispatched, rq'.requestId ≠ rq.requestId

instance (env : Env) (d : Dispatcher) (a : Act) : Decidable (FreshDispatch env d a) :=
  match came : d.incoming env a with
  | none => isTrue fun _ _ isCall => nomatch came.symm.trans isCall
  | some (c, rq) =>
      let dispatched : Bool := match (claimRequest d.requests (rq.claim env)).2 with
        | .new => (acquireCollisionGuard d.inFlight (rq.collisionKey env) rq.requestId).isSome
        | _ => false
      decidable_of_iff (dispatched = true → ∀ rq' ∈ d.dispatched, rq'.requestId ≠ rq.requestId) <| by
        have goes : dispatched = true ↔ d.ClaimsNew env rq ∧
            acquireCollisionGuard d.inFlight (rq.collisionKey env) rq.requestId ≠ none := by
          unfold ClaimsNew
          simp only [dispatched]
          split
          · rename_i new
            rw [new, Option.isSome_iff_ne_none, eq_self, true_and]
          · rename_i other
            exact iff_of_false (fun eq => nomatch eq) fun both => other both.1
        unfold FreshDispatch
        rw [goes, came]
        constructor
        · intro apart c' rq' isCall new acquired
          cases isCall
          exact apart ⟨new, acquired⟩
        · exact fun fresh both => fresh c rq rfl both.1 both.2

/-- Two calls that reach `claim_request` bear different request ids. -/
def DistinctIds (env : Env) (d : Dispatcher) (a : Act) : Prop :=
  ∀ c rq, d.incoming env a = some (c, rq) →
    ∀ c' call rq' o, d.calls.get? c' = some call → call.claimed? = some (rq', o) →
      rq'.requestId ≠ rq.requestId

/-- A session is not lost while calls wait on it. -/
def SparesWaiters (d : Dispatcher) : Act → Prop
  | .remove k => ∀ id, (d.pending k).get? id = none
  | .register _ session =>
      ∀ k, d.registry.get? session.connectorId = some k → ∀ id, (d.pending k).get? id = none
  | _ => True

/-- No session is removed, and one that joins takes no other's place. -/
def JoinsFree (d : Dispatcher) : Act → Prop
  | .remove _ => False
  | .register _ session => d.registry.get? session.connectorId = none
  | _ => True

instance (d : Dispatcher) (a : Act) : Decidable (JoinsFree d a) := by
  unfold JoinsFree
  split <;> infer_instance

theorem JoinsFree.spares {d : Dispatcher} {a : Act} (free : JoinsFree d a) : SparesWaiters d a := by
  cases a with
  | remove k => exact free.elim
  | register k session =>
      intro k' held
      have free : d.registry.get? session.connectorId = none := free
      rw [free] at held
      cases held
  | _ => trivial

theorem Told.claimed {c : CallId} {rq : Request} (told : d.Told c rq) :
    ∃ call o, d.calls.get? c = some call ∧ call.claimed? = some (rq, o) := by
  obtain ⟨call, found, is⟩ := told
  cases call with
  | live l => cases is; exact ⟨_, .new, found, rfl⟩
  | settled rq' out => cases is; exact ⟨_, .new, found, rfl⟩
  | refused e => cases is
  | answered rq' o => cases is

theorem DistinctIds.told (distinct : DistinctIds env d a) {c c' : CallId} {rq rq' : Request}
    (came : d.incoming env a = some (c, rq)) (told : d.Told c' rq') :
    rq'.requestId ≠ rq.requestId := by
  obtain ⟨call, o, found, is⟩ := told.claimed
  exact distinct c rq came c' call rq' o found is

theorem DistinctIds.freshDispatch {allow : Dispatcher → Act → Prop}
    (reached : (dispatcher env).Reach allow d) (distinct : DistinctIds env d a) :
    FreshDispatch env d a := by
  intro c rq came _ _ rq' sent
  obtain ⟨c', told⟩ := (wired_of_reach reached).framed rq' sent
  exact distinct.told came told

theorem DistinctIds.freshClaim {allow : Dispatcher → Act → Prop}
    (reached : (dispatcher env).Reach allow d) (distinct : DistinctIds env d a) :
    FreshClaim env d a := by
  intro c rq came row found
  obtain ⟨c', rq', told, _, sameId, _⟩ := (consistent_of_reach reached).stored _ row found
  exact sameId ▸ distinct.told came told

/-- The calls that have reached `claim_request` bear these request ids. -/
def ClaimedAmong (ids : List String) (d : Dispatcher) : Prop :=
  ∀ c call rq o, d.calls.get? c = some call → call.claimed? = some (rq, o) → rq.requestId ∈ ids

theorem claimedAmong_init : ClaimedAmong [] init := fun _ _ _ _ found => by cases found

theorem ClaimedAmong.distinct {ids : List String} (among : ClaimedAmong ids d)
    (outside : ∀ c rq, d.incoming env a = some (c, rq) → rq.requestId ∉ ids) :
    DistinctIds env d a :=
  fun c rq came c' call rq' o found claimed same =>
    outside c rq came (same ▸ among c' call rq' o found claimed)

theorem ClaimedAmong.step {ids ids' : List String} (among : ClaimedAmong ids d)
    (kept : ∀ id ∈ ids, id ∈ ids')
    (inside : ∀ c rq, d.incoming env a = some (c, rq) → rq.requestId ∈ ids')
    (step : d.step env a = some d') : ClaimedAmong ids' d' := by
  intro c call rq o found claimed
  rcases (step_effect step).claimed_cases found claimed with ⟨call₀, before, was⟩ | ⟨_, came, _⟩
  · exact kept _ (among c call₀ rq o before was)
  · exact inside c rq came

/-! ## Waiters -/

structure Waiters (d : Dispatcher) : Prop where
  /-- A request id is on one frame. -/
  once : (d.dispatched.map Request.requestId).Nodup
  framed : ∀ c rq, d.Running c rq → rq ∈ d.dispatched
  apart : ∀ c c' rq rq', d.Running c rq → d.Running c' rq' → rq.requestId = rq'.requestId → c = c'
  /-- A running call owns its entry, unless its session is lost. -/
  own : ∀ c l, d.IsLive c l →
    (d.pending l.request.conn).get? l.request.requestId = some c ∨
      (l.future.done = true ∧ d.registry.get? l.request.key.connectorId ≠ some l.request.conn)

theorem waiters_init : Waiters init where
  once := List.nodup_nil
  framed := fun _ _ running => nomatch running.choose_spec.1
  apart := fun _ _ _ _ running => nomatch running.choose_spec.1
  own := fun _ _ live => nomatch live

/-- The request id of a claim that is dispatched is on no running call. -/
theorem Waiters.unused (waiters : Waiters d) (fresh : FreshDispatch env d a) {c₀ : CallId}
    {rq₀ : Request} {inFlight : Dict CollisionKey String}
    (came : d.incoming env a = some (c₀, rq₀)) (new : d.ClaimsNew env rq₀)
    (acquired : acquireCollisionGuard d.inFlight (rq₀.collisionKey env) rq₀.requestId =
      some inFlight) {c : CallId} {rq : Request} (running : d.Running c rq) :
    rq.requestId ≠ rq₀.requestId :=
  fresh c₀ rq₀ came new (by rw [acquired]; exact Option.some_ne_none _) rq
    (waiters.framed c rq running)

/-- Only losing its session takes the entry of a call that stays live, and its
future is done by then. -/
theorem Waiters.own_effect (waiters : Waiters d) (wired : Wired d)
    (fresh : FreshDispatch env d a) (effect : Effect env d d' a) {c : CallId} {l' : Live}
    (live : d'.IsLive c l') :
    (d'.pending l'.request.conn).get? l'.request.requestId = some c ∨
      (l'.future.done = true ∧
        d'.registry.get? l'.request.key.connectorId ≠ some l'.request.conn) := by
  -- A live call whose record is kept, and whose entry is kept if it is its own.
  have kept : ∀ l, d.IsLive c l → l'.request = l.request →
      (l.future.done = true → l'.future.done = true) →
      ((d.pending l.request.conn).get? l.request.requestId = some c →
        (d'.pending l.request.conn).get? l.request.requestId = some c) →
      (d'.pending l'.request.conn).get? l'.request.requestId = some c ∨
        (l'.future.done = true ∧
          d'.registry.get? l'.request.key.connectorId ≠ some l'.request.conn) := by
    intro l before same done entry
    rw [same]
    rcases waiters.own c l before with mine | ⟨isDone, gone⟩
    · exact Or.inl (entry mine)
    · exact Or.inr ⟨done isDone, effect.unregistered_mono (wired.homed c _ before.told) gone⟩
  cases effect with
  | idle requests inFlight pending dispatched calls links =>
      rcases calls c with same | ⟨_, e, refused, _⟩
      · exact kept l' (same.symm.trans live) rfl id fun mine => by rwa [pending]
      · rw [IsLive, refused] at live
        cases live
  | tuned c₀ l₀ l₁ was tunes requests inFlight pending dispatched calls links =>
      rw [IsLive, calls, Dict.get?_insert] at live
      split at live
      · rename_i same
        subst same
        cases live
        exact kept l₀ was tunes.request (fun done => by rw [tunes.future done]; exact done)
          fun mine => by rwa [pending]
      · exact kept l' live rfl id fun mine => by rwa [pending]
  | lost k requests inFlight pending dispatched calls loses =>
      rw [IsLive, calls] at live
      obtain ⟨l, before, same, either, answered⟩ := isLive_failPending live
      by_cases here : l.request.conn = k
      · -- The call's own session is lost.
        rw [same]
        subst here
        rcases waiters.own c l before with mine | ⟨done, gone⟩
        · exact Or.inr ⟨answered mine, loses.gone wired (wired.homed c _ before.told)⟩
        · rcases either with rfl | ⟨undone, _, _⟩
          · exact Or.inr ⟨done, loses.gone wired (wired.homed c _ before.told)⟩
          · rw [done] at undone
            cases undone
      · refine kept l before same (fun done => ?_) fun mine => ?_
        · rcases either with rfl | ⟨undone, _, _⟩
          · exact done
          · rw [done] at undone
            cases undone
        · rwa [pending, pending_failPending, if_neg here]
  | answered c₀ rq₀ came free notNew eq =>
      subst eq
      have live : (d.calls.insert c₀ _).get? c = some (.live l') := live
      rw [Dict.get?_insert] at live
      split at live
      · cases live
      · exact kept l' live rfl id id
  | blocked c₀ rq₀ came free new taken eq =>
      subst eq
      have live : (d.calls.insert c₀ _).get? c = some (.live l') := live
      rw [Dict.get?_insert] at live
      split at live
      · cases live
      · exact kept l' live rfl id id
  | dispatch c₀ rq₀ inFlight came free new acquired eq =>
      subst eq
      rcases isLive_dispatch live with ⟨rfl, rfl⟩ | ⟨_, before⟩
      · refine Or.inl ?_
        rw [pending_dispatch, if_pos rfl, Dict.get?_insert_self]
      · -- The new entry is under another request id.
        refine kept l' before rfl id fun mine => ?_
        have differ := waiters.unused fresh came new acquired ⟨l', before, rfl⟩
        rw [pending_dispatch]
        split
        · rwa [Dict.get?_insert_of_ne differ]
        · exact mine
  | settled c₀ l₀ out was interrupted raised returned requests inFlight pending dispatched calls
      links =>
      rw [IsLive, calls, Dict.get?_insert] at live
      split at live
      · cases live
      · -- The call that ends has another request id.
        rename_i other
        refine kept l' live rfl id fun mine => ?_
        have differ : l'.request.requestId ≠ l₀.request.requestId := fun same =>
          other (waiters.apart c c₀ _ _ ⟨l', live, rfl⟩ ⟨l₀, was, rfl⟩ same)
        rw [pending]
        simp only
        split
        · rwa [Dict.get?_erase_of_ne differ]
        · exact mine

theorem Waiters.effect (waiters : Waiters d) (wired : Wired d) (fresh : FreshDispatch env d a)
    (effect : Effect env d d' a) : Waiters d' := by
  have own : ∀ c l, d'.IsLive c l → (d'.pending l.request.conn).get? l.request.requestId = some c ∨
      (l.future.done = true ∧
        d'.registry.get? l.request.key.connectorId ≠ some l.request.conn) :=
    fun _ _ live => waiters.own_effect wired fresh effect live
  rcases effect.running with ⟨_, sent, _, running⟩ |
    ⟨c₀, rq₀, came, _, new, acquired, sent, _, running⟩ | ⟨c₀, rq₀, _, _, sent, _, running⟩
  · refine ⟨sent ▸ waiters.once, fun c rq now => ?_, fun c c' rq rq' now now' => ?_, own⟩
    · exact sent ▸ waiters.framed c rq ((running c rq).mp now)
    · exact waiters.apart c c' rq rq' ((running c rq).mp now) ((running c' rq').mp now')
  · have unused := fun {c rq} (before : d.Running c rq) =>
      waiters.unused fresh came new acquired before
    refine ⟨?_, fun c rq now => ?_, fun c c' rq rq' now now' same => ?_, own⟩
    · rw [sent, List.map_append, List.map_singleton]
      refine List.nodup_append.mpr ⟨waiters.once, List.nodup_singleton _, ?_⟩
      intro id mem id' mem' same
      obtain ⟨rq, framed, rfl⟩ := List.mem_map.mp mem
      rw [List.mem_singleton] at mem'
      exact fresh c₀ rq₀ came new (by rw [acquired]; exact Option.some_ne_none _) rq framed
        (same.trans mem')
    · rw [sent]
      rcases (running c rq).mp now with before | ⟨_, rfl⟩
      · exact List.mem_append_left _ (waiters.framed c rq before)
      · exact List.mem_append_right _ (List.mem_singleton_self _)
    · rcases (running c rq).mp now with before | ⟨rfl, rfl⟩
      · rcases (running c' rq').mp now' with before' | ⟨rfl, rfl⟩
        · exact waiters.apart c c' rq rq' before before' same
        · exact absurd same (unused before)
      · rcases (running c' rq').mp now' with before' | ⟨rfl, _⟩
        · exact absurd same.symm (unused before')
        · rfl
  · refine ⟨sent ▸ waiters.once, fun c rq now => ?_, fun c c' rq rq' now now' => ?_, own⟩
    · exact sent ▸ waiters.framed c rq ((running c rq).mp now).1
    · exact waiters.apart c c' rq rq' ((running c rq).mp now).1 ((running c' rq').mp now').1

theorem waiters_of_reach (reached : (dispatcher env).Reach (FreshDispatch env) d) : Waiters d :=
  reached.invariant waiters_init fun before waiters fresh step =>
    waiters.effect (wired_of_reach before) fresh (step_effect step)

/-! ## Runs in which no waiter loses its session -/

/-- Every running call owns its entry. -/
def Owning (d : Dispatcher) : Prop :=
  ∀ c rq, d.Running c rq → (d.pending rq.conn).get? rq.requestId = some c

theorem Loses.spared {k : ConnId} (loses : Loses d d' a k) (spares : SparesWaiters d a) (id : String) :
    (d.pending k).get? id = none := by
  cases loses with
  | removed session act was registry sessions => subst act; exact spares id
  | replaced k' session act was joins => subst act; exact spares k was id

/-- While no waiter loses its session, entries go only with their calls. -/
theorem Effect.entry_kept (effect : Effect env d d' a) (spares : SparesWaiters d a)
    (waiters : Waiters d) (fresh : FreshDispatch env d a) {c : CallId} {rq : Request}
    (before : d.Running c rq) (now : d'.Running c rq)
    (mine : (d.pending rq.conn).get? rq.requestId = some c) :
    (d'.pending rq.conn).get? rq.requestId = some c := by
  cases effect with
  | idle requests inFlight pending dispatched calls links => rwa [pending]
  | tuned c₀ l l' was tunes requests inFlight pending dispatched calls links => rwa [pending]
  | lost k requests inFlight pending dispatched calls loses =>
      rw [pending, pending_failPending]
      split
      · rename_i here
        rw [here, loses.spared spares] at mine
        cases mine
      · exact mine
  | answered c₀ rq₀ came free notNew eq => subst eq; exact mine
  | blocked c₀ rq₀ came free new taken eq => subst eq; exact mine
  | dispatch c₀ rq₀ inFlight came free new acquired eq =>
      subst eq
      rw [pending_dispatch]
      split
      · rwa [Dict.get?_insert_of_ne (waiters.unused fresh came new acquired before)]
      · exact mine
  | settled c₀ l out was interrupted raised returned requests inFlight pending dispatched calls
      links =>
      rw [pending]
      simp only
      split
      · have differ : rq.requestId ≠ l.request.requestId := by
          intro same
          have ended := waiters.apart c c₀ rq l.request before ⟨l, was, rfl⟩ same
          obtain ⟨l', live, _⟩ := now
          rw [IsLive, calls, ended, Dict.get?_insert_self] at live
          cases live
        rwa [Dict.get?_erase_of_ne differ]
      · exact mine

theorem Owning.effect (owning : Owning d) (waiters : Waiters d) (fresh : FreshDispatch env d a)
    (spares : SparesWaiters d a) (effect : Effect env d d' a) : Owning d' := by
  intro c rq now
  have keeps : d.Running c rq → (d'.pending rq.conn).get? rq.requestId = some c := fun before =>
    effect.entry_kept spares waiters fresh before now (owning c rq before)
  rcases effect.running with ⟨_, _, _, running⟩ | ⟨c₀, rq₀, _, _, _, _, _, pending, running⟩ |
    ⟨c₀, rq₀, _, _, _, _, running⟩
  · exact keeps ((running c rq).mp now)
  · rcases (running c rq).mp now with before | ⟨rfl, rfl⟩
    · exact keeps before
    · rw [pending]
      simp only [if_pos, Dict.get?_insert_self]
  · exact keeps ((running c rq).mp now).1

theorem owning_of_reach
    (reached : (dispatcher env).Reach (fun d a => FreshDispatch env d a ∧ SparesWaiters d a) d) :
    Owning d :=
  reached.invariant (fun _ _ running => nomatch running.choose_spec.1)
    fun before owning allowed step =>
      owning.effect (waiters_of_reach (before.mono fun _ both => both.1)) allowed.1 allowed.2
        (step_effect step)

end Dispatcher

end RemoteAgent
