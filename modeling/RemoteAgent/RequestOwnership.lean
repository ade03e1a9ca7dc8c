import RemoteAgent.DispatcherSteps

/-!
# Who owns a row of the idempotency table

Every row was stored by a claim that was told `new`.  `FreshClaim` is the side
condition that a claim never carries the request id already stored under its key.
In runs that meet it:

* `Ownership`: a key is owned by one call, and its frame is sent at most once;
* `Recorded`: the row of a key says what became of the call that owns it.

Without the side condition a claim that repeats the stored request id is told
`new` a second time.
-/

open Wire Storage Transition

namespace RemoteAgent

namespace Dispatcher

variable {env : Env} {d d' : Dispatcher} {a : Act}

/-- A claim does not repeat the request id stored under its key. -/
def FreshClaim (env : Env) (d : Dispatcher) (a : Act) : Prop :=
  ∀ c rq, d.incoming env a = some (c, rq) → ∀ row, d.requests.find? rq.key = some row →
    row.requestId ≠ rq.requestId

instance (env : Env) (d : Dispatcher) (a : Act) : Decidable (FreshClaim env d a) :=
  match came : d.incoming env a with
  | none => isTrue fun _ _ isCall => nomatch came.symm.trans isCall
  | some (c, rq) =>
      match found : d.requests.find? rq.key with
      | none => isTrue fun _ _ isCall row isRow => by
          rw [came] at isCall
          cases isCall
          rw [found] at isRow
          cases isRow
      | some row => decidable_of_iff (row.requestId ≠ rq.requestId) <| by
          unfold FreshClaim
          rw [came]
          constructor
          · intro differ c' rq' isCall row' isRow
            cases isCall
            rw [found] at isRow
            cases isRow
            exact differ
          · exact fun fresh => fresh c rq rfl row found

/-- A claim with a fresh request id is new only on a key without a row. -/
theorem FreshClaim.absent (fresh : FreshClaim env d a) {c : CallId} {rq : Request}
    (came : d.incoming env a = some (c, rq)) (new : d.ClaimsNew env rq) :
    d.requests.find? rq.key = none := by
  cases found : d.requests.find? rq.key with
  | none => rfl
  | some row => exact absurd (claimRequest_new_iff.mp new row found) (fresh c rq came row found)

/-- A claim on a key without a row is new. -/
theorem claimsNew_of_absent {rq : Request} (absent : d.requests.find? rq.key = none) :
    d.ClaimsNew env rq := claimRequest_absent absent

/-! ## What an effect does to the calls that were told `new` -/

theorem told_insert {calls : Dict CallId Call} {c c' : CallId} {call : Call} {rq : Request}
    (told : ∃ call', (calls.insert c call).get? c' = some call' ∧ call'.told? = some rq) :
    (c' ≠ c ∧ ∃ call', calls.get? c' = some call' ∧ call'.told? = some rq) ∨
      (c' = c ∧ call.told? = some rq) := by
  obtain ⟨call', found, is⟩ := told
  rw [Dict.get?_insert] at found
  split at found
  · rename_i same
    cases found
    exact Or.inr ⟨same, is⟩
  · rename_i other
    exact Or.inl ⟨other, call', found, is⟩

/-- A call that has been told `new` after an effect had been told so before, or
has just claimed. -/
theorem Effect.told_cases (effect : Effect env d d' a) {c : CallId} {rq : Request}
    (told : d'.Told c rq) :
    d.Told c rq ∨
      (d.incoming env a = some (c, rq) ∧ d.ClaimsNew env rq ∧ d.calls.get? c = none ∧
        d'.requests = (claimRequest d.requests (rq.claim env)).1) := by
  cases effect with
  | idle requests inFlight pending dispatched calls =>
      obtain ⟨call, found, is⟩ := told
      rcases calls c with same | ⟨_, e, refused, _⟩
      · exact Or.inl ⟨call, same ▸ found, is⟩
      · rw [refused] at found
        cases found
        cases is
  | tuned c₀ l l' was tunes requests inFlight pending dispatched calls =>
      unfold Told at told
      rw [calls] at told
      rcases told_insert told with ⟨_, call', found, is⟩ | ⟨rfl, is⟩
      · exact Or.inl ⟨call', found, is⟩
      · refine Or.inl ⟨.live l, was, ?_⟩
        rw [← is]
        exact congrArg some tunes.request.symm
  | lost k requests inFlight pending dispatched calls =>
      unfold Told at told
      rw [calls] at told
      exact Or.inl (told_failPending.mp told)
  | answered c₀ rq₀ came fresh notNew eq =>
      subst eq
      rcases told_insert told with ⟨_, call', found, is⟩ | ⟨_, is⟩
      · exact Or.inl ⟨call', found, is⟩
      · cases is
  | blocked c₀ rq₀ came fresh new taken eq =>
      subst eq
      rcases told_insert told with ⟨_, call', found, is⟩ | ⟨rfl, is⟩
      · exact Or.inl ⟨call', found, is⟩
      · cases is
        exact Or.inr ⟨came, new, fresh, rfl⟩
  | dispatch c₀ rq₀ inFlight came fresh new acquired eq =>
      subst eq
      rcases told_insert told with ⟨_, call', found, is⟩ | ⟨rfl, is⟩
      · exact Or.inl ⟨call', found, is⟩
      · cases is
        exact Or.inr ⟨came, new, fresh, rfl⟩
  | settled c₀ l out was interrupted raised returned requests inFlight pending dispatched calls =>
      unfold Told at told
      rw [calls] at told
      rcases told_insert told with ⟨_, call', found, is⟩ | ⟨rfl, is⟩
      · exact Or.inl ⟨call', found, is⟩
      · cases is
        exact Or.inl ⟨.live l, was, rfl⟩

theorem told_insert_of_ne {calls : Dict CallId Call} {c c' : CallId} {call call' : Call}
    {rq : Request} (other : c' ≠ c) (found : calls.get? c' = some call')
    (is : call'.told? = some rq) :
    ∃ call', (calls.insert c call).get? c' = some call' ∧ call'.told? = some rq :=
  ⟨call', (Dict.get?_insert_of_ne other).trans found, is⟩

/-- Replacing the record of a live call by one with the same request. -/
theorem told_replace {calls : Dict CallId Call} {c c' : CallId} {l : Live} {call : Call}
    {rq : Request} (was : calls.get? c = some (.live l)) (same : call.told? = some l.request)
    (told : ∃ call', calls.get? c' = some call' ∧ call'.told? = some rq) :
    ∃ call', (calls.insert c call).get? c' = some call' ∧ call'.told? = some rq := by
  obtain ⟨call', found, is⟩ := told
  by_cases eq : c' = c
  · subst eq
    rw [was] at found
    cases found
    exact ⟨call, Dict.get?_insert_self _ _ _, same.trans is⟩
  · exact told_insert_of_ne eq found is

/-- A new call's record leaves the others told. -/
theorem told_fresh {calls : Dict CallId Call} {c c' : CallId} {call : Call} {rq : Request}
    (fresh : calls.get? c = none)
    (told : ∃ call', calls.get? c' = some call' ∧ call'.told? = some rq) :
    ∃ call', (calls.insert c call).get? c' = some call' ∧ call'.told? = some rq := by
  obtain ⟨call', found, is⟩ := told
  refine told_insert_of_ne ?_ found is
  rintro rfl
  rw [fresh] at found
  cases found

/-- What was told once stays told. -/
theorem Effect.told_mono (effect : Effect env d d' a) {c : CallId} {rq : Request}
    (told : d.Told c rq) : d'.Told c rq := by
  cases effect with
  | idle requests inFlight pending dispatched calls =>
      obtain ⟨call, found, is⟩ := told
      rcases calls c with same | ⟨absent, _⟩
      · exact ⟨call, same.trans found, is⟩
      · rw [absent] at found
        cases found
  | tuned c₀ l l' was tunes requests inFlight pending dispatched calls =>
      unfold Told
      rw [calls]
      exact told_replace was (congrArg some tunes.request) told
  | lost k requests inFlight pending dispatched calls =>
      unfold Told
      rw [calls]
      exact told_failPending.mpr told
  | answered c₀ rq₀ came fresh notNew eq => subst eq; exact told_fresh fresh told
  | blocked c₀ rq₀ came fresh new taken eq => subst eq; exact told_fresh fresh told
  | dispatch c₀ rq₀ inFlight came fresh new acquired eq => subst eq; exact told_fresh fresh told
  | settled c₀ l out was interrupted raised returned requests inFlight pending dispatched calls =>
      unfold Told
      rw [calls]
      exact told_replace was rfl told

/-! ## What an effect does to the rows -/

theorem find?_recordOutcome_owner {t : Requests} {key k : RequestKey} {out : Outcome}
    {row : RequestRow} (found : (recordOutcome t key out).find? k = some row) :
    ∃ old, t.find? k = some old ∧ row.requestId = old.requestId ∧
      row.requestDigest = old.requestDigest := by
  cases out with
  | returned r | unaudited r => exact find?_completeRequest_owner found
  | raised e => exact find?_completeRequest_owner found
  | cancelled => exact ⟨row, found, rfl, rfl⟩

theorem find?_recordOutcome_of_ne {t : Requests} {key k : RequestKey} {out : Outcome}
    (ne : k ≠ key) : (recordOutcome t key out).find? k = t.find? k := by
  cases out with
  | returned r | unaudited r => exact find?_completeRequest_of_ne ne
  | raised e => exact find?_completeRequest_of_ne ne
  | cancelled => rfl

/-- A row after an effect was there before under the same owner, or a new claim
has just stored it. -/
theorem Effect.row_cases (effect : Effect env d d' a) {key : RequestKey} {row : RequestRow}
    (found : d'.requests.find? key = some row) :
    (∃ old, d.requests.find? key = some old ∧ row.requestId = old.requestId ∧
      row.requestDigest = old.requestDigest) ∨
    (∃ c rq, rq.key = key ∧ d.requests.find? key = none ∧ row = (rq.claim env).row ∧
      d'.Told c rq) := by
  have kept : d'.requests = d.requests → ∃ old, d.requests.find? key = some old ∧
      row.requestId = old.requestId ∧ row.requestDigest = old.requestDigest :=
    fun same => ⟨row, same ▸ found, rfl, rfl⟩
  have claimed : ∀ rq : Request, d'.requests = (claimRequest d.requests (rq.claim env)).1 →
      (∃ old, d.requests.find? key = some old ∧ row.requestId = old.requestId ∧
        row.requestDigest = old.requestDigest) ∨
      (rq.key = key ∧ d.requests.find? key = none ∧ row = (rq.claim env).row) := by
    intro rq same
    rw [same, find?_claimRequest] at found
    cases old : d.requests.find? key with
    | some r =>
        rw [old, Option.some_or] at found
        exact Or.inl ⟨r, rfl, by rw [Option.some.inj found], by rw [Option.some.inj found]⟩
    | none =>
        rw [old, Option.none_or] at found
        split at found
        · rename_i sameKey
          exact Or.inr ⟨sameKey, rfl, (Option.some.inj found).symm⟩
        · cases found
  cases effect with
  | idle requests => exact Or.inl (kept requests)
  | tuned c₀ l l' was tunes requests => exact Or.inl (kept requests)
  | lost k requests => exact Or.inl (kept requests)
  | answered c₀ rq₀ came fresh notNew eq =>
      subst eq
      rcases claimed rq₀ rfl with old | ⟨same, absent, _⟩
      · exact Or.inl old
      · exact absurd (claimsNew_of_absent (same ▸ absent)) notNew
  | blocked c₀ rq₀ came fresh new taken eq =>
      subst eq
      rcases claimed rq₀ rfl with old | ⟨same, absent, is⟩
      · exact Or.inl old
      · exact Or.inr ⟨c₀, rq₀, same, absent, is, _, Dict.get?_insert_self _ _ _, rfl⟩
  | dispatch c₀ rq₀ inFlight came fresh new acquired eq =>
      subst eq
      rcases claimed rq₀ rfl with old | ⟨same, absent, is⟩
      · exact Or.inl old
      · exact Or.inr ⟨c₀, rq₀, same, absent, is, _, Dict.get?_insert_self _ _ _, rfl⟩
  | settled c₀ l out was interrupted raised returned requests =>
      rw [requests] at found
      exact Or.inl (find?_recordOutcome_owner found)

/-- A row keeps its owner and its digest. -/
theorem Effect.row_mono (effect : Effect env d d' a) {key : RequestKey} {row : RequestRow}
    (found : d.requests.find? key = some row) :
    ∃ row', d'.requests.find? key = some row' ∧ row'.requestId = row.requestId ∧
      row'.requestDigest = row.requestDigest := by
  have completed : ∀ k status result, ∃ row', (completeRequest d.requests k status result).find? key
      = some row' ∧ row'.requestId = row.requestId ∧ row'.requestDigest = row.requestDigest := by
    intro k status result
    rw [find?_completeRequest, found, Option.map_some]
    refine ⟨_, rfl, ?_⟩
    split <;> exact ⟨rfl, rfl⟩
  cases effect with
  | idle requests => exact ⟨row, requests ▸ found, rfl, rfl⟩
  | tuned c₀ l l' was tunes requests => exact ⟨row, requests ▸ found, rfl, rfl⟩
  | lost k requests => exact ⟨row, requests ▸ found, rfl, rfl⟩
  | answered c₀ rq₀ came fresh notNew eq =>
      subst eq
      exact ⟨row, find?_claimRequest_of_some found, rfl, rfl⟩
  | blocked c₀ rq₀ came fresh new taken eq =>
      subst eq
      exact ⟨row, find?_claimRequest_of_some found, rfl, rfl⟩
  | dispatch c₀ rq₀ inFlight came fresh new acquired eq =>
      subst eq
      exact ⟨row, find?_claimRequest_of_some found, rfl, rfl⟩
  | settled c₀ l out was interrupted raised returned requests =>
      rw [requests]
      cases out with
      | returned r | unaudited r => exact completed _ _ _
      | raised e => exact completed _ _ _
      | cancelled => exact ⟨row, found, rfl, rfl⟩

/-- An effect sends at most one request frame, and only for a claim that is new. -/
theorem Effect.dispatched_cases (effect : Effect env d d' a) :
    d'.dispatched = d.dispatched ∨
      ∃ c rq, d'.dispatched = d.dispatched ++ [rq] ∧ d.incoming env a = some (c, rq) ∧
        d.ClaimsNew env rq ∧ d.calls.get? c = none ∧ d'.Told c rq := by
  cases effect with
  | idle requests inFlight pending dispatched => exact Or.inl dispatched
  | tuned c₀ l l' was tunes requests inFlight pending dispatched => exact Or.inl dispatched
  | lost k requests inFlight pending dispatched => exact Or.inl dispatched
  | answered c₀ rq₀ came fresh notNew eq => subst eq; exact Or.inl rfl
  | blocked c₀ rq₀ came fresh new taken eq => subst eq; exact Or.inl rfl
  | dispatch c₀ rq₀ inFlight came fresh new acquired eq =>
      subst eq
      exact Or.inr ⟨c₀, rq₀, dispatched_append_request _ _ _, came, new, fresh, _,
        Dict.get?_insert_self _ _ _, rfl⟩
  | settled c₀ l out was interrupted raised returned requests inFlight pending dispatched =>
      exact Or.inl dispatched

/-! ## Every run -/

/-- Every row was stored by a claim that was told `new`. -/
def Stored (env : Env) (d : Dispatcher) : Prop :=
  ∀ key row, d.requests.find? key = some row →
    ∃ c rq, d.Told c rq ∧ rq.key = key ∧ rq.requestId = row.requestId ∧
      rq.requestDigest env = row.requestDigest

/-- A call that was not told `new` was told something else, and no exception. -/
def Answered (d : Dispatcher) : Prop :=
  ∀ c rq o, d.calls.get? c = some (.answered rq o) → o ≠ .new ∧ o ≠ .broken

theorem Stored.effect (stored : Stored env d) (effect : Effect env d d' a) : Stored env d' := by
  intro key row found
  rcases effect.row_cases found with ⟨old, before, id, digest⟩ | ⟨c, rq, same, _, is, told⟩
  · obtain ⟨c, rq, told, same, sameId, sameDigest⟩ := stored key old before
    exact ⟨c, rq, effect.told_mono told, same, sameId.trans id.symm, sameDigest.trans digest.symm⟩
  · exact ⟨c, rq, told, same, is ▸ rfl, is ▸ rfl⟩

theorem Effect.sound (effect : Effect env d d' a) (sound : d.requests.Sound) :
    d'.requests.Sound := by
  cases effect with
  | idle requests => exact requests ▸ sound
  | tuned c₀ l l' was tunes requests => exact requests ▸ sound
  | lost k requests => exact requests ▸ sound
  | answered c₀ rq₀ came fresh notNew eq => exact eq ▸ sound.claim _
  | blocked c₀ rq₀ came fresh new taken eq => exact eq ▸ sound.claim _
  | dispatch c₀ rq₀ inFlight came fresh new acquired eq => exact eq ▸ sound.claim _
  | settled c₀ l out was interrupted raised returned requests =>
      rw [requests]
      cases out with
      | returned r | unaudited r => exact sound.complete _ _ _
      | raised e => exact sound.complete _ _ _
      | cancelled => exact sound

/-- The record of an answered call is new or was there. -/
theorem Effect.answered_cases (effect : Effect env d d' a) {c : CallId} {rq : Request}
    {o : ClaimOutcome} (found : d'.calls.get? c = some (.answered rq o)) :
    d.calls.get? c = some (.answered rq o) ∨
      (d.calls.get? c = none ∧ d.incoming env a = some (c, rq) ∧ ¬ d.ClaimsNew env rq ∧
        o = (claimRequest d.requests (rq.claim env)).2) := by
  have inserted : ∀ {c₀ : CallId} {call : Call}, call.told?.isSome = true →
      (d.calls.insert c₀ call).get? c = some (.answered rq o) →
        d.calls.get? c = some (.answered rq o) := by
    intro c₀ call isTold found
    rw [Dict.get?_insert] at found
    split at found
    · cases found
      cases isTold
    · exact found
  cases effect with
  | idle requests inFlight pending dispatched calls =>
      rcases calls c with same | ⟨_, e, refused, _⟩
      · exact Or.inl (same ▸ found)
      · rw [refused] at found
        cases found
  | tuned c₀ l l' was tunes requests inFlight pending dispatched calls =>
      exact Or.inl (inserted rfl (calls ▸ found))
  | lost k requests inFlight pending dispatched calls =>
      rw [calls] at found
      exact Or.inl (get?_of_failPending found fun _ live => nomatch live)
  | answered c₀ rq₀ came fresh notNew eq =>
      subst eq
      have found : (d.calls.insert c₀ (.answered rq₀
        (claimRequest d.requests (rq₀.claim env)).2)).get? c = some (.answered rq o) := found
      rw [Dict.get?_insert] at found
      split at found
      · rename_i same
        cases found
        subst same
        exact Or.inr ⟨fresh, came, notNew, rfl⟩
      · exact Or.inl found
  | blocked c₀ rq₀ came fresh new taken eq => subst eq; exact Or.inl (inserted rfl found)
  | dispatch c₀ rq₀ inFlight came fresh new acquired eq =>
      subst eq
      exact Or.inl (inserted rfl found)
  | settled c₀ l out was interrupted raised returned requests inFlight pending dispatched calls =>
      exact Or.inl (inserted rfl (calls ▸ found))

theorem Answered.effect (answered : Answered d) (sound : d.requests.Sound)
    (effect : Effect env d d' a) : Answered d' := by
  intro c rq o found
  rcases effect.answered_cases found with before | ⟨_, _, notNew, is⟩
  · exact answered c rq o before
  · rw [is]
    exact ⟨notNew, sound.claim_not_broken _⟩

/-- What holds of the rows and the answers in every run. -/
structure Consistent (env : Env) (d : Dispatcher) : Prop where
  sound : d.requests.Sound
  stored : Stored env d
  answered : Answered d

theorem consistent_init : Consistent env init where
  sound := Requests.sound_empty
  stored := fun _ _ found => nomatch found
  answered := fun _ _ _ found => nomatch found

theorem Consistent.effect (consistent : Consistent env d) (effect : Effect env d d' a) :
    Consistent env d' where
  sound := effect.sound consistent.sound
  stored := consistent.stored.effect effect
  answered := consistent.answered.effect consistent.sound effect

theorem consistent_of_reach {allow : Dispatcher → Act → Prop}
    (reached : (dispatcher env).Reach allow d) : Consistent env d :=
  reached.invariant consistent_init fun _ consistent _ step =>
    consistent.effect (step_effect step)

/-- A call that has claimed had done so before an effect, or has just claimed. -/
theorem Effect.claimed_cases (effect : Effect env d d' a) {c : CallId} {call : Call}
    {rq : Request} {o : ClaimOutcome} (found : d'.calls.get? c = some call)
    (claimed : call.claimed? = some (rq, o)) :
    (∃ call₀, d.calls.get? c = some call₀ ∧ call₀.claimed? = some (rq, o)) ∨
      (d.calls.get? c = none ∧ d.incoming env a = some (c, rq) ∧
        o = (claimRequest d.requests (rq.claim env)).2 ∧
        ∃ row, d'.requests.find? rq.key = some row) := by
  have told : ∀ {call' : Call}, d'.calls.get? c = some call' → call'.told? = some rq →
      (∃ call₀, d.calls.get? c = some call₀ ∧ call₀.claimed? = some (rq, .new)) ∨
        (d.calls.get? c = none ∧ d.incoming env a = some (c, rq) ∧
          .new = (claimRequest d.requests (rq.claim env)).2 ∧
          ∃ row, d'.requests.find? rq.key = some row) := by
    intro call' found isTold
    rcases effect.told_cases ⟨call', found, isTold⟩ with ⟨call₀, before, was⟩ | ⟨came, new, free, is⟩
    · refine Or.inl ⟨call₀, before, ?_⟩
      cases call₀ with
      | live l => cases was; rfl
      | settled rq₀ out => cases was; rfl
      | refused x => cases was
      | answered rq₀ o₀ => cases was
    · refine Or.inr ⟨free, came, new.symm, ?_⟩
      rw [is]
      cases there : d.requests.find? rq.key with
      | some row => exact ⟨row, find?_claimRequest_of_some there⟩
      | none => exact ⟨_, find?_claimRequest_self (c := rq.claim env) there⟩
  cases call with
  | refused x => cases claimed
  | live l => cases claimed; exact told found rfl
  | settled rq₀ out => cases claimed; exact told found rfl
  | answered rq₀ o₀ =>
      cases claimed
      rcases effect.answered_cases found with before | ⟨free, came, notNew, is⟩
      · exact Or.inl ⟨_, before, rfl⟩
      · refine Or.inr ⟨free, came, is, ?_⟩
        cases there : d.requests.find? rq.key with
        | none => exact absurd (claimsNew_of_absent there) notNew
        | some row =>
            obtain ⟨row', found', _⟩ := effect.row_mono there
            exact ⟨row', found'⟩

/-- The key of every claim has a row. -/
def Rowed (d : Dispatcher) : Prop :=
  ∀ c call rq o, d.calls.get? c = some call → call.claimed? = some (rq, o) →
    ∃ row, d.requests.find? rq.key = some row

theorem rowed_of_reach {allow : Dispatcher → Act → Prop}
    (reached : (dispatcher env).Reach allow d) : Rowed d := by
  refine reached.invariant (fun _ _ _ _ found => nomatch found)
    fun _ rowed _ step c call rq o found claimed => ?_
  have effect := step_effect step
  rcases effect.claimed_cases found claimed with ⟨call₀, before, was⟩ | ⟨_, _, _, row⟩
  · obtain ⟨row, there⟩ := rowed c call₀ rq o before was
    obtain ⟨row', there', _⟩ := effect.row_mono there
    exact ⟨row', there'⟩
  · exact row

/-! ## Runs with fresh request ids -/

/-- A key is owned by one call, whose frame is the only one that bears it. -/
structure Ownership (d : Dispatcher) : Prop where
  row : ∀ c rq, d.Told c rq → ∃ row, d.requests.find? rq.key = some row ∧
    row.requestId = rq.requestId
  one : ∀ c c' rq rq', d.Told c rq → d.Told c' rq' → rq.key = rq'.key → c = c'
  framed : ∀ rq ∈ d.dispatched, ∃ c, d.Told c rq
  once : (d.dispatched.map Request.key).Nodup

theorem ownership_init : Ownership init where
  row := fun _ _ told => nomatch told
  one := fun _ _ _ _ told => nomatch told
  framed := fun _ mem => nomatch mem
  once := List.nodup_nil

theorem Told.unique {c : CallId} {rq rq' : Request} (told : d.Told c rq) (told' : d.Told c rq') :
    rq = rq' := by
  obtain ⟨call, found, is⟩ := told
  obtain ⟨call', found', is'⟩ := told'
  rw [found] at found'
  cases found'
  exact Option.some.inj (is.symm.trans is')

theorem Ownership.effect (owned : Ownership d) (fresh : FreshClaim env d a)
    (effect : Effect env d d' a) : Ownership d' where
  row := by
    intro c rq told
    rcases effect.told_cases told with before | ⟨came, new, _, claimed⟩
    · obtain ⟨row, found, id⟩ := owned.row c rq before
      obtain ⟨row', found', id', _⟩ := effect.row_mono found
      exact ⟨row', found', id'.trans id⟩
    · refine ⟨(rq.claim env).row, ?_, rfl⟩
      rw [claimed]
      exact find?_claimRequest_self (c := rq.claim env) (fresh.absent came new)
  one := by
    -- A key that is claimed now had no row, so no earlier call owned it.
    have clash : ∀ {c c' : CallId} {rq rq' : Request}, d.Told c rq →
        d.incoming env a = some (c', rq') → d.ClaimsNew env rq' → rq.key ≠ rq'.key := by
      intro c c' rq rq' told came new same
      obtain ⟨row, found, _⟩ := owned.row c rq told
      rw [same, fresh.absent came new] at found
      cases found
    intro c c' rq rq' told told' same
    rcases effect.told_cases told with before | ⟨came, new, _, _⟩
    · rcases effect.told_cases told' with before' | ⟨came', new', _, _⟩
      · exact owned.one c c' rq rq' before before' same
      · exact absurd same (clash before came' new')
    · rcases effect.told_cases told' with before' | ⟨came', _, _, _⟩
      · exact absurd same.symm (clash before' came new)
      · rw [came] at came'
        cases came'
        rfl
  framed := by
    intro rq mem
    rcases effect.dispatched_cases with same | ⟨c, rq₀, more, _, _, _, told⟩
    · rw [same] at mem
      obtain ⟨c, told⟩ := owned.framed rq mem
      exact ⟨c, effect.told_mono told⟩
    · rw [more] at mem
      rcases List.mem_append.mp mem with old | new
      · obtain ⟨c', told'⟩ := owned.framed rq old
        exact ⟨c', effect.told_mono told'⟩
      · exact ⟨c, List.mem_singleton.mp new ▸ told⟩
  once := by
    rcases effect.dispatched_cases with same | ⟨c, rq₀, more, came, new, _, _⟩
    · rw [same]
      exact owned.once
    · rw [more, List.map_append, List.map_singleton]
      refine List.nodup_append.mpr ⟨owned.once, List.nodup_singleton _, ?_⟩
      intro key mem key' mem' same
      obtain ⟨rq, sent, rfl⟩ := List.mem_map.mp mem
      obtain ⟨c', told'⟩ := owned.framed rq sent
      obtain ⟨row, found, _⟩ := owned.row c' rq told'
      rw [same, List.mem_singleton.mp mem', fresh.absent came new] at found
      cases found

theorem ownership_of_reach (reached : (dispatcher env).Reach (FreshClaim env) d) : Ownership d :=
  reached.invariant ownership_init fun _ owned fresh step => owned.effect fresh (step_effect step)

end Dispatcher

end RemoteAgent
