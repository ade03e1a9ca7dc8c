import RemoteAgent.RequestOwnership

/-!
# What a stored row says about the call that owns it

`RowSays` relates the row of a key to the record of the call that was told `new`
under it: pending while the call lives, completed with the text of the object the
device sent, failed with the code it raised.  Two ends leave the row pending: the
refusal `command_in_flight`, which is raised between the claim and the `try`
block, and the cancellation of the task, which no `except` clause of the function
takes.  One leaves a completed row though the caller gets no object: the audit row
cannot be stored, after the result has been.

`recorded_of_reach` establishes the relation in every run with fresh request ids;
`Undisturbed` excludes the three ends, and `clean_of_reach` is what is left.
-/

open Wire Storage Transition

namespace RemoteAgent

/-- What the row of a key says about the call that owns it. -/
def RowSays (row : RequestRow) : Call → Prop
  | .settled _ (.returned r) | .settled _ (.unaudited r) =>
      row.status = .completed ∧ row.resultJson = some r.dumps
  | .settled _ (.raised e) =>
      if e = .commandInFlight then row.status = .pending
      else row.status = .failed ∧ row.resultJson = some e.result.dumps
  | _ => row.status = .pending

namespace Dispatcher

variable {env : Env} {d d' : Dispatcher} {a : Act}

/-- The row of every call that was told `new` says what became of it. -/
def Recorded (d : Dispatcher) : Prop :=
  ∀ c call rq, d.calls.get? c = some call → call.told? = some rq →
    ∃ row, d.requests.find? rq.key = some row ∧ RowSays row call

theorem recorded_init : Recorded init := fun _ _ _ found => nomatch found

/-- Ending a live call records how it ended. -/
theorem rowSays_recordOutcome {t : Requests} {rq : Request} {out : Outcome} {row : RequestRow}
    (found : t.find? rq.key = some row) (pending : row.status = .pending)
    (raised : ∀ e, out = .raised e → e ≠ .commandInFlight) :
    ∃ row', (recordOutcome t rq.key out).find? rq.key = some row' ∧
      RowSays row' (.settled rq out) := by
  cases out with
  | returned r | unaudited r =>
      exact ⟨_, find?_completeRequest_pending found pending, rfl, rfl⟩
  | raised e =>
      refine ⟨_, find?_completeRequest_pending found pending, ?_⟩
      show if e = .commandInFlight then _ else _
      rw [if_neg (raised e rfl)]
      exact ⟨rfl, rfl⟩
  | cancelled => exact ⟨row, found, pending⟩

theorem Recorded.effect (recorded : Recorded d) (owned : Ownership d)
    (fresh : FreshClaim env d a) (effect : Effect env d d' a) : Recorded d' := by
  -- A claim keeps the rows that are there, and stores a pending one if it is new.
  have claimed : ∀ {c₀ : CallId} {rq₀ : Request} (new : Call) {calls : Dict CallId Call},
      calls = d.calls.insert c₀ new → new.told? = some rq₀ → RowSays (rq₀.claim env).row new →
      d.incoming env a = some (c₀, rq₀) → d.ClaimsNew env rq₀ →
      ∀ c call rq, calls.get? c = some call → call.told? = some rq →
        ∃ row, (claimRequest d.requests (rq₀.claim env)).1.find? rq.key = some row ∧
          RowSays row call := by
    intro c₀ rq₀ new calls eq told tells came isNew c call rq found is
    rw [eq, Dict.get?_insert] at found
    split at found
    · cases found
      rw [told] at is
      cases is
      exact ⟨_, find?_claimRequest_self (c := rq₀.claim env) (fresh.absent came isNew), tells⟩
    · obtain ⟨row, stored, tells⟩ := recorded c call rq found is
      exact ⟨row, find?_claimRequest_of_some stored, tells⟩
  intro c call rq found is
  cases effect with
  | idle requests inFlight pending dispatched calls =>
      rw [requests]
      rcases calls c with same | ⟨_, e, refused, _⟩
      · exact recorded c call rq (same ▸ found) is
      · rw [refused] at found
        cases found
        cases is
  | tuned c₀ l l' was tunes requests inFlight pending dispatched calls =>
      rw [calls, Dict.get?_insert] at found
      rw [requests]
      split at found
      · cases found
        cases is
        rw [tunes.request]
        exact recorded c₀ (.live l) _ was rfl
      · exact recorded c call rq found is
  | lost k requests inFlight pending dispatched calls =>
      rw [requests]
      rw [calls] at found
      cases call with
      | live l' =>
          obtain ⟨l, live, same, _⟩ := isLive_failPending found
          cases is
          rw [same]
          exact recorded c (.live l) _ live rfl
      | settled rq' out =>
          exact recorded c _ rq (get?_of_failPending found fun _ live => nomatch live) is
      | refused e => cases is
      | answered rq' o => cases is
  | answered c₀ rq₀ came free notNew eq =>
      subst eq
      have found : (d.calls.insert c₀ (.answered rq₀
        (claimRequest d.requests (rq₀.claim env)).2)).get? c = some call := found
      rw [Dict.get?_insert] at found
      split at found
      · cases found
        cases is
      · obtain ⟨row, stored, tells⟩ := recorded c call rq found is
        exact ⟨row, find?_claimRequest_of_some stored, tells⟩
  | blocked c₀ rq₀ came free new taken eq =>
      subst eq
      exact claimed (.settled rq₀ (.raised .commandInFlight)) rfl rfl rfl came new c call rq found is
  | dispatch c₀ rq₀ inFlight came free new acquired eq =>
      subst eq
      exact claimed (.live ⟨rq₀, .sending, .pending, .none⟩) rfl rfl rfl came new c call rq found is
  | settled c₀ l out was interrupted raised returned requests inFlight pending dispatched calls =>
      rw [calls, Dict.get?_insert] at found
      rw [requests]
      split at found
      · cases found
        cases is
        obtain ⟨row, stored, tells⟩ := recorded c₀ _ _ was rfl
        refine rowSays_recordOutcome stored tells fun e isRaised inFlight => ?_
        subst inFlight
        rcases raised _ isRaised with other | other | other <;> cases other
      · rename_i other
        have differ : rq.key ≠ l.request.key := fun same =>
          other (owned.one c c₀ rq l.request ⟨call, found, is⟩ (IsLive.told was) same)
        rw [find?_recordOutcome_of_ne differ]
        exact recorded c call rq found is

theorem recorded_of_reach (reached : (dispatcher env).Reach (FreshClaim env) d) : Recorded d :=
  reached.invariant recorded_init fun before recorded fresh step =>
    recorded.effect (ownership_of_reach before) fresh (step_effect step)

/-- A call has returned a result only if its code is in the audit log. -/
def AllPosted (env : Env) (d : Dispatcher) : Prop :=
  ∀ c rq out, d.calls.get? c = some (.settled rq out) → Posted env out

theorem AllPosted.effect (audits : AllPosted env d) (effect : Effect env d d' a) : AllPosted env d' := by
  intro c rq out found
  cases effect with
  | idle requests inFlight pending dispatched calls =>
      rcases calls c with same | ⟨_, e, refused, _⟩
      · exact audits c rq out (same ▸ found)
      · rw [refused] at found
        cases found
  | tuned c₀ l l' was tunes requests inFlight pending dispatched calls =>
      rw [calls, Dict.get?_insert] at found
      split at found
      · cases found
      · exact audits c rq out found
  | lost k requests inFlight pending dispatched calls =>
      rw [calls] at found
      exact audits c rq out (get?_of_failPending found fun _ live => by cases live)
  | answered c₀ rq₀ came free notNew eq =>
      subst eq
      have found : (d.calls.insert c₀ _).get? c = some (.settled rq out) := found
      rw [Dict.get?_insert] at found
      split at found
      · cases found
      · exact audits c rq out found
  | blocked c₀ rq₀ came free new taken eq =>
      subst eq
      have found : (d.calls.insert c₀ _).get? c = some (.settled rq out) := found
      rw [Dict.get?_insert] at found
      split at found
      · cases found
        trivial
      · exact audits c rq out found
  | dispatch c₀ rq₀ inFlight came free new acquired eq =>
      subst eq
      have found : (d.calls.insert c₀ _).get? c = some (.settled rq out) := found
      rw [Dict.get?_insert] at found
      split at found
      · cases found
      · exact audits c rq out found
  | settled c₀ l out₀ was interrupted raised returned requests inFlight pending dispatched calls
      links ending unaudited stores =>
      rw [calls, Dict.get?_insert] at found
      split at found
      · cases found
        exact stores
      · exact audits c rq out found

theorem allPosted_of_reach {allow : Dispatcher → Act → Prop}
    (reached : (dispatcher env).Reach allow d) : AllPosted env d :=
  reached.invariant (fun _ _ _ found => by cases found)
    fun _ audits _ step => audits.effect (step_effect step)

/-! ## Runs in which every claim is settled -/

/-- The result that a response gives to a call. -/
def supplied (env : Env) (d : Dispatcher) : Act → Option Json
  | .respond k message =>
      match d.sessions.get? k with
      | none => none
      | some session =>
          match d.receiveResponse env k session.connectorId message with
          | .error _ => none
          | .ok (_, r) => some r
  | _ => none

/-- The collision key of a claim that would be new is free, no task is cancelled, and
the code of a result that is not too large can be stored in the audit log. -/
structure Undisturbed (env : Env) (d : Dispatcher) (a : Act) : Prop where
  free : ∀ c rq, d.incoming env a = some (c, rq) → d.requests.find? rq.key = none →
    ∀ key, rq.collisionKey env = some key → d.inFlight.get? key = none
  uncancelled : ∀ c, a ≠ .cancelTask c
  audited : ∀ r, d.supplied env a = some r → r.dumps.length ≤ resultMaxBytes →
    auditable env r = true

instance (env : Env) (d : Dispatcher) (a : Act) : Decidable (Undisturbed env d a) :=
  let free : Bool := match d.incoming env a with
    | none => true
    | some (_, rq) => (d.requests.find? rq.key).isSome ||
        match rq.collisionKey env with
        | none => true
        | some key => (d.inFlight.get? key).isNone
  let uncancelled : Bool := match a with
    | .cancelTask _ => false
    | _ => true
  let stores : Bool := (d.supplied env a).all fun r =>
    decide (resultMaxBytes < r.dumps.length) || auditable env r
  decidable_of_iff (free = true ∧ uncancelled = true ∧ stores = true) <| by
    constructor
    · rintro ⟨isFree, isUncancelled, audits⟩
      refine ⟨fun c rq came absent key isKey => ?_, fun c act => ?_, fun r is fits => ?_⟩
      · simp only [free, came, absent, isKey, Option.isSome_none, Bool.false_or,
          Option.isNone_iff_eq_none] at isFree
        exact isFree
      · subst act
        simp only [uncancelled, Bool.false_eq_true] at isUncancelled
      · simp only [stores, is, Option.all_some, Bool.or_eq_true, decide_eq_true_eq] at audits
        exact audits.resolve_left (Nat.not_lt.mpr fits)
    · rintro ⟨isFree, isUncancelled, audits⟩
      refine ⟨?_, ?_, ?_⟩
      · simp only [free]
        split
        · rfl
        · rename_i c rq came
          cases absent : d.requests.find? rq.key with
          | some row => rfl
          | none =>
              simp only [Option.isSome_none, Bool.false_or]
              split
              · rfl
              · rename_i key isKey
                rw [isFree c rq came absent key isKey]
                rfl
      · cases a with
        | cancelTask c => exact absurd rfl (isUncancelled c)
        | _ => rfl
      · simp only [stores]
        cases is : d.supplied env a with
        | none => rfl
        | some r =>
            simp only [Option.all_some, Bool.or_eq_true, decide_eq_true_eq]
            by_cases fits : r.dumps.length ≤ resultMaxBytes
            · exact Or.inr (audits r is fits)
            · exact Or.inl (Nat.not_le.mp fits)

/-- What an undisturbed act supplies can be audited. -/
theorem Supplies.auditable (undisturbed : Undisturbed env d a) {c : CallId} {r : Json}
    (supplies : Supplies env d d' a c r) (fits : r.dumps.length ≤ resultMaxBytes) :
    auditable env r = true := by
  cases supplies with
  | response k message session act here accepted logged =>
      refine undisturbed.audited r ?_ fits
      rw [act]
      simp only [supplied, here, receiveResponse_ok_iff.mpr accepted]
  | cancel x connectorId requestId was now is => exact is ▸ auditable_cancelResult env

/-- No call has been interrupted by a cancellation, left its row behind, or holds a
result that it would return and cannot be audited. -/
structure Clean (env : Env) (d : Dispatcher) : Prop where
  live : ∀ c l, d.IsLive c l → l.interrupt ≠ .cancel ∧
    (l.future = .cancelled → l.interrupt ≠ .none) ∧
    ∀ r, l.future = .result r → r.dumps.length ≤ resultMaxBytes → auditable env r = true
  settled : ∀ c rq out, d.calls.get? c = some (.settled rq out) →
    out ≠ .cancelled ∧ out ≠ .raised .commandInFlight ∧ ∀ r, out ≠ .unaudited r

theorem clean_init : Clean env init where
  live := fun _ _ found => by cases found
  settled := fun _ _ _ found => by cases found

theorem Clean.effect (clean : Clean env d) (fresh : FreshClaim env d a)
    (undisturbed : Undisturbed env d a) (effect : Effect env d d' a) : Clean env d' := by
  cases effect with
  | idle requests inFlight pending dispatched calls =>
      have before : ∀ {c call}, call.told?.isSome = true → d'.calls.get? c = some call →
          d.calls.get? c = some call := by
        intro c call isTold found
        rcases calls c with same | ⟨_, e, refused, _⟩
        · exact same ▸ found
        · rw [refused] at found
          cases found
          cases isTold
      exact ⟨fun c l live => clean.live c l (before rfl live),
        fun c rq out found => clean.settled c rq out (before rfl found)⟩
  | tuned c₀ l₀ l' was tunes requests inFlight pending dispatched calls links result =>
      constructor
      · intro c l live
        unfold IsLive at live
        rw [calls, Dict.get?_insert] at live
        split at live
        · cases live
          obtain ⟨unhurt, why, audits⟩ := clean.live c₀ l₀ was
          refine ⟨fun cancel => ?_, fun cancelled => ?_, fun r isResult fits => ?_⟩
          · rcases tunes.task cancel with old | act
            · exact unhurt old
            · exact undisturbed.uncancelled c₀ act
          · rcases tunes.cancelled cancelled with old | new
            · exact tunes.interrupt (why old)
            · exact new
          · rcases result r isResult with old | supplies
            · exact audits r old fits
            · exact supplies.auditable undisturbed fits
        · exact clean.live c l live
      · intro c rq out found
        rw [calls, Dict.get?_insert] at found
        split at found
        · cases found
        · exact clean.settled c rq out found
  | lost k requests inFlight pending dispatched calls =>
      constructor
      · intro c l' live
        unfold IsLive at live
        rw [calls] at live
        obtain ⟨l, before, _, either, _⟩ := isLive_failPending live
        rw [get?_failPending, show d.calls.get? c = some (.live l) from before] at live
        simp only at live
        split at live
        · cases live
          refine ⟨(clean.live c l before).1, fun failed => ?_, fun _ failed => ?_⟩ <;> cases failed
        · cases live
          exact clean.live c _ before
      · intro c rq out found
        rw [calls] at found
        exact clean.settled c rq out (get?_of_failPending found fun _ live => nomatch live)
  | answered c₀ rq₀ came free notNew eq =>
      subst eq
      constructor
      · intro c l live
        have live : (d.calls.insert c₀ _).get? c = some (.live l) := live
        rw [Dict.get?_insert] at live
        split at live
        · cases live
        · exact clean.live c l live
      · intro c rq out found
        have found : (d.calls.insert c₀ _).get? c = some (.settled rq out) := found
        rw [Dict.get?_insert] at found
        split at found
        · cases found
        · exact clean.settled c rq out found
  | blocked c₀ rq₀ came free new taken eq =>
      obtain ⟨key, id, isKey, held⟩ := taken
      rw [undisturbed.free c₀ rq₀ came (fresh.absent came new) key isKey] at held
      cases held
  | dispatch c₀ rq₀ inFlight came free new acquired eq =>
      subst eq
      constructor
      · intro c l live
        have live : (d.calls.insert c₀ _).get? c = some (.live l) := live
        rw [Dict.get?_insert] at live
        split at live
        · cases live
          refine ⟨fun cancel => ?_, fun cancelled => ?_, fun _ result => ?_⟩
          · cases cancel
          · cases cancelled
          · cases result
        · exact clean.live c l live
      · intro c rq out found
        have found : (d.calls.insert c₀ _).get? c = some (.settled rq out) := found
        rw [Dict.get?_insert] at found
        split at found
        · cases found
        · exact clean.settled c rq out found
  | settled c₀ l₀ out₀ was interrupted raised returned requests inFlight pending dispatched calls
      links ending unaudited audits' =>
      constructor
      · intro c l live
        unfold IsLive at live
        rw [calls, Dict.get?_insert] at live
        split at live
        · cases live
        · exact clean.live c l live
      · intro c rq out found
        rw [calls, Dict.get?_insert] at found
        split at found
        · cases found
          obtain ⟨unhurt, why, audits⟩ := clean.live c₀ l₀ was
          refine ⟨fun cancelled => ?_, fun taken => ?_, fun r left => ?_⟩
          · rcases interrupted cancelled with cancel | ⟨none, cancelled⟩
            · exact unhurt cancel
            · exact why cancelled none
          · rcases raised _ taken with other | other | other <;> cases other
          · subst left
            obtain ⟨isResult, fits⟩ := unaudited r rfl
            exact Bool.noConfusion ((audits r isResult fits).symm.trans audits')
        · exact clean.settled c rq out found

theorem clean_of_reach
    (reached : (dispatcher env).Reach (fun d a => FreshClaim env d a ∧ Undisturbed env d a) d) :
    Clean env d :=
  reached.invariant clean_init fun _ clean allowed step =>
    clean.effect allowed.1 allowed.2 (step_effect step)

end Dispatcher

end RemoteAgent
