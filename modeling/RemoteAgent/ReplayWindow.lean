import RemoteAgent.Soundness
import RemoteAgent.Lib.Transition

/-!
# Calls of `verify`, one after another

The ids that a device has accepted are kept until they expire, or until more than
`seen_limit` of them are kept and they are the oldest.

`accepted_once`: in a run no assertion id is accepted twice with one expiry, where no id
is dropped while it is live and no remembered assertion expires between the two readings
of the clock in one call.  Without these conditions it may be (`evicted_accepted_again`).
-/

open Wire Transition

namespace RemoteAgent

open Dispatcher (field)

namespace Verifier

/-- The arguments of a call, with the two readings of the clock in it. -/
structure Presentation where
  assertion : Json
  keys : KeyMap
  expected : Expected
  now : Int
  later : Int

/-- A device between its calls: the table of the verifier, the last reading of the clock, and
what has been accepted, one entry for every call that succeeded. -/
structure Window where
  seen : Seen
  clock : Int
  accepted : List (Py.Key × Int)

variable {env : Env} (v : Verifier env) (subInt : FloatText → Int → Option FloatText)

/-- What a result adds to the ids that were accepted. -/
def acceptance (env : Env) : Except Refusal VerifiedAppAssertion → List (Py.Key × Int)
  | .error _ => []
  | .ok verified =>
      ((Py.key? env.floats verified.assertionId).map fun id => (id, verified.expiresAt)).toList

/-- One call, under a clock that does not decrease. -/
def Window.step (s : Window) (call : Presentation) : Option Window :=
  if s.clock ≤ call.now ∧ call.now ≤ call.later then
    let answer := v.verify subInt s.seen call.assertion call.keys call.expected call.now call.later
    some ⟨answer.2, call.later, s.accepted ++ acceptance env answer.1⟩
  else none

/-- The calls of a device whose clock starts at `start`. -/
def calls (start : Int) : Machine Window Presentation := ⟨⟨[], start, []⟩, Window.step v subInt⟩

/-- A call of an assertion that passes the checks keeps what is remembered: there is room
for its id, and if it is remembered it has not expired at the second reading. -/
structure Remembers (s : Window) (call : Presentation) : Prop where
  room : ∀ parsed expiresAt id,
    v.check subInt call.assertion call.keys call.expected call.now = .ok (parsed, expiresAt) →
    Py.key? env.floats (field parsed "assertion_id") = some id →
    id ∉ (live s.seen call.later).map Prod.fst → (live s.seen call.later).length < v.seenLimit
  steady : ∀ parsed expiresAt id,
    v.check subInt call.assertion call.keys call.expected call.now = .ok (parsed, expiresAt) →
    Py.key? env.floats (field parsed "assertion_id") = some id →
    (id, expiresAt) ∈ s.seen → call.later < expiresAt

variable {v subInt}

/-! ## One call -/

theorem acceptance_ok {verified : VerifiedAppAssertion} {id : Py.Key} {expiresAt : Int}
    (isId : Py.key? env.floats verified.assertionId = some id)
    (isExpiry : verified.expiresAt = expiresAt) :
    acceptance env (.ok verified) = [(id, expiresAt)] := by
  simp only [acceptance, isId, isExpiry, Option.map_some, Option.toList_some]

/-- **What a call can do to the table, and what it adds to the acceptances.** -/
theorem verify_cases (v : Verifier env) (subInt : FloatText → Int → Option FloatText)
    (seen : Seen) (call : Presentation) :
    let answer := v.verify subInt seen call.assertion call.keys call.expected call.now call.later
    (answer.2 = seen ∧ acceptance env answer.1 = [] ∧
      ∀ passed, v.check subInt call.assertion call.keys call.expected call.now ≠ .ok passed) ∨
    (answer.2 = live seen call.later ∧ acceptance env answer.1 = [] ∧
      ∃ passed, v.check subInt call.assertion call.keys call.expected call.now = .ok passed) ∨
    ∃ parsed expiresAt id,
      v.check subInt call.assertion call.keys call.expected call.now = .ok (parsed, expiresAt) ∧
      Py.key? env.floats (field parsed "assertion_id") = some id ∧
      id ∉ (live seen call.later).map Prod.fst ∧
      answer.2 = (live seen call.later ++ [(id, expiresAt)]).drop
        ((live seen call.later ++ [(id, expiresAt)]).length - v.seenLimit) ∧
      acceptance env answer.1 = [(id, expiresAt)] := by
  intro answer
  cases checked : v.check subInt call.assertion call.keys call.expected call.now with
  | error refusal =>
      have answers : answer = (.error refusal, seen) := by
        simp only [answer, verify, checked]
      rw [answers]
      exact .inl ⟨rfl, rfl, fun _ eq => nomatch eq⟩
  | ok passed =>
      obtain ⟨parsed, expiresAt⟩ := passed
      cases isId : Py.key? env.floats (field parsed "assertion_id") with
      | none =>
          have answers : answer = (.error .escape, live seen call.later) := by
            simp only [answer, verify, checked, rejectReplay, isId]
          rw [answers]
          exact .inr (.inl ⟨rfl, rfl, _, rfl⟩)
      | some id =>
          by_cases remembered : id ∈ (live seen call.later).map Prod.fst
          · have answers : answer = (.error (.code "app_assertion_replayed"),
                live seen call.later) := by
              simp only [answer, verify, checked, rejectReplay, isId, if_pos remembered]
            rw [answers]
            exact .inr (.inl ⟨rfl, rfl, _, rfl⟩)
          · obtain ⟨verified, answers, isAssertion, isExpiry⟩ :=
              verify_of_check checked isId remembered
            refine .inr (.inr ⟨parsed, expiresAt, id, rfl, isId, remembered,
              congrArg Prod.snd answers, ?_⟩)
            rw [show answer.1 = .ok verified from congrArg Prod.fst answers]
            exact acceptance_ok (isAssertion ▸ isId) isExpiry

theorem step_iff {s t : Window} {call : Presentation} :
    s.step v subInt call = some t ↔ s.clock ≤ call.now ∧ call.now ≤ call.later ∧
      ⟨(v.verify subInt s.seen call.assertion call.keys call.expected call.now call.later).2,
        call.later, s.accepted ++ acceptance env (v.verify subInt s.seen call.assertion
          call.keys call.expected call.now call.later).1⟩ = t := by
  unfold Window.step
  split
  · rename_i ordered
    simp only [ordered, Option.some.injEq, true_and]
  · rename_i disordered
    simp only [reduceCtorEq, false_iff]
    exact fun all => disordered ⟨all.1, all.2.1⟩

/-! ## Runs -/

theorem calls_step {start : Int} {allow : Window → Presentation → Prop} {s t : Window}
    {call : Presentation} (reached : (v.calls subInt start).Reach allow s) (allowed : allow s call)
    (stepped : s.step v subInt call = some t) : (v.calls subInt start).Reach allow t :=
  .step reached allowed stepped

/-- No acceptance is repeated, and every one is remembered until it expires. -/
structure Once (s : Window) : Prop where
  distinct : s.accepted.Nodup
  kept : ∀ entry ∈ s.accepted, entry.2 ≤ s.clock ∨ entry ∈ s.seen

/-- What was kept is live at a later reading, or has expired by then. -/
theorem Once.live {s : Window} (once : Once s) {later : Int} (after : s.clock ≤ later) :
    ∀ entry ∈ s.accepted, entry.2 ≤ later ∨ entry ∈ Verifier.live s.seen later := by
  intro entry mem
  rcases once.kept entry mem with expired | remembered
  · exact .inl (expired.trans after)
  · by_cases current : later < entry.2
    · exact .inr (List.mem_filter.mpr ⟨remembered, decide_eq_true current⟩)
    · exact .inl (not_lt.mp current)

theorem Once.step {s t : Window} {call : Presentation} (once : Once s)
    (remembers : v.Remembers subInt s call) (stepped : s.step v subInt call = some t) : Once t := by
  obtain ⟨begun, ordered, rfl⟩ := step_iff.mp stepped
  have after := begun.trans ordered
  rcases verify_cases v subInt s.seen call with
    ⟨same, none, _⟩ | ⟨pruned, none, _⟩ | ⟨parsed, expiresAt, id, passed, isId, isNew, grown, one⟩
  · simp only [same, none, List.append_nil]
    exact ⟨once.distinct, fun entry mem => (once.kept entry mem).imp_left fun expired =>
      expired.trans after⟩
  · simp only [pruned, none, List.append_nil]
    exact ⟨once.distinct, once.live after⟩
  · obtain ⟨_, _, _, _, _, _, _, unexpired⟩ := check_ok passed
    have room := remembers.room parsed expiresAt id passed isId isNew
    have whole : (Verifier.live s.seen call.later ++ [(id, expiresAt)]).length - v.seenLimit = 0 := by
      rw [List.length_append, List.length_singleton]
      omega
    rw [whole, List.drop_zero] at grown
    simp only [grown, one]
    constructor
    · refine List.nodup_append.mpr ⟨once.distinct, List.nodup_singleton _, ?_⟩
      intro entry mem entry' isLast same
      obtain rfl : entry = (id, expiresAt) := same.trans (List.mem_singleton.mp isLast)
      rcases once.kept _ mem with expired | remembered
      · exact absurd (expired.trans begun) (not_le.mpr unexpired)
      · have current := remembers.steady parsed expiresAt id passed isId remembered
        exact isNew (List.mem_map.mpr
          ⟨_, List.mem_filter.mpr ⟨remembered, decide_eq_true current⟩, rfl⟩)
    · intro entry mem
      rcases List.mem_append.mp mem with old | isLast
      · exact (once.live after entry old).imp_right fun stays => List.mem_append_left _ stays
      · exact .inr (List.mem_append_right _ isLast)

/-- **No assertion id is accepted twice with one expiry**, in a run whose calls keep what is
remembered; and in every state a call that fails before the replay check leaves the table as
it is. -/
theorem accepted_once {start : Int} :
    (∀ s, (v.calls subInt start).Reach (v.Remembers subInt) s → s.accepted.Nodup) ∧
    ∀ (s t : Window) (call : Presentation), s.step v subInt call = some t →
      (∀ passed, v.check subInt call.assertion call.keys call.expected call.now ≠ .ok passed) →
      t.seen = s.seen := by
  constructor
  · intro s reached
    have once : Once s :=
      reached.invariant ⟨.nil, fun _ mem => absurd mem List.not_mem_nil⟩
        fun _ once remembers stepped => once.step remembers stepped
    exact once.distinct
  · intro s t call stepped fails
    obtain ⟨_, _, rfl⟩ := step_iff.mp stepped
    rcases verify_cases v subInt s.seen call with
      ⟨same, _⟩ | ⟨_, _, passed, isPassed⟩ | ⟨parsed, expiresAt, id, passed, _⟩
    · exact same
    · exact absurd isPassed (fails _)
    · exact absurd passed (fails _)

end Verifier

/-! ## A full table -/

namespace Sample

open Verifier

theorem other_checked {now : Int} (begun : 1816999995 ≤ now) (unexpired : now < 1817000090)
    (seenLimit : Int) :
    parseAppAssertion deviceEnv otherAssertion =
        .ok (normalCopy deviceEnv otherAssertion ["agent:read"]) ∧
      (device seenLimit).Checked noFloats vectorKeys vectorBinding now otherAssertion
        ["agent:read"] (.str signingPublicKey) :=
  members_checked (by decide +kernel) (by decide +kernel)
    (List.mem_cons_of_mem _ (List.mem_cons_of_mem _ List.mem_cons_self)) (by decide +kernel) begun
    unexpired seenLimit

/-- The call that presents an assertion at a time. -/
def presents (assertion : Json) (now : Int) : Presentation :=
  ⟨assertion, vectorKeys, vectorBinding, now, now⟩

/-- The checks let the assertion through, with this id. -/
def Passes (seenLimit now : Int) (assertion : Json) (id : String) : Prop :=
  (device seenLimit).check noFloats assertion vectorKeys vectorBinding now =
      .ok (normalCopy deviceEnv assertion ["agent:read"], 1817000090) ∧
    Py.key? deviceEnv.floats
      (field (normalCopy deviceEnv assertion ["agent:read"]) "assertion_id") = some (.str id)

section Steps

variable {seenLimit now : Int} {assertion publicKey : Json} {id : String} {s : Window}

/-- What the checks let through has the id and the expiry of the object. -/
theorem check_presents
    (passes : parseAppAssertion deviceEnv assertion =
        .ok (normalCopy deviceEnv assertion ["agent:read"]) ∧
      (device seenLimit).Checked noFloats vectorKeys vectorBinding now assertion ["agent:read"]
        publicKey)
    (isId : field assertion "assertion_id" = .str id)
    (expires : assertion.get? "expires_at" = some (.int 1817000090)) :
    Passes seenLimit now assertion id := by
  obtain ⟨expiresAt, passed, isExpires⟩ := check_of_checked passes.1 passes.2
  obtain rfl := Json.int.inj (Option.some.inj (expires.symm.trans isExpires))
  refine ⟨passed, ?_⟩
  rw [copy_field (by decide) (by decide), isId]
  rfl

/-- An assertion that passes the checks and is not remembered is accepted. -/
theorem presents_accepted
    (passed : Passes seenLimit now assertion id)
    (after : s.clock ≤ now) (isNew : Py.Key.str id ∉ (live s.seen now).map Prod.fst) :
    s.step (device seenLimit) noFloats (presents assertion now) = some
      ⟨(live s.seen now ++ [(Py.Key.str id, 1817000090)]).drop
        ((live s.seen now ++ [(Py.Key.str id, 1817000090)]).length - (device seenLimit).seenLimit),
        now, s.accepted ++ [(.str id, 1817000090)]⟩ := by
  obtain ⟨verified, answers, isAssertion, isExpiry⟩ :=
    verify_of_check passed.1 passed.2 isNew
  refine step_iff.mpr ⟨after, le_refl _, ?_⟩
  unfold presents
  rw [answers, acceptance_ok (isAssertion ▸ passed.2) isExpiry]

/-- An assertion that is remembered is refused. -/
theorem presents_refused (passed : Passes seenLimit now assertion id) (after : s.clock ≤ now)
    (remembered : Py.Key.str id ∈ (live s.seen now).map Prod.fst) :
    ((device seenLimit).verify noFloats s.seen assertion vectorKeys vectorBinding now now).1 =
        .error (.code "app_assertion_replayed") ∧
      s.step (device seenLimit) noFloats (presents assertion now) =
        some ⟨live s.seen now, now, s.accepted⟩ := by
  have answers : (device seenLimit).verify noFloats s.seen assertion vectorKeys vectorBinding now
      now = (.error (.code "app_assertion_replayed"), live s.seen now) := by
    simp only [verify, passed.1, rejectReplay, passed.2, if_pos remembered]
  refine ⟨congrArg Prod.fst answers, step_iff.mpr ⟨after, le_refl _, ?_⟩⟩
  unfold presents
  rw [answers]
  simp only [acceptance, List.append_nil]

/-- Where there is room, an assertion that has not expired keeps what is remembered. -/
theorem presents_remembers
    (passed : Passes seenLimit now assertion id)
    (unexpired : now < 1817000090)
    (room : (live s.seen now).length < (device seenLimit).seenLimit) :
    (device seenLimit).Remembers noFloats s (presents assertion now) := by
  refine ⟨fun _ _ _ _ _ _ => room, fun parsed expiresAt id' isPassed _ _ => ?_⟩
  obtain ⟨rfl, rfl⟩ := Prod.mk.inj (Except.ok.inj (passed.1.symm.trans isPassed))
  exact unexpired

end Steps

/-- The entries of the two assertions. -/
def vectorEntry : Py.Key × Int := (.str vectorId, 1817000090)

def otherEntry : Py.Key × Int := (.str otherId, 1817000090)

theorem vector_passes (seenLimit : Int) {now : Int} (begun : 1816999995 ≤ now)
    (unexpired : now < 1817000090) : Passes seenLimit now vectorAssertion vectorId :=
  check_presents (vector_checked begun unexpired seenLimit) rfl rfl

theorem other_passes (seenLimit : Int) {now : Int} (begun : 1816999995 ≤ now)
    (unexpired : now < 1817000090) : Passes seenLimit now otherAssertion otherId :=
  check_presents (other_checked begun unexpired seenLimit) rfl rfl

end Sample

namespace Verifier

open Sample in
/-- Two assertions are accepted, and the first of them is refused when it comes again. -/
theorem accepted_once_both : ∃ s t : Window,
    s.accepted = [vectorEntry, otherEntry] ∧
    ((device 3).verify noFloats s.seen vectorAssertion vectorKeys vectorBinding 1817000003
      1817000003).1 = .error (.code "app_assertion_replayed") ∧
    s.step (device 3) noFloats (presents vectorAssertion 1817000003) = some t ∧
    t.accepted = s.accepted ∧ t.accepted.Nodup := by
  have first : Window.step (device 3) noFloats ⟨[], 1817000000, []⟩
      (presents vectorAssertion 1817000001) = some ⟨[vectorEntry], 1817000001, [vectorEntry]⟩ :=
    presents_accepted (vector_passes 3 (by decide) (by decide)) (by decide) List.not_mem_nil
  have second : Window.step (device 3) noFloats ⟨[vectorEntry], 1817000001, [vectorEntry]⟩
      (presents otherAssertion 1817000002) = some
        ⟨[vectorEntry, otherEntry], 1817000002, [vectorEntry, otherEntry]⟩ :=
    presents_accepted (other_passes 3 (by decide) (by decide)) (by decide) (by decide +kernel)
  have again : Passes 3 1817000003 vectorAssertion vectorId :=
    vector_passes 3 (by decide) (by decide)
  obtain ⟨refused, third⟩ := presents_refused (s := ⟨[vectorEntry, otherEntry], 1817000002,
    [vectorEntry, otherEntry]⟩) again (by decide) (by decide +kernel)
  have afterFirst : ((device 3).calls noFloats 1817000000).Reach
      ((device 3).Remembers noFloats) _ := calls_step .init
    (presents_remembers (vector_passes 3 (by decide) (by decide)) (by decide) (by decide)) first
  have afterSecond := calls_step afterFirst
    (presents_remembers (other_passes 3 (by decide) (by decide)) (by decide) (by decide)) second
  have reached := calls_step afterSecond (presents_remembers again (by decide) (by decide)) third
  exact ⟨_, _, rfl, refused, third, rfl, accepted_once.1 _ reached⟩

open Sample in
/-- **An assertion is accepted twice.**  A device that keeps one id accepts the vector, another
assertion and the vector again, all three before they expire. -/
theorem evicted_accepted_again : ∃ s : Window,
    ((device 1).calls noFloats 1817000000).Reach Machine.anyStep s ∧ s.clock < 1817000090 ∧
      s.accepted = [vectorEntry, otherEntry, vectorEntry] ∧ ¬s.accepted.Nodup := by
  have first : Window.step (device 1) noFloats ⟨[], 1817000000, []⟩
      (presents vectorAssertion 1817000001) = some ⟨[vectorEntry], 1817000001, [vectorEntry]⟩ :=
    presents_accepted (vector_passes 1 (by decide) (by decide)) (by decide) List.not_mem_nil
  have second : Window.step (device 1) noFloats ⟨[vectorEntry], 1817000001, [vectorEntry]⟩
      (presents otherAssertion 1817000002) = some
        ⟨[otherEntry], 1817000002, [vectorEntry, otherEntry]⟩ :=
    presents_accepted (other_passes 1 (by decide) (by decide)) (by decide) (by decide +kernel)
  have third : Window.step (device 1) noFloats
      ⟨[otherEntry], 1817000002, [vectorEntry, otherEntry]⟩
      (presents vectorAssertion 1817000003) = some
        ⟨[vectorEntry], 1817000003, [vectorEntry, otherEntry, vectorEntry]⟩ :=
    presents_accepted (vector_passes 1 (by decide) (by decide)) (by decide) (by decide +kernel)
  have afterFirst : ((device 1).calls noFloats 1817000000).Reach Machine.anyStep _ :=
    calls_step .init trivial first
  exact ⟨_, calls_step (calls_step afterFirst trivial second) trivial third, by decide, rfl,
    by decide +kernel⟩

end Verifier

end RemoteAgent
