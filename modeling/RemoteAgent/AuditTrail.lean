import RemoteAgent.Lib.Ledger
import RemoteAgent.Presence
import RemoteAgent.SettledRows

/-!
# The audit trail against the idempotency table

`device_command` settles the row of a call that returns and appends the audit row
`mcp.<tool>` in one stretch of code; a slow delivery and a cancellation are noted under
`relay.`.  Where the code of the result cannot be encoded, the row is completed and the
audit row is refused.

* `Logs` is what one step does to the log, to the audited rows and to the calls that
  have returned; a row is audited if it is completed with a code that can be encoded.
* `Audits` relates an audited row to its audit row.  In runs with fresh request ids the
  log is a `Ledger` of the audited rows.
* In every run the `mcp.` rows are those of the calls that returned, and every audited
  row can be attributed to one.
-/

open Wire Storage Transition

namespace RemoteAgent

/-- Whether an audit row is that of a call that returned. -/
def AuditEvent.isReturn (event : AuditEvent) : Bool :=
  "mcp.".toList.isPrefixOf event.action.toList

/-- `str(result.get("code") or "ok")`. -/
def returnedCode (env : Env) (r : Json) : String :=
  match r.get? "code" with
  | some code =>
      if Py.truthy env.floats code then Py.str env.floats env.container code else "ok"
  | none => "ok"

/-- The audit row of a call that returned `r`. -/
def Request.audit (env : Env) (rq : Request) (r : Json) : AuditEvent where
  action := "mcp." ++ rq.tool
  resultCode := returnedCode env r
  agentPrincipal := rq.key.clientId
  connectorId := rq.key.connectorId
  requestId := rq.requestId

/-- Whether a row is completed with a result whose code the audit log takes. -/
def RequestRow.isAudited (env : Env) (row : RequestRow) : Bool :=
  decide (row.status = .completed) &&
    (Json.loads row.resultText).all (Dispatcher.auditable env)

theorem RequestRow.isAudited_settle (env : Env) (row : RequestRow) (r : Json) :
    (row.settle .completed r).isAudited env = Dispatcher.auditable env r := by
  have read : Json.loads (row.settle .completed r).resultText = some r.canon :=
    loads_resultText rfl
  unfold RequestRow.isAudited
  rw [read, Option.all_some, Dispatcher.auditable_canon]
  rfl

theorem RequestRow.isAudited_of_ne {env : Env} {row : RequestRow}
    (open_ : row.status ≠ .completed) : row.isAudited env = false := by
  unfold RequestRow.isAudited
  rw [decide_eq_false open_, Bool.false_and]

/-- An audit row bears the principal, the connector and the request id of a row. -/
structure Names (row : RequestRow) (event : AuditEvent) : Prop where
  principal : event.agentPrincipal = row.key.clientId
  connector : event.connectorId = row.key.connectorId
  request : event.requestId = row.requestId

/-- An audit row says what an audited row says: who, which tool, and the code of the
result that is stored. -/
structure Audits (env : Env) (row : RequestRow) (event : AuditEvent) : Prop where
  names : Names row event
  action : event.action = "mcp." ++ row.toolName
  result : ∃ r, row.resultJson = some r.dumps ∧ event.resultCode = returnedCode env r

theorem isReturn_audit (env : Env) (rq : Request) (r : Json) :
    (rq.audit env r).isReturn = true := by
  show "mcp.".toList.isPrefixOf ("mcp." ++ rq.tool).toList = true
  rw [String.toList_append, List.isPrefixOf_iff_prefix]
  exact List.prefix_append _ _

theorem isReturn_relay {event : AuditEvent} (what : String)
    (action : event.action = "relay." ++ what) : event.isReturn = false := by
  unfold AuditEvent.isReturn
  rw [action, String.toList_append]
  rfl

namespace Dispatcher

variable {env : Env} {d d' : Dispatcher} {a : Act}

/-! ## One step -/

/-- Call `c` has returned `r`. -/
def Returned (d : Dispatcher) (c : CallId) (rq : Request) (r : Json) : Prop :=
  d.calls.get? c = some (.settled rq (.returned r))

def auditedRows (env : Env) (t : Requests) : List RequestRow :=
  t.rows.filter (RequestRow.isAudited env)

/-- What a step does to the log, to the audited rows and to the calls that have returned:
one call returns, is recorded and is logged, or nothing but notes is added. -/
inductive Logs (env : Env) (d d' : Dispatcher) : Prop where
  | returned (c : CallId) (l : Live) (r : Json) (notes : List AuditEvent)
      (was : d.IsLive c l) (posted : auditable env r = true)
      (requests : d'.requests = completeRequest d.requests l.request.key .completed r)
      (calls : d'.calls = d.calls.insert c (.settled l.request (.returned r)))
      (unreturned : ∀ event ∈ notes, event.isReturn = false)
      (audit : d'.audit = d.audit ++ notes ++ [l.request.audit env r])
  | noted (notes : List AuditEvent)
      (completed : auditedRows env d'.requests = auditedRows env d.requests)
      (calls : ∀ c rq r, d'.Returned c rq r ↔ d.Returned c rq r)
      (unreturned : ∀ event ∈ notes, event.isReturn = false)
      (audit : d'.audit = d.audit ++ notes)

/-- A claim stores a pending row at most. -/
theorem auditedRows_claim (t : Requests) (c : Claim) :
    auditedRows env (claimRequest t c).1 = auditedRows env t := by
  have same : (claimRequest t c).1 = t.insertOrIgnore c.row := by
    unfold claimRequest
    dsimp only
    split <;> rfl
  rw [same]
  exact Table.filter_insertOrIgnore_outside rfl

/-- A failure completes nothing. -/
theorem auditedRows_failed (t : Requests) (key : RequestKey) (result : Json) :
    auditedRows env (completeRequest t key .failed result) = auditedRows env t := by
  refine Table.filter_updateWhere_outside _ (fun row hit => ?_)
    fun row _ => RequestRow.isAudited_of_ne fun same => by cases same
  refine RequestRow.isAudited_of_ne ?_
  rw [(of_decide_eq_true hit).2]
  decide

/-- A completion with a code that cannot be encoded audits nothing. -/
theorem auditedRows_unaudited {t : Requests} {key : RequestKey} {r : Json}
    (refused : auditable env r = false) :
    auditedRows env (completeRequest t key .completed r) = auditedRows env t := by
  refine Table.filter_updateWhere_outside _ (fun row hit => ?_) fun row _ => ?_
  · refine RequestRow.isAudited_of_ne ?_
    rw [(of_decide_eq_true hit).2]
    decide
  · exact (row.isAudited_settle env r).trans refused

/-- The record of a call that is not over may be overwritten by one that has not returned. -/
theorem returned_insert {calls : Dict CallId Call} {c : CallId} (call : Call)
    (open_ : ∀ rq r, calls.get? c ≠ some (.settled rq (.returned r)))
    (unreturned : ∀ rq r, call ≠ .settled rq (.returned r)) (c' : CallId) (rq : Request)
    (r : Json) : (calls.insert c call).get? c' = some (.settled rq (.returned r)) ↔
      calls.get? c' = some (.settled rq (.returned r)) := by
  rw [Dict.get?_insert]
  split
  · rename_i same
    subst same
    constructor
    · exact fun found => absurd (Option.some.inj found) (unreturned rq r)
    · exact fun found => absurd found (open_ rq r)
  · exact Iff.rfl

theorem IsLive.unreturned {c : CallId} {l : Live} (live : d.IsLive c l) (rq : Request) (r : Json) :
    d.calls.get? c ≠ some (.settled rq (.returned r)) := by
  rw [show d.calls.get? c = some (.live l) from live]
  exact fun found => nomatch found

theorem returned_failPending (k : ConnId) (c : CallId) (rq : Request) (r : Json) :
    (d.failPending k).Returned c rq r ↔ d.Returned c rq r := by
  unfold Returned
  rw [get?_failPending]
  cases d.calls.get? c with
  | none => exact Iff.rfl
  | some call =>
      cases call with
      | live l =>
          simp only
          split <;> exact ⟨fun found => (nomatch found), fun found => nomatch found⟩
      | _ => exact Iff.rfl

theorem returned_setResult (c₀ : CallId) (r₀ : Json) (c : CallId) (rq : Request) (r : Json) :
    (d.setResult c₀ r₀).Returned c rq r ↔ d.Returned c rq r := by
  unfold setResult
  split
  · rename_i l was
    refine returned_insert _ (IsLive.unreturned was) (fun _ _ eq => ?_) c rq r
    cases eq
  · exact Iff.rfl

/-- The end of a call, after some notes. -/
theorem logs_settle {d₀ : Dispatcher} {c : CallId} {l : Live} {out : Outcome}
    (notes : List AuditEvent) (was : d.IsLive c l) (requests : d₀.requests = d.requests)
    (calls : d₀.calls = d.calls) (audit : d₀.audit = d.audit ++ notes)
    (unreturned : ∀ event ∈ notes, event.isReturn = false)
    (plain : ∀ r, out ≠ .unaudited r) : Logs env d (d₀.settle env c l.request out) := by
  have isOver : ∀ out', (∀ r, out' ≠ .returned r) → ∀ c' rq r,
      (d₀.calls.insert c (.settled l.request out')).get? c' = some (.settled rq (.returned r)) ↔
        d.calls.get? c' = some (.settled rq (.returned r)) := by
    intro out' other c' rq r
    rw [calls]
    exact returned_insert _ was.unreturned (fun rq r eq => other r (by cases eq; rfl)) c' rq r
  have posted : Posted env (audited env out) := posted_audited plain
  unfold settle
  generalize audited env out = out at posted
  dsimp only
  cases out with
  | returned r =>
      refine .returned c l r notes was posted ?_ ?_ unreturned ?_
      · exact congrArg (completeRequest · l.request.key .completed r) requests
      · exact congrArg (Dict.insert · c _) calls
      · exact congrArg (· ++ [l.request.audit env r]) audit
  | unaudited r =>
      refine .noted notes ?_ (isOver _ fun _ eq => by cases eq) unreturned ?_
      · exact (auditedRows_unaudited posted).trans (congrArg (auditedRows env) requests)
      · exact (List.append_nil _).trans audit
  | raised e =>
      refine .noted notes ?_ (isOver _ fun _ eq => nomatch eq) unreturned ?_
      · exact (auditedRows_failed _ _ _).trans (congrArg (auditedRows env) requests)
      · exact (List.append_nil _).trans audit
  | cancelled =>
      refine .noted notes ?_ (isOver _ fun _ eq => nomatch eq) unreturned ?_
      · exact congrArg (auditedRows env) requests
      · exact (List.append_nil _).trans audit

/-- A step that logs nothing and leaves the completed rows alone. -/
theorem Logs.quiet (completed : auditedRows env d'.requests = auditedRows env d.requests)
    (calls : ∀ c rq r, d'.Returned c rq r ↔ d.Returned c rq r) (audit : d'.audit = d.audit) :
    Logs env d d' :=
  .noted [] completed calls (fun _ mem => nomatch mem) (audit.trans (List.append_nil _).symm)

theorem logs_claimAndSend {c : CallId} {rq : Request} (free : d.calls.get? c = none) :
    Logs env d (d.claimAndSend env c rq) := by
  have unreturned : ∀ rq r, d.calls.get? c ≠ some (.settled rq (.returned r)) := by
    intro rq r
    rw [free]
    exact fun found => nomatch found
  unfold claimAndSend
  dsimp only
  split
  · split
    · exact .quiet (auditedRows_claim _ _)
        (returned_insert _ unreturned fun _ _ eq => nomatch eq) rfl
    · exact .quiet (auditedRows_claim _ _)
        (returned_insert _ unreturned fun _ _ eq => nomatch eq) rfl
  · exact .quiet (auditedRows_claim _ _)
      (returned_insert _ unreturned fun _ _ eq => nomatch eq) rfl

theorem logs_delivered {c : CallId} {l : Live} (was : d.IsLive c l) (slow : Bool) :
    Logs env d (d.delivered env c l slow) := by
  have slowly : ∀ event ∈ [(⟨"relay." ++ l.request.tool, "assertion_delivery_slow",
      l.request.key.clientId, l.request.key.connectorId, l.request.requestId⟩ : AuditEvent)],
      event.isReturn = false := by
    intro event mem
    rw [List.mem_singleton.mp mem]
    exact isReturn_relay _ rfl
  have waits := returned_insert (.live { l with stage := .waiting }) was.unreturned
    fun _ _ eq => nomatch eq
  unfold delivered
  cases slow with
  | true =>
      simp only [↓reduceIte]
      split
      · exact logs_settle _ was rfl rfl rfl slowly fun _ => outcome_ne_unaudited
      · exact .noted _ rfl waits slowly rfl
  | false =>
      simp only [Bool.false_eq_true, ↓reduceIte]
      split
      · exact logs_settle [] was rfl rfl (List.append_nil _).symm (fun _ mem => by cases mem)
          fun _ => outcome_ne_unaudited
      · exact .quiet rfl waits rfl

/-- **What a step does to the log.** -/
theorem step_logs (step : d.step env a = some d') : Logs env d d' := by
  cases a with
  | refuse c e =>
      simp only [Dispatcher.step] at step
      split at step
      · cases step
      · rename_i free
        cases step
        refine .quiet rfl (returned_insert _ (fun rq r => ?_) fun _ _ eq => by cases eq) rfl
        rw [free]
        exact fun found => by cases found
  | command c connectorId input row uuid now =>
      simp only [Dispatcher.step] at step
      split at step
      · cases step
      · rename_i free
        cases step
        unfold deviceCommand
        split
        · refine .quiet rfl (returned_insert _ (fun rq r => ?_) fun _ _ eq => by cases eq) rfl
          rw [free]
          exact fun found => by cases found
        · exact logs_claimAndSend free
  | delivered c slow =>
      simp only [Dispatcher.step] at step
      split at step
      · rename_i l was
        split at step
        · cases step
          exact logs_delivered was slow
        · cases step
      · cases step
  | sendFailed c timedOut =>
      simp only [Dispatcher.step] at step
      split at step
      · rename_i l was
        split at step
        · cases step
          exact logs_settle [] was rfl rfl (List.append_nil _).symm (fun _ mem => by cases mem)
            fun _ same => by cases same
        · cases step
      · cases step
  | expire c =>
      simp only [Dispatcher.step] at step
      split at step
      · rename_i l was
        split at step
        · cases step
          exact .quiet rfl (returned_insert _ (IsLive.unreturned was) fun _ _ eq => by cases eq) rfl
        · cases step
      · cases step
  | cancelTask c =>
      simp only [Dispatcher.step] at step
      split at step
      · rename_i l was
        cases step
        exact .quiet rfl (returned_insert _ (IsLive.unreturned was) fun _ _ eq => by cases eq) rfl
      · cases step
  | resume c =>
      simp only [Dispatcher.step] at step
      split at step
      · rename_i l was
        split at step
        · cases step
          exact logs_settle [] was rfl rfl (List.append_nil _).symm (fun _ mem => by cases mem)
            fun _ => outcome_ne_unaudited
        · cases step
      · cases step
  | respond k message =>
      simp only [Dispatcher.step] at step
      split at step
      · cases step
      · split at step
        · cases step
        · rename_i c r settled
          cases step
          have same : (d.setResult c r).requests = d.requests ∧
              (d.setResult c r).audit = d.audit := by
            unfold setResult
            split <;> exact ⟨rfl, rfl⟩
          exact .quiet (congrArg (auditedRows env) same.1) (returned_setResult c r) same.2
  | register k session =>
      simp only [Dispatcher.step] at step
      split at step
      · cases step
      · cases step
        unfold register
        split
        · exact .quiet rfl (returned_failPending _) rfl
        · exact .quiet rfl (fun _ _ _ => Iff.rfl) rfl
  | remove k =>
      simp only [Dispatcher.step] at step
      split at step
      · cases step
      · cases step
        exact .quiet rfl (returned_failPending k) rfl
  | beat k contextEpoch =>
      simp only [Dispatcher.step] at step
      split at step
      · cases step
      · cases step
        exact .quiet rfl (fun _ _ _ => Iff.rfl) rfl
  | refuseCancel x e =>
      simp only [Dispatcher.step] at step
      split at step
      · cases step
      · cases step
        exact .quiet rfl (fun _ _ _ => Iff.rfl) rfl
  | cancelRequest x connectorId requestId row =>
      simp only [Dispatcher.step] at step
      split at step
      · cases step
      · cases step
        unfold cancelRequest
        split
        · exact .quiet rfl (fun _ _ _ => Iff.rfl) rfl
        · split
          · exact .quiet rfl (fun _ _ _ => Iff.rfl) rfl
          · split <;> exact .quiet rfl (fun _ _ _ => Iff.rfl) rfl
  | cancelSent x =>
      simp only [Dispatcher.step] at step
      split at step
      · rename_i c connectorId requestId was
        cases step
        have noted : ∀ event ∈ [(⟨"relay.cancel", "cancelled", "operator", connectorId,
            requestId⟩ : AuditEvent)], event.isReturn = false := by
          intro event mem
          rw [List.mem_singleton.mp mem]
          exact isReturn_relay "cancel" rfl
        have same : (d.setResult c cancelResult).requests = d.requests ∧
            (d.setResult c cancelResult).audit = d.audit := by
          unfold setResult
          split <;> exact ⟨rfl, rfl⟩
        unfold cancelSent
        dsimp only
        split
        · exact .noted _ rfl (fun _ _ _ => Iff.rfl) noted rfl
        · exact .noted _ (congrArg (auditedRows env) same.1) (returned_setResult c cancelResult)
            noted (congrArg (· ++ _) same.2)
      · cases step
  | cancelFailed x =>
      simp only [Dispatcher.step] at step
      split at step
      · cases step
        exact .quiet rfl (fun _ _ _ => Iff.rfl) rfl
      · cases step

/-! ## Every run -/

/-- The row under the key of a call that was told `new` bears its request id. -/
def Bears (d : Dispatcher) : Prop :=
  ∀ c rq, d.Told c rq → ∃ row, d.requests.find? rq.key = some row ∧
    row.requestId = rq.requestId

theorem bears_of_reach {allow : Dispatcher → Act → Prop}
    (reached : (dispatcher env).Reach allow d) : Bears d := by
  refine reached.invariant (fun _ _ told => nomatch told) fun {d d' a} _ bears _ step c rq told => ?_
  have effect := step_effect step
  rcases effect.told_cases told with before | ⟨came, new, _, claimed⟩
  · obtain ⟨row, found, id⟩ := bears c rq before
    obtain ⟨row', found', id', _⟩ := effect.row_mono found
    exact ⟨row', found', id'.trans id⟩
  · rw [claimed]
    cases there : d.requests.find? rq.key with
    | none => exact ⟨_, find?_claimRequest_self (c := rq.claim env) there, rfl⟩
    | some row =>
        exact ⟨row, find?_claimRequest_of_some there, claimRequest_new_iff.mp new row there⟩

/-- The `mcp.` rows are those of the calls that returned, and every audited row can be
attributed to one of them. -/
structure Trailed (env : Env) (d : Dispatcher) : Prop where
  logged : ∀ c rq r, d.Returned c rq r → rq.audit env r ∈ d.audit
  traced : ∀ event ∈ d.audit, event.isReturn = true →
    ∃ c rq r, d.Returned c rq r ∧ event = rq.audit env r
  named : ∀ row ∈ auditedRows env d.requests,
    ∃ event ∈ d.audit, event.isReturn = true ∧ Names row event

theorem trailed_init : Trailed env init where
  logged := fun _ _ _ found => nomatch found
  traced := fun _ mem => nomatch mem
  named := fun _ mem => nomatch mem

/-- A row completed by a call is an old one, or that of the call's key. -/
theorem mem_auditedRows_complete {t : Requests} {key : RequestKey} {r : Json}
    {row : RequestRow}
    (mem : row ∈ auditedRows env (completeRequest t key .completed r)) :
    row ∈ auditedRows env t ∨ ∃ old, t.find? key = some old ∧ row = old.settle .completed r := by
  obtain ⟨stored, completed⟩ := List.mem_filter.mp mem
  obtain ⟨old, before, is⟩ := Table.mem_updateWhere.mp stored
  split at is
  · rename_i hit
    refine Or.inr ⟨old, ?_, is⟩
    exact Table.find?_eq_some_iff.mpr ⟨before, (of_decide_eq_true hit).1⟩
  · subst is
    exact Or.inl (List.mem_filter.mpr ⟨before, completed⟩)

theorem Trailed.step (trailed : Trailed env d) (bears : Bears d) (logs : Logs env d d') :
    Trailed env d' := by
  cases logs with
  | returned c l r notes was posted requests calls unreturned audit =>
      have kept : ∀ event ∈ d.audit, event ∈ d'.audit := by
        intro event mem
        rw [audit]
        exact List.mem_append_left _ (List.mem_append_left _ mem)
      have last : l.request.audit env r ∈ d'.audit := by
        rw [audit]
        exact List.mem_append_right _ (List.mem_singleton_self _)
      constructor
      · intro c' rq r' found
        unfold Returned at found
        rw [calls, Dict.get?_insert] at found
        split at found
        · cases found
          exact last
        · exact kept _ (trailed.logged c' rq r' found)
      · intro event mem isReturn
        rw [audit] at mem
        rcases List.mem_append.mp mem with before | new
        · rcases List.mem_append.mp before with old | note
          · obtain ⟨c', rq, r', found, is⟩ := trailed.traced event old isReturn
            refine ⟨c', rq, r', ?_, is⟩
            unfold Returned
            rw [calls, Dict.get?_insert_of_ne]
            · exact found
            · rintro rfl
              exact was.unreturned rq r' found
          · rw [unreturned event note] at isReturn
            cases isReturn
        · refine ⟨c, l.request, r, ?_, List.mem_singleton.mp new⟩
          unfold Returned
          rw [calls]
          exact Dict.get?_insert_self _ _ _
      · intro row mem
        rw [requests] at mem
        rcases mem_auditedRows_complete mem with old | ⟨stored, found, rfl⟩
        · obtain ⟨event, mem, isReturn, names⟩ := trailed.named row old
          exact ⟨event, kept event mem, isReturn, names⟩
        · obtain ⟨row, found', id⟩ := bears c l.request was.told
          rw [found] at found'
          cases found'
          have key := Table.key_of_find? found
          exact ⟨_, last, isReturn_audit env l.request r,
            congrArg RequestKey.clientId key.symm, congrArg RequestKey.connectorId key.symm,
            id.symm⟩
  | noted notes completed calls unreturned audit =>
      have kept : ∀ event ∈ d.audit, event ∈ d'.audit := by
        intro event mem
        rw [audit]
        exact List.mem_append_left _ mem
      constructor
      · exact fun c rq r found => kept _ (trailed.logged c rq r ((calls c rq r).mp found))
      · intro event mem isReturn
        rw [audit] at mem
        rcases List.mem_append.mp mem with old | note
        · obtain ⟨c, rq, r, found, is⟩ := trailed.traced event old isReturn
          exact ⟨c, rq, r, (calls c rq r).mpr found, is⟩
        · rw [unreturned event note] at isReturn
          cases isReturn
      · intro row mem
        rw [completed] at mem
        obtain ⟨event, mem, isReturn, names⟩ := trailed.named row mem
        exact ⟨event, kept event mem, isReturn, names⟩

theorem trailed_of_reach {allow : Dispatcher → Act → Prop}
    (reached : (dispatcher env).Reach allow d) : Trailed env d :=
  reached.invariant trailed_init fun before trailed _ step =>
    trailed.step (bears_of_reach before) (step_logs step)

/-! ## Runs with fresh request ids -/

theorem find?_completeRequest_tool {t : Requests} {key k : RequestKey} {status : RequestStatus}
    {result : Json} {row : RequestRow} (found : t.find? k = some row) :
    ∃ row', (completeRequest t key status result).find? k = some row' ∧
      row'.toolName = row.toolName := by
  rw [find?_completeRequest, found, Option.map_some]
  refine ⟨_, rfl, ?_⟩
  split <;> rfl

/-- A row keeps its tool. -/
theorem Effect.tool_mono (effect : Effect env d d' a) {key : RequestKey} {row : RequestRow}
    (found : d.requests.find? key = some row) :
    ∃ row', d'.requests.find? key = some row' ∧ row'.toolName = row.toolName := by
  cases effect with
  | idle requests => exact ⟨row, requests ▸ found, rfl⟩
  | tuned c₀ l l' was tunes requests => exact ⟨row, requests ▸ found, rfl⟩
  | lost k requests => exact ⟨row, requests ▸ found, rfl⟩
  | answered c₀ rq₀ came fresh notNew eq =>
      exact ⟨row, eq ▸ find?_claimRequest_of_some found, rfl⟩
  | blocked c₀ rq₀ came fresh new taken eq =>
      exact ⟨row, eq ▸ find?_claimRequest_of_some found, rfl⟩
  | dispatch c₀ rq₀ inFlight came fresh new acquired eq =>
      exact ⟨row, eq ▸ find?_claimRequest_of_some found, rfl⟩
  | settled c₀ l out was interrupted raised returned requests =>
      rw [requests]
      cases out with
      | returned r | unaudited r => exact find?_completeRequest_tool found
      | raised e => exact find?_completeRequest_tool found
      | cancelled => exact ⟨row, found, rfl⟩

/-- The row under the key of a call that was told `new` bears its tool. -/
def Tooled (d : Dispatcher) : Prop :=
  ∀ c rq, d.Told c rq → ∃ row, d.requests.find? rq.key = some row ∧ row.toolName = rq.tool

theorem tooled_of_reach (reached : (dispatcher env).Reach (FreshClaim env) d) : Tooled d := by
  refine reached.invariant (fun _ _ told => nomatch told)
    fun {d d' a} _ tooled fresh step c rq told => ?_
  have effect := step_effect step
  rcases effect.told_cases told with before | ⟨came, new, _, claimed⟩
  · obtain ⟨row, found, tool⟩ := tooled c rq before
    obtain ⟨row', found', tool'⟩ := effect.tool_mono found
    exact ⟨row', found', tool'.trans tool⟩
  · rw [claimed]
    exact ⟨_, find?_claimRequest_self (c := rq.claim env) (fresh.absent came new), rfl⟩

/-- The log lists the audited rows. -/
def Listed (env : Env) (d : Dispatcher) : Prop :=
  Ledger (Audits env) (auditedRows env d.requests) (d.audit.filter AuditEvent.isReturn)

theorem filter_notes {log notes : List AuditEvent}
    (unreturned : ∀ event ∈ notes, event.isReturn = false) :
    (log ++ notes).filter AuditEvent.isReturn = log.filter AuditEvent.isReturn := by
  have none : notes.filter AuditEvent.isReturn = [] :=
    List.filter_eq_nil_iff.mpr fun event mem => by rw [unreturned event mem]; decide
  rw [List.filter_append, none, List.append_nil]

theorem Listed.step (listed : Listed env d) (recorded : Recorded d) (bears : Bears d)
    (tooled : Tooled d) (logs : Logs env d d') : Listed env d' := by
  unfold Listed at listed ⊢
  cases logs with
  | returned c l r notes was posted requests calls unreturned audit =>
      obtain ⟨row, found, pending⟩ := recorded c (.live l) l.request was rfl
      have id : row.requestId = l.request.requestId := by
        obtain ⟨row', found', id⟩ := bears c l.request was.told
        exact Option.some.inj (found.symm.trans found') ▸ id
      have tool : row.toolName = l.request.tool := by
        obtain ⟨row', found', tool⟩ := tooled c l.request was.told
        exact Option.some.inj (found.symm.trans found') ▸ tool
      have key := Table.key_of_find? found
      have outside : row.isAudited env = false := by
        refine RequestRow.isAudited_of_ne ?_
        rw [show row.status = .pending from pending]
        decide
      have returns : [l.request.audit env r].filter AuditEvent.isReturn =
          [l.request.audit env r] :=
        List.filter_cons_of_pos (isReturn_audit env l.request r)
      rw [requests, audit, List.filter_append, filter_notes unreturned, returns]
      refine listed.post (r := row.settle .completed r) ?_ ?_
      · exact Table.filter_updateWhere_joins _ (Table.mem_of_find? found)
          (decide_eq_true ⟨key, pending⟩)
          (fun row' mem hit => Table.eq_of_key mem (Table.mem_of_find? found)
            ((of_decide_eq_true hit).1.trans key.symm)) outside
          ((row.isAudited_settle env r).trans posted)
      · exact {
          names := ⟨congrArg RequestKey.clientId key.symm,
            congrArg RequestKey.connectorId key.symm, id.symm⟩
          action := congrArg ("mcp." ++ ·) tool.symm
          result := ⟨r, rfl, rfl⟩ }
  | noted notes completed calls unreturned audit =>
      rw [completed, audit, filter_notes unreturned]
      exact listed

theorem listed_of_reach (reached : (dispatcher env).Reach (FreshClaim env) d) : Listed env d :=
  reached.invariant Ledger.nil fun before listed _ step =>
    listed.step (recorded_of_reach before) (bears_of_reach before) (tooled_of_reach before)
      (step_logs step)

end Dispatcher

/-! ## The trail -/

namespace System

/-- **The audit trail against the calls and the idempotency table.**  In every run its
`mcp.` rows are exactly those of the calls that returned, and every row that is completed
with a code that can be encoded has one with its principal, connector and request id.  Where
no claim repeats the request id stored under its key, they are those rows, one for one, each
with the tool of the row and the code of the result that is stored in it. -/
theorem audit_trail (env : Env) {sys : System}
    (reached : (system env).Reach Machine.anyStep sys) :
    (∀ event, event ∈ sys.dispatcher.audit ∧ event.isReturn = true ↔
      ∃ c rq r, sys.dispatcher.Returned c rq r ∧ event = rq.audit env r) ∧
    (∀ row ∈ sys.dispatcher.requests, row.isAudited env = true →
      ∃ event ∈ sys.dispatcher.audit, event.isReturn = true ∧ Names row event) ∧
    ((system env).Reach (onActs env (Dispatcher.FreshClaim env)) sys →
      Ledger (Audits env) (sys.dispatcher.requests.rows.filter (RequestRow.isAudited env))
        (sys.dispatcher.audit.filter AuditEvent.isReturn)) := by
  have trailed := Dispatcher.trailed_of_reach ((system_simulates env).reach_any reached)
  refine ⟨fun event => ⟨?_, ?_⟩, fun row mem audited => ?_, fun fresh => ?_⟩
  · rintro ⟨mem, isReturn⟩
    exact trailed.traced event mem isReturn
  · rintro ⟨c, rq, r, returned, rfl⟩
    exact ⟨trailed.logged c rq r returned, isReturn_audit env rq r⟩
  · exact trailed.named row (List.mem_filter.mpr ⟨mem, audited⟩)
  · exact Dispatcher.listed_of_reach (dispatcher_reach fresh)

/-- Two commands that return, under two keys. -/
theorem audit_trail_answered :
    ∃ sys : System, (sys.dispatcher.audit.filter AuditEvent.isReturn).length = 2 ∧
      Ledger (Audits Sample.env)
        (sys.dispatcher.requests.rows.filter (RequestRow.isAudited Sample.env))
        (sys.dispatcher.audit.filter AuditEvent.isReturn) := by
  have reached : (system Sample.env).Reach
      (onActs Sample.env (Dispatcher.FreshClaim Sample.env)) System.init := .init
  obtain ⟨sys, reached, two⟩ := reached.exists_of_execIf
    (Sample.serving ++ Sample.answered 0 "k-1" false 10 ++ Sample.answered 1 "k-2" false 20)
    (fun sys => decide ((sys.dispatcher.audit.filter AuditEvent.isReturn).length = 2))
    (by decide +kernel)
  exact ⟨sys, of_decide_eq_true two, (audit_trail Sample.env reached.forget).2.2 reached⟩

end System

end RemoteAgent
