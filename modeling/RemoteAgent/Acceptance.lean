import RemoteAgent.Forwarding
import RemoteAgent.Strictness

/-!
# From the connector to the device

The connector checks an assertion against the delegation, the command and its own clock;
the device checks it again, against its own binding and under a key of the Hub.  What
travels between them is the text of the request frame.

* `Relays`: what a device reads in the frame of a request.
* `Admissible`: what is left for the device to decide, the window, the key and the replay.
* `relayed_accepted_iff`: the device accepts the assertion in a frame exactly when it is
  admissible, and does not find it to be about another device, caller, app, scope or
  request.
-/

open Wire Transition

namespace RemoteAgent

open Dispatcher (field relayRequestId)

variable {env : Env}

/-! ## The copy passes the parser -/

/-- Setting a member that is there leaves the fields as they are. -/
theorem hasFields_set {fields : List String} {j : Json} (has : hasFields fields j = true)
    {name : String} (named : name ∈ fields) (v : Json) : hasFields fields (j.set name v) = true := by
  obtain ⟨fs, rfl⟩ := exists_of_hasFields has
  obtain ⟨within, all⟩ := (Bool.and_eq_true _ _).mp has
  have within := List.all_eq_true.mp within
  have all := List.all_eq_true.mp all
  refine (Bool.and_eq_true _ _).mpr ⟨List.all_eq_true.mpr ?_, List.all_eq_true.mpr ?_⟩
  · intro k mem
    rw [List.map_append, List.mem_append] at mem
    rcases mem with old | new
    · obtain ⟨m, kept, rfl⟩ := List.mem_map.mp old
      exact within _ (List.mem_map_of_mem (List.mem_of_mem_filter kept))
    · rw [List.mem_singleton.mp new]
      exact List.contains_iff_mem.mpr named
  · intro k mem
    refine List.contains_iff_mem.mpr (mem_keys_iff.mpr ?_)
    rw [Json.lookup_concat, Json.lookup_filter]
    by_cases same : k = name
    · rw [if_pos same]
      rfl
    · rw [if_neg same, if_neg same]
      exact mem_keys_iff.mp (List.contains_iff_mem.mp (all k mem))

namespace Parsed

variable {decoded : Json} {scopes : List String} {issued expires : Int}

/-- **What the parser returns passes its own checks**, with the same scopes. -/
theorem beforeSignature_copy (parsed : Parsed env decoded scopes issued expires) :
    beforeSignature env (normalCopy env decoded scopes) = .ok scopes := by
  have fields : hasFields assertionFields (normalCopy env decoded scopes) = true :=
    hasFields_set (hasFields_set parsed.fields (by decide) _) (by decide) _
  have appId := Verifier.field_of_get? parsed.copy_appId
  have isScopes := Verifier.field_of_get? parsed.copy_scopes
  have others : ∀ name, name ≠ "app_id" → name ≠ "scopes" →
      field (normalCopy env decoded scopes) name = field decoded name :=
    fun name => Verifier.copy_field
  have named : isAppId (Py.strip (env.text (.str (Py.strip (env.text
      (field decoded "app_id")))))) = true := by
    rw [text_str, Py.strip_strip]
    exact parsed.appId
  obtain ⟨connectorId, isConnector⟩ := parsed.connectorId
  obtain ⟨requestId, isRequest⟩ := parsed.requestId
  obtain ⟨assertionId, isAssertion⟩ := parsed.assertionId
  have agentScopes : validateAgentScopes env (.arr (scopes.map .str)) = .ok scopes :=
    validateAgentScopes_of_valid (validateAgentScopes_ok_iff.mp parsed.validated).1
  unfold beforeSignature
  simp only [fields, appId, isScopes, named, agentScopes,
    others "schema_version" (by decide) (by decide), others "issuer" (by decide) (by decide),
    others "audience" (by decide) (by decide), others "key_id" (by decide) (by decide),
    others "client_id" (by decide) (by decide), others "connector_id" (by decide) (by decide),
    others "issued_at" (by decide) (by decide), others "expires_at" (by decide) (by decide),
    others "nonce" (by decide) (by decide), others "request_id" (by decide) (by decide),
    others "assertion_id" (by decide) (by decide),
    Verifier.field_of_get? parsed.schemaVersion, Verifier.field_of_get? parsed.issuer,
    Verifier.field_of_get? parsed.audience, Verifier.field_of_get? parsed.issuedAt,
    Verifier.field_of_get? parsed.expiresAt, parsed.keyId,
    parseClientId_ok_iff.mpr ⟨rfl, parsed.clientId⟩, parseNonce_ok_iff.mpr ⟨rfl, parsed.nonce⟩,
    isConnector, isRequest, isAssertion, assertionInt, naming, require, Py.eqStr_iff.mpr,
    decide_eq_true parsed.lasting, decide_eq_true parsed.brief, bind, Except.bind, pure,
    Except.pure, ↓reduceIte]

theorem normalScopes (parsed : Parsed env decoded scopes issued expires) :
    NormalScopes scopes :=
  (validateAgentScopes_ok_iff.mp parsed.validated).1.toNormalScopes

end Parsed

/-! ## The device on an assertion in normal form -/

namespace Verifier

variable {v : Verifier env} {subInt : FloatText → Int → Option FloatText}

/-- An object is about the device and the request that it is expected for. -/
structure Bound (v : Verifier env) (expected : Expected) (presented : Json)
    (scopes : List String) : Prop where
  connectorId : presented.get? "connector_id" = some (.str v.connectorId)
  clientId : presented.get? "client_id" = some (.str expected.clientId)
  appId : presented.get? "app_id" = some (.str expected.appId)
  stripped : Py.strip expected.appId = expected.appId
  isScopes : presented.get? "scopes" = some (.arr (scopes.map .str))
  expects : expected.scopes = scopes
  ascending : NormalScopes scopes
  requestId : ∀ text, presented.get? "request_id" = some (.str text) → text = expected.requestId

theorem Bound.normalForm {expected : Expected} {presented : Json} {scopes : List String}
    (bound : Bound v expected presented scopes) : NormalForm presented :=
  ⟨⟨_, bound.appId, bound.stripped⟩, ⟨scopes, bound.isScopes, bound.ascending⟩⟩

theorem Bound.sorted {expected : Expected} {presented : Json} {scopes : List String}
    (bound : Bound v expected presented scopes) :
    scopes = expected.scopes.insertionSort (· ≤ ·) := by
  rw [bound.expects]
  exact (List.Pairwise.insertionSort_eq
    (bound.ascending.ascending.imp fun below => le_of_lt below)).symm

/-- What is left for a device to decide about an object that is bound to it: the window, the
key, the type of the request id and the replay. -/
structure Admissible (v : Verifier env) (subInt : FloatText → Int → Option FloatText)
    (keys : KeyMap) (seen : Seen) (presented : Json) (issued expires now later : Int) : Prop where
  unexpired : now < expires
  begun : issued ≤ now + v.clockSkewSeconds
  signature : ∃ raw, parseSignature env (field presented "signature") = .ok raw
  key : ∃ fs publicKey,
    keys.lookup (Py.str env.floats env.container (field presented "key_id")) = some fs ∧
    v.KeyUsable subInt (.obj fs) now ∧ (Json.obj fs).get? "public_key" = some publicKey ∧
    verifyEd25519 env publicKey (canonicalJsonBytes (presented.without "signature"))
      (field presented "signature") = true
  requestId : ∃ text, presented.get? "request_id" = some (.str text)
  fresh : ∃ id, Py.key? env.floats (field presented "assertion_id") = some id ∧
    id ∉ (live seen later).map Prod.fst

/-- What an accepted assertion has passed, the replay check included. -/
theorem fresh_of_verify {seen : Seen} {assertion : Json} {keys : KeyMap} {expected : Expected}
    {now later : Int} {verified : VerifiedAppAssertion}
    (accepted : (v.verify subInt seen assertion keys expected now later).1 = .ok verified) :
    ∃ parsed expiresAt id,
      v.check subInt assertion keys expected now = .ok (parsed, expiresAt) ∧
      Py.key? env.floats (field parsed "assertion_id") = some id ∧
      id ∉ (live seen later).map Prod.fst := by
  obtain ⟨parsed, expiresAt, passed⟩ := check_of_verify accepted
  refine ⟨parsed, expiresAt, ?_⟩
  unfold verify rejectReplay at accepted
  simp only [passed] at accepted
  cases isId : Py.key? env.floats (field parsed "assertion_id") with
  | none =>
      simp only [isId] at accepted
      cases accepted
  | some id =>
      refine ⟨id, passed, rfl, fun remembered => ?_⟩
      simp only [isId, if_pos remembered] at accepted
      cases accepted

/-- An object that passes the parser up to its signature, as the device's parser reads it. -/
theorem parse_bound {presented : Json} {scopes : List String}
    (before : beforeSignature env presented = .ok scopes) (isObj : ∃ fs, presented = .obj fs) :
    parseAppAssertion env presented = (do
      let _ ← parseSignature env (field presented "signature")
      return normalCopy env presented scopes) := by
  obtain ⟨fs, rfl⟩ := isObj
  rw [parseAppAssertion_eq]
  simp only [decodeEnvelope, bind, Except.bind, before]

/-- **The device accepts what is bound to it exactly when it is admissible.** -/
theorem bound_accepted_iff {presented : Json} {scopes : List String} {issued expires : Int}
    (before : beforeSignature env presented = .ok scopes) (isObj : ∃ fs, presented = .obj fs)
    (isIssued : presented.get? "issued_at" = some (.int issued))
    (isExpires : presented.get? "expires_at" = some (.int expires)) {expected : Expected}
    (bound : Bound v expected presented scopes) {keys : KeyMap} {seen : Seen} {now later : Int} :
    (∃ verified, (v.verify subInt seen presented keys expected now later).1 = .ok verified) ↔
      Admissible v subInt keys seen presented issued expires now later := by
  obtain ⟨fs, isFs⟩ := isObj
  have parse := parse_bound before ⟨fs, isFs⟩
  constructor
  · rintro ⟨verified, accepted⟩
    obtain ⟨parsed, expiresAt, id, passed, isId, isNew⟩ := fresh_of_verify accepted
    obtain ⟨presented', scopes', publicKey, decodes, checked, rfl, isExpires', _⟩ := check_ok passed
    obtain rfl : presented = presented' := by
      rw [isFs] at decodes ⊢
      exact Except.ok.inj decodes
    obtain ⟨issued', expires', isParsed, unexpired, begun, _⟩ := checked.parsed
    obtain rfl := Json.int.inj (Option.some.inj (isIssued.symm.trans isParsed.issuedAt))
    obtain rfl := Json.int.inj (Option.some.inj (isExpires.symm.trans isParsed.expiresAt))
    obtain ⟨fs', found, usable, isKey⟩ := checked.key
    have same := (isParsed.same_iff.mpr bound.normalForm).without "signature"
    rw [copy_field (by decide) (by decide)] at isId
    exact {
      unexpired := unexpired
      begun := begun
      signature := isParsed.signature
      key := ⟨fs', publicKey, found, usable, isKey, canonicalJsonBytes_inj.mpr same ▸
        checked.verifies⟩
      requestId := ⟨_, checked.requestId⟩
      fresh := ⟨id, isId, isNew⟩ }
  · intro admissible
    obtain ⟨raw, isSignature⟩ := admissible.signature
    obtain ⟨fs', publicKey, found, usable, isKey, verifies⟩ := admissible.key
    obtain ⟨text, isRequest⟩ := admissible.requestId
    obtain ⟨id, isId, isNew⟩ := admissible.fresh
    have parses : parseAppAssertion env presented = .ok (normalCopy env presented scopes) := by
      rw [parse, isSignature]
      rfl
    obtain ⟨decoded, scopes', issued', expires', decodes, isParsed, copies⟩ :=
      parseAppAssertion_ok parses
    obtain rfl : presented = decoded := by
      rw [isFs] at decodes ⊢
      exact Except.ok.inj decodes
    obtain rfl := Json.int.inj (Option.some.inj (isIssued.symm.trans isParsed.issuedAt))
    obtain rfl := Json.int.inj (Option.some.inj (isExpires.symm.trans isParsed.expiresAt))
    obtain rfl : scopes = scopes' := by
      have isScopes := (isParsed.of_normalForm bound.normalForm).2
      exact List.map_injective_iff.mpr (fun _ _ => Json.str.inj)
        (Json.arr.inj (Option.some.inj (bound.isScopes.symm.trans isScopes)))
    have same := (isParsed.same_iff.mpr bound.normalForm).without "signature"
    have checked : v.Checked subInt keys expected now presented scopes publicKey := {
      parsed := ⟨issued, expires, isParsed, admissible.unexpired, admissible.begun, isParsed.brief⟩
      key := ⟨fs', found, usable, isKey⟩
      verifies := canonicalJsonBytes_inj.mpr same ▸ verifies
      connectorId := bound.connectorId
      clientId := bound.clientId
      appId := by rw [field_of_get? bound.appId, text_str, bound.stripped]
      scopes := bound.sorted
      requestId := bound.requestId text isRequest ▸ isRequest }
    obtain ⟨expiresAt, passed, _⟩ := check_of_checked parses checked
    have isId : Py.key? env.floats (field (normalCopy env presented scopes) "assertion_id") =
        some id := by
      rw [copy_field (by decide) (by decide)]
      exact isId
    obtain ⟨verified, answers, _⟩ := verify_of_check passed isId isNew
    exact ⟨verified, congrArg Prod.fst answers⟩

/-! ### The errors of the other checks -/

theorem demand_other {holds : Bool} {code code' : String} (other : code ≠ code') :
    RaisesOnly (· ≠ .code code') (demand holds code) := by
  intro e raised
  cases holds with
  | true => cases raised
  | false =>
      cases raised
      exact fun same => other (Refusal.code.inj same)

theorem present_other {α : Type} (found : Option α) (code : String) :
    RaisesOnly (· ≠ .code code) (present found) := by
  intro e raised
  cases found with
  | some a => cases raised
  | none =>
      cases raised
      exact fun same => nomatch same

theorem keyRefused_other (key : Json) (now : Int) (code : String) :
    RaisesOnly (· ≠ .code code) (v.keyRefused subInt key now) := by
  unfold keyRefused
  refine raisesOnly_bind (present_other _ _) fun status _ => ?_
  refine raisesOnly_bind (present_other _ _) fun unusable _ => ?_
  split
  · exact raisesOnly_ok
  · refine raisesOnly_bind (present_other _ _) fun notBefore _ => ?_
    refine raisesOnly_bind (present_other _ _) fun earliest _ => ?_
    refine raisesOnly_bind (present_other _ _) fun early _ => ?_
    split
    · exact raisesOnly_ok
    · refine raisesOnly_bind (present_other _ _) fun notAfter _ => ?_
      exact present_other _ _

theorem parseSignature_other (value : Json) (e : Rejection)
    (raised : parseSignature env value = .error e) :
    e.coded ≠ .code "app_identity_mismatch" := by
  unfold parseSignature b64decode at raised
  split at raised
  · cases raised
    exact fun same => absurd (Refusal.code.inj same) (by decide)
  · split at raised
    · cases raised
    · cases raised
      exact fun same => absurd (Refusal.code.inj same) (by decide)

/-- **What is bound to the device and bears the request id as a text is not refused as a
mismatch.** -/
theorem bound_matched {presented : Json} {scopes : List String} {issued expires : Int}
    (before : beforeSignature env presented = .ok scopes) (isObj : ∃ fs, presented = .obj fs)
    (isIssued : presented.get? "issued_at" = some (.int issued))
    (isExpires : presented.get? "expires_at" = some (.int expires)) {expected : Expected}
    (bound : Bound v expected presented scopes)
    (isRequest : ∃ text, presented.get? "request_id" = some (.str text)) {keys : KeyMap}
    {seen : Seen} {now later : Int} :
    (v.verify subInt seen presented keys expected now later).1 ≠
      .error (.code "app_identity_mismatch") := by
  have checks : RaisesOnly (· ≠ .code "app_identity_mismatch")
      (v.check subInt presented keys expected now) := by
    refine raisesOnly_bind ?_ fun parsed accepted => ?_
    · rw [parse_bound before isObj]
      intro e raised
      cases isSignature : parseSignature env (field presented "signature") with
      | ok raw =>
          rw [isSignature] at raised
          cases raised
      | error r =>
          rw [isSignature] at raised
          cases raised
          exact parseSignature_other _ _ isSignature
    obtain ⟨decoded, scopes', _, _, decodes, isParsed, rfl⟩ :=
      parseAppAssertion_ok (mapError_ok_iff.mp accepted)
    obtain ⟨fs, isFs⟩ := isObj
    obtain rfl : presented = decoded := by
      rw [isFs] at decodes ⊢
      exact Except.ok.inj decodes
    have isScopes := (isParsed.of_normalForm bound.normalForm).2
    obtain rfl : scopes = scopes' := List.map_injective_iff.mpr (fun _ _ => Json.str.inj)
      (Json.arr.inj (Option.some.inj (bound.isScopes.symm.trans isScopes)))
    have others : ∀ name, name ≠ "app_id" → name ≠ "scopes" →
        field (normalCopy env presented scopes) name = field presented name :=
      fun name => copy_field
    have appId : field (normalCopy env presented scopes) "app_id" = .str expected.appId := by
      rw [field_of_get? isParsed.copy_appId, field_of_get? bound.appId, text_str, bound.stripped]
    have isSorted : field (normalCopy env presented scopes) "scopes" =
        .arr ((expected.scopes.insertionSort (· ≤ ·)).map .str) := by
      rw [field_of_get? isParsed.copy_scopes, ← bound.sorted]
    obtain ⟨text, isText⟩ := isRequest
    have requested := bound.requestId text isText ▸ isText
    rw [others "issued_at" (by decide) (by decide), others "expires_at" (by decide) (by decide),
      field_of_get? isIssued, field_of_get? isExpires]
    refine raisesOnly_bind raisesOnly_ok fun issuedAt _ => ?_
    refine raisesOnly_bind raisesOnly_ok fun expiresAt _ => ?_
    refine raisesOnly_bind (demand_other (by decide)) fun _ _ => ?_
    refine raisesOnly_bind (demand_other (by decide)) fun _ _ => ?_
    refine raisesOnly_bind (demand_other (by decide)) fun _ _ => ?_
    split
    · intro e raised
      cases raised
      exact fun same => absurd (Refusal.code.inj same) (by decide)
    · refine raisesOnly_bind (keyRefused_other _ _ _) fun refused _ => ?_
      refine raisesOnly_bind (demand_other (by decide)) fun _ _ => ?_
      refine raisesOnly_bind (present_other _ _) fun publicKey _ => ?_
      refine raisesOnly_bind (demand_other (by decide)) fun _ _ => ?_
      refine raisesOnly_bind (demand_other (by decide)) fun _ _ => ?_
      simp only [others "connector_id" (by decide) (by decide),
        others "client_id" (by decide) (by decide), others "request_id" (by decide) (by decide),
        appId, isSorted, field_of_get? bound.connectorId, field_of_get? bound.clientId,
        field_of_get? requested, Py.eqStr_iff.mpr, Py.eqTexts_iff.mpr, Bool.and_self]
      exact raisesOnly_ok
  intro mismatch
  unfold verify at mismatch
  cases checked : v.check subInt presented keys expected now with
  | error e =>
      simp only [checked] at mismatch
      exact checks e checked (Except.error.inj mismatch)
  | ok result =>
      obtain ⟨parsed, expiresAt⟩ := result
      simp only [checked] at mismatch
      unfold rejectReplay at mismatch
      cases isId : Py.key? env.floats (field parsed "assertion_id") with
      | none =>
          simp only [isId] at mismatch
          cases mismatch
      | some id =>
          by_cases remembered : id ∈ (live seen later).map Prod.fst
          · simp only [isId, if_pos remembered] at mismatch
            exact absurd (Refusal.code.inj (Except.error.inj mismatch)) (by decide)
          · simp only [isId, if_neg remembered] at mismatch
            cases mismatch

end Verifier

/-! ## The connector's half -/

/-- A claim is made for the caller of the command, under the request id that was chosen. -/
theorem Dispatcher.incoming_names {d : Dispatcher} {c : CallId} {connectorId : String}
    {input : CommandInput} {row : Option Routing} {uuid : String} {now : Int} {c' : CallId}
    {rq : Request}
    (came : d.incoming env (.command c connectorId input row uuid now) = some (c', rq)) :
    rq.key.connectorId = connectorId ∧ rq.requestId = relayRequestId env input.appAssertion uuid := by
  unfold incoming at came
  dsimp only at came
  split at came
  · cases came
  · split at came
    · rename_i rq₀ prepared
      cases came
      obtain ⟨found, k, _, rfl⟩ := prepare_ok prepared
      exact ⟨rfl, rfl⟩
    · cases came

/-- The request that a command sends goes to the connector that its assertion names, under
the request id of the assertion. -/
theorem System.dispatch_names {sys sys' : System} {c : CallId} {input : CommandInput}
    {uuid : String} {now : Int} {rq : Request}
    (stepped : sys.step env (.command c input uuid now) = some sys')
    (sent : sys'.dispatcher.dispatched = sys.dispatcher.dispatched ++ [rq]) :
    parseConnectorId env (.str input.connectorId) = .ok rq.key.connectorId ∧
      (∀ a, input.appAssertion = some a → a.connectorId = .str rq.key.connectorId) ∧
      rq.requestId = relayRequestId env input.appAssertion uuid := by
  have unsent : sys'.dispatcher.dispatched ≠ sys.dispatcher.dispatched := by
    rw [sent]
    exact fun same => List.cons_ne_nil _ _ (List.append_right_eq_self.mp same)
  obtain ⟨plan, planned, _, _, next⟩ := step_plan stepped
  split at next
  · exact absurd (congrArg Dispatcher.dispatched next) unsent
  · rename_i a act
    rcases (Dispatcher.step_effect next).dispatched_cases with same | ⟨c', rq', appended, came, _⟩
    · exact absurd same unsent
    · obtain rfl : rq' = rq :=
        (List.singleton_inj.mp (List.append_cancel_left (appended.symm.trans sent)))
      obtain rfl := Option.some.inj planned
      unfold commands at act
      split at act
      · cases act; cases came
      · rename_i connectorId isConnector
        split at act
        · cases act; cases came
        · rename_i matched
          split at act
          · cases act; cases came
          · cases act
            obtain ⟨rfl, requestId⟩ := Dispatcher.incoming_names came
            refine ⟨isConnector, fun a isSome => ?_, requestId⟩
            rw [isSome] at matched
            simp only [Option.any_some, Bool.not_eq_true', Bool.not_eq_false] at matched
            exact Py.eqStr_iff.mp matched

section Headers

variable {hmac : String → String → String} {headers : Headers} {secret audience : String}
  {now maxAgeSeconds : Int} {requireAppAssertion : Bool} {identity : DelegatedIdentity}

/-- What the connector has checked of an assertion that it attaches to an identity. -/
structure Attached (env : Env) (identity : DelegatedIdentity) (envelope : Json)
    (issued expires : Int) : Prop where
  parsed : Parsed env envelope identity.scopes issued expires
  copied : identity.appAssertion = some (normalCopy env envelope identity.scopes)
  named : identity.appId ≠ ""
  stripped : Py.strip identity.appId = identity.appId
  clientId : (normalCopy env envelope identity.scopes).get? "client_id" =
    some (.str identity.clientId)
  appId : (normalCopy env envelope identity.scopes).get? "app_id" = some (.str identity.appId)

theorem verified_attached
    (verified : verifyDelegationHeaders env hmac headers secret audience now maxAgeSeconds
      requireAppAssertion = .ok identity)
    (attached : headers.rawAssertion ≠ "") :
    ∃ envelope issued expires, decodeEnvelope env (.str headers.rawAssertion) = .ok envelope ∧
      Attached env identity envelope issued expires := by
  obtain ⟨claimed, payload, _, _, _, _, pairs, is⟩ := verifyDelegationHeaders_ok verified
  have appId : identity.appId = headers.appId := congrArg DelegatedIdentity.appId is
  have clientId : identity.clientId = claimed.clientId := congrArg DelegatedIdentity.clientId is
  have scopes : identity.scopes = claimed.scopes := congrArg DelegatedIdentity.scopes is
  obtain ⟨named, pairs⟩ := attachedAssertion_ok pairs
  rcases pairs with ⟨blank, _⟩ | ⟨parsed, isSome, isParsed, isClient, isApp, _, isScopes⟩
  · exact absurd blank attached
  · obtain ⟨envelope, scopes', issued, expires, decodes, checked, rfl⟩ :=
      parseAppAssertion_ok isParsed
    obtain rfl : identity.scopes = scopes' := by
      rw [checked.copy_scopes, ← scopes] at isScopes
      exact (List.map_injective_iff.mpr (fun _ _ => Json.str.inj)
        (Json.arr.inj (Option.some.inj isScopes))).symm
    exact ⟨envelope, issued, expires, decodes, {
      parsed := checked
      copied := isSome
      named := appId ▸ fun empty => attached (named empty)
      stripped := by rw [appId, Headers.appId, Py.strip_strip]
      clientId := clientId ▸ isClient
      appId := appId ▸ isApp }⟩

/-- What the device reads in the text of the frame of a request. -/
def Relays (rq : Request) (presented : Json) : Prop :=
  ∃ received, Json.loads rq.frame.compact = some received ∧
    received.get? "request_id" = some (.str rq.requestId) ∧
    received.get? "app_assertion" = some presented

theorem Request.relays {rq : Request} (named : rq.appId ≠ "") {forwarded : Json}
    (carries : rq.appAssertion = some forwarded) : Relays rq forwarded.canon := by
  refine ⟨rq.frame.canon, Json.loads_compact _, ?_, ?_⟩
  · rw [Json.get?_canon]
    unfold Request.frame
    rw [if_neg named]
    rfl
  · rw [Json.get?_canon, Request.frame_appAssertion named carries]
    rfl

/-- **The device's verdict on what the connector forwards.**  The headers prove an identity
with an assertion, and a command under it is sent to a device.  The device accepts the
assertion that it reads in the frame, for the request of the frame and the identity, exactly
when the assertion is admissible; and if the assertion has its request id as a text, the
device does not refuse it for being about something else. -/
theorem relayed_accepted_iff (repr : ReprLike env)
    (verified : verifyDelegationHeaders env hmac headers secret audience now maxAgeSeconds
      requireAppAssertion = .ok identity)
    (attached : headers.rawAssertion ≠ "") {input : CommandInput}
    (presents : input.Presents identity) {sys sys' : System} {c : CallId} {uuid : String}
    {sentAt : Int} (stepped : sys.step env (.command c input uuid sentAt) = some sys')
    {rq : Request} (sent : sys'.dispatcher.dispatched = sys.dispatcher.dispatched ++ [rq])
    {v : Verifier env} (addressed : v.connectorId = rq.key.connectorId)
    (subInt : FloatText → Int → Option FloatText) (keys : KeyMap) (seen : Seen)
    (current later : Int) :
    ∃ envelope issued expires, decodeEnvelope env (.str headers.rawAssertion) = .ok envelope ∧
      envelope.get? "issued_at" = some (.int issued) ∧
      envelope.get? "expires_at" = some (.int expires) ∧
      Relays rq (normalCopy env envelope identity.scopes).canon ∧
      ((∃ accepted, (v.verify subInt seen (normalCopy env envelope identity.scopes).canon keys
          ⟨rq.requestId, identity.clientId, identity.appId, identity.scopes⟩ current later).1 =
            .ok accepted) ↔
        v.Admissible subInt keys seen (normalCopy env envelope identity.scopes).canon issued
          expires current later) ∧
      ((∃ text, (normalCopy env envelope identity.scopes).get? "request_id" = some (.str text)) →
        (v.verify subInt seen (normalCopy env envelope identity.scopes).canon keys
          ⟨rq.requestId, identity.clientId, identity.appId, identity.scopes⟩ current later).1 ≠
            .error (.code "app_identity_mismatch")) := by
  obtain ⟨envelope, issued, expires, decodes, checked⟩ := verified_attached verified attached
  obtain ⟨appId, carried⟩ := System.dispatch_carries stepped sent
  obtain ⟨_, connector, requestId⟩ := System.dispatch_names stepped sent
  have copied := presents.appAssertion.trans checked.copied
  obtain ⟨a, isSome, isEnvelope⟩ := Option.map_eq_some_iff.mp copied
  have reads : ∀ name, (normalCopy env envelope identity.scopes).canon.get? name =
      ((normalCopy env envelope identity.scopes).get? name).map Json.canon := Json.get?_canon _
  have isObj : ∃ fs, (normalCopy env envelope identity.scopes).canon = .obj fs := by
    obtain ⟨fs, rfl⟩ := exists_of_hasFields checked.parsed.fields
    exact ⟨_, rfl⟩
  have before : beforeSignature env (normalCopy env envelope identity.scopes).canon =
      .ok identity.scopes :=
    (beforeSignature_canon repr _).trans checked.parsed.beforeSignature_copy
  have isIssued : (normalCopy env envelope identity.scopes).canon.get? "issued_at" =
      some (.int issued) := by
    rw [reads, Parsed.copy_other (by decide) (by decide), checked.parsed.issuedAt]
    rfl
  have isExpires : (normalCopy env envelope identity.scopes).canon.get? "expires_at" =
      some (.int expires) := by
    rw [reads, Parsed.copy_other (by decide) (by decide), checked.parsed.expiresAt]
    rfl
  have bound : v.Bound ⟨rq.requestId, identity.clientId, identity.appId, identity.scopes⟩
      (normalCopy env envelope identity.scopes).canon identity.scopes := {
    connectorId := by
      rw [reads, ← isEnvelope, a.connectorId_eq, connector a isSome, addressed]
      rfl
    clientId := by
      rw [reads, checked.clientId]
      rfl
    appId := by
      rw [reads, checked.appId]
      rfl
    stripped := checked.stripped
    isScopes := by
      rw [reads, checked.parsed.copy_scopes, Option.map_some, Json.canon, Json.canonElems_texts]
    expects := rfl
    ascending := checked.parsed.normalScopes
    requestId := by
      intro text isText
      rw [reads, ← isEnvelope, a.requestId_eq, Option.map_some] at isText
      have isRequest := Json.canon_eq_str (Option.some.inj isText)
      obtain ⟨id, read⟩ := checked.parsed.requestId
      have inEnvelope : field envelope "request_id" = .str text := by
        rw [← isRequest, ← Verifier.field_of_get? a.requestId_eq, isEnvelope,
          Verifier.copy_field (by decide) (by decide)]
      have nonempty : text ≠ "" := by
        rintro rfl
        rw [inEnvelope] at read
        unfold parseUuid Py.str at read
        rw [show Py.uuid "" = none by decide +kernel] at read
        cases read
      show text = rq.requestId
      rw [requestId, isSome]
      unfold relayRequestId
      simp only [isRequest, Py.truthy, Py.str, decide_eq_true nonempty, ↓reduceIte] }
  refine ⟨envelope, issued, expires, decodes, checked.parsed.issuedAt, checked.parsed.expiresAt,
    ?_, Verifier.bound_accepted_iff before isObj isIssued isExpires bound, fun isRequest => ?_⟩
  · exact Request.relays (appId.trans presents.appId ▸ checked.named) (carried.trans copied)
  · obtain ⟨text, isText⟩ := isRequest
    refine Verifier.bound_matched before isObj isIssued isExpires bound ⟨text, ?_⟩
    rw [reads, isText]
    rfl

end Headers

/-! ## A frame that is accepted -/

namespace Sample

theorem delegationEnv_reprLike : ReprLike delegationEnv where
  list := by
    intro xs
    show ∃ rest, (String.ofList ((Json.arr xs).canon.render true)).toList = '[' :: rest
    rw [String.toList_ofList]
    cases xs with
    | nil => exact ⟨_, rfl⟩
    | cons x xs => exact ⟨_, rfl⟩
  empty := by rfl
  dictionary := by
    intro m fs
    have first : ∃ m' fs', (Json.obj (m :: fs)).canon = .obj (m' :: fs') := by
      obtain ⟨k, v⟩ := m
      rw [Json.canon, Json.canonMembers]
      cases Json.canonMembers fs with
      | nil => exact ⟨_, _, rfl⟩
      | cons m' fs' =>
          obtain ⟨k', v'⟩ := m'
          unfold Json.insertNew
          split
          · exact ⟨_, _, rfl⟩
          · split <;> exact ⟨_, _, rfl⟩
    obtain ⟨⟨k, v⟩, fs', is⟩ := first
    refine ⟨'"', closeQuote true k ++ ':' :: (v.render true ++ Json.renderMembers true fs'),
      .inr rfl, ?_⟩
    show (String.ofList ((Json.obj (m :: fs)).canon.render true)).toList = _
    rw [String.toList_ofList, is]
    rfl

/-- The device that serves, with the Hub's key. -/
def servingDevice : Verifier delegationEnv :=
  .new {
    rootKeyId := "root-vector-2026-09"
    rootPublicKey := rootPublicKey
    rootKeyId_ok := rootKeyId_named
    rootPublicKey_ok := by decide +kernel } "pc-1" defaultClockSkewSeconds 4096

def hubKeyItem : List (String × Json) :=
  keyItem "hub-key-1" signingKey "active" 1767225000 1767229200

def hubKeys : KeyMap := [("hub-key-1", hubKeyItem)]

/-- The copy of the assertion with one scope. -/
def oneScopeCopy : Json :=
  (normalCopy delegationEnv (Json.obj oneScope).canon ["agent:terminal"]).canon

theorem hubKey_usable : servingDevice.KeyUsable noFloats (.obj hubKeyItem) 1767225613 where
  status := ⟨"active", by decide, rfl⟩
  begun := ⟨.int 1767225000, .int 1767224995, rfl, rfl, rfl⟩
  unended := ⟨.int 1767229200, rfl, rfl⟩

theorem oneScope_admissible :
    servingDevice.Admissible noFloats hubKeys [] oneScopeCopy 1767225600 1767225900 1767225613
      1767225613 where
  unexpired := by decide
  begun := by decide
  signature := by
    have decoded : (parseSignature delegationEnv (field oneScopeCopy "signature")).toOption.any
        (fun _ => true) = true := by decide +kernel
    obtain ⟨raw, isOk, _⟩ := exists_ok_of_any decoded
    exact ⟨raw, isOk⟩
  key := by
    have keyId : field oneScopeCopy "key_id" = .str "hub-key-1" :=
      Py.eqStr_iff.mp (by decide +kernel)
    have stripped : Py.strip oneScopeSignature = oneScopeSignature := by decide +kernel
    exact ⟨hubKeyItem, .str signingKey, by rw [keyId]; rfl, hubKey_usable, rfl,
      (delegationEnv_verifies stripped).mpr (Or.inl ⟨rfl, by rfl⟩)⟩
  requestId := ⟨signedId, get?_of_eqStr (by decide +kernel)⟩
  fresh := ⟨.str "c7d1e8f2-3b4a-4c6d-9e5f-a1b2c3d4e5f6", by decide +kernel, List.not_mem_nil⟩

end Sample

/-- The device accepts what it is sent a second after the headers were checked. -/
theorem relayed_accepted_iff_oneScope :
    ∃ (rq : Request) (accepted : VerifiedAppAssertion), Relays rq Sample.oneScopeCopy ∧
      (Sample.servingDevice.verify Sample.noFloats [] Sample.oneScopeCopy Sample.hubKeys
        ⟨rq.requestId, "hub-client", "app-1", ["agent:terminal"]⟩ 1767225613 1767225613).1 =
          .ok accepted := by
  obtain ⟨identity, verified, clientId, appId, _⟩ := Sample.oneScope_verified
  obtain ⟨sys, sys', rq, _, stepped, sent⟩ :=
    Sample.sends_frame _ Sample.oneScope_sends
  have raw : Sample.oneScopeHeaders.rawAssertion = envelopeHeader (.obj Sample.oneScope) :=
    Sample.rawAssertion_delegationHeaders _ _ _
  have attached := raw ▸ envelopeHeader_ne_empty (.obj Sample.oneScope)
  have presents := Sample.signedCommand_presents raw verified clientId appId Sample.oneScope_parsed
  have connector : rq.key.connectorId = "pc-1" := by
    have reads : parseConnectorId Sample.delegationEnv (.str "pc-1") = .ok "pc-1" := by
      decide +kernel
    exact (Except.ok.inj (reads.symm.trans (System.dispatch_names stepped sent).1)).symm
  obtain ⟨envelope, issued, expires, decodes, isIssued, isExpires, relays, accepted_iff, _⟩ :=
    relayed_accepted_iff Sample.delegationEnv_reprLike verified attached presents stepped sent
      (v := Sample.servingDevice) connector.symm Sample.noFloats Sample.hubKeys [] 1767225613
      1767225613
  rw [raw, decodeEnvelope_header] at decodes
  obtain rfl : (Json.obj Sample.oneScope).canon = envelope := Except.ok.inj decodes
  have scopes : identity.scopes = ["agent:terminal"] := by
    obtain ⟨envelope', _, _, decodes', checked⟩ := verified_attached verified attached
    rw [raw, decodeEnvelope_header] at decodes'
    obtain rfl : (Json.obj Sample.oneScope).canon = envelope' := Except.ok.inj decodes'
    exact Except.ok.inj (checked.parsed.validated.symm.trans Sample.oneScope_parsed.validated)
  obtain rfl := Json.int.inj (Option.some.inj (isIssued.symm.trans Sample.oneScope_parsed.issuedAt))
  obtain rfl := Json.int.inj (Option.some.inj (isExpires.symm.trans Sample.oneScope_parsed.expiresAt))
  rw [scopes, clientId, appId] at accepted_iff
  rw [scopes] at relays
  obtain ⟨accepted, isOk⟩ := accepted_iff.mpr Sample.oneScope_admissible
  exact ⟨rq, accepted, relays, isOk⟩

end RemoteAgent
