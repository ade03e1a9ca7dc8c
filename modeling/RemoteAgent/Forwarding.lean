import RemoteAgent.Delegation
import RemoteAgent.Routing

/-!
# Forwarding an assertion

From the header of a command, through the identity it proves, to the request frame that
`device_command` sends.  What travels is what the parser answered, a copy of the envelope
with the app id and the scopes normalised.

`forwarded_verbatim_iff`: the frame carries the envelope of the header, and so the bytes
that the Hub signed, exactly when the envelope is in normal form.
-/

open Wire Transition

namespace RemoteAgent

open Dispatcher (field)

variable {env : Env}

/-! ## From the identity to the frame -/

/-- The arguments of a command are those of a delegated identity. -/
structure CommandInput.Presents (input : CommandInput) (identity : DelegatedIdentity) : Prop where
  clientId : input.clientId = identity.clientId
  appId : input.appId = identity.appId
  appAssertion : input.appAssertion.map AppAssertion.envelope = identity.appAssertion

/-- The members that `device_command` reads from a parsed assertion. -/
def Parsed.view {decoded : Json} {scopes : List String} {issued expires : Int}
    (parsed : Parsed env decoded scopes issued expires) : AppAssertion where
  envelope := normalCopy env decoded scopes
  connectorId := field decoded "connector_id"
  expiresAt := expires
  requestId := field decoded "request_id"
  connectorId_eq := by
    rw [Parsed.copy_other (by decide) (by decide), get?_of_hasFields parsed.fields (by decide)]
  expiresAt_eq := by
    rw [Parsed.copy_other (by decide) (by decide), parsed.expiresAt]
  requestId_eq := by
    rw [Parsed.copy_other (by decide) (by decide), get?_of_hasFields parsed.fields (by decide)]

/-- A claim takes the caller's identity into the request as it is. -/
theorem Dispatcher.incoming_carries {d : Dispatcher} {c : CallId} {connectorId : String}
    {input : CommandInput} {row : Option Routing} {uuid : String} {now : Int} {c' : CallId}
    {rq : Request}
    (came : d.incoming env (.command c connectorId input row uuid now) = some (c', rq)) :
    rq.appId = input.appId ∧ rq.appAssertion = input.appAssertion.map AppAssertion.envelope := by
  unfold incoming at came
  dsimp only at came
  split at came
  · cases came
  · split at came
    · rename_i rq₀ prepared
      cases came
      obtain ⟨found, k, _, rfl⟩ := prepare_ok prepared
      exact ⟨rfl, rfl⟩
    · cases came

/-- The request that a command sends carries the command's identity. -/
theorem System.dispatch_carries {sys sys' : System} {c : CallId} {input : CommandInput}
    {uuid : String} {now : Int} {rq : Request}
    (stepped : sys.step env (.command c input uuid now) = some sys')
    (sent : sys'.dispatcher.dispatched = sys.dispatcher.dispatched ++ [rq]) :
    rq.appId = input.appId ∧ rq.appAssertion = input.appAssertion.map AppAssertion.envelope := by
  have unsent : sys'.dispatcher.dispatched ≠ sys.dispatcher.dispatched := by
    rw [sent]
    exact fun same => List.cons_ne_nil _ _ (List.append_right_eq_self.mp same)
  obtain ⟨plan, planned, _, _, next⟩ := step_plan stepped
  split at next
  · exact absurd (congrArg Dispatcher.dispatched next) unsent
  · rename_i a act
    rcases (Dispatcher.step_effect next).dispatched_cases with same | ⟨c', rq', appended, came, _⟩
    · exact absurd same unsent
    · obtain rfl : rq' = rq :=
        (List.singleton_inj.mp (List.append_cancel_left (appended.symm.trans sent)))
      obtain rfl := Option.some.inj planned
      unfold commands at act
      split at act
      · cases act; cases came
      · split at act
        · cases act; cases came
        · split at act
          · cases act; cases came
          · cases act
            exact Dispatcher.incoming_carries came

/-- The assertion that a frame carries. -/
theorem Request.frame_appAssertion {rq : Request} (named : rq.appId ≠ "") {envelope : Json}
    (carries : rq.appAssertion = some envelope) :
    rq.frame.get? "app_assertion" = some envelope := by
  unfold Request.frame
  rw [if_neg named, carries]
  rfl

/-! ## The envelope in the frame -/

/-- The assertion that is forwarded is the envelope: as a value, in the bytes that are
signed, and for every signature over them. -/
structure Verbatim (env : Env) (forwarded envelope : Json) : Prop where
  same : Json.Same forwarded envelope
  bytes : canonicalJsonBytes (forwarded.without "signature") =
    canonicalJsonBytes (envelope.without "signature")
  signatures : ∀ publicKey signature,
    verifyEd25519 env publicKey (canonicalJsonBytes (envelope.without "signature")) signature =
      true →
    verifyEd25519 env publicKey (canonicalJsonBytes (forwarded.without "signature")) signature =
      true

theorem Verbatim.of_same {forwarded envelope : Json} (same : Json.Same forwarded envelope) :
    Verbatim env forwarded envelope := by
  have bytes := canonicalJsonBytes_inj.mpr (same.without "signature")
  exact ⟨same, bytes, fun _ _ verifies => bytes ▸ verifies⟩

section Headers

variable {hmac : String → String → String} {headers : Headers} {secret audience : String}
  {now maxAgeSeconds : Int} {requireAppAssertion : Bool} {identity : DelegatedIdentity}

/-- What an identity has as its assertion is the parser's copy of the object in the header. -/
theorem verified_appAssertion
    (verified : verifyDelegationHeaders env hmac headers secret audience now maxAgeSeconds
      requireAppAssertion = .ok identity)
    (attached : headers.rawAssertion ≠ "") :
    identity.appId ≠ "" ∧ ∃ decoded scopes issued expires,
      decodeEnvelope env (.str headers.rawAssertion) = .ok decoded ∧
      Parsed env decoded scopes issued expires ∧
      identity.appAssertion = some (normalCopy env decoded scopes) := by
  obtain ⟨claimed, payload, _, _, _, _, pairs, is⟩ := verifyDelegationHeaders_ok verified
  have appId : identity.appId = headers.appId := congrArg DelegatedIdentity.appId is
  obtain ⟨named, pairs⟩ := attachedAssertion_ok pairs
  rcases pairs with ⟨blank, _⟩ | ⟨parsed, isSome, isParsed, _⟩
  · exact absurd blank attached
  · obtain ⟨decoded, scopes, issued, expires, decodes, checked, rfl⟩ := parseAppAssertion_ok isParsed
    exact ⟨appId ▸ fun empty => attached (named empty), decoded, scopes, issued, expires, decodes,
      checked, isSome⟩

/-- **The frame carries the envelope of the header exactly when that envelope is in normal
form.**  For any other the device is sent bytes that the Hub never signed. -/
theorem forwarded_verbatim_iff
    (verified : verifyDelegationHeaders env hmac headers secret audience now maxAgeSeconds
      requireAppAssertion = .ok identity)
    (attached : headers.rawAssertion ≠ "") {input : CommandInput}
    (presents : input.Presents identity) {sys sys' : System} {c : CallId} {uuid : String}
    {sentAt : Int} (stepped : sys.step env (.command c input uuid sentAt) = some sys')
    {rq : Request} (sent : sys'.dispatcher.dispatched = sys.dispatcher.dispatched ++ [rq]) :
    ∃ envelope forwarded, decodeEnvelope env (.str headers.rawAssertion) = .ok envelope ∧
      rq.frame.get? "app_assertion" = some forwarded ∧
      (Verbatim env forwarded envelope ↔ NormalForm envelope) := by
  obtain ⟨named, envelope, scopes, issued, expires, decodes, checked, copied⟩ :=
    verified_appAssertion verified attached
  obtain ⟨appId, carried⟩ := System.dispatch_carries stepped sent
  have carries : rq.frame.get? "app_assertion" = some (normalCopy env envelope scopes) :=
    Request.frame_appAssertion (appId.trans presents.appId ▸ named)
      (carried.trans (presents.appAssertion.trans copied))
  exact ⟨envelope, _, decodes, carries, fun verbatim => checked.same_iff.mp verbatim.same,
    fun normal => .of_same (checked.same_iff.mpr normal)⟩

end Headers

/-! ## Two scopes in the order in which the Hub wrote them -/

namespace Sample

/-- An assertion that is accepted, with what is read from it. -/
theorem members_parsed {appId scopes : Json} {signature : String} {ss : List String}
    (accepted : (parseAppAssertion delegationEnv
      (Json.obj (members appId scopes signature)).canon).toOption.isSome = true)
    (validated : validateAgentScopes delegationEnv scopes.canon = .ok ss) :
    Parsed delegationEnv (Json.obj (members appId scopes signature)).canon ss 1767225600
      1767225900 := by
  obtain ⟨parsed, isParsed, _⟩ := exists_ok_of_any (P := fun _ => true)
    (by rwa [Option.any_true])
  obtain ⟨decoded, ss', issued, expires, decodes, checked, _⟩ := parseAppAssertion_ok isParsed
  obtain rfl : (Json.obj (members appId scopes signature)).canon = decoded :=
    Except.ok.inj decodes
  have reads := Json.get?_canon (.obj (members appId scopes signature))
  have scopesRead : field (Json.obj (members appId scopes signature)).canon "scopes" =
      scopes.canon := by
    unfold Dispatcher.field
    rw [reads]
    rfl
  have issuedIs := checked.issuedAt
  have expiresIs := checked.expiresAt
  have scopesAre := checked.validated
  rw [reads] at issuedIs expiresIs
  rw [scopesRead] at scopesAre
  obtain rfl := Json.int.inj (Option.some.inj issuedIs)
  obtain rfl := Json.int.inj (Option.some.inj expiresIs)
  obtain rfl := Except.ok.inj (scopesAre.symm.trans validated)
  exact checked

theorem oneScope_parsed :
    Parsed delegationEnv (Json.obj oneScope).canon ["agent:terminal"] 1767225600 1767225900 :=
  members_parsed (by decide +kernel) (by decide +kernel)

theorem twoScopes_parsed :
    Parsed delegationEnv (Json.obj twoScopes).canon ["agent:read", "agent:terminal"] 1767225600
      1767225900 :=
  members_parsed (by decide +kernel) (by decide +kernel)

/-- The command under an assertion. -/
def signedCommand (assertion : AppAssertion) : CommandInput :=
  { command "key-1" true with appAssertion := some assertion }

/-- The command presents the identity that headers prove. -/
theorem signedCommand_presents {headers : Headers} {fs : List (String × Json)}
    {identity : DelegatedIdentity} {scopes : List String} {issued expires : Int}
    (raw : headers.rawAssertion = envelopeHeader (.obj fs))
    (verified : verifyHeaders headers = .ok identity) (clientId : identity.clientId = "hub-client")
    (appId : identity.appId = "app-1")
    (parsed : Parsed delegationEnv (Json.obj fs).canon scopes issued expires) :
    (signedCommand parsed.view).Presents identity := by
  obtain ⟨_, decoded, scopes', _, _, decodes, checked, copied⟩ :=
    verified_appAssertion verified (raw ▸ envelopeHeader_ne_empty (.obj fs))
  rw [raw, decodeEnvelope_header] at decodes
  obtain rfl : (Json.obj fs).canon = decoded := Except.ok.inj decodes
  obtain rfl := Except.ok.inj (checked.validated.symm.trans parsed.validated)
  exact ⟨clientId.symm, appId.symm, copied.symm⟩

/-- Whether the command sends a frame once the device serves. -/
def sends (input : CommandInput) : Bool :=
  ((system delegationEnv).exec System.init serving).any fun sys : System =>
    (sys.step delegationEnv (.command 0 input (uuid 0) (second 12))).any fun sys' : System =>
      decide (sys'.dispatcher.dispatched.length = sys.dispatcher.dispatched.length + 1)

/-- The command leads to a frame, from a state that can be reached. -/
theorem sends_frame (input : CommandInput) (evaluated : sends input = true) :
    ∃ sys sys' rq, (system delegationEnv).Reach Machine.anyStep sys ∧
      sys.step delegationEnv (.command 0 input (uuid 0) (second 12)) = some sys' ∧
      sys'.dispatcher.dispatched = sys.dispatcher.dispatched ++ [rq] := by
  obtain ⟨sys, reached, holds⟩ := Machine.Reach.exists_of_exec
    (M := system delegationEnv) .init serving _ evaluated
  obtain ⟨sys', stepped, more⟩ := (Option.any_eq_true _ _).mp holds
  rcases System.dispatch_routed stepped with same | ⟨rq, sent, _⟩
  · rw [same] at more
    exact absurd (of_decide_eq_true more) (Nat.succ_ne_self _).symm
  · exact ⟨sys, sys', rq, reached, stepped, sent⟩

theorem oneScope_sends : sends (signedCommand oneScope_parsed.view) = true := by decide +kernel

/-- The headers with two scopes prove the identity of the client and the app as well. -/
theorem twoScopes_verified :
    ∃ identity, verifyHeaders twoScopesHeaders = .ok identity ∧
      identity.clientId = "hub-client" ∧ identity.appId = "app-1" ∧
      identity.appAssertion.isSome = true := by
  have accepted : (verifyHeaders twoScopesHeaders).toOption.any (fun identity =>
      decide (identity.clientId = "hub-client" ∧ identity.appId = "app-1" ∧
        identity.appAssertion.isSome = true)) = true := by
    unfold verifyHeaders twoScopesHeaders
    rw [verifyDelegationHeaders, rawAssertion_delegationHeaders, appId_delegationHeaders]
    simp only [attachedAssertion_header (show "app-1" ≠ "" by decide)]
    decide +kernel
  obtain ⟨identity, verified, holds⟩ := exists_ok_of_any accepted
  exact ⟨identity, verified, of_decide_eq_true holds⟩

end Sample

/-- An envelope with one scope is forwarded. -/
theorem forwarded_verbatim_iff_oneScope :
    ∃ (rq : Request) (envelope forwarded : Json), decodeEnvelope Sample.delegationEnv
        (.str Sample.oneScopeHeaders.rawAssertion) = .ok envelope ∧
      rq.frame.get? "app_assertion" = some forwarded ∧
      (Verbatim Sample.delegationEnv forwarded envelope ↔ NormalForm envelope) := by
  obtain ⟨identity, verified, clientId, appId, _⟩ := Sample.oneScope_verified
  obtain ⟨sys, sys', rq, _, stepped, sent⟩ :=
    Sample.sends_frame _ Sample.oneScope_sends
  have raw : Sample.oneScopeHeaders.rawAssertion = envelopeHeader (.obj Sample.oneScope) :=
    Sample.rawAssertion_delegationHeaders _ _ _
  exact ⟨rq, forwarded_verbatim_iff verified (raw ▸ envelopeHeader_ne_empty _)
    (Sample.signedCommand_presents raw verified clientId appId Sample.oneScope_parsed) stepped
    sent⟩

/-- **The frame does not carry what the Hub signed.**  The Hub has signed the scopes
`agent:terminal` and `agent:read` in this order; the device is sent them in the other, and
the signature does not verify there. -/
theorem reordered_not_verbatim :
    ∃ (identity : DelegatedIdentity) (input : CommandInput) (sys sys' : System) (rq : Request)
      (envelope forwarded : Json),
      Sample.verifyHeaders Sample.twoScopesHeaders = .ok identity ∧ input.Presents identity ∧
      (system Sample.delegationEnv).Reach Machine.anyStep sys ∧
      sys.step Sample.delegationEnv (.command 0 input (Sample.uuid 0) (Sample.second 12)) =
        some sys' ∧
      sys'.dispatcher.dispatched = sys.dispatcher.dispatched ++ [rq] ∧
      decodeEnvelope Sample.delegationEnv (.str Sample.twoScopesHeaders.rawAssertion) =
        .ok envelope ∧
      rq.frame.get? "app_assertion" = some forwarded ∧
      verifyEd25519 Sample.delegationEnv (.str Sample.signingKey)
        (canonicalJsonBytes (envelope.without "signature"))
        (.str Sample.twoScopesSignature) = true ∧
      verifyEd25519 Sample.delegationEnv (.str Sample.signingKey)
        (canonicalJsonBytes (forwarded.without "signature"))
        (.str Sample.twoScopesSignature) = false ∧
      ¬Verbatim Sample.delegationEnv forwarded envelope := by
  obtain ⟨identity, verified, clientId, appId, _⟩ := Sample.twoScopes_verified
  obtain ⟨sys, sys', rq, reached, stepped, sent⟩ :=
    Sample.sends_frame (Sample.signedCommand Sample.twoScopes_parsed.view) (by decide +kernel)
  have raw : Sample.twoScopesHeaders.rawAssertion = envelopeHeader (.obj Sample.twoScopes) :=
    Sample.rawAssertion_delegationHeaders _ _ _
  have presents := Sample.signedCommand_presents raw verified clientId appId
    Sample.twoScopes_parsed
  obtain ⟨named, carried⟩ := System.dispatch_carries stepped sent
  have isNamed : rq.appId ≠ "" := named.trans (presents.appId.trans appId) ▸ by decide
  have carries := Request.frame_appAssertion isNamed carried
  have stripped : Py.strip Sample.twoScopesSignature = Sample.twoScopesSignature := by
    decide +kernel
  have signed : verifyEd25519 Sample.delegationEnv (.str Sample.signingKey)
      (canonicalJsonBytes ((Json.obj Sample.twoScopes).canon.without "signature"))
      (.str Sample.twoScopesSignature) = true :=
    (Sample.delegationEnv_verifies stripped).mpr (Or.inr ⟨rfl, by rfl⟩)
  have unsigned : verifyEd25519 Sample.delegationEnv (.str Sample.signingKey)
      (canonicalJsonBytes ((normalCopy Sample.delegationEnv (Json.obj Sample.twoScopes).canon
        ["agent:read", "agent:terminal"]).without "signature"))
      (.str Sample.twoScopesSignature) = false := by
    refine Bool.eq_false_iff.mpr fun verifies => ?_
    rcases (Sample.delegationEnv_verifies stripped).mp verifies with ⟨one, _⟩ | ⟨_, same⟩
    · exact absurd one (by decide +kernel)
    · exact absurd (congrArg (fun value => Py.eqTexts (field value "scopes")
        ["agent:read", "agent:terminal"]) same) (by decide +kernel)
  refine ⟨identity, _, sys, sys', rq, _, _, verified, presents, reached, stepped, sent,
    (congrArg (fun text => decodeEnvelope _ (.str text)) raw).trans (decodeEnvelope_header _),
    carries, signed, unsigned, ?_⟩
  intro verbatim
  exact Bool.false_ne_true (unsigned.symm.trans (verbatim.signatures _ _ signed))

end RemoteAgent
