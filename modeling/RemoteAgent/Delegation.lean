import RemoteAgent.Assertion
import RemoteAgent.Presence

/-!
# The delegation envelope (`protocol.py`)

The Hub names the caller of a command in headers and signs what they say with the
delegation secret.  `canonicalDelegation` is the text that is signed, and
`verifyDelegationHeaders` the check of the headers.

* `Delegation.payload_inj`: two delegations are signed with one text only when they are
  one delegation, whatever characters their app ids have.
* `delegation_unforgeable`: what the headers prove is a delegation that the Hub signed,
  and an assertion they carry is about that delegation.
-/

open Wire

namespace RemoteAgent

open Dispatcher (field)

/-! ## The signed text -/

/-- The text over which a delegation is signed: version 4 when there is an app id. -/
def delegationText (audience clientId appId : String) (timestamp : Int) (nonce : String)
    (scopes : List String) : String :=
  if appId = "" then
    String.intercalate "\n" ["v3", audience, clientId, String.ofList (intText timestamp), nonce,
      String.intercalate "," scopes]
  else
    String.intercalate "\n" ["v4", audience, clientId, appId, String.ofList (intText timestamp),
      nonce, String.intercalate "," scopes]

/-- `canonical_delegation`. -/
def canonicalDelegation (env : Env) (audience : String) (clientId : Json) (timestamp : Int)
    (nonce scopes appId : Json) : Except Rejection String := do
  let clientId ← parseClientId env clientId
  let nonce ← parseNonce env nonce
  let scopes ← validateAgentScopes env scopes
  return delegationText audience clientId (Py.strip (env.text appId)) timestamp nonce scopes

/-! ## Verification -/

/-- The headers of a request, looked up by name. -/
abbrev Headers := String → Option String

/-- `headers.get(name, "")`. -/
def Headers.header (headers : Headers) (name : String) : String := (headers name).getD ""

structure DelegatedIdentity where
  clientId : String
  scopes : List String
  nonce : String
  timestamp : Int
  appId : String
  /-- The parsed envelope, if there is one. -/
  appAssertion : Option Json

/-- What the headers claim, before their signature is checked. -/
structure Claimed where
  clientId : String
  scopes : List String
  nonce : String
  timestamp : Int
  signature : String

/-- `re.fullmatch(r"[0-9a-f]{64}", text)`. -/
def isSignatureText (s : String) : Bool :=
  decide (s.length = 64) && s.toList.all fun c => c.isDigit || decide ('a' ≤ c ∧ c ≤ 'f')

/-- The text of a `try` block's own `ProtocolError`, whatever went wrong in it. -/
def attempt {α : Type} (message : String) : Except Rejection α → Except Rejection α
  | .ok a => .ok a
  | .error _ => .error (.protocol message)

theorem attempt_ok {α : Type} {message : String} {r : Except Rejection α} {a : α}
    (passed : attempt message r = .ok a) : r = .ok a := by
  cases r with
  | ok b => exact congrArg Except.ok (Except.ok.inj passed)
  | error e => cases passed

/-- The signature that headers carry, as it is compared. -/
def Headers.signature (headers : Headers) : String :=
  Py.lower (Py.strip (headers.header "x-mcp-hub-client-signature"))

/-- The app id that headers carry. -/
def Headers.appId (headers : Headers) : String := Py.strip (headers.header "x-mcp-hub-app-id")

/-- The text of the assertion that headers carry. -/
def Headers.rawAssertion (headers : Headers) : String :=
  Py.strip (headers.header appAssertionHeader)

section Verify

variable (env : Env)

/-- The `try` block of `verify_delegation_headers`. -/
def Headers.claimed (headers : Headers) : Except Rejection Claimed := do
  let clientId ← parseClientId env (.str (headers.header "x-mcp-hub-client-id"))
  let scopes ← validateAgentScopes env (.str (headers.header "x-mcp-hub-client-scopes"))
  let nonce ← parseNonce env (.str (headers.header "x-mcp-hub-client-nonce"))
  match env.intOfText (Py.strip (headers.header "x-mcp-hub-client-timestamp")) with
  | none => .error (.protocol "invalid literal for int()")
  | some timestamp => return ⟨clientId, scopes, nonce, timestamp, headers.signature⟩

/-- The assertion attached to a delegation: required, refused or compared with it. -/
def attachedAssertion (claimed : Claimed) (appId rawAssertion : String)
    (requireAppAssertion : Bool) : Except Rejection (Option Json) :=
  if appId = "" then
    if rawAssertion = "" then .ok none
    else .error (.protocol "app assertion requires a v4 delegation")
  else if rawAssertion = "" then
    if requireAppAssertion then .error (.protocol "app assertion is required") else .ok none
  else do
    let parsed ← parseAppAssertion env (.str rawAssertion)
    require (Py.eqStr (field parsed "client_id") claimed.clientId &&
      Py.eqStr (field parsed "app_id") appId && Py.eqStr (field parsed "nonce") claimed.nonce &&
      Py.eqTexts (field parsed "scopes") claimed.scopes)
      "app assertion does not match the delegation"
    return some parsed

/-- `verify_delegation_headers`; `hmac secret payload` is the hexadecimal HMAC-SHA256. -/
def verifyDelegationHeaders (hmac : String → String → String) (headers : Headers)
    (secret audience : String) (now maxAgeSeconds : Int) (requireAppAssertion : Bool) :
    Except Rejection DelegatedIdentity := do
  let claimed ← attempt "delegated identity headers are invalid" (headers.claimed env)
  require (isSignatureText claimed.signature) "delegation signature is invalid"
  require (decide (((now - claimed.timestamp).natAbs : Int) ≤ max 1 maxAgeSeconds))
    "delegation is expired"
  let payload ← canonicalDelegation env audience (.str claimed.clientId) claimed.timestamp
    (.str claimed.nonce) (.arr (claimed.scopes.map .str)) (.str headers.appId)
  require (decide (hmac secret payload = claimed.signature)) "delegation signature is invalid"
  let appAssertion ← attachedAssertion env claimed headers.appId headers.rawAssertion
    requireAppAssertion
  return {
    clientId := claimed.clientId
    scopes := claimed.scopes
    nonce := claimed.nonce
    timestamp := claimed.timestamp
    appId := headers.appId
    appAssertion := appAssertion }

end Verify

/-- The part of `RemoteAgentConfig` that the delegation check reads. -/
structure DelegationConfig where
  hubDelegationSecret : String
  hubAudience : String
  requireSignedAppAssertion : Bool
  audience_ok : isAudience hubAudience = true

/-- How old a delegation may be by default. -/
def delegationMaxAgeSeconds : Int := 90

/-- `delegated_identity`, of the server. -/
def DelegationConfig.delegatedIdentity (config : DelegationConfig) (env : Env)
    (hmac : String → String → String) (headers : Headers) (now : Int) :
    Except Rejection DelegatedIdentity :=
  attempt "delegation_invalid" (verifyDelegationHeaders env hmac headers config.hubDelegationSecret
    config.hubAudience now delegationMaxAgeSeconds config.requireSignedAppAssertion)

/-! ## One text for one delegation -/

/-- A delegation in normal form, under an audience that can be configured. -/
structure Delegation where
  audience : String
  clientId : String
  appId : String
  timestamp : Int
  nonce : String
  scopes : List String
  audience_ok : isAudience audience = true
  clientId_ok : isClientId clientId = true
  nonce_ok : isNonce nonce = true
  scopes_ok : AgentScopes scopes

def Delegation.payload (d : Delegation) : String :=
  delegationText d.audience d.clientId d.appId d.timestamp d.nonce d.scopes

theorem newline_notMem {s : String} (plain : ∀ c ∈ s.toList, Plain c) : '\n' ∉ s.toList :=
  fun mem => absurd (plain _ mem).1 (by decide)

theorem newline_notMem_intText (i : Int) : '\n' ∉ intText i := by
  have digits : ∀ c ∈ Nat.toDigits 10 i.natAbs, c.isDigit = true :=
    fun c mem => Nat.isDigit_of_mem_toDigits (by decide) (by decide) mem
  unfold intText
  split
  · intro mem
    rcases List.mem_cons.mp mem with minus | mem
    · exact absurd minus (by decide)
    · exact absurd (digits _ mem) (by decide)
  · exact fun mem => absurd (digits _ mem) (by decide)

theorem intText_inj {i j : Int} (same : intText i = intText j) : i = j := by
  rw [← intValue_intText i, same, intValue_intText]

/-- A character of a joined text is the separator or a character of a part. -/
theorem notMem_intercalate {α : Type} {c s : α} (other : c ≠ s) :
    ∀ {parts : List (List α)}, (∀ part ∈ parts, c ∉ part) → c ∉ [s].intercalate parts
  | [], _ => List.not_mem_nil
  | [part], absent => by
      rw [List.intercalate_singleton]
      exact absent part List.mem_cons_self
  | part :: part' :: parts, absent => by
      rw [List.intercalate_cons_cons, List.append_assoc, List.mem_append, List.mem_append,
        List.mem_singleton]
      rintro (mem | eq | mem)
      · exact absent part List.mem_cons_self mem
      · exact other eq
      · exact notMem_intercalate other (fun p mem => absent p (List.mem_cons_of_mem _ mem)) mem

namespace Delegation

/-- The scopes as they are joined. -/
def scopeText (d : Delegation) : List Char := [','].intercalate (d.scopes.map String.toList)

/-- What follows the app id, or the client id when there is none. -/
def tail (d : Delegation) (front : List Char) : List Char :=
  ((front ++ '\n' :: intText d.timestamp) ++ '\n' :: d.nonce.toList) ++ '\n' :: d.scopeText

theorem payload_toList (d : Delegation) :
    d.payload.toList = (if d.appId = "" then "v3" else "v4").toList ++ '\n' ::
      (d.audience.toList ++ '\n' ::
        d.tail (if d.appId = "" then d.clientId.toList
          else d.clientId.toList ++ '\n' :: d.appId.toList)) := by
  unfold payload delegationText tail scopeText
  split <;> simp

theorem newline_notMem_scopeText (d : Delegation) : '\n' ∉ d.scopeText := by
  refine notMem_intercalate (by decide) fun part mem => ?_
  obtain ⟨s, listed, rfl⟩ := List.mem_map.mp mem
  exact newline_notMem (plain_of_isScope (d.scopes_ok.named s listed))

theorem scopeText_inj {d d' : Delegation} (same : d.scopeText = d'.scopeText) :
    d.scopes = d'.scopes := by
  have apart : ∀ d : Delegation, ∀ part ∈ d.scopes.map String.toList, ',' ∉ part := by
    intro d part mem comma
    obtain ⟨s, listed, rfl⟩ := List.mem_map.mp mem
    exact (plain_of_isScope (d.scopes_ok.named s listed) _ comma).2 rfl
  have nonempty : ∀ d : Delegation, d.scopes.map String.toList ≠ [] := fun d eq =>
    d.scopes_ok.nonempty (List.map_eq_nil_iff.mp eq)
  have parts := Py.intercalate_inj (nonempty d) (nonempty d') (apart d) (apart d') same
  exact List.map_injective_iff.mpr (fun _ _ => String.toList_injective) parts

/-- The three last lines can be read back, whatever stands before them. -/
theorem tail_inj {d d' : Delegation} {front front' : List Char}
    (same : d.tail front = d'.tail front') :
    front = front' ∧ d.timestamp = d'.timestamp ∧ d.nonce = d'.nonce ∧ d.scopes = d'.scopes := by
  obtain ⟨rest, isScopes⟩ :=
    Py.cut_last d.newline_notMem_scopeText d'.newline_notMem_scopeText same
  obtain ⟨rest, isNonce⟩ := Py.cut_last (newline_notMem (plain_of_isNonce d.nonce_ok))
    (newline_notMem (plain_of_isNonce d'.nonce_ok)) rest
  obtain ⟨rest, isTimestamp⟩ := Py.cut_last (newline_notMem_intText _)
    (newline_notMem_intText _) rest
  exact ⟨rest, intText_inj isTimestamp, String.toList_injective isNonce, scopeText_inj isScopes⟩

/-- **Two delegations that are signed with one text are one delegation.**  The lines
before the app id are read from the front and those after it from the back, so the app
id may contain anything. -/
theorem payload_inj {d d' : Delegation} (same : d.payload = d'.payload) : d = d' := by
  have versionClean : ∀ d : Delegation,
      '\n' ∉ (if d.appId = "" then "v3" else "v4" : String).toList := by
    intro d
    split <;> decide
  have lines := congrArg String.toList same
  rw [payload_toList, payload_toList] at lines
  obtain ⟨version, lines⟩ := Py.cut_first (versionClean d) (versionClean d') lines
  obtain ⟨isAudience, lines⟩ := Py.cut_first
    (newline_notMem (plain_of_isAudience d.audience_ok))
    (newline_notMem (plain_of_isAudience d'.audience_ok)) lines
  obtain ⟨front, isTimestamp, isNonce, isScopes⟩ := tail_inj lines
  have isNamed : d.clientId = d'.clientId ∧ d.appId = d'.appId := by
    by_cases empty : d.appId = "" <;> by_cases empty' : d'.appId = ""
    · rw [if_pos empty, if_pos empty'] at front
      exact ⟨String.toList_injective front, empty.trans empty'.symm⟩
    · rw [if_pos empty, if_neg empty'] at version
      exact absurd version (by decide)
    · rw [if_neg empty, if_pos empty'] at version
      exact absurd version (by decide)
    · rw [if_neg empty, if_neg empty'] at front
      obtain ⟨isClient, isApp⟩ := Py.cut_first
        (newline_notMem (plain_of_isClientId d.clientId_ok))
        (newline_notMem (plain_of_isClientId d'.clientId_ok)) front
      exact ⟨String.toList_injective isClient, String.toList_injective isApp⟩
  cases d
  cases d'
  simp only [mk.injEq]
  exact ⟨String.toList_injective isAudience, isNamed.1, isNamed.2, isTimestamp, isNonce, isScopes⟩

end Delegation

/-! ## What the headers prove -/

variable {env : Env}

theorem parseClientId_ok_iff {value : Json} {clientId : String} :
    parseClientId env value = .ok clientId ↔
      clientId = Py.strip (env.text value) ∧ isClientId clientId = true :=
  naming_ok_iff.trans parsePattern_ok_iff

theorem parseNonce_ok_iff {value : Json} {nonce : String} :
    parseNonce env value = .ok nonce ↔
      nonce = Py.strip (env.text value) ∧ isNonce nonce = true :=
  naming_ok_iff.trans parsePattern_ok_iff

/-- A text that is signed is the text of the delegation that its arguments denote. -/
theorem canonicalDelegation_ok {audience : String} (configured : isAudience audience = true)
    {clientId nonce scopes appId : Json} {timestamp : Int} {payload : String}
    (isOk : canonicalDelegation env audience clientId timestamp nonce scopes appId = .ok payload) :
    ∃ d : Delegation, d.payload = payload ∧ d.audience = audience ∧
      parseClientId env clientId = .ok d.clientId ∧ Py.strip (env.text appId) = d.appId ∧
      d.timestamp = timestamp ∧ parseNonce env nonce = .ok d.nonce ∧
      validateAgentScopes env scopes = .ok d.scopes := by
  obtain ⟨client, isClient, isOk⟩ := bind_ok isOk
  obtain ⟨nonceText, isNonceText, isOk⟩ := bind_ok isOk
  obtain ⟨agentScopes, isScopes, isOk⟩ := bind_ok isOk
  exact ⟨⟨audience, client, _, timestamp, nonceText, agentScopes, configured,
    (parseClientId_ok_iff.mp isClient).2, (parseNonce_ok_iff.mp isNonceText).2,
    (validateAgentScopes_ok_iff.mp isScopes).1⟩, Except.ok.inj isOk, rfl, isClient, rfl, rfl,
    isNonceText, isScopes⟩

/-- What `verify_delegation_headers` has checked, and what it answers. -/
theorem verifyDelegationHeaders_ok {hmac : String → String → String} {headers : Headers}
    {secret audience : String} {now maxAgeSeconds : Int} {requireAppAssertion : Bool}
    {identity : DelegatedIdentity}
    (verified : verifyDelegationHeaders env hmac headers secret audience now maxAgeSeconds
      requireAppAssertion = .ok identity) :
    ∃ claimed payload, headers.claimed env = .ok claimed ∧
      ((now - claimed.timestamp).natAbs : Int) ≤ max 1 maxAgeSeconds ∧
      canonicalDelegation env audience (.str claimed.clientId) claimed.timestamp
        (.str claimed.nonce) (.arr (claimed.scopes.map .str)) (.str headers.appId) = .ok payload ∧
      hmac secret payload = headers.signature ∧
      attachedAssertion env claimed headers.appId headers.rawAssertion requireAppAssertion =
        .ok identity.appAssertion ∧
      identity = ⟨claimed.clientId, claimed.scopes, claimed.nonce, claimed.timestamp,
        headers.appId, identity.appAssertion⟩ := by
  obtain ⟨claimed, attempted, verified⟩ := bind_ok verified
  obtain ⟨_, verified⟩ := require_bind verified
  obtain ⟨fresh, verified⟩ := require_bind verified
  obtain ⟨payload, isPayload, verified⟩ := bind_ok verified
  obtain ⟨signed, verified⟩ := require_bind verified
  obtain ⟨appAssertion, attached, verified⟩ := bind_ok verified
  obtain rfl := Except.ok.inj verified
  have isClaimed := attempt_ok attempted
  have sameSignature : claimed.signature = headers.signature := by
    obtain ⟨_, _, rest⟩ := bind_ok isClaimed
    obtain ⟨_, _, rest⟩ := bind_ok rest
    obtain ⟨_, _, rest⟩ := bind_ok rest
    split at rest
    · cases rest
    · rw [← Except.ok.inj rest]
  exact ⟨claimed, payload, isClaimed, of_decide_eq_true fresh, isPayload,
    (of_decide_eq_true signed).trans sameSignature, attached, rfl⟩

/-- What holds of an assertion that is attached to a delegation. -/
theorem attachedAssertion_ok {claimed : Claimed} {appId rawAssertion : String}
    {requireAppAssertion : Bool} {result : Option Json}
    (attached : attachedAssertion env claimed appId rawAssertion requireAppAssertion =
      .ok result) :
    (appId = "" → rawAssertion = "") ∧
      ((rawAssertion = "" ∧ result = none) ∨
        ∃ parsed, result = some parsed ∧ parseAppAssertion env (.str rawAssertion) = .ok parsed ∧
          parsed.get? "client_id" = some (.str claimed.clientId) ∧
          parsed.get? "app_id" = some (.str appId) ∧
          parsed.get? "nonce" = some (.str claimed.nonce) ∧
          parsed.get? "scopes" = some (.arr (claimed.scopes.map .str))) := by
  unfold attachedAssertion at attached
  split at attached
  · split at attached
    · rename_i blank
      exact ⟨fun _ => blank, .inl ⟨blank, (Except.ok.inj attached).symm⟩⟩
    · cases attached
  · rename_i named
    refine ⟨fun empty => absurd empty named, ?_⟩
    split at attached
    · rename_i blank
      split at attached
      · cases attached
      · exact .inl ⟨blank, (Except.ok.inj attached).symm⟩
    · obtain ⟨parsed, isParsed, attached⟩ := bind_ok attached
      obtain ⟨pairs, attached⟩ := require_bind attached
      simp only [Bool.and_eq_true] at pairs
      exact .inr ⟨parsed, (Except.ok.inj attached).symm, isParsed, get?_of_eqStr pairs.1.1.1,
        get?_of_eqStr pairs.1.1.2, get?_of_eqStr pairs.1.2,
        get?_of_field (Py.eqTexts_iff.mp pairs.2) (fun eq => nomatch eq)⟩

/-- An envelope that is sent as a header is compared as the object that it is. -/
theorem attachedAssertion_header {claimed : Claimed} {appId : String} (named : appId ≠ "")
    (fs : List (String × Json)) (requireAppAssertion : Bool) :
    attachedAssertion env claimed appId (envelopeHeader (.obj fs)) requireAppAssertion = (do
      let parsed ← parseAppAssertion env (Json.obj fs).canon
      require (Py.eqStr (field parsed "client_id") claimed.clientId &&
        Py.eqStr (field parsed "app_id") appId && Py.eqStr (field parsed "nonce") claimed.nonce &&
        Py.eqTexts (field parsed "scopes") claimed.scopes)
        "app assertion does not match the delegation"
      return some parsed) := by
  unfold attachedAssertion
  rw [if_neg named, if_neg (envelopeHeader_ne_empty _), parseAppAssertion_header]

/-- The claims of the headers are in normal form. -/
theorem Headers.claimed_ok {headers : Headers} {claimed : Claimed}
    (isClaimed : headers.claimed env = .ok claimed) :
    isClientId claimed.clientId = true ∧ isNonce claimed.nonce = true ∧
      AgentScopes claimed.scopes := by
  obtain ⟨clientId, isClient, rest⟩ := bind_ok isClaimed
  obtain ⟨scopes, isScopes, rest⟩ := bind_ok rest
  obtain ⟨nonce, isNonceText, rest⟩ := bind_ok rest
  split at rest
  · cases rest
  · rw [← Except.ok.inj rest]
    exact ⟨(parseClientId_ok_iff.mp isClient).2, (parseNonce_ok_iff.mp isNonceText).2,
      (validateAgentScopes_ok_iff.mp isScopes).1⟩

/-- What a verified identity vouches for: `payload` is the text that was signed for it. -/
structure Genuine (env : Env) (audience : String) (headers : Headers) (now maxAgeSeconds : Int)
    (hubSigned : String → Prop) (identity : DelegatedIdentity) (payload : String) : Prop where
  /-- The signed text is that of the identity's own members, and the Hub signed it. -/
  canonical : canonicalDelegation env audience (.str identity.clientId) identity.timestamp
    (.str identity.nonce) (.arr (identity.scopes.map .str)) (.str identity.appId) = .ok payload
  signed : hubSigned payload
  /-- It is in the form of version 4 exactly when there is an app id. -/
  version : if identity.appId = "" then "v3\n".toList <+: payload.toList
    else "v4\n".toList <+: payload.toList
  /-- Whatever else is signed with this text denotes the same delegation. -/
  only : ∀ {audience' : String} {clientId' nonce' scopes' appId' : Json} {timestamp' : Int},
    isAudience audience' = true →
    canonicalDelegation env audience' clientId' timestamp' nonce' scopes' appId' = .ok payload →
    audience' = audience ∧ parseClientId env clientId' = .ok identity.clientId ∧
      Py.strip (env.text appId') = identity.appId ∧ timestamp' = identity.timestamp ∧
      parseNonce env nonce' = .ok identity.nonce ∧
      validateAgentScopes env scopes' = .ok identity.scopes
  fresh : ((now - identity.timestamp).natAbs : Int) ≤ max 1 maxAgeSeconds
  /-- An assertion is about this identity. -/
  attached : ∀ parsed, identity.appAssertion = some parsed →
    parsed.get? "client_id" = some (.str identity.clientId) ∧
      parsed.get? "app_id" = some (.str identity.appId) ∧
      parsed.get? "nonce" = some (.str identity.nonce) ∧
      parsed.get? "scopes" = some (.arr (identity.scopes.map .str))
  /-- There is no assertion without an app id. -/
  unattached : headers.appId = "" → headers.rawAssertion = ""

/-- **A delegation cannot be forged, nor its members exchanged.**  The one hypothesis is
what the secret buys: the tag in the headers matches only what the Hub signed. -/
theorem delegation_unforgeable {hmac : String → String → String} {headers : Headers}
    {config : DelegationConfig} {now maxAgeSeconds : Int} {requireAppAssertion : Bool}
    {identity : DelegatedIdentity} {hubSigned : String → Prop}
    (unforged : ∀ payload, hmac config.hubDelegationSecret payload = headers.signature →
      hubSigned payload)
    (verified : verifyDelegationHeaders env hmac headers config.hubDelegationSecret
      config.hubAudience now maxAgeSeconds requireAppAssertion = .ok identity) :
    ∃ payload, Genuine env config.hubAudience headers now maxAgeSeconds hubSigned identity
      payload := by
  obtain ⟨claimed, payload, isClaimed, fresh, canonical, tagged, attached, is⟩ :=
    verifyDelegationHeaders_ok verified
  obtain ⟨client, nonce, scopes⟩ := Headers.claimed_ok isClaimed
  obtain ⟨d, isPayload, isAudience, isClient, isApp, isTimestamp, isNonce, isScopes⟩ :=
    canonicalDelegation_ok config.audience_ok canonical
  -- The members were normalised before, and stay as they are.
  have clientId : d.clientId = claimed.clientId := by
    rw [(parseClientId_ok_iff.mp isClient).1, text_str, strip_of_plain (plain_of_isClientId client)]
  have nonceIs : d.nonce = claimed.nonce := by
    rw [(parseNonce_ok_iff.mp isNonce).1, text_str, strip_of_plain (plain_of_isNonce nonce)]
  have scopesAre : d.scopes = claimed.scopes :=
    (Except.ok.inj ((validateAgentScopes_of_valid scopes).symm.trans isScopes)).symm
  have appId : d.appId = headers.appId := by
    rw [← isApp, text_str, Headers.appId, Py.strip_strip]
  have pairs := attachedAssertion_ok attached
  rw [is]
  refine ⟨payload, ⟨canonical, unforged payload tagged, ?_, ?_, fresh, ?_, pairs.1⟩⟩
  · rw [← isPayload, Delegation.payload_toList, appId]
    dsimp only
    split
    · exact ⟨_, rfl⟩
    · exact ⟨_, rfl⟩
  · intro audience' clientId' nonce' scopes' appId' timestamp' configured other
    obtain ⟨d', isPayload', isAudience', isClient', isApp', isTimestamp', isNonce', isScopes'⟩ :=
      canonicalDelegation_ok configured other
    obtain rfl := Delegation.payload_inj (isPayload'.trans isPayload.symm)
    exact ⟨isAudience'.symm.trans isAudience, clientId ▸ isClient', isApp'.trans appId,
      isTimestamp'.symm.trans isTimestamp, nonceIs ▸ isNonce', scopesAre ▸ isScopes'⟩
  · intro parsed isSome
    rcases pairs.2 with ⟨_, isNone⟩ | ⟨parsed', isSome', _, pairs⟩
    · cases isNone.symm.trans isSome
    · obtain rfl := Option.some.inj (isSome'.symm.trans isSome)
      exact pairs

namespace Sample

def delegationConfig : DelegationConfig where
  hubDelegationSecret := "mQ4vZ8kT1xW6pR3nY7bC2dF5gH9jL0sA"
  hubAudience := "remote-agent-connector"
  requireSignedAppAssertion := true
  audience_ok := by decide

/-- An assertion for the command, by its app id, its scopes and its signature. -/
def members (appId scopes : Json) (signature : String) : List (String × Json) :=
  [("schema_version", .str "business-mcp-remote-agent-app-assertion-v2"),
    ("issuer", .str "business-mcp-hub"), ("audience", .str "remote-agent-device"),
    ("key_id", .str "hub-key-1"), ("client_id", .str "hub-client"), ("app_id", appId),
    ("connector_id", .str "pc-1"), ("scopes", scopes), ("issued_at", .int 1767225600),
    ("expires_at", .int 1767225900), ("nonce", .str "Zb7Qk2Xc9Vn4Lm1Pa6Rt"),
    ("request_id", .str signedId), ("assertion_id", .str "c7d1e8f2-3b4a-4c6d-9e5f-a1b2c3d4e5f6"),
    ("signature", .str signature)]

/-- The signature of the assertion with the scope `agent:terminal`. -/
def oneScopeSignature : String :=
  "bp9Xu4_wtoV9-rakg5wsJOsGhlXChczvwe20JmKdDwcVS2ipeliFHCXuoN3aoKB2aazjtqxofRGgBP_5wv2RAQ"

/-- The signature of the assertion with the scopes `agent:terminal` and `agent:read`, in
this order. -/
def twoScopesSignature : String :=
  "VtMGjxA47K2i_Ox57FJ0vRDed6IyGjC5CStA6mM0K82QcYYlmB7yCWkXmF3seWtRNMNM8RVUWp6mlfzZwZABAQ"

def oneScope : List (String × Json) :=
  members (.str "app-1") (.arr [.str "agent:terminal"]) oneScopeSignature

def twoScopes : List (String × Json) :=
  members (.str "app-1") (.arr [.str "agent:terminal", .str "agent:read"]) twoScopesSignature

/-- The key with which the Hub signs assertions. -/
def signingKey : String := "5_FioQvsVZr-oZXk3OhLaVaNXSywlj60RsBoXisX8vA"

/-- The sample environment, where the Hub has signed these two assertions and where
decimal texts are read as `int` reads them. -/
def delegationEnv : Env :=
  { Sample.env with
    ed25519 := fun key payload signature =>
      if key = signingKey then
        decide (signature = oneScopeSignature ∧
            payload = canonicalJsonBytes ((Json.obj oneScope).without "signature") ∨
          signature = twoScopesSignature ∧
            payload = canonicalJsonBytes ((Json.obj twoScopes).without "signature"))
      else true
    intOfText := fun text =>
      (scanInt text.toList).bind fun read => if read.2 = [] then some (intValue read.1) else none }

/-- The Hub's key verifies the two assertions, as values, and nothing else. -/
theorem delegationEnv_verifies {value : Json} {signature : String}
    (stripped : Py.strip signature = signature) :
    verifyEd25519 delegationEnv (.str signingKey) (canonicalJsonBytes value) (.str signature) =
        true ↔
      signature = oneScopeSignature ∧ Json.Same value ((Json.obj oneScope).without "signature") ∨
      signature = twoScopesSignature ∧
        Json.Same value ((Json.obj twoScopes).without "signature") := by
  have isKey : Py.strip signingKey = signingKey := by decide +kernel
  have checks (key payload : String) : delegationEnv.ed25519 key payload signature =
      if key = signingKey then
        decide (signature = oneScopeSignature ∧
            payload = canonicalJsonBytes ((Json.obj oneScope).without "signature") ∨
          signature = twoScopesSignature ∧
            payload = canonicalJsonBytes ((Json.obj twoScopes).without "signature"))
      else true := rfl
  unfold verifyEd25519
  rw [text_str, text_str, isKey, stripped, checks, if_pos rfl, decide_eq_true_iff,
    canonicalJsonBytes_inj, canonicalJsonBytes_inj]

/-- The delegations that the Hub signs, with their tags. -/
def delegations : List (String × String) :=
  [("v4\nremote-agent-connector\nhub-client\napp-1\n1767225610\nZb7Qk2Xc9Vn4Lm1Pa6Rt\n" ++
      "agent:terminal", "b114de7ae59b5b7b1e6d5ed59d4541aec85f21e5ed34b3f700b14e215ac5c28a"),
    ("v4\nremote-agent-connector\nhub-client\napp-1\n1767225610\nZb7Qk2Xc9Vn4Lm1Pa6Rt\n" ++
      "agent:read,agent:terminal",
      "dcd501ba8971dd1e6d23b5e3db78dd852c422179234bd819e3133a2df584c0e1")]

/-- HMAC-SHA256 on these texts; no other text is signed below. -/
def hmac (_ payload : String) : String := (delegations.lookup payload).getD ""

/-- The headers under which an assertion is sent. -/
def delegationHeaders (scopes tag assertion : String) : Headers := fun name =>
  [("x-mcp-hub-client-id", "hub-client"), ("x-mcp-hub-client-scopes", scopes),
    ("x-mcp-hub-client-nonce", "Zb7Qk2Xc9Vn4Lm1Pa6Rt"),
    ("x-mcp-hub-client-timestamp", "1767225610"), ("x-mcp-hub-client-signature", tag),
    ("x-mcp-hub-app-id", "app-1"), ("x-mcp-hub-app-assertion", assertion)].lookup name

def oneScopeHeaders : Headers :=
  delegationHeaders "agent:terminal"
    "b114de7ae59b5b7b1e6d5ed59d4541aec85f21e5ed34b3f700b14e215ac5c28a"
    (envelopeHeader (.obj oneScope))

def twoScopesHeaders : Headers :=
  delegationHeaders "agent:terminal,agent:read"
    "dcd501ba8971dd1e6d23b5e3db78dd852c422179234bd819e3133a2df584c0e1"
    (envelopeHeader (.obj twoScopes))

theorem appId_delegationHeaders (scopes tag assertion : String) :
    (delegationHeaders scopes tag assertion).appId = "app-1" :=
  show Py.strip "app-1" = "app-1" by decide +kernel

theorem rawAssertion_delegationHeaders (scopes tag : String) (fs : List (String × Json)) :
    (delegationHeaders scopes tag (envelopeHeader (.obj fs))).rawAssertion =
      envelopeHeader (.obj fs) :=
  strip_envelopeHeader (.obj fs)

/-- The check of headers, two seconds after they were signed. -/
def verifyHeaders (headers : Headers) : Except Rejection DelegatedIdentity :=
  verifyDelegationHeaders delegationEnv hmac headers delegationConfig.hubDelegationSecret
    delegationConfig.hubAudience 1767225612 90 true

/-- The headers prove the identity of the client and the app. -/
theorem oneScope_verified :
    ∃ identity, verifyHeaders oneScopeHeaders = .ok identity ∧
      identity.clientId = "hub-client" ∧ identity.appId = "app-1" ∧
      identity.appAssertion.isSome = true := by
  have accepted : (verifyHeaders oneScopeHeaders).toOption.any (fun identity =>
      decide (identity.clientId = "hub-client" ∧ identity.appId = "app-1" ∧
        identity.appAssertion.isSome = true)) = true := by
    unfold verifyHeaders oneScopeHeaders
    rw [verifyDelegationHeaders, rawAssertion_delegationHeaders, appId_delegationHeaders]
    simp only [attachedAssertion_header (show "app-1" ≠ "" by decide)]
    decide +kernel
  obtain ⟨identity, verified, holds⟩ := exists_ok_of_any accepted
  exact ⟨identity, verified, of_decide_eq_true holds⟩

end Sample

/-- The headers of the sample. -/
theorem delegation_unforgeable_signed :
    ∃ identity payload, identity.appAssertion.isSome = true ∧
      Genuine Sample.delegationEnv "remote-agent-connector" Sample.oneScopeHeaders 1767225612 90
        (· ∈ Sample.delegations.map Prod.fst) identity payload := by
  obtain ⟨identity, verified, _, _, attached⟩ := Sample.oneScope_verified
  have unforged : ∀ payload, Sample.hmac Sample.delegationConfig.hubDelegationSecret payload =
      Sample.oneScopeHeaders.signature → payload ∈ Sample.delegations.map Prod.fst := by
    intro payload tagged
    unfold Sample.hmac at tagged
    cases found : Sample.delegations.lookup payload with
    | some tag =>
        obtain ⟨before, after, is, _⟩ := List.lookup_eq_some_iff.mp found
        rw [is]
        exact List.mem_map.mpr ⟨_, List.mem_append_right _ List.mem_cons_self, rfl⟩
    | none =>
        rw [found] at tagged
        exact absurd tagged (by decide +kernel)
  obtain ⟨payload, genuine⟩ := delegation_unforgeable unforged verified
  exact ⟨identity, payload, attached, genuine⟩

end RemoteAgent
