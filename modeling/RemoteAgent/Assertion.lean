import Mathlib.Data.List.Dedup
import RemoteAgent.Dispatcher

/-!
# Signed app assertions (`protocol.py`)

The strict parser of a Hub-signed app assertion and the parsers of its members.  It
takes the envelope as the object of a relay frame or as the base64url text of a header,
and what it returns is a copy: the app id stripped, the scopes sorted without
duplicates.

* `parseAppAssertion_ok` says what the parser has checked and what it returns.
* `Parsed.same_iff`: the copy is the envelope itself exactly when the envelope is in
  `NormalForm`.
-/

open Wire

namespace RemoteAgent

open Dispatcher (field)

/-! ## Constants -/

def appAssertionSchemaVersion : String := "business-mcp-remote-agent-app-assertion-v2"
def appAssertionIssuer : String := "business-mcp-hub"
def appAssertionAudience : String := "remote-agent-device"
def appAssertionHeader : String := "x-mcp-hub-app-assertion"
def appAssertionMaxTtlSeconds : Int := 300

/-- `ASSERTION_FIELDS`. -/
def assertionFields : List String :=
  ["schema_version", "issuer", "audience", "key_id", "client_id", "app_id", "connector_id",
    "scopes", "issued_at", "expires_at", "nonce", "request_id", "assertion_id", "signature"]

/-- `AGENT_SCOPES`. -/
def agentScopes : List String :=
  ["agent:read", "agent:write", "agent:terminal", "agent:ssh", "agent:skills", "agent:mcp",
    "agent:control"]

/-! ## Patterns -/

/-- `[A-Za-z0-9]` and then at most `limit` characters of a class. -/
def isName (tail : Char → Bool) (limit : Nat) (s : String) : Bool :=
  match s.toList with
  | a :: rest => Py.isAlnumAscii a && decide (rest.length ≤ limit) && rest.all tail
  | [] => false

/-- `CLIENT_ID_PATTERN.fullmatch`. -/
def isClientId : String → Bool := isName (isIdChar true) 47

/-- `APP_ID_PATTERN.fullmatch`. -/
def isAppId : String → Bool := isName (isIdChar true) 63

/-- `SCOPE_PATTERN.fullmatch`. -/
def isScope : String → Bool :=
  isName (fun c => Py.isAlnumAscii c || [':', '.', '_', '*', '-'].contains c) 63

/-- `_AUDIENCE_PATTERN.fullmatch`, of the configuration. -/
def isAudience : String → Bool :=
  isName (fun c => Py.isAlnumAscii c || [':', '.', '_', '-'].contains c) 95

/-- `KEY_ID_PATTERN.fullmatch`. -/
def isKeyId (s : String) : Bool :=
  match s.toList with
  | a :: rest => Py.isLowerAscii a && decide (rest.length ≤ 63) && rest.all (isIdChar false)
  | [] => false

/-- `NONCE_PATTERN.fullmatch`. -/
def isNonce (s : String) : Bool :=
  decide (20 ≤ s.length ∧ s.length ≤ 128) &&
    s.toList.all fun c => Py.isAlnumAscii c || c == '_' || c == '-'

/-! ## Errors -/

/-- What the parsers raise: a `ProtocolError` with its text, or an exception that no
`except` clause of theirs names. -/
inductive Rejection where
  | protocol (message : String)
  | escape
deriving DecidableEq

/-- Raise a `ProtocolError` unless a check holds. -/
def require (holds : Bool) (message : String) : Except Rejection Unit :=
  if holds then .ok () else .error (.protocol message)

/-- The text of the `ProtocolError` that a parser raises. -/
def naming {α : Type} (message : String) : Except Exc α → Except Rejection α
  | .ok a => .ok a
  | .error .escape => .error .escape
  | .error _ => .error (.protocol message)

theorem naming_ok_iff {α : Type} {message : String} {r : Except Exc α} {a : α} :
    naming message r = .ok a ↔ r = .ok a := by
  cases r with
  | ok b => simp only [naming, Except.ok.injEq]
  | error e => cases e <;> simp only [naming, reduceCtorEq]

/-- What a check lets through has passed the check and goes on. -/
theorem require_bind {α : Type} {holds : Bool} {message : String}
    {next : Unit → Except Rejection α} {a : α} (passed : (require holds message >>= next) = .ok a) :
    holds = true ∧ next () = .ok a := by
  cases holds with
  | true => exact ⟨rfl, passed⟩
  | false => cases passed

/-- What a parser lets through goes on with what was parsed. -/
theorem bind_ok {ε α β : Type} {first : Except ε α} {next : α → Except ε β} {b : β}
    (passed : (first >>= next) = .ok b) : ∃ a, first = .ok a ∧ next a = .ok b := by
  cases first with
  | ok a => exact ⟨a, rfl, passed⟩
  | error e => cases passed

/-- An evaluation that ends well ends with some value. -/
theorem exists_ok_of_any {ε α : Type} {result : Except ε α} {P : α → Bool}
    (holds : result.toOption.any P = true) : ∃ a, result = .ok a ∧ P a = true := by
  cases result with
  | ok a => exact ⟨a, rfl, holds⟩
  | error e => cases holds

section Parsers

variable (env : Env)

/-! ## Parsers of members -/

def parseClientId (value : Json) : Except Rejection String :=
  naming "client id is invalid" (parsePattern env Py.strip isClientId value)

def parseNonce (value : Json) : Except Rejection String :=
  naming "delegation nonce is invalid" (parsePattern env Py.strip isNonce value)

/-- The scopes of a value before they are normalised: a text between its commas, the
elements of a list, the keys of a dictionary.  `none` stands for the `TypeError`. -/
def rawScopes : Json → Option (List Json)
  | .str s => some ((Py.split ',' s).map .str)
  | .arr xs => some xs
  | .obj fs => some (fs.map fun m => .str m.1)
  | other => if Py.truthy env.floats other then none else some []

/-- `sorted({str(scope or "").strip() for scope in raw if …})`. -/
def sortedScopes (raw : List Json) : List String :=
  ((raw.map fun scope => Py.strip (env.text scope)).filter (· ≠ "")).dedup.insertionSort (· ≤ ·)

def normalizeScopes (value : Json) : Except Rejection (List String) :=
  match rawScopes env value with
  | none => .error .escape
  | some raw =>
      let scopes := sortedScopes env raw
      if scopes.isEmpty || scopes.any (fun s => !isScope s) then
        .error (.protocol "delegated scopes are invalid")
      else .ok scopes

def validateAgentScopes (value : Json) : Except Rejection (List String) := do
  let scopes ← normalizeScopes env value
  require (scopes.all agentScopes.contains) "delegated agent scopes are invalid"
  return scopes

/-- `_b64decode`. -/
def b64decode (value : Json) (name : String) (expectedLength : Nat) :
    Except Rejection (List Nat) :=
  match Py.urlsafeB64decode (Py.strip (env.text value)) with
  | none => .error (.protocol (name ++ " is not base64url"))
  | some raw =>
      if raw.length = expectedLength then .ok raw
      else .error (.protocol (name ++ " has an invalid length"))

def parsePublicKey (value : Json) : Except Rejection (List Nat) :=
  b64decode env value "public_key" 32

def parseSignature (value : Json) : Except Rejection (List Nat) :=
  b64decode env value "signature" 64

/-- `_assertion_int`; a boolean is not taken for an integer. -/
def assertionInt (value : Json) (name : String) : Except Rejection Int :=
  match value with
  | .int i => .ok i
  | _ => .error (.protocol ("app assertion " ++ name ++ " is invalid"))

/-! ## The envelope -/

/-- `canonical_json_bytes`. -/
def canonicalJsonBytes (value : Json) : String := value.dumps ++ "\n"

/-- The object that is presented: itself, or what the text of a header encodes. -/
def decodeEnvelope (value : Json) : Except Rejection Json :=
  match value with
  | .obj fs => .ok (.obj fs)
  | value =>
      let encoded := Py.strip (env.text value)
      if encoded = "" then .error (.protocol "app assertion is missing")
      else
        match ((Py.urlsafeB64decode encoded).bind Py.decodeUtf8).bind Json.loads with
        | some decoded => .ok decoded
        | none => .error (.protocol "app assertion is not valid JSON")

/-- `isinstance(value, dict) and set(value) == fields`. -/
def hasFields (fields : List String) (value : Json) : Bool :=
  match value with
  | .obj fs =>
      (fs.map Prod.fst).all fields.contains && fields.all (fs.map Prod.fst).contains
  | _ => false

/-- `parse_app_assertion`. -/
def parseAppAssertion (value : Json) : Except Rejection Json := do
  let decoded ← decodeEnvelope env value
  require (hasFields assertionFields decoded) "app assertion fields are invalid"
  require (Py.eqStr (field decoded "schema_version") appAssertionSchemaVersion)
    "app assertion schema is unsupported"
  require (Py.eqStr (field decoded "issuer") appAssertionIssuer)
    "app assertion issuer is invalid"
  require (Py.eqStr (field decoded "audience") appAssertionAudience)
    "app assertion audience is invalid"
  require (isKeyId (Py.str env.floats env.container (field decoded "key_id")))
    "app assertion key id is invalid"
  let _ ← parseClientId env (field decoded "client_id")
  let appId := Py.strip (env.text (field decoded "app_id"))
  require (isAppId appId) "app assertion app id is invalid"
  let _ ← naming "connector_id is invalid" (parseConnectorId env (field decoded "connector_id"))
  let scopes ← validateAgentScopes env (field decoded "scopes")
  let issuedAt ← assertionInt (field decoded "issued_at") "issued_at"
  let expiresAt ← assertionInt (field decoded "expires_at") "expires_at"
  require (decide (issuedAt < expiresAt)) "app assertion expiry is invalid"
  require (decide (expiresAt - issuedAt ≤ appAssertionMaxTtlSeconds))
    "app assertion lifetime is too long"
  let _ ← parseNonce env (field decoded "nonce")
  let _ ← naming "request_id must be a UUID" (parseUuid env (field decoded "request_id"))
  let _ ← naming "assertion_id must be a UUID" (parseUuid env (field decoded "assertion_id"))
  let _ ← parseSignature env (field decoded "signature")
  return (decoded.set "app_id" (.str appId)).set "scopes" (.arr (scopes.map .str))

end Parsers

variable {env : Env}

/-! ## Plain characters -/

/-- Neither blank nor a comma. -/
def Plain (c : Char) : Prop := Py.isSpace c = false ∧ c ≠ ','

theorem plain_of_alnum {c : Char} (alnum : Py.isAlnumAscii c = true) : Plain c := by
  have bounds : 97 ≤ c.toNat ∧ c.toNat ≤ 122 ∨ 65 ≤ c.toNat ∧ c.toNat ≤ 90 ∨
      48 ≤ c.toNat ∧ c.toNat ≤ 57 := of_decide_eq_true alnum
  constructor
  · simp only [Py.isSpace, Bool.or_eq_false_iff, Bool.and_eq_false_iff,
      decide_eq_false_iff_not, beq_eq_false_iff_ne, ne_eq]
    omega
  · intro comma
    rw [comma, show ','.toNat = 44 from rfl] at bounds
    omega

theorem plain_of_isName {tail : Char → Bool} {limit : Nat}
    (plain : ∀ c, tail c = true → Plain c) {s : String} (name : isName tail limit s = true) :
    ∀ c ∈ s.toList, Plain c := by
  unfold isName at name
  split at name
  · rename_i a rest chars
    simp only [Bool.and_eq_true, List.all_eq_true] at name
    intro c mem
    rw [chars] at mem
    rcases List.mem_cons.mp mem with rfl | mem
    · exact plain_of_alnum name.1.1
    · exact plain c (name.2 c mem)
  · cases name

theorem plain_of_isIdChar {c : Char} (inClass : isIdChar true c = true) : Plain c := by
  simp only [isIdChar, ↓reduceIte, Bool.or_eq_true, beq_iff_eq] at inClass
  rcases inClass with ((rfl | rfl) | rfl) | alnum
  · exact ⟨rfl, by decide⟩
  · exact ⟨rfl, by decide⟩
  · exact ⟨rfl, by decide⟩
  · exact plain_of_alnum alnum

theorem plain_of_isClientId {s : String} (matched : isClientId s = true) :
    ∀ c ∈ s.toList, Plain c :=
  plain_of_isName (fun _ => plain_of_isIdChar) matched

theorem plain_of_isScope {s : String} (matched : isScope s = true) : ∀ c ∈ s.toList, Plain c := by
  refine plain_of_isName (fun c inClass => ?_) matched
  rcases (Bool.or_eq_true _ _).mp inClass with alnum | mark
  · exact plain_of_alnum alnum
  · have marks : [':', '.', '_', '*', '-'].all
        (fun m => decide (Py.isSpace m = false ∧ m ≠ ',')) = true := by decide
    have held := List.all_eq_true.mp marks c (List.contains_iff_mem.mp mark)
    exact of_decide_eq_true (p := Py.isSpace c = false ∧ c ≠ ',') held

theorem plain_of_isAudience {s : String} (matched : isAudience s = true) :
    ∀ c ∈ s.toList, Plain c := by
  refine plain_of_isName (fun c inClass => ?_) matched
  rcases (Bool.or_eq_true _ _).mp inClass with alnum | mark
  · exact plain_of_alnum alnum
  · have marks : [':', '.', '_', '-'].all
        (fun m => decide (Py.isSpace m = false ∧ m ≠ ',')) = true := by decide
    have held := List.all_eq_true.mp marks c (List.contains_iff_mem.mp mark)
    exact of_decide_eq_true (p := Py.isSpace c = false ∧ c ≠ ',') held

theorem plain_of_isNonce {s : String} (matched : isNonce s = true) : ∀ c ∈ s.toList, Plain c := by
  simp only [isNonce, Bool.and_eq_true, List.all_eq_true, Bool.or_eq_true, beq_iff_eq] at matched
  intro c mem
  rcases matched.2 c mem with (alnum | rfl) | rfl
  · exact plain_of_alnum alnum
  · exact ⟨rfl, by decide⟩
  · exact ⟨rfl, by decide⟩

/-- A text of plain characters is stripped already. -/
theorem strip_of_plain {s : String} (plain : ∀ c ∈ s.toList, Plain c) : Py.strip s = s :=
  Py.strip_of_clean fun c mem => (plain c mem).1

/-! ## Normalised members -/

/-- Ascending, without duplicates, and every scope a stripped text. -/
structure NormalScopes (scopes : List String) : Prop where
  ascending : scopes.Pairwise (· < ·)
  stripped : ∀ s ∈ scopes, s ≠ "" ∧ Py.strip s = s

theorem sortedScopes_normal (raw : List Json) : NormalScopes (sortedScopes env raw) := by
  unfold sortedScopes
  constructor
  · have sorted := List.pairwise_insertionSort (α := String) (· ≤ ·)
      ((raw.map fun scope => Py.strip (env.text scope)).filter (· ≠ "")).dedup
    have distinct := (List.perm_insertionSort (α := String) (· ≤ ·) _).nodup_iff.mpr
      (List.nodup_dedup ((raw.map fun scope => Py.strip (env.text scope)).filter (· ≠ "")))
    exact (sorted.and distinct).imp fun both => lt_of_le_of_ne both.1 both.2
  · intro s mem
    rw [List.mem_insertionSort, List.mem_dedup, List.mem_filter, List.mem_map] at mem
    obtain ⟨⟨scope, _, rfl⟩, nonempty⟩ := mem
    exact ⟨of_decide_eq_true nonempty, Py.strip_strip _⟩

/-- Scopes in normal form are normalised already. -/
theorem sortedScopes_of_normal {scopes : List String} (normal : NormalScopes scopes) :
    sortedScopes env (scopes.map .str) = scopes := by
  have same : (scopes.map Json.str).map (fun scope => Py.strip (env.text scope)) = scopes := by
    rw [List.map_map]
    refine (List.map_congr_left fun s mem => ?_).trans (List.map_id scopes)
    rw [Function.comp_apply, text_str, (normal.stripped s mem).2, id]
  unfold sortedScopes
  rw [same, List.filter_eq_self.mpr fun s mem => decide_eq_true (normal.stripped s mem).1,
    List.Nodup.dedup (normal.ascending.imp fun below => ne_of_lt below),
    List.Pairwise.insertionSort_eq (normal.ascending.imp fun below => le_of_lt below)]

/-- What the scopes of an agent call are, once validated. -/
structure AgentScopes (scopes : List String) : Prop extends NormalScopes scopes where
  nonempty : scopes ≠ []
  named : ∀ s ∈ scopes, isScope s = true
  known : ∀ s ∈ scopes, s ∈ agentScopes

theorem validateAgentScopes_ok_iff {value : Json} {scopes : List String} :
    validateAgentScopes env value = .ok scopes ↔
      AgentScopes scopes ∧ ∃ raw, rawScopes env value = some raw ∧ scopes = sortedScopes env raw := by
  constructor
  · intro validated
    obtain ⟨normalized, isOk, validated⟩ := bind_ok validated
    obtain ⟨known, validated⟩ := require_bind validated
    obtain rfl : normalized = scopes := Except.ok.inj validated
    unfold normalizeScopes at isOk
    split at isOk
    · cases isOk
    · rename_i raw rawEq
      dsimp only at isOk
      split at isOk
      · cases isOk
      · rename_i passed
        obtain rfl : sortedScopes env raw = normalized := Except.ok.inj isOk
        simp only [Bool.or_eq_true, List.isEmpty_iff, List.any_eq_true, Bool.not_eq_true',
          not_or, not_exists, not_and, Bool.not_eq_false] at passed
        exact ⟨⟨sortedScopes_normal raw, passed.1, passed.2,
          fun s mem => List.contains_iff_mem.mp (List.all_eq_true.mp known s mem)⟩,
          raw, rawEq, rfl⟩
  · rintro ⟨valid, raw, rawEq, rfl⟩
    have named : ¬ ((sortedScopes env raw).isEmpty ||
        (sortedScopes env raw).any fun s => !isScope s) = true := by
      simp only [Bool.or_eq_true, List.isEmpty_iff, List.any_eq_true, Bool.not_eq_true',
        not_or, not_exists, not_and, Bool.not_eq_false]
      exact ⟨valid.nonempty, valid.named⟩
    have known : (sortedScopes env raw).all agentScopes.contains = true :=
      List.all_eq_true.mpr fun s mem => List.contains_iff_mem.mpr (valid.known s mem)
    have normalized : normalizeScopes env value = .ok (sortedScopes env raw) := by
      unfold normalizeScopes
      rw [rawEq]
      exact if_neg named
    unfold validateAgentScopes
    rw [normalized]
    show (require _ _ >>= _) = _
    rw [known]
    rfl

/-- Validated scopes are validated as they are. -/
theorem validateAgentScopes_of_valid {scopes : List String} (valid : AgentScopes scopes) :
    validateAgentScopes env (.arr (scopes.map .str)) = .ok scopes :=
  validateAgentScopes_ok_iff.mpr
    ⟨valid, _, rfl, (sortedScopes_of_normal valid.toNormalScopes).symm⟩

/-! ## The envelope as a header -/

/-- The header in which an envelope is sent: `b64url_encode(canonical_json_bytes(…))`. -/
def envelopeHeader (envelope : Json) : String :=
  Py.b64urlEncode (Py.encodeUtf8 (canonicalJsonBytes envelope))

theorem canonicalJsonBytes_inj {a b : Json} :
    canonicalJsonBytes a = canonicalJsonBytes b ↔ Json.Same a b := by
  unfold canonicalJsonBytes
  rw [String.append_left_inj, Json.dumps_eq_iff]

theorem strip_envelopeHeader (envelope : Json) :
    Py.strip (envelopeHeader envelope) = envelopeHeader envelope :=
  Py.strip_b64urlEncode (Py.encodeUtf8_lt _)

theorem read_envelopeHeader (envelope : Json) :
    ((Py.urlsafeB64decode (envelopeHeader envelope)).bind Py.decodeUtf8).bind Json.loads =
      some envelope.canon := by
  unfold envelopeHeader
  rw [Py.urlsafeB64decode_b64urlEncode (Py.encodeUtf8_lt _), Option.bind_some,
    Py.decodeUtf8_encodeUtf8, Option.bind_some]
  exact Json.loads_dumps_newline envelope

theorem envelopeHeader_ne_empty (envelope : Json) : envelopeHeader envelope ≠ "" := by
  intro empty
  have read := read_envelopeHeader envelope
  rw [empty] at read
  cases read

/-- **An envelope sent as a header is the object that is decoded.** -/
theorem decodeEnvelope_header (envelope : Json) :
    decodeEnvelope env (.str (envelopeHeader envelope)) = .ok envelope.canon := by
  have read := read_envelopeHeader envelope
  simp only [decodeEnvelope, text_str]
  rw [strip_envelopeHeader, if_neg (envelopeHeader_ne_empty envelope), read]

/-- The header of an object and the object are parsed alike. -/
theorem parseAppAssertion_header (fs : List (String × Json)) :
    parseAppAssertion env (.str (envelopeHeader (.obj fs))) =
      parseAppAssertion env (Json.obj fs).canon := by
  have decodes : decodeEnvelope env (.str (envelopeHeader (.obj fs))) =
      decodeEnvelope env (Json.obj fs).canon := decodeEnvelope_header (.obj fs)
  unfold parseAppAssertion
  rw [decodes]

/-! ## What the parser accepts -/

/-- What the parser returns for an object: its app id stripped, its scopes normalised. -/
def normalCopy (env : Env) (decoded : Json) (scopes : List String) : Json :=
  (decoded.set "app_id" (.str (Py.strip (env.text (field decoded "app_id"))))).set "scopes"
    (.arr (scopes.map .str))

/-- What the parser has checked of an object, with the values it read. -/
structure Parsed (env : Env) (decoded : Json) (scopes : List String)
    (issued expires : Int) : Prop where
  fields : hasFields assertionFields decoded = true
  schemaVersion : decoded.get? "schema_version" = some (.str appAssertionSchemaVersion)
  issuer : decoded.get? "issuer" = some (.str appAssertionIssuer)
  audience : decoded.get? "audience" = some (.str appAssertionAudience)
  keyId : isKeyId (Py.str env.floats env.container (field decoded "key_id")) = true
  clientId : isClientId (Py.strip (env.text (field decoded "client_id"))) = true
  appId : isAppId (Py.strip (env.text (field decoded "app_id"))) = true
  connectorId : ∃ id, parseConnectorId env (field decoded "connector_id") = .ok id
  validated : validateAgentScopes env (field decoded "scopes") = .ok scopes
  issuedAt : decoded.get? "issued_at" = some (.int issued)
  expiresAt : decoded.get? "expires_at" = some (.int expires)
  lasting : issued < expires
  brief : expires - issued ≤ appAssertionMaxTtlSeconds
  nonce : isNonce (Py.strip (env.text (field decoded "nonce"))) = true
  requestId : ∃ id, parseUuid env (field decoded "request_id") = .ok id
  assertionId : ∃ id, parseUuid env (field decoded "assertion_id") = .ok id
  signature : ∃ raw, parseSignature env (field decoded "signature") = .ok raw

/-- A member that reads as something other than `None` is there. -/
theorem get?_of_field {j v : Json} {name : String} (reads : field j name = v)
    (present : v ≠ .null) : j.get? name = some v := by
  unfold Dispatcher.field at reads
  cases found : j.get? name with
  | none => rw [found] at reads; exact absurd reads.symm present
  | some w => rw [found] at reads; exact congrArg some reads

theorem get?_of_eqStr {j : Json} {name text : String}
    (reads : Py.eqStr (field j name) text = true) : j.get? name = some (.str text) :=
  get?_of_field (Py.eqStr_iff.mp reads) (fun eq => nomatch eq)

theorem assertionInt_ok {j : Json} {member name : String} {i : Int}
    (read : assertionInt (field j member) name = .ok i) : j.get? member = some (.int i) := by
  unfold assertionInt at read
  split at read
  · rename_i i' reads
    rw [Except.ok.inj read] at reads
    exact get?_of_field reads (fun eq => nomatch eq)
  · cases read

/-- **What the parser accepts, and what it answers.** -/
theorem parseAppAssertion_ok {value parsed : Json}
    (accepted : parseAppAssertion env value = .ok parsed) :
    ∃ decoded scopes issued expires, decodeEnvelope env value = .ok decoded ∧
      Parsed env decoded scopes issued expires ∧ parsed = normalCopy env decoded scopes := by
  obtain ⟨decoded, decodes, accepted⟩ := bind_ok accepted
  obtain ⟨fields, accepted⟩ := require_bind accepted
  obtain ⟨schemaVersion, accepted⟩ := require_bind accepted
  obtain ⟨issuer, accepted⟩ := require_bind accepted
  obtain ⟨audience, accepted⟩ := require_bind accepted
  obtain ⟨keyId, accepted⟩ := require_bind accepted
  obtain ⟨clientId, isClient, accepted⟩ := bind_ok accepted
  obtain ⟨appId, accepted⟩ := require_bind accepted
  obtain ⟨connectorId, isConnector, accepted⟩ := bind_ok accepted
  obtain ⟨scopes, isScopes, accepted⟩ := bind_ok accepted
  obtain ⟨issued, isIssued, accepted⟩ := bind_ok accepted
  obtain ⟨expires, isExpires, accepted⟩ := bind_ok accepted
  obtain ⟨lasting, accepted⟩ := require_bind accepted
  obtain ⟨brief, accepted⟩ := require_bind accepted
  obtain ⟨nonce, isNonceText, accepted⟩ := bind_ok accepted
  obtain ⟨requestId, isRequest, accepted⟩ := bind_ok accepted
  obtain ⟨assertionId, isAssertion, accepted⟩ := bind_ok accepted
  obtain ⟨raw, isSignature, accepted⟩ := bind_ok accepted
  obtain ⟨clientIs, client⟩ := parsePattern_ok_iff.mp (naming_ok_iff.mp isClient)
  obtain ⟨nonceIs, nonceOk⟩ := parsePattern_ok_iff.mp (naming_ok_iff.mp isNonceText)
  exact ⟨decoded, scopes, issued, expires, decodes, {
    fields := fields
    schemaVersion := get?_of_eqStr schemaVersion
    issuer := get?_of_eqStr issuer
    audience := get?_of_eqStr audience
    keyId := keyId
    clientId := clientIs ▸ client
    appId := appId
    connectorId := ⟨connectorId, naming_ok_iff.mp isConnector⟩
    validated := isScopes
    issuedAt := assertionInt_ok isIssued
    expiresAt := assertionInt_ok isExpires
    lasting := of_decide_eq_true lasting
    brief := of_decide_eq_true brief
    nonce := nonceIs ▸ nonceOk
    requestId := ⟨requestId, naming_ok_iff.mp isRequest⟩
    assertionId := ⟨assertionId, naming_ok_iff.mp isAssertion⟩
    signature := ⟨raw, isSignature⟩ }, (Except.ok.inj accepted).symm⟩

/-- What has the fields is an object. -/
theorem exists_of_hasFields {fields : List String} {j : Json}
    (has : hasFields fields j = true) : ∃ fs, j = .obj fs := by
  cases j with
  | obj fs => exact ⟨fs, rfl⟩
  | _ => cases has

/-- A named field of an object that has the fields can be read. -/
theorem get?_of_hasFields {fields : List String} {j : Json} (has : hasFields fields j = true)
    {name : String} (named : name ∈ fields) : j.get? name = some (field j name) := by
  obtain ⟨fs, rfl⟩ := exists_of_hasFields has
  have listed := List.all_eq_true.mp ((Bool.and_eq_true _ _).mp has).2 name named
  obtain ⟨m, mem, rfl⟩ := List.mem_map.mp (List.contains_iff_mem.mp listed)
  obtain ⟨v, found⟩ := Json.lookup_of_mem mem
  unfold Dispatcher.field
  rw [show (Json.obj fs).get? m.1 = some v from found]
  rfl

/-! ## Normal form -/

/-- The app id is a stripped text, and the scopes are a normalised list already. -/
structure NormalForm (envelope : Json) : Prop where
  appId : ∃ s, envelope.get? "app_id" = some (.str s) ∧ Py.strip s = s
  scopes : ∃ ss : List String, envelope.get? "scopes" = some (.arr (ss.map .str)) ∧
    NormalScopes ss

namespace Parsed

variable {decoded : Json} {scopes : List String} {issued expires : Int}

theorem copy_appId (parsed : Parsed env decoded scopes issued expires) :
    (normalCopy env decoded scopes).get? "app_id" =
      some (.str (Py.strip (env.text (field decoded "app_id")))) := by
  obtain ⟨fs, rfl⟩ := exists_of_hasFields parsed.fields
  unfold normalCopy
  rw [Json.get?_set_ne (by decide), Json.get?_set_self]

theorem copy_scopes (parsed : Parsed env decoded scopes issued expires) :
    (normalCopy env decoded scopes).get? "scopes" = some (.arr (scopes.map .str)) := by
  obtain ⟨fs, rfl⟩ := exists_of_hasFields parsed.fields
  exact Json.get?_set_self _ _ _

/-- The copy keeps every other member. -/
theorem copy_other {name : String} (notAppId : name ≠ "app_id") (notScopes : name ≠ "scopes") :
    (normalCopy env decoded scopes).get? name = decoded.get? name := by
  unfold normalCopy
  rw [Json.get?_set_ne notScopes, Json.get?_set_ne notAppId]

/-- What an object in normal form has as its app id and its scopes. -/
theorem of_normalForm (parsed : Parsed env decoded scopes issued expires)
    (normal : NormalForm decoded) :
    decoded.get? "app_id" = some (.str (Py.strip (env.text (field decoded "app_id")))) ∧
      decoded.get? "scopes" = some (.arr (scopes.map .str)) := by
  obtain ⟨s, appId, stripped⟩ := normal.appId
  obtain ⟨ss, isScopes, sorted⟩ := normal.scopes
  have appIdField : field decoded "app_id" = .str s := by
    unfold Dispatcher.field
    rw [appId, Option.getD_some]
  have scopesField : field decoded "scopes" = .arr (ss.map .str) := by
    unfold Dispatcher.field
    rw [isScopes, Option.getD_some]
  obtain ⟨_, raw, rawEq, is⟩ := validateAgentScopes_ok_iff.mp parsed.validated
  rw [scopesField] at rawEq
  obtain rfl : ss.map Json.str = raw := Option.some.inj rawEq
  constructor
  · rw [appIdField, text_str, stripped, appId]
  · rw [is, sortedScopes_of_normal sorted, isScopes]

/-- **The copy is the object itself exactly when the object is in normal form.** -/
theorem same_iff (parsed : Parsed env decoded scopes issued expires) :
    Json.Same (normalCopy env decoded scopes) decoded ↔ NormalForm decoded := by
  constructor
  · intro same
    have appId := same.get? "app_id"
    have isScopes := same.get? "scopes"
    rw [parsed.copy_appId, get?_of_hasFields parsed.fields (by decide)] at appId
    rw [parsed.copy_scopes, get?_of_hasFields parsed.fields (by decide)] at isScopes
    have appIdIs := Json.canon_eq_str (Option.some.inj appId).symm
    have scopesAre := Json.canon_eq_texts ((Option.some.inj isScopes).symm.trans
      (congrArg Json.arr (Json.canonElems_texts scopes)))
    exact ⟨⟨_, get?_of_field appIdIs (fun eq => nomatch eq), Py.strip_strip _⟩,
      ⟨scopes, get?_of_field scopesAre (fun eq => nomatch eq),
        (validateAgentScopes_ok_iff.mp parsed.validated).1.toNormalScopes⟩⟩
  · intro normal
    obtain ⟨appId, isScopes⟩ := parsed.of_normalForm normal
    have same : ∀ name, (normalCopy env decoded scopes).get? name = decoded.get? name := by
      intro name
      by_cases isAppId : name = "app_id"
      · rw [isAppId, parsed.copy_appId, appId]
      · by_cases isScope : name = "scopes"
        · rw [isScope, parsed.copy_scopes, isScopes]
        · exact copy_other isAppId isScope
    obtain ⟨fs, rfl⟩ := exists_of_hasFields parsed.fields
    exact Json.same_obj_iff.mpr fun name => congrArg (Option.map Json.canon) (same name)

end Parsed

end RemoteAgent
