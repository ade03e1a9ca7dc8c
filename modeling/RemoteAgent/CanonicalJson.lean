import RemoteAgent.Delegation

/-!
# Canonical JSON, and the two transports of an assertion

The canonical text of a value can be decoded, and decides the value up to the order of the
keys of its objects.  An assertion comes as an object, in the order in which its members were
sent, or as a header, in canonical order; the parser treats both alike (`parse_alike_iff`)
unless what it makes of the signature depends on that order.

* `canonicalJson_lossless_iff`: the text, its digest, and the two transports.
* `signatureObject_order`: a signature that is an object with two keys.
-/

open Wire

namespace RemoteAgent

open Dispatcher (field)

variable {env : Env}

/-! ## The text of lists and dictionaries -/

/-- What `repr` of a list and of a dictionary begins with. -/
structure ReprLike (env : Env) : Prop where
  list : ∀ xs, ∃ rest, (env.container (.arr xs)).toList = '[' :: rest
  empty : env.container (.obj []) = "\x7b\x7d"
  dictionary : ∀ m fs, ∃ quote rest, (quote = '\'' ∨ quote = '"') ∧
    (env.container (.obj (m :: fs))).toList = '{' :: quote :: rest

/-- A text that begins with a bracket, as that of a list or a dictionary. -/
def Bracketed (s : String) : Prop := ∃ c rest, (c = '[' ∨ c = '{') ∧ s.toList = c :: rest

theorem Bracketed.strip {s : String} (bracketed : Bracketed s) : Bracketed (Py.strip s) := by
  obtain ⟨c, rest, bracket, chars⟩ := bracketed
  have solid : Py.isSpace c = false := by
    rcases bracket with rfl | rfl <;> rfl
  have stripped : (Py.strip s).toList = (c :: rest).rdropWhile Py.isSpace := by
    unfold Py.strip
    rw [String.toList_ofList, Py.trimBoth_eq_rdropWhile, chars,
      List.dropWhile_cons_of_neg (by rw [solid]; decide)]
  cases kept : (c :: rest).rdropWhile Py.isSpace with
  | nil =>
      have blank := List.rdropWhile_eq_nil_iff.mp kept c List.mem_cons_self
      rw [solid] at blank
      cases blank
  | cons d rest' =>
      have front := List.rdropWhile_prefix Py.isSpace (l := c :: rest)
      rw [kept] at front
      obtain rfl : d = c := (List.cons_prefix_cons.mp front).1
      exact ⟨d, rest', bracket, stripped.trans kept⟩

theorem Bracketed.lower {s : String} (bracketed : Bracketed s) : Bracketed (Py.lower s) := by
  obtain ⟨c, rest, bracket, chars⟩ := bracketed
  refine ⟨c, rest.map Py.asciiLower, bracket, ?_⟩
  unfold Py.lower
  rw [String.toList_ofList, chars, List.map_cons]
  rcases bracket with rfl | rfl <;> rfl

theorem Bracketed.ne_empty {s : String} (bracketed : Bracketed s) : s ≠ "" := by
  rintro rfl
  obtain ⟨c, rest, _, chars⟩ := bracketed
  cases chars

/-- `str` of a value and of its canonical form: one text, or two that begin with a bracket. -/
theorem str_canon (repr : ReprLike env) (j : Json) :
    Py.str env.floats env.container j.canon = Py.str env.floats env.container j ∨
      (Bracketed (Py.str env.floats env.container j) ∧
        Bracketed (Py.str env.floats env.container j.canon)) := by
  cases j with
  | arr xs =>
      obtain ⟨rest, chars⟩ := repr.list xs
      obtain ⟨rest', chars'⟩ := repr.list (Json.canonElems xs)
      exact Or.inr ⟨⟨_, rest, Or.inl rfl, chars⟩, ⟨_, rest', Or.inl rfl, chars'⟩⟩
  | obj fs =>
      have bracketed : ∀ fs, Bracketed (env.container (.obj fs)) := by
        intro fs
        cases fs with
        | nil =>
            rw [repr.empty]
            exact ⟨_, _, Or.inr rfl, rfl⟩
        | cons m fs =>
            obtain ⟨quote, rest, _, chars⟩ := repr.dictionary m fs
            exact ⟨_, _, Or.inr rfl, chars⟩
      exact Or.inr ⟨bracketed fs, bracketed (Json.canonMembers fs)⟩
  | _ => exact Or.inl rfl

theorem truthy_canon (floats : Py.FloatOps) (j : Json) :
    Py.truthy floats j.canon = Py.truthy floats j := by
  cases j with
  | arr xs => cases xs <;> rfl
  | obj fs =>
      cases fs with
      | nil => rfl
      | cons m fs =>
          have some_ : ∀ {k : String} {v : Json} {fs : List (String × Json)},
              (Json.insertNew k v fs).isEmpty = false := by
            intro k v fs
            cases fs with
            | nil => rfl
            | cons m fs =>
                unfold Json.insertNew
                split
                · rfl
                · split <;> rfl
          exact congrArg Bool.not some_
  | _ => rfl

/-- The same for `str(value or "")`. -/
theorem text_canon (repr : ReprLike env) (j : Json) : env.text j.canon = env.text j ∨
    (Bracketed (env.text j) ∧ Bracketed (env.text j.canon)) := by
  unfold Env.text Py.strOrEmpty
  rw [truthy_canon]
  split
  · exact str_canon repr j
  · exact Or.inl rfl

/-- A check of a text that no bracket passes sees no difference. -/
theorem checked_canon (repr : ReprLike env) {normal : String → String} {ok : String → Bool}
    (keeps : ∀ {s}, Bracketed s → Bracketed (normal s))
    (refuses : ∀ {s}, Bracketed s → ok s = false) (j : Json) :
    parsePattern env normal ok j.canon = parsePattern env normal ok j := by
  unfold parsePattern
  rcases text_canon repr j with same | ⟨bracketed, bracketed'⟩
  · rw [same]
  · simp only [refuses (keeps bracketed), refuses (keeps bracketed'), Bool.false_eq_true,
      ↓reduceIte]

/-! ## Patterns and uuids -/

theorem isName_bracketed {tail : Char → Bool} {limit : Nat} {s : String}
    (bracketed : Bracketed s) : isName tail limit s = false := by
  obtain ⟨c, rest, bracket, chars⟩ := bracketed
  unfold isName
  rw [chars]
  rcases bracket with rfl | rfl <;> rfl

theorem isKeyId_bracketed {s : String} (bracketed : Bracketed s) : isKeyId s = false := by
  obtain ⟨c, rest, bracket, chars⟩ := bracketed
  unfold isKeyId
  rw [chars]
  rcases bracket with rfl | rfl <;> rfl

theorem isNonce_bracketed {s : String} (bracketed : Bracketed s) : isNonce s = false := by
  obtain ⟨c, rest, bracket, chars⟩ := bracketed
  unfold isNonce
  rw [chars, List.all_cons]
  rcases bracket with rfl | rfl <;> exact Bool.and_false _

theorem isConnectorId_bracketed {s : String} (bracketed : Bracketed s) :
    isConnectorId s = false := by
  obtain ⟨c, rest, bracket, chars⟩ := bracketed
  unfold isConnectorId
  rw [chars]
  cases rest with
  | nil => rfl
  | cons b rest => rcases bracket with rfl | rfl <;> rfl

/-- A character that no uuid is written with, and that is not taken off one. -/
def Foreign (c : Char) : Prop := c = '[' ∨ c = '\'' ∨ c = '"'

/-- A character outside a word stays when the word is removed. -/
theorem mem_removeAll {w : List Char} {c : Char} (word : w ≠ []) (outside : c ∉ w) :
    ∀ {cs : List Char} {n : Nat}, c ∉ cs.take n → c ∈ cs → c ∈ Py.removeAll w n cs
  | [], _, _, mem => nomatch mem
  | d :: cs, n + 1, kept, mem => by
      unfold Py.removeAll
      rw [List.take_succ_cons, List.mem_cons, not_or] at kept
      exact mem_removeAll word outside kept.2 ((List.mem_cons.mp mem).resolve_left kept.1)
  | d :: cs, 0, _, mem => by
      unfold Py.removeAll
      split
      · rename_i begins
        obtain ⟨rest, whole⟩ := List.isPrefixOf_iff_prefix.mp begins
        cases w with
        | nil => exact absurd rfl word
        | cons x w =>
            obtain ⟨rfl, tail⟩ := List.cons.inj whole
            rw [List.mem_cons, not_or] at outside
            refine mem_removeAll word (by rw [List.mem_cons, not_or]; exact outside) ?_
              ((List.mem_cons.mp mem).resolve_left outside.1)
            rw [← tail]
            simpa using outside.2
      · rcases List.mem_cons.mp mem with rfl | mem
        · exact List.mem_cons_self
        · exact List.mem_cons_of_mem _ (mem_removeAll word outside List.not_mem_nil mem)

theorem mem_trimBoth {p : Char → Bool} {c : Char} {cs : List Char} (mem : c ∈ cs)
    (kept : p c = false) : c ∈ Py.trimBoth p cs := by
  have dropped : ∀ {cs : List Char}, c ∈ cs → c ∈ cs.dropWhile p := by
    intro cs mem
    rw [← List.takeWhile_append_dropWhile (p := p) (l := cs)] at mem
    rcases List.mem_append.mp mem with front | back
    · have taken := List.mem_takeWhile_imp front
      rw [kept] at taken
      cases taken
    · exact back
  unfold Py.trimBoth
  exact List.mem_reverse.mpr (dropped (List.mem_reverse.mpr (dropped mem)))

theorem readDigits_foreign {c : Char} (foreign : Foreign c) :
    ∀ {cs : List Char} {afterDigit : Bool} {value : Nat}, c ∈ cs →
      Py.readDigits afterDigit value cs = none
  | [], _, _, mem => nomatch mem
  | d :: cs, afterDigit, value, mem => by
      unfold Py.readDigits
      split
      · rename_i under
        have more : c ∈ cs := by
          rcases List.mem_cons.mp mem with rfl | mem
          · rcases foreign with rfl | rfl | rfl <;> exact absurd under (by decide)
          · exact mem
        split
        · exact readDigits_foreign foreign more
        · rfl
      · split
        · rename_i v digit
          have more : c ∈ cs := by
            rcases List.mem_cons.mp mem with rfl | mem
            · have none_ : Py.digitValue c = none := by
                rcases foreign with rfl | rfl | rfl <;> decide
              rw [none_] at digit
              cases digit
            · exact mem
          exact readDigits_foreign foreign more
        · rfl

theorem readHex_foreign {c : Char} (foreign : Foreign c) {cs : List Char} (mem : c ∈ cs) :
    Py.readHex cs = none := by
  have solid : Py.isSpace c = false := by
    rcases foreign with rfl | rfl | rfl <;> rfl
  have trimmed := mem_trimBoth mem solid
  have noPlus : c ≠ '+' := by rcases foreign with rfl | rfl | rfl <;> decide
  unfold Py.readHex
  dsimp only
  generalize Py.trimBoth Py.isSpace cs = text at trimmed ⊢
  split
  · rename_i x rest isBody
    have body : c ∈ '0' :: x :: rest := by
      rw [← isBody]
      split
      · exact (List.mem_cons.mp trimmed).resolve_left noPlus
      · exact trimmed
    split
    · rename_i hex
      have inner : c ∈ rest := by
        refine (List.mem_cons.mp ((List.mem_cons.mp body).resolve_left ?_)).resolve_left ?_
        · rcases foreign with rfl | rfl | rfl <;> decide
        · rintro rfl
          rcases foreign with rfl | rfl | rfl <;> exact absurd hex (by decide)
      split
      · refine readDigits_foreign foreign ((List.mem_cons.mp inner).resolve_left ?_)
        rcases foreign with rfl | rfl | rfl <;> decide
      · exact readDigits_foreign foreign inner
    · exact readDigits_foreign foreign body
  · refine readDigits_foreign foreign ?_
    split
    · exact (List.mem_cons.mp trimmed).resolve_left noPlus
    · exact trimmed

/-- A text with such a character is no uuid. -/
theorem uuid_foreign {c : Char} (foreign : Foreign c) {s : String} (mem : c ∈ s.toList) :
    Py.uuid s = none := by
  have first := mem_removeAll (w := ['u', 'r', 'n', ':']) (n := 0) (by decide)
    (by rcases foreign with rfl | rfl | rfl <;> decide) List.not_mem_nil mem
  have second := mem_removeAll (w := ['u', 'u', 'i', 'd', ':']) (n := 0) (by decide)
    (by rcases foreign with rfl | rfl | rfl <;> decide) List.not_mem_nil first
  have trimmed := mem_trimBoth (p := fun c => c == '{' || c == '}') second
    (by rcases foreign with rfl | rfl | rfl <;> rfl)
  have noDash : (c != '-') = true := by rcases foreign with rfl | rfl | rfl <;> rfl
  have digits := List.mem_filter (p := (· != '-')).mpr ⟨trimmed, noDash⟩
  unfold Py.uuid
  dsimp only
  rw [readHex_foreign foreign digits]
  split <;> rfl

theorem uuid_list (repr : ReprLike env) (xs : List Json) :
    Py.uuid (env.container (.arr xs)) = none := by
  obtain ⟨rest, chars⟩ := repr.list xs
  exact uuid_foreign (c := '[') (Or.inl rfl) (by rw [chars]; exact List.mem_cons_self)

theorem uuid_dictionary (repr : ReprLike env) (fs : List (String × Json)) :
    Py.uuid (env.container (.obj fs)) = none := by
  cases fs with
  | nil =>
      rw [repr.empty]
      rfl
  | cons m fs =>
      obtain ⟨quote, rest, isQuote, chars⟩ := repr.dictionary m fs
      refine uuid_foreign (c := quote) (Or.inr isQuote) ?_
      rw [chars]
      exact List.mem_cons_of_mem _ List.mem_cons_self

theorem parseUuid_canon (repr : ReprLike env) (j : Json) :
    parseUuid env j.canon = parseUuid env j := by
  cases j with
  | arr xs =>
      unfold parseUuid
      simp only [Json.canon, Py.str, uuid_list repr]
  | obj fs =>
      unfold parseUuid
      simp only [Json.canon, Py.str, uuid_dictionary repr]
  | _ => rfl

/-! ## Scopes -/

theorem mem_sortedScopes {raw : List Json} {s : String} : s ∈ sortedScopes env raw ↔
    (∃ scope ∈ raw, Py.strip (env.text scope) = s) ∧ s ≠ "" := by
  unfold sortedScopes
  rw [List.mem_insertionSort, List.mem_dedup, List.mem_filter, List.mem_map, decide_eq_true_iff]

/-- The sorted scopes are decided by which ones there are. -/
theorem sortedScopes_congr {raw raw' : List Json}
    (same : ∀ s, (∃ scope ∈ raw, Py.strip (env.text scope) = s) ↔
      ∃ scope ∈ raw', Py.strip (env.text scope) = s) :
    sortedScopes env raw = sortedScopes env raw' := by
  have ascending : (sortedScopes env raw).Pairwise (· < ·) := (sortedScopes_normal raw).ascending
  have ascending' : (sortedScopes env raw').Pairwise (· < ·) :=
    (sortedScopes_normal raw').ascending
  have perm : (sortedScopes env raw).Perm (sortedScopes env raw') := by
    refine (List.perm_ext_iff_of_nodup (ascending.imp fun below => ne_of_lt below)
      (ascending'.imp fun below => ne_of_lt below)).mpr fun s => ?_
    rw [mem_sortedScopes, mem_sortedScopes, same]
  exact perm.eq_of_pairwise (fun a b _ _ below above => absurd (lt_trans below above) (lt_irrefl a))
    ascending ascending'

/-- Scopes of which one is a list or a dictionary are refused. -/
theorem normalizeScopes_bracketed {j : Json} {raw : List Json} (isRaw : rawScopes env j = some raw)
    {scope : Json} (mem : scope ∈ raw) (bracketed : Bracketed (env.text scope)) :
    normalizeScopes env j = .error (.protocol "delegated scopes are invalid") := by
  have listed : Py.strip (env.text scope) ∈ sortedScopes env raw :=
    mem_sortedScopes.mpr ⟨⟨scope, mem, rfl⟩, bracketed.strip.ne_empty⟩
  have refused : (sortedScopes env raw).any (fun s => !isScope s) = true := by
    refine List.any_eq_true.mpr ⟨_, listed, ?_⟩
    have unnamed : isScope (Py.strip (env.text scope)) = false := isName_bracketed bracketed.strip
    rw [unnamed]
    rfl
  unfold normalizeScopes
  rw [isRaw]
  simp only [refused, Bool.or_true, ↓reduceIte]

theorem canonElems_eq_map (xs : List Json) : Json.canonElems xs = xs.map Json.canon := by
  induction xs with
  | nil => rfl
  | cons x xs ih => rw [Json.canonElems, List.map_cons, ih]

theorem mem_keys_iff {k : String} {fs : List (String × Json)} :
    k ∈ fs.map Prod.fst ↔ (Json.lookup k fs).isSome = true := by
  induction fs with
  | nil => simp only [List.map_nil, List.not_mem_nil, Json.lookup, Option.isSome_none,
      Bool.false_eq_true]
  | cons m fs ih =>
      obtain ⟨k', v⟩ := m
      rw [List.map_cons, List.mem_cons, ih]
      by_cases same : k' = k
      · obtain ⟨found, is⟩ := Json.lookup_of_mem (List.mem_cons_self (a := (k', v)) (l := fs))
        have is : Json.lookup k ((k', v) :: fs) = some found := same ▸ is
        rw [is]
        exact ⟨fun _ => rfl, fun _ => Or.inl same.symm⟩
      · rw [Json.lookup_cons_ne same]
        exact ⟨fun either => either.resolve_left fun is => same is.symm, Or.inr⟩

/-- The keys of an object, in any order. -/
theorem mem_keys_canon {k : String} {fs : List (String × Json)} :
    k ∈ (Json.canonMembers fs).map Prod.fst ↔ k ∈ fs.map Prod.fst := by
  rw [mem_keys_iff, mem_keys_iff, Json.lookup_canonMembers, Option.isSome_map]

theorem normalizeScopes_canon (repr : ReprLike env) (j : Json) :
    normalizeScopes env j.canon = normalizeScopes env j := by
  cases j with
  | arr xs =>
      by_cases nested : ∃ x ∈ xs, Bracketed (env.text x) ∧ Bracketed (env.text x.canon)
      · obtain ⟨x, mem, bracketed, bracketed'⟩ := nested
        rw [normalizeScopes_bracketed (j := .arr xs) rfl mem bracketed]
        refine normalizeScopes_bracketed (j := .arr (Json.canonElems xs)) rfl ?_ bracketed'
        rw [canonElems_eq_map]
        exact List.mem_map_of_mem mem
      · have texts : ∀ x ∈ xs, env.text x.canon = env.text x := fun x mem =>
          (text_canon repr x).resolve_right fun both => nested ⟨x, mem, both⟩
        have same : sortedScopes env (Json.canonElems xs) = sortedScopes env xs := by
          refine sortedScopes_congr fun s => ?_
          rw [canonElems_eq_map]
          constructor
          · rintro ⟨_, mapped, is⟩
            obtain ⟨x, mem, rfl⟩ := List.mem_map.mp mapped
            rw [texts x mem] at is
            exact ⟨x, mem, is⟩
          · rintro ⟨x, mem, is⟩
            rw [← texts x mem] at is
            exact ⟨x.canon, List.mem_map_of_mem mem, is⟩
        unfold normalizeScopes
        simp only [Json.canon, rawScopes, same]
  | obj fs =>
      have same : sortedScopes env ((Json.canonMembers fs).map fun m => .str m.1) =
          sortedScopes env (fs.map fun m => .str m.1) := by
        refine sortedScopes_congr fun s => ?_
        have keys : ∀ gs : List (String × Json),
            (∃ scope ∈ gs.map (fun m => Json.str m.1), Py.strip (env.text scope) = s) ↔
              ∃ k ∈ gs.map Prod.fst, Py.strip k = s := by
          intro gs
          simp only [List.mem_map, exists_exists_and_eq_and, text_str]
        rw [keys, keys]
        simp only [mem_keys_canon]
      unfold normalizeScopes
      simp only [Json.canon, rawScopes, same]
  | _ => rfl

/-! ## The parser on an object and on its canonical form -/

theorem field_canon (j : Json) (name : String) : field j.canon name = (field j name).canon := by
  unfold Dispatcher.field
  rw [Json.get?_canon]
  cases j.get? name <;> rfl

theorem eqStr_canon (j : Json) (text : String) : Py.eqStr j.canon text = Py.eqStr j text := by
  cases j <;> rfl

theorem assertionInt_canon (j : Json) (name : String) :
    assertionInt j.canon name = assertionInt j name := by
  cases j <;> rfl

theorem hasFields_canon (fields : List String) (j : Json) :
    hasFields fields j.canon = hasFields fields j := by
  cases j with
  | obj fs =>
      have both : ∀ gs : List (String × Json), hasFields fields (.obj gs) = true ↔
          (∀ k ∈ gs.map Prod.fst, k ∈ fields) ∧ ∀ k ∈ fields, k ∈ gs.map Prod.fst := by
        intro gs
        unfold hasFields
        rw [Bool.and_eq_true, List.all_eq_true, List.all_eq_true]
        simp only [List.contains_iff_mem]
      refine Bool.eq_iff_iff.mpr ?_
      rw [Json.canon, both, both]
      simp only [mem_keys_canon]
  | _ => rfl

/-- Everything that `parse_app_assertion` checks of an object before its signature; the
normalised scopes. -/
def beforeSignature (env : Env) (decoded : Json) : Except Rejection (List String) := do
  require (hasFields assertionFields decoded) "app assertion fields are invalid"
  require (Py.eqStr (field decoded "schema_version") appAssertionSchemaVersion)
    "app assertion schema is unsupported"
  require (Py.eqStr (field decoded "issuer") appAssertionIssuer)
    "app assertion issuer is invalid"
  require (Py.eqStr (field decoded "audience") appAssertionAudience)
    "app assertion audience is invalid"
  require (isKeyId (Py.str env.floats env.container (field decoded "key_id")))
    "app assertion key id is invalid"
  let _ ← parseClientId env (field decoded "client_id")
  require (isAppId (Py.strip (env.text (field decoded "app_id")))) "app assertion app id is invalid"
  let _ ← naming "connector_id is invalid" (parseConnectorId env (field decoded "connector_id"))
  let scopes ← validateAgentScopes env (field decoded "scopes")
  let issuedAt ← assertionInt (field decoded "issued_at") "issued_at"
  let expiresAt ← assertionInt (field decoded "expires_at") "expires_at"
  require (decide (issuedAt < expiresAt)) "app assertion expiry is invalid"
  require (decide (expiresAt - issuedAt ≤ appAssertionMaxTtlSeconds))
    "app assertion lifetime is too long"
  let _ ← parseNonce env (field decoded "nonce")
  let _ ← naming "request_id must be a UUID" (parseUuid env (field decoded "request_id"))
  let _ ← naming "assertion_id must be a UUID" (parseUuid env (field decoded "assertion_id"))
  return scopes

/-- The parser, the signature last. -/
theorem parseAppAssertion_eq (env : Env) (value : Json) :
    parseAppAssertion env value = do
      let decoded ← decodeEnvelope env value
      let scopes ← beforeSignature env decoded
      let _ ← parseSignature env (field decoded "signature")
      return normalCopy env decoded scopes := by
  unfold parseAppAssertion beforeSignature normalCopy
  simp only [bind_assoc, pure_bind]

/-- The other checks do not see the order of the keys. -/
theorem beforeSignature_canon (repr : ReprLike env) (j : Json) :
    beforeSignature env j.canon = beforeSignature env j := by
  have keyId : isKeyId (Py.str env.floats env.container (field j "key_id").canon) =
      isKeyId (Py.str env.floats env.container (field j "key_id")) := by
    rcases str_canon repr (field j "key_id") with same | ⟨bracketed, bracketed'⟩
    · rw [same]
    · rw [isKeyId_bracketed bracketed, isKeyId_bracketed bracketed']
  have appId : isAppId (Py.strip (env.text (field j "app_id").canon)) =
      isAppId (Py.strip (env.text (field j "app_id"))) := by
    rcases text_canon repr (field j "app_id") with same | ⟨bracketed, bracketed'⟩
    · rw [same]
    · exact (isName_bracketed bracketed'.strip).trans (isName_bracketed bracketed.strip).symm
  have clientId : ∀ j : Json, parseClientId env j.canon = parseClientId env j := fun j =>
    congrArg (naming _) (checked_canon repr Bracketed.strip isName_bracketed j)
  have nonce : ∀ j : Json, parseNonce env j.canon = parseNonce env j := fun j =>
    congrArg (naming _) (checked_canon repr Bracketed.strip isNonce_bracketed j)
  have connectorId : ∀ j : Json, parseConnectorId env j.canon = parseConnectorId env j :=
    checked_canon repr (fun bracketed => bracketed.strip.lower) isConnectorId_bracketed
  have scopes : ∀ j : Json, validateAgentScopes env j.canon = validateAgentScopes env j := by
    intro j
    unfold validateAgentScopes
    rw [normalizeScopes_canon repr]
  unfold beforeSignature
  simp only [hasFields_canon, field_canon, eqStr_canon, keyId, appId, clientId, nonce, connectorId,
    scopes, assertionInt_canon, parseUuid_canon repr]

/-! ## Both transports -/

/-- Two outcomes of the parser: one exception, or equal dictionaries. -/
def Alike : Except Rejection Json → Except Rejection Json → Prop
  | .ok a, .ok b => Json.Same a b
  | .error e, .error e' => e = e'
  | _, _ => False

/-- `parse_signature` accepts both values, or raises one exception for both. -/
def SignedAlike (env : Env) (signature signature' : Json) : Prop :=
  (parseSignature env signature).map (fun _ => ()) =
    (parseSignature env signature').map (fun _ => ())

/-- A member is set in equal values alike. -/
theorem same_set {fs : List (String × Json)} {a : Json} (same : Json.Same (.obj fs) a) (key : String)
    (v : Json) : Json.Same ((Json.obj fs).set key v) (a.set key v) := by
  cases a with
  | obj gs =>
      refine Json.same_obj_iff.mpr fun k => ?_
      rw [Json.lookup_concat, Json.lookup_concat, Json.lookup_filter, Json.lookup_filter]
      split
      · rfl
      · exact same.get? k
  | _ => cases same

theorem isAppId_of_beforeSignature {decoded : Json} {scopes : List String}
    (passed : beforeSignature env decoded = .ok scopes) :
    isAppId (Py.strip (env.text (field decoded "app_id"))) = true := by
  obtain ⟨_, passed⟩ := require_bind passed
  obtain ⟨_, passed⟩ := require_bind passed
  obtain ⟨_, passed⟩ := require_bind passed
  obtain ⟨_, passed⟩ := require_bind passed
  obtain ⟨_, passed⟩ := require_bind passed
  obtain ⟨_, _, passed⟩ := bind_ok passed
  exact (require_bind passed).1

/-- A header is parsed as the object is, up to its signature. -/
theorem parse_header (repr : ReprLike env) (fs : List (String × Json)) :
    parseAppAssertion env (.str (envelopeHeader (.obj fs))) = do
      let scopes ← beforeSignature env (.obj fs)
      let _ ← parseSignature env (field (.obj fs) "signature").canon
      return normalCopy env (Json.obj fs).canon scopes := by
  rw [parseAppAssertion_eq]
  have decodes : decodeEnvelope env (.str (envelopeHeader (.obj fs))) =
      .ok (Json.obj fs).canon := decodeEnvelope_header (.obj fs)
  rw [decodes, ← beforeSignature_canon repr, ← field_canon]
  rfl

/-- **An object and its header are parsed alike** if the signature is. -/
theorem parse_alike_iff (repr : ReprLike env) (fs : List (String × Json)) :
    Alike (parseAppAssertion env (.obj fs))
        (parseAppAssertion env (.str (envelopeHeader (.obj fs)))) ↔
      ((∃ scopes, beforeSignature env (.obj fs) = .ok scopes) →
        SignedAlike env (field (.obj fs) "signature") (field (.obj fs) "signature").canon) := by
  have frame : parseAppAssertion env (.obj fs) = do
      let scopes ← beforeSignature env (.obj fs)
      let _ ← parseSignature env (field (.obj fs) "signature")
      return normalCopy env (.obj fs) scopes := parseAppAssertion_eq env (.obj fs)
  rw [parse_header repr, frame]
  cases passed : beforeSignature env (.obj fs) with
  | error e =>
      exact ⟨fun _ ⟨_, passes⟩ => (nomatch passes), fun _ => rfl⟩
  | ok scopes =>
      have copies : Json.Same (normalCopy env (.obj fs) scopes)
          (normalCopy env (Json.obj fs).canon scopes) := by
        have appId : env.text (field (Json.obj fs).canon "app_id") =
            env.text (field (.obj fs) "app_id") := by
          rw [field_canon]
          refine (text_canon repr _).resolve_right fun both => ?_
          have matched := isAppId_of_beforeSignature passed
          have refused : isAppId (Py.strip (env.text (field (.obj fs) "app_id"))) = false :=
            isName_bracketed both.1.strip
          rw [refused] at matched
          cases matched
        unfold normalCopy
        rw [appId]
        exact same_set (same_set (Json.same_canon _) _ _) _ _
      unfold SignedAlike
      cases parseSignature env (field (.obj fs) "signature") with
      | error e =>
          cases parseSignature env (field (.obj fs) "signature").canon with
          | error e' =>
              exact ⟨fun same _ => congrArg Except.error same,
                fun same => Except.error.inj (same ⟨scopes, rfl⟩)⟩
          | ok raw => exact ⟨fun no => no.elim, fun same => nomatch same ⟨scopes, rfl⟩⟩
      | ok raw =>
          cases parseSignature env (field (.obj fs) "signature").canon with
          | error e' => exact ⟨fun no => no.elim, fun same => nomatch same ⟨scopes, rfl⟩⟩
          | ok raw' => exact ⟨fun _ _ => rfl, fun _ => copies⟩

/-- The signature is no list and no dictionary. -/
theorem signedAlike_scalar {signature : Json} (scalar : signature.canon = signature) :
    SignedAlike env signature signature.canon := by
  unfold SignedAlike
  rw [scalar]

/-- **Canonical JSON.**  For every value, the canonical bytes are decoded to a value that is the
same up to the order of keys; they, and the text that is hashed for a digest, are equal exactly
for values that are the same; and an object is parsed like its header exactly when
`parse_signature` does not see the order of the keys of its signature, if it comes to that. -/
theorem canonicalJson_lossless_iff (env : Env) (repr : ReprLike env)
    (fs : List (String × Json)) :
    (∃ decoded, (Py.decodeUtf8 (Py.encodeUtf8 (canonicalJsonBytes (.obj fs)))).bind Json.loads =
      some decoded ∧ Json.Same (.obj fs) decoded) ∧
    (∀ y : Json, Py.encodeUtf8 (canonicalJsonBytes (.obj fs)) = Py.encodeUtf8 (canonicalJsonBytes y) ↔
      Json.Same (.obj fs) y) ∧
    (∀ y : Json, (Json.obj fs).dumps = y.dumps ↔ Json.Same (.obj fs) y) ∧
    (Alike (parseAppAssertion env (.obj fs))
        (parseAppAssertion env (.str (envelopeHeader (.obj fs)))) ↔
      ((∃ scopes, beforeSignature env (.obj fs) = .ok scopes) →
        SignedAlike env (field (.obj fs) "signature") (field (.obj fs) "signature").canon)) := by
  refine ⟨⟨(Json.obj fs).canon, ?_, Json.same_canon _⟩, fun y => ?_, fun y => Json.dumps_eq_iff,
    parse_alike_iff repr fs⟩
  · rw [Py.decodeUtf8_encodeUtf8, Option.bind_some]
    exact Json.loads_dumps_newline _
  · rw [← canonicalJsonBytes_inj]
    constructor
    · intro same
      have read := congrArg Py.decodeUtf8 same
      rw [Py.decodeUtf8_encodeUtf8, Py.decodeUtf8_encodeUtf8] at read
      exact Option.some.inj read
    · exact congrArg Py.encodeUtf8

/-! ## A signature with two keys -/

namespace Sample

/-- `repr` of an element, as it is for plain texts and for numbers. -/
def reprElement : Json → String
  | .str s => "'" ++ s ++ "'"
  | j => j.dumps

/-- `repr` of a list or a dictionary of such elements. -/
def repr : Json → String
  | .arr xs => "[" ++ String.intercalate ", " (xs.map reprElement) ++ "]"
  | .obj fs => "\x7b" ++ String.intercalate ", "
      (fs.map fun m => "'" ++ m.1 ++ "': " ++ reprElement m.2) ++ "\x7d"
  | j => j.dumps

def reprEnv : Env := { Sample.env with container := repr }

theorem reprLike : ReprLike reprEnv where
  list := by
    intro xs
    refine ⟨(String.intercalate ", " (xs.map reprElement)).toList ++ [']'], ?_⟩
    simp only [reprEnv, repr, String.toList_append]
    rfl
  empty := by rfl
  dictionary := by
    intro m fs
    have first : ∀ rest : List String, ∃ tail, (String.intercalate ", "
        (("'" ++ m.1 ++ "': " ++ reprElement m.2) :: rest)).toList = '\'' :: tail := by
      intro rest
      rw [String.toList_intercalate, List.map_cons]
      have quoted : ("'" ++ m.1 ++ "': " ++ reprElement m.2).toList =
          '\'' :: (m.1 ++ "': " ++ reprElement m.2).toList := by
        simp only [String.toList_append]
        rfl
      cases rest with
      | nil => exact ⟨_, List.intercalate_singleton.trans quoted⟩
      | cons r rest =>
          rw [List.map_cons, List.intercalate_cons_cons, quoted]
          exact ⟨_, rfl⟩
    obtain ⟨tail, is⟩ := first (fs.map fun m => "'" ++ m.1 ++ "': " ++ reprElement m.2)
    refine ⟨'\'', tail ++ ['}'], Or.inl rfl, ?_⟩
    simp only [reprEnv, repr, List.map_cons, String.toList_append, is]
    rfl

/-- The envelope with an object for its signature, whose first key is base64 for 64 bytes. -/
def orderedEnvelope : Json :=
  envelope.set "signature" (.obj [
    ("AAAAAAAAAAAAAAAAAAAAAAAAAAAAAAAAAAAAAAAAAAAAAAAAAAAAAAAAAAAAAAAAAAAAAAAAAAAAAAAAAAAAAA==",
      .str ""), ("0", .str "")])

end Sample

/-- The envelope as it is signed is parsed alike. -/
theorem canonicalJson_lossless_iff_text : ∃ fs, Sample.envelope = .obj fs ∧
    Alike (parseAppAssertion Sample.reprEnv (.obj fs))
      (parseAppAssertion Sample.reprEnv (.str (envelopeHeader (.obj fs)))) := by
  obtain ⟨fs, is⟩ : ∃ fs, Sample.envelope = .obj fs := ⟨_, rfl⟩
  have signature : field (.obj fs) "signature" = .str Sample.enrollSignature := by
    rw [← is]
    rfl
  refine ⟨fs, is, ?_⟩
  refine (canonicalJson_lossless_iff Sample.reprEnv Sample.reprLike fs).2.2.2.mpr fun _ => ?_
  rw [signature]
  exact signedAlike_scalar (by simp only [Json.canon])

/-- **The order of two keys decides.**  The object is accepted; as a header, in which the other
key comes first, it is refused. -/
theorem signatureObject_order : ∃ fs, Sample.orderedEnvelope = .obj fs ∧
    (∃ parsed, parseAppAssertion Sample.reprEnv (.obj fs) = .ok parsed) ∧
    parseAppAssertion Sample.reprEnv (.str (envelopeHeader (.obj fs))) =
      .error (.protocol "signature has an invalid length") ∧
    ¬ Alike (parseAppAssertion Sample.reprEnv (.obj fs))
      (parseAppAssertion Sample.reprEnv (.str (envelopeHeader (.obj fs)))) := by
  have accepted : (parseAppAssertion Sample.reprEnv Sample.orderedEnvelope).toOption.any
      (fun _ => true) = true := by decide +kernel
  have passed : (beforeSignature Sample.reprEnv Sample.orderedEnvelope).toOption.any
      (fun _ => true) = true := by decide +kernel
  have refused : (match parseSignature Sample.reprEnv
      (field Sample.orderedEnvelope "signature").canon with
      | .ok _ => false
      | .error e => decide (e = .protocol "signature has an invalid length")) = true := by
    decide +kernel
  obtain ⟨fs, is⟩ : ∃ fs, Sample.orderedEnvelope = .obj fs := ⟨_, rfl⟩
  rw [is] at accepted passed refused
  obtain ⟨parsed, isOk, _⟩ := exists_ok_of_any accepted
  obtain ⟨scopes, before, _⟩ := exists_ok_of_any passed
  have isError : parseAppAssertion Sample.reprEnv (.str (envelopeHeader (.obj fs))) =
      .error (.protocol "signature has an invalid length") := by
    rw [parse_header Sample.reprLike, before]
    split at refused
    · cases refused
    · rename_i e failed
      rw [failed, of_decide_eq_true refused]
      rfl
  refine ⟨fs, is, ⟨parsed, isOk⟩, isError, fun alike => ?_⟩
  rw [isOk, isError] at alike
  exact alike

end RemoteAgent
