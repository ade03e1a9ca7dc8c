import RemoteAgent.Lib.PyText
import RemoteAgent.Lib.Regex

/-!
# What the audit trail keeps of a text

`redactAuditValue` replaces what looks like a credential or a path in the details of an audit
row.  Its four substitutions run one after another over a text, each over what the one before
has written.

* `Clean` says, without the patterns, that nothing is left to redact in a text.
* `Assigned.unique`: a sensitive word, its separator and its value are determined.
* `redactText_clean`: a later substitution leaves nothing for an earlier one to find.
* `audit_redacted`: a redacted value is redacted, and only such values are left as they are.
-/

open Regex Wire

namespace RemoteAgent.Redaction

/-! ## Classes of characters -/

/-- The letters beyond ASCII that match an ASCII letter where case is ignored. -/
def foldingLetters : List Char := ['\u0130', '\u0131', '\u017f', '\u212a']

/-- Which characters beyond ASCII are letters or digits: `str.isalnum`. -/
structure Letters where
  isAlnum : Char → Bool
  folding : ∀ c ∈ foldingLetters, isAlnum c = true

/-- `\w`. -/
def isWord (letters : Letters) (c : Char) : Bool :=
  if c.toNat < 128 then Py.isAlnumAscii c || c == '_' else letters.isAlnum c

/-- A lower-case letter, where case is ignored. -/
def folds (letter c : Char) : Bool :=
  Py.asciiLower c == letter || (letter == 's' && c == '\u017f') ||
    (letter == 'i' && (c == '\u0130' || c == '\u0131'))

/-- `[A-Z]`, where case is ignored. -/
def isLetter (c : Char) : Bool :=
  decide ('a' ≤ c ∧ c ≤ 'z' ∨ 'A' ≤ c ∧ c ≤ 'Z') || foldingLetters.contains c

/-- `[A-Za-z0-9._~+/=-]`, where case is ignored. -/
def isToken (c : Char) : Bool :=
  isLetter c || decide ('0' ≤ c ∧ c ≤ '9') || ['.', '_', '~', '+', '/', '=', '-'].contains c

/-- `[:=]`. -/
def isSign (c : Char) : Bool := c == ':' || c == '='

/-- `[^\s,;]`. -/
def isValue (c : Char) : Bool := !(Py.isSpace c || c == ',' || c == ';')

theorem isLetter_iff {c : Char} : isLetter c = true ↔
    (97 ≤ c.toNat ∧ c.toNat ≤ 122) ∨ (65 ≤ c.toNat ∧ c.toNat ≤ 90) ∨ c ∈ foldingLetters := by
  unfold isLetter
  rw [Bool.or_eq_true, decide_eq_true_eq, List.contains_iff_mem, or_assoc]
  rfl

theorem toNat_of_foldingLetters {c : Char} (mem : c ∈ foldingLetters) :
    c.toNat = 0x130 ∨ c.toNat = 0x131 ∨ c.toNat = 0x17f ∨ c.toNat = 0x212a := by
  simp only [foldingLetters, List.mem_cons, List.not_mem_nil, or_false] at mem
  rcases mem with rfl | rfl | rfl | rfl <;> decide

theorem toNat_of_isLetter {c : Char} (letter : isLetter c = true) :
    (97 ≤ c.toNat ∧ c.toNat ≤ 122) ∨ (65 ≤ c.toNat ∧ c.toNat ≤ 90) ∨ c.toNat = 0x130 ∨
      c.toNat = 0x131 ∨ c.toNat = 0x17f ∨ c.toNat = 0x212a := by
  rcases isLetter_iff.mp letter with low | high | mem
  · exact Or.inl low
  · exact Or.inr (Or.inl high)
  · exact Or.inr (Or.inr (toNat_of_foldingLetters mem))

theorem isSpace_of_isLetter {c : Char} (letter : isLetter c = true) : Py.isSpace c = false := by
  have number := toNat_of_isLetter letter
  unfold Py.isSpace
  simp only [Bool.or_eq_false_iff, Bool.and_eq_false_iff, decide_eq_false_iff_not,
    beq_eq_false_iff_ne]
  omega

theorem isWord_of_isLetter (letters : Letters) {c : Char} (letter : isLetter c = true) :
    isWord letters c = true := by
  unfold isWord
  rcases isLetter_iff.mp letter with low | high | mem
  · rw [if_pos (by omega)]
    exact Bool.or_eq_true_iff.mpr (Or.inl (decide_eq_true (Or.inl low)))
  · rw [if_pos (by omega)]
    exact Bool.or_eq_true_iff.mpr (Or.inl (decide_eq_true (Or.inr (Or.inl high))))
  · have number := toNat_of_foldingLetters mem
    rw [if_neg (by omega)]
    exact letters.folding c mem

theorem isLetter_of_folds {letter c : Char} (isLower : Py.isLowerAscii letter = true)
    (isOne : folds letter c = true) : isLetter c = true := by
  rw [isLetter_iff]
  unfold folds at isOne
  simp only [Bool.or_eq_true, Bool.and_eq_true, beq_iff_eq] at isOne
  rcases isOne with (lower | ⟨-, rfl⟩) | ⟨-, rfl | rfl⟩
  · unfold Py.asciiLower at lower
    split at lower
    · rename_i capital
      exact Or.inr (Or.inl capital)
    · split at lower
      · rename_i kelvin
        refine Or.inr (Or.inr ?_)
        have isKelvin : c = '\u212a' := Char.toNat_inj.mp kelvin
        rw [isKelvin]
        decide
      · subst lower
        exact Or.inl (of_decide_eq_true isLower)
  · exact Or.inr (Or.inr (by decide))
  · exact Or.inr (Or.inr (by decide))
  · exact Or.inr (Or.inr (by decide))

/-! ## The patterns -/

/-- The characters of a word, case ignored. -/
def word (letters : String) : List (Char → Bool) := letters.toList.map folds

def sensitiveWords : List String :=
  ["authorization", "bearer", "cookie", "jwt", "token", "secret", "password",
    "credential", "proxy", "cdp", "sql", "shell", "path", "file"]

def keyWords : List String :=
  ["token", "secret", "cookie", "jwt", "password",
    "credential", "proxy", "path", "file", "cdp", "sql", "shell"]

section Patterns

variable (letters : Letters)

open Pattern

/-- `_BEARER_PATTERN`. -/
def bearerPattern : Pattern Char :=
  seq (edge (isWord letters)) (seq (group (seq (text (word "bearer")) (plus Py.isSpace)))
    (group (plus isToken)))

/-- `_SENSITIVE_VALUE_PATTERN`. -/
def sensitiveValuePattern : Pattern Char :=
  seq (edge (isWord letters)) (seq (group (anyOf (sensitiveWords.map fun w => text (word w))))
    (seq (edge (isWord letters))
      (seq (group (seq (many Py.isSpace) (seq (one isSign) (many Py.isSpace))))
        (group (plus isValue)))))

/-- `_WINDOWS_PATH_PATTERN`. -/
def windowsPathPattern : Pattern Char :=
  seq (edge (isWord letters)) (seq (one isLetter) (seq (one (· == ':')) (seq (one (· == '\\'))
    (plus isValue))))

/-- `_UNIX_PATH_PATTERN`. -/
def unixPathPattern : Pattern Char :=
  seq (notAfter Py.isAlnumAscii) (seq (one (· == '/')) (plus isValue))

end Patterns

/-- A text in brackets. -/
def bracketed (inside : List Char) : List Char := '[' :: (inside ++ [']'])

/-- The text of `[REDACTED]`. -/
def redacted : List Char := bracketed ['R', 'E', 'D', 'A', 'C', 'T', 'E', 'D']

/-- The text of `[REDACTED_PATH]`. -/
def redactedPath : List Char :=
  bracketed ['R', 'E', 'D', 'A', 'C', 'T', 'E', 'D', '_', 'P', 'A', 'T', 'H']

example : redacted = "[REDACTED]".toList ∧ redactedPath = "[REDACTED_PATH]".toList := by decide

/-- A replacement: the first groups, and a text. -/
def put (groups : Nat) (mark : List Char) (gs : List (List Char)) : List Char :=
  (gs.take groups).flatten ++ mark

/-- The substitutions over a text, in their order. -/
def redactText (letters : Letters) (value : List Char) : List Char :=
  let text := (bearerPattern letters).sub (put 1 redacted) none 0 value
  let text := (sensitiveValuePattern letters).sub (put 2 redacted) none 0 text
  let text := (windowsPathPattern letters).sub (put 0 redactedPath) none 0 text
  unixPathPattern.sub (put 0 redactedPath) none 0 text

/-- Whether a key holds one of the words, anywhere in it. -/
def isSensitiveKey (key : List Char) : Bool :=
  key.tails.any fun rest =>
    ((Pattern.anyOf (keyWords.map fun w => Pattern.text (word w))).first none rest).isSome

mutual

/-- Redact values before append-only audit storage. -/
def redactAuditValue (letters : Letters) : Json → Json
  | .obj fs => .obj (redactMembers letters fs)
  | .arr xs => .arr (redactElems letters xs)
  | .str s => .str (String.ofList (redactText letters s.toList))
  | value => value

def redactElems (letters : Letters) : List Json → List Json
  | [] => []
  | x :: xs => redactAuditValue letters x :: redactElems letters xs

def redactMembers (letters : Letters) : List (String × Json) → List (String × Json)
  | [] => []
  | (key, item) :: fs =>
      (key, if isSensitiveKey key.toList then .str "[REDACTED]" else redactAuditValue letters item)
        :: redactMembers letters fs

end

/-! ## What the patterns match -/

theorem isToken_of_isSpace {c : Char} (space : Py.isSpace c = true) : isToken c = false := by
  unfold isToken
  rw [Bool.or_eq_false_iff, Bool.or_eq_false_iff]
  refine ⟨⟨?_, ?_⟩, ?_⟩
  · cases letter : isLetter c with
    | false => rfl
    | true => rw [isSpace_of_isLetter letter] at space; cases space
  · unfold Py.isSpace at space
    refine decide_eq_false fun digit => ?_
    have low : 48 ≤ c.toNat := digit.1
    have high : c.toNat ≤ 57 := digit.2
    simp only [Bool.or_eq_true, Bool.and_eq_true, decide_eq_true_eq, beq_iff_eq] at space
    omega
  · cases mem : List.contains ['.', '_', '~', '+', '/', '=', '-'] c with
    | false => rfl
    | true =>
        have mem := List.contains_iff_mem.mp mem
        simp only [List.mem_cons, List.not_mem_nil, or_false] at mem
        rcases mem with rfl | rfl | rfl | rfl | rfl | rfl | rfl <;> cases space

theorem isSpace_of_isToken {c : Char} (token : isToken c = true) : Py.isSpace c = false := by
  cases space : Py.isSpace c with
  | false => rfl
  | true => rw [isToken_of_isSpace space] at token; cases token

theorem isToken_of_isLetter {c : Char} (letter : isLetter c = true) : isToken c = true := by
  unfold isToken
  rw [letter, Bool.true_or, Bool.true_or]

theorem isSign_of_isSpace {c : Char} (space : Py.isSpace c = true) : isSign c = false := by
  cases sign : isSign c with
  | false => rfl
  | true =>
      rcases Bool.or_eq_true_iff.mp sign with colon | equals
      · rw [beq_iff_eq.mp colon] at space
        cases space
      · rw [beq_iff_eq.mp equals] at space
        cases space

theorem isValue_of_isSpace {c : Char} (space : Py.isSpace c = true) : isValue c = false := by
  unfold isValue
  rw [space]
  rfl

theorem isValue_of_isLetter {c : Char} (letter : isLetter c = true) : isValue c = true := by
  have number := toNat_of_isLetter letter
  unfold isValue
  rw [isSpace_of_isLetter letter, Bool.false_or, Bool.not_eq_true', Bool.or_eq_false_iff,
    beq_eq_false_iff_ne, beq_eq_false_iff_ne]
  constructor <;> rintro rfl <;> revert number <;> decide

theorem isSpace_of_isValue {c : Char} (value : isValue c = true) : Py.isSpace c = false := by
  cases space : Py.isSpace c with
  | false => rfl
  | true => rw [isValue_of_isSpace space] at value; cases value

theorem isSpace_of_isSign {c : Char} (sign : isSign c = true) : Py.isSpace c = false := by
  cases space : Py.isSpace c with
  | false => rfl
  | true => rw [isSign_of_isSpace space] at sign; cases sign

/-- What is no bracket: a letter, a space, a sign, a character of a token. -/
theorem ne_bracket {p : Char → Bool} (other : p '[' = false) {c : Char} (isOne : p c = true) :
    c ≠ '[' := by
  rintro rfl
  rw [other] at isOne
  cases isOne

/-- The text is a word, case ignored. -/
def Spells (w : String) (name : List Char) : Prop :=
  List.Forall₂ (fun p x => p x = true) (word w) name

theorem lower_sensitiveWords :
    ∀ w ∈ sensitiveWords, w.toList ≠ [] ∧ w.toList.all Py.isLowerAscii = true := by decide

/-- The characters of a word are letters. -/
theorem Spells.letters {w : String} (mem : w ∈ sensitiveWords) {name : List Char}
    (spells : Spells w name) : ∀ x ∈ name, isLetter x = true := by
  have letters : ∀ {ls name : List Char}, ls.all Py.isLowerAscii = true →
      List.Forall₂ (fun p x => p x = true) (ls.map folds) name →
      ∀ x ∈ name, isLetter x = true := by
    intro ls
    induction ls with
    | nil =>
        intro name _ matches_ x mem
        cases matches_
        cases mem
    | cons l ls ih =>
        intro name lower matches_ x mem
        obtain ⟨isLower, lower⟩ := Bool.and_eq_true_iff.mp lower
        cases matches_ with
        | cons isOne matches_ =>
            rcases List.mem_cons.mp mem with rfl | mem
            · exact isLetter_of_folds isLower isOne
            · exact ih lower matches_ x mem
  exact letters (lower_sensitiveWords w mem).2 spells

theorem Spells.exists_cons {w : String} (mem : w ∈ sensitiveWords) {name : List Char}
    (spells : Spells w name) : ∃ x more, name = x :: more ∧ isLetter x = true := by
  obtain ⟨x, more, rfl⟩ := List.exists_cons_of_ne_nil (l := name) (by
    rintro rfl
    exact (lower_sensitiveWords w mem).1
      (List.map_eq_nil_iff.mp (List.forall₂_nil_right_iff.mp spells)))
  exact ⟨x, more, rfl, spells.letters mem x List.mem_cons_self⟩

/-- A letter begins a word where no word went before. -/
theorem isEdge_of_isLetter {letters : Letters} {x : Char} (letter : isLetter x = true)
    (last : Option Char) (rest : List Char) :
    isEdge (isWord letters) last (x :: rest) = !last.any (isWord letters) := by
  show (_ != isWord letters x) = _
  rw [isWord_of_isLetter letters letter, Bool.bne_true]

theorem Spells.isEdge {letters : Letters} {w : String} (mem : w ∈ sensitiveWords)
    {name : List Char} (spells : Spells w name) (last : Option Char) (rest : List Char) :
    isEdge (isWord letters) last (name ++ rest) = !last.any (isWord letters) := by
  obtain ⟨x, more, rfl, letter⟩ := spells.exists_cons mem
  exact isEdge_of_isLetter letter last (more ++ rest)

theorem Spells.ne_nil {w : String} (mem : w ∈ sensitiveWords) {name : List Char}
    (spells : Spells w name) : name ≠ [] := by
  obtain ⟨x, more, rfl, -⟩ := spells.exists_cons mem
  exact List.cons_ne_nil x more

theorem Spells.isWord {letters : Letters} {w : String} (mem : w ∈ sensitiveWords)
    {name : List Char} (spells : Spells w name) : ∀ x ∈ name, isWord letters x = true :=
  fun x here => isWord_of_isLetter letters (spells.letters mem x here)

/-- No sensitive word begins as the marks do. -/
theorem Spells.not_mark {w : String} (mem : w ∈ sensitiveWords) {more : List Char}
    (spells : Spells w ('R' :: more)) : False := by
  have others : ∀ w ∈ sensitiveWords, (word w).head?.all (fun p => !p 'R') = true := by decide
  have other := others w mem
  unfold Spells at spells
  generalize word w = ps at other spells
  cases spells with
  | @cons p _ ps _ isOne _ =>
      have other : (!p 'R') = true := other
      rw [isOne] at other
      cases other

/-- A bearer token begins: after the character `last` there is its name, a gap and the
character `x`. -/
structure Bearer (letters : Letters) (last : Option Char) (name gap : List Char) (x : Char) :
    Prop where
  starts : last.any (isWord letters) = false
  spells : Spells "bearer" name
  gap_ne : gap ≠ []
  isGap : ∀ y ∈ gap, Py.isSpace y = true
  isToken : isToken x = true

theorem bearer_mem : "bearer" ∈ sensitiveWords := by decide

section Matches

open Pattern

variable {letters : Letters} {last : Option Char} {xs : List Char}

theorem bearer_of_first {m : Match Char}
    (matched : (bearerPattern letters).first last xs = some m) :
    ∃ name gap x token, xs = name ++ (gap ++ (x :: token ++ m.stop.rest)) ∧
      Bearer letters last name gap x ∧ m.groups = [name ++ gap, x :: token] ∧
      (∀ y ∈ x :: token, isToken y = true) ∧ Off isToken m.stop.rest := by
  rw [Pattern.first, bearerPattern] at matched
  obtain ⟨starts, matched⟩ := run_edge_seq_some matched
  rw [run_seq, run_group, run_seq] at matched
  obtain ⟨name, rest, rfl, spells, matched⟩ := run_text_some matched
  rw [Spells.isEdge bearer_mem spells, Bool.not_eq_true'] at starts
  obtain ⟨gap, rest, rfl, isGap, off⟩ := exists_run Py.isSpace rest
  by_cases gap_ne : gap = []
  · subst gap_ne
    rw [List.nil_append, run_plus_off off] at matched
    cases matched
  · rw [run_plus_past (fun last x xs space =>
      (run_group _ _ _).trans (run_plus_off (off_cons (isToken_of_isSpace space) xs)))
      gap_ne isGap off] at matched
    obtain ⟨token, rest, rfl, token_ne, isToken, stops, matched⟩ :=
      run_plus_some (by exact fun _ => rfl) ((run_group _ _ _).symm.trans matched)
    obtain rfl := Option.some.inj matched
    obtain ⟨x, token, rfl⟩ := List.exists_cons_of_ne_nil token_ne
    refine ⟨name, gap, x, token, rfl,
      ⟨starts, spells, gap_ne, isGap, isToken x List.mem_cons_self⟩, ?_, isToken, stops⟩
    exact congrArg₂ List.cons (upTo_eq (List.append_assoc name gap _).symm)
      (congrArg₂ List.cons (upTo_eq rfl) rfl)

/-- Where a bearer token begins, the pattern matches. -/
theorem Bearer.isSome {name gap : List Char} {x : Char} (bearer : Bearer letters last name gap x)
    (rest : List Char) :
    ((bearerPattern letters).first last (name ++ (gap ++ x :: rest))).isSome = true := by
  have stops : Off Py.isSpace (x :: rest) := off_cons (isSpace_of_isToken bearer.isToken) rest
  rw [Pattern.first, bearerPattern, run_edge_seq, if_pos, run_seq, run_group, run_seq,
    run_text bearer.spells, run_plus_past (fun last x xs space =>
      (run_group _ _ _).trans (run_plus_off (off_cons (isToken_of_isSpace space) xs)))
      bearer.gap_ne bearer.isGap stops]
  · show ((group (plus Redaction.isToken)).run ⟨_, _⟩ _).isSome = true
    rw [run_group]
    exact run_plus_isSome (by exact fun _ => rfl) bearer.isToken rest
  · rw [Spells.isEdge bearer_mem bearer.spells, bearer.starts, Bool.not_false]

/-- A sensitive word with its sign: after the character `last`. -/
structure Assigned (letters : Letters) (last : Option Char) (name sep : List Char) : Prop where
  starts : last.any (isWord letters) = false
  spells : ∃ w ∈ sensitiveWords, Spells w name
  ends : Off (isWord letters) sep
  separates : ∃ gap x gap', sep = gap ++ x :: gap' ∧ (∀ y ∈ gap, Py.isSpace y = true) ∧
    isSign x = true ∧ ∀ y ∈ gap', Py.isSpace y = true

theorem Assigned.sep_ne {name sep : List Char} (assigned : Assigned letters last name sep) :
    sep ≠ [] := by
  obtain ⟨gap, x, gap', rfl, -⟩ := assigned.separates
  exact List.append_ne_nil_of_right_ne_nil _ (List.cons_ne_nil x gap')

theorem assigned_of_first {m : Match Char}
    (matched : (sensitiveValuePattern letters).first last xs = some m) :
    ∃ name sep value, xs = name ++ (sep ++ (value ++ m.stop.rest)) ∧
      Assigned letters last name sep ∧ m.groups = [name, sep, value] ∧ value ≠ [] ∧
      (∀ y ∈ value, isValue y = true) ∧ Off isValue m.stop.rest := by
  rw [Pattern.first, sensitiveValuePattern] at matched
  obtain ⟨starts, matched⟩ := run_edge_seq_some matched
  rw [run_seq, run_group] at matched
  obtain ⟨r, here, matched⟩ := run_anyOf_some matched
  obtain ⟨w, mem, rfl⟩ := List.mem_map.mp here
  obtain ⟨name, rest, rfl, spells, matched⟩ := run_text_some matched
  have spells : Spells w name := spells
  rw [spells.isEdge mem, Bool.not_eq_true'] at starts
  obtain ⟨ends, matched⟩ := run_edge_seq_some matched
  rw [isEdge_iff_off (lastOf_any (spells.ne_nil mem) (spells.isWord mem) last)] at ends
  rw [run_seq, run_group, run_seq] at matched
  obtain ⟨gap, rest, rfl, isGap, off⟩ := exists_run Py.isSpace rest
  rw [run_many_past (fun last x xs space => (run_one_seq _ _ _ _ _ _).trans
    (if_neg (by rw [isSign_of_isSpace space]; exact Bool.false_ne_true))) isGap off] at matched
  obtain ⟨x, rest, rfl, sign, matched⟩ := run_one_seq_some matched
  obtain ⟨gap', rest, rfl, isGap', off'⟩ := exists_run Py.isSpace rest
  rw [run_many_past (fun last x xs space =>
    (run_group _ _ _).trans (run_plus_off (off_cons (isValue_of_isSpace space) xs)))
    isGap' off'] at matched
  obtain ⟨value, rest, rfl, value_ne, isValue, stops, matched⟩ :=
    run_plus_some (by exact fun _ => rfl) ((run_group _ _ _).symm.trans matched)
  obtain rfl := Option.some.inj matched
  have same : gap ++ x :: (gap' ++ (value ++ rest)) = (gap ++ x :: gap') ++ (value ++ rest) := by
    rw [List.append_assoc, List.cons_append]
  have sep_ne : gap ++ x :: gap' ≠ [] :=
    List.append_ne_nil_of_right_ne_nil _ (List.cons_ne_nil x gap')
  refine ⟨name, gap ++ x :: gap', value, congrArg (name ++ ·) same,
    ⟨starts, ⟨w, mem, spells⟩, (off_append sep_ne _).mp (same ▸ ends), gap, x, gap', rfl, isGap,
      sign, isGap'⟩, ?_, value_ne, isValue, stops⟩
  exact congrArg₂ List.cons (upTo_eq rfl) (congrArg₂ List.cons (upTo_eq same)
    (congrArg₂ List.cons (upTo_eq rfl) rfl))

theorem Assigned.isSome {name sep : List Char} (assigned : Assigned letters last name sep)
    {x : Char} (isOne : isValue x = true) (rest : List Char) :
    ((sensitiveValuePattern letters).first last (name ++ (sep ++ x :: rest))).isSome = true := by
  have ends := (off_append assigned.sep_ne (x :: rest)).mpr assigned.ends
  obtain ⟨w, mem, spells⟩ := assigned.spells
  have onEdge := (isEdge_iff_off (lastOf_any (spells.ne_nil mem) (spells.isWord mem) last) _).mpr
    ends
  obtain ⟨gap, s, gap', rfl, isGap, sign, isGap'⟩ := assigned.separates
  rw [List.append_assoc, List.cons_append] at onEdge ⊢
  rw [Pattern.first, sensitiveValuePattern, run_edge_seq, if_pos, run_seq, run_group]
  · refine run_anyOf_isSome (List.mem_map_of_mem mem) ?_
    rw [run_text spells]
    show ((seq (edge (isWord letters)) _).run ⟨_, _⟩ _).isSome = true
    rw [run_edge_seq, if_pos onEdge, run_seq, run_group, run_seq,
      run_many_past (fun last x xs space => (run_one_seq _ _ _ _ _ _).trans
        (if_neg (by rw [isSign_of_isSpace space]; exact Bool.false_ne_true))) isGap
        (off_cons (isSpace_of_isSign sign) _), run_one_seq, if_pos sign,
      run_many_past (fun last x xs space =>
        (run_group _ _ _).trans (run_plus_off (off_cons (isValue_of_isSpace space) xs)))
        isGap' (off_cons (isSpace_of_isValue isOne) _)]
    show ((group (plus isValue)).run ⟨_, _⟩ _).isSome = true
    rw [run_group]
    exact run_plus_isSome (by exact fun _ => rfl) isOne rest
  · rw [spells.isEdge mem, assigned.starts, Bool.not_false]

/-- **The word, the separator and the value are determined.** -/
theorem Assigned.unique {name name' sep sep' value value' rest rest' : List Char}
    (one : Assigned letters last name sep) (two : Assigned letters last name' sep')
    (some_ : value ≠ []) (some' : value' ≠ []) (all : ∀ y ∈ value, isValue y = true)
    (all' : ∀ y ∈ value', isValue y = true) (stops : Off isValue rest)
    (stops' : Off isValue rest')
    (same : name ++ (sep ++ (value ++ rest)) = name' ++ (sep' ++ (value' ++ rest'))) :
    name = name' ∧ sep = sep' ∧ value = value' ∧ rest = rest' := by
  have unspaced : ∀ {value : List Char}, value ≠ [] → (∀ y ∈ value, isValue y = true) →
      ∀ rest, Off Py.isSpace (value ++ rest) := by
    intro value some_ all rest
    obtain ⟨y, more, rfl⟩ := List.exists_cons_of_ne_nil some_
    exact off_cons (isSpace_of_isValue (all y List.mem_cons_self)) _
  obtain ⟨w, mem, spells⟩ := one.spells
  obtain ⟨w', mem', spells'⟩ := two.spells
  obtain ⟨names, same⟩ := run_unique (spells.isWord mem) (spells'.isWord mem')
    ((off_append one.sep_ne _).mpr one.ends) ((off_append two.sep_ne _).mpr two.ends) same
  obtain ⟨gap, x, more, rfl, isGap, sign, isMore⟩ := one.separates
  obtain ⟨gap', x', more', rfl, isGap', sign', isMore'⟩ := two.separates
  rw [List.append_assoc, List.append_assoc, List.cons_append, List.cons_append] at same
  obtain ⟨gaps, same⟩ := run_unique isGap isGap' (off_cons (isSpace_of_isSign sign) _)
    (off_cons (isSpace_of_isSign sign') _) same
  obtain ⟨signs, same⟩ := List.cons.inj same
  obtain ⟨mores, same⟩ := run_unique isMore isMore' (unspaced some_ all rest)
    (unspaced some' all' rest') same
  obtain ⟨values, rests⟩ := run_unique all all' stops stops' same
  exact ⟨names, by rw [gaps, signs, mores], values, rests⟩

theorem windowsPath_of_first {m : Match Char}
    (matched : (windowsPathPattern letters).first last xs = some m) :
    ∃ x value, xs = x :: ':' :: '\\' :: (value ++ m.stop.rest) ∧
      last.any (isWord letters) = false ∧ isLetter x = true ∧ m.groups = [] ∧ value ≠ [] ∧
      (∀ y ∈ value, isValue y = true) ∧ Off isValue m.stop.rest := by
  rw [Pattern.first, windowsPathPattern] at matched
  obtain ⟨starts, matched⟩ := run_edge_seq_some matched
  obtain ⟨x, rest, rfl, letter, afterLetter⟩ := run_one_seq_some matched
  obtain ⟨colon, rest, rfl, isColon, afterColon⟩ := run_one_seq_some afterLetter
  obtain ⟨backslash, rest, rfl, isBackslash, atPath⟩ := run_one_seq_some afterColon
  obtain rfl : colon = ':' := beq_iff_eq.mp isColon
  obtain rfl : backslash = '\\' := beq_iff_eq.mp isBackslash
  obtain ⟨value, rest, rfl, value_ne, isValue, stops, ended⟩ :=
    run_plus_some (by exact fun _ => rfl) atPath
  obtain rfl := Option.some.inj ended
  rw [isEdge_of_isLetter letter, Bool.not_eq_true'] at starts
  exact ⟨x, value, rfl, starts, letter, rfl, value_ne, isValue, stops⟩

theorem windowsPath_isSome {x y : Char} (starts : last.any (isWord letters) = false)
    (letter : isLetter x = true) (isOne : isValue y = true) (rest : List Char) :
    ((windowsPathPattern letters).first last (x :: ':' :: '\\' :: y :: rest)).isSome = true := by
  rw [Pattern.first, windowsPathPattern, run_edge_seq, if_pos, run_one_seq, if_pos letter,
    run_one_seq, if_pos (by rfl), run_one_seq, if_pos (by rfl)]
  · exact run_plus_isSome (by exact fun _ => rfl) isOne rest
  · rw [isEdge_of_isLetter letter, starts, Bool.not_false]

theorem unixPath_of_first {m : Match Char} (matched : unixPathPattern.first last xs = some m) :
    ∃ value, xs = '/' :: (value ++ m.stop.rest) ∧ last.any Py.isAlnumAscii = false ∧
      m.groups = [] ∧ value ≠ [] ∧ (∀ y ∈ value, isValue y = true) ∧ Off isValue m.stop.rest := by
  rw [Pattern.first, unixPathPattern, run_notAfter_seq] at matched
  split at matched
  · cases matched
  · rename_i starts
    obtain ⟨slash, rest, rfl, isSlash, atPath⟩ := run_one_seq_some matched
    obtain rfl : slash = '/' := beq_iff_eq.mp isSlash
    obtain ⟨value, rest, rfl, value_ne, isValue, stops, ended⟩ :=
      run_plus_some (by exact fun _ => rfl) atPath
    obtain rfl := Option.some.inj ended
    exact ⟨value, rfl, Bool.eq_false_iff.mpr starts, rfl, value_ne, isValue, stops⟩

theorem unixPath_isSome {y : Char} (starts : last.any Py.isAlnumAscii = false)
    (isOne : isValue y = true) (rest : List Char) :
    (unixPathPattern.first last ('/' :: y :: rest)).isSome = true := by
  rw [Pattern.first, unixPathPattern, run_notAfter_seq,
    if_neg (by rw [starts]; exact Bool.false_ne_true), run_one_seq, if_pos (by rfl)]
  exact run_plus_isSome (by exact fun _ => rfl) isOne rest

end Matches

/-! ## Clean texts -/

section Clean

variable (letters : Letters) (last : Option Char) (xs : List Char)

/-- A sensitive word begins. -/
def BeginsWord : Prop :=
  last.any (isWord letters) = false ∧
    ∃ w ∈ sensitiveWords, ∃ name rest, Spells w name ∧ xs = name ++ rest

/-- A bearer token begins. -/
def BeginsBearer : Prop :=
  ∃ name gap x rest, xs = name ++ (gap ++ x :: rest) ∧ Bearer letters last name gap x

/-- A sensitive word begins that is given a value, other than the mark. -/
def BeginsAssigned : Prop :=
  ∃ name sep value rest, xs = name ++ (sep ++ (value ++ rest)) ∧
    Assigned letters last name sep ∧ value ≠ [] ∧ (∀ y ∈ value, isValue y = true) ∧
    Off isValue rest ∧ value ≠ redacted

/-- A path with a drive begins. -/
def BeginsWindowsPath : Prop :=
  ∃ x y rest, xs = x :: ':' :: '\\' :: y :: rest ∧ last.any (isWord letters) = false ∧
    isLetter x = true ∧ isValue y = true

/-- A path from the root begins. -/
def BeginsUnixPath : Prop :=
  ∃ y rest, xs = '/' :: y :: rest ∧ last.any Py.isAlnumAscii = false ∧ isValue y = true

/-- What begins nowhere in a text. -/
def Nowhere (Begins : Option Char → List Char → Prop) : Prop :=
  ∀ pre rest, xs = pre ++ rest → ¬ Begins (lastOf none pre) rest

/-- A text in which nothing is left to redact. -/
structure Clean : Prop where
  bearer : Nowhere xs (BeginsBearer letters)
  assigned : Nowhere xs (BeginsAssigned letters)
  windowsPath : Nowhere xs (BeginsWindowsPath letters)
  unixPath : Nowhere xs BeginsUnixPath

end Clean

variable {letters : Letters} {last : Option Char} {xs ys : List Char}

theorem BeginsBearer.word (begins : BeginsBearer letters last xs) : BeginsWord letters last xs := by
  obtain ⟨name, gap, x, rest, rfl, bearer⟩ := begins
  exact ⟨bearer.starts, "bearer", bearer_mem, name, gap ++ x :: rest, bearer.spells, rfl⟩

theorem BeginsAssigned.word (begins : BeginsAssigned letters last xs) :
    BeginsWord letters last xs := by
  obtain ⟨name, sep, value, rest, rfl, assigned, -⟩ := begins
  obtain ⟨w, mem, spells⟩ := assigned.spells
  exact ⟨assigned.starts, w, mem, name, sep ++ (value ++ rest), spells, rfl⟩

/-- Words and paths with a drive begin with a letter, after no word. -/
def Starts (letters : Letters) (last : Option Char) (xs : List Char) : Prop :=
  last.any (isWord letters) = false ∧ ∃ x rest, xs = x :: rest ∧ isLetter x = true

theorem BeginsWord.starts (begins : BeginsWord letters last xs) : Starts letters last xs := by
  obtain ⟨starts, w, mem, name, rest, spells, rfl⟩ := begins
  obtain ⟨x, more, rfl, letter⟩ := spells.exists_cons mem
  exact ⟨starts, x, more ++ rest, rfl, letter⟩

theorem BeginsWindowsPath.starts (begins : BeginsWindowsPath letters last xs) :
    Starts letters last xs := by
  obtain ⟨x, y, rest, rfl, starts, letter, -⟩ := begins
  exact ⟨starts, x, _, rfl, letter⟩

theorem Starts.isLetter {x : Char} (starts : Starts letters last (x :: xs)) :
    isLetter x = true := by
  obtain ⟨-, y, rest, same, letter⟩ := starts
  obtain ⟨rfl, -⟩ := List.cons.inj same
  exact letter

theorem Starts.not_nil : ¬ Starts letters last [] := by
  rintro ⟨-, x, rest, same, -⟩
  cases same

/-- Nothing starts within a word. -/
theorem Starts.not_after {pre : List Char} (some_ : pre ≠ [])
    (all : ∀ x ∈ pre, isWord letters x = true) : ¬ Starts letters (lastOf last pre) xs := by
  rintro ⟨other, -⟩
  rw [lastOf_any some_ all] at other
  cases other

/-- In a mark something can start at its word only. -/
theorem Starts.in_mark {inside pre rest : List Char}
    (all : ∀ x ∈ inside, isWord letters x = true) (split_ : bracketed inside = pre ++ rest)
    (some_ : rest ≠ []) (starts : Starts letters (lastOf last pre) (rest ++ ys)) :
    rest = inside ++ [']'] := by
  cases pre with
  | nil =>
      obtain rfl : bracketed inside = rest := split_
      exact absurd starts.isLetter (by decide)
  | cons y pre =>
      obtain ⟨rfl, later⟩ : '[' = y ∧ inside ++ [']'] = pre ++ rest := List.cons.inj split_
      by_cases none_ : pre = []
      · subst none_
        exact later.symm
      · rw [lastOf_cons] at starts
        refine absurd starts (Starts.not_after none_ fun x mem => all x ?_)
        rcases List.append_eq_append_iff.mp later with ⟨more, rfl, ends⟩ | ⟨more, rfl, -⟩
        · have none_ : more = [] := by
            cases more with
            | nil => rfl
            | cons z more =>
                obtain ⟨-, nil_⟩ := List.cons.inj ends
                exact absurd (List.append_eq_nil_iff.mp nil_.symm).2 some_
          rw [none_, List.append_nil] at mem
          exact mem
        · exact List.mem_append_left more mem

/-- The characters of a mark are those of a word. -/
theorem isWord_of_ascii {inside : List Char}
    (ascii : inside.all (fun c =>
      decide (c.toNat < 128) && (Py.isAlnumAscii c || c == '_')) = true) :
    ∀ x ∈ inside, isWord letters x = true := by
  intro x mem
  obtain ⟨small, isOne⟩ := Bool.and_eq_true_iff.mp (List.all_eq_true.mp ascii x mem)
  unfold isWord
  rw [if_pos (of_decide_eq_true small)]
  exact isOne

theorem isWord_redacted (letters : Letters) :
    ∀ x ∈ ['R', 'E', 'D', 'A', 'C', 'T', 'E', 'D'], isWord letters x = true :=
  isWord_of_ascii (by decide)

theorem isWord_redactedPath (letters : Letters) :
    ∀ x ∈ ['R', 'E', 'D', 'A', 'C', 'T', 'E', 'D', '_', 'P', 'A', 'T', 'H'],
      isWord letters x = true :=
  isWord_of_ascii (by decide)

/-- No sensitive word begins in a mark. -/
theorem BeginsWord.not_in_mark {inside pre rest : List Char}
    (all : ∀ x ∈ 'R' :: inside, isWord letters x = true)
    (split_ : bracketed ('R' :: inside) = pre ++ rest) (some_ : rest ≠ []) :
    ¬ BeginsWord letters (lastOf last pre) (rest ++ ys) := by
  intro begins
  have isRest := begins.starts.in_mark all split_ some_
  obtain ⟨-, w, mem, name, more, spells, same⟩ := begins
  obtain ⟨x, name, rfl, -⟩ := spells.exists_cons mem
  rw [isRest] at same
  obtain ⟨rfl, -⟩ := List.cons.inj same
  exact spells.not_mark mem

theorem BeginsWindowsPath.not_in_mark {pre rest : List Char}
    (split_ : redactedPath = pre ++ rest) (some_ : rest ≠ []) :
    ¬ BeginsWindowsPath letters (lastOf last pre) (rest ++ ys) := by
  intro begins
  have isRest := begins.starts.in_mark (isWord_redactedPath letters) split_ some_
  obtain ⟨x, y, more, same, -⟩ := begins
  rw [isRest] at same
  obtain ⟨-, same⟩ := List.cons.inj same
  obtain ⟨isColon, -⟩ := List.cons.inj same
  cases isColon

/-- After a substitution that keeps a word and a separator, the word is the only one to
begin in what is written. -/
theorem BeginsWord.in_written {w : String} (mem : w ∈ sensitiveWords) {name sep : List Char}
    (spells : Spells w name) (unlettered : ∀ x ∈ sep, isLetter x = false)
    {inside pre rest : List Char} (all : ∀ x ∈ 'R' :: inside, isWord letters x = true)
    (split_ : name ++ sep ++ bracketed ('R' :: inside) = pre ++ rest) (some_ : rest ≠ [])
    (begins : BeginsWord letters (lastOf last pre) (rest ++ ys)) : pre = [] := by
  rcases List.append_eq_append_iff.mp split_ with ⟨more, rfl, isMark⟩ | ⟨more, isFront, rfl⟩
  · rw [lastOf_append] at begins
    exact absurd begins (BeginsWord.not_in_mark all isMark some_)
  · rcases List.append_eq_append_iff.mp isFront with ⟨more', rfl, rfl⟩ | ⟨more', rfl, rfl⟩
    · cases more with
      | nil =>
          exact absurd begins.starts.isLetter (by decide)
      | cons z more =>
          have letter := begins.starts.isLetter
          rw [unlettered z (List.mem_append_right _ List.mem_cons_self)] at letter
          cases letter
    · by_contra none_
      exact Starts.not_after none_
        (fun x here => spells.isWord mem x (List.mem_append_left _ here)) begins.starts

/-! ### Tracing back -/

section Traced

variable {p : Char → Bool} {Q : List Char → Prop} {mark : List Char}

theorem BeginsBearer.traced (cuts : Cuts p Q ('[' :: mark) last xs ys)
    (begins : BeginsBearer letters last ys) : BeginsBearer letters last xs := by
  obtain ⟨name, gap, x, rest, rfl, bearer⟩ := begins
  obtain ⟨xs', rfl, cuts₁⟩ := cuts.front_inv fun y mem =>
    ne_bracket (p := isLetter) (by decide) (bearer.spells.letters bearer_mem y mem)
  obtain ⟨xs'', rfl, cuts₂⟩ := cuts₁.front_inv fun y mem =>
    ne_bracket (p := Py.isSpace) (by decide) (bearer.isGap y mem)
  obtain ⟨rest', rfl, -⟩ := cuts₂.cons_inv (ne_bracket (p := isToken) (by decide) bearer.isToken)
  exact ⟨name, gap, x, rest', rfl, bearer⟩

theorem Assigned.traced {name sep zs : List Char} (assigned : Assigned letters last name sep)
    (cuts : Cuts p Q ('[' :: mark) last xs (name ++ (sep ++ zs))) :
    ∃ zs', xs = name ++ (sep ++ zs') ∧
      Cuts p Q ('[' :: mark) (lastOf (lastOf last name) sep) zs' zs := by
  obtain ⟨w, mem, spells⟩ := assigned.spells
  obtain ⟨gap, x, gap', rfl, isGap, sign, isGap'⟩ := assigned.separates
  obtain ⟨xs', rfl, cuts'⟩ := cuts.front_inv fun y here =>
    ne_bracket (p := isLetter) (by decide) (spells.letters mem y here)
  obtain ⟨zs', rfl, cuts''⟩ := cuts'.front_inv fun y here => by
    rcases List.mem_append.mp here with here | here
    · exact ne_bracket (p := Py.isSpace) (by decide) (isGap y here)
    · rcases List.mem_cons.mp here with rfl | here
      · exact ne_bracket (p := isSign) (by decide) sign
      · exact ne_bracket (p := Py.isSpace) (by decide) (isGap' y here)
  exact ⟨zs', rfl, cuts''⟩

/-- A value that is not the mark was none before, if what was cut is foreign to the mark. -/
theorem BeginsAssigned.traced (inMark : ∀ x ∈ '[' :: mark, isValue x = true)
    (foreign : ∀ tail, Q tail → ∃ c ∈ tail, c ∉ redacted)
    (cuts : Cuts isValue Q ('[' :: mark) last xs ys) (begins : BeginsAssigned letters last ys) :
    BeginsAssigned letters last xs := by
  obtain ⟨name, sep, value, rest, rfl, assigned, some_, all, stops, unmarked⟩ := begins
  obtain ⟨zs', rfl, cuts'⟩ := assigned.traced cuts
  obtain ⟨run, rest', rfl, all', stops', same | ⟨kept, tail, rfl, has, -⟩⟩ :=
    cuts'.run_inv inMark (List.cons_ne_nil _ _) all stops
  · subst same
    exact ⟨name, sep, run, rest', rfl, assigned, some_, all', stops', unmarked⟩
  · obtain ⟨c, here, isForeign⟩ := foreign tail has
    refine ⟨name, sep, kept ++ tail, rest', rfl, assigned, ?_, all', stops', fun same => ?_⟩
    · rintro nil_
      rw [(List.append_eq_nil_iff.mp nil_).2] at here
      cases here
    · exact isForeign (same ▸ List.mem_append_right kept here)

theorem BeginsWindowsPath.traced (cuts : Cuts isValue Q ('[' :: mark) last xs ys)
    (begins : BeginsWindowsPath letters last ys) : BeginsWindowsPath letters last xs := by
  obtain ⟨x, y, rest, rfl, starts, letter, isOne⟩ := begins
  obtain ⟨_, rfl, cuts₁⟩ := cuts.cons_inv (ne_bracket (p := isLetter) (by decide) letter)
  obtain ⟨_, rfl, cuts₂⟩ := cuts₁.cons_inv (by decide)
  obtain ⟨_, rfl, cuts₃⟩ := cuts₂.cons_inv (by decide)
  obtain ⟨y', rest', rfl, rfl | isOne'⟩ := cuts₃.head_inv
  · exact ⟨x, y', rest', rfl, starts, letter, isOne⟩
  · exact ⟨x, y', rest', rfl, starts, letter, isOne'⟩

theorem BeginsUnixPath.traced (cuts : Cuts isValue Q ('[' :: mark) last xs ys)
    (begins : BeginsUnixPath last ys) : BeginsUnixPath last xs := by
  obtain ⟨y, rest, rfl, starts, isOne⟩ := begins
  obtain ⟨_, rfl, cuts₁⟩ := cuts.cons_inv (by decide)
  obtain ⟨y', rest', rfl, rfl | isOne'⟩ := cuts₁.head_inv
  · exact ⟨y', rest', rfl, starts, isOne⟩
  · exact ⟨y', rest', rfl, starts, isOne'⟩

end Traced

/-! ## The substitutions -/

theorem isLetter_of_isSpace {c : Char} (space : Py.isSpace c = true) : isLetter c = false := by
  cases letter : isLetter c with
  | false => rfl
  | true => rw [isSpace_of_isLetter letter] at space; cases space

theorem isLetter_of_isSign {c : Char} (sign : isSign c = true) : isLetter c = false := by
  rcases Bool.or_eq_true_iff.mp sign with colon | equals
  · rw [beq_iff_eq.mp colon]
    decide
  · rw [beq_iff_eq.mp equals]
    decide

theorem Assigned.unlettered {name sep : List Char} (assigned : Assigned letters last name sep) :
    ∀ x ∈ sep, isLetter x = false := by
  obtain ⟨gap, x, gap', rfl, isGap, sign, isGap'⟩ := assigned.separates
  intro y mem
  rcases List.mem_append.mp mem with here | here
  · exact isLetter_of_isSpace (isGap y here)
  · rcases List.mem_cons.mp here with rfl | here
    · exact isLetter_of_isSign sign
    · exact isLetter_of_isSpace (isGap' y here)

/-! ### Bearer tokens -/

theorem bearer_cuts (subs : Subs (bearerPattern letters) (put 1 redacted) last xs ys) :
    Cuts isToken (fun _ => True) redacted last xs ys :=
  subs.cuts fun {last xs m} matched => by
    obtain ⟨name, gap, x, token, rfl, -, groups, all, stops⟩ := bearer_of_first matched
    refine ⟨name ++ gap, x :: token, (List.append_assoc _ _ _).symm, ?_, List.cons_ne_nil _ _, all,
      trivial, stops⟩
    rw [groups]
    exact congrArg (· ++ redacted) (List.append_nil (name ++ gap))

/-- No bearer token is left. -/
theorem bearer_nowhere (subs : Subs (bearerPattern letters) (put 1 redacted) none xs ys) :
    Nowhere ys (BeginsBearer letters) := by
  refine subs.nowhere (fun last begins => begins.word.starts.not_nil) ?_ ?_ ?_
  · intro last x xs ys unmatched subs begins
    obtain ⟨name, gap, x', rest, same, bearer⟩ := begins.traced (.keep (bearer_cuts subs))
    have matches_ := bearer.isSome rest
    rw [← same, unmatched] at matches_
    cases matches_
  · intro last xs m ys matched subs pre rest split_ some_ begins
    obtain ⟨name, gap, x, token, rfl, bearer, groups, -, -⟩ := bearer_of_first matched
    have isWritten : name ++ gap ++ redacted = pre ++ rest := by
      rw [← split_, groups]
      exact congrArg (· ++ redacted) (List.append_nil (name ++ gap)).symm
    obtain rfl := begins.word.in_written bearer_mem bearer.spells
      (fun y mem => isLetter_of_isSpace (bearer.isGap y mem)) (isWord_redacted letters) isWritten
      some_
    obtain rfl : name ++ gap ++ redacted = rest := isWritten
    obtain ⟨name', gap', x', rest', same, bearer'⟩ := begins
    rw [List.append_assoc, List.append_assoc] at same
    obtain ⟨-, same⟩ := List.append_inj same
      (bearer.spells.length_eq.symm.trans bearer'.spells.length_eq)
    obtain ⟨-, same⟩ := run_unique bearer.isGap bearer'.isGap (off_cons (by decide) _)
      (off_cons (isSpace_of_isToken bearer'.isToken) _) same
    obtain ⟨rfl, -⟩ := List.cons.inj same
    exact absurd bearer'.isToken (by decide)
  · intro last xs m ys matched subs last' begins
    obtain ⟨name, gap, x, token, -, -, -, -, stops⟩ := bearer_of_first matched
    have off := (bearer_cuts subs).off stops
    obtain ⟨-, y, rest, rfl, letter⟩ := begins.word.starts
    have other := off y rfl
    rw [isToken_of_isLetter letter] at other
    cases other

/-! ### Values -/

theorem assigned_cuts (subs : Subs (sensitiveValuePattern letters) (put 2 redacted) last xs ys) :
    Cuts isValue (fun _ => True) redacted last xs ys :=
  subs.cuts fun {last xs m} matched => by
    obtain ⟨name, sep, value, rfl, -, groups, some_, all, stops⟩ := assigned_of_first matched
    refine ⟨name ++ sep, value, (List.append_assoc _ _ _).symm, ?_, some_, all, trivial, stops⟩
    rw [groups]
    exact congrArg (fun sep => name ++ sep ++ redacted) (List.append_nil sep)

theorem isValue_redacted : ∀ x ∈ redacted, isValue x = true := List.all_eq_true.mp (by decide)

theorem isValue_redactedPath : ∀ x ∈ redactedPath, isValue x = true :=
  List.all_eq_true.mp (by decide)

/-- No sensitive word is left with a value but the mark. -/
theorem assigned_nowhere
    (subs : Subs (sensitiveValuePattern letters) (put 2 redacted) none xs ys) :
    Nowhere ys (BeginsAssigned letters) := by
  refine subs.nowhere (fun last begins => begins.word.starts.not_nil) ?_ ?_ ?_
  · intro last x xs ys unmatched subs begins
    obtain ⟨name, sep, value, rest, same, assigned, some_, all, -⟩ := begins
    have cuts : Cuts isValue (fun _ => True) redacted last (x :: xs) (x :: ys) :=
      .keep (assigned_cuts subs)
    rw [same] at cuts
    obtain ⟨zs', isText, cuts'⟩ := assigned.traced cuts
    obtain ⟨y, value, rfl⟩ := List.exists_cons_of_ne_nil some_
    obtain ⟨y', rest', rfl, isOne⟩ := cuts'.head_inv
    have isOne : isValue y' = true := by
      rcases isOne with rfl | isOne
      · exact all y' List.mem_cons_self
      · exact isOne
    have matches_ := assigned.isSome isOne rest'
    rw [← isText, unmatched] at matches_
    cases matches_
  · intro last xs m ys matched subs pre rest split_ some_ begins
    obtain ⟨name, sep, value, rfl, assigned, groups, -, -, stops⟩ := assigned_of_first matched
    have isWritten : name ++ sep ++ redacted = pre ++ rest := by
      rw [← split_, groups]
      exact congrArg (fun sep => name ++ sep ++ redacted) (List.append_nil sep).symm
    obtain ⟨w, mem, spells⟩ := assigned.spells
    obtain rfl := begins.word.in_written mem spells assigned.unlettered (isWord_redacted letters)
      isWritten some_
    obtain rfl : name ++ sep ++ redacted = rest := isWritten
    obtain ⟨name', sep', value', rest', same, assigned', some', all', stops', unmarked⟩ := begins
    rw [List.append_assoc, List.append_assoc] at same
    obtain ⟨-, -, marked, -⟩ := assigned.unique assigned' (List.cons_ne_nil _ _) some'
      isValue_redacted all' ((assigned_cuts subs).off stops) stops' same
    exact unmarked marked.symm
  · intro last xs m ys matched subs last' begins
    obtain ⟨name, sep, value, -, -, -, -, -, stops⟩ := assigned_of_first matched
    have off := (assigned_cuts subs).off stops
    obtain ⟨-, y, rest, rfl, letter⟩ := begins.word.starts
    have other := off y rfl
    rw [isValue_of_isLetter letter] at other
    cases other

/-! ### Paths -/

theorem windowsPath_cuts
    (subs : Subs (windowsPathPattern letters) (put 0 redactedPath) last xs ys) :
    Cuts isValue (fun tail => ':' ∈ tail) redactedPath last xs ys :=
  subs.cuts fun {last xs m} matched => by
    obtain ⟨x, value, rfl, -, letter, groups, -, all, stops⟩ := windowsPath_of_first matched
    refine ⟨[], x :: ':' :: '\\' :: value, rfl, by rw [groups]; rfl, List.cons_ne_nil _ _, ?_,
      List.mem_cons_of_mem _ List.mem_cons_self, stops⟩
    exact List.forall_mem_cons.mpr ⟨isValue_of_isLetter letter,
      List.forall_mem_cons.mpr ⟨by decide, List.forall_mem_cons.mpr ⟨by decide, all⟩⟩⟩

theorem windowsPath_nowhere
    (subs : Subs (windowsPathPattern letters) (put 0 redactedPath) none xs ys) :
    Nowhere ys (BeginsWindowsPath letters) := by
  refine subs.nowhere (fun last begins => begins.starts.not_nil) ?_ ?_ ?_
  · intro last x xs ys unmatched subs begins
    obtain ⟨x', y, rest, same, starts, letter, isOne⟩ :=
      begins.traced (.keep (windowsPath_cuts subs))
    have matches_ := windowsPath_isSome starts letter isOne rest
    rw [← same, unmatched] at matches_
    cases matches_
  · intro last xs m ys matched subs pre rest split_ some_ begins
    obtain ⟨x, value, -, -, -, groups, -⟩ := windowsPath_of_first matched
    rw [groups] at split_
    exact BeginsWindowsPath.not_in_mark split_ some_ begins
  · intro last xs m ys matched subs last' begins
    obtain ⟨x, value, -, -, -, -, -, -, stops⟩ := windowsPath_of_first matched
    have off := (windowsPath_cuts subs).off stops
    obtain ⟨-, y, rest, rfl, letter⟩ := begins.starts
    have other := off y rfl
    rw [isValue_of_isLetter letter] at other
    cases other

theorem unixPath_cuts (subs : Subs unixPathPattern (put 0 redactedPath) last xs ys) :
    Cuts isValue (fun tail => '/' ∈ tail) redactedPath last xs ys :=
  subs.cuts fun {last xs m} matched => by
    obtain ⟨value, rfl, -, groups, -, all, stops⟩ := unixPath_of_first matched
    exact ⟨[], '/' :: value, rfl, by rw [groups]; rfl, List.cons_ne_nil _ _,
      List.forall_mem_cons.mpr ⟨by decide, all⟩, List.mem_cons_self, stops⟩

theorem unixPath_nowhere (subs : Subs unixPathPattern (put 0 redactedPath) none xs ys) :
    Nowhere ys BeginsUnixPath := by
  refine subs.nowhere (fun last begins => ?_) ?_ ?_ ?_
  · obtain ⟨y, rest, same, -⟩ := begins
    cases same
  · intro last x xs ys unmatched subs begins
    obtain ⟨y, rest, same, starts, isOne⟩ := begins.traced (.keep (unixPath_cuts subs))
    have matches_ := unixPath_isSome starts isOne rest
    rw [← same, unmatched] at matches_
    cases matches_
  · intro last xs m ys matched subs pre rest split_ some_ begins
    obtain ⟨value, -, -, groups, -⟩ := unixPath_of_first matched
    rw [groups] at split_
    obtain ⟨x, rest, rfl⟩ := List.exists_cons_of_ne_nil some_
    obtain ⟨y, more, same, -⟩ := begins
    obtain ⟨rfl, -⟩ := List.cons.inj same
    have inMark : '/' ∈ redactedPath := by
      rw [show redactedPath = pre ++ '/' :: rest from split_]
      exact List.mem_append_right pre List.mem_cons_self
    exact absurd inMark (by decide)
  · intro last xs m ys matched subs last' begins
    obtain ⟨value, -, -, -, -, -, stops⟩ := unixPath_of_first matched
    have off := (unixPath_cuts subs).off stops
    obtain ⟨y, rest, rfl, -⟩ := begins
    have other := off '/' rfl
    exact absurd other (by decide)

/-! ### One substitution after another -/

/-- A text that was cut off before values has no more bearer tokens and words with values. -/
theorem nowhere_cut {Q : List Char → Prop} {inside : List Char}
    (all : ∀ x ∈ 'R' :: inside, isWord letters x = true)
    (cuts : Cuts isValue Q (bracketed ('R' :: inside)) none xs ys) :
    (Nowhere xs (BeginsBearer letters) → Nowhere ys (BeginsBearer letters)) ∧
    ((∀ x ∈ bracketed ('R' :: inside), isValue x = true) →
      (∀ tail, Q tail → ∃ c ∈ tail, c ∉ redacted) →
      Nowhere xs (BeginsAssigned letters) → Nowhere ys (BeginsAssigned letters)) :=
  ⟨fun nowhere => cuts.nowhere (fun _ begins => begins.word.starts.not_nil)
      (fun cuts begins => begins.traced cuts)
      (fun begins => isValue_of_isLetter begins.word.starts.isLetter)
      (fun split_ some_ begins => begins.word.not_in_mark all split_ some_) nowhere,
    fun inMark foreign nowhere => cuts.nowhere (fun _ begins => begins.word.starts.not_nil)
      (fun cuts begins => begins.traced inMark foreign cuts)
      (fun begins => isValue_of_isLetter begins.word.starts.isLetter)
      (fun split_ some_ begins => begins.word.not_in_mark all split_ some_) nowhere⟩

theorem bearerPattern_eats : (bearerPattern letters).eats = true := by
  simp only [bearerPattern, Pattern.plus, Pattern.eats, Bool.or_true, Bool.true_or]

theorem sensitiveValuePattern_eats : (sensitiveValuePattern letters).eats = true := by
  simp only [sensitiveValuePattern, Pattern.plus, Pattern.eats, Bool.or_true, Bool.true_or]

theorem windowsPathPattern_eats : (windowsPathPattern letters).eats = true := rfl

theorem unixPathPattern_eats : unixPathPattern.eats = true := rfl

/-- **What a redaction returns is clean.** -/
theorem redactText_clean (letters : Letters) (value : List Char) :
    Clean letters (redactText letters value) := by
  have bearer : Subs (bearerPattern letters) (put 1 redacted) none value _ :=
    Pattern.sub_subs bearerPattern_eats none value
  unfold redactText
  dsimp only
  generalize (bearerPattern letters).sub (put 1 redacted) none 0 value = t₁ at bearer ⊢
  have assigned : Subs (sensitiveValuePattern letters) (put 2 redacted) none t₁ _ :=
    Pattern.sub_subs sensitiveValuePattern_eats none t₁
  generalize (sensitiveValuePattern letters).sub (put 2 redacted) none 0 t₁ = t₂ at assigned ⊢
  have windowsPath : Subs (windowsPathPattern letters) (put 0 redactedPath) none t₂ _ :=
    Pattern.sub_subs windowsPathPattern_eats none t₂
  generalize (windowsPathPattern letters).sub (put 0 redactedPath) none 0 t₂ = t₃
    at windowsPath ⊢
  have unixPath : Subs unixPathPattern (put 0 redactedPath) none t₃ _ :=
    Pattern.sub_subs unixPathPattern_eats none t₃
  generalize unixPathPattern.sub (put 0 redactedPath) none 0 t₃ = t₄ at unixPath ⊢
  have cut₂ := nowhere_cut (isWord_redacted letters) (assigned_cuts assigned)
  have cut₃ := nowhere_cut (isWord_redactedPath letters) (windowsPath_cuts windowsPath)
  have cut₄ := nowhere_cut (isWord_redactedPath letters) (unixPath_cuts unixPath)
  exact {
    bearer := cut₄.1 (cut₃.1 (cut₂.1 (bearer_nowhere bearer)))
    assigned := cut₄.2 isValue_redactedPath (fun tail has => ⟨'/', has, by decide⟩)
      (cut₃.2 isValue_redactedPath (fun tail has => ⟨':', has, by decide⟩)
        (assigned_nowhere assigned))
    windowsPath := (unixPath_cuts unixPath).nowhere (fun _ begins => begins.starts.not_nil)
      (fun cuts begins => begins.traced cuts)
      (fun begins => isValue_of_isLetter begins.starts.isLetter)
      (fun split_ some_ begins => BeginsWindowsPath.not_in_mark split_ some_ begins)
      (windowsPath_nowhere windowsPath)
    unixPath := unixPath_nowhere unixPath }

/-- **A clean text is left as it is.** -/
theorem Clean.redactText {text : List Char} (clean : Clean letters text) :
    redactText letters text = text := by
  unfold Redaction.redactText
  dsimp only
  rw [(Pattern.sub_subs bearerPattern_eats none text).eq_self,
    (Pattern.sub_subs sensitiveValuePattern_eats none text).eq_self,
    (Pattern.sub_subs windowsPathPattern_eats none text).eq_self,
    (Pattern.sub_subs unixPathPattern_eats none text).eq_self]
  · intro pre rest m split_ matched
    obtain ⟨value, rfl, starts, -, some_, all, -⟩ := unixPath_of_first matched
    obtain ⟨y, value, rfl⟩ := List.exists_cons_of_ne_nil some_
    exact absurd ⟨y, value ++ m.stop.rest, rfl, starts, all y List.mem_cons_self⟩
      (clean.unixPath pre _ split_)
  · intro pre rest m split_ matched
    obtain ⟨x, value, rfl, starts, letter, -, some_, all, -⟩ := windowsPath_of_first matched
    obtain ⟨y, value, rfl⟩ := List.exists_cons_of_ne_nil some_
    exact absurd ⟨x, y, value ++ m.stop.rest, rfl, starts, letter, all y List.mem_cons_self⟩
      (clean.windowsPath pre _ split_)
  · intro pre rest m split_ matched
    obtain ⟨name, sep, value, rfl, assigned, groups, some_, all, stops⟩ := assigned_of_first matched
    by_cases marked : value = redacted
    · rw [groups, marked]
      simp only [put, List.take, List.flatten_cons, List.flatten_nil, List.append_nil,
        List.append_assoc]
    · exact absurd ⟨name, sep, value, m.stop.rest, rfl, assigned, some_, all, stops, marked⟩
        (clean.assigned pre _ split_)
  · intro pre rest m split_ matched
    obtain ⟨name, gap, x, token, rfl, bearer, -⟩ := bearer_of_first matched
    exact absurd ⟨name, gap, x, token ++ m.stop.rest, rfl, bearer⟩ (clean.bearer pre _ split_)

/-! ## Values -/

mutual

/-- A value in which nothing is left to redact. -/
def Redacted (letters : Letters) : Json → Prop
  | .obj fs => RedactedMembers letters fs
  | .arr xs => RedactedElems letters xs
  | .str s => Clean letters s.toList
  | _ => True

def RedactedElems (letters : Letters) : List Json → Prop
  | [] => True
  | x :: xs => Redacted letters x ∧ RedactedElems letters xs

def RedactedMembers (letters : Letters) : List (String × Json) → Prop
  | [] => True
  | (key, item) :: fs =>
      (if isSensitiveKey key.toList then item = .str "[REDACTED]" else Redacted letters item) ∧
        RedactedMembers letters fs

end

mutual

theorem redactAuditValue_redacted (letters : Letters) :
    ∀ value, Redacted letters (redactAuditValue letters value)
  | .null | .bool _ | .int _ | .float _ => trivial
  | .str s => by
      show Clean letters (String.ofList (redactText letters s.toList)).toList
      rw [String.toList_ofList]
      exact redactText_clean letters s.toList
  | .arr xs => redactElems_redacted letters xs
  | .obj fs => redactMembers_redacted letters fs

theorem redactElems_redacted (letters : Letters) :
    ∀ xs, RedactedElems letters (redactElems letters xs)
  | [] => trivial
  | x :: xs => ⟨redactAuditValue_redacted letters x, redactElems_redacted letters xs⟩

theorem redactMembers_redacted (letters : Letters) :
    ∀ fs, RedactedMembers letters (redactMembers letters fs)
  | [] => trivial
  | (key, item) :: fs => by
      refine ⟨?_, redactMembers_redacted letters fs⟩
      cases sensitive : isSensitiveKey key.toList with
      | true => rfl
      | false => exact redactAuditValue_redacted letters item

end

mutual

theorem Redacted.redactAuditValue {letters : Letters} :
    ∀ {value}, Redacted letters value → redactAuditValue letters value = value
  | .null, _ | .bool _, _ | .int _, _ | .float _, _ => rfl
  | .str s, clean => by
      have clean : Clean letters s.toList := clean
      show Json.str (String.ofList (redactText letters s.toList)) = .str s
      rw [clean.redactText, String.ofList_toList]
  | .arr _, redacted => congrArg Json.arr (RedactedElems.redactElems redacted)
  | .obj _, redacted => congrArg Json.obj (RedactedMembers.redactMembers redacted)

theorem RedactedElems.redactElems {letters : Letters} :
    ∀ {xs}, RedactedElems letters xs → redactElems letters xs = xs
  | [], _ => rfl
  | _ :: _, redacted => congrArg₂ List.cons redacted.1.redactAuditValue
      (RedactedElems.redactElems redacted.2)

theorem RedactedMembers.redactMembers {letters : Letters} :
    ∀ {fs}, RedactedMembers letters fs → redactMembers letters fs = fs
  | [], _ => rfl
  | (key, item) :: fs, redacted => by
      obtain ⟨member, redacted⟩ := redacted
      refine congrArg₂ List.cons (congrArg (Prod.mk key) ?_)
        (RedactedMembers.redactMembers redacted)
      cases sensitive : isSensitiveKey key.toList with
      | true =>
          rw [sensitive] at member
          exact member.symm
      | false =>
          rw [sensitive] at member
          exact Redacted.redactAuditValue member

end

end RemoteAgent.Redaction
