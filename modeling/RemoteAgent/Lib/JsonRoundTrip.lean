import RemoteAgent.Lib.JsonText

/-!
# Reading back what was written

`Json.loads_dumps`: reading the text of a value gives its canonical form.  With
it, two values have one text exactly when they are the same up to the order of
object keys (`Json.dumps_eq_iff`), so a text, or an injective digest of it, can
stand for the value.

The proof is one induction over the value (`parseValue_render` and its two
companions for the remaining elements and members).  What follows a value in a
text is a comma, a closing bracket, the end of the line or nothing (`Stops`); this
is what ends a numeral.
-/

namespace Wire

variable {ascii : Bool}

/-! ## Characters inside a string literal -/

theorem hexValue_digitChar : ∀ n, n < 16 → hexValue (Nat.digitChar n) = some n := by
  decide

theorem unitValue_hex4 {n : Nat} (small : n < 0x10000) :
    unitValue (Nat.digitChar (n / 4096 % 16)) (Nat.digitChar (n / 256 % 16))
      (Nat.digitChar (n / 16 % 16)) (Nat.digitChar (n % 16)) = some n := by
  simp only [unitValue, hexValue_digitChar _ (Nat.mod_lt _ (by decide : 0 < 16))]
  congr 1
  omega

/-- No character is a surrogate. -/
theorem toNat_not_surrogate (c : Char) : ¬ (0xD800 ≤ c.toNat ∧ c.toNat < 0xE000) := by
  have valid := c.valid
  simp only [UInt32.isValidChar, Nat.isValidChar] at valid
  have eq : c.val.toNat = c.toNat := rfl
  omega

theorem toNat_lt (c : Char) : c.toNat < 0x110000 := by
  have valid := c.valid
  simp only [UInt32.isValidChar, Nat.isValidChar] at valid
  have eq : c.val.toNat = c.toNat := rfl
  omega

/-- A character escaped as one unit of the basic plane is read back. -/
theorem scanString_escapeUnit {c : Char} (basic : c.toNat < 0x10000) (rest : List Char) :
    scanString (escapeUnit c.toNat ++ rest) = push c (scanString rest) := by
  have notSurrogate := toNat_not_surrogate c
  simp only [escapeUnit, hex4, List.cons_append, List.nil_append]
  rw [scanString]
  simp only [Char.reduceEq, ↓reduceIte, unitValue_hex4 basic, Char.ofNat_toNat]
  rw [if_neg (by omega), if_neg (by omega)]

/-- A character outside the basic plane is read back from its surrogate pair. -/
theorem scanString_surrogates {c : Char} (astral : 0x10000 ≤ c.toNat) (rest : List Char) :
    scanString (escapeUnit (0xD800 + (c.toNat - 0x10000) / 1024) ++
      escapeUnit (0xDC00 + (c.toNat - 0x10000) % 1024) ++ rest) = push c (scanString rest) := by
  have bound := toNat_lt c
  have high : 0xD800 + (c.toNat - 0x10000) / 1024 < 0xDC00 := by omega
  have low : 0xDC00 + (c.toNat - 0x10000) % 1024 < 0xE000 := by omega
  have rebuilt : 0x10000 + (0xD800 + (c.toNat - 0x10000) / 1024 - 0xD800) * 1024 +
      (0xDC00 + (c.toNat - 0x10000) % 1024 - 0xDC00) = c.toNat := by omega
  simp only [escapeUnit, hex4, List.cons_append, List.nil_append]
  rw [scanString]
  simp only [Char.reduceEq, ↓reduceIte, and_self,
    unitValue_hex4 (show 0xD800 + (c.toNat - 0x10000) / 1024 < 0x10000 by omega),
    unitValue_hex4 (show 0xDC00 + (c.toNat - 0x10000) % 1024 < 0x10000 by omega)]
  rw [if_pos ⟨by omega, high⟩, if_pos ⟨by omega, low⟩, rebuilt, Char.ofNat_toNat]

theorem scanString_quote (rest : List Char) : scanString ('"' :: rest) = some ([], rest) := by
  rw [scanString.eq_def]
  simp only [↓reduceIte]

/-- A two-character escape is read as the character it stands for. -/
theorem scanString_unescape {e c : Char} (notUnit : e ≠ 'u') (means : unescape e = some c)
    (rest : List Char) : scanString ('\\' :: e :: rest) = push c (scanString rest) := by
  rw [scanString.eq_def]
  simp only [Char.reduceEq, ↓reduceIte, if_neg notUnit, means]

theorem scanString_escapeChar (c : Char) (rest : List Char) :
    scanString (escapeChar ascii c ++ rest) = push c (scanString rest) := by
  unfold escapeChar
  by_cases quote : c = '"'
  · subst quote; exact scanString_unescape (by decide) (by decide) rest
  by_cases backslash : c = '\\'
  · subst backslash; exact scanString_unescape (by decide) (by decide) rest
  by_cases newline : c = '\n'
  · subst newline; exact scanString_unescape (by decide) (by decide) rest
  by_cases carriage : c = '\r'
  · subst carriage; exact scanString_unescape (by decide) (by decide) rest
  by_cases tab : c = '\t'
  · subst tab; exact scanString_unescape (by decide) (by decide) rest
  by_cases formFeed : c = '\x0c'
  · subst formFeed; exact scanString_unescape (by decide) (by decide) rest
  by_cases backspace : c = '\x08'
  · subst backspace; exact scanString_unescape (by decide) (by decide) rest
  simp only [if_neg quote, if_neg backslash, if_neg newline, if_neg carriage, if_neg tab,
    if_neg formFeed, if_neg backspace]
  split
  · rename_i printable
    rw [List.singleton_append, scanString.eq_def]
    simp only [if_neg quote, if_neg backslash, if_neg (by omega : ¬ c.toNat < 32)]
  · split
    · rename_i basic
      exact scanString_escapeUnit basic rest
    · rename_i astral
      exact scanString_surrogates (by omega) rest

/-- A string literal is read back, whatever follows its closing quote. -/
theorem scanString_closeQuote (s : String) (rest : List Char) :
    scanString (closeQuote ascii s ++ rest) = some (s.toList, rest) := by
  have chars : ∀ cs : List Char,
      scanString (escapeChars ascii cs ++ ('"' :: rest)) = some (cs, rest) := by
    intro cs
    induction cs with
    | nil => exact scanString_quote rest
    | cons c cs ih =>
        simp only [escapeChars, List.append_assoc, scanString_escapeChar, ih, push]
  simpa only [closeQuote, List.append_assoc, List.singleton_append] using chars s.toList

/-! ## Numerals -/

/-- What may follow a value: nothing, a comma, a closing bracket or the end of the line. -/
def Stops (rest : List Char) : Prop :=
  ∀ c ∈ rest.head?, c = ',' ∨ c = ']' ∨ c = '}' ∨ c = '\n'

theorem stops_nil : Stops [] := by
  intro c mem
  cases mem

theorem Stops.comma (rest : List Char) : Stops (',' :: rest) := by
  intro c mem
  exact Or.inl (Option.mem_some.mp mem).symm

theorem stops_renderElems (xs : List Json) (rest : List Char) :
    Stops (Json.renderElems ascii xs ++ rest) := by
  cases xs with
  | nil =>
      intro c mem
      exact Or.inr (Or.inl (Option.mem_some.mp mem).symm)
  | cons x xs => exact Stops.comma _

theorem stops_renderMembers (fs : List (String × Json)) (rest : List Char) :
    Stops (Json.renderMembers ascii fs ++ rest) := by
  cases fs with
  | nil =>
      intro c mem
      exact Or.inr (Or.inr (Or.inl (Option.mem_some.mp mem).symm))
  | cons m fs => exact Stops.comma _

/-- A stop is none of the characters a numeral consists of. -/
theorem Stops.not_digit {c : Char} {rest : List Char} (stops : Stops (c :: rest)) :
    c.isDigit = false := by
  rcases stops c rfl with rfl | rfl | rfl | rfl <;> decide

/-- A run of digits ends where it ended before, or at a stop. -/
theorem scanDigits_append {rest : List Char} (stops : Stops rest) (cs : List Char) :
    scanDigits (cs ++ rest) = ((scanDigits cs).1, (scanDigits cs).2 ++ rest) := by
  induction cs with
  | nil =>
      cases rest with
      | nil => rfl
      | cons c rest => simp [scanDigits, stops.not_digit]
  | cons d cs ih =>
      simp only [scanDigits, Prod.mk.injEq] at ih ⊢
      by_cases digit : d.isDigit = true
      · simp [digit, ih.1, ih.2]
      · simp [digit]

theorem scanNat_append {cs ds left rest : List Char} (stops : Stops rest)
    (scanned : scanNat cs = some (ds, left)) :
    scanNat (cs ++ rest) = some (ds, left ++ rest) := by
  cases cs with
  | nil => cases scanned
  | cons c cs =>
      simp only [scanNat, List.cons_append] at scanned ⊢
      split at scanned
      · rename_i zero
        cases scanned
        rw [if_pos zero]
      · rename_i notZero
        split at scanned
        · rename_i digit
          cases scanned
          simp only [if_neg notZero, digit, ↓reduceIte, scanDigits_append stops]
        · cases scanned

theorem scanInt_append {cs int left rest : List Char} (stops : Stops rest)
    (scanned : scanInt cs = some (int, left)) :
    scanInt (cs ++ rest) = some (int, left ++ rest) := by
  cases cs with
  | nil => cases scanned
  | cons c cs =>
      simp only [scanInt, List.cons_append] at scanned ⊢
      split at scanned
      · rename_i minus
        split at scanned
        · rename_i ds left' scanned'
          cases scanned
          rw [if_pos minus, scanNat_append stops scanned']
        · cases scanned
      · rename_i notMinus
        rw [if_neg notMinus]
        exact scanNat_append stops scanned

/-- Digits that were missing before a stop are still missing, and digits that
were there still end where they ended. -/
theorem scanSome_append {lead cs rest : List Char} (stops : Stops rest) :
    scanSome lead (cs ++ rest) =
      (scanSome lead cs).map fun p => (p.1, p.2 ++ rest) := by
  cases cs with
  | nil =>
      cases rest with
      | nil => rfl
      | cons c rest => simp [scanSome, stops.not_digit]
  | cons d cs =>
      simp only [scanSome, List.cons_append, scanDigits_append stops]
      split <;> rfl

theorem scanFrac_append {rest : List Char} (stops : Stops rest) (cs : List Char) :
    scanFrac (cs ++ rest) = ((scanFrac cs).1, (scanFrac cs).2 ++ rest) := by
  cases cs with
  | nil =>
      cases rest with
      | nil => rfl
      | cons c rest =>
          have notPoint : c ≠ '.' := by
            rcases stops c rfl with rfl | rfl | rfl | rfl <;> decide
          simp [scanFrac, notPoint]
  | cons c cs =>
      simp only [scanFrac, List.cons_append]
      split
      · rw [scanSome_append stops]
        cases scanSome ['.'] cs <;> rfl
      · rfl

theorem scanExp_append {rest : List Char} (stops : Stops rest) (cs : List Char) :
    scanExp (cs ++ rest) = ((scanExp cs).1, (scanExp cs).2 ++ rest) := by
  cases cs with
  | nil =>
      cases rest with
      | nil => rfl
      | cons c rest =>
          have notLetter : ¬ (c = 'e' ∨ c = 'E') := by
            rcases stops c rfl with rfl | rfl | rfl | rfl <;> decide
          simp [scanExp, notLetter]
  | cons e cs =>
      simp only [scanExp, List.cons_append]
      split
      · cases cs with
        | nil =>
            cases rest with
            | nil => rfl
            | cons c rest =>
                have notSign : ¬ (c = '+' ∨ c = '-') := by
                  rcases stops c rfl with rfl | rfl | rfl | rfl <;> decide
                simp [notSign, scanSome, stops.not_digit]
        | cons s ds =>
            simp only [List.cons_append]
            split
            · rw [scanSome_append stops]
              cases scanSome [e, s] ds <;> rfl
            · rw [← List.cons_append, scanSome_append stops]
              cases scanSome [e] (s :: ds) <;> rfl
      · rfl

/-- No stop occurs in a float word, so a stop does not complete one. -/
theorem isPrefixOf_append {rest : List Char} (stops : Stops rest) :
    ∀ {w cs : List Char}, (∀ c ∈ w, c ≠ ',' ∧ c ≠ ']' ∧ c ≠ '}' ∧ c ≠ '\n') →
      w.isPrefixOf (cs ++ rest) = w.isPrefixOf cs
  | [], _, _ => by simp
  | c :: w, [], clear => by
      cases rest with
      | nil => rfl
      | cons d rest =>
          have differ : (c == d) = false := by
            have := clear c List.mem_cons_self
            rw [beq_eq_false_iff_ne]
            rcases stops d rfl with rfl | rfl | rfl | rfl
            · exact this.1
            · exact this.2.1
            · exact this.2.2.1
            · exact this.2.2.2
          simp [List.isPrefixOf, differ]
  | c :: w, d :: cs, clear => by
      simp only [List.cons_append, List.isPrefixOf]
      rw [isPrefixOf_append stops fun c mem => clear c (List.mem_cons_of_mem _ mem)]

theorem floatWords_clear : ∀ w ∈ floatWords, ∀ c ∈ w, c ≠ ',' ∧ c ≠ ']' ∧ c ≠ '}' ∧ c ≠ '\n' := by
  have all : floatWords.all (fun w => w.all fun c =>
      decide (c ≠ ',' ∧ c ≠ ']' ∧ c ≠ '}' ∧ c ≠ '\n')) = true := by decide
  intro w word c mem
  exact of_decide_eq_true (List.all_eq_true.mp (List.all_eq_true.mp all w word) c mem)

theorem find_floatWords_append {rest : List Char} (stops : Stops rest) (cs : List Char) :
    floatWords.find? (·.isPrefixOf (cs ++ rest)) = floatWords.find? (·.isPrefixOf cs) := by
  have same : ∀ ws : List (List Char), (∀ w ∈ ws, ∀ c ∈ w, c ≠ ',' ∧ c ≠ ']' ∧ c ≠ '}' ∧ c ≠ '\n') →
      ws.find? (·.isPrefixOf (cs ++ rest)) = ws.find? (·.isPrefixOf cs) := by
    intro ws clear
    induction ws with
    | nil => rfl
    | cons w ws ih =>
        rw [List.find?_cons, List.find?_cons,
          isPrefixOf_append stops (clear w List.mem_cons_self),
          ih fun v mem => clear v (List.mem_cons_of_mem _ mem)]
  exact same floatWords floatWords_clear

/-- **A numeral ends at a stop.** -/
theorem scanNumber_append {cs text left rest : List Char} {float : Bool} (stops : Stops rest)
    (scanned : scanNumber cs = some (text, left, float)) :
    scanNumber (cs ++ rest) = some (text, left ++ rest, float) := by
  unfold scanNumber at scanned ⊢
  rw [find_floatWords_append stops]
  cases found : floatWords.find? (·.isPrefixOf cs) with
  | some w =>
      simp only [found, Option.some.injEq, Prod.mk.injEq] at scanned ⊢
      obtain ⟨rfl, rfl, rfl⟩ := scanned
      have isPrefix : w.isPrefixOf cs = true := by
        have holds := List.find?_some found
        exact holds
      have fits : w.length ≤ cs.length := (List.isPrefixOf_iff_prefix.mp isPrefix).length_le
      exact ⟨rfl, List.drop_append_of_le_length fits, rfl⟩
  | none =>
      simp only [found] at scanned ⊢
      cases scannedInt : scanInt cs with
      | none => simp only [scannedInt, reduceCtorEq] at scanned
      | some p =>
          obtain ⟨int, rest'⟩ := p
          simp only [scannedInt, Option.some.injEq, Prod.mk.injEq] at scanned
          rw [scanInt_append stops scannedInt]
          obtain ⟨rfl, rfl, rfl⟩ := scanned
          simp only [scanFrac_append stops, scanExp_append stops]

/-- The characters a numeral can begin with. -/
def NumeralHead (c : Char) : Prop := c.isDigit = true ∨ c = '-' ∨ c = 'N' ∨ c = 'I'

theorem numeralHead_of_scanNumber {c : Char} {cs : List Char} {out : List Char × List Char × Bool}
    (scanned : scanNumber (c :: cs) = some out) : NumeralHead c := by
  by_contra other
  simp only [NumeralHead, not_or, Bool.not_eq_true] at other
  obtain ⟨notDigit, notMinus, notN, notI⟩ := other
  have notZero : c ≠ '0' := by rintro rfl; revert notDigit; decide
  simp [scanNumber, floatWords, List.find?, List.isPrefixOf, scanInt, scanNat, notDigit, notMinus,
    notZero, beq_eq_false_iff_ne.mpr (Ne.symm notN), beq_eq_false_iff_ne.mpr (Ne.symm notI),
    beq_eq_false_iff_ne.mpr (Ne.symm notMinus)] at scanned

theorem NumeralHead.ne {c d : Char} (head : NumeralHead c) (notDigit : d.isDigit = false)
    (notMinus : d ≠ '-') (notN : d ≠ 'N') (notI : d ≠ 'I') : c ≠ d := by
  rintro rfl
  rcases head with digit | minus | n | i
  · rw [digit] at notDigit; cases notDigit
  · exact notMinus minus
  · exact notN n
  · exact notI i

/-! ### Integers -/

theorem toDigits_head {n : Nat} (pos : 0 < n) :
    ∃ c cs, Nat.toDigits 10 n = c :: cs ∧ c ≠ '0' := by
  induction n using Nat.strong_induction_on with
  | _ n ih =>
      by_cases small : n < 10
      · refine ⟨n.digitChar, [], Nat.toDigits_of_lt_base small, ?_⟩
        exact (by decide : ∀ m < 10, 0 < m → Nat.digitChar m ≠ '0') n small pos
      · obtain ⟨c, cs, eq, ne⟩ := ih (n / 10) (by omega) (by omega)
        refine ⟨c, cs ++ [(n % 10).digitChar], ?_, ne⟩
        rw [Nat.toDigits_of_base_le (by decide) (by omega), eq, List.cons_append]

theorem scanDigits_of_all {cs : List Char} (digits : ∀ c ∈ cs, c.isDigit = true) :
    scanDigits cs = (cs, []) := by
  induction cs with
  | nil => rfl
  | cons c cs ih =>
      have tail := ih fun d mem => digits d (List.mem_cons_of_mem _ mem)
      simp only [scanDigits, Prod.mk.injEq] at tail ⊢
      simp only [List.takeWhile_cons, List.dropWhile_cons, digits c List.mem_cons_self, ↓reduceIte,
        tail, and_self]

theorem scanNat_toDigits (n : Nat) :
    scanNat (Nat.toDigits 10 n) = some (Nat.toDigits 10 n, []) := by
  have digits : ∀ c ∈ Nat.toDigits 10 n, c.isDigit = true :=
    fun c mem => Nat.isDigit_of_mem_toDigits (by decide) (by decide) mem
  rcases Nat.eq_zero_or_pos n with rfl | pos
  · rfl
  · obtain ⟨c, cs, eq, ne⟩ := toDigits_head pos
    rw [eq] at digits ⊢
    have digit := digits c List.mem_cons_self
    simp only [scanNat, if_neg ne, digit, ↓reduceIte,
      scanDigits_of_all fun d mem => digits d (List.mem_cons_of_mem _ mem)]

/-- A text of digits begins with a digit. -/
theorem toDigits_isDigit_head (n : Nat) :
    ∃ c cs, Nat.toDigits 10 n = c :: cs ∧ c.isDigit = true := by
  cases eq : Nat.toDigits 10 n with
  | nil => exact (Nat.toDigits_ne_nil eq).elim
  | cons c cs =>
      refine ⟨c, cs, rfl, Nat.isDigit_of_mem_toDigits (b := 10) (n := n) (by decide) (by decide) ?_⟩
      rw [eq]
      exact List.mem_cons_self

theorem scanInt_intText (i : Int) : scanInt (intText i) = some (intText i, []) := by
  unfold intText
  split
  · simp only [scanInt, ↓reduceIte, scanNat_toDigits]
  · obtain ⟨c, cs, eq, digit⟩ := toDigits_isDigit_head i.natAbs
    have notMinus : c ≠ '-' := by rintro rfl; revert digit; decide
    have scanned := scanNat_toDigits i.natAbs
    rw [eq] at scanned ⊢
    simp only [scanInt, if_neg notMinus, scanned]

theorem intValue_intText (i : Int) : intValue (intText i) = i := by
  unfold intText
  split
  · simp only [intValue, Nat.ofDigitChars_ten_toDigits]
    omega
  · obtain ⟨c, cs, eq, digit⟩ := toDigits_isDigit_head i.natAbs
    have value : Nat.ofDigitChars 10 (c :: cs) 0 = i.natAbs := by
      rw [← eq]
      exact Nat.ofDigitChars_ten_toDigits
    rw [eq, intValue.eq_def]
    split
    · rename_i heq
      simp only [List.cons.injEq] at heq
      rw [heq.1] at digit
      exact absurd digit (by decide)
    · rw [value]
      omega

theorem scanNumber_intText (i : Int) : scanNumber (intText i) = some (intText i, [], false) := by
  have noWord : floatWords.find? (·.isPrefixOf (intText i)) = none := by
    unfold intText
    obtain ⟨c, cs, eq, digit⟩ := toDigits_isDigit_head i.natAbs
    have notN : c ≠ 'N' := by rintro rfl; revert digit; decide
    have notI : c ≠ 'I' := by rintro rfl; revert digit; decide
    have notMinus : c ≠ '-' := by rintro rfl; revert digit; decide
    rw [eq]
    split <;>
      simp [floatWords, List.find?, List.isPrefixOf, beq_eq_false_iff_ne.mpr (Ne.symm notN),
        beq_eq_false_iff_ne.mpr (Ne.symm notI), beq_eq_false_iff_ne.mpr (Ne.symm notMinus)]
  simp only [scanNumber, noWord, scanInt_intText, scanFrac, scanExp, List.append_nil,
    List.isEmpty_nil, Bool.and_self, Bool.not_true]

theorem intText_head (i : Int) : ∃ c cs, intText i = c :: cs ∧ NumeralHead c := by
  unfold intText
  split
  · exact ⟨'-', _, rfl, Or.inr (Or.inl rfl)⟩
  · obtain ⟨c, cs, eq, digit⟩ := toDigits_isDigit_head i.natAbs
    exact ⟨c, cs, eq, Or.inl digit⟩

/-! ### Floats -/

theorem FloatText.scan (f : FloatText) : scanNumber f.text = some (f.text, [], true) :=
  beq_iff_eq.mp f.ok

theorem FloatText.head (f : FloatText) : ∃ c cs, f.text = c :: cs ∧ NumeralHead c := by
  have scanned := f.scan
  cases eq : f.text with
  | nil =>
      rw [eq] at scanned
      simp [scanNumber, floatWords, List.find?, List.isPrefixOf, scanInt] at scanned
  | cons c cs =>
      rw [eq] at scanned
      exact ⟨c, cs, rfl, numeralHead_of_scanNumber scanned⟩

/-! ## Values -/

namespace Json

mutual

/-- The fuel that reading a rendered value back takes. -/
def size : Json → Nat
  | .arr (x :: xs) => 1 + size x + sizeElems xs
  | .obj ((_, v) :: fs) => 2 + size v + sizeMembers fs
  | _ => 1

def sizeElems : List Json → Nat
  | [] => 1
  | x :: xs => 1 + size x + sizeElems xs

def sizeMembers : List (String × Json) → Nat
  | [] => 1
  | (_, v) :: fs => 2 + size v + sizeMembers fs

end

theorem size_pos (j : Json) : 0 < size j := by
  unfold size
  split <;> omega

/-- A rendered value begins with a character that is no blank and closes
nothing. -/
theorem render_head (j : Json) :
    ∃ c cs, j.render ascii = c :: cs ∧ isBlank c = false ∧ c ≠ ']' := by
  have ofNumeral : ∀ {c : Char}, NumeralHead c → isBlank c = false ∧ c ≠ ']' := by
    intro c head
    refine ⟨?_, head.ne (by decide) (by decide) (by decide) (by decide)⟩
    simp only [isBlank, Bool.or_eq_false_iff, beq_eq_false_iff_ne]
    exact ⟨⟨⟨head.ne (by decide) (by decide) (by decide) (by decide),
      head.ne (by decide) (by decide) (by decide) (by decide)⟩,
      head.ne (by decide) (by decide) (by decide) (by decide)⟩,
      head.ne (by decide) (by decide) (by decide) (by decide)⟩
  match j with
  | .null => exact ⟨_, _, by rw [render], by decide, by decide⟩
  | .bool true => exact ⟨_, _, by rw [render], by decide, by decide⟩
  | .bool false => exact ⟨_, _, by rw [render], by decide, by decide⟩
  | .int i =>
      obtain ⟨c, cs, eq, head⟩ := intText_head i
      exact ⟨c, cs, by rw [render, eq], ofNumeral head⟩
  | .float f =>
      obtain ⟨c, cs, eq, head⟩ := f.head
      exact ⟨c, cs, by rw [render, eq], ofNumeral head⟩
  | .str s => exact ⟨_, _, by rw [render], by decide, by decide⟩
  | .arr [] => exact ⟨_, _, by rw [render], by decide, by decide⟩
  | .arr (x :: xs) => exact ⟨_, _, by rw [render], by decide, by decide⟩
  | .obj [] => exact ⟨_, _, by rw [render], by decide, by decide⟩
  | .obj ((k, v) :: fs) => exact ⟨_, _, by rw [render], by decide, by decide⟩

theorem skipBlanks_render (j : Json) (rest : List Char) :
    skipBlanks (j.render ascii ++ rest) = j.render ascii ++ rest := by
  obtain ⟨c, cs, eq, notBlank, _⟩ := j.render_head
  rw [eq]
  simp [skipBlanks, notBlank]

/-- A numeral is dispatched to `parseNumber`. -/
theorem parseValue_numeral {c : Char} {cs : List Char} (n : Nat) (head : NumeralHead c) :
    parseValue (n + 1) (c :: cs) = parseNumber (c :: cs) := by
  rw [parseValue]
  rw [if_neg (head.ne (by decide) (by decide) (by decide) (by decide)),
    if_neg (head.ne (by decide) (by decide) (by decide) (by decide)),
    if_neg (head.ne (by decide) (by decide) (by decide) (by decide)),
    if_neg (head.ne (by decide) (by decide) (by decide) (by decide)),
    if_neg (head.ne (by decide) (by decide) (by decide) (by decide)),
    if_neg (head.ne (by decide) (by decide) (by decide) (by decide))]

theorem parseNumber_append {cs rest : List Char} {c : Char} {j : Json} (stops : Stops rest)
    (read : parseNumber (c :: cs) = some (j, [])) :
    parseNumber (c :: cs ++ rest) = some (j, rest) := by
  unfold parseNumber at read ⊢
  cases scanned : scanNumber (c :: cs) with
  | none => simp only [scanned, reduceCtorEq] at read
  | some out =>
      obtain ⟨text, left, float⟩ := out
      rw [scanNumber_append stops scanned]
      simp only [scanned] at read
      cases float with
      | false =>
          simp only [Option.some.injEq, Prod.mk.injEq] at read ⊢
          exact ⟨read.1, by rw [read.2, List.nil_append]⟩
      | true =>
          simp only at read ⊢
          split at read
          · rename_i ok
            simp only [Option.some.injEq, Prod.mk.injEq] at read
            rw [dif_pos ok, read.1, read.2, List.nil_append]
          · cases read

theorem parseNumber_intText (i : Int) : parseNumber (intText i) = some (.int i, []) := by
  simp only [parseNumber, scanNumber_intText, intValue_intText]

theorem parseNumber_float (f : FloatText) : parseNumber f.text = some (.float f, []) := by
  simp only [parseNumber, f.scan, f.ok, ↓reduceDIte]

/-- A numeral that is read alone is read before a stop. -/
theorem parseValue_of_parseNumber {text rest : List Char} {j : Json} (n : Nat)
    (stops : Stops rest) (head : ∃ c cs, text = c :: cs ∧ NumeralHead c)
    (read : parseNumber text = some (j, [])) :
    parseValue (n + 1) (text ++ rest) = some (j, rest) := by
  obtain ⟨c, cs, rfl, numeral⟩ := head
  rw [List.cons_append, parseValue_numeral n numeral]
  exact parseNumber_append stops read

/-- Reading the member behind an opening quote comes down to reading its value. -/
theorem parseMember_render {n : Nat} {k : String} {v : Json} {rest : List Char}
    (value : parseValue n (v.render ascii ++ rest) = some (v, rest)) :
    parseMember (n + 1) (closeQuote ascii k ++ ':' :: (v.render ascii ++ rest)) =
      some ((k, v), rest) := by
  have colon : skipBlanks (':' :: (v.render ascii ++ rest)) =
      ':' :: (v.render ascii ++ rest) := by
    simp [skipBlanks, isBlank]
  rw [parseMember, scanString_closeQuote]
  simp only [colon, ↓reduceIte, skipBlanks_render, value, String.ofList_toList]

mutual

/-- **A rendered value is read back**, up to whatever ends it. -/
theorem parseValue_render :
    ∀ (j : Json) (n : Nat) (rest : List Char), size j ≤ n → Stops rest →
      parseValue n (j.render ascii ++ rest) = some (j, rest)
  | .null, n + 1, rest, _, _ => by
      simp [render, parseValue, word, List.isPrefixOf]
  | .bool true, n + 1, rest, _, _ => by
      simp [render, parseValue, word, List.isPrefixOf]
  | .bool false, n + 1, rest, _, _ => by
      simp [render, parseValue, word, List.isPrefixOf]
  | .int i, n + 1, rest, _, stops => by
      rw [render]
      exact parseValue_of_parseNumber n stops (intText_head i) (parseNumber_intText i)
  | .float f, n + 1, rest, _, stops => by
      rw [render]
      exact parseValue_of_parseNumber n stops f.head (parseNumber_float f)
  | .str s, n + 1, rest, _, _ => by
      rw [render, List.cons_append, parseValue]
      simp only [↓reduceIte, scanString_closeQuote, String.ofList_toList]
  | .arr [], n + 1, rest, _, _ => by
      simp [render, parseValue, skipBlanks, isBlank]
  | .arr (x :: xs), n + 1, rest, fuel, stops => by
      simp only [size] at fuel
      obtain ⟨c, cs, eq, notBlank, notClose⟩ := x.render_head
      have value := parseValue_render x n (renderElems ascii xs ++ rest) (by omega)
        (stops_renderElems xs rest)
      have elems := parseElems_render xs n rest (by omega) stops
      rw [eq, List.cons_append] at value
      simp only [render, eq, List.cons_append, List.append_assoc]
      rw [parseValue, if_neg (by decide), if_pos rfl]
      simp only [skipBlanks, List.dropWhile_cons, notBlank, Bool.false_eq_true, ↓reduceIte,
        if_neg notClose, value, elems]
  | .obj [], n + 1, rest, _, _ => by
      simp [render, parseValue, skipBlanks, isBlank]
  | .obj ((k, v) :: fs), n + 2, rest, fuel, stops => by
      simp only [size] at fuel
      have value := parseValue_render v n (renderMembers ascii fs ++ rest) (by omega)
        (stops_renderMembers fs rest)
      have members := parseMembers_render fs (n + 1) rest (by omega) stops
      simp only [render, List.cons_append, List.append_assoc]
      rw [parseValue, if_neg (by decide), if_neg (by decide), if_pos rfl]
      simp only [skipBlanks, List.dropWhile_cons, isBlank, Char.reduceBEq, Bool.or_self,
        Bool.false_eq_true, ↓reduceIte, Char.reduceEq, parseMember_render value, members]
  | .obj (_ :: _), 1, _, fuel, _ => by simp only [size] at fuel; omega
  | j, 0, _, fuel, _ => by have := j.size_pos; omega

theorem parseElems_render :
    ∀ (xs : List Json) (n : Nat) (rest : List Char), sizeElems xs ≤ n → Stops rest →
      parseElems n (renderElems ascii xs ++ rest) = some (xs, rest)
  | [], n + 1, rest, _, _ => by
      simp [renderElems, parseElems, skipBlanks, isBlank]
  | x :: xs, n + 1, rest, fuel, stops => by
      simp only [sizeElems] at fuel
      have value := parseValue_render x n (renderElems ascii xs ++ rest) (by omega)
        (stops_renderElems xs rest)
      have elems := parseElems_render xs n rest (by omega) stops
      simp only [renderElems, List.cons_append, List.append_assoc]
      rw [parseElems]
      have comma : skipBlanks (',' :: (x.render ascii ++ (renderElems ascii xs ++ rest))) =
          ',' :: (x.render ascii ++ (renderElems ascii xs ++ rest)) := by
        simp [skipBlanks, isBlank]
      simp only [comma, Char.reduceEq, ↓reduceIte, skipBlanks_render, value, elems]
  | [], 0, _, fuel, _ => by simp only [sizeElems] at fuel; omega
  | _ :: _, 0, _, fuel, _ => by simp only [sizeElems] at fuel; omega

theorem parseMembers_render :
    ∀ (fs : List (String × Json)) (n : Nat) (rest : List Char), sizeMembers fs ≤ n →
      Stops rest → parseMembers n (renderMembers ascii fs ++ rest) = some (fs, rest)
  | [], n + 1, rest, _, _ => by
      simp [renderMembers, parseMembers, skipBlanks, isBlank]
  | (k, v) :: fs, n + 2, rest, fuel, stops => by
      simp only [sizeMembers] at fuel
      have value := parseValue_render v n (renderMembers ascii fs ++ rest) (by omega)
        (stops_renderMembers fs rest)
      have members := parseMembers_render fs (n + 1) rest (by omega) stops
      simp only [renderMembers, List.cons_append, List.append_assoc]
      rw [parseMembers]
      simp only [skipBlanks, List.dropWhile_cons, isBlank, Char.reduceBEq, Bool.or_self,
        Bool.false_eq_true, ↓reduceIte, Char.reduceEq, parseMember_render value, members]
  | [], 0, _, fuel, _ => by simp only [sizeMembers] at fuel; omega
  | _ :: _, 0, _, fuel, _ => by simp only [sizeMembers] at fuel; omega
  | _ :: _, 1, _, fuel, _ => by simp only [sizeMembers] at fuel; omega

end

mutual

/-- A text is long enough to pay for reading it. -/
theorem size_le_length : ∀ j : Json, size j ≤ (j.render ascii).length
  | .null => by simp [size, render]
  | .bool true => by simp [size, render]
  | .bool false => by simp [size, render]
  | .int i => by
      obtain ⟨c, cs, eq, _⟩ := intText_head i
      simp [size, render, eq]
  | .float f => by
      obtain ⟨c, cs, eq, _⟩ := f.head
      simp [size, render, eq]
  | .str s => by simp [size, render]
  | .arr [] => by simp [size, render]
  | .arr (x :: xs) => by
      have head := size_le_length x
      have tail := sizeElems_le_length xs
      simp only [size, render, List.length_cons, List.length_append]
      omega
  | .obj [] => by simp [size, render]
  | .obj ((_, v) :: fs) => by
      have head := size_le_length v
      have tail := sizeMembers_le_length fs
      simp only [size, render, List.length_cons, List.length_append]
      omega

theorem sizeElems_le_length : ∀ xs : List Json, sizeElems xs ≤ (renderElems ascii xs).length
  | [] => by simp [sizeElems, renderElems]
  | x :: xs => by
      have head := size_le_length x
      have tail := sizeElems_le_length xs
      simp only [sizeElems, renderElems, List.length_cons, List.length_append]
      omega

theorem sizeMembers_le_length :
    ∀ fs : List (String × Json), sizeMembers fs ≤ (renderMembers ascii fs).length
  | [] => by simp [sizeMembers, renderMembers]
  | (_, v) :: fs => by
      have head := size_le_length v
      have tail := sizeMembers_le_length fs
      simp only [sizeMembers, renderMembers, List.length_cons, List.length_append]
      omega

end

/-! ## Texts -/

/-- A text is read up to the blanks that end it. -/
theorem loads_render (j : Json) {rest : List Char} (stops : Stops rest)
    (ended : skipBlanks rest = []) :
    loads (String.ofList (j.render ascii ++ rest)) = some j.canon := by
  have enough : size j ≤ (j.render ascii).length := size_le_length j
  have read : parseValue (2 * (j.render ascii ++ rest).length + 2) (j.render ascii ++ rest) =
      some (j, rest) := parseValue_render j _ rest (by rw [List.length_append]; omega) stops
  have start : skipBlanks (j.render ascii ++ rest) = j.render ascii ++ rest :=
    skipBlanks_render j rest
  simp only [loads, Json.read, String.toList_ofList, start, read, ended, Option.map_some]

/-- **Reading the text of a value gives its canonical form.** -/
theorem loads_dumps (j : Json) : loads (dumps j) = some j.canon := by
  have read := @loads_render true j.canon [] stops_nil rfl
  rwa [List.append_nil, canon_canon] at read

/-- Neither the order of the members nor the spelling of the characters matters. -/
theorem loads_compact (j : Json) : loads (compact j) = some j.canon := by
  have read := @loads_render false j [] stops_nil rfl
  rwa [List.append_nil] at read

/-- The end of the line after the text does not matter. -/
theorem loads_dumps_newline (j : Json) : loads (dumps j ++ "\n") = some j.canon := by
  have stops : Stops ['\n'] := fun c mem => .inr (.inr (.inr (Option.mem_some.mp mem).symm))
  rw [dumps, show "\n" = String.ofList ['\n'] from rfl, ← String.ofList_append,
    loads_render j.canon stops rfl, canon_canon]

/-- **Two values have one text exactly when they are the same.** -/
theorem dumps_eq_iff {a b : Json} : dumps a = dumps b ↔ Same a b := by
  constructor
  · intro eq
    have read := loads_dumps a
    rw [eq, loads_dumps b] at read
    exact (Option.some.inj read).symm
  · intro same
    unfold dumps
    rw [show a.canon = b.canon from same]

/-- The text depends on the value only. -/
@[simp] theorem dumps_canon (j : Json) : dumps j.canon = dumps j :=
  dumps_eq_iff.mpr (same_canon j).symm

end Json

end Wire
