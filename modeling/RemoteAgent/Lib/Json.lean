import Mathlib

/-!
# JSON values up to the order of object keys

`Json` is the syntax of a JSON value: an object is the list of its members as
they were written.  A member list denotes a dictionary in which the last member
with a key wins; `Json.canon` computes that dictionary as the list of its
members in strictly ascending key order, at every depth.

* `Json.Same` is equality of the denoted values: `canon` is its normal form.
* `Json.canon_canon` makes `canon` idempotent, so every value has exactly one
  canonical representative.
* `Json.get?` reads a member the way a dictionary lookup does; `Json.set` and
  `Json.without` change one, and `Json.same_obj_iff` compares objects by lookups.

A floating-point number is carried by the numeral that denotes it (`FloatText`);
no arithmetic is done on it here.
-/

namespace Wire

/-! ## Numerals -/

/-- The digits at the front, and what follows them. -/
def scanDigits (cs : List Char) : List Char × List Char :=
  (cs.takeWhile Char.isDigit, cs.dropWhile Char.isDigit)

/-- The longest `0|[1-9][0-9]*` at the front, and what follows it. -/
def scanNat : List Char → Option (List Char × List Char)
  | [] => none
  | c :: cs =>
      if c = '0' then some (['0'], cs)
      else if c.isDigit then some (c :: (scanDigits cs).1, (scanDigits cs).2)
      else none

/-- The longest `-?(0|[1-9][0-9]*)` at the front, and what follows it. -/
def scanInt : List Char → Option (List Char × List Char)
  | [] => none
  | c :: cs =>
      if c = '-' then
        match scanNat cs with
        | some (ds, rest) => some ('-' :: ds, rest)
        | none => none
      else scanNat (c :: cs)

/-- Digits behind a letter that needs at least one of them: `[0-9]+`. -/
def scanSome (lead : List Char) : List Char → Option (List Char × List Char)
  | [] => none
  | d :: cs =>
      if d.isDigit then some (lead ++ d :: (scanDigits cs).1, (scanDigits cs).2) else none

/-- An optional fraction `.[0-9]+`. -/
def scanFrac : List Char → List Char × List Char
  | [] => ([], [])
  | c :: cs =>
      if c = '.' then (scanSome ['.'] cs).getD ([], c :: cs)
      else ([], c :: cs)

/-- An optional exponent `[eE][-+]?[0-9]+`. -/
def scanExp : List Char → List Char × List Char
  | [] => ([], [])
  | e :: cs =>
      if e = 'e' ∨ e = 'E' then
        match cs with
        | [] => ([], [e])
        | s :: ds =>
            if s = '+' ∨ s = '-' then (scanSome [e, s] ds).getD ([], e :: s :: ds)
            else (scanSome [e] (s :: ds)).getD ([], e :: s :: ds)
      else ([], e :: cs)

/-- The constants that stand for the non-finite floats. -/
def floatWords : List (List Char) :=
  [['N', 'a', 'N'], ['I', 'n', 'f', 'i', 'n', 'i', 't', 'y'],
    ['-', 'I', 'n', 'f', 'i', 'n', 'i', 't', 'y']]

/-- A numeral at the front: its text, what follows, and whether it denotes a
float rather than an integer. -/
def scanNumber (cs : List Char) : Option (List Char × List Char × Bool) :=
  match floatWords.find? (·.isPrefixOf cs) with
  | some word => some (word, cs.drop word.length, true)
  | none =>
      match scanInt cs with
      | none => none
      | some (int, rest) =>
          let frac := scanFrac rest
          let exp := scanExp frac.2
          some (int ++ frac.1 ++ exp.1, exp.2, !(frac.1.isEmpty && exp.1.isEmpty))

/-- The whole text is one float numeral. -/
def isFloatText (text : List Char) : Bool :=
  scanNumber text == some (text, [], true)

/-- A float, carried by its numeral. -/
structure FloatText where
  text : List Char
  ok : isFloatText text = true
deriving DecidableEq

/-! ## Values -/

/-- A JSON value as written: an object lists its members in source order. -/
inductive Json where
  | null
  | bool (b : Bool)
  | int (i : Int)
  | float (f : FloatText)
  | str (s : String)
  | arr (xs : List Json)
  | obj (fs : List (String × Json))

namespace Json

/-- Put a member into an ascending member list unless its key is already there. -/
def insertNew (k : String) (v : Json) : List (String × Json) → List (String × Json)
  | [] => [(k, v)]
  | (k', v') :: fs =>
      if k < k' then (k, v) :: (k', v') :: fs
      else if k = k' then (k', v') :: fs
      else (k', v') :: insertNew k v fs

mutual

/-- The canonical representative: members in ascending key order, the last
member of a key kept. -/
def canon : Json → Json
  | .null => .null
  | .bool b => .bool b
  | .int i => .int i
  | .float f => .float f
  | .str s => .str s
  | .arr xs => .arr (canonElems xs)
  | .obj fs => .obj (canonMembers fs)

def canonElems : List Json → List Json
  | [] => []
  | x :: xs => canon x :: canonElems xs

/-- Later members are inserted first, so an earlier one with the same key is
the one that is dropped. -/
def canonMembers : List (String × Json) → List (String × Json)
  | [] => []
  | (k, v) :: fs => insertNew k (canon v) (canonMembers fs)

end

/-- Equality of JSON values, the order of object keys ignored. -/
def Same (a b : Json) : Prop := a.canon = b.canon

theorem Same.refl (a : Json) : Same a a := rfl

theorem Same.symm {a b : Json} (same : Same a b) : Same b a := Eq.symm same

theorem Same.trans {a b c : Json} (left : Same a b) (right : Same b c) : Same a c :=
  Eq.trans left right

/-- The last member of a member list with key `k`. -/
def lookup (k : String) : List (String × Json) → Option Json
  | [] => none
  | (k', v) :: fs =>
      match lookup k fs with
      | some found => some found
      | none => if k' = k then some v else none

/-- Dictionary lookup; `none` on a missing key and on a value that is no object. -/
def get? (j : Json) (k : String) : Option Json :=
  match j with
  | .obj fs => lookup k fs
  | _ => none

/-! ## The canonical form is canonical -/

/-- Member lists whose keys ascend strictly. -/
def Ascending (fs : List (String × Json)) : Prop :=
  fs.Pairwise fun a b => a.1 < b.1

theorem mem_insertNew {k : String} {v : Json} {m : String × Json} :
    ∀ {fs : List (String × Json)}, m ∈ insertNew k v fs → m = (k, v) ∨ m ∈ fs
  | [], mem => Or.inl (List.mem_singleton.mp mem)
  | (k', v') :: fs, mem => by
      unfold insertNew at mem
      split at mem
      · rcases List.mem_cons.mp mem with rfl | mem
        · exact Or.inl rfl
        · exact Or.inr mem
      · split at mem
        · exact Or.inr mem
        · rcases List.mem_cons.mp mem with rfl | mem
          · exact Or.inr List.mem_cons_self
          · exact (mem_insertNew mem).imp_right (List.mem_cons_of_mem _)

theorem Ascending.insertNew {k : String} {v : Json} :
    ∀ {fs : List (String × Json)}, Ascending fs → Ascending (insertNew k v fs)
  | [], _ => List.pairwise_singleton _ _
  | (k', v') :: fs, asc => by
      have tail := List.pairwise_cons.mp asc
      unfold Json.insertNew
      split
      · rename_i before
        refine List.pairwise_cons.mpr ⟨fun m mem => ?_, asc⟩
        rcases List.mem_cons.mp mem with rfl | mem
        · exact before
        · exact lt_trans before (tail.1 m mem)
      · rename_i notBefore
        split
        · exact asc
        · rename_i different
          refine List.pairwise_cons.mpr ⟨fun m mem => ?_, Ascending.insertNew tail.2⟩
          rcases mem_insertNew mem with rfl | mem
          · exact lt_of_le_of_ne (not_lt.mp notBefore) (Ne.symm different)
          · exact tail.1 m mem

theorem canonMembers_ascending : ∀ fs : List (String × Json), Ascending (canonMembers fs)
  | [] => List.Pairwise.nil
  | (k, v) :: fs => by
      unfold canonMembers
      exact (canonMembers_ascending fs).insertNew

/-- A new least key goes to the front. -/
theorem insertNew_of_lt {k : String} {v : Json} {fs : List (String × Json)}
    (least : ∀ m ∈ fs, k < m.1) : insertNew k v fs = (k, v) :: fs := by
  cases fs with
  | nil => rfl
  | cons m fs =>
      unfold insertNew
      rw [if_pos (least m List.mem_cons_self)]

/-- An ascending list of members already in canonical form is its own form. -/
theorem canonMembers_eq_self :
    ∀ {fs : List (String × Json)}, Ascending fs → (∀ m ∈ fs, canon m.2 = m.2) →
      canonMembers fs = fs
  | [], _, _ => rfl
  | (k, v) :: fs, asc, canonical => by
      have tail := List.pairwise_cons.mp asc
      unfold canonMembers
      rw [canonMembers_eq_self tail.2 fun m mem => canonical m (List.mem_cons_of_mem _ mem),
        canonical (k, v) List.mem_cons_self, insertNew_of_lt tail.1]

mutual

theorem canon_canon : ∀ j : Json, j.canon.canon = j.canon
  | .null => rfl
  | .bool _ => rfl
  | .int _ => rfl
  | .float _ => rfl
  | .str _ => rfl
  | .arr xs => by
      unfold canon canon
      exact congrArg Json.arr (canonElems_canonElems xs)
  | .obj fs => by
      unfold canon canon
      exact congrArg Json.obj
        (canonMembers_eq_self (canonMembers_ascending fs) (canon_of_mem_canonMembers fs))

theorem canonElems_canonElems : ∀ xs : List Json, canonElems (canonElems xs) = canonElems xs
  | [] => rfl
  | x :: xs => by
      simp only [canonElems, canon_canon x, canonElems_canonElems xs]

theorem canon_of_mem_canonMembers :
    ∀ (fs : List (String × Json)), ∀ m ∈ canonMembers fs, canon m.2 = m.2
  | [], _, mem => nomatch mem
  | (k, v) :: fs, m, mem => by
      unfold canonMembers at mem
      rcases mem_insertNew mem with rfl | mem
      · exact canon_canon v
      · exact canon_of_mem_canonMembers fs m mem

end

/-- A text, and a list of texts, is the canonical form of itself only. -/
theorem canon_eq_str {j : Json} {s : String} (eq : j.canon = .str s) : j = .str s := by
  cases j with
  | str t => exact eq
  | _ => cases eq

theorem canonElems_eq_texts {ss : List String} :
    ∀ {xs : List Json}, canonElems xs = ss.map .str → xs = ss.map .str := by
  induction ss with
  | nil =>
      intro xs eq
      cases xs with
      | nil => rfl
      | cons x xs => cases eq
  | cons s ss ih =>
      intro xs eq
      cases xs with
      | nil => cases eq
      | cons x xs =>
          obtain ⟨head, tail⟩ := List.cons.inj eq
          rw [canon_eq_str head, ih tail, List.map_cons]

theorem canon_eq_texts {j : Json} {ss : List String} (eq : j.canon = .arr (ss.map .str)) :
    j = .arr (ss.map .str) := by
  cases j with
  | arr xs => exact congrArg Json.arr (canonElems_eq_texts (Json.arr.inj eq))
  | _ => cases eq

theorem canonElems_texts (ss : List String) : canonElems (ss.map .str) = ss.map .str := by
  induction ss with
  | nil => rfl
  | cons s ss ih => rw [List.map_cons, canonElems, ih, canon]

/-- Every value is the same as its canonical form. -/
theorem same_canon (j : Json) : Same j j.canon := (canon_canon j).symm

/-! ## Lookups see the canonical form -/

theorem lookup_cons_ne {k k' : String} (ne : k' ≠ k) (v : Json) (fs : List (String × Json)) :
    lookup k ((k', v) :: fs) = lookup k fs := by
  simp only [lookup, if_neg ne]
  cases lookup k fs <;> rfl

theorem lookup_insertNew_self {k : String} {v : Json} :
    ∀ {fs : List (String × Json)}, lookup k fs = none → lookup k (insertNew k v fs) = some v
  | [], _ => by simp only [insertNew, lookup, ↓reduceIte]
  | (k', v') :: fs, absent => by
      simp only [lookup] at absent
      split at absent
      · cases absent
      · rename_i rest
        split at absent
        · cases absent
        · rename_i different
          unfold insertNew
          split
          · simp only [lookup, rest, if_neg different, ↓reduceIte]
          · rw [if_neg (Ne.symm different)]
            simp only [lookup, lookup_insertNew_self rest]

theorem lookup_insertNew_ne {k k₀ : String} {v : Json} (ne : k₀ ≠ k) :
    ∀ {fs : List (String × Json)}, lookup k (insertNew k₀ v fs) = lookup k fs
  | [] => by simp only [insertNew, lookup, if_neg ne]
  | (k', v') :: fs => by
      unfold insertNew
      split
      · simp only [lookup, if_neg ne]
        split
        · rename_i found eq
          exact eq.symm
        · rename_i eq
          exact eq.symm
      · split
        · rfl
        · simp only [lookup, lookup_insertNew_ne ne]

/-- A key that is listed is found. -/
theorem lookup_of_mem {m : String × Json} :
    ∀ {fs : List (String × Json)}, m ∈ fs → ∃ v, lookup m.1 fs = some v
  | (k, v) :: fs, mem => by
      cases rest : lookup m.1 fs with
      | some found => exact ⟨found, by simp only [lookup, rest]⟩
      | none =>
          rcases List.mem_cons.mp mem with rfl | mem
          · exact ⟨v, by simp only [lookup, rest, ↓reduceIte]⟩
          · obtain ⟨found, isFound⟩ := lookup_of_mem mem
            rw [rest] at isFound
            cases isFound

/-- A key below all the others is not there. -/
theorem lookup_of_lt {k : String} :
    ∀ {fs : List (String × Json)}, (∀ m ∈ fs, k < m.1) → lookup k fs = none
  | [], _ => rfl
  | (k', v) :: fs, above => by
      simp only [lookup, lookup_of_lt fun m mem => above m (List.mem_cons_of_mem _ mem),
        if_neg (ne_of_gt (above (k', v) List.mem_cons_self))]

/-- A key that is present keeps its member. -/
theorem insertNew_present {k : String} {v found : Json} :
    ∀ {fs : List (String × Json)}, Ascending fs → lookup k fs = some found →
      insertNew k v fs = fs
  | [], _, present => nomatch present
  | (k', v') :: fs, asc, present => by
      have tail := List.pairwise_cons.mp asc
      unfold insertNew
      by_cases eq : k = k'
      · subst eq
        rw [if_neg (lt_irrefl k), if_pos rfl]
      · have below : lookup k fs = some found := by
          simp only [lookup, if_neg (Ne.symm eq)] at present
          split at present
          · rename_i eq
            rw [eq, present]
          · cases present
        have notBefore : ¬ k < k' := by
          intro before
          rw [lookup_of_lt fun m mem => lt_trans before (tail.1 m mem)] at below
          cases below
        rw [if_neg notBefore, if_neg eq, insertNew_present tail.2 below]

/-- Canonicalizing a member list canonicalizes what each lookup finds. -/
theorem lookup_canonMembers (k : String) :
    ∀ fs : List (String × Json), lookup k (canonMembers fs) = (lookup k fs).map canon
  | [] => rfl
  | (k', v) :: fs => by
      have ih := lookup_canonMembers k fs
      unfold canonMembers
      by_cases eq : k' = k
      · subst eq
        cases rest : lookup k' fs with
        | none =>
            rw [rest] at ih
            rw [lookup_insertNew_self ih]
            simp only [lookup, rest, ↓reduceIte, Option.map_some]
        | some found =>
            rw [rest] at ih
            rw [insertNew_present (canonMembers_ascending fs) ih, ih]
            simp only [lookup, rest, Option.map_some]
      · rw [lookup_insertNew_ne eq, ih, lookup_cons_ne eq]

theorem get?_canon (j : Json) (k : String) : j.canon.get? k = (j.get? k).map canon := by
  cases j with
  | obj fs => exact lookup_canonMembers k fs
  | _ => rfl

/-- Equal values answer every lookup with equal values. -/
theorem Same.get? {a b : Json} (same : Same a b) (k : String) :
    (a.get? k).map canon = (b.get? k).map canon := by
  rw [← get?_canon, ← get?_canon, show a.canon = b.canon from same]

/-- Ascending member lists are equal when their lookups are. -/
theorem Ascending.ext :
    ∀ {fs gs : List (String × Json)}, Ascending fs → Ascending gs →
      (∀ k, lookup k fs = lookup k gs) → fs = gs
  | [], [], _, _, _ => rfl
  | [], (k, v) :: gs, _, asc, same => by
      have absent := lookup_of_lt (List.pairwise_cons.mp asc).1
      have found := same k
      simp only [lookup, absent, ↓reduceIte] at found
      cases found
  | (k, v) :: fs, [], asc, _, same => by
      have absent := lookup_of_lt (List.pairwise_cons.mp asc).1
      have found := same k
      simp only [lookup, absent, ↓reduceIte] at found
      cases found
  | (k, v) :: fs, (k', v') :: gs, asc, asc', same => by
      have tail := List.pairwise_cons.mp asc
      have tail' := List.pairwise_cons.mp asc'
      have absent := lookup_of_lt tail.1
      have absent' := lookup_of_lt tail'.1
      rcases lt_trichotomy k k' with before | rfl | after
      · have below := lookup_of_lt fun m mem => lt_trans before (tail'.1 m mem)
        have found := same k
        simp only [lookup, absent, below, ↓reduceIte, if_neg (ne_of_gt before)] at found
        cases found
      · have found := same k
        simp only [lookup, absent, absent', ↓reduceIte, Option.some.injEq] at found
        have rest : fs = gs := Ascending.ext tail.2 tail'.2 fun k'' => by
          by_cases eq : k'' = k
          · rw [eq, absent, absent']
          · have below := same k''
            rw [lookup_cons_ne (Ne.symm eq), lookup_cons_ne (Ne.symm eq)] at below
            exact below
        rw [found, rest]
      · have below := lookup_of_lt fun m mem => lt_trans after (tail.1 m mem)
        have found := same k'
        simp only [lookup, absent', below, ↓reduceIte, if_neg (ne_of_gt after)] at found
        cases found

/-- **Two objects are the same exactly when their lookups are.** -/
theorem same_obj_iff {fs gs : List (String × Json)} :
    Same (.obj fs) (.obj gs) ↔ ∀ k, (lookup k fs).map canon = (lookup k gs).map canon := by
  constructor
  · exact fun same k => same.get? k
  · intro same
    refine congrArg Json.obj (Ascending.ext (canonMembers_ascending fs)
      (canonMembers_ascending gs) fun k => ?_)
    rw [lookup_canonMembers, lookup_canonMembers, same k]

/-! ## Changing a member -/

/-- `isinstance(j, dict)`. -/
def isObj : Json → Bool
  | .obj _ => true
  | _ => false

/-- `{k: v for k, v in j.items() if k != key}`. -/
def without (j : Json) (key : String) : Json :=
  match j with
  | .obj fs => .obj (fs.filter fun m => decide (m.1 ≠ key))
  | j => j

/-- `{**j, key: v}`. -/
def set (j : Json) (key : String) (v : Json) : Json :=
  match j with
  | .obj fs => .obj (fs.filter (fun m => decide (m.1 ≠ key)) ++ [(key, v)])
  | j => j

theorem lookup_filter (key k : String) :
    ∀ fs : List (String × Json), lookup k (fs.filter fun m => decide (m.1 ≠ key)) =
      if k = key then none else lookup k fs
  | [] => by
      simp only [List.filter_nil, lookup, ite_self]
  | (k', v) :: fs => by
      have ih := lookup_filter key k fs
      by_cases eq : k = key
      · rw [if_pos eq] at ih ⊢
        by_cases dropped : k' = key
        · rw [List.filter_cons_of_neg (by simpa using dropped), ih]
        · rw [List.filter_cons_of_pos (by simpa using dropped)]
          simp only [lookup, ih, if_neg (eq ▸ dropped : k' ≠ k)]
      · rw [if_neg eq] at ih ⊢
        by_cases dropped : k' = key
        · rw [List.filter_cons_of_neg (by simpa using dropped), ih,
            lookup_cons_ne fun same : k' = k => eq (same.symm.trans dropped)]
        · rw [List.filter_cons_of_pos (by simpa using dropped)]
          simp only [lookup, ih]

theorem lookup_concat (key k : String) (v : Json) :
    ∀ fs : List (String × Json), lookup k (fs ++ [(key, v)]) =
      if k = key then some v else lookup k fs
  | [] => by
      simp only [List.nil_append, lookup, eq_comm]
  | (k', v') :: fs => by
      simp only [List.cons_append, lookup, lookup_concat key k v fs]
      by_cases eq : k = key
      · simp only [if_pos eq]
      · simp only [if_neg eq]

@[simp] theorem get?_without (j : Json) (key k : String) :
    (j.without key).get? k = if k = key then none else j.get? k := by
  cases j with
  | obj fs => exact lookup_filter key k fs
  | _ => simp only [without, get?, ite_self]

@[simp] theorem get?_set_self (fs : List (String × Json)) (key : String) (v : Json) :
    ((Json.obj fs).set key v).get? key = some v := by
  unfold set Json.get?
  dsimp only
  rw [lookup_concat, if_pos rfl]

theorem get?_set_ne {key k : String} (ne : k ≠ key) (j : Json) (v : Json) :
    (j.set key v).get? k = j.get? k := by
  cases j with
  | obj fs =>
      unfold set Json.get?
      dsimp only
      rw [lookup_concat, if_neg ne, lookup_filter, if_neg ne]
  | _ => rfl

/-- A member is dropped from equal values alike. -/
theorem Same.without {a b : Json} (same : Same a b) (key : String) :
    Same (a.without key) (b.without key) := by
  cases a with
  | obj fs =>
      cases b with
      | obj gs =>
          refine same_obj_iff.mpr fun k => ?_
          rw [lookup_filter, lookup_filter]
          split
          · rfl
          · exact same.get? k
      | _ => simp [Same, canon] at same
  | _ => cases b <;> first | exact same | simp [Same, canon] at same

end Json

end Wire
