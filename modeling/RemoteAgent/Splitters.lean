import RemoteAgent.Lib.PyText

/-!
# The two splitters of migration scripts

`store.py` cuts a script at every semicolon; `db.py` follows the quotes, and does not know
comments.

* `splitters_agree_iff`: when both return the statements of a script.
* `migration003_merged`: a migration that one of them does not split.
-/

namespace RemoteAgent.Splitters

/-! ## Scripts -/

/-- Where a character of a script stands. -/
inductive Mode where
  | code
  /-- After one `-`. -/
  | dash
  | single | double | comment
deriving DecidableEq

namespace Mode

/-- The place after a character. -/
def next : Mode → Char → Mode
  | .single, c => if c = '\'' then .code else .single
  | .double, c => if c = '"' then .code else .double
  | .comment, c => if c = '\n' then .code else .comment
  | .dash, '-' => .comment
  | _, c => if c = '\'' then .single else if c = '"' then .double else if c = '-' then .dash else .code

/-- Outside literals and comments. -/
def isTop : Mode → Bool
  | .code | .dash => true
  | _ => false

end Mode

/-- The place after a text; `none` when it has a semicolon outside literals and comments. -/
def scan : Mode → List Char → Option Mode
  | m, [] => some m
  | m, c :: cs => if m.isTop && decide (c = ';') then none else scan (m.next c) cs

/-- A statement without its semicolon, with the comments before and within it. -/
structure Statement where
  text : List Char
  whole : (scan .code text).any Mode.isTop = true
  solid : text.all Py.isSpace = false

/-- Statements with a semicolon after each, and white space. -/
structure Script where
  statements : List Statement
  tail : List Char
  blank : tail.all Py.isSpace = true

/-- The text of statements. -/
def textOf (statements : List Statement) (tail : List Char) : List Char :=
  statements.flatMap (fun s => s.text ++ [';']) ++ tail

def Script.text (script : Script) : String :=
  String.ofList (textOf script.statements script.tail)

/-- `strip`, of the characters. -/
def stripped (cs : List Char) : List Char := Py.trimBoth Py.isSpace cs

/-- The text cut at the semicolons outside literals and comments, after the characters of the
current piece. -/
def separate (mode : Mode) (current : List Char) : List Char → List (List Char)
  | [] => [current]
  | c :: cs =>
      if mode.isTop && decide (c = ';') then current :: separate .code [] cs
      else separate (mode.next c) (current ++ [c]) cs

/-- A text that is cut nowhere. -/
theorem separate_append {mode mode' : Mode} {current text rest : List Char}
    (scanned : scan mode text = some mode') :
    separate mode current (text ++ rest) = separate mode' (current ++ text) rest := by
  induction text generalizing mode current with
  | nil =>
      obtain rfl := Option.some.inj scanned
      rw [List.nil_append, List.append_nil]
  | cons c text ih =>
      unfold scan at scanned
      split at scanned
      · cases scanned
      · rename_i inside
        rw [List.cons_append, separate, if_neg inside, ih scanned, List.append_assoc,
          List.singleton_append]

/-- **The statements of a script are what stands between its semicolons outside literals and
comments.** -/
theorem separate_textOf {tail : List Char} (blank : tail.all Py.isSpace = true) :
    ∀ statements : List Statement,
      separate .code [] (textOf statements tail) = statements.map Statement.text ++ [tail]
  | [] => by
      have within : ∀ mode : Mode, mode.isTop = true → ∀ current cs, cs.all Py.isSpace = true →
          separate mode current cs = [current ++ cs] := by
        intro mode top current cs
        induction cs generalizing mode current with
        | nil => exact fun _ => by rw [separate, List.append_nil]
        | cons c cs ih =>
            intro blank
            obtain ⟨space, rest⟩ := Bool.and_eq_true_iff.mp (List.all_cons ▸ blank)
            have ne : ∀ c' : Char, Py.isSpace c' = false → c ≠ c' := by
              rintro c' solid rfl
              rw [space] at solid
              cases solid
            have next : mode.next c = .code := by
              cases mode with
              | code | dash =>
                  simp [Mode.next, ne '\'' (by decide), ne '"' (by decide), ne '-' (by decide)]
              | single | double | comment => cases top
            rw [separate, if_neg (by simp [ne ';' (by decide)]), next,
              ih .code rfl _ rest, List.append_assoc, List.singleton_append]
      exact within .code rfl [] tail blank
  | s :: statements => by
      obtain ⟨mode, scanned, top⟩ := (Option.any_eq_true _ _).mp s.whole
      have ih := separate_textOf blank statements
      unfold textOf at ih ⊢
      rw [List.flatMap_cons, List.append_assoc, List.append_assoc, separate_append scanned,
        List.singleton_append, separate, if_pos (by rw [top]; rfl), ih, List.nil_append]
      rfl

/-! ## `store.py` -/

/-- `store._split_statements`. -/
def storeSplit (script : String) : List String :=
  ((Py.split ';' script).map Py.strip).filter fun statement => decide (statement ≠ "")

/-! ## `db.py` -/

/-- The upper-case form of a character, where that is one ASCII letter: the small ASCII
letters, the dotless i and the long s. -/
def asciiUpper (c : Char) : Char :=
  if 'a' ≤ c ∧ c ≤ 'z' then Char.ofNat (c.toNat - 32)
  else if c.toNat = 0x131 then 'I'
  else if c.toNat = 0x17F then 'S'
  else c

def upper (cs : List Char) : List Char := cs.map asciiUpper

/-- The variables of the loop of `db._split_statements`. -/
structure Splitting where
  statements : List (List Char)
  current : List Char
  quote : Option Char
  triggerStatement : Bool

/-- The body of the loop. -/
def Splitting.step (st : Splitting) (c : Char) : Splitting :=
  let current := st.current ++ [c]
  match st.quote with
  | some quote => { st with current := current, quote := if c = quote then none else some quote }
  | none =>
      if c = '\'' ∨ c = '"' then { st with current := current, quote := some c }
      else if c = ';' then
        let statement := stripped current
        let triggerStatement :=
          st.triggerStatement || "CREATE TRIGGER".toList.isPrefixOf (upper statement)
        if triggerStatement && !("END;".toList.isSuffixOf (upper statement)) then
          { st with current := current, triggerStatement := triggerStatement }
        else
          { statements := st.statements ++ (if statement.isEmpty then [] else [statement])
            current := []
            quote := none
            triggerStatement := false }
      else { st with current := current }

/-- What is returned after the loop. -/
def Splitting.result (st : Splitting) : List (List Char) :=
  let trailing := stripped st.current
  st.statements ++ (if trailing.isEmpty then [] else [trailing])

def Splitting.init : Splitting := ⟨[], [], none, false⟩

/-- `db._split_statements`. -/
def dbSplit (script : String) : List String :=
  (script.toList.foldl Splitting.step Splitting.init).result.map String.ofList

/-! ## Stripped texts -/

/-- What is not white space is not stripped. -/
theorem count_stripped {c : Char} (solid : Py.isSpace c = false) (cs : List Char) :
    (stripped cs).count c = cs.count c := by
  have dropped : ∀ cs : List Char, (cs.dropWhile Py.isSpace).count c = cs.count c := by
    intro cs
    have front : (cs.takeWhile Py.isSpace).count c = 0 := by
      refine List.count_eq_zero.mpr fun mem => ?_
      have space := List.mem_takeWhile_imp mem
      rw [solid] at space
      cases space
    have whole := congrArg (List.count c) (List.takeWhile_append_dropWhile (p := Py.isSpace) (l := cs))
    rw [List.count_append, front, Nat.zero_add] at whole
    exact whole
  unfold stripped Py.trimBoth
  rw [List.count_reverse, dropped, List.count_reverse, dropped]

theorem stripped_append_blank {cs blank : List Char} (isBlank : blank.all Py.isSpace = true) :
    stripped (cs ++ blank) = stripped cs := by
  have back : ∀ xs : List Char, (xs ++ blank).rdropWhile Py.isSpace = xs.rdropWhile Py.isSpace := by
    intro xs
    unfold List.rdropWhile
    rw [List.reverse_append, List.dropWhile_append_of_pos]
    intro c mem
    exact List.all_eq_true.mp isBlank c (List.mem_reverse.mp mem)
  unfold stripped
  rw [Py.trimBoth_eq_rdropWhile, Py.trimBoth_eq_rdropWhile, List.dropWhile_append]
  split
  · rename_i empty
    rw [List.isEmpty_iff.mp empty]
    have gone : blank.dropWhile Py.isSpace = [] :=
      List.dropWhile_eq_nil_iff.mpr fun c mem => List.all_eq_true.mp isBlank c mem
    rw [gone]
  · exact back _

theorem stripped_terminated (cs : List Char) :
    stripped (cs ++ [';']) = cs.dropWhile Py.isSpace ++ [';'] := by
  have solid : Py.isSpace ';' = false := by decide
  have front : (cs ++ [';']).dropWhile Py.isSpace = cs.dropWhile Py.isSpace ++ [';'] := by
    rw [List.dropWhile_append]
    split
    · rename_i empty
      rw [List.isEmpty_iff.mp empty]
      rfl
    · rfl
  unfold stripped
  rw [Py.trimBoth_eq_rdropWhile, front, List.rdropWhile_concat_neg _ _ _ (by rw [solid]; decide)]

theorem stripped_stripped (cs : List Char) : stripped (stripped cs) = stripped cs :=
  Py.trimBoth_trimBoth _ _

theorem stripped_dropWhile (cs : List Char) :
    stripped (cs.dropWhile Py.isSpace) = stripped cs := by
  unfold stripped
  rw [Py.trimBoth_eq_rdropWhile, Py.trimBoth_eq_rdropWhile, List.dropWhile_idempotent]

theorem stripped_ne_nil {cs : List Char} (solid : cs.all Py.isSpace = false) : stripped cs ≠ [] := by
  intro empty
  obtain ⟨c, mem, notSpace⟩ := List.all_eq_false.mp solid
  have kept := count_stripped (Bool.eq_false_iff.mpr notSpace) cs
  rw [empty, List.count_nil] at kept
  exact List.count_eq_zero.mp kept.symm mem

/-- A statement without its semicolon and the white space around it. -/
def bareChars (cs : List Char) : List Char :=
  let cs := stripped cs
  stripped (if cs.getLast? = some ';' then cs.dropLast else cs)

def bare (statement : String) : String := String.ofList (bareChars statement.toList)

theorem bareChars_terminated (cs : List Char) :
    bareChars (stripped (cs ++ [';'])) = stripped cs := by
  unfold bareChars
  simp only [stripped_terminated, List.getLast?_concat, if_true,
    List.dropLast_concat, stripped_dropWhile]

theorem bareChars_of_free {cs : List Char} (free : ';' ∉ cs) : bareChars cs = stripped cs := by
  have free' : ';' ∉ stripped cs := by
    rw [← List.count_eq_zero, count_stripped (by decide), List.count_eq_zero]
    exact free
  unfold bareChars
  dsimp only
  rw [if_neg fun last => free' (List.mem_of_getLast? last), stripped_stripped]

theorem count_bareChars (cs : List Char) : cs.count ';' ≤ (bareChars cs).count ';' + 1 := by
  have solid : Py.isSpace ';' = false := by decide
  unfold bareChars
  dsimp only
  rw [count_stripped solid]
  split
  · rename_i last
    have whole := congrArg (List.count ';') (List.dropLast_append_getLast? _ last)
    rw [List.count_append, count_stripped solid cs] at whole
    have one : List.count ';' [';'] = 1 := by decide
    omega
  · rw [count_stripped solid]
    omega

/-! ## Cuts at every semicolon -/

theorem splitOn_free {x : Char} : ∀ {cs : List Char}, ∀ piece ∈ cs.splitOn x, x ∉ piece
  | [], piece, mem => by
      rw [List.splitOn_nil, List.mem_singleton] at mem
      rw [mem]
      exact List.not_mem_nil
  | c :: cs, piece, mem => by
      rw [List.splitOn_cons_eq_if_modifyHead] at mem
      split at mem
      · rcases List.mem_cons.mp mem with rfl | mem
        · exact List.not_mem_nil
        · exact splitOn_free piece mem
      · rename_i ne
        have rest : ∀ piece ∈ cs.splitOn x, x ∉ piece := splitOn_free
        cases pieces : cs.splitOn x with
        | nil =>
            rw [pieces] at mem
            exact absurd mem List.not_mem_nil
        | cons first others =>
            rw [pieces] at mem rest
            rcases List.mem_cons.mp mem with rfl | mem
            · intro within
              rcases List.mem_cons.mp within with rfl | within
              · exact ne (beq_self_eq_true _)
              · exact rest first List.mem_cons_self within
            · exact rest piece (List.mem_cons_of_mem _ mem)

theorem splitOn_textOf {tail : List Char} (blank : ';' ∉ tail) :
    ∀ {statements : List Statement}, (∀ s ∈ statements, ';' ∉ s.text) →
      (textOf statements tail).splitOn ';' = statements.map Statement.text ++ [tail]
  | [], _ => List.splitOn_eq_singleton blank
  | s :: statements, free => by
      have ih := splitOn_textOf blank fun s mem => free s (List.mem_cons_of_mem _ mem)
      unfold textOf at ih ⊢
      rw [List.flatMap_cons, List.append_assoc, List.append_assoc, List.singleton_append,
        List.splitOn_append_cons_self_of_not_mem (free s List.mem_cons_self), ih]
      rfl

/-- The statements, stripped. -/
def Script.stripped (script : Script) : List String :=
  script.statements.map fun s => String.ofList (Splitters.stripped s.text)

theorem Script.tail_free (script : Script) : ';' ∉ script.tail := by
  intro mem
  have space := List.all_eq_true.mp script.blank _ mem
  cases space

/-- **`store.py` returns the statements exactly if none has a semicolon in it.** -/
theorem storeSplit_iff (script : Script) :
    (storeSplit script.text).map bare = script.stripped ↔
      ∀ s ∈ script.statements, ';' ∉ s.text := by
  constructor
  · intro same s mem within
    have listed : String.ofList (stripped s.text) ∈ script.stripped :=
      List.mem_map.mpr ⟨s, mem, rfl⟩
    rw [← same] at listed
    obtain ⟨x, returned, is⟩ := List.mem_map.mp listed
    obtain ⟨x₀, cut, rfl⟩ := List.mem_map.mp (List.mem_filter.mp returned).1
    obtain ⟨piece, isPiece, rfl⟩ := List.mem_map.mp cut
    have free : ';' ∉ stripped piece := by
      rw [← List.count_eq_zero, count_stripped (by decide), List.count_eq_zero]
      exact splitOn_free piece isPiece
    have chars : bareChars (stripped piece) = stripped s.text := by
      have inner := congrArg String.toList is
      unfold bare Py.strip at inner
      rw [String.toList_ofList, String.toList_ofList, String.toList_ofList, String.toList_ofList]
        at inner
      exact inner
    rw [bareChars_of_free free, stripped_stripped] at chars
    have none_ : s.text.count ';' = 0 := by
      rw [← count_stripped (by decide) s.text, ← chars, List.count_eq_zero]
      exact free
    exact List.count_eq_zero.mp none_ within
  · intro free
    unfold storeSplit Py.split Script.text Script.stripped
    rw [String.toList_ofList, splitOn_textOf script.tail_free free]
    have last : Py.strip (String.ofList script.tail) = "" := by
      unfold Py.strip
      rw [String.toList_ofList]
      have empty : stripped ([] ++ script.tail) = stripped [] := stripped_append_blank script.blank
      exact congrArg String.ofList empty
    simp only [List.map_append, List.map_cons, List.map_nil, List.filter_append, last, ne_eq,
      not_true_eq_false, decide_false, Bool.false_eq_true, not_false_eq_true,
      List.filter_cons_of_neg, List.filter_nil, List.append_nil, List.map_map]
    rw [List.filter_eq_self.mpr, List.map_map]
    · refine List.map_congr_left fun s mem => ?_
      simp only [Function.comp_apply, bare, Py.strip, String.toList_ofList]
      have free' : ';' ∉ stripped s.text := by
        rw [← List.count_eq_zero, count_stripped (by decide), List.count_eq_zero]
        exact free s mem
      exact congrArg String.ofList ((bareChars_of_free free').trans (stripped_stripped _))
    · intro x mem
      obtain ⟨s, mem, rfl⟩ := List.mem_map.mp mem
      refine decide_eq_true fun empty => stripped_ne_nil s.solid ?_
      have chars := congrArg String.toList empty
      simp only [Function.comp_apply, Py.strip, String.toList_ofList] at chars
      exact chars

/-! ## Cuts outside quotes -/

/-- The quote that is open after a text, comments not looked at. -/
def quoteAfter : Option Char → List Char → Option Char
  | quote, [] => quote
  | some quote, c :: cs => quoteAfter (if c = quote then none else some quote) cs
  | none, c :: cs => quoteAfter (if c = '\'' ∨ c = '"' then some c else none) cs

/-- `CREATE TRIGGER` without an `END;`. -/
def isOpenTrigger (statement : List Char) : Bool :=
  "CREATE TRIGGER".toList.isPrefixOf (upper statement) &&
    !("END;".toList.isSuffixOf (upper statement))

/-- The statement ends where `db.py` ends it. -/
def Statement.ends (s : Statement) : Bool :=
  (quoteAfter none s.text).isNone && !isOpenTrigger (stripped (s.text ++ [';']))

theorem foldl_step_free {cs : List Char} (free : ';' ∉ cs) (st : Splitting) :
    cs.foldl Splitting.step st =
      { st with current := st.current ++ cs, quote := quoteAfter st.quote cs } := by
  induction cs generalizing st with
  | nil =>
      rw [List.append_nil]
      rfl
  | cons c cs ih =>
      have ne : c ≠ ';' := fun is => free (by rw [is]; exact List.mem_cons_self)
      have step : st.step c = { st with
          current := st.current ++ [c]
          quote := quoteAfter st.quote [c] } := by
        unfold Splitting.step
        cases quote : st.quote with
        | some quote => rfl
        | none =>
            simp only [ne, if_false, quoteAfter]
            split
            · rfl
            · rw [← quote]
      rw [List.foldl_cons, step, ih fun mem => free (List.mem_cons_of_mem _ mem)]
      simp only [List.append_assoc, List.singleton_append]
      congr 1
      cases st.quote <;> rfl

/-- A semicolon after a statement is its end, or nothing is cut. -/
theorem step_end (s : Statement) (statements : List (List Char)) :
    (Splitting.step ⟨statements, s.text, quoteAfter none s.text, false⟩ ';') =
        ⟨statements ++ [stripped (s.text ++ [';'])], [], none, false⟩ ∧ s.ends = true ∨
      (∃ quote trigger, Splitting.step ⟨statements, s.text, quoteAfter none s.text, false⟩ ';' =
        ⟨statements, s.text ++ [';'], quote, trigger⟩) ∧ s.ends = false := by
  have some_ : (stripped (s.text ++ [';'])).isEmpty = false := by
    rw [List.isEmpty_eq_false_iff, stripped_terminated]
    exact List.append_ne_nil_of_right_ne_nil _ (List.cons_ne_nil _ _)
  unfold Statement.ends Splitting.step
  cases quote : quoteAfter none s.text with
  | some quote =>
      right
      exact ⟨⟨_, _, rfl⟩, rfl⟩
  | none =>
      have notQuote : ¬ (';' = '\'' ∨ ';' = '"') := by decide
      simp only [notQuote, if_false, if_true, Bool.false_or]
      unfold isOpenTrigger
      split
      · rename_i open_
        right
        rw [open_]
        exact ⟨⟨_, _, rfl⟩, rfl⟩
      · rename_i closed
        left
        rw [Bool.eq_false_iff.mpr closed, some_]
        exact ⟨rfl, rfl⟩

/-- A character is added, or the statement that it ends is cut off. -/
theorem step_cases (st : Splitting) (c : Char) :
    (st.step c).statements = st.statements ∧ (st.step c).current = st.current ++ [c] ∨
      (st.step c).statements = st.statements ++ (if (stripped (st.current ++ [c])).isEmpty then []
        else [stripped (st.current ++ [c])]) := by
  unfold Splitting.step
  dsimp only
  split
  · exact Or.inl ⟨rfl, rfl⟩
  · split
    · exact Or.inl ⟨rfl, rfl⟩
    split
    · split
      · exact Or.inl ⟨rfl, rfl⟩
      · exact Or.inr rfl
    · exact Or.inl ⟨rfl, rfl⟩

/-- Two semicolons have come together. -/
def Merged (st : Splitting) : Prop :=
  2 ≤ st.current.count ';' ∨ ∃ x ∈ st.statements, 2 ≤ x.count ';'

/-- The text with two semicolons stays, or is returned. -/
theorem merged_of_grown {st : Splitting} {c : Char}
    (grown : 2 ≤ (st.current ++ [c]).count ';') : Merged (st.step c) := by
  rcases step_cases st c with ⟨_, current⟩ | statements
  · left
    rw [current]
    exact grown
  · right
    rw [← count_stripped (by decide)] at grown
    rw [statements]
    refine ⟨stripped (st.current ++ [c]), List.mem_append_right _ ?_, grown⟩
    rw [if_neg]
    · exact List.mem_cons_self
    · intro empty
      rw [List.isEmpty_iff.mp empty, List.count_nil] at grown
      omega

theorem Merged.step {st : Splitting} (merged : Merged st) (c : Char) : Merged (st.step c) := by
  rcases merged with two | ⟨x, mem, two⟩
  · refine merged_of_grown ?_
    rw [List.count_append]
    omega
  · rcases step_cases st c with ⟨statements, _⟩ | statements
    · exact Or.inr ⟨x, by rw [statements]; exact mem, two⟩
    · exact Or.inr ⟨x, by rw [statements]; exact List.mem_append_left _ mem, two⟩

theorem Merged.foldl {st : Splitting} (merged : Merged st) (cs : List Char) :
    Merged (cs.foldl Splitting.step st) := by
  induction cs generalizing st with
  | nil => exact merged
  | cons c cs ih => exact ih (merged.step c)

theorem Merged.result {st : Splitting} (merged : Merged st) : ∃ x ∈ st.result, 2 ≤ x.count ';' := by
  unfold Splitting.result
  rcases merged with two | ⟨x, mem, two⟩
  · have kept := count_stripped (show Py.isSpace ';' = false by decide) st.current
    refine ⟨stripped st.current, List.mem_append_right _ ?_, by rw [kept]; exact two⟩
    rw [if_neg]
    · exact List.mem_cons_self
    · intro empty
      rw [List.isEmpty_iff.mp empty, List.count_nil] at kept
      omega
  · exact ⟨x, List.mem_append_left _ mem, two⟩

theorem textOf_cons (s : Statement) (statements : List Statement) (tail : List Char) :
    textOf (s :: statements) tail = s.text ++ ';' :: textOf statements tail := by
  unfold textOf
  rw [List.flatMap_cons, List.append_assoc, List.append_assoc, List.singleton_append]

/-- A statement and its semicolon, from a fresh start. -/
theorem foldl_statement {s : Statement} (free : ';' ∉ s.text) (statements : List (List Char))
    (rest : List Char) :
    (s.text ++ ';' :: rest).foldl Splitting.step ⟨statements, [], none, false⟩ =
      rest.foldl Splitting.step
        (Splitting.step ⟨statements, s.text, quoteAfter none s.text, false⟩ ';') := by
  rw [List.foldl_append, foldl_step_free free, List.foldl_cons, List.nil_append]

variable {tail : List Char}

theorem db_returns (blank : tail.all Py.isSpace = true) : ∀ (todo : List Statement)
    (statements : List (List Char)), (∀ s ∈ todo, ';' ∉ s.text) →
    (∀ s ∈ todo.dropLast, s.ends = true) →
    ((textOf todo tail).foldl Splitting.step ⟨statements, [], none, false⟩).result =
      statements ++ todo.map fun s => stripped (s.text ++ [';'])
  | [], statements, _, _ => by
      have free : ';' ∉ tail := fun mem => nomatch List.all_eq_true.mp blank _ mem
      have empty : stripped ([] ++ tail) = stripped [] := stripped_append_blank blank
      unfold textOf
      rw [List.flatMap_nil, List.nil_append, foldl_step_free free]
      unfold Splitting.result
      dsimp only
      rw [empty]
      rfl
  | [s], statements, free, _ => by
      have last := db_returns blank [] (statements ++ [stripped (s.text ++ [';'])])
        (fun _ mem => absurd mem List.not_mem_nil) (fun _ mem => absurd mem List.not_mem_nil)
      have freeTail : ';' ∉ tail := fun mem => nomatch List.all_eq_true.mp blank _ mem
      rw [textOf_cons, foldl_statement (free s List.mem_cons_self)]
      rcases step_end s statements with ⟨cut, _⟩ | ⟨⟨quote, trigger, kept⟩, _⟩
      · rw [cut, last, List.map_nil, List.append_nil]
        rfl
      · -- the text that is left over is this statement
        have nonempty : (stripped (s.text ++ [';'])).isEmpty = false := by
          rw [List.isEmpty_eq_false_iff, stripped_terminated]
          exact List.append_ne_nil_of_right_ne_nil _ (List.cons_ne_nil _ _)
        rw [kept]
        unfold textOf
        rw [List.flatMap_nil, List.nil_append, foldl_step_free freeTail]
        unfold Splitting.result
        dsimp only
        rw [stripped_append_blank blank, nonempty]
        rfl
  | s :: s' :: todo, statements, free, ends => by
      rw [textOf_cons, foldl_statement (free s List.mem_cons_self)]
      have ends_s : s.ends = true := ends s List.mem_cons_self
      rcases step_end s statements with ⟨cut, _⟩ | ⟨_, open_⟩
      · rw [cut, db_returns blank (s' :: todo) _ (fun s mem => free s (List.mem_cons_of_mem _ mem))
          fun s mem => ends s (List.mem_cons_of_mem _ mem), List.append_assoc]
        rfl
      · rw [ends_s] at open_
        cases open_

/-- **A statement that is not ended where it ends is merged with the next one.** -/
theorem db_merges : ∀ (todo : List Statement) (statements : List (List Char)),
    (∀ s ∈ todo, ';' ∉ s.text) → (∃ s ∈ todo.dropLast, s.ends = false) →
    Merged ((textOf todo tail).foldl Splitting.step ⟨statements, [], none, false⟩)
  | [], _, _, late => by
      obtain ⟨s, mem, _⟩ := late
      exact absurd mem List.not_mem_nil
  | [s], _, _, late => by
      obtain ⟨s', mem, _⟩ := late
      exact absurd mem List.not_mem_nil
  | s :: s' :: todo, statements, free, late => by
      have freeRest := fun s mem => free s (List.mem_cons_of_mem _ mem)
      rw [textOf_cons, foldl_statement (free s List.mem_cons_self)]
      rcases step_end s statements with ⟨cut, ends⟩ | ⟨⟨quote, trigger, kept⟩, _⟩
      · rw [cut]
        refine db_merges (s' :: todo) _ freeRest ?_
        obtain ⟨s₀, mem, open_⟩ := late
        rcases List.mem_cons.mp mem with rfl | mem
        · rw [ends] at open_
          cases open_
        · exact ⟨s₀, mem, open_⟩
      · rw [kept, textOf_cons, List.foldl_append, List.foldl_cons,
          foldl_step_free (freeRest s' List.mem_cons_self)]
        refine Merged.foldl (merged_of_grown ?_) _
        simp only [List.count_append, List.count_singleton_self]
        omega

/-- **`db.py` returns the statements exactly if it ends each but the last where it ends**, for
scripts whose statements have no semicolon in them. -/
theorem dbSplit_iff {script : Script} (free : ∀ s ∈ script.statements, ';' ∉ s.text) :
    (dbSplit script.text).map bare = script.stripped ↔
      ∀ s ∈ script.statements.dropLast, s.ends = true := by
  unfold dbSplit Script.text Script.stripped Splitting.init
  rw [String.toList_ofList, List.map_map]
  constructor
  · intro same s mem
    by_contra open_
    have merges := @db_merges script.tail script.statements [] free
      ⟨s, mem, Bool.eq_false_iff.mpr open_⟩
    obtain ⟨x, mem, two⟩ := merges.result
    have listed := List.mem_map_of_mem (f := bare ∘ String.ofList) mem
    rw [same] at listed
    obtain ⟨s', mem', is⟩ := List.mem_map.mp listed
    have chars := congrArg String.toList is
    simp only [Function.comp_apply, bare, String.toList_ofList] at chars
    have left := count_bareChars x
    rw [← chars, count_stripped (by decide), List.count_eq_zero.mpr (free s' mem')] at left
    omega
  · intro ends
    rw [db_returns script.blank _ _ free ends, List.nil_append, List.map_map]
    refine List.map_congr_left fun s _ => ?_
    simp only [Function.comp_apply, bare, String.toList_ofList, bareChars_terminated]

/-- **The two splitters return the statements of a script, and so the same ones, exactly if**
no statement has a semicolon in a literal or a comment, and of every statement but the last
the quotes are closed with those in comments counted, and it is no trigger without `END`. -/
theorem splitters_agree_iff (script : Script) :
    (storeSplit script.text).map bare = script.stripped ∧
        (dbSplit script.text).map bare = script.stripped ↔
      (∀ s ∈ script.statements, ';' ∉ s.text) ∧
        ∀ s ∈ script.statements.dropLast, quoteAfter none s.text = none ∧
          isOpenTrigger (stripped (s.text ++ [';'])) = false := by
  have ends_iff : ∀ s : Statement, s.ends = true ↔ quoteAfter none s.text = none ∧
      isOpenTrigger (stripped (s.text ++ [';'])) = false := by
    intro s
    simp only [Statement.ends, Bool.and_eq_true, Option.isNone_iff_eq_none, Bool.not_eq_true']
  simp only [← ends_iff, storeSplit_iff]
  exact and_congr_right fun free => dbSplit_iff free

/-! ## A migration -/

/-- The characters of a literal, which the kernel unfolds at once. -/
theorem toList_literal {s : String} (cs : List Char) (is : s = String.ofList cs) :
    s.toList = cs := by
  rw [is, String.toList_ofList]

/-- The comments and the new table of `003_request_client_isolation.sql`. -/
def createRequestsNewSql : String := "-- Idempotency protects one caller against its own transport retry. The old key
-- was (connector_id, idempotency_key) with no caller, so a replay arriving
-- under a different client_id was served another caller's stored result.
--
-- The rebuild is additive: every existing row is carried over. client_id is
-- backfilled from the audit trail by request_id, which records the principal
-- that made the call. Rows with no attributable principal keep the empty
-- string. That empty string is DELIBERATELY UNREACHABLE, not merely unused:
-- parse_client_id cannot produce it, so no live caller can ever claim, replay
-- or complete one of those rows. Treat a blank client_id as a tombstone for a
-- pre-isolation record, never as a valid caller or a wildcard that matches
-- every client. Every row in that group was already terminal before this
-- migration ran, so no in-flight idempotency protection was lost by making
-- them unreachable.
CREATE TABLE agent_requests_new (
    connector_id TEXT NOT NULL,
    client_id TEXT NOT NULL DEFAULT '',
    idempotency_key TEXT NOT NULL,
    request_id TEXT NOT NULL,
    tool_name TEXT NOT NULL,
    request_digest TEXT NOT NULL,
    status TEXT NOT NULL CHECK (
        status IN ('pending', 'completed', 'failed')
    ),
    result_json TEXT,
    created_at TEXT NOT NULL,
    completed_at TEXT,
    PRIMARY KEY (connector_id, client_id, idempotency_key)
)"

set_option maxRecDepth 20000 in
def createRequestsNew : Statement where
  text := createRequestsNewSql.toList
  whole := by
    unfold createRequestsNewSql
    rw [toList_literal _ rfl]
    decide +kernel
  solid := by
    unfold createRequestsNewSql
    rw [toList_literal _ rfl]
    decide +kernel

theorem createRequestsNew_text : createRequestsNew.text = createRequestsNewSql.toList := by
  simp only [createRequestsNew]

/-- The copy of the rows. -/
def copyRequestsSql : String := "

INSERT INTO agent_requests_new (
    connector_id, client_id, idempotency_key, request_id, tool_name,
    request_digest, status, result_json, created_at, completed_at
)
SELECT
    r.connector_id,
    COALESCE((
        SELECT a.agent_principal
        FROM agent_audit_events a
        WHERE a.request_id = r.request_id
          AND a.agent_principal IS NOT NULL
          AND a.agent_principal <> ''
        ORDER BY a.created_at ASC
        LIMIT 1
    ), ''),
    r.idempotency_key,
    r.request_id,
    r.tool_name,
    r.request_digest,
    r.status,
    r.result_json,
    r.created_at,
    r.completed_at
FROM agent_requests r"

set_option maxRecDepth 20000 in
def copyRequests : Statement where
  text := copyRequestsSql.toList
  whole := by
    unfold copyRequestsSql
    rw [toList_literal _ rfl]
    decide +kernel
  solid := by
    unfold copyRequestsSql
    rw [toList_literal _ rfl]
    decide +kernel

theorem copyRequests_text : copyRequests.text = copyRequestsSql.toList := by
  simp only [copyRequests]

def dropRequests : Statement where
  text := "

DROP TABLE agent_requests".toList
  whole := by
    rw [toList_literal _ rfl]
    decide +kernel
  solid := by
    rw [toList_literal _ rfl]
    decide +kernel

def renameRequests : Statement where
  text := "

ALTER TABLE agent_requests_new RENAME TO agent_requests".toList
  whole := by
    rw [toList_literal _ rfl]
    decide +kernel
  solid := by
    rw [toList_literal _ rfl]
    decide +kernel

/-- `003_request_client_isolation.sql`. -/
def migration003 : Script where
  statements := [createRequestsNew, copyRequests, dropRequests, renameRequests]
  tail := ['\n']
  blank := by decide

/-- A statement with a semicolon in a literal. -/
def insertSemicolon : Statement where
  text := "INSERT INTO notes VALUES ('a;b')".toList
  whole := by decide
  solid := by decide

def insertScript : Script where
  statements := [insertSemicolon]
  tail := ['\n']
  blank := by decide

set_option maxRecDepth 20000 in
/-- The new table has no semicolon in it, and after its comments a quote is open. -/
theorem createRequestsNew_quotes :
    (createRequestsNewSql.toList.all fun c => decide (c ≠ ';')) = true ∧
      (quoteAfter none createRequestsNewSql.toList).isSome = true := by
  unfold createRequestsNewSql
  rw [toList_literal _ rfl]
  decide +kernel

set_option maxRecDepth 20000 in
theorem copyRequests_free :
    (copyRequestsSql.toList.all fun c => decide (c ≠ ';')) = true := by
  unfold copyRequestsSql
  rw [toList_literal _ rfl]
  decide +kernel

theorem migration003_free : ∀ s ∈ migration003.statements, ';' ∉ s.text := by
  have free : ∀ {cs : List Char}, (cs.all fun c => decide (c ≠ ';')) = true → ';' ∉ cs :=
    fun all mem => of_decide_eq_true (List.all_eq_true.mp all _ mem) rfl
  intro s mem
  simp only [migration003, List.mem_cons, List.not_mem_nil, or_false] at mem
  rcases mem with rfl | rfl | rfl | rfl
  · rw [createRequestsNew_text]
    exact free createRequestsNew_quotes.1
  · rw [copyRequests_text]
    exact free copyRequests_free
  · exact free (by decide +kernel)
  · exact free (by decide +kernel)

/-- **`db.py` does not split the third migration**, whose first comment has an apostrophe in
it, and `store.py` cuts a literal with a semicolon in two. -/
theorem migration003_merged :
    (storeSplit migration003.text).map bare = migration003.stripped ∧
    (dbSplit migration003.text).map bare ≠ migration003.stripped ∧
    (dbSplit insertScript.text).map bare = insertScript.stripped ∧
    storeSplit insertScript.text = ["INSERT INTO notes VALUES ('a", "b')"] ∧
    (storeSplit insertScript.text).map bare ≠ insertScript.stripped := by
  refine ⟨(storeSplit_iff _).mpr migration003_free, fun same => ?_, by decide +kernel,
    by decide +kernel, fun same => ?_⟩
  · have ends := (dbSplit_iff migration003_free).mp same createRequestsNew List.mem_cons_self
    have closed := (Bool.and_eq_true_iff.mp ends).1
    rw [createRequestsNew_text] at closed
    have open_ := createRequestsNew_quotes.2
    rw [Option.isNone_iff_eq_none.mp closed] at open_
    cases open_
  · have inside : ';' ∈ insertSemicolon.text := by decide
    exact (storeSplit_iff _).mp same insertSemicolon List.mem_cons_self inside

end RemoteAgent.Splitters
