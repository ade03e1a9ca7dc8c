import Mathlib

/-!
# The lines of `git diff --name-only`

Two trees, the changes between them and the renames that git detects (`NameOnly`), and the
text that is printed: a line for each path, C-quoted where a byte needs it.

* `splitlines_unlines`: the lines of a text whose lines are free of line boundaries.
* `line_clean`: the lines that git prints are.
-/

namespace Git

/-! ## Paths -/

abbrev Byte := Fin 256

/-- Components that are not empty, not `.`, `..` or `.git`, without NUL. -/
def isLegal (bytes : List Byte) : Bool :=
  bytes.all (fun b => decide (b ≠ 0)) && (bytes.splitOn 47).all fun component =>
    decide (component ∉ [[], [46], [46, 46], [46, 103, 105, 116]])

/-- The path of a file in a tree, its components separated by slashes. -/
structure Path where
  bytes : List Byte
  legal : isLegal bytes = true
deriving DecidableEq

def char (b : Byte) : Char := Char.ofNat b

/-- A byte that is printed as it is: no control byte, no byte outside ASCII, no quote and no
backslash. -/
def isPlain (b : Byte) : Bool := decide (32 ≤ b ∧ b < 127 ∧ b ≠ 34 ∧ b ≠ 92)

def octalDigit (n : Nat) : Char := Char.ofNat (48 + n % 8)

/-- A byte between the quotes. -/
def quoteByte (b : Byte) : List Char :=
  if isPlain b then [char b]
  else match b.val with
    | 7 => ['\\', 'a']
    | 8 => ['\\', 'b']
    | 9 => ['\\', 't']
    | 10 => ['\\', 'n']
    | 11 => ['\\', 'v']
    | 12 => ['\\', 'f']
    | 13 => ['\\', 'r']
    | 34 => ['\\', '"']
    | 92 => ['\\', '\\']
    | n => ['\\', octalDigit (n / 64), octalDigit (n / 8), octalDigit n]

namespace Path

/-- The bytes, each as one character. -/
def chars (p : Path) : List Char := p.bytes.map char

def plain (p : Path) : Bool := p.bytes.all isPlain

/-- The line that is printed for a path. -/
def line (p : Path) : List Char :=
  if p.plain then p.chars else '"' :: (p.bytes.flatMap quoteByte ++ ['"'])

theorem line_plain {p : Path} (plain : p.plain = true) : p.line = p.chars := if_pos plain

theorem line_quoted {p : Path} (quoted : p.plain = false) :
    p.line = '"' :: (p.bytes.flatMap quoteByte ++ ['"']) := by
  unfold line
  rw [quoted]
  rfl

end Path

/-! ## Lines -/

/-- The characters at which `str.splitlines` ends a line. -/
def isBoundary (c : Char) : Bool :=
  decide (c.toNat ∈ [10, 11, 12, 13, 28, 29, 30, 0x85, 0x2028, 0x2029])

/-- `str.splitlines`, after the characters of the current line. -/
def splitlinesFrom (current : List Char) : List Char → List (List Char)
  | [] => if current.isEmpty then [] else [current]
  | '\r' :: '\n' :: rest => current :: splitlinesFrom [] rest
  | c :: rest =>
      if isBoundary c then current :: splitlinesFrom [] rest
      else splitlinesFrom (current ++ [c]) rest

def splitlines (text : List Char) : List (List Char) := splitlinesFrom [] text

/-- Lines with a newline after each. -/
def unlines (lines : List (List Char)) : List Char := lines.flatMap fun line => line ++ ['\n']

theorem splitlinesFrom_line {line current rest : List Char}
    (clean : ∀ c ∈ line, isBoundary c = false) :
    splitlinesFrom current (line ++ '\n' :: rest) = (current ++ line) :: splitlinesFrom [] rest := by
  induction line generalizing current with
  | nil =>
      rw [List.nil_append, List.append_nil]
      rw [splitlinesFrom, if_pos (by decide)]
      rintro _ ⟨⟩
  | cons c line ih =>
      have solid : isBoundary c = false := clean c List.mem_cons_self
      have notReturn : c ≠ '\r' := by
        rintro rfl
        cases solid
      rw [List.cons_append, splitlinesFrom, if_neg (by rw [solid]; decide),
        ih fun c mem => clean c (List.mem_cons_of_mem _ mem), List.append_assoc,
        List.singleton_append]
      exact fun _ is _ => notReturn is

/-- **The lines of a text are those it was made of**, if none holds a boundary. -/
theorem splitlines_unlines {lines : List (List Char)}
    (clean : ∀ line ∈ lines, ∀ c ∈ line, isBoundary c = false) :
    splitlines (unlines lines) = lines := by
  unfold splitlines
  induction lines with
  | nil => rfl
  | cons line lines ih =>
      have rest := ih fun line mem => clean line (List.mem_cons_of_mem _ mem)
      unfold unlines at rest ⊢
      rw [List.flatMap_cons, List.append_assoc, List.singleton_append,
        splitlinesFrom_line (clean line List.mem_cons_self), rest, List.nil_append]

theorem quoteByte_clean (b : Byte) {c : Char} (mem : c ∈ quoteByte b) : isBoundary c = false := by
  have all : (List.finRange 256).all (fun b => (quoteByte b).all fun c => !isBoundary c) = true := by
    decide +kernel
  have clean := List.all_eq_true.mp (List.all_eq_true.mp all b (List.mem_finRange b)) c mem
  exact (Bool.not_eq_true' _).mp clean

theorem char_clean : ∀ b : Byte, isPlain b = true → isBoundary (char b) = false := by
  decide +kernel

/-- What is printed for a path holds no line boundary. -/
theorem line_clean (p : Path) : ∀ c ∈ p.line, isBoundary c = false := by
  intro c mem
  cases plain : p.plain with
  | true =>
      rw [Path.line_plain plain] at mem
      obtain ⟨b, here, rfl⟩ := List.mem_map.mp mem
      exact char_clean b (List.all_eq_true.mp plain b here)
  | false =>
      rw [Path.line_quoted plain] at mem
      have quote : isBoundary '"' = false := by decide
      rcases List.mem_cons.mp mem with rfl | mem
      · exact quote
      rcases List.mem_append.mp mem with mem | mem
      · obtain ⟨b, _, within⟩ := List.mem_flatMap.mp mem
        exact quoteByte_clean b within
      · obtain rfl := List.mem_singleton.mp mem
        exact quote

/-! ## Differences -/

/-- The files of a tree. -/
def Tree (Blob : Type) : Type := Path → Option Blob

variable {Blob : Type} {base head : Tree Blob}

/-- What is printed for two trees: the paths whose files differ, but of a detected rename the
new path only.  Which renames are detected is git's guess; a pair is made of a file that is
gone and a file that is new, and no file is in two pairs. -/
structure NameOnly (base head : Tree Blob) where
  renames : List (Path × Path)
  gone : ∀ r ∈ renames, base r.1 ≠ none ∧ head r.1 = none
  isNew : ∀ r ∈ renames, base r.2 = none ∧ head r.2 ≠ none
  olds_once : (renames.map Prod.fst).Nodup
  news_once : (renames.map Prod.snd).Nodup
  printed : List Path
  mem_printed : ∀ p, p ∈ printed ↔ base p ≠ head p ∧ p ∉ renames.map Prod.fst

/-- The output. -/
def NameOnly.stdout (diff : NameOnly base head) : List Char :=
  unlines (diff.printed.map Path.line)

theorem NameOnly.splitlines_stdout (diff : NameOnly base head) :
    splitlines diff.stdout = diff.printed.map Path.line := by
  refine splitlines_unlines fun line mem => ?_
  obtain ⟨p, _, rfl⟩ := List.mem_map.mp mem
  exact line_clean p

end Git
