import RemoteAgent.Lib.GitDiff
import RemoteAgent.Lib.PyText

/-!
# The classifier of runtime changes

`ci_runtime_paths.py` reads the names that git prints for a range of commits and decides
whether an image has to be published.

* `runtime_change_seen_iff`: when a range is classified as a runtime change.
* `runtime_change_swallowed`: a file that is moved away, and a file whose name is quoted.
-/

namespace RemoteAgent.RuntimePaths

open Git

def runtimePrefixes : List String := ["remote_agent_connector/", "deploy/"]

def runtimeFiles : List String := ["Dockerfile", "README.md", "pyproject.toml", ".dockerignore"]

def zeroSha : String := "0000000000000000000000000000000000000000"

/-- `is_runtime_path`. -/
def isRuntimePath (path : String) : Bool :=
  let raw := (Py.strip path).toList
  let normalized := if ['.', '/'].isPrefixOf raw then raw.drop 2 else raw
  let normalized := normalized.dropWhile (· = '/')
  normalized.isEmpty ||
    runtimeFiles.any (fun file => decide (normalized = file.toList)) ||
    runtimePrefixes.any (fun tree => tree.toList.isPrefixOf normalized) ||
    runtimePrefixes.any (fun tree => decide (normalized ++ ['/'] = tree.toList))

/-- `classify`. -/
def classify (paths : List String) : Bool × List String :=
  let hits := (paths.filter isRuntimePath).dedup.mergeSort fun a b => decide (a ≤ b)
  (!hits.isEmpty, hits)

/-- What `subprocess.run` returns. -/
structure Completed where
  returncode : Int
  stdout : String
  stderr : String

/-- `changed_paths`; the error is the text of its `ValueError`. -/
def changedPaths (completed : Completed) : Except String (List String) :=
  if completed.returncode ≠ 0 then
    .error (if Py.strip completed.stderr ≠ "" then Py.strip completed.stderr else "git diff failed")
  else
    .ok (((splitlines completed.stdout.toList).map String.ofList).filter
      fun line => decide (Py.strip line ≠ ""))

/-- What `main` prints. -/
structure Report where
  runtime : Bool
  reason : String
  hits : List String

/-- `main`; `git` runs `git diff` on a range. -/
def main (git : String → String → Completed) (base head : String) (paths : List String) : Report :=
  let base := Py.strip base
  let head := Py.strip head
  if paths ≠ [] then ⟨(classify paths).1, "explicit-paths", (classify paths).2⟩
  else if base = "" ∨ base = zeroSha ∨ head = "" then ⟨true, "base-unknown", []⟩
  else match changedPaths (git base head) with
    | .error _ => ⟨true, "diff-failed", []⟩
    | .ok paths => ⟨(classify paths).1, "git-range", (classify paths).2⟩

/-- **A range that cannot be read is published.** -/
theorem main_unread {git : String → String → Completed} {base head : String}
    (failed : (git (Py.strip base) (Py.strip head)).returncode ≠ 0) :
    (main git base head []).runtime = true := by
  unfold main
  dsimp only
  rw [if_neg (not_not_intro rfl)]
  split
  · rfl
  · unfold changedPaths
    rw [if_pos failed]

/-! ## One line -/

/-- A file that an image is built from. -/
def IsRuntime (p : Path) : Prop :=
  (∃ tree ∈ runtimePrefixes, tree.toList <+: p.chars) ∨ ∃ file ∈ runtimeFiles, p.chars = file.toList

/-- The name of a path, as a line that is not quoted has it. -/
def name (p : Path) : String := String.ofList p.chars

/-- A text that does not begin with white space, up to its end. -/
theorem strip_of_solid {c : Char} {cs : List Char} (solid : Py.isSpace c = false) :
    Py.strip (String.ofList (c :: cs)) = String.ofList ((c :: cs).rdropWhile Py.isSpace) := by
  unfold Py.strip
  rw [String.toList_ofList, Py.trimBoth_eq_rdropWhile, List.dropWhile_cons_of_neg (by
    rw [solid]
    decide)]

/-- White space at the end leaves a front alone that does not end in white space. -/
theorem prefix_rdropWhile {p : Char → Bool} {c : Char} (solid : p c = false)
    (front rest : List Char) : front ++ [c] <+: (front ++ [c] ++ rest).rdropWhile p := by
  unfold List.rdropWhile
  have last : List.dropWhile p (front ++ [c]).reverse = (front ++ [c]).reverse := by
    rw [List.reverse_append, List.reverse_singleton, List.singleton_append,
      List.dropWhile_cons_of_neg (by rw [solid]; decide)]
  rw [List.reverse_append, List.dropWhile_append]
  split
  · rw [last, List.reverse_reverse]
  · rw [List.reverse_append, List.reverse_reverse]
    exact List.prefix_append _ _

/-- **A quoted name is never taken for a runtime path.** -/
theorem isRuntimePath_quoted (middle : List Char) :
    isRuntimePath (String.ofList ('"' :: (middle ++ ['"']))) = false := by
  have whole : ('"' :: (middle ++ ['"'])).rdropWhile Py.isSpace = '"' :: (middle ++ ['"']) := by
    rw [← List.cons_append, List.rdropWhile_concat_neg _ _ _ (by decide)]
  have stripped : (Py.strip (String.ofList ('"' :: (middle ++ ['"'])))).toList =
      '"' :: (middle ++ ['"']) := by
    rw [strip_of_solid (by decide), whole, String.toList_ofList]
  unfold isRuntimePath
  rw [stripped]
  simp [runtimeFiles, runtimePrefixes, List.isPrefixOf]

/-- A text that begins with the name of a runtime tree, and with no dot and no slash. -/
theorem isRuntimePath_tree {path tree : String} {c : Char} {cs : List Char}
    (mem : tree ∈ runtimePrefixes) (within : tree.toList <+: (Py.strip path).toList)
    (begins : (Py.strip path).toList = c :: cs) (notDot : c ≠ '.') (notSlash : c ≠ '/') :
    isRuntimePath path = true := by
  unfold isRuntimePath
  have relative : ['.', '/'].isPrefixOf (c :: cs) = false := by
    simp only [List.isPrefixOf, Bool.and_eq_false_iff, beq_eq_false_iff_ne]
    exact Or.inl (Ne.symm notDot)
  rw [begins] at within
  simp only [begins, relative, Bool.false_eq_true, if_false, List.dropWhile_cons, notSlash,
    decide_false, Bool.or_eq_true]
  refine Or.inl (Or.inr (List.any_eq_true.mpr ⟨tree, mem, ?_⟩))
  exact List.isPrefixOf_iff_prefix.mpr within

/-- **A runtime path that is not quoted is taken for one.** -/
theorem isRuntimePath_plain {p : Path} (runtime : IsRuntime p) :
    Py.strip (name p) ≠ "" ∧ isRuntimePath (name p) = true := by
  rcases runtime with ⟨tree, mem, rest, is⟩ | ⟨file, mem, is⟩
  · obtain ⟨first, front, last, spelled, solid, solid', notDot, notSlash⟩ :
        ∃ first front last, tree.toList = first :: (front ++ [last]) ∧
          Py.isSpace first = false ∧ Py.isSpace last = false ∧ first ≠ '.' ∧ first ≠ '/' := by
      simp only [runtimePrefixes, List.mem_cons, List.not_mem_nil, or_false] at mem
      rcases mem with rfl | rfl
      · exact ⟨'r', "emote_agent_connector".toList, '/', by decide, by decide, by decide, by decide,
          by decide⟩
      · exact ⟨'d', "eploy".toList, '/', by decide, by decide, by decide, by decide, by decide⟩
    have stripped : (Py.strip (name p)).toList =
        (first :: front ++ [last] ++ rest).rdropWhile Py.isSpace := by
      unfold name
      rw [← is, spelled, List.cons_append, strip_of_solid solid, String.toList_ofList]
      rfl
    have within : tree.toList <+: (Py.strip (name p)).toList := by
      rw [stripped, spelled, ← List.cons_append]
      exact prefix_rdropWhile solid' (first :: front) rest
    obtain ⟨end_, ends⟩ := within
    have begins : (Py.strip (name p)).toList = first :: (front ++ [last] ++ end_) := by
      rw [← ends, spelled]
      rfl
    refine ⟨fun empty => ?_, isRuntimePath_tree mem ⟨end_, ends⟩ begins notDot notSlash⟩
    rw [empty] at begins
    cases begins
  · unfold name
    rw [is, String.ofList_toList]
    have table : ∀ file ∈ runtimeFiles, Py.strip file ≠ "" ∧ isRuntimePath file = true := by decide
    exact table file mem

/-! ## A range -/

variable {Blob : Type} {base head : Git.Tree Blob}

/-- What `changed_paths` answers for the lines of git. -/
theorem changedPaths_stdout (diff : NameOnly base head) :
    changedPaths ⟨0, String.ofList diff.stdout, ""⟩ = .ok ((diff.printed.map fun p =>
      String.ofList p.line).filter fun line => decide (Py.strip line ≠ "")) := by
  unfold changedPaths
  simp only [ne_eq, not_true_eq_false, if_false, String.toList_ofList, diff.splitlines_stdout,
    List.map_map]
  rfl

theorem classify_iff {paths : List String} :
    (classify paths).1 = true ↔ ∃ path ∈ paths, isRuntimePath path = true := by
  have length : (classify paths).2.length = (paths.filter isRuntimePath).dedup.length :=
    List.length_mergeSort _
  have mem : ∀ path, path ∈ (paths.filter isRuntimePath).dedup ↔
      path ∈ paths ∧ isRuntimePath path = true := fun path => by
    rw [List.mem_dedup, List.mem_filter]
  have decided : (classify paths).1 = !(classify paths).2.isEmpty := rfl
  rw [decided]
  cases hits : (paths.filter isRuntimePath).dedup with
  | nil =>
      have empty : (classify paths).2 = [] := List.length_eq_zero_iff.mp (by rw [length, hits]; rfl)
      rw [empty]
      refine ⟨fun no => (nomatch no), fun ⟨path, here, runtime⟩ => ?_⟩
      have isHit := (mem path).mpr ⟨here, runtime⟩
      rw [hits] at isHit
      exact absurd isHit List.not_mem_nil
  | cons path rest =>
      have some_ : (classify paths).2 ≠ [] := by
        intro empty
        rw [empty, hits] at length
        cases length
      refine ⟨fun _ => ⟨path, (mem path).mp (by rw [hits]; exact List.mem_cons_self)⟩, fun _ => ?_⟩
      rw [Bool.not_eq_true', List.isEmpty_eq_false_iff]
      exact some_

/-- **When a range is classified as a runtime change.**  For any two trees and any renames
that git detects: some changed path that is not the old path of a rename needs no quotes, and
is a runtime path or looks like one. -/
theorem runtime_change_seen_iff (diff : NameOnly base head) :
    ∃ paths, changedPaths ⟨0, String.ofList diff.stdout, ""⟩ = .ok paths ∧
      ((classify paths).1 = true ↔
        ∃ p, base p ≠ head p ∧ p ∉ diff.renames.map Prod.fst ∧ p.plain = true ∧
          (IsRuntime p ∨ Py.strip (name p) ≠ "" ∧ isRuntimePath (name p) = true)) := by
  refine ⟨_, changedPaths_stdout diff, ?_⟩
  rw [classify_iff]
  constructor
  · rintro ⟨path, mem, runtime⟩
    obtain ⟨mem, solid⟩ := List.mem_filter.mp mem
    obtain ⟨p, printed, rfl⟩ := List.mem_map.mp mem
    obtain ⟨changed, notOld⟩ := (diff.mem_printed p).mp printed
    cases plain : p.plain with
    | false =>
        rw [Path.line_quoted plain, isRuntimePath_quoted] at runtime
        cases runtime
    | true =>
        rw [Path.line_plain plain] at runtime solid
        exact ⟨p, changed, notOld, plain, Or.inr ⟨of_decide_eq_true solid, runtime⟩⟩
  · rintro ⟨p, changed, notOld, plain, looks⟩
    obtain ⟨solid, runtime⟩ : Py.strip (name p) ≠ "" ∧ isRuntimePath (name p) = true :=
      looks.elim isRuntimePath_plain id
    refine ⟨name p, List.mem_filter.mpr ⟨List.mem_map.mpr ⟨p, ?_, ?_⟩, decide_eq_true solid⟩,
      runtime⟩
    · exact (diff.mem_printed p).mpr ⟨changed, notOld⟩
    · rw [Path.line_plain plain]
      rfl

/-! ## Two changes that are swallowed -/

namespace Sample

local instance byteSize : NeZero 256 := ⟨by decide⟩

def ascii (text : String) : List Byte := text.toList.map fun c => Fin.ofNat 256 c.toNat

def relay : Path := ⟨ascii "remote_agent_connector/relay.py", by decide⟩

def movedRelay : Path := ⟨ascii "docs/relay.py", by decide⟩

/-- `deploy/café.conf`. -/
def cafe : Path := ⟨ascii "deploy/caf" ++ [195, 169] ++ ascii ".conf", by decide⟩

/-- A tree with one file. -/
def single (p : Path) (blob : Nat) : Git.Tree Nat := fun q => if q = p then some blob else none

/-- A detected rename out of the runtime trees. -/
def moving : NameOnly (single relay 1) (single movedRelay 1) where
  renames := [(relay, movedRelay)]
  gone := by decide
  isNew := by decide
  olds_once := by decide
  news_once := by decide
  printed := [movedRelay]
  mem_printed := by
    intro p
    have different : relay ≠ movedRelay := by decide
    by_cases old : p = relay
    · subst old
      simp [single, different]
    · by_cases new : p = movedRelay
      · subst new
        simp [single, Ne.symm different]
      · simp [single, old, new]

/-- A change of a file whose name is not ASCII. -/
def editing : NameOnly (single cafe 1) (single cafe 2) where
  renames := []
  gone := by decide
  isNew := by decide
  olds_once := by decide
  news_once := by decide
  printed := [cafe]
  mem_printed := by
    intro p
    by_cases here : p = cafe
    · subst here
      simp [single]
    · simp [single, here]

end Sample

/-- **Two runtime changes that are swallowed**: the module that is moved to the documentation,
and the file of the image whose name is printed in quotes. -/
theorem runtime_change_swallowed :
    (IsRuntime Sample.relay ∧ Sample.single Sample.relay 1 Sample.relay ≠
        Sample.single Sample.movedRelay 1 Sample.relay ∧
      ∃ paths, changedPaths ⟨0, String.ofList Sample.moving.stdout, ""⟩ = .ok paths ∧
        (classify paths).1 = false) ∧
    (IsRuntime Sample.cafe ∧ Sample.single Sample.cafe 1 Sample.cafe ≠
        Sample.single Sample.cafe 2 Sample.cafe ∧
      ∃ paths, changedPaths ⟨0, String.ofList Sample.editing.stdout, ""⟩ = .ok paths ∧
        (classify paths).1 = false) := by
  have silent : ∀ {paths : List String}, (∀ path ∈ paths, isRuntimePath path = false) →
      (classify paths).1 = false := by
    intro paths none_
    rw [Bool.eq_false_iff, Ne, classify_iff]
    rintro ⟨path, mem, runtime⟩
    rw [none_ path mem] at runtime
    cases runtime
  refine ⟨⟨Or.inl ?_, by decide, _, changedPaths_stdout _, silent ?_⟩,
    ⟨Or.inl ?_, by decide, _, changedPaths_stdout _, silent ?_⟩⟩
  · exact ⟨"remote_agent_connector/", by decide, "relay.py".toList, by decide⟩
  · decide
  · exact ⟨"deploy/", by decide, [99, 97, 102, 195, 169, 46, 99, 111, 110, 102].map char,
      by decide⟩
  · decide

end RemoteAgent.RuntimePaths
