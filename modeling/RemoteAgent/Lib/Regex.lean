import Mathlib

/-!
# Patterns that are matched by backtracking

`Pattern.run` tries the ways in which a pattern can match, in the order of a backtracking
matcher, and hands each to a continuation until one succeeds.  `Pattern.sub` replaces the
matches of a text from the left.

* `Pattern.run_some`: what is matched is a prefix of what follows, with a character in it
  where the pattern `eats`.
* `greedy_past`: a greedy repetition takes all it can where the continuation fails on its
  characters.
* `Subs` relates a text to what `sub` makes of it; `Subs.nowhere` is the induction for what
  is nowhere in a text after a substitution, `Subs.eq_self` that for what a substitution
  leaves as it is.
* `Cuts` relates a text to one in which ends of runs of a class are replaced by a mark;
  `Cuts.nowhere` carries what is nowhere in the first over to the second.
-/

namespace Regex

variable {α β : Type}

/-- A place in a text: the character before it, and what follows. -/
structure Cursor (α : Type) where
  last : Option α
  rest : List α

/-- What stands between two places. -/
def Cursor.upTo (c c' : Cursor α) : List α := c.rest.take (c.rest.length - c'.rest.length)

inductive Pattern (α : Type) where
  /-- One character of a class. -/
  | one (p : α → Bool)
  /-- Any number of characters of a class, as many as possible first. -/
  | many (p : α → Bool)
  | seq (r s : Pattern α)
  | alt (r s : Pattern α)
  /-- Between a word and what is no word. -/
  | edge (isWord : α → Bool)
  /-- Not after a character of a class. -/
  | notAfter (p : α → Bool)
  | group (r : Pattern α)

/-- Go on after as many characters of a class as possible. -/
def greedy (p : α → Bool) (next : Cursor α → Option β) : Option α → List α → Option β
  | last, [] => next ⟨last, []⟩
  | last, x :: xs =>
      if p x then (greedy p next (some x) xs).or (next ⟨last, x :: xs⟩) else next ⟨last, x :: xs⟩

/-- Whether a place is on the edge of a word. -/
def isEdge (isWord : α → Bool) (last : Option α) (rest : List α) : Bool :=
  last.any isWord != rest.head?.any isWord

namespace Pattern

/-- Match at a place and go on with the groups and the place after the match. -/
def run : Pattern α → Cursor α → (List (List α) → Cursor α → Option β) → Option β
  | one p, c, next =>
      match c.rest with
      | [] => none
      | x :: xs => if p x then next [] ⟨some x, xs⟩ else none
  | many p, c, next => greedy p (next []) c.last c.rest
  | seq r s, c, next => r.run c fun gs c' => s.run c' fun hs c'' => next (gs ++ hs) c''
  | alt r s, c, next => (r.run c next).or (s.run c next)
  | edge isWord, c, next => if isEdge isWord c.last c.rest then next [] c else none
  | notAfter p, c, next => if c.last.any p then none else next [] c
  | group r, c, next => r.run c fun gs c' => next (c.upTo c' :: gs) c'

/-- A match: its groups, and the place after it. -/
structure Match (α : Type) where
  groups : List (List α)
  stop : Cursor α

/-- The first match at a place. -/
def first (r : Pattern α) (last : Option α) (rest : List α) : Option (Match α) :=
  r.run ⟨last, rest⟩ fun gs c => some ⟨gs, c⟩

/-- Replace the matches, from the left, but none that is empty; `skip` characters belong to
the match before. -/
def sub (r : Pattern α) (write : List (List α) → List α) : Option α → Nat → List α → List α
  | _, _, [] => []
  | _, skip + 1, x :: xs => sub r write (some x) skip xs
  | last, 0, x :: xs =>
      match r.first last (x :: xs) with
      | some m =>
          if m.stop.rest.length ≤ xs.length then
            write m.groups ++ sub r write (some x) (xs.length - m.stop.rest.length) xs
          else x :: sub r write (some x) 0 xs
      | none => x :: sub r write (some x) 0 xs

/-- Whether every match has a character in it. -/
def eats : Pattern α → Bool
  | one _ => true
  | many _ => false
  | seq r s => r.eats || s.eats
  | alt r s => r.eats && s.eats
  | edge _ => false
  | notAfter _ => false
  | group r => r.eats

/-- At least one character of a class, as many as possible first. -/
def plus (p : α → Bool) : Pattern α := seq (one p) (many p)

/-- A character of each class, one after another. -/
def text : List (α → Bool) → Pattern α
  | [] => many fun _ => false
  | p :: ps => seq (one p) (text ps)

/-- One of the patterns, the first that matches. -/
def anyOf : List (Pattern α) → Pattern α
  | [] => one fun _ => false
  | [r] => r
  | r :: rs => alt r (anyOf rs)

end Pattern

/-! ## Greedy repetition -/

section Greedy

variable {p : α → Bool} {next : Cursor α → Option β}

/-- The character before a place that lies further on. -/
def lastOf (last : Option α) (xs : List α) : Option α := xs.getLast?.or last

theorem lastOf_cons (last : Option α) (x : α) (xs : List α) :
    lastOf last (x :: xs) = lastOf (some x) xs := by
  unfold lastOf
  rw [List.getLast?_cons]
  cases xs.getLast? <;> rfl

theorem lastOf_append (last : Option α) (xs ys : List α) :
    lastOf last (xs ++ ys) = lastOf (lastOf last xs) ys := by
  induction xs generalizing last with
  | nil => rfl
  | cons x xs ih => rw [List.cons_append, lastOf_cons, ih, lastOf_cons]

/-- Past characters of a class there is one before. -/
theorem lastOf_any {xs : List α} (some_ : xs ≠ []) (all : ∀ x ∈ xs, p x = true)
    (last : Option α) : (lastOf last xs).any p = true := by
  unfold lastOf
  rw [List.getLast?_eq_some_getLast some_]
  exact all _ (List.getLast_mem some_)

theorem greedy_stop {last : Option α} {rest : List α}
    (stops : ∀ x, rest.head? = some x → p x = false) :
    greedy p next last rest = next ⟨last, rest⟩ := by
  cases rest with
  | nil => rfl
  | cons x xs => rw [greedy, if_neg (by rw [stops x rfl]; exact Bool.false_ne_true)]

/-- Where what follows fails on the characters of the class, all of them are taken. -/
theorem greedy_past (fails : ∀ last x xs, p x = true → next ⟨last, x :: xs⟩ = none)
    {run : List α} (all : ∀ x ∈ run, p x = true) (last : Option α) {rest : List α}
    (stops : ∀ x, rest.head? = some x → p x = false) :
    greedy p next last (run ++ rest) = next ⟨lastOf last run, rest⟩ := by
  induction run generalizing last with
  | nil => exact greedy_stop stops
  | cons x run ih =>
      rw [List.cons_append, greedy, if_pos (all x List.mem_cons_self),
        fails last x _ (all x List.mem_cons_self), Option.or_none,
        ih (fun y mem => all y (List.mem_cons_of_mem _ mem)), lastOf_cons]

/-- Where what follows succeeds, all characters of the class are taken. -/
theorem greedy_all (succeeds : ∀ c, (next c).isSome = true) {run : List α}
    (all : ∀ x ∈ run, p x = true) (last : Option α) {rest : List α}
    (stops : ∀ x, rest.head? = some x → p x = false) :
    greedy p next last (run ++ rest) = next ⟨lastOf last run, rest⟩ := by
  induction run generalizing last with
  | nil => exact greedy_stop stops
  | cons x run ih =>
      rw [List.cons_append, greedy, if_pos (all x List.mem_cons_self),
        ih (fun y mem => all y (List.mem_cons_of_mem _ mem)), lastOf_cons]
      obtain ⟨b, some_⟩ := Option.isSome_iff_exists.mp (succeeds ⟨lastOf (some x) run, rest⟩)
      rw [some_]
      rfl

/-- A repetition goes on somewhere within the run of its class. -/
theorem greedy_some {last : Option α} {rest : List α} {b : β}
    (found : greedy p next last rest = some b) :
    ∃ run rest', rest = run ++ rest' ∧ (∀ x ∈ run, p x = true) ∧
      next ⟨lastOf last run, rest'⟩ = some b := by
  induction rest generalizing last with
  | nil => exact ⟨[], [], rfl, (fun _ mem => nomatch mem), found⟩
  | cons x xs ih =>
      have here : next ⟨last, x :: xs⟩ = some b → ∃ run rest', x :: xs = run ++ rest' ∧
          (∀ x ∈ run, p x = true) ∧ next ⟨lastOf last run, rest'⟩ = some b :=
        fun found => ⟨[], x :: xs, rfl, (fun _ mem => nomatch mem), found⟩
      unfold greedy at found
      split at found
      · rename_i isOne
        rcases Option.or_eq_some_iff.mp found with further | ⟨-, found⟩
        · obtain ⟨run, rest', rfl, all, found⟩ := ih further
          refine ⟨x :: run, rest', rfl, fun y mem => ?_, ?_⟩
          · rcases List.mem_cons.mp mem with rfl | mem
            · exact isOne
            · exact all y mem
          · rw [lastOf_cons]
            exact found
        · exact here found
      · exact here found

end Greedy

/-! ## Matches -/

namespace Pattern

/-- **What is matched is a prefix of what follows**, with a character in it where the pattern
`eats`. -/
theorem run_some {r : Pattern α} {c : Cursor α} {next : List (List α) → Cursor α → Option β}
    {b : β} (found : r.run c next = some b) :
    ∃ eaten gs rest, c.rest = eaten ++ rest ∧ (r.eats = true → eaten ≠ []) ∧
      next gs ⟨lastOf c.last eaten, rest⟩ = some b := by
  induction r generalizing c next with
  | one p =>
      unfold run at found
      split at found
      · cases found
      · rename_i x xs rest
        split at found
        · exact ⟨[x], [], xs, rest, fun _ => List.cons_ne_nil _ _, found⟩
        · cases found
  | many p =>
      obtain ⟨eaten, rest, split_, -, found⟩ := greedy_some found
      exact ⟨eaten, [], rest, split_, (fun eats => nomatch eats), found⟩
  | seq r s ihr ihs =>
      obtain ⟨front, gs, middle, atFront, frontEats, found⟩ := ihr found
      obtain ⟨back, hs, rest, atBack, backEats, found⟩ := ihs found
      refine ⟨front ++ back, gs ++ hs, rest, ?_, fun eats => ?_, ?_⟩
      · rw [atFront, List.append_assoc]
        exact congrArg _ atBack
      · rcases Bool.or_eq_true_iff.mp eats with eats | eats
        · exact List.append_ne_nil_of_left_ne_nil (frontEats eats) _
        · exact List.append_ne_nil_of_right_ne_nil _ (backEats eats)
      · rw [lastOf_append]
        exact found
  | alt r s ihr ihs =>
      rcases Option.or_eq_some_iff.mp found with found | ⟨-, found⟩
      · obtain ⟨eaten, gs, rest, split_, eats, found⟩ := ihr found
        exact ⟨eaten, gs, rest, split_, fun both => eats (Bool.and_eq_true_iff.mp both).1, found⟩
      · obtain ⟨eaten, gs, rest, split_, eats, found⟩ := ihs found
        exact ⟨eaten, gs, rest, split_, fun both => eats (Bool.and_eq_true_iff.mp both).2, found⟩
  | edge isWord =>
      unfold run at found
      split at found
      · exact ⟨[], [], c.rest, rfl, (fun eats => nomatch eats), found⟩
      · cases found
  | notAfter p =>
      unfold run at found
      split at found
      · cases found
      · exact ⟨[], [], c.rest, rfl, (fun eats => nomatch eats), found⟩
  | group r ih =>
      obtain ⟨eaten, gs, rest, split_, eats, found⟩ := ih found
      exact ⟨eaten, _, rest, split_, eats, found⟩

theorem run_group (r : Pattern α) (c : Cursor α) (next : List (List α) → Cursor α → Option β) :
    (group r).run c next = r.run c fun gs c' => next (c.upTo c' :: gs) c' := rfl

theorem run_seq (r s : Pattern α) (c : Cursor α) (next : List (List α) → Cursor α → Option β) :
    (seq r s).run c next = r.run c fun gs c' => s.run c' fun hs c'' => next (gs ++ hs) c'' := rfl

theorem run_edge_seq (isWord : α → Bool) (r : Pattern α) (last : Option α) (rest : List α)
    (next : List (List α) → Cursor α → Option β) :
    (seq (edge isWord) r).run ⟨last, rest⟩ next =
      if isEdge isWord last rest then r.run ⟨last, rest⟩ next else none := rfl

theorem run_edge_seq_some {isWord : α → Bool} {r : Pattern α} {last : Option α} {rest : List α}
    {next : List (List α) → Cursor α → Option β} {b : β}
    (found : (seq (edge isWord) r).run ⟨last, rest⟩ next = some b) :
    isEdge isWord last rest = true ∧ r.run ⟨last, rest⟩ next = some b := by
  rw [run_edge_seq] at found
  split at found
  · rename_i onEdge
    exact ⟨onEdge, found⟩
  · cases found

theorem run_notAfter_seq (p : α → Bool) (r : Pattern α) (last : Option α) (rest : List α)
    (next : List (List α) → Cursor α → Option β) :
    (seq (notAfter p) r).run ⟨last, rest⟩ next =
      if last.any p then none else r.run ⟨last, rest⟩ next := rfl

theorem run_one_seq (p : α → Bool) (r : Pattern α) (last : Option α) (x : α) (rest : List α)
    (next : List (List α) → Cursor α → Option β) :
    (seq (one p) r).run ⟨last, x :: rest⟩ next =
      if p x then r.run ⟨some x, rest⟩ next else none := rfl

theorem run_one_seq_some {p : α → Bool} {r : Pattern α} {last : Option α} {rest : List α}
    {next : List (List α) → Cursor α → Option β} {b : β}
    (found : (seq (one p) r).run ⟨last, rest⟩ next = some b) :
    ∃ x rest', rest = x :: rest' ∧ p x = true ∧ r.run ⟨some x, rest'⟩ next = some b := by
  cases rest with
  | nil => cases found
  | cons x rest =>
      rw [run_one_seq] at found
      split at found
      · rename_i isOne
        exact ⟨x, rest, rfl, isOne, found⟩
      · cases found

theorem first_some {r : Pattern α} {last : Option α} {rest : List α} {m : Match α}
    (found : r.first last rest = some m) :
    ∃ eaten, rest = eaten ++ m.stop.rest ∧ (r.eats = true → eaten ≠ []) ∧
      m.stop.last = lastOf last eaten := by
  obtain ⟨eaten, gs, rest', split_, eats, isSome⟩ := run_some found
  obtain rfl := Option.some.inj isSome
  exact ⟨eaten, split_, eats, rfl⟩

end Pattern

theorem upTo_eq {c c' : Cursor α} {eaten : List α} (split_ : c.rest = eaten ++ c'.rest) :
    c.upTo c' = eaten := by
  unfold Cursor.upTo
  rw [split_, List.length_append, Nat.add_sub_cancel, List.take_left]

/-- Nothing of a class begins a text. -/
def Off (p : α → Bool) (xs : List α) : Prop := ∀ x, xs.head? = some x → p x = false

theorem off_nil (p : α → Bool) : Off p [] := fun _ isHead => nomatch isHead

theorem off_cons {p : α → Bool} {x : α} (other : p x = false) (xs : List α) : Off p (x :: xs) := by
  intro y isHead
  obtain rfl : x = y := Option.some.inj isHead
  exact other

theorem off_append {p : α → Bool} {xs : List α} (some_ : xs ≠ []) (rest : List α) :
    Off p (xs ++ rest) ↔ Off p xs := by
  obtain ⟨x, xs, rfl⟩ := List.exists_cons_of_ne_nil some_
  exact Iff.rfl

/-- A word ends where no character of it follows. -/
theorem isEdge_iff_off {p : α → Bool} {last : Option α} (after : last.any p = true)
    (rest : List α) : isEdge p last rest = true ↔ Off p rest := by
  unfold isEdge
  rw [after]
  cases rest with
  | nil => exact iff_of_true rfl (off_nil p)
  | cons x rest =>
      constructor
      · intro differs
        refine off_cons ?_ rest
        have differs : (true != p x) = true := differs
        cases isOne : p x with
        | false => rfl
        | true => rw [isOne] at differs; cases differs
      · intro off
        show (true != p x) = true
        rw [off x rfl]
        rfl

/-- A text begins with a run of a class that goes as far as it can. -/
theorem exists_run (p : α → Bool) (xs : List α) :
    ∃ run rest, xs = run ++ rest ∧ (∀ x ∈ run, p x = true) ∧ Off p rest := by
  induction xs with
  | nil => exact ⟨[], [], rfl, (fun _ mem => nomatch mem), off_nil p⟩
  | cons x xs ih =>
      cases isOne : p x with
      | false => exact ⟨[], x :: xs, rfl, (fun _ mem => nomatch mem), off_cons isOne xs⟩
      | true =>
          obtain ⟨run, rest, rfl, all, off⟩ := ih
          exact ⟨x :: run, rest, rfl, List.forall_mem_cons.mpr ⟨isOne, all⟩, off⟩

/-- Such a run is determined. -/
theorem run_unique {p : α → Bool} {xs ys rest rest' : List α} (all : ∀ x ∈ xs, p x = true)
    (all' : ∀ y ∈ ys, p y = true) (off : Off p rest) (off' : Off p rest')
    (same : xs ++ rest = ys ++ rest') : xs = ys ∧ rest = rest' := by
  have taken : ∀ {xs rest : List α}, (∀ x ∈ xs, p x = true) → Off p rest →
      (xs ++ rest).takeWhile p = xs := by
    intro xs rest all off
    rw [List.takeWhile_append_of_pos all]
    cases rest with
    | nil => rw [List.takeWhile_nil, List.append_nil]
    | cons y rest =>
        rw [List.takeWhile_cons_of_neg (by rw [off y rfl]; exact Bool.false_ne_true),
          List.append_nil]
  have runs : xs = ys := by rw [← taken all off, same, taken all' off']
  subst runs
  exact ⟨rfl, List.append_cancel_left same⟩

namespace Pattern

variable {p : α → Bool} {last : Option α} {run rest : List α}
  {next : List (List α) → Cursor α → Option β}

theorem run_many_past (fails : ∀ last x xs, p x = true → next [] ⟨last, x :: xs⟩ = none)
    (all : ∀ x ∈ run, p x = true) (off : Off p rest) :
    (many p).run ⟨last, run ++ rest⟩ next = next [] ⟨lastOf last run, rest⟩ :=
  greedy_past fails all last off

/-- Where what follows succeeds, a run of a class is taken as a whole. -/
theorem run_plus_all (succeeds : ∀ c, (next [] c).isSome = true) (some_ : run ≠ [])
    (all : ∀ x ∈ run, p x = true) (off : Off p rest) :
    (plus p).run ⟨last, run ++ rest⟩ next = next [] ⟨lastOf last run, rest⟩ := by
  obtain ⟨x, run, rfl⟩ := List.exists_cons_of_ne_nil some_
  show (if p x then _ else none) = _
  rw [if_pos (all x List.mem_cons_self), lastOf_cons]
  exact greedy_all succeeds (fun y mem => all y (List.mem_cons_of_mem _ mem)) (some x) off

/-- So it is where what follows fails on the characters of the class. -/
theorem run_plus_past (fails : ∀ last x xs, p x = true → next [] ⟨last, x :: xs⟩ = none)
    (some_ : run ≠ []) (all : ∀ x ∈ run, p x = true) (off : Off p rest) :
    (plus p).run ⟨last, run ++ rest⟩ next = next [] ⟨lastOf last run, rest⟩ := by
  obtain ⟨x, run, rfl⟩ := List.exists_cons_of_ne_nil some_
  show (if p x then _ else none) = _
  rw [if_pos (all x List.mem_cons_self), lastOf_cons]
  exact greedy_past fails (fun y mem => all y (List.mem_cons_of_mem _ mem)) (some x) off

theorem run_plus_off (off : Off p rest) : (plus p).run ⟨last, rest⟩ next = none := by
  cases rest with
  | nil => rfl
  | cons x rest =>
      show (if p x then _ else none) = none
      rw [if_neg (by rw [off x rfl]; exact Bool.false_ne_true)]

/-- A run of a class with what may follow it, where that always succeeds. -/
theorem run_plus_some {b : β} (succeeds : ∀ c, (next [] c).isSome = true)
    (found : (plus p).run ⟨last, rest⟩ next = some b) :
    ∃ run rest', rest = run ++ rest' ∧ run ≠ [] ∧ (∀ x ∈ run, p x = true) ∧ Off p rest' ∧
      next [] ⟨lastOf last run, rest'⟩ = some b := by
  obtain ⟨run, rest', rfl, all, off⟩ := exists_run p rest
  by_cases some_ : run = []
  · subst some_
    rw [List.nil_append, run_plus_off off] at found
    cases found
  · rw [run_plus_all succeeds some_ all off] at found
    exact ⟨run, rest', rfl, some_, all, off, found⟩

/-- At a character of the class there is a run of it. -/
theorem run_plus_isSome (succeeds : ∀ c, (next [] c).isSome = true) {x : α}
    (isOne : p x = true) (rest : List α) :
    ((plus p).run ⟨last, x :: rest⟩ next).isSome = true := by
  obtain ⟨run, rest', isRest, all, off⟩ := exists_run p (x :: rest)
  have some_ : run ≠ [] := by
    rintro rfl
    have isHead : rest'.head? = some x := by rw [← List.nil_append rest', ← isRest]; rfl
    have other := off x isHead
    rw [isOne] at other
    cases other
  rw [isRest, run_plus_all succeeds some_ all off]
  exact succeeds _

theorem run_text {ps : List (α → Bool)} (matches_ : List.Forall₂ (fun p x => p x = true) ps run) :
    (text ps).run ⟨last, run ++ rest⟩ next = next [] ⟨lastOf last run, rest⟩ := by
  induction matches_ generalizing last with
  | nil => exact greedy_stop fun _ _ => rfl
  | @cons p x ps run isOne _ ih =>
      show (if p x then _ else none) = _
      rw [if_pos isOne, lastOf_cons]
      exact ih

theorem run_text_some {ps : List (α → Bool)} {b : β}
    (found : (text ps).run ⟨last, rest⟩ next = some b) :
    ∃ run rest', rest = run ++ rest' ∧ List.Forall₂ (fun p x => p x = true) ps run ∧
      next [] ⟨lastOf last run, rest'⟩ = some b := by
  induction ps generalizing last rest with
  | nil =>
      have stopped : next [] ⟨last, rest⟩ = some b := by
        rw [← found]
        exact (greedy_stop fun _ _ => rfl).symm
      exact ⟨[], rest, rfl, .nil, stopped⟩
  | cons p ps ih =>
      cases rest with
      | nil => cases found
      | cons x rest =>
          have found : (if p x then (text ps).run ⟨some x, rest⟩ next else none) = some b := found
          split at found
          · rename_i isOne
            obtain ⟨run, rest', rfl, matches_, found⟩ := ih found
            exact ⟨x :: run, rest', rfl, .cons isOne matches_, lastOf_cons last x run ▸ found⟩
          · cases found

theorem run_anyOf_some {rs : List (Pattern α)} {c : Cursor α} {b : β}
    (found : (anyOf rs).run c next = some b) : ∃ r ∈ rs, r.run c next = some b := by
  induction rs with
  | nil =>
      unfold anyOf run at found
      split at found <;> cases found
  | cons r rs ih =>
      cases rs with
      | nil => exact ⟨r, List.mem_cons_self, found⟩
      | cons r' rs =>
          rcases Option.or_eq_some_iff.mp found with found | ⟨-, found⟩
          · exact ⟨r, List.mem_cons_self, found⟩
          · obtain ⟨s, mem, found⟩ := ih found
            exact ⟨s, List.mem_cons_of_mem _ mem, found⟩

theorem run_anyOf_isSome {rs : List (Pattern α)} {c : Cursor α} {r : Pattern α} (mem : r ∈ rs)
    (found : (r.run c next).isSome = true) : ((anyOf rs).run c next).isSome = true := by
  induction rs with
  | nil => cases mem
  | cons s rs ih =>
      cases rs with
      | nil =>
          obtain rfl := List.mem_singleton.mp mem
          exact found
      | cons s' rs =>
          show ((s.run c next).or ((anyOf (s' :: rs)).run c next)).isSome = true
          rw [Option.isSome_or, Bool.or_eq_true_iff]
          rcases List.mem_cons.mp mem with rfl | mem
          · exact Or.inl found
          · exact Or.inr (ih mem)

end Pattern

/-! ## Substitution -/

/-- What `sub` makes of a text after the character `last`. -/
inductive Subs (r : Pattern α) (write : List (List α) → List α) :
    Option α → List α → List α → Prop where
  | nil {last : Option α} : Subs r write last [] []
  | keep {last : Option α} {x : α} {xs ys : List α} (unmatched : r.first last (x :: xs) = none)
      (rest : Subs r write (some x) xs ys) : Subs r write last (x :: xs) (x :: ys)
  | write {last : Option α} {x : α} {xs ys : List α} {m : Pattern.Match α}
      (matched : r.first last (x :: xs) = some m)
      (rest : Subs r write m.stop.last m.stop.rest ys) :
      Subs r write last (x :: xs) (write m.groups ++ ys)

theorem Pattern.sub_skip {r : Pattern α} {write : List (List α) → List α} (last : Option α)
    (eaten rest : List α) :
    r.sub write last eaten.length (eaten ++ rest) = r.sub write (lastOf last eaten) 0 rest := by
  induction eaten generalizing last with
  | nil => rfl
  | cons x eaten ih =>
      rw [List.length_cons, List.cons_append, Pattern.sub, ih, lastOf_cons]

/-- **`sub` is a substitution**, where the pattern eats. -/
theorem Pattern.sub_subs {r : Pattern α} {write : List (List α) → List α} (eats : r.eats = true) :
    ∀ (last : Option α) (xs : List α), Subs r write last xs (r.sub write last 0 xs)
  | _, [] => .nil
  | last, x :: xs => by
      unfold Pattern.sub
      cases found : r.first last (x :: xs) with
      | none => exact .keep found (sub_subs eats (some x) xs)
      | some m =>
          obtain ⟨eaten, split_, eaten_, isLast⟩ := Pattern.first_some found
          obtain ⟨y, tail, rfl⟩ := List.exists_cons_of_ne_nil (eaten_ eats)
          obtain ⟨rfl, isRest⟩ : x = y ∧ xs = tail ++ m.stop.rest := List.cons.inj split_
          have shorter : m.stop.rest.length ≤ xs.length := by
            rw [isRest, List.length_append]
            omega
          have skipped : xs.length - m.stop.rest.length = tail.length := by
            rw [isRest, List.length_append]
            omega
          dsimp only
          rw [if_pos shorter, skipped]
          have goesOn : r.sub write (some x) tail.length xs =
              r.sub write m.stop.last 0 m.stop.rest := by
            rw [isRest, Pattern.sub_skip, isLast, lastOf_cons]
          rw [goesOn]
          exact .write found (sub_subs eats m.stop.last m.stop.rest)
  termination_by _ xs => xs.length
  decreasing_by
    · exact Nat.lt_succ_self _
    · exact Nat.lt_succ_of_le shorter

/-- **What a substitution leaves as it is**: a text in which every match is written as it
stands. -/
theorem Subs.eq_self {r : Pattern α} {write : List (List α) → List α} {last : Option α}
    {xs ys : List α} (subs : Subs r write last xs ys)
    (stands : ∀ pre rest m, xs = pre ++ rest → r.first (lastOf last pre) rest = some m →
      write m.groups ++ m.stop.rest = rest) : ys = xs := by
  induction subs with
  | nil => rfl
  | @keep last x xs ys unmatched rest ih =>
      refine congrArg _ (ih fun pre rest m split_ matched => ?_)
      exact stands (x :: pre) rest m (by rw [split_, List.cons_append])
        (by rw [lastOf_cons]; exact matched)
  | @write last x xs ys m matched rest ih =>
      obtain ⟨eaten, split_, -, isLast⟩ := Pattern.first_some matched
      rw [ih fun pre rest m' rest_ matched' => ?_]
      · exact stands [] (x :: xs) m rfl matched
      · refine stands (eaten ++ pre) rest m' ?_ ?_
        · rw [split_, rest_, List.append_assoc]
        · rw [lastOf_append, ← isLast]
          exact matched'

/-- **What is nowhere in a text after a substitution**: not where a character was kept, not in
what was written, and not right after it. -/
theorem Subs.nowhere {r : Pattern α} {write : List (List α) → List α}
    {Bad : Option α → List α → Prop} (nil : ∀ last, ¬ Bad last [])
    (kept : ∀ {last x xs ys}, r.first last (x :: xs) = none → Subs r write (some x) xs ys →
      ¬ Bad last (x :: ys))
    (written : ∀ {last xs m ys}, r.first last xs = some m →
      Subs r write m.stop.last m.stop.rest ys → ∀ pre rest, write m.groups = pre ++ rest →
        rest ≠ [] → ¬ Bad (lastOf last pre) (rest ++ ys))
    (after : ∀ {last xs m ys}, r.first last xs = some m →
      Subs r write m.stop.last m.stop.rest ys → ∀ last', ¬ Bad last' ys)
    {last : Option α} {xs ys : List α} (subs : Subs r write last xs ys) :
    ∀ pre rest, ys = pre ++ rest → ¬ Bad (lastOf last pre) rest := by
  induction subs with
  | nil =>
      intro pre rest split_
      obtain ⟨rfl, rfl⟩ := List.append_eq_nil_iff.mp split_.symm
      exact nil _
  | @keep last x xs ys unmatched subs ih =>
      intro pre rest split_
      cases pre with
      | nil =>
          obtain rfl : x :: ys = rest := split_
          exact kept unmatched subs
      | cons y pre =>
          obtain ⟨rfl, later⟩ : x = y ∧ ys = pre ++ rest := List.cons.inj split_
          rw [lastOf_cons]
          exact ih pre rest later
  | @write last x xs ys m matched subs ih =>
      intro pre rest split_
      rcases List.append_eq_append_iff.mp split_ with ⟨more, rfl, isRest⟩ | ⟨more, isWritten, rfl⟩
      · cases more with
        | nil =>
            obtain rfl : ys = rest := isRest
            exact after matched subs _
        | cons y more =>
            have deeper := ih (y :: more) rest isRest
            rw [lastOf_cons] at deeper
            rw [lastOf_append, lastOf_cons]
            exact deeper
      · by_cases none_ : more = []
        · subst none_
          exact after matched subs _
        · exact written matched subs pre more isWritten none_

/-! ## Cut runs -/

/-- The second text is the first with ends of runs of a class cut off, each with the property
`Q`, and a mark in their place. -/
inductive Cuts (p : α → Bool) (Q : List α → Prop) (mark : List α) :
    Option α → List α → List α → Prop where
  | nil {last : Option α} : Cuts p Q mark last [] []
  | keep {last : Option α} {x : α} {xs ys : List α} (rest : Cuts p Q mark (some x) xs ys) :
      Cuts p Q mark last (x :: xs) (x :: ys)
  | last {last : Option α} {tail : List α} (some_ : tail ≠ []) (all : ∀ x ∈ tail, p x = true)
      (has : Q tail) : Cuts p Q mark last tail mark
  | cut {last : Option α} {tail : List α} {y : α} {xs ys : List α} (some_ : tail ≠ [])
      (all : ∀ x ∈ tail, p x = true) (has : Q tail) (stops : p y = false)
      (rest : Cuts p Q mark (some y) xs ys) :
      Cuts p Q mark last (tail ++ y :: xs) (mark ++ y :: ys)

namespace Cuts

variable {p : α → Bool} {Q : List α → Prop} {mark : List α} {last : Option α} {xs ys : List α}

theorem front (kept : List α) (cuts : Cuts p Q mark (lastOf last kept) xs ys) :
    Cuts p Q mark last (kept ++ xs) (kept ++ ys) := by
  induction kept generalizing last with
  | nil => exact cuts
  | cons x kept ih =>
      rw [lastOf_cons] at cuts
      exact .keep (ih cuts)

/-- A character that begins no mark was kept. -/
theorem cons_inv {m x : α} (cuts : Cuts p Q (m :: mark) last xs (x :: ys)) (other : x ≠ m) :
    ∃ xs', xs = x :: xs' ∧ Cuts p Q (m :: mark) (some x) xs' ys := by
  generalize marked : m :: mark = mark' at cuts
  generalize text : x :: ys = ys' at cuts
  cases cuts with
  | nil => cases text
  | keep rest =>
      cases text
      exact ⟨_, rfl, rest⟩
  | last some_ all has =>
      subst marked
      cases text
      exact absurd rfl other
  | cut some_ all has stops rest =>
      subst marked
      cases text
      exact absurd rfl other

theorem front_inv {m : α} {kept : List α} (others : ∀ x ∈ kept, x ≠ m)
    (cuts : Cuts p Q (m :: mark) last xs (kept ++ ys)) :
    ∃ xs', xs = kept ++ xs' ∧ Cuts p Q (m :: mark) (lastOf last kept) xs' ys := by
  induction kept generalizing last xs with
  | nil => exact ⟨xs, rfl, cuts⟩
  | cons x kept ih =>
      have cuts : Cuts p Q (m :: mark) last xs (x :: (kept ++ ys)) := cuts
      obtain ⟨xs', isXs, rest⟩ := cuts.cons_inv (others x List.mem_cons_self)
      obtain ⟨xs'', isRest, later⟩ := ih (fun y mem => others y (List.mem_cons_of_mem _ mem)) rest
      exact ⟨xs'', isXs.trans (congrArg _ isRest), lastOf_cons last x kept ▸ later⟩

/-- Where a text goes on, it went on: with the same character, or with one of the class. -/
theorem head_inv {y : α} (cuts : Cuts p Q mark last xs (y :: ys)) :
    ∃ x xs', xs = x :: xs' ∧ (x = y ∨ p x = true) := by
  generalize text : y :: ys = ys' at cuts
  cases cuts with
  | nil => cases text
  | keep rest =>
      cases text
      exact ⟨_, _, rfl, Or.inl rfl⟩
  | @last _ tail some_ all has =>
      obtain ⟨x, tail, rfl⟩ := List.exists_cons_of_ne_nil some_
      exact ⟨x, tail, rfl, Or.inr (all x List.mem_cons_self)⟩
  | @cut _ tail y' xs ys some_ all has stops rest =>
      obtain ⟨x, tail, rfl⟩ := List.exists_cons_of_ne_nil some_
      exact ⟨x, tail ++ y' :: xs, rfl, Or.inr (all x List.mem_cons_self)⟩

/-- Where a text is off the class, it was. -/
theorem off_inv (inMark : ∀ x ∈ mark, p x = true) (marks : mark ≠ [])
    (cuts : Cuts p Q mark last xs ys) (off : Off p ys) : Off p xs := by
  obtain ⟨m, rest, rfl⟩ := List.exists_cons_of_ne_nil marks
  have isOne := inMark m List.mem_cons_self
  cases cuts with
  | nil => exact off
  | keep rest => exact off
  | last some_ all has => rw [off m rfl] at isOne; cases isOne
  | cut some_ all has stops rest => rw [off m rfl] at isOne; cases isOne

/-- Where a text was off the class, it is. -/
theorem off (cuts : Cuts p Q mark last xs ys) (off : Off p xs) : Off p ys := by
  cases cuts with
  | nil => exact off
  | keep rest => exact off_cons (off _ rfl) _
  | last some_ all has =>
      obtain ⟨x, tail, rfl⟩ := List.exists_cons_of_ne_nil some_
      have isOne := all x List.mem_cons_self
      rw [off x rfl] at isOne
      cases isOne
  | cut some_ all has stops rest =>
      obtain ⟨x, tail, rfl⟩ := List.exists_cons_of_ne_nil some_
      have isOne := all x List.mem_cons_self
      rw [off x rfl] at isOne
      cases isOne

/-- **A run of the class was a run of the class**, the same or one whose end was cut. -/
theorem run_inv (inMark : ∀ x ∈ mark, p x = true) (marks : mark ≠ []) {run rest : List α}
    (all : ∀ x ∈ run, p x = true) (off : Off p rest) (cuts : Cuts p Q mark last xs (run ++ rest)) :
    ∃ run' rest', xs = run' ++ rest' ∧ (∀ x ∈ run', p x = true) ∧ Off p rest' ∧
      (run' = run ∨ ∃ kept tail, run' = kept ++ tail ∧ Q tail ∧ run = kept ++ mark) := by
  induction run generalizing last xs with
  | nil => exact ⟨[], xs, rfl, all, cuts.off_inv inMark marks off, Or.inl rfl⟩
  | cons x run ih =>
      generalize text : x :: run ++ rest = ys at cuts
      cases cuts with
      | nil => cases text
      | @keep _ _ xs ys cuts =>
          obtain ⟨rfl, rfl⟩ : x = _ ∧ run ++ rest = ys := List.cons.inj text
          obtain ⟨run', rest', rfl, all', off', same | ⟨kept, tail, rfl, has, rfl⟩⟩ :=
            ih (fun y mem => all y (List.mem_cons_of_mem _ mem)) cuts
          · exact ⟨x :: run', rest', rfl, List.forall_mem_cons.mpr ⟨all x List.mem_cons_self, all'⟩,
              off', Or.inl (congrArg _ same)⟩
          · exact ⟨x :: (kept ++ tail), rest', rfl,
              List.forall_mem_cons.mpr ⟨all x List.mem_cons_self, all'⟩, off',
              Or.inr ⟨x :: kept, tail, rfl, has, rfl⟩⟩
      | last some_ all' has =>
          obtain ⟨same, -⟩ :=
            run_unique all inMark off (off_nil p) (text.trans (List.append_nil _).symm)
          exact ⟨xs, [], (List.append_nil _).symm, all', off_nil p,
            Or.inr ⟨[], xs, rfl, has, same⟩⟩
      | @cut _ tail y xs ys some_ all' has stops cuts =>
          obtain ⟨same, -⟩ := run_unique all inMark off (off_cons stops ys) text
          exact ⟨tail, y :: xs, rfl, all', off_cons stops xs, Or.inr ⟨[], tail, rfl, has, same⟩⟩

/-- **What is nowhere in a text is nowhere in what is left after cutting**: where it can be
traced back, begins with a character of the class, and does not begin in a mark. -/
theorem nowhere {Bad : Option α → List α → Prop} (nil : ∀ last, ¬ Bad last [])
    (traced : ∀ {last xs ys}, Cuts p Q mark last xs ys → Bad last ys → Bad last xs)
    (starts : ∀ {last x xs}, Bad last (x :: xs) → p x = true)
    (marked : ∀ {last pre rest ys}, mark = pre ++ rest → rest ≠ [] →
      ¬ Bad (lastOf last pre) (rest ++ ys))
    (cuts : Cuts p Q mark last xs ys)
    (nowhere : ∀ pre rest, xs = pre ++ rest → ¬ Bad (lastOf last pre) rest) :
    ∀ pre rest, ys = pre ++ rest → ¬ Bad (lastOf last pre) rest := by
  induction cuts with
  | nil => exact nowhere
  | @keep last x xs ys cuts ih =>
      intro pre rest split_
      cases pre with
      | nil =>
          obtain rfl : x :: ys = rest := split_
          exact fun bad => nowhere [] (x :: xs) rfl (traced (.keep cuts) bad)
      | cons y pre =>
          obtain ⟨rfl, later⟩ : x = y ∧ ys = pre ++ rest := List.cons.inj split_
          rw [lastOf_cons]
          refine ih (fun pre rest split_ => ?_) pre rest later
          have here := nowhere (x :: pre) rest (congrArg _ split_)
          rwa [lastOf_cons] at here
  | @last last tail some_ all has =>
      intro pre rest split_
      by_cases none_ : rest = []
      · subst none_
        exact nil _
      · have here := @marked last pre rest [] split_ none_
        rwa [List.append_nil] at here
  | @cut last tail y xs ys some_ all has stops cuts ih =>
      intro pre rest split_
      rcases List.append_eq_append_iff.mp split_ with ⟨more, rfl, isRest⟩ | ⟨more, isMark, rfl⟩
      · cases more with
        | nil =>
            obtain rfl : y :: ys = rest := isRest
            intro bad
            have isOne := starts bad
            rw [stops] at isOne
            cases isOne
        | cons z more =>
            obtain ⟨rfl, later⟩ : y = z ∧ ys = more ++ rest := List.cons.inj isRest
            rw [lastOf_append, lastOf_cons]
            refine ih (fun pre rest split_ => ?_) more rest later
            have here := nowhere (tail ++ y :: pre) rest (by rw [split_]; simp)
            rwa [lastOf_append, lastOf_cons] at here
      · by_cases none_ : more = []
        · subst none_
          intro bad
          have isOne := starts bad
          rw [stops] at isOne
          cases isOne
        · exact marked isMark none_

end Cuts

/-- **A substitution that keeps the front of a match and marks the rest cuts runs.** -/
theorem Subs.cuts {r : Pattern α} {write : List (List α) → List α} {p : α → Bool}
    {Q : List α → Prop} {mark : List α}
    (shape : ∀ {last xs m}, r.first last xs = some m → ∃ front tail,
      xs = front ++ (tail ++ m.stop.rest) ∧ write m.groups = front ++ mark ∧ tail ≠ [] ∧
        (∀ x ∈ tail, p x = true) ∧ Q tail ∧ Off p m.stop.rest)
    {last : Option α} {xs ys : List α} (subs : Subs r write last xs ys) :
    Cuts p Q mark last xs ys := by
  induction subs with
  | nil => exact .nil
  | keep unmatched subs ih => exact .keep ih
  | @write last x xs ys m matched subs ih =>
      obtain ⟨front, tail, split_, isWritten, some_, all, has, off⟩ := shape matched
      rw [split_, isWritten, List.append_assoc]
      refine .front front ?_
      generalize m.stop.rest = rest at ih off
      cases ih with
      | nil =>
          rw [List.append_nil, List.append_nil]
          exact .last some_ all has
      | @keep _ y rest ys cuts => exact .cut some_ all has (off y rfl) cuts
      | @last _ tail' some' all' has' =>
          obtain ⟨y, tail', rfl⟩ := List.exists_cons_of_ne_nil some'
          have isOne := all' y List.mem_cons_self
          rw [off y rfl] at isOne
          cases isOne
      | @cut _ tail' y' rest ys some' all' has' stops cuts =>
          obtain ⟨y, tail', rfl⟩ := List.exists_cons_of_ne_nil some'
          have isOne := all' y List.mem_cons_self
          rw [off y rfl] at isOne
          cases isOne

end Regex
