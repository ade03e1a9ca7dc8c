import Mathlib.Data.List.Perm.Basic
import RemoteAgent.Lib.Table

/-!
# References between tables

A table refers to another by a foreign key: every row of the child names a row of the
parent (`References`).  Each statement on either table has one lemma.

* `References.cascade`: a parent is deleted together with the children that name it.
* `join_perm`: a join along a reference loses no row of the child and repeats none.
-/

namespace Storage

namespace Table

variable {ρ ρ' κ κ' : Type} {key : ρ → κ} {key' : ρ' → κ'} [DecidableEq κ']
  {child child' : Table key} {parent parent' : Table key'} {fk : ρ → κ'}

/-- `FOREIGN KEY (fk) REFERENCES parent`. -/
def References (child : Table key) (fk : ρ → κ') (parent : Table key') : Prop :=
  ∀ r ∈ child, (parent.find? (fk r)).isSome = true

theorem references_empty : References (empty : Table key) fk parent :=
  fun _ mem => absurd mem List.not_mem_nil

/-- Rows that come from older ones under the same foreign key. -/
theorem References.child_from (references : child.References fk parent)
    (from_ : ∀ r' ∈ child', ∃ r ∈ child, fk r' = fk r) : child'.References fk parent := by
  intro r' mem'
  obtain ⟨r, mem, same⟩ := from_ r' mem'
  rw [same]
  exact references r mem

/-- A parent table that keeps every key. -/
theorem References.parent_keeps (references : child.References fk parent)
    (keeps : ∀ k, (parent.find? k).isSome = true → (parent'.find? k).isSome = true) :
    child.References fk parent' :=
  fun r mem => keeps (fk r) (references r mem)

theorem References.insertOrIgnore (references : child.References fk parent) (p : ρ') :
    child.References fk (parent.insertOrIgnore p) := by
  refine references.parent_keeps fun k found => ?_
  rw [find?_insertOrIgnore, Option.isSome_or, found, Bool.true_or]

theorem References.updateParent (references : child.References fk parent) (q : ρ' → Bool)
    (f : ρ' → ρ') (keeps : ∀ r, key' (f r) = key' r) :
    child.References fk (parent.updateWhere q f keeps) := by
  refine references.parent_keeps fun k found => ?_
  rw [find?_updateWhere, Option.isSome_map, found]

/-- **A parent goes with the children that name it.** -/
theorem References.cascade (references : child.References fk parent) (k : κ') :
    (child.deleteWhere fun r => decide (fk r = k)).References fk
      (parent.deleteWhere fun p => decide (key' p = k)) := by
  intro r mem
  obtain ⟨mem, other⟩ := mem_deleteWhere.mp mem
  obtain ⟨p, found⟩ := Option.isSome_iff_exists.mp (references r mem)
  rw [find?_deleteWhere, found, Option.filter_some, key_of_find? found, other]
  rfl

theorem References.upsert [DecidableEq κ] (references : child.References fk parent) {new : ρ}
    {f : ρ → ρ} (keeps : ∀ r, key (f r) = key r) (own : ∀ r, fk (f r) = fk new)
    (named : (parent.find? (fk new)).isSome = true) :
    (child.upsert new f keeps).References fk parent := by
  intro r mem
  rcases mem_upsert.mp mem with ⟨old, _⟩ | rfl
  · exact references r old
  · split
    · rw [own]
      exact named
    · exact named

/-! ## Joins -/

/-- A list is split by the values of a function on it. -/
theorem flatMap_filter_perm {f : ρ → κ'} {ks : List κ'} (unique : ks.Nodup) {rows : List ρ}
    (known : ∀ r ∈ rows, f r ∈ ks) :
    (ks.flatMap fun k => rows.filter fun r => decide (f r = k)).Perm rows := by
  induction ks generalizing rows with
  | nil =>
      cases rows with
      | nil => exact .nil
      | cons r rows => exact absurd (known r List.mem_cons_self) List.not_mem_nil
  | cons k ks ih =>
      obtain ⟨absent, unique⟩ := List.nodup_cons.mp unique
      have later : ∀ r ∈ rows.filter (fun r => !decide (f r = k)), f r ∈ ks := by
        intro r mem
        obtain ⟨mem, other⟩ := List.mem_filter.mp mem
        rcases List.mem_cons.mp (known r mem) with same | later
        · rw [decide_eq_true same] at other
          cases other
        · exact later
      have same : (ks.flatMap fun k' => rows.filter fun r => decide (f r = k')) =
          ks.flatMap fun k' =>
            (rows.filter fun r => !decide (f r = k)).filter fun r => decide (f r = k') := by
        refine List.flatMap_congr fun k' mem => ?_
        rw [List.filter_filter]
        refine List.filter_congr fun r _ => ?_
        by_cases here : f r = k'
        · have other : f r ≠ k := by
            rintro rfl
            exact absent (here ▸ mem)
          simp only [here, decide_true, Bool.true_and]
          rw [decide_eq_false (here ▸ other)]
          rfl
        · rw [decide_eq_false here, Bool.false_and]
      rw [List.flatMap_cons, same]
      exact (List.Perm.append_left _ (ih unique later)).trans (List.filter_append_perm _ rows)

/-- **A join along a reference keeps the rows of the child**: each of them once. -/
theorem join_perm (references : child.References fk parent) (q : ρ → Bool) :
    ((parent.rows.flatMap fun p =>
      (child.rows.filter fun r => decide (fk r = key' p) && q r).map (p, ·)).map Prod.snd).Perm
        (child.rows.filter q) := by
  have shape : (parent.rows.flatMap fun p =>
      (child.rows.filter fun r => decide (fk r = key' p) && q r).map (p, ·)).map Prod.snd =
        (parent.rows.map key').flatMap fun k =>
          (child.rows.filter q).filter fun r => decide (fk r = k) := by
    rw [List.map_flatMap, List.flatMap_map]
    refine List.flatMap_congr fun p _ => ?_
    rw [List.map_map, List.filter_filter]
    exact List.map_id _
  rw [shape]
  refine flatMap_filter_perm parent.unique fun r mem => ?_
  obtain ⟨p, found⟩ := Option.isSome_iff_exists.mp (references r (List.mem_filter.mp mem).1)
  exact List.mem_map.mpr ⟨p, mem_of_find? found, key_of_find? found⟩

end Table

end Storage
