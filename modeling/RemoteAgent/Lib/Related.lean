import Mathlib.Data.List.Forall2
import RemoteAgent.Lib.Table

/-!
# Two tables, row by row

A relation between the rows of two tables, carried by the tables in the order of their rows
(`Related`).  Each statement has one lemma: what the relation is after it has run on both
tables.  `Related.filter_eq` is for the queries that do not see the difference.
-/

namespace Storage

namespace Table

variable {ρ ρ' κ : Type} {key : ρ → κ} {key' : ρ' → κ} {R R' : ρ → ρ' → Prop} {t : Table key}
  {t' : Table key'}

/-- The rows of the two tables correspond, in their order. -/
def Related (R : ρ → ρ' → Prop) (t : Table key) (t' : Table key') : Prop :=
  List.Forall₂ R t.rows t'.rows

theorem Related.refl {R : ρ → ρ → Prop} (every : ∀ r, R r r) (t : Table key) : Related R t t :=
  List.forall₂_same.mpr fun r _ => every r

theorem Related.mono (weaker : ∀ r r', R r r' → R' r r') (related : Related R t t') :
    Related R' t t' :=
  List.Forall₂.imp weaker related

/-- A relation that is used with the row of the first table at hand. -/
theorem Related.attach (related : Related R t t') : Related (fun r r' => r ∈ t ∧ R r r') t t' := by
  have whole : ∀ {rows : List ρ} {rows' : List ρ'}, List.Forall₂ R rows rows' → (∀ r ∈ rows, r ∈ t) →
      List.Forall₂ (fun r r' => r ∈ t ∧ R r r') rows rows' := by
    intro rows rows' related within
    induction related with
    | nil => exact .nil
    | cons first _ ih =>
        exact .cons ⟨within _ List.mem_cons_self, first⟩
          (ih fun r mem => within r (List.mem_cons_of_mem _ mem))
  exact whole related fun r mem => mem

theorem Related.updateWhere {p : ρ → Bool} {p' : ρ' → Bool} {f : ρ → ρ} {f' : ρ' → ρ'}
    (keeps : ∀ r, key (f r) = key r) (keeps' : ∀ r, key' (f' r) = key' r)
    (after : ∀ r r', R r r' → R' (if p r then f r else r) (if p' r' then f' r' else r'))
    (related : Related R t t') :
    Related R' (t.updateWhere p f keeps) (t'.updateWhere p' f' keeps') := by
  unfold Related Table.updateWhere
  rw [List.forall₂_map_left_iff, List.forall₂_map_right_iff]
  exact List.Forall₂.imp after related

/-- A statement on the second table alone. -/
theorem Related.updateRight {p : ρ' → Bool} {f : ρ' → ρ'} (keeps : ∀ r, key' (f r) = key' r)
    (after : ∀ r r', R r r' → R' r (if p r' then f r' else r')) (related : Related R t t') :
    Related R' t (t'.updateWhere p f keeps) := by
  unfold Related Table.updateWhere
  rw [List.forall₂_map_right_iff]
  exact List.Forall₂.imp after related

theorem Related.deleteWhere {p : ρ → Bool} {p' : ρ' → Bool} (same : ∀ r r', R r r' → p r = p' r')
    (related : Related R t t') : Related R (t.deleteWhere p) (t'.deleteWhere p') := by
  refine List.rel_filter ?_ related
  intro r r' here
  simp only [same r r' here]

/-- Related rows have one key. -/
theorem Related.keys (keyed : ∀ r r', R r r' → key' r' = key r) (related : Related R t t') :
    t'.rows.map key' = t.rows.map key := by
  have same : List.Forall₂ (fun k k' => k' = k) (t.rows.map key) (t'.rows.map key') := by
    rw [List.forall₂_map_left_iff, List.forall₂_map_right_iff]
    exact List.Forall₂.imp keyed related
  have flipped := List.Forall₂.flip same
  exact List.forall₂_eq_eq_eq ▸ flipped

variable [DecidableEq κ]

/-- A lookup finds nothing in either table, or related rows. -/
theorem Related.find?_cases (keyed : ∀ r r', R r r' → key' r' = key r) (related : Related R t t')
    (k : κ) : (t.find? k = none ∧ t'.find? k = none) ∨
      ∃ r r', t.find? k = some r ∧ t'.find? k = some r' ∧ R r r' := by
  have whole : ∀ {rows : List ρ} {rows' : List ρ'}, List.Forall₂ R rows rows' →
      ((rows.find? fun r => decide (key r = k)) = none ∧
          (rows'.find? fun r => decide (key' r = k)) = none) ∨
        ∃ r r', (rows.find? fun r => decide (key r = k)) = some r ∧
          (rows'.find? fun r => decide (key' r = k)) = some r' ∧ R r r' := by
    intro rows rows' related
    induction related with
    | nil => exact Or.inl ⟨rfl, rfl⟩
    | @cons r r' _ _ first _ ih =>
        rw [List.find?_cons, List.find?_cons, keyed r r' first]
        split
        · exact Or.inr ⟨r, r', rfl, rfl, first⟩
        · exact ih
  exact whole related

theorem Related.insertOrIgnore {r : ρ} {r' : ρ'} (keyed : ∀ r r', R r r' → key' r' = key r)
    (new : R r r') (related : Related R t t') :
    Related R (t.insertOrIgnore r) (t'.insertOrIgnore r') := by
  have both : key' r' ∈ t'.rows.map key' ↔ key r ∈ t.rows.map key := by
    rw [related.keys keyed, keyed r r' new]
  unfold Table.insertOrIgnore
  by_cases taken : key r ∈ t.rows.map key
  · rw [dif_pos taken, dif_pos (both.mpr taken)]
    exact related
  · rw [dif_neg taken, dif_neg fun taken' => taken (both.mp taken')]
    exact List.rel_append related (.cons new .nil)

/-- An insertion fails on both tables, or on neither. -/
theorem Related.insert? {r : ρ} {r' : ρ'} (keyed : ∀ r r', R r r' → key' r' = key r)
    (new : R r r') (related : Related R t t') :
    (t.insert? r = none ∧ t'.insert? r' = none) ∨
      ∃ u u', t.insert? r = some u ∧ t'.insert? r' = some u' ∧ Related R u u' := by
  unfold Table.insert?
  rw [related.keys keyed, keyed r r' new]
  split
  · exact Or.inl ⟨rfl, rfl⟩
  · exact Or.inr ⟨_, _, rfl, rfl, related.insertOrIgnore keyed new⟩

theorem Related.upsert {r : ρ} {r' : ρ'} {f : ρ → ρ} {f' : ρ' → ρ'}
    {keeps : ∀ r, key (f r) = key r} {keeps' : ∀ r, key' (f' r) = key' r}
    (keyed : ∀ r r', R r r' → key' r' = key r) (new : R r r')
    (replaced : ∀ old old', R old old' → key old = key r → R (f old) (f' old'))
    (related : Related R t t') : Related R (t.upsert r f keeps) (t'.upsert r' f' keeps') := by
  unfold Table.upsert
  rw [related.keys keyed, keyed r r' new]
  split
  · refine related.updateWhere keeps keeps' fun old old' here => ?_
    rw [keyed old old' here]
    by_cases same : key old = key r
    · rw [if_pos (decide_eq_true same), if_pos (decide_eq_true same)]
      exact replaced old old' here same
    · rw [if_neg (by simpa using same), if_neg (by simpa using same)]
      exact here
  · exact related.insertOrIgnore keyed new

omit [DecidableEq κ] in
/-- **A query that selects related rows alike, and only equal ones, answers the same.** -/
theorem Related.filter_eq {R : ρ → ρ → Prop} {t' : Table key} {q : ρ → Bool} (alike : ∀ r r', R r r' → q r' = q r)
    (equal : ∀ r r', R r r' → q r = true → r' = r) (related : Related R t t') :
    t'.rows.filter q = t.rows.filter q := by
  have whole : ∀ {rows rows' : List ρ}, List.Forall₂ R rows rows' →
      rows'.filter q = rows.filter q := by
    intro rows rows' related
    induction related with
    | nil => rfl
    | @cons r r' _ _ first _ ih =>
        rw [List.filter_cons, List.filter_cons, alike r r' first, ih]
        split
        · rename_i selected
          rw [equal r r' first selected]
        · rfl
  exact whole related

end Table

end Storage
