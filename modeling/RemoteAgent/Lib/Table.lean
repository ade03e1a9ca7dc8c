import Mathlib

/-!
# Keyed tables and dictionaries

A `Table` is the list of the rows of a SQL table in insertion order, together
with the proof that its primary key is unique.  The statements a program sends
are operations on it (`insertOrIgnore`, `updateWhere`, `upsert`, `deleteWhere`),
and each has one lemma that says what a lookup by primary key answers afterwards.
`Table.mem_iff_find?` turns a statement about rows into one about lookups, and
`Table.filter_updateWhere` with its companions says what a statement does to the rows of a
group.

A `Dict` is an in-memory map that is only looked up, written and cleared.
-/

namespace Storage

/-! ## Tables -/

/-- Rows in insertion order under a unique primary key. -/
structure Table {ρ κ : Type} (key : ρ → κ) where
  rows : List ρ
  unique : (rows.map key).Nodup

namespace Table

variable {ρ κ : Type} {key : ρ → κ}

def empty : Table key := ⟨[], List.nodup_nil⟩

instance : Membership ρ (Table key) := ⟨fun t r => r ∈ t.rows⟩

theorem mem_rows {t : Table key} {r : ρ} : r ∈ t ↔ r ∈ t.rows := Iff.rfl

/-- Rows with one key are one row. -/
theorem eq_of_key {t : Table key} {r r' : ρ} (mem : r ∈ t) (mem' : r' ∈ t)
    (same : key r = key r') : r = r' :=
  List.inj_on_of_nodup_map t.unique mem mem' same

/-- `DELETE FROM t WHERE p`. -/
def deleteWhere (t : Table key) (p : ρ → Bool) : Table key :=
  ⟨t.rows.filter fun r => !p r, t.unique.sublist (List.filter_sublist.map key)⟩

/-- `UPDATE t SET f WHERE p`, for an assignment that leaves the primary key alone. -/
def updateWhere (t : Table key) (p : ρ → Bool) (f : ρ → ρ) (keeps : ∀ r, key (f r) = key r) :
    Table key :=
  ⟨t.rows.map fun r => if p r then f r else r, by
    have same : (t.rows.map fun r => if p r then f r else r).map key = t.rows.map key := by
      rw [List.map_map]
      refine List.map_congr_left fun r _ => ?_
      simp only [Function.comp_apply]
      split
      · exact keeps r
      · rfl
    rw [same]
    exact t.unique⟩

theorem mem_deleteWhere {t : Table key} {p : ρ → Bool} {r : ρ} :
    r ∈ t.deleteWhere p ↔ r ∈ t ∧ p r = false := by
  simp only [mem_rows, deleteWhere, List.mem_filter, Bool.not_eq_true']

theorem mem_updateWhere {t : Table key} {p : ρ → Bool} {f : ρ → ρ}
    {keeps : ∀ r, key (f r) = key r} {r : ρ} :
    r ∈ t.updateWhere p f keeps ↔ ∃ r₀ ∈ t, r = if p r₀ then f r₀ else r₀ := by
  simp only [mem_rows, updateWhere, List.mem_map, eq_comm]

/-- An update within a group is an update of its rows. -/
theorem filter_updateWhere {t : Table key} {p q : ρ → Bool} {f : ρ → ρ}
    (keeps : ∀ r, key (f r) = key r) (within : ∀ r, q (f r) = q r) :
    (t.updateWhere p f keeps).rows.filter q =
      (t.rows.filter q).map fun r => if p r then f r else r := by
  unfold updateWhere
  rw [List.filter_map]
  refine congrArg _ (List.filter_congr fun r _ => ?_)
  simp only [Function.comp_apply]
  split
  · exact within r
  · rfl

theorem filter_updateWhere_other {t : Table key} {p q : ρ → Bool} {f : ρ → ρ}
    (keeps : ∀ r, key (f r) = key r) (within : ∀ r, q (f r) = q r)
    (other : ∀ r ∈ t, q r = true → p r = false) :
    (t.updateWhere p f keeps).rows.filter q = t.rows.filter q := by
  rw [filter_updateWhere keeps within]
  have same : ∀ r ∈ t.rows.filter q, (if p r then f r else r) = r := by
    intro r mem
    obtain ⟨mem, inGroup⟩ := List.mem_filter.mp mem
    rw [if_neg (by rw [other r mem inGroup]; decide)]
  rw [List.map_congr_left same, List.map_id']

variable [DecidableEq κ]

/-- `SELECT … WHERE key = k`. -/
def find? (t : Table key) (k : κ) : Option ρ := t.rows.find? fun r => decide (key r = k)

/-- `INSERT OR IGNORE`: a row whose key is taken is dropped. -/
def insertOrIgnore (t : Table key) (r : ρ) : Table key :=
  if taken : key r ∈ t.rows.map key then t
  else ⟨t.rows ++ [r], by
    rw [List.map_append, List.map_singleton]
    exact List.nodup_append.mpr ⟨t.unique, List.nodup_singleton _, fun k mem k' mem' same =>
      taken (by rwa [← List.mem_singleton.mp mem', ← same])⟩⟩

/-- `INSERT`; `none` is the error that the key is taken. -/
def insert? (t : Table key) (r : ρ) : Option (Table key) :=
  if key r ∈ t.rows.map key then none else some (t.insertOrIgnore r)

/-- `INSERT … ON CONFLICT DO UPDATE SET f`. -/
def upsert (t : Table key) (r : ρ) (f : ρ → ρ) (keeps : ∀ r, key (f r) = key r) : Table key :=
  if key r ∈ t.rows.map key then t.updateWhere (fun r₀ => decide (key r₀ = key r)) f keeps
  else t.insertOrIgnore r

theorem key_of_find? {t : Table key} {k : κ} {r : ρ} (found : t.find? k = some r) : key r = k := by
  have holds := List.find?_some found
  exact of_decide_eq_true holds

theorem mem_of_find? {t : Table key} {k : κ} {r : ρ} (found : t.find? k = some r) : r ∈ t :=
  List.mem_of_find?_eq_some found

/-- **A row is in the table exactly when a lookup by its key finds it.** -/
theorem mem_iff_find? {t : Table key} {r : ρ} : r ∈ t ↔ t.find? (key r) = some r := by
  constructor
  · intro mem
    cases found : t.find? (key r) with
    | none =>
        have absent := List.find?_eq_none.mp found r mem
        exact absurd (decide_eq_true rfl) absent
    | some r' => exact congrArg some (eq_of_key (mem_of_find? found) mem (key_of_find? found))
  · exact mem_of_find?

theorem find?_eq_some_iff {t : Table key} {k : κ} {r : ρ} :
    t.find? k = some r ↔ r ∈ t ∧ key r = k := by
  constructor
  · exact fun found => ⟨mem_of_find? found, key_of_find? found⟩
  · rintro ⟨mem, rfl⟩
    exact mem_iff_find?.mp mem

theorem find?_eq_none_iff {t : Table key} {k : κ} :
    t.find? k = none ↔ ∀ r ∈ t, key r ≠ k := by
  simp only [find?, List.find?_eq_none, decide_eq_true_eq, mem_rows, ne_eq]

@[simp] theorem find?_empty (k : κ) : (empty : Table key).find? k = none := rfl

theorem mem_insertOrIgnore {t : Table key} {r r' : ρ} :
    r' ∈ t.insertOrIgnore r ↔ r' ∈ t ∨ (r' = r ∧ t.find? (key r) = none) := by
  have taken_iff : key r ∈ t.rows.map key ↔ t.find? (key r) ≠ none := by
    rw [Ne, find?_eq_none_iff]
    simp only [List.mem_map, mem_rows, ne_eq, not_forall, not_not, exists_prop]
  unfold insertOrIgnore
  split
  · rename_i taken
    have found := taken_iff.mp taken
    exact ⟨Or.inl, fun either => either.elim id fun new => absurd new.2 found⟩
  · rename_i free
    have absent : t.find? (key r) = none := by
      by_contra found
      exact free (taken_iff.mpr found)
    simp only [mem_rows, List.mem_append, List.mem_singleton, absent, and_true]

theorem find?_insertOrIgnore (t : Table key) (r : ρ) (k : κ) :
    (t.insertOrIgnore r).find? k = (t.find? k).or (if key r = k then some r else none) := by
  cases found : t.find? k with
  | some r' =>
      obtain ⟨mem, same⟩ := find?_eq_some_iff.mp found
      rw [Option.some_or]
      exact find?_eq_some_iff.mpr ⟨mem_insertOrIgnore.mpr (Or.inl mem), same⟩
  | none =>
      rw [Option.none_or]
      split
      · rename_i same
        refine find?_eq_some_iff.mpr ⟨mem_insertOrIgnore.mpr (Or.inr ⟨rfl, ?_⟩), same⟩
        rw [same, found]
      · rename_i different
        refine find?_eq_none_iff.mpr fun r' mem => ?_
        rcases mem_insertOrIgnore.mp mem with old | ⟨rfl, _⟩
        · exact find?_eq_none_iff.mp found r' old
        · exact different

/-- What a lookup answers after an insertion that succeeds. -/
theorem find?_insert? {t t' : Table key} {r : ρ} (inserted : t.insert? r = some t') :
    t.find? (key r) = none ∧ ∀ k, t'.find? k = if key r = k then some r else t.find? k := by
  unfold insert? at inserted
  split at inserted
  · cases inserted
  · rename_i free
    have absent : t.find? (key r) = none :=
      find?_eq_none_iff.mpr fun r₀ mem₀ same₀ => free (List.mem_map.mpr ⟨r₀, mem₀, same₀⟩)
    cases inserted
    refine ⟨absent, fun k => ?_⟩
    rw [find?_insertOrIgnore]
    split
    · rename_i same
      rw [← same, absent, Option.none_or]
    · exact Option.or_none

theorem find?_updateWhere (t : Table key) (p : ρ → Bool) (f : ρ → ρ)
    (keeps : ∀ r, key (f r) = key r) (k : κ) :
    (t.updateWhere p f keeps).find? k = (t.find? k).map fun r => if p r then f r else r := by
  have keeps' : ∀ r, key (if p r then f r else r) = key r := by
    intro r
    split
    · exact keeps r
    · rfl
  cases found : t.find? k with
  | some r =>
      obtain ⟨mem, same⟩ := find?_eq_some_iff.mp found
      exact find?_eq_some_iff.mpr ⟨mem_updateWhere.mpr ⟨r, mem, rfl⟩, (keeps' r).trans same⟩
  | none =>
      refine find?_eq_none_iff.mpr fun r' mem => ?_
      obtain ⟨r, mem₀, rfl⟩ := mem_updateWhere.mp mem
      rw [keeps' r]
      exact find?_eq_none_iff.mp found r mem₀

theorem find?_deleteWhere (t : Table key) (p : ρ → Bool) (k : κ) :
    (t.deleteWhere p).find? k = (t.find? k).filter fun r => !p r := by
  cases found : t.find? k with
  | some r =>
      obtain ⟨mem, same⟩ := find?_eq_some_iff.mp found
      cases doomed : p r with
      | false =>
          rw [Option.filter_some, if_pos (by rw [doomed]; rfl)]
          exact find?_eq_some_iff.mpr ⟨mem_deleteWhere.mpr ⟨mem, doomed⟩, same⟩
      | true =>
          rw [Option.filter_some, if_neg (by rw [doomed]; decide)]
          refine find?_eq_none_iff.mpr fun r' mem' same' => ?_
          obtain ⟨mem', kept⟩ := mem_deleteWhere.mp mem'
          rw [eq_of_key mem' mem (same'.trans same.symm), doomed] at kept
          cases kept
  | none =>
      refine find?_eq_none_iff.mpr fun r mem => ?_
      exact find?_eq_none_iff.mp found r (mem_deleteWhere.mp mem).1

theorem mem_upsert {t : Table key} {r r' : ρ} {f : ρ → ρ} {keeps : ∀ r, key (f r) = key r} :
    r' ∈ t.upsert r f keeps ↔
      (r' ∈ t ∧ key r' ≠ key r) ∨
        r' = (match t.find? (key r) with | some r₀ => f r₀ | none => r) := by
  unfold upsert
  split
  · rename_i taken
    obtain ⟨r₀, mem₀, same₀⟩ := List.mem_map.mp taken
    have found : t.find? (key r) = some r₀ := find?_eq_some_iff.mpr ⟨mem₀, same₀⟩
    rw [mem_updateWhere, found]
    constructor
    · rintro ⟨r₁, mem₁, rfl⟩
      by_cases same : key r₁ = key r
      · rw [if_pos (decide_eq_true same), eq_of_key mem₁ mem₀ (same.trans same₀.symm)]
        exact Or.inr rfl
      · rw [if_neg (by simpa using same)]
        exact Or.inl ⟨mem₁, same⟩
    · rintro (⟨mem, different⟩ | rfl)
      · exact ⟨r', mem, by rw [if_neg (by simpa using different)]⟩
      · exact ⟨r₀, mem₀, by rw [if_pos (decide_eq_true same₀)]⟩
  · rename_i free
    have absent : t.find? (key r) = none :=
      find?_eq_none_iff.mpr fun r₀ mem₀ same₀ => free (List.mem_map.mpr ⟨r₀, mem₀, same₀⟩)
    rw [mem_insertOrIgnore, absent]
    constructor
    · rintro (mem | ⟨rfl, _⟩)
      · exact Or.inl ⟨mem, find?_eq_none_iff.mp absent r' mem⟩
      · exact Or.inr rfl
    · rintro (⟨mem, _⟩ | rfl)
      · exact Or.inl mem
      · exact Or.inr ⟨rfl, rfl⟩

/-- What a lookup answers after an upsert. -/
theorem find?_upsert (t : Table key) (r : ρ) (f : ρ → ρ) (keeps : ∀ r, key (f r) = key r) (k : κ) :
    (t.upsert r f keeps).find? k =
      if key r = k then some (match t.find? (key r) with | some r₀ => f r₀ | none => r)
      else t.find? k := by
  cases found : t.find? (key r) with
  | some r₀ =>
      obtain ⟨mem, same⟩ := find?_eq_some_iff.mp found
      unfold upsert
      rw [if_pos (List.mem_map.mpr ⟨r₀, mem, same⟩), find?_updateWhere]
      split
      · rename_i here
        rw [← here, found, Option.map_some, if_pos (decide_eq_true same)]
      · rename_i other
        cases there : t.find? k with
        | none => rfl
        | some r₁ =>
            have different : key r₁ ≠ key r := fun same => other (same.symm.trans (key_of_find? there))
            rw [Option.map_some, if_neg (by simpa using different)]
  | none =>
      have free : key r ∉ t.rows.map key := by
        rintro taken
        obtain ⟨r₀, mem, same⟩ := List.mem_map.mp taken
        exact find?_eq_none_iff.mp found r₀ mem same
      unfold upsert
      rw [if_neg free, find?_insertOrIgnore]
      split
      · rename_i here
        rw [← here, found, Option.none_or]
      · exact Option.or_none

/-- An update that passes a row over. -/
theorem find?_updateWhere_other {t : Table key} {p : ρ → Bool} {f : ρ → ρ}
    (keeps : ∀ r, key (f r) = key r) {k : κ} (other : ∀ r, t.find? k = some r → p r = false) :
    (t.updateWhere p f keeps).find? k = t.find? k := by
  rw [find?_updateWhere]
  cases found : t.find? k with
  | none => rfl
  | some r => rw [Option.map_some, if_neg (by rw [other r found]; decide)]

/-- An update of a row. -/
theorem find?_updateWhere_of {t : Table key} {p : ρ → Bool} {f : ρ → ρ}
    (keeps : ∀ r, key (f r) = key r) {k : κ} {r : ρ} (found : t.find? k = some r)
    (here : p r = true) : (t.updateWhere p f keeps).find? k = some (f r) := by
  rw [find?_updateWhere, found, Option.map_some, if_pos here]

/-! ## Rows of one group

A statement that stays within other groups leaves the rows of a group, and whatever is
computed from them, as they were. -/

theorem filter_upsert_other {t : Table key} {r : ρ} {q : ρ → Bool} {f : ρ → ρ}
    {keeps : ∀ r, key (f r) = key r} (new : q r = false)
    (other : ∀ r₀ ∈ t, key r₀ = key r → q r₀ = false ∧ q (f r₀) = false) :
    (t.upsert r f keeps).rows.filter q = t.rows.filter q := by
  unfold upsert
  split
  · have unchanged : ∀ r₀ ∈ t.rows, q (if decide (key r₀ = key r) then f r₀ else r₀) = q r₀ := by
      intro r₀ mem
      by_cases same : key r₀ = key r
      · rw [if_pos (decide_eq_true same), (other r₀ mem same).1, (other r₀ mem same).2]
      · rw [if_neg (by simpa using same)]
    have kept : ∀ r₀ ∈ t.rows.filter q, (if decide (key r₀ = key r) then f r₀ else r₀) = r₀ := by
      intro r₀ mem
      obtain ⟨mem, inGroup⟩ := List.mem_filter.mp mem
      rw [if_neg]
      intro same
      rw [(other r₀ mem (of_decide_eq_true same)).1] at inGroup
      cases inGroup
    unfold updateWhere
    rw [List.filter_map]
    simp only [Function.comp_def]
    rw [List.filter_congr unchanged, List.map_congr_left kept, List.map_id']
  · rename_i free
    unfold insertOrIgnore
    rw [dif_neg free]
    simp only [List.filter_append, List.filter_singleton, new, cond_false, List.append_nil]

/-- A lookup that only accepts rows of a group is a lookup among them. -/
theorem filter_find? {t : Table key} {q : ρ → Bool} {k : κ} :
    (t.find? k).filter q = (t.rows.filter q).find? fun r => decide (key r = k) := by
  have found := find?_deleteWhere (t := t) (p := fun r => !q r) (k := k)
  simp only [find?, deleteWhere, Bool.not_not] at found ⊢
  exact found.symm

end Table

/-- **A stable sort sorts every group by itself.** -/
theorem filter_insertionSort {α : Type} {r : α → α → Prop} [DecidableRel r] [Std.Total r]
    [IsTrans α r] (p : α → Bool) (l : List α) :
    (l.insertionSort r).filter p = (l.filter p).insertionSort r := by
  have first : ∀ {a : α} {l : List α}, (∀ b ∈ l, r a b) → l.orderedInsert r a = a :: l := by
    intro a l least
    cases l with
    | nil => rfl
    | cons b l => exact List.orderedInsert_cons_of_le r l (least b List.mem_cons_self)
  have inserted : ∀ {a : α} {l : List α}, l.Pairwise r → (l.orderedInsert r a).filter p =
      if p a then (l.filter p).orderedInsert r a else l.filter p := by
    intro a l sorted
    induction l with
    | nil =>
        simp only [List.orderedInsert_nil, List.filter_singleton, List.filter_nil, cond_eq_ite]
    | cons b l ih =>
        obtain ⟨least, sorted⟩ := List.pairwise_cons.mp sorted
        by_cases before : r a b
        · have leastA : ∀ c ∈ (b :: l).filter p, r a c := by
            intro c mem
            rcases List.mem_cons.mp (List.mem_filter.mp mem).1 with rfl | mem
            · exact before
            · exact IsTrans.trans a b c before (least c mem)
          rw [List.orderedInsert_cons_of_le r l before, first leastA]
          rw [List.filter_cons]
        · rw [List.orderedInsert_of_not_le r l before]
          rw [List.filter_cons, ih sorted, List.filter_cons]
          by_cases inB : p b
          · by_cases inA : p a
            · simp only [inA, inB, ↓reduceIte]
              rw [List.orderedInsert_of_not_le r _ before]
            · simp only [inA, inB, ↓reduceIte, Bool.false_eq_true]
          · simp only [inB, Bool.false_eq_true, ↓reduceIte]
  induction l with
  | nil => rfl
  | cons a l ih =>
      rw [List.insertionSort_cons, inserted (List.pairwise_insertionSort r l), ih, List.filter_cons]
      split
      · rfl
      · rfl

/-! ## Dictionaries -/

/-- A finite or infinite map; `none` marks an absent key. -/
def Dict (κ ν : Type) : Type := κ → Option ν

namespace Dict

variable {κ ν : Type}

def empty : Dict κ ν := fun _ => none

def get? (d : Dict κ ν) (k : κ) : Option ν := d k

variable [DecidableEq κ]

def insert (d : Dict κ ν) (k : κ) (v : ν) : Dict κ ν := fun k' => if k' = k then some v else d k'

def erase (d : Dict κ ν) (k : κ) : Dict κ ν := fun k' => if k' = k then none else d k'

omit [DecidableEq κ] in
@[simp] theorem get?_empty (k : κ) : (empty : Dict κ ν).get? k = none := rfl

theorem get?_insert (d : Dict κ ν) (k : κ) (v : ν) (k' : κ) :
    (d.insert k v).get? k' = if k' = k then some v else d.get? k' := rfl

theorem get?_erase (d : Dict κ ν) (k k' : κ) :
    (d.erase k).get? k' = if k' = k then none else d.get? k' := rfl

@[simp] theorem get?_insert_self (d : Dict κ ν) (k : κ) (v : ν) :
    (d.insert k v).get? k = some v := if_pos rfl

@[simp] theorem get?_erase_self (d : Dict κ ν) (k : κ) : (d.erase k).get? k = none := if_pos rfl

theorem get?_insert_of_ne {d : Dict κ ν} {k k' : κ} {v : ν} (ne : k' ≠ k) :
    (d.insert k v).get? k' = d.get? k' := if_neg ne

theorem get?_erase_of_ne {d : Dict κ ν} {k k' : κ} (ne : k' ≠ k) :
    (d.erase k).get? k' = d.get? k' := if_neg ne

/-- What an erased dictionary still holds, the original held. -/
theorem get?_of_get?_erase {d : Dict κ ν} {k k' : κ} {v : ν}
    (found : (d.erase k).get? k' = some v) : k' ≠ k ∧ d.get? k' = some v := by
  rw [get?_erase] at found
  split at found
  · cases found
  · rename_i ne
    exact ⟨ne, found⟩

end Dict

end Storage
