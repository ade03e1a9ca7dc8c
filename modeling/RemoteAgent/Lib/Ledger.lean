import RemoteAgent.Lib.Table

/-!
# Ledgers: a log that lists the rows of a group

`Ledger tells rows log` pairs the entries of a log with the rows of a group, each row once
and in the order of the log.  A program that keeps a table and a log in step adds to both
or to neither: `Ledger.post` is the first case, and the lemmas about `filter` say which
statements on a table leave a group as it is and which one adds a row to it.
-/

namespace Storage

/-- The entries of a log are the rows of a group, one for one. -/
def Ledger {ρ ε : Type} (tells : ρ → ε → Prop) (rows : List ρ) (log : List ε) : Prop :=
  ∃ posted, posted.Perm rows ∧ List.Forall₂ tells posted log

namespace Ledger

variable {ρ ε : Type} {tells : ρ → ε → Prop} {rows rows' : List ρ} {log : List ε}

theorem nil : Ledger tells [] [] := ⟨[], List.Perm.refl _, List.Forall₂.nil⟩

/-- A row joins the group, and its entry the log. -/
theorem post (ledger : Ledger tells rows log) {r : ρ} {e : ε}
    (joined : rows'.Perm (rows ++ [r])) (said : tells r e) : Ledger tells rows' (log ++ [e]) := by
  obtain ⟨posted, perm, paired⟩ := ledger
  refine ⟨posted ++ [r], (perm.append_right [r]).trans joined.symm, ?_⟩
  exact List.rel_append paired (List.Forall₂.cons said List.Forall₂.nil)

end Ledger

/-! ## Statements on a table and a group of its rows -/

namespace Table

variable {ρ κ : Type} {key : ρ → κ} {t : Table key} {p q : ρ → Bool} {f : ρ → ρ}

/-- A row outside the group is inserted or ignored; the group does not notice. -/
theorem filter_insertOrIgnore_outside [DecidableEq κ] {r : ρ} (outside : q r = false) :
    (t.insertOrIgnore r).rows.filter q = t.rows.filter q := by
  unfold insertOrIgnore
  split
  · rfl
  · rw [List.filter_append, List.filter_cons_of_neg (by rw [outside]; decide), List.filter_nil,
      List.append_nil]

/-- An update of rows that are outside the group and stay there. -/
theorem filter_updateWhere_outside (keeps : ∀ r, key (f r) = key r)
    (before : ∀ r, p r = true → q r = false) (after : ∀ r, p r = true → q (f r) = false) :
    (t.updateWhere p f keeps).rows.filter q = t.rows.filter q := by
  unfold updateWhere
  rw [List.filter_map]
  have same : ∀ r, (q ∘ fun r => if p r then f r else r) r = q r := by
    intro r
    simp only [Function.comp_apply]
    split
    · rename_i hit
      rw [before r hit, after r hit]
    · rfl
  rw [List.filter_congr fun r _ => same r]
  have kept : ∀ r ∈ t.rows.filter q, (if p r then f r else r) = r := by
    intro r mem
    split
    · rename_i hit
      have inside := (List.mem_filter.mp mem).2
      rw [before r hit] at inside
      cases inside
    · rfl
  rw [List.map_congr_left kept, List.map_id']

/-- **An update that hits one row and brings it into the group.** -/
theorem filter_updateWhere_joins (keeps : ∀ r, key (f r) = key r) {r : ρ} (mem : r ∈ t)
    (hit : p r = true) (only : ∀ r' ∈ t, p r' = true → r' = r) (outside : q r = false)
    (joins : q (f r) = true) :
    ((t.updateWhere p f keeps).rows.filter q).Perm (t.rows.filter q ++ [f r]) := by
  obtain ⟨front, back, split⟩ := List.append_of_mem (mem_rows.mp mem)
  have nodup : (front ++ r :: back).Nodup := split ▸ List.Nodup.of_map key t.unique
  have apart := List.nodup_middle.mp nodup
  have kept : ∀ rs : List ρ, (∀ r' ∈ rs, r' ∈ t.rows ∧ r' ≠ r) →
      rs.map (fun r => if p r then f r else r) = rs := by
    intro rs others
    refine (List.map_congr_left fun r' mem' => ?_).trans (List.map_id' rs)
    obtain ⟨stored, other⟩ := others r' mem'
    exact if_neg fun hit' => other (only r' stored hit')
  have absent := (List.nodup_cons.mp apart).1
  have same : (t.updateWhere p f keeps).rows = front ++ f r :: back := by
    show t.rows.map _ = _
    rw [split, List.map_append, List.map_cons, if_pos hit,
      kept front fun r' mem' => ⟨split ▸ List.mem_append_left _ mem', fun eq =>
        absent (eq ▸ List.mem_append_left _ mem')⟩,
      kept back fun r' mem' => ⟨split ▸ List.mem_append_right _ (List.mem_cons_of_mem _ mem'),
        fun eq => absent (eq ▸ List.mem_append_right _ mem')⟩]
  rw [same, split, List.filter_append, List.filter_cons_of_pos joins, List.filter_append,
    List.filter_cons_of_neg (by rw [outside]; decide)]
  exact List.perm_middle.trans (List.perm_append_singleton _ _).symm

end Table

end Storage
