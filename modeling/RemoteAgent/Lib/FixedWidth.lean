import Mathlib

/-!
# Numbers in columns of fixed width

A text made of numbers, each padded with zeros to the width of its column (`pad`, `columns`).

* `columns_lt_iff`: such texts are ordered as the lists of their numbers.
-/

namespace FixedWidth

/-- The last decimal digit of a number. -/
def digit (n : Nat) : Char := Char.ofNat (48 + n % 10)

/-- The last `width` decimal digits of a number. -/
def pad : Nat → Nat → List Char
  | 0, _ => []
  | width + 1, n => pad width (n / 10) ++ [digit n]

/-- Numbers, each padded to the width of its column and followed by the separator of it. -/
def columns : List (Nat × List Char) → List Nat → List Char
  | (width, separator) :: layout, n :: ns => pad width n ++ (separator ++ columns layout ns)
  | _, _ => []

/-- Every number has a column, and fits in it. -/
def Fits (layout : List (Nat × List Char)) (ns : List Nat) : Prop :=
  List.Forall₂ (fun column n => n < 10 ^ column.1) layout ns

theorem pad_length (width n : Nat) : (pad width n).length = width := by
  induction width generalizing n with
  | zero => rfl
  | succ width ih => simp only [pad, List.length_append, ih, List.length_singleton]

theorem digit_lt_iff {m n : Nat} : digit m < digit n ↔ m % 10 < n % 10 := by
  have table : ∀ i < 10, ∀ j < 10, Char.ofNat (48 + i) < Char.ofNat (48 + j) ↔ i < j := by decide
  exact table _ (Nat.mod_lt m (by decide)) _ (Nat.mod_lt n (by decide))

theorem digit_inj {m n : Nat} : digit m = digit n ↔ m % 10 = n % 10 := by
  have table : ∀ i < 10, ∀ j < 10, Char.ofNat (48 + i) = Char.ofNat (48 + j) ↔ i = j := by decide
  exact table _ (Nat.mod_lt m (by decide)) _ (Nat.mod_lt n (by decide))

/-- After fronts of one length, the front decides unless it is the same. -/
theorem append_lt_append_iff {α : Type} [LinearOrder α] {xs ys us vs : List α}
    (length : xs.length = ys.length) :
    xs ++ us < ys ++ vs ↔ xs < ys ∨ xs = ys ∧ us < vs := by
  induction xs generalizing ys with
  | nil =>
      have empty : ys = [] := List.length_eq_zero_iff.mp length.symm
      subst empty
      simp only [List.nil_append, List.not_lt_nil, true_and, false_or]
  | cons x xs ih =>
      cases ys with
      | nil => cases length
      | cons y ys =>
          have rest := ih (Nat.succ.inj length)
          simp only [List.cons_append, List.cons_lt_cons_iff, List.cons.injEq, rest]
          tauto

theorem pad_inj {width m n : Nat} (fits : m < 10 ^ width) (fits' : n < 10 ^ width) :
    pad width m = pad width n ↔ m = n := by
  induction width generalizing m n with
  | zero =>
      rw [pow_zero] at fits fits'
      exact ⟨fun _ => by omega, fun _ => rfl⟩
  | succ width ih =>
      rw [pow_succ] at fits fits'
      simp only [pad, List.append_singleton_inj, digit_inj,
        ih (show m / 10 < 10 ^ width by omega) (show n / 10 < 10 ^ width by omega)]
      omega

/-- **Padded numbers are ordered as texts as they are as numbers.** -/
theorem pad_lt_iff {width m n : Nat} (fits : m < 10 ^ width) (fits' : n < 10 ^ width) :
    pad width m < pad width n ↔ m < n := by
  induction width generalizing m n with
  | zero =>
      rw [pow_zero] at fits fits'
      simp only [pad, List.not_lt_nil, false_iff]
      omega
  | succ width ih =>
      rw [pow_succ] at fits fits'
      have small : m / 10 < 10 ^ width := by omega
      have small' : n / 10 < 10 ^ width := by omega
      simp only [pad]
      rw [append_lt_append_iff (by rw [pad_length, pad_length]), ih small small',
        pad_inj small small', List.cons_lt_cons_iff, digit_lt_iff]
      simp only [List.not_lt_nil, and_false, or_false]
      omega

/-- **Texts in columns are ordered as the lists of their numbers.** -/
theorem columns_lt_iff {layout : List (Nat × List Char)} {ms ns : List Nat}
    (fits : Fits layout ms) (fits' : Fits layout ns) :
    columns layout ms < columns layout ns ↔ ms < ns := by
  induction fits generalizing ns with
  | nil =>
      cases fits'
      simp only [columns, List.not_lt_nil]
  | @cons column m layout ms small _ ih =>
      cases fits' with
      | @cons _ n _ ns small' rest =>
          simp only [columns]
          rw [append_lt_append_iff (by rw [pad_length, pad_length]), pad_lt_iff small small',
            pad_inj small small', append_lt_append_iff rfl, ih rest, List.cons_lt_cons_iff]
          have same : ¬ column.2 < column.2 := lt_irrefl _
          tauto

end FixedWidth
