import LatestTag.Version

/-!
# Precedence is a total preorder

Choosing the latest version among many is only meaningful if precedence behaves: of two versions
one is at most the other, and what is at most something is at most everything above it. This file
proves both for `Version.compare`, as an instance of `Std.TransCmp`, so that the order lemmas of the
standard library apply to it.

The order is put together from orders that are known to be transitive: numbers, lengths, characters
and lists of them. Two places mix them and need a case analysis: identifiers, where a number is
below everything else (`Identifier.compare`), and pre-releases, where none at all is above every
list of identifiers (`Version.comparePre`).
-/

namespace LatestTag

open Std (OrientedCmp TransCmp)

namespace Identifier

/-- The order of numbers: by length, then by digits. -/
abbrev compareNumeric : Identifier → Identifier → Ordering :=
  compareLex (compareOn List.length) (List.compareLex Ord.compare)

/-- The order of all other identifiers: by their characters. -/
abbrev compareText : Identifier → Identifier → Ordering := List.compareLex Ord.compare

theorem compare_of_numeric {a b : Identifier} (ha : a.isNumeric = true) (hb : b.isNumeric = true) :
    a.compare b = compareNumeric a b := by
  simp only [compare, ha, hb]
  rfl

theorem compare_of_numeric_of_not {a b : Identifier} (ha : a.isNumeric = true)
    (hb : b.isNumeric = false) : a.compare b = .lt := by
  simp only [compare, ha, hb]

theorem compare_of_not_of_numeric {a b : Identifier} (ha : a.isNumeric = false)
    (hb : b.isNumeric = true) : a.compare b = .gt := by
  simp only [compare, ha, hb]

theorem compare_of_not {a b : Identifier} (ha : a.isNumeric = false) (hb : b.isNumeric = false) :
    a.compare b = compareText a b := by
  simp only [compare, ha, hb]

theorem compare_swap (a b : Identifier) : a.compare b = (b.compare a).swap := by
  cases ha : a.isNumeric <;> cases hb : b.isNumeric
  · rw [compare_of_not ha hb, compare_of_not hb ha]
    exact OrientedCmp.eq_swap
  · rw [compare_of_not_of_numeric ha hb, compare_of_numeric_of_not hb ha]
    rfl
  · rw [compare_of_numeric_of_not ha hb, compare_of_not_of_numeric hb ha]
    rfl
  · rw [compare_of_numeric ha hb, compare_of_numeric hb ha]
    exact OrientedCmp.eq_swap

/-- Only the kinds of the three identifiers decide which of the orders has to be transitive; where
they differ, a number is the least or nothing is to be shown. -/
theorem isLE_compare_trans {a b c : Identifier} (hab : (a.compare b).isLE)
    (hbc : (b.compare c).isLE) : (a.compare c).isLE := by
  cases ha : a.isNumeric <;> cases hc : c.isNumeric
  · cases hb : b.isNumeric
    · rw [compare_of_not ha hb] at hab
      rw [compare_of_not hb hc] at hbc
      rw [compare_of_not ha hc]
      exact TransCmp.isLE_trans hab hbc
    · rw [compare_of_not_of_numeric ha hb] at hab
      exact absurd hab (by decide)
  · cases hb : b.isNumeric
    · rw [compare_of_not_of_numeric hb hc] at hbc
      exact absurd hbc (by decide)
    · rw [compare_of_not_of_numeric ha hb] at hab
      exact absurd hab (by decide)
  · rw [compare_of_numeric_of_not ha hc]
    rfl
  · cases hb : b.isNumeric
    · rw [compare_of_not_of_numeric hb hc] at hbc
      exact absurd hbc (by decide)
    · rw [compare_of_numeric ha hb] at hab
      rw [compare_of_numeric hb hc] at hbc
      rw [compare_of_numeric ha hc]
      exact TransCmp.isLE_trans hab hbc

instance : TransCmp Identifier.compare where
  eq_swap := compare_swap _ _
  isLE_trans := isLE_compare_trans

end Identifier

namespace Version

/-- Pre-releases proper are compared identifier by identifier. -/
theorem comparePre_cons_cons (id id' : Identifier) (ids ids' : List Identifier) :
    comparePre (id :: ids) (id' :: ids') =
      List.compareLex Identifier.compare (id :: ids) (id' :: ids') := rfl

theorem comparePre_swap (a b : List Identifier) : comparePre a b = (comparePre b a).swap := by
  cases a with
  | nil => cases b <;> rfl
  | cons id ids =>
    cases b with
    | nil => rfl
    | cons id' ids' =>
      rw [comparePre_cons_cons, comparePre_cons_cons]
      exact OrientedCmp.eq_swap

theorem isLE_comparePre_trans {a b c : List Identifier} (hab : (comparePre a b).isLE)
    (hbc : (comparePre b c).isLE) : (comparePre a c).isLE := by
  cases c with
  | nil => cases a <;> rfl
  | cons id₃ ids₃ =>
    cases b with
    | nil => exact absurd hbc (by simp [comparePre])
    | cons id₂ ids₂ =>
      cases a with
      | nil => exact absurd hab (by simp [comparePre])
      | cons id₁ ids₁ =>
        rw [comparePre_cons_cons] at hab hbc ⊢
        exact TransCmp.isLE_trans hab hbc

instance : TransCmp comparePre where
  eq_swap := comparePre_swap _ _
  isLE_trans := isLE_comparePre_trans

instance : TransCmp fun a b : Version => comparePre a.pre b.pre where
  eq_swap := comparePre_swap _ _
  isLE_trans := isLE_comparePre_trans

/-- Precedence is reflexive, total and transitive. -/
instance : TransCmp Version.compare :=
  inferInstanceAs <| TransCmp <|
    compareLex (compareOn major) <| compareLex (compareOn minor) <| compareLex (compareOn patch)
      fun a b => comparePre a.pre b.pre

end Version

end LatestTag
