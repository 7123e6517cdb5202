import Mathlib.Algebra.Group.Nat.Defs
import LatestTag.Proofs.Numerals
import LatestTag.Proofs.Precedence
import LatestTag.Proofs.VersionText

/-!
# The rules of precedence

Semantic versioning lays down in words which of two versions is lower, and this file sets these
rules down as they are: numbers first and in order, then a pre-release is below its release, then
pre-releases go by their identifiers from left to right (`Version.Below`). Of two identifiers
numbers are compared as numbers, of whatever size, and are below all others, which go by their
characters (`Identifier.Below`).

> `compare_total_preorder`: `Version.compare` is a total preorder; versions are equal in it if they
> have the same numbers and the same pre-release text; and one is less exactly by the rules.

The code never computes a number from an identifier: it compares lengths and then digits. That this
is the order of the values (`compareNumeric_eq_compare`) needs that no zeros stand in front.
-/

namespace LatestTag

open Std (LawfulEqCmp OrientedCmp TransCmp)

/-! ## Digits -/

namespace Numeral

/-- The value of a run of digits. -/
def value (digits : List Char) : Nat := Nat.ofDigitChars 10 digits 0

theorem value_cons (d : Char) (digits : List Char) :
    value (d :: digits) = 10 ^ digits.length * (d.toNat - '0'.toNat) + value digits := by
  rw [value, Nat.ofDigitChars_cons, Nat.ofDigitChars_eq_ofDigitChars_zero, Nat.mul_zero,
    Nat.zero_add]
  rfl

theorem isDigit_bounds {d : Char} (hd : d.isDigit) : 48 ≤ d.toNat ∧ d.toNat ≤ 57 := by
  simpa [Char.isDigit, UInt32.le_iff_toNat_le] using hd

theorem value_lt {digits : List Char} (h : ∀ d ∈ digits, d.isDigit) :
    value digits < 10 ^ digits.length := by
  induction digits with
  | nil => decide
  | cons d digits ih =>
    have hd := isDigit_bounds (h d List.mem_cons_self)
    have hrest := ih fun c hc => h c (List.mem_cons_of_mem _ hc)
    have hdigit : d.toNat - '0'.toNat ≤ 9 := by
      show d.toNat - 48 ≤ 9
      omega
    have hle := Nat.mul_le_mul_left (10 ^ digits.length) hdigit
    rw [value_cons, List.length_cons, Nat.pow_succ]
    omega

theorem le_value_of_head {d : Char} {digits : List Char} (hd : d.isDigit) (hzero : d ≠ '0') :
    10 ^ digits.length ≤ value (d :: digits) := by
  have hbounds := isDigit_bounds hd
  have hne : d.toNat ≠ 48 := fun heq => hzero (Char.toNat_inj.1 heq)
  have hpos : 1 ≤ d.toNat - '0'.toNat := by
    show 1 ≤ d.toNat - 48
    omega
  have hle := Nat.mul_le_mul_left (10 ^ digits.length) hpos
  rw [value_cons]
  omega

/-- Without zeros in front the longer of two numerals is the greater one. -/
theorem value_lt_of_length_lt {a b : List Char} (ha : ∀ d ∈ a, d.isDigit)
    (hb : ∀ d ∈ b, d.isDigit) (hne : a ≠ []) (hzero : ∀ rest, b = '0' :: rest → rest = [])
    (hlt : a.length < b.length) : value a < value b := by
  have hpos := List.length_pos_iff.2 hne
  cases b with
  | nil => exact absurd hlt (by simp)
  | cons d digits =>
    rw [List.length_cons] at hlt
    have hd : d ≠ '0' := by
      intro heq
      subst heq
      rw [hzero digits rfl, List.length_nil] at hlt
      omega
    have hle : 10 ^ a.length ≤ 10 ^ digits.length := Nat.pow_le_pow_right (by decide) (by omega)
    have hvalue : 10 ^ digits.length ≤ value (d :: digits) :=
      le_value_of_head (hb d List.mem_cons_self) hd
    have := value_lt ha
    omega

/-- Characters are ordered by their codes. -/
theorem compare_char (c d : Char) : Ord.compare c d = Ord.compare c.toNat d.toNat := by
  show compareOfLessAndEq c d = compareOfLessAndEq c.toNat d.toNat
  unfold compareOfLessAndEq
  have hlt : c < d ↔ c.toNat < d.toNat := Iff.rfl
  have heq : c = d ↔ c.toNat = d.toNat := Char.toNat_inj.symm
  simp only [hlt, heq]

/-- Of two numerals of one length the first digit that differs decides. -/
theorem compareLex_eq_compare {a b : List Char} (ha : ∀ d ∈ a, d.isDigit)
    (hb : ∀ d ∈ b, d.isDigit) (hlength : a.length = b.length) :
    List.compareLex Ord.compare a b = Ord.compare (value a) (value b) := by
  induction a generalizing b with
  | nil =>
    rw [List.length_eq_zero_iff.1 hlength.symm]
    rfl
  | cons d digits ih =>
    cases b with
    | nil => exact absurd hlength (by simp)
    | cons e digits' =>
      have hd := isDigit_bounds (ha d List.mem_cons_self)
      have he := isDigit_bounds (hb e List.mem_cons_self)
      have hdigits : ∀ c ∈ digits, c.isDigit := fun c hc => ha c (List.mem_cons_of_mem _ hc)
      have hdigits' : ∀ c ∈ digits', c.isDigit := fun c hc => hb c (List.mem_cons_of_mem _ hc)
      have hlength' : digits.length = digits'.length := Nat.succ.inj hlength
      have hlt := value_lt hdigits
      have hlt' := value_lt hdigits'
      rw [List.compareLex_cons_cons, ih hdigits hdigits' hlength', value_cons, value_cons, hlength']
      rw [hlength'] at hlt
      -- the values of the rests are less than one unit of the first digit
      generalize 10 ^ digits'.length = unit at hlt hlt' ⊢
      show _ = Ord.compare (unit * (d.toNat - 48) + _) (unit * (e.toNat - 48) + _)
      rcases Nat.lt_trichotomy d.toNat e.toNat with hde | hde | hde
      · have hfirst : Ord.compare d e = .lt := by rw [compare_char, Nat.compare_eq_lt.2 hde]
        have hle : unit * (d.toNat - 48 + 1) ≤ unit * (e.toNat - 48) :=
          Nat.mul_le_mul_left unit (by omega)
        rw [Nat.mul_add] at hle
        rw [hfirst, eq_comm]
        exact Nat.compare_eq_lt.2 (by omega)
      · obtain rfl := Char.toNat_inj.1 hde
        have hfirst : Ord.compare d d = .eq := by rw [compare_char, Nat.compare_eq_eq.2 rfl]
        rw [hfirst]
        show Ord.compare _ _ = _
        rw [Nat.compare_eq_ite_lt, Nat.compare_eq_ite_lt]
        simp only [Nat.add_lt_add_iff_left]
      · have hfirst : Ord.compare d e = .gt := by rw [compare_char, Nat.compare_eq_gt.2 hde]
        have hle : unit * (e.toNat - 48 + 1) ≤ unit * (d.toNat - 48) :=
          Nat.mul_le_mul_left unit (by omega)
        rw [Nat.mul_add] at hle
        rw [hfirst, eq_comm]
        exact Nat.compare_eq_gt.2 (by omega)

end Numeral

/-- Lists are compared from left to right, and a proper beginning of a list is below it. -/
theorem compareLex_eq_lt_iff {α : Type} {cmp : α → α → Ordering} [LawfulEqCmp cmp]
    {below : α → α → Prop} {a b : List α}
    (h : ∀ x ∈ a, ∀ y ∈ b, cmp x y = .lt ↔ below x y) :
    List.compareLex cmp a b = .lt ↔ List.Lex below a b := by
  induction a generalizing b with
  | nil =>
    cases b with
    | nil => simp [List.compareLex_nil_nil]
    | cons y ys => simp [List.compareLex_nil_cons]
  | cons x xs ih =>
    cases b with
    | nil => simp [List.compareLex_cons_nil]
    | cons y ys =>
      have hxy := h x List.mem_cons_self y List.mem_cons_self
      have hrest := ih fun x hx y hy =>
        h x (List.mem_cons_of_mem _ hx) y (List.mem_cons_of_mem _ hy)
      rw [List.compareLex_cons_cons, Ordering.then_eq_lt, hrest, hxy,
        LawfulEqCmp.compare_eq_iff_eq]
      constructor
      · rintro (hbelow | ⟨rfl, hlex⟩)
        · exact .rel hbelow
        · exact .cons hlex
      · intro hlex
        cases hlex with
        | rel hbelow => exact Or.inl hbelow
        | cons hlex => exact Or.inr ⟨rfl, hlex⟩

/-! ## Identifiers -/

namespace Identifier

open Numeral (value)
open Version (IsPreIdentifier)

/-- The rules by which an identifier is below another one. -/
inductive Below (a b : Identifier) : Prop where
  /-- Numbers are compared as numbers. -/
  | value (ha : ∀ c ∈ a, c.isDigit) (hb : ∀ c ∈ b, c.isDigit) (h : value a < value b)
  /-- Numbers are below all others. -/
  | kind (ha : ∀ c ∈ a, c.isDigit) (hb : ¬ ∀ c ∈ b, c.isDigit)
  /-- All others are compared by their characters, in the order of ASCII. -/
  | text (ha : ¬ ∀ c ∈ a, c.isDigit) (hb : ¬ ∀ c ∈ b, c.isDigit)
      (h : List.Lex (fun c d => c.toNat < d.toNat) a b)

theorem isNumeric_iff {id : Identifier} : id.isNumeric = true ↔ ∀ c ∈ id, c.isDigit :=
  List.all_eq_true

theorem isNumeric_eq_false_iff {id : Identifier} :
    id.isNumeric = false ↔ ¬ ∀ c ∈ id, c.isDigit := by
  rw [← isNumeric_iff, Bool.not_eq_true]

instance : LawfulEqCmp (Ord.compare : Char → Char → Ordering) where
  compare_self {c} := by rw [Numeral.compare_char, Nat.compare_eq_eq]
  eq_of_compare {c d} h := by
    rw [Numeral.compare_char, Nat.compare_eq_eq] at h
    exact Char.toNat_inj.1 h

/-- Lengths and digits decide about numbers as their values do. -/
theorem compareNumeric_eq_compare {a b : Identifier} (ha : IsPreIdentifier a)
    (hb : IsPreIdentifier b) (hda : ∀ c ∈ a, c.isDigit) (hdb : ∀ c ∈ b, c.isDigit) :
    compareNumeric a b = Ord.compare (value a) (value b) := by
  show (Ord.compare a.length b.length).then (List.compareLex Ord.compare a b) = _
  rcases Nat.lt_trichotomy a.length b.length with hlt | heq | hlt
  · have hvalue := Numeral.value_lt_of_length_lt hda hdb ha.ne_nil (hb.no_zero hdb) hlt
    rw [Nat.compare_eq_lt.2 hlt, Nat.compare_eq_lt.2 hvalue]
    rfl
  · rw [Nat.compare_eq_eq.2 heq, Numeral.compareLex_eq_compare hda hdb heq]
    rfl
  · have hvalue := Numeral.value_lt_of_length_lt hdb hda hb.ne_nil (ha.no_zero hda) hlt
    rw [Nat.compare_eq_gt.2 hlt, Nat.compare_eq_gt.2 hvalue]
    rfl

theorem compareText_eq_lt_iff {a b : Identifier} :
    compareText a b = .lt ↔ List.Lex (fun c d => c.toNat < d.toNat) a b := by
  refine compareLex_eq_lt_iff fun c _ d _ => ?_
  rw [Numeral.compare_char, Nat.compare_eq_lt]

/-- **Identifiers** are compared by the rules. -/
theorem compare_eq_lt_iff {a b : Identifier} (ha : IsPreIdentifier a) (hb : IsPreIdentifier b) :
    a.compare b = .lt ↔ Below a b := by
  cases hna : a.isNumeric <;> cases hnb : b.isNumeric
  · have hda := isNumeric_eq_false_iff.1 hna
    have hdb := isNumeric_eq_false_iff.1 hnb
    rw [compare_of_not hna hnb, compareText_eq_lt_iff]
    constructor
    · intro hlex
      exact .text hda hdb hlex
    · intro hbelow
      cases hbelow with
      | value hda' | kind hda' => exact absurd hda' hda
      | text _ _ hlex => exact hlex
  · have hda := isNumeric_eq_false_iff.1 hna
    have hdb := isNumeric_iff.1 hnb
    rw [compare_of_not_of_numeric hna hnb]
    constructor
    · intro hlt
      exact absurd hlt (by decide)
    · intro hbelow
      cases hbelow with
      | value hda' | kind hda' => exact absurd hda' hda
      | text _ hdb' => exact absurd hdb hdb'
  · have hda := isNumeric_iff.1 hna
    have hdb := isNumeric_eq_false_iff.1 hnb
    rw [compare_of_numeric_of_not hna hnb]
    exact ⟨fun _ => .kind hda hdb, fun _ => rfl⟩
  · have hda := isNumeric_iff.1 hna
    have hdb := isNumeric_iff.1 hnb
    rw [compare_of_numeric hna hnb, compareNumeric_eq_compare ha hb hda hdb, Nat.compare_eq_lt]
    constructor
    · intro hlt
      exact .value hda hdb hlt
    · intro hbelow
      cases hbelow with
      | value _ _ hlt => exact hlt
      | kind _ hdb' | text _ hdb' => exact absurd hdb hdb'

instance : LawfulEqCmp Identifier.compare where
  compare_self {id} := by
    cases hid : id.isNumeric
    · rw [compare_of_not hid hid]
      exact Std.ReflCmp.compare_self
    · rw [compare_of_numeric hid hid]
      exact Std.ReflCmp.compare_self
  eq_of_compare {a b} h := by
    cases ha : a.isNumeric <;> cases hb : b.isNumeric
    · rw [compare_of_not ha hb] at h
      exact LawfulEqCmp.eq_of_compare h
    · rw [compare_of_not_of_numeric ha hb] at h
      exact absurd h (by decide)
    · rw [compare_of_numeric_of_not ha hb] at h
      exact absurd h (by decide)
    · rw [compare_of_numeric ha hb] at h
      have hdigits : (Ord.compare a.length b.length).then (List.compareLex Ord.compare a b) = .eq :=
        h
      exact LawfulEqCmp.eq_of_compare (Ordering.then_eq_eq.1 hdigits).2

end Identifier

/-! ## Versions -/

namespace Version

/-- The rules by which a version is below another one. -/
inductive Below (a b : Version) : Prop where
  /-- The first number that differs decides. -/
  | major (h : a.major < b.major)
  | minor (hmajor : a.major = b.major) (h : a.minor < b.minor)
  | patch (hmajor : a.major = b.major) (hminor : a.minor = b.minor) (h : a.patch < b.patch)
  /-- A pre-release is below its release. -/
  | release (hmajor : a.major = b.major) (hminor : a.minor = b.minor) (hpatch : a.patch = b.patch)
      (ha : a.pre ≠ []) (hb : b.pre = [])
  /-- Pre-releases go by their identifiers, from left to right; if one has no more it is below. -/
  | identifiers (hmajor : a.major = b.major) (hminor : a.minor = b.minor)
      (hpatch : a.patch = b.patch) (ha : a.pre ≠ []) (h : List.Lex Identifier.Below a.pre b.pre)

/-- The text of a pre-release tells its identifiers, and whether there are any. -/
theorem dotted_inj {a b : List Identifier} (ha : ∀ id ∈ a, IsPreIdentifier id)
    (hb : ∀ id ∈ b, IsPreIdentifier id) : dotted a = dotted b ↔ a = b := by
  have hdot {ids : List Identifier} (h : ∀ id ∈ ids, IsPreIdentifier id) :
      ∀ id ∈ ids, '.' ∉ id := fun id hid => (h id hid).toIsIdentifier.not_mem rfl (by decide)
  have hnil {ids : List Identifier} (h : ∀ id ∈ ids, IsPreIdentifier id)
      (htext : [] = dotted ids) : ids = [] := by
    cases ids with
    | nil => rfl
    | cons id rest =>
      have hsplit := (splitOn_eq_iff (hdot h)).2 ⟨List.cons_ne_nil id rest, htext⟩
      -- the only part of nothing is nothing, which is no identifier
      have hmem : [] ∈ id :: rest := by
        rw [← hsplit]
        exact List.mem_singleton.2 rfl
      exact absurd rfl (h [] hmem).ne_nil
  constructor
  · intro htext
    cases a with
    | nil => exact (hnil hb htext).symm
    | cons id ids =>
      have hsplit := (splitOn_eq_iff (hdot ha)).2 ⟨List.cons_ne_nil id ids, rfl⟩
      have hne : b ≠ [] := by
        rintro rfl
        exact absurd (hnil ha htext.symm) (List.cons_ne_nil id ids)
      rw [← hsplit]
      exact (splitOn_eq_iff (hdot hb)).2 ⟨hne, htext⟩
  · intro heq
    rw [heq]

theorem comparePre_eq_eq_iff {a b : List Identifier} : comparePre a b = .eq ↔ a = b := by
  cases a with
  | nil => cases b <;> simp [comparePre]
  | cons id ids =>
    cases b with
    | nil => simp [comparePre]
    | cons id' ids' =>
      rw [comparePre_cons_cons]
      exact LawfulEqCmp.compare_eq_iff_eq

theorem comparePre_eq_lt_iff {a b : List Identifier} (ha : ∀ id ∈ a, IsPreIdentifier id)
    (hb : ∀ id ∈ b, IsPreIdentifier id) : comparePre a b = .lt ↔
      a ≠ [] ∧ (b = [] ∨ List.Lex Identifier.Below a b) := by
  cases a with
  | nil => cases b <;> simp [comparePre]
  | cons id ids =>
    cases b with
    | nil => simp [comparePre]
    | cons id' ids' =>
      have hrules := compareLex_eq_lt_iff fun x hx y hy =>
        Identifier.compare_eq_lt_iff (ha x hx) (hb y hy)
      rw [comparePre_cons_cons, hrules]
      simp

theorem compare_eq_eq_iff {a b : Version} : a.compare b = .eq ↔
    a.major = b.major ∧ a.minor = b.minor ∧ a.patch = b.patch ∧ a.pre = b.pre := by
  simp only [compare, Ordering.then_eq_eq, LawfulEqCmp.compare_eq_iff_eq, comparePre_eq_eq_iff]

/-- **Versions** are compared by the rules. -/
theorem compare_eq_lt_iff {a b : Version} (ha : ∀ id ∈ a.pre, IsPreIdentifier id)
    (hb : ∀ id ∈ b.pre, IsPreIdentifier id) : a.compare b = .lt ↔ Below a b := by
  have hnumber (m n : UInt64) : Ord.compare m n = .lt ↔ m < n := Std.compare_eq_lt
  simp only [compare, Ordering.then_eq_lt, LawfulEqCmp.compare_eq_iff_eq, hnumber,
    comparePre_eq_lt_iff ha hb]
  constructor
  · rintro (h | ⟨hmajor, h | ⟨hminor, h | ⟨hpatch, hne, h | h⟩⟩⟩)
    · exact .major h
    · exact .minor hmajor h
    · exact .patch hmajor hminor h
    · exact .release hmajor hminor hpatch hne h
    · exact .identifiers hmajor hminor hpatch hne h
  · intro hbelow
    cases hbelow with
    | major h => exact Or.inl h
    | minor hmajor h => exact Or.inr ⟨hmajor, Or.inl h⟩
    | patch hmajor hminor h => exact Or.inr ⟨hmajor, Or.inr ⟨hminor, Or.inl h⟩⟩
    | release hmajor hminor hpatch hne h =>
      exact Or.inr ⟨hmajor, Or.inr ⟨hminor, Or.inr ⟨hpatch, hne, Or.inl h⟩⟩⟩
    | identifiers hmajor hminor hpatch hne h =>
      exact Or.inr ⟨hmajor, Or.inr ⟨hminor, Or.inr ⟨hpatch, hne, Or.inr h⟩⟩⟩

/-- The versions there are: their pre-releases consist of identifiers. -/
def IsLegal (version : Version) : Prop := ∀ id ∈ version.pre, IsPreIdentifier id

theorem isLegal_of_ofTag? {tag : String} {version : Version} (h : ofTag? tag = some version) :
    version.IsLegal := by
  obtain ⟨text, hattempts⟩ : ∃ text, (strict? text <|> lenient? text) = some version := ⟨_, h⟩
  rw [strict?_or_lenient?] at hattempts
  obtain ⟨groups, -, -, -, -, -, -, hpre, -⟩ := lenient?_eq_some_iff.1 hattempts
  exact hpre

theorem compare_total (a b : Version) : (a.compare b).isLE ∨ (b.compare a).isLE := by
  cases h : a.compare b with
  | lt => exact Or.inl rfl
  | eq => exact Or.inl rfl
  | gt =>
    rw [OrientedCmp.gt_iff_lt] at h
    rw [h]
    exact Or.inr rfl

/-- **Precedence** is a total preorder, in which versions are equal exactly if their numbers and the
texts of their pre-releases are, and less exactly by the rules. -/
theorem compare_total_preorder :
    (∀ a : Version, a.compare a = .eq) ∧
    (∀ a b : Version, (a.compare b).isLE ∨ (b.compare a).isLE) ∧
    (∀ a b c : Version, (a.compare b).isLE → (b.compare c).isLE → (a.compare c).isLE) ∧
    (∀ a b : Version, (a.compare b).isLE → (b.compare a).isLE → a.compare b = .eq) ∧
    ∀ a b : Version, a.IsLegal → b.IsLegal →
      (a.compare b = .eq ↔ a.major = b.major ∧ a.minor = b.minor ∧ a.patch = b.patch ∧
        dotted a.pre = dotted b.pre) ∧
      (a.compare b = .lt ↔ Below a b) ∧ (a.compare b = .gt ↔ Below b a) := by
  refine ⟨fun a => Std.ReflCmp.compare_self, compare_total, fun a b c => TransCmp.isLE_trans,
    fun a b => OrientedCmp.isLE_antisymm, fun a b ha hb => ⟨?_, compare_eq_lt_iff ha hb, ?_⟩⟩
  · rw [compare_eq_eq_iff, dotted_inj ha hb]
  · rw [OrientedCmp.gt_iff_lt, compare_eq_lt_iff hb ha]

/-- Pre-releases numbered beyond 64 bits, one of them continued. -/
theorem compare_total_preorder_of_long_numbers :
    let first : Version := ⟨1, 0, 0, ["rc".toList, "18446744073709551616".toList], []⟩
    let second : Version := ⟨1, 0, 0, ["rc".toList, "18446744073709551617".toList], ["7".toList]⟩
    let third : Version :=
      ⟨1, 0, 0, ["rc".toList, "18446744073709551617".toList, "0".toList], []⟩
    first.IsLegal ∧ second.IsLegal ∧ third.IsLegal ∧ Below first second ∧ Below second third ∧
      (first.compare third).isLE := by
  intro first second third
  have hfirst : first.IsLegal :=
    isLegal_of_ofTag? (by decide : ofTag? "1.0.0-rc.18446744073709551616" = some first)
  have hsecond : second.IsLegal :=
    isLegal_of_ofTag? (by decide : ofTag? "1.0.0-rc.18446744073709551617+7" = some second)
  have hthird : third.IsLegal :=
    isLegal_of_ofTag? (by decide : ofTag? "1.0.0-rc.18446744073709551617.0" = some third)
  have hlt : first.compare second = .lt := by decide
  have hlt' : second.compare third = .lt := by decide
  obtain ⟨-, -, htrans, -, hrules⟩ := compare_total_preorder
  refine ⟨hfirst, hsecond, hthird, (hrules first second hfirst hsecond).2.1.1 hlt,
    (hrules second third hsecond hthird).2.1.1 hlt', htrans first second third ?_ ?_⟩
  · rw [hlt]
    rfl
  · rw [hlt']
    rfl

end Version

end LatestTag
