/-!
# Numerals

Numbers are written in decimal and found again by their digits, in JSON as well as in timestamps.
This file has what both need of a numeral: that it is the run of digits where it stands
(`takeWhile_isDigit_append`), that it only has a zero in front if it is zero itself
(`head?_toDigits_ne_zero`), and what value the numeral has that goes on another one. Code points are
written in base sixteen, and up to there different numbers have different digits
(`toDigits_injective`).
-/

namespace LatestTag.Numeral

/-- Digits are all the digits ahead, if none follows them. -/
theorem takeWhile_isDigit_append {digits rest : List Char} (hdigits : ∀ c ∈ digits, c.isDigit)
    (hrest : ∀ c ∈ rest.head?, c.isDigit = false) :
    (digits ++ rest).takeWhile Char.isDigit = digits := by
  rw [List.takeWhile_append_of_pos hdigits]
  cases rest with
  | nil => rw [List.takeWhile_nil, List.append_nil]
  | cons c rest =>
    rw [List.takeWhile_cons_of_neg (ne_true_of_eq_false (hrest c rfl)), List.append_nil]

theorem isDigit_of_mem_toDigits {n : Nat} : ∀ c ∈ Nat.toDigits 10 n, c.isDigit := by
  intro c hc
  exact Nat.isDigit_of_mem_toDigits (by decide) (by decide) hc

/-- No zero stands in front of the numeral of a positive number. -/
theorem head?_toDigits_ne_zero {n : Nat} (hn : 0 < n) :
    (Nat.toDigits 10 n).head? ≠ some '0' := by
  induction n using Nat.strongRecOn with
  | ind n ih =>
    by_cases hlt : n < 10
    · have hdigit : ∀ d < 10, 0 < d → [Nat.digitChar d].head? ≠ some '0' := by decide
      rw [Nat.toDigits_of_lt_base hlt]
      exact hdigit n hlt hn
    · -- the first digit is that of the tenth part
      rw [Nat.toDigits_of_base_le (by decide) (by omega), List.head?_append,
        Option.or_of_isSome (by simp)]
      exact ih (n / 10) (by omega) (by omega)

/-- Digits that follow only make the value greater. -/
theorem le_ofDigitChars (digits : List Char) (value : Nat) :
    value ≤ Nat.ofDigitChars 10 digits value := by
  induction digits generalizing value with
  | nil => exact Nat.le_refl value
  | cons d digits ih =>
    rw [Nat.ofDigitChars_cons]
    have := ih (10 * value + (d.toNat - '0'.toNat))
    omega

theorem digitChar_injOn {d e : Nat} (hd : d < 16) (he : e < 16)
    (h : Nat.digitChar d = Nat.digitChar e) : d = e := by
  have hdigits : ∀ d < 16, ∀ e < 16, Nat.digitChar d = Nat.digitChar e → d = e := by decide
  exact hdigits d hd e he h

section Base

variable {base : Nat}

theorem mod_lt_sixteen (hbase : 1 < base) (hle : base ≤ 16) (n : Nat) : n % base < 16 :=
  Nat.lt_of_lt_of_le (Nat.mod_lt n (Nat.zero_lt_of_lt hbase)) hle

/-- **A number is found again by its digits**: by the last one, and then by those before. -/
theorem toDigits_injective (hbase : 1 < base) (hle : base ≤ 16) {m n : Nat}
    (h : Nat.toDigits base m = Nat.toDigits base n) : m = n := by
  induction m using Nat.strongRecOn generalizing n with
  | ind m ih =>
    rcases Nat.lt_or_ge m base with hm | hm <;> rcases Nat.lt_or_ge n base with hn | hn
    · rw [Nat.toDigits_of_lt_base hm, Nat.toDigits_of_lt_base hn] at h
      exact digitChar_injOn (by omega) (by omega) (List.singleton_inj.1 h)
    · rw [Nat.toDigits_of_lt_base hm, Nat.toDigits_of_base_le hbase hn] at h
      have hfront : [] = Nat.toDigits base (n / base) := List.append_inj_left' h rfl
      exact absurd hfront.symm Nat.toDigits_ne_nil
    · rw [Nat.toDigits_of_base_le hbase hm, Nat.toDigits_of_lt_base hn] at h
      have hfront : Nat.toDigits base (m / base) = [] := List.append_inj_left' h rfl
      exact absurd hfront Nat.toDigits_ne_nil
    · rw [Nat.toDigits_of_base_le hbase hm, Nat.toDigits_of_base_le hbase hn] at h
      obtain ⟨hfront, hlast⟩ := List.append_inj' h rfl
      have hdiv : m / base = n / base :=
        ih _ (Nat.div_lt_self (by omega) hbase) hfront
      have hmod : m % base = n % base :=
        digitChar_injOn (mod_lt_sixteen hbase hle m) (mod_lt_sixteen hbase hle n)
          (List.singleton_inj.1 hlast)
      rw [← Nat.div_add_mod m base, ← Nat.div_add_mod n base, hdiv, hmod]

/-- What is no digit does not occur in a numeral. -/
theorem notMem_toDigits (hbase : 1 < base) (hle : base ≤ 16) {c : Char}
    (hc : ∀ d < 16, c ≠ Nat.digitChar d) (n : Nat) : c ∉ Nat.toDigits base n := by
  induction n using Nat.strongRecOn with
  | ind n ih =>
    rcases Nat.lt_or_ge n base with hn | hn
    · rw [Nat.toDigits_of_lt_base hn, List.mem_singleton]
      exact hc n (by omega)
    · rw [Nat.toDigits_of_base_le hbase hn, List.mem_append, List.mem_singleton]
      rintro (hfront | hlast)
      · exact ih _ (Nat.div_lt_self (by omega) hbase) hfront
      · exact hc _ (mod_lt_sixteen hbase hle n) hlast

end Base

end LatestTag.Numeral
