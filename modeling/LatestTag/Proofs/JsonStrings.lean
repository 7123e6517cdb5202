import LatestTag.Json.Text
import LatestTag.Proofs.JsonGrammar

/-!
# String literals are read as what they stand for

The reader of strings takes the body of a literal and the quote behind it, and nothing more:

> `readChars_of_spells`: a body that stands for characters is read as these.

> `exists_reading`: the reader makes the same of a body whatever follows it, and if it makes
> characters of it the body stands for them.

So a literal is read exactly if it stands for a text (`Reader.exists_quoted`). What is left are
bodies with code units that are paired wrongly. A first unit of a pair decides nothing by itself, so
the second statement goes by the length of the body and looks at what follows such a unit.
-/

namespace LatestTag.Json

variable {a b c d letter digit : Char} {value unit : Nat} {body chars : List Char}

/-! ## Characters -/

theorem hexDigit?_of_isHexDigit (h : IsHexDigit digit value) : hexDigit? digit = some value := by
  obtain ⟨hlt, hdigit⟩ := h
  have hsmall : ∀ n < 16, hexDigit? (Nat.digitChar n) = some n := by decide
  have hcapital : ∀ n < 16, hexDigit? (Nat.digitChar n).toUpper = some n := by decide
  rcases hdigit with hdigit | hdigit
  · rw [hdigit]
    exact hsmall value hlt
  · rw [hdigit]
    exact hcapital value hlt

theorem hexQuad?_of_isQuad (h : IsQuad a b c d unit) : hexQuad? a b c d = some unit := by
  obtain ⟨i, j, k, l, ha, hb, hc, hd, hunit⟩ := h
  unfold hexQuad?
  rw [hexDigit?_of_isHexDigit ha, hexDigit?_of_isHexDigit hb, hexDigit?_of_isHexDigit hc,
    hexDigit?_of_isHexDigit hd]
  show some (i * 0x1000 + j * 0x100 + k * 0x10 + l) = some unit
  rw [hunit]
  congr 1
  omega

theorem isHighSurrogate_iff : isHighSurrogate unit = true ↔ IsHigh unit := by
  unfold isHighSurrogate IsHigh
  rw [Bool.and_eq_true, decide_eq_true_iff, decide_eq_true_iff]
  omega

theorem isLowSurrogate_iff : isLowSurrogate unit = true ↔ IsLow unit := by
  unfold isLowSurrogate IsLow
  rw [Bool.and_eq_true, decide_eq_true_iff, decide_eq_true_iff]
  omega

theorem ofShortEscape?_of_isEscape (h : IsEscape letter c) :
    letter ≠ 'u' ∧ ofShortEscape? letter = some c := by
  simp only [IsEscape, List.mem_cons, Prod.mk.injEq, List.not_mem_nil, or_false] at h
  rcases h with h | h | h | h | h | h | h | h
  all_goals
    obtain ⟨rfl, rfl⟩ := h
    decide

theorem IsHigh.not_low (h : IsHigh unit) : ¬ IsLow unit := by
  intro hlow
  have hmax := h.2
  have hmin := hlow.1
  omega

theorem IsPlain.not_low (h : IsPlain c) : ¬ c.toNat < 0x20 := by
  obtain ⟨_, _, hle⟩ := h
  exact Nat.not_lt.2 (UInt32.le_iff_toNat_le.1 (Char.le_def.1 hle))

/-! ## One step of the reader -/

/-- What the reader does behind the first code unit of a pair. -/
def readLow (high : Nat) : List Char → Except Problem (List Char × List Char)
  | [] | ['\\'] => .error .ended
  | '\\' :: 'u' :: a :: b :: c :: d :: rest =>
    match hexQuad? a b c d with
    | none => .error (quadProblem (a :: b :: c :: d :: rest))
    | some low =>
      if isLowSurrogate low then consRead (ofSurrogates high low) (readChars rest)
      else .error .malformed
  | '\\' :: 'u' :: rest => .error (quadProblem rest)
  | _ => .error .malformed

/-- **The steps of the reader** through a string literal. -/
theorem readChars_steps :
    (∀ rest, readChars ('"' :: rest) = .ok ([], rest)) ∧
    (∀ c rest, IsPlain c → readChars (c :: rest) = consRead c (readChars rest)) ∧
    (∀ letter c rest, IsEscape letter c →
      readChars ('\\' :: letter :: rest) = consRead c (readChars rest)) ∧
    ∀ a b c d unit rest, IsQuad a b c d unit →
      readChars ('\\' :: 'u' :: a :: b :: c :: d :: rest) =
        if isLowSurrogate unit then .error .malformed
        else if isHighSurrogate unit then readLow unit rest
        else consRead (Char.ofNat unit) (readChars rest) := by
  refine ⟨?_, ?_, ?_, ?_⟩
  · intro rest
    rw [readChars]
  · intro c rest hc
    rw [readChars, if_neg hc.not_low]
    · exact hc.1
    -- the patterns before the last one all begin with a backslash
    all_goals
      intros
      exact absurd ‹c = '\\'› hc.2.1
  · intro letter c rest hc
    obtain ⟨hu, hletter⟩ := ofShortEscape?_of_isEscape hc
    rw [readChars, hletter]
    · intro _ _ _ _ _ heq
      exact absurd heq hu
    · exact hu
  · intro a b c d unit rest hunit
    rw [readChars, hexQuad?_of_isQuad hunit]
    rfl

theorem readChars_quote (rest : List Char) : readChars ('"' :: rest) = .ok ([], rest) :=
  readChars_steps.1 rest

theorem readChars_isPlain (hc : IsPlain c) (rest : List Char) :
    readChars (c :: rest) = consRead c (readChars rest) :=
  readChars_steps.2.1 c rest hc

theorem readChars_isEscape (hc : IsEscape letter c) (rest : List Char) :
    readChars ('\\' :: letter :: rest) = consRead c (readChars rest) :=
  readChars_steps.2.2.1 letter c rest hc

theorem readChars_isQuad (hunit : IsQuad a b c d unit) (rest : List Char) :
    readChars ('\\' :: 'u' :: a :: b :: c :: d :: rest) =
      if isLowSurrogate unit then .error .malformed
      else if isHighSurrogate unit then readLow unit rest
      else consRead (Char.ofNat unit) (readChars rest) :=
  readChars_steps.2.2.2 a b c d unit rest hunit

theorem readChars_unit (hunit : IsQuad a b c d unit) (hhigh : ¬ IsHigh unit) (hlow : ¬ IsLow unit)
    (rest : List Char) :
    readChars ('\\' :: 'u' :: a :: b :: c :: d :: rest) =
      consRead (Char.ofNat unit) (readChars rest) := by
  rw [readChars_isQuad hunit, if_neg (mt isLowSurrogate_iff.1 hlow),
    if_neg (mt isHighSurrogate_iff.1 hhigh)]

theorem readChars_isLow (hunit : IsQuad a b c d unit) (hlow : IsLow unit) (rest : List Char) :
    readChars ('\\' :: 'u' :: a :: b :: c :: d :: rest) = .error .malformed := by
  rw [readChars_isQuad hunit, if_pos (isLowSurrogate_iff.2 hlow)]

theorem readChars_isHigh (hunit : IsQuad a b c d unit) (hhigh : IsHigh unit) (rest : List Char) :
    readChars ('\\' :: 'u' :: a :: b :: c :: d :: rest) = readLow unit rest := by
  rw [readChars_isQuad hunit, if_neg (mt isLowSurrogate_iff.1 hhigh.not_low),
    if_pos (isHighSurrogate_iff.2 hhigh)]

/-- Behind the first unit of a pair only an escape by code point goes on. -/
theorem readLow_malformed {ahead : List Char} (hne : ahead ≠ []) (hslash : ahead ≠ ['\\'])
    (hunit : ∀ back, ahead ≠ '\\' :: 'u' :: back) : readLow unit ahead = .error .malformed := by
  unfold readLow
  split
  next => exact absurd rfl hne
  next => exact absurd rfl hslash
  next => exact absurd rfl (hunit _)
  next => exact absurd rfl (hunit _)
  next => rfl

/-- The second unit completes the pair, and any other unit does not. -/
theorem readLow_unit (hunit : IsQuad a b c d value) (rest : List Char) :
    readLow unit ('\\' :: 'u' :: a :: b :: c :: d :: rest) =
      if isLowSurrogate value then consRead (ofSurrogates unit value) (readChars rest)
      else .error .malformed := by
  simp only [readLow, hexQuad?_of_isQuad hunit]

/-! ## Bodies -/

/-- **A body that stands for characters is read as these.** -/
theorem readChars_of_spells (h : BodySpells body chars) (rest : List Char) :
    readChars (body ++ '"' :: rest) = .ok (chars, rest) := by
  induction h with
  | nil => exact readChars_quote rest
  | plain hc hbody ih =>
    rw [List.cons_append, readChars_isPlain hc, ih]
    rfl
  | escape hc hbody ih =>
    rw [List.cons_append, List.cons_append, readChars_isEscape hc, ih]
    rfl
  | unit hunit hhigh hlow hbody ih =>
    show readChars ('\\' :: 'u' :: _ :: _ :: _ :: _ :: (_ ++ '"' :: rest)) = _
    rw [readChars_unit hunit hhigh hlow, ih]
    rfl
  | pair hhigh hlow his his' hbody ih =>
    show readChars ('\\' :: 'u' :: _ :: _ :: _ :: _ ::
      '\\' :: 'u' :: _ :: _ :: _ :: _ :: (_ ++ '"' :: rest)) = _
    rw [readChars_isHigh hhigh his, readLow_unit hlow, if_pos (isLowSurrogate_iff.2 his'), ih]
    rfl

/-- What the reader makes of the body and the quote behind it, whatever follows. -/
def Reading (body : List Char) (outcome : Except Problem (List Char)) : Prop :=
  (∀ rest, readChars (body ++ '"' :: rest) = outcome.map (·, rest)) ∧
    ∀ chars, outcome = .ok chars → BodySpells body chars

theorem reading_malformed (h : ∀ rest, readChars (body ++ '"' :: rest) = .error .malformed) :
    Reading body (.error .malformed) :=
  ⟨h, fun _ hok => by cases hok⟩

/-- What is read in front of a body goes in front of its characters. -/
theorem Reading.cons {outcome : Except Problem (List Char)} (h : Reading body outcome)
    (front : List Char) (hread : ∀ rest, readChars (front ++ rest) = consRead c (readChars rest))
    (hspells : ∀ chars, BodySpells body chars → BodySpells (front ++ body) (c :: chars)) :
    Reading (front ++ body) (outcome.map (c :: ·)) := by
  obtain ⟨hreads, hok⟩ := h
  refine ⟨?_, ?_⟩
  · intro rest
    rw [List.append_assoc, hread, hreads]
    cases outcome with
    | ok chars => rfl
    | error problem => rfl
  · intro chars heq
    cases outcome with
    | ok chars' =>
      obtain rfl := Except.ok.inj heq
      exact hspells chars' (hok chars' rfl)
    | error problem => cases heq

/-- A first unit is refused if no second one stands behind it. -/
theorem reading_of_readLow (hunit : IsQuad a b c d unit) (hhigh : IsHigh unit)
    (h : ∀ rest, readLow unit (body ++ '"' :: rest) = .error .malformed) :
    Reading ('\\' :: 'u' :: a :: b :: c :: d :: body) (.error .malformed) := by
  refine reading_malformed fun rest => ?_
  show readChars ('\\' :: 'u' :: a :: b :: c :: d :: (body ++ '"' :: rest)) = _
  rw [readChars_isHigh hunit hhigh, h]

/-- Behind the first unit of a pair. -/
theorem exists_reading_high (hunit : IsQuad a b c d unit) (hhigh : IsHigh unit)
    (hbody : IsBody body) (ih : ∀ body', body'.length < body.length → IsBody body' →
      ∃ outcome, Reading body' outcome) :
    ∃ outcome, Reading ('\\' :: 'u' :: a :: b :: c :: d :: body) outcome := by
  cases hbody with
  | nil =>
    refine ⟨_, reading_of_readLow hunit hhigh fun rest => ?_⟩
    exact readLow_malformed (by simp) (by simp) (by simp)
  | plain hc hbody =>
    refine ⟨_, reading_of_readLow hunit hhigh fun rest => ?_⟩
    exact readLow_malformed (by simp) (by simp [hc.2.1]) (by simp [hc.2.1])
  | escape hc hbody =>
    have hletter := (ofShortEscape?_of_isEscape hc).1
    refine ⟨_, reading_of_readLow hunit hhigh fun rest => ?_⟩
    exact readLow_malformed (by simp) (by simp) (by simp [hletter])
  | @unit a' b' c' d' unit' body hunit' hbody =>
    by_cases hlow : IsLow unit'
    · obtain ⟨outcome, hreading⟩ := ih body (by simp only [List.length_cons]; omega) hbody
      refine ⟨_, hreading.cons (c := ofSurrogates unit unit')
        ['\\', 'u', a, b, c, d, '\\', 'u', a', b', c', d'] ?_ ?_⟩
      · intro rest
        show readChars ('\\' :: 'u' :: a :: b :: c :: d ::
          '\\' :: 'u' :: a' :: b' :: c' :: d' :: rest) = _
        rw [readChars_isHigh hunit hhigh, readLow_unit hunit', if_pos (isLowSurrogate_iff.2 hlow)]
      · intro chars hspells
        exact .pair hunit hunit' hhigh hlow hspells
    · refine ⟨_, reading_of_readLow hunit hhigh fun rest => ?_⟩
      show readLow unit ('\\' :: 'u' :: a' :: b' :: c' :: d' :: (body ++ '"' :: rest)) = _
      rw [readLow_unit hunit', if_neg (mt isLowSurrogate_iff.1 hlow)]

/-- **The reader makes the same of a body whatever follows it**, and no characters but those that it
stands for. -/
theorem exists_reading (hbody : IsBody body) : ∃ outcome, Reading body outcome := by
  induction hn : body.length using Nat.strongRecOn generalizing body with
  | ind n ih =>
    have ih : ∀ body', body'.length < body.length → IsBody body' →
        ∃ outcome, Reading body' outcome := by
      intro body' hlt hbody'
      exact ih body'.length (by omega) hbody' rfl
    cases hbody with
    | nil =>
      refine ⟨.ok [], readChars_quote, fun chars heq => ?_⟩
      obtain rfl := Except.ok.inj heq
      exact .nil
    | @plain c body hc hbody =>
      obtain ⟨outcome, hreading⟩ := ih body (by simp) hbody
      exact ⟨_, hreading.cons [c] (readChars_isPlain hc) fun _ => .plain hc⟩
    | @escape letter c body hc hbody =>
      obtain ⟨outcome, hreading⟩ := ih body (by simp only [List.length_cons]; omega) hbody
      exact ⟨_, hreading.cons ['\\', letter] (readChars_isEscape hc) fun _ =>
        .escape hc⟩
    | @unit a b c d unit body hunit hbody =>
      have hlength : body.length < ('\\' :: 'u' :: a :: b :: c :: d :: body).length := by
        simp only [List.length_cons]
        omega
      by_cases hhigh : IsHigh unit
      · refine exists_reading_high hunit hhigh hbody fun body' hlt hbody' => ?_
        exact ih body' (by omega) hbody'
      · by_cases hlow : IsLow unit
        · exact ⟨_, reading_malformed fun rest => readChars_isLow hunit hlow _⟩
        · obtain ⟨outcome, hreading⟩ := ih body hlength hbody
          exact ⟨_, hreading.cons ['\\', 'u', a, b, c, d]
            (readChars_unit hunit hhigh hlow) fun _ => .unit hunit hhigh hlow⟩

/-! ## Literals -/

namespace Reader

/-- **A literal** is read up to its closing quote, with an outcome that does not depend on what
follows, and as a text exactly if it stands for it. -/
theorem exists_quoted (literal : StringLiteral) :
    ∃ outcome : Except Problem String,
      (∀ rest, quoted (literal.text ++ rest) = outcome.map (·, rest)) ∧
      ∀ s, outcome = .ok s ↔ literal.Spells s := by
  obtain ⟨outcome, hreads, hok⟩ := exists_reading literal.isBody
  have hquoted (rest : List Char) : quoted (literal.text ++ rest) =
      (outcome.map String.ofList).map (·, rest) := by
    have htext : literal.text ++ rest = '"' :: (literal.body ++ '"' :: rest) := by
      simp [StringLiteral.text]
    rw [htext]
    show (readChars (literal.body ++ '"' :: rest)).map _ = _
    rw [hreads]
    cases outcome with
    | ok chars => rfl
    | error problem => rfl
  refine ⟨outcome.map String.ofList, hquoted, ?_⟩
  intro s
  constructor
  · intro heq
    cases outcome with
    | ok chars =>
      obtain rfl := Except.ok.inj heq
      show BodySpells literal.body (String.ofList chars).toList
      rw [String.toList_ofList]
      exact hok chars rfl
    | error problem => cases heq
  · intro hspells
    have hread := hreads []
    rw [readChars_of_spells hspells] at hread
    cases outcome with
    | ok chars =>
      obtain rfl := (Prod.mk.inj (Except.ok.inj hread)).1
      show Except.ok (String.ofList s.toList) = _
      rw [String.ofList_toList]
    | error problem => cases hread

end Reader

end LatestTag.Json
