import LatestTag.Json.Write
import LatestTag.Proofs.JsonValues
import LatestTag.Proofs.Numerals
import Mathlib.Tactic.SplitIfs

/-!
# What is written is read back

JSON text is written and read by the members of this library that know nothing of each other: the
writer puts values side by side without a length or a mark between them, and the reader has to find
where each one ends. What is written is JSON text (`spells_writeString` and the like), so what holds
of the reader and all JSON values holds of it:

> `Reads reader text value`: the reader takes exactly this text for the value, wherever it stands in
> an object.

A string ends at the first quote that has no backslash. A number has no end of its own, and is only
read back because a comma or a brace follows it, which is why `Reads` asks for one of them.
-/

namespace LatestTag.Json

/-! ## Strings -/

/-- A short escape stands for the character that it was written for. -/
theorem isEscape_of_shortEscape? {c letter : Char} (h : shortEscape? c = some letter) :
    IsEscape letter c := by
  unfold shortEscape? at h
  split_ifs at h
  all_goals
    obtain rfl := Option.some.inj h
    subst_vars
    simp [IsEscape]

theorem isQuad_codePoint {c : Char} (hlow : c.toNat < 0x20) :
    IsQuad '0' '0' (Nat.digitChar (c.toNat / 16)) (Nat.digitChar (c.toNat % 16)) c.toNat := by
  have hdigit {n : Nat} (hn : n < 16) : IsHexDigit (Nat.digitChar n) n := ⟨hn, Or.inl rfl⟩
  exact ⟨0, 0, c.toNat / 16, c.toNat % 16, hdigit (by omega), hdigit (by omega),
    hdigit (by omega), hdigit (by omega), by omega⟩

/-- **One character** is written as what stands for it. -/
theorem spells_writeChar (c : Char) {body chars : List Char} (hbody : BodySpells body chars) :
    BodySpells (writeChar c ++ body) (c :: chars) := by
  unfold writeChar
  cases hshort : shortEscape? c with
  | some letter => exact .escape (isEscape_of_shortEscape? hshort) hbody
  | none =>
    by_cases hlow : c.toNat < 0x20
    · rw [if_pos hlow]
      have hhigh : ¬ IsHigh c.toNat := fun h => absurd h.1 (by omega)
      have hlow' : ¬ IsLow c.toNat := fun h => absurd h.1 (by omega)
      have hspells := BodySpells.unit (isQuad_codePoint hlow) hhigh hlow' hbody
      rw [Char.ofNat_toNat] at hspells
      exact hspells
    · rw [if_neg hlow]
      refine .plain ⟨?_, ?_, ?_⟩ hbody
      · intro heq
        rw [heq] at hshort
        exact absurd hshort (by decide)
      · intro heq
        rw [heq] at hshort
        exact absurd hshort (by decide)
      · exact Char.le_def.2 (UInt32.le_iff_toNat_le.2 (Nat.not_lt.1 hlow))

theorem spells_flatMap_writeChar (chars : List Char) :
    BodySpells (chars.flatMap writeChar) chars := by
  induction chars with
  | nil => exact .nil
  | cons c chars ih => exact spells_writeChar c ih

/-- A string as the literal that is written for it. -/
def written (s : String) : StringLiteral := .ofSpells (spells_flatMap_writeChar s.toList)

theorem text_written (s : String) : (written s).text = (writeString s).toList :=
  String.toList_ofList.symm

theorem written_spells (s : String) : (written s).Spells s := spells_flatMap_writeChar s.toList

/-! ## Values -/

theorem saysString_writeString (s : String) : SaysString (writeString s).toList s :=
  ⟨written s, (text_written s).symm, written_spells s⟩

theorem saysBool_writeBool (b : Bool) : SaysBool (writeBool b).toList b := by
  cases b with
  | true => rfl
  | false => rfl

theorem saysNat_writeNat (n : UInt64) : SaysNat (writeNat n.toNat).toList n := by
  unfold writeNat
  rw [Nat.toList_repr]
  refine ⟨⟨⟨Nat.toDigits_ne_nil, Numeral.isDigit_of_mem_toDigits⟩, ?_⟩,
    Nat.ofDigitChars_ten_toDigits⟩
  intro rest hzero
  rcases Nat.eq_zero_or_pos n.toNat with hn | hpos
  · rw [hn] at hzero
    exact (List.cons.inj hzero).2.symm
  · exact absurd (congrArg List.head? hzero) (Numeral.head?_toDigits_ne_zero hpos)

theorem saysOption_writeOption {α : Type} {Says : List Char → α → Prop} {write : α → String}
    (h : ∀ value, Says (write value).toList value) (value? : Option α) :
    SaysOption Says (writeOption write value?).toList value? := by
  cases value? with
  | none => rfl
  | some value => exact h value

/-- The reader takes exactly this text for the value, wherever it stands in an object: a comma or
the brace at the end follows it. -/
def Reads {α : Type} (reader : Reader α) (text : String) (value : α) : Prop :=
  ∀ c rest, c = ',' ∨ c = '\x7d' → reader (text.toList ++ c :: rest) = .ok (value, c :: rest)

variable {α β : Type} {reader : Reader α} {text : String} {value : α}

/-- What says something is read as that. -/
theorem Decodes.reads_text {Says : List Char → α → Prop} (h : Decodes reader Says)
    (hsaid : Says text.toList value) : Reads reader text value := by
  intro c rest hc
  refine h.reads _ _ hsaid .none (c :: rest) ?_
  intro d hd
  obtain rfl := Option.some.inj hd
  rcases hc with rfl | rfl <;> decide

/-- What has been read may be turned into something else. -/
theorem Reads.bind {next : α → Reader β} {result : β} (h : Reads reader text value)
    (hnext : next value = pure result) : Reads (reader >>= next) text result := by
  intro c rest hc
  rw [Reader.bind_of_ok (h c rest hc), hnext]
  rfl

theorem reads_string (expected s : String) : Reads (Reader.string expected) (writeString s) s :=
  (decodes_string expected).reads_text (saysString_writeString s)

theorem reads_bool (b : Bool) : Reads Reader.bool (writeBool b) b :=
  decodes_bool.reads_text (saysBool_writeBool b)

/-- A text that is read to its end, whatever follows it, is read as a whole. -/
theorem Reader.run_of_forall {text : String}
    (h : ∀ rest, reader (text.toList ++ rest) = .ok (value, rest)) :
    reader.run text = .ok value := by
  have hread := h []
  rw [List.append_nil] at hread
  unfold run
  rw [hread]
  rfl

end LatestTag.Json
