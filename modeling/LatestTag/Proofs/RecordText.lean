import LatestTag.Proofs.ReadBack
import LatestTag.Proofs.RecordObjects
import Mathlib.Logic.Basic

/-!
# Records are read back from objects

A record is written as an object of its members, and read by filling its fields one after another.
If the members lead from the record without fields to a complete one, each through the field of its
name and with a value that is read back (`Record.Fills`), then the object as a whole is read back:

> `reader_writeObject`: the record is read from the object that is written for it, and what stands
> behind the object is left as it is.

What stands behind it may be any text, so an object of these members ends where it ends whatever
follows. The loop over the members runs on fuel; each member behind the first one begins with a
comma, so there is enough of it (`length_le_length_tailText`).
-/

namespace LatestTag.Json

/-! ## Objects as text -/

/-- A member as it stands in an object. -/
def memberText (member : String × String) : List Char :=
  (writeString member.1).toList ++ ':' :: member.2.toList

/-- The members of an object behind the first one. -/
def tailText (members : List (String × String)) : List Char :=
  members.flatMap fun member => ',' :: memberText member

theorem toList_writeObject_cons (first : String × String) (members : List (String × String)) :
    (writeObject (first :: members)).toList =
      '\x7b' :: (memberText first ++ (tailText members ++ ['\x7d'])) := by
  have htoList (member : String × String) :
      (writeString member.1 ++ ":" ++ member.2).toList = memberText member := by
    simp [memberText]
  have hparts : ((first :: members).map fun member =>
      writeString member.1 ++ ":" ++ member.2).map String.toList =
        memberText first :: members.map memberText := by
    rw [List.map_map, List.map_cons]
    exact congrArg₂ List.cons (htoList first) (List.map_congr_left fun member _ => htoList member)
  unfold writeObject
  rw [String.toList_append, String.toList_append, String.toList_intercalate, hparts]
  show '\x7b' :: ([','].intercalate (memberText first :: members.map memberText) ++ ['\x7d']) = _
  rw [intercalate_comma, List.append_assoc, List.flatMap_map]
  rfl

/-! ## Members and objects -/

namespace Record

variable {σ α : Type} {record : Record σ α} {state next final : σ}

/-- The members fill fields of the record that are not filled yet, each with a value that is read
back, and take the record from one state to another. -/
inductive Fills (record : Record σ α) : σ → List (String × String) → σ → Prop where
  /-- Without members nothing is filled. -/
  | nil {state : σ} : Fills record state [] state
  /-- The first member fills the field of its name. -/
  | cons {state next final : σ} {name text : String} {members : List (String × String)}
      {field : Field σ} (hfind : record.fields.find? (·.name == name) = some field)
      (hempty : field.isFilled state = false) (hreads : Reads (field.fill state) text next)
      (hmembers : Fills record next members final) :
      Fills record state ((name, text) :: members) final

/-- A member is read up to the comma or brace that follows it. -/
theorem member_memberText {name text : String} {field : Field σ}
    (hfind : record.fields.find? (·.name == name) = some field)
    (hempty : field.isFilled state = false) (hreads : Reads (field.fill state) text next)
    {c : Char} (hc : c = ',' ∨ c = '\x7d') (rest : List Char) :
    record.member state (memberText (name, text) ++ c :: rest) = .ok (next, c :: rest) := by
  obtain ⟨outcome, hread, hspells⟩ := Reader.exists_quoted (written name)
  obtain rfl := (hspells name).2 (written_spells name)
  have hcolon : colon (':' :: (text.toList ++ c :: rest)) = .ok ((), text.toList ++ c :: rest) :=
    colon_blank .none _
  rw [memberText, List.append_assoc, ← text_written, List.cons_append,
    member_of_find (hread _) hfind hempty hcolon]
  exact hreads c rest hc

theorem peek_memberText (member : String × String) (rest : List Char) :
    Reader.peek (memberText member ++ rest) = .ok ('"', memberText member ++ rest) := by
  rw [memberText, ← text_written]
  exact Reader.peek_cons rfl _

/-- What stands behind a member is a comma or the brace at the end. -/
theorem exists_tailText (members : List (String × String)) (rest : List Char) :
    ∃ c back, tailText members ++ '\x7d' :: rest = c :: back ∧ (c = ',' ∨ c = '\x7d') := by
  cases members with
  | nil => exact ⟨'\x7d', rest, rfl, Or.inr rfl⟩
  | cons member members => exact ⟨',', _, rfl, Or.inl rfl⟩

theorem length_le_length_tailText (members : List (String × String)) :
    members.length ≤ (tailText members).length := by
  induction members with
  | nil => exact Nat.le_refl 0
  | cons member members ih =>
    have hcons : tailText (member :: members) = ',' :: memberText member ++ tailText members := rfl
    rw [hcons, List.length_append, List.length_cons, List.length_cons]
    omega

/-- **The loop** reads the members behind the first one up to the end of the object. -/
theorem members_tailText {members : List (String × String)}
    (hfills : record.Fills state members final) {fuel : Nat} (hfuel : members.length < fuel)
    (rest : List Char) :
    record.members fuel false state (tailText members ++ '\x7d' :: rest) = .ok (final, rest) := by
  induction hfills generalizing fuel with
  | nil =>
    obtain ⟨fuel, rfl⟩ : ∃ k, fuel = k + 1 := ⟨fuel - 1, by omega⟩
    exact members_brace (Reader.peek_cons rfl rest) fuel false _
  | @cons state next final name text members field hfind hempty hreads hmembers ih =>
    -- one turn reads the member and leaves the rest of the members ahead
    obtain ⟨fuel, rfl⟩ : ∃ k, fuel = k + 1 := ⟨fuel - 1, by omega⟩
    obtain ⟨c, back, hback, hc⟩ := exists_tailText members rest
    have hcons : tailText ((name, text) :: members) ++ '\x7d' :: rest =
        ',' :: (memberText (name, text) ++ c :: back) := by
      simp [tailText, ← hback]
    rw [hcons, members_next (Reader.peek_cons rfl _) (peek_memberText _ _),
      Reader.bind_of_ok (member_memberText hfind hempty hreads hc back), ← hback]
    exact ih (by rw [List.length_cons] at hfuel; omega)

/-- **A record is read from the object that is written for it**, whatever follows the object. -/
theorem reader_writeObject {first : String × String} {members : List (String × String)}
    (hfills : record.Fills record.empty (first :: members) final) {value : α}
    (hvalue : record.ofMembers final = .ok value) (rest : List Char) :
    record.reader ((writeObject (first :: members)).toList ++ rest) = .ok (value, rest) := by
  cases hfills with
  | @cons _ next _ name text _ field hfind hempty hreads hmembers =>
    obtain ⟨c, back, hback, hc⟩ := exists_tailText members rest
    have htext : (writeObject ((name, text) :: members)).toList ++ rest =
        '\x7b' :: (memberText (name, text) ++ c :: back) := by
      rw [← hback, toList_writeObject_cons]
      simp
    -- the fuel is the length of what is ahead
    have hfuel : members.length < (memberText (name, text) ++ c :: back).length := by
      have hlength := length_le_length_tailText members
      rw [← hback, List.length_append, List.length_append, List.length_cons]
      omega
    -- the turn for the first member takes no comma; the loop goes on behind it
    have hloop : record.members ((memberText (name, text) ++ c :: back).length + 1) true
        record.empty (memberText (name, text) ++ c :: back) = (Except.ok final).map (·, rest) := by
      rw [members_first (peek_memberText _ _),
        Reader.bind_of_ok (member_memberText hfind hempty hreads hc back), ← hback]
      rw [← hback] at hfuel
      exact members_tailText hmembers hfuel rest
    rw [htext, reader_brace (Reader.peek_cons rfl _) hloop]
    show (record.ofMembers final).map _ = _
    rw [hvalue]
    rfl

end Record

end LatestTag.Json
