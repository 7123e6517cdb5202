import LatestTag.Proofs.RecordEntries

/-!
# Open records skip other members

An open record goes by the members with the names of its fields. Each of the others is skipped as a
whole, so it changes neither the state nor what is read behind it, and the entries that the members
tell are what the record is read from:

> `run_of_sifts`: if the entries are for different fields, an object is read as what they come to,
> whatever else is in it.

> `run_of_repeated`: a name of a field that comes again is refused, whatever value it has then.
-/

namespace LatestTag.Json.Entries

variable {σ α ε : Type} {record : Record σ α} (entries : Entries record ε) {state : σ}
  {member : Member} {members own : List Member} {entry : ε} {told : List ε}

/-- The member has a name that no field has, and any value. -/
def IsOther (record : Record σ α) (member : Member) : Prop :=
  IsValue member.value ∧
    ∃ name, member.name.Spells name ∧ name ∉ record.fields.map Field.name

/-- The members tell the entries in this order, with others before, between and after them. Without
the others, the members are `own`. -/
inductive Sifts : List Member → List Member → List ε → Prop where
  | nil : Sifts [] [] []
  | own {member : Member} {entry : ε} {members own : List Member} {told : List ε}
      (htells : entries.Tells member entry) (hrest : Sifts members own told) :
      Sifts (member :: members) (member :: own) (entry :: told)
  | other {member : Member} {members own : List Member} {told : List ε}
      (hother : IsOther record member) (hrest : Sifts members own told) :
      Sifts (member :: members) own told

variable {entries}

/-- The members without the others tell the same. -/
theorem Sifts.self (h : entries.Sifts members own told) : entries.Sifts own own told := by
  induction h with
  | nil => exact .nil
  | own htells _ ih => exact .own htells ih
  | other _ _ ih => exact ih

variable (entries)

/-! ## One member -/

/-- Another member changes nothing. -/
theorem step_of_isOther (hopen : record.isClosed = false) (hother : IsOther record member) :
    record.step state member = .ok state := by
  obtain ⟨hvalue, name, hname, hnot⟩ := hother
  have hfind : record.fields.find? (·.name == name) = none := by
    refine List.find?_eq_none.2 fun field hfield heq => ?_
    exact hnot (List.mem_map.2 ⟨field, hfield, eq_of_beq heq⟩)
  refine Record.step_eq_of_member fun tail htail => ?_
  rw [Record.member_core_of_other hname hfind hvalue htail, if_neg (by rw [hopen]; decide)]
  rfl

/-- A member with the name of an entry whose field is filled is refused. -/
theorem step_of_not_fresh (hname : member.name.Spells (entries.name entry))
    (hfilled : ¬ entries.Fresh state entry) :
    record.step state member =
      .error (.unsuitable ("duplicate field `" ++ entries.name entry ++ "`")) := by
  simp only [Fresh, not_forall, Bool.not_eq_false] at hfilled
  obtain ⟨field, hfield, heq, hfilled⟩ := hfilled
  refine Record.step_eq_of_member fun tail _ => ?_
  exact Record.member_core_of_filled hname (entries.find_eq_some_iff.2 ⟨hfield, heq⟩) hfilled tail

/-! ## All members -/

/-- **The members** do what their entries do, unless a name comes again. -/
theorem foldlM_step_of_sifts (hopen : record.isClosed = false)
    (h : entries.Sifts members own told) (state : σ) :
    (entries.Fits state told →
      members.foldlM record.step state = .ok (told.foldl entries.put state)) ∧
    (¬ entries.Fits state told → ∃ name,
      members.foldlM record.step state =
        .error (.unsuitable ("duplicate field `" ++ name ++ "`"))) := by
  induction h generalizing state with
  | nil =>
    have hfits : entries.Fits state [] :=
      ⟨List.nodup_nil, fun _ hentry => absurd hentry List.not_mem_nil⟩
    exact ⟨fun _ => rfl, fun hnot => absurd hfits hnot⟩
  | @own member entry members own told htells hrest ih =>
    rw [List.foldlM_cons, entries.fits_cons_iff]
    by_cases hfresh : entries.Fresh state entry
    · rw [entries.step_of_tells htells hfresh]
      obtain ⟨hok, herror⟩ := ih (entries.put state entry)
      exact ⟨fun hfits => hok hfits.2, fun hnot => herror fun hfits => hnot ⟨hfresh, hfits⟩⟩
    · rw [entries.step_of_not_fresh htells.1 hfresh]
      exact ⟨fun hfits => absurd hfits.1 hfresh, fun _ => ⟨entries.name entry, rfl⟩⟩
  | other hother hrest ih =>
    rw [List.foldlM_cons, step_of_isOther hopen hother]
    exact ih state

/-- Entries fill their fields and no others. -/
theorem fresh_foldl_put_iff (told : List ε) (state : σ) :
    entries.Fresh (told.foldl entries.put state) entry ↔
      entries.name entry ∉ told.map entries.name ∧ entries.Fresh state entry := by
  induction told generalizing state with
  | nil => simp
  | cons first told ih =>
    rw [List.foldl_cons, ih, entries.fresh_put_iff, List.map_cons, List.mem_cons, not_or,
      ← and_assoc, and_comm (a := _ ∉ _), ne_comm]

/-! ## Whole texts -/

section Object

variable (hopen : record.isClosed = false) (h : entries.Sifts members own told)
  (lead blank trail : Blank)
include hopen h

/-- **An object** is read as what its entries come to, whatever else is in it. -/
theorem run_of_sifts (hvalues : ∀ member ∈ members, IsValue member.value)
    (hnodup : (told.map entries.name).Nodup) :
    record.reader.run (document lead (objectText blank members) trail) =
      record.ofMembers (told.foldl entries.put record.empty) := by
  rw [entries.run_objectText hvalues,
    (entries.foldlM_step_of_sifts hopen h record.empty).1 (entries.fits_empty_iff.2 hnodup)]
  rfl

/-- Entries for one field are refused. -/
theorem run_of_not_nodup (hvalues : ∀ member ∈ members, IsValue member.value)
    (hnot : ¬ (told.map entries.name).Nodup) :
    ∃ name, record.reader.run (document lead (objectText blank members) trail) =
      .error (.unsuitable ("duplicate field `" ++ name ++ "`")) := by
  obtain ⟨name, hfold⟩ := (entries.foldlM_step_of_sifts hopen h record.empty).2
    (mt entries.fits_empty_iff.1 hnot)
  rw [entries.run_objectText hvalues, hfold]
  exact ⟨name, rfl⟩

/-- **A name that comes again** is refused, whatever its value is then and whatever follows. -/
theorem run_of_repeated {after : List Member} {name : String}
    (hvalues : ∀ m ∈ members ++ member :: after, IsValue m.value)
    (htold : name ∈ told.map entries.name) (hname : member.name.Spells name) :
    ∃ name,
      record.reader.run (document lead (objectText blank (members ++ member :: after)) trail) =
        .error (.unsuitable ("duplicate field `" ++ name ++ "`")) := by
  obtain ⟨entry, hentry, rfl⟩ := List.mem_map.1 htold
  obtain ⟨hok, herror⟩ := entries.foldlM_step_of_sifts hopen h record.empty
  rw [entries.run_objectText hvalues, List.foldlM_append]
  by_cases hfits : entries.Fits record.empty told
  · have hfilled : ¬ entries.Fresh (told.foldl entries.put record.empty) entry := fun hfresh =>
      ((entries.fresh_foldl_put_iff told record.empty).1 hfresh).1 htold
    have hfold : (members.foldlM record.step record.empty >>=
        fun next => (member :: after).foldlM record.step next) =
          .error (.unsuitable ("duplicate field `" ++ entries.name entry ++ "`")) := by
      rw [hok hfits]
      show (member :: after).foldlM record.step _ = _
      rw [List.foldlM_cons, entries.step_of_not_fresh hname hfilled]
      rfl
    rw [hfold]
    exact ⟨entries.name entry, rfl⟩
  · obtain ⟨name, hfold⟩ := herror hfits
    rw [hfold]
    exact ⟨name, rfl⟩

end Object

end LatestTag.Json.Entries
