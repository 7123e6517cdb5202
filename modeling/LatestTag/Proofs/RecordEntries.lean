import LatestTag.Proofs.RecordLists
import Mathlib.Data.List.Forall2
import Mathlib.Data.List.Nodup

/-!
# Records are filled entry by entry

What a value says that suits a field of a record is an entry: the entries of a record tell
its fields apart, and putting one into the state fills its field and no other (`Entries`). With them
the members that are read are described without the order in which that happens:

> `foldlM_step_eq_ok_iff`: the members of a closed record are read exactly if they tell entries for
> different fields, and then the entries are what the state has.

> `foldlM_step_eq_foldlM_place`: values at their places do the same as members with the names of
> the fields, to the message for what is wrong.
-/

namespace LatestTag.Json

variable {σ α ε : Type} {record : Record σ α}

/-- What the values of a record say. -/
structure Entries (record : Record σ α) (ε : Type) where
  /-- The name of the member that tells the entry. -/
  name : ε → String
  /-- The value of the member says the entry. -/
  Says : ε → List Char → Prop
  /-- The state with the entry in its field. -/
  put : σ → ε → σ
  decodes : ∀ field ∈ record.fields, ∀ state, Decodes (field.fill state) fun text next =>
    ∃ entry, name entry = field.name ∧ Says entry text ∧ next = put state entry
  named : ∀ entry, name entry ∈ record.fields.map Field.name
  distinct : (record.fields.map Field.name).Nodup
  empty : ∀ field ∈ record.fields, field.isFilled record.empty = false
  isFilled_put : ∀ field ∈ record.fields, ∀ state entry,
    field.isFilled (put state entry) = (name entry == field.name || field.isFilled state)

/-- A field whose values are the entries of one kind is filled with them. -/
theorem Decodes.fill {β : Type} {reader : Reader β} {Says : List Char → β → Prop}
    (h : Decodes reader Says) (make : β → ε) (SaysEntry : ε → List Char → Prop) (put : ε → σ)
    {IsKind : ε → Prop} (hkind : ∀ entry, IsKind entry ↔ ∃ value, entry = make value)
    (hmake : ∀ text value, SaysEntry (make value) text ↔ Says text value) :
    Decodes (reader >>= fun value => pure (put (make value))) fun text next =>
      ∃ entry, IsKind entry ∧ SaysEntry entry text ∧ next = put entry := by
  have hbind : Decodes (reader >>= fun value => pure (put (make value))) fun text next =>
      ∃ value, Says text value ∧ (Except.ok (put (make value)) : Except Problem σ) = .ok next :=
    h.bind fun value ahead => rfl
  refine hbind.congr fun text next => ?_
  constructor
  · intro hnext
    obtain ⟨value, hvalue, heq⟩ := hnext
    exact ⟨make value, (hkind _).2 ⟨value, rfl⟩, (hmake text value).2 hvalue,
      (Except.ok.inj heq).symm⟩
  · intro hnext
    obtain ⟨entry, hentry, hsaid, rfl⟩ := hnext
    obtain ⟨value, rfl⟩ := (hkind entry).1 hentry
    exact ⟨value, (hmake text value).1 hsaid, rfl⟩

namespace Entries

variable (entries : Entries record ε) {state final : σ} {entry : ε}

/-- The member has the name of the entry, and its value says it. -/
def Tells (member : Member) (entry : ε) : Prop :=
  member.name.Spells (entries.name entry) ∧ entries.Says entry member.value

/-- The field of the entry is not filled yet. -/
def Fresh (state : σ) (entry : ε) : Prop :=
  ∀ field ∈ record.fields, field.name = entries.name entry → field.isFilled state = false

theorem fresh_empty (entry : ε) : entries.Fresh record.empty entry :=
  fun field hfield _ => entries.empty field hfield

/-- An entry leaves the fields of the others as they are. -/
theorem fresh_put_iff {other : ε} :
    entries.Fresh (entries.put state entry) other ↔
      entries.name entry ≠ entries.name other ∧ entries.Fresh state other := by
  constructor
  · intro hfresh
    refine ⟨?_, ?_⟩
    · intro hname
      obtain ⟨field, hfield, heq⟩ := List.mem_map.1 (entries.named other)
      have hfilled := hfresh field hfield heq
      rw [entries.isFilled_put field hfield, heq, hname, beq_self_eq_true] at hfilled
      cases hfilled
    · intro field hfield heq
      have hfilled := hfresh field hfield heq
      rw [entries.isFilled_put field hfield] at hfilled
      exact (Bool.or_eq_false_iff.1 hfilled).2
  · intro h field hfield heq
    rw [entries.isFilled_put field hfield, h.2 field hfield heq, Bool.or_false, heq]
    exact beq_eq_false_iff_ne.2 h.1

include entries in
/-- A field is found by its name. -/
theorem find_eq_some_iff {name : String} {field : Field σ} :
    record.fields.find? (·.name == name) = some field ↔
      field ∈ record.fields ∧ field.name = name := by
  constructor
  · intro hfind
    have hname := List.find?_some hfind
    exact ⟨List.mem_of_find?_eq_some hfind, eq_of_beq hname⟩
  · intro h
    obtain ⟨hfield, rfl⟩ := h
    cases hfind : record.fields.find? (·.name == field.name) with
    | none => exact absurd (List.find?_eq_none.1 hfind field hfield) (by simp)
    | some found =>
      have hname := List.find?_some hfind
      have hfound : found ∈ record.fields := List.mem_of_find?_eq_some hfind
      rw [List.inj_on_of_nodup_map entries.distinct hfound hfield (eq_of_beq hname)]

/-- Entries for different fields are all there in the end, besides what was there for others. -/
theorem has_foldl_put_iff {Has : σ → ε → Prop}
    (hput : ∀ state entry other, Has (entries.put state entry) other ↔
      entry = other ∨ (entries.name entry ≠ entries.name other ∧ Has state other))
    {told : List ε} (hnodup : (told.map entries.name).Nodup) :
    Has (told.foldl entries.put state) entry ↔
      entry ∈ told ∨ (entries.name entry ∉ told.map entries.name ∧ Has state entry) := by
  induction told generalizing state with
  | nil => simp
  | cons first told ih =>
    rw [List.map_cons, List.nodup_cons] at hnodup
    rw [List.foldl_cons, ih hnodup.2, hput, List.map_cons]
    constructor
    · intro h
      rcases h with hmem | ⟨hname, rfl | ⟨hne, hhas⟩⟩
      · exact Or.inl (List.mem_cons_of_mem _ hmem)
      · exact Or.inl List.mem_cons_self
      · exact Or.inr ⟨List.not_mem_cons_of_ne_of_not_mem hne.symm hname, hhas⟩
    · intro h
      rcases h with hmem | ⟨hname, hhas⟩
      · rcases List.mem_cons.1 hmem with rfl | hmem
        · exact Or.inr ⟨hnodup.1, Or.inl rfl⟩
        · exact Or.inl hmem
      · exact Or.inr ⟨List.not_mem_of_not_mem_cons hname,
          Or.inr ⟨(List.ne_of_not_mem_cons hname).symm, hhas⟩⟩

/-! ## Members -/

/-- A member that tells an entry fills its field, if that is not filled yet. -/
theorem step_of_tells {member : Member} (htells : entries.Tells member entry)
    (hfresh : entries.Fresh state entry) :
    record.step state member = .ok (entries.put state entry) := by
  obtain ⟨hspells, hsaid⟩ := htells
  obtain ⟨field, hfield, heq⟩ := List.mem_map.1 (entries.named entry)
  exact Record.step_eq hspells (entries.find_eq_some_iff.2 ⟨hfield, heq⟩) (hfresh field hfield heq)
    ((entries.decodes field hfield state).reads _ _ ⟨entry, heq.symm, hsaid, rfl⟩)

/-- **One member** of a closed record is read exactly if it tells an entry whose field is not
filled. -/
theorem step_eq_ok_iff (hclosed : record.isClosed = true) {member : Member}
    (hvalue : IsValue member.value) {next : σ} :
    record.step state member = .ok next ↔
      ∃ entry, entries.Tells member entry ∧ entries.Fresh state entry ∧
        next = entries.put state entry := by
  constructor
  · intro h
    obtain ⟨name, field, hspells, hfind, hempty, entry, hname, hsaid, hnext⟩ :=
      (Record.step_eq_ok_iff entries.decodes hclosed hvalue).1 h
    obtain ⟨hfield, rfl⟩ := entries.find_eq_some_iff.1 hfind
    refine ⟨entry, ⟨?_, hsaid⟩, ?_, hnext⟩
    · rw [hname]
      exact hspells
    · intro other hother hnames
      rw [List.inj_on_of_nodup_map entries.distinct hother hfield (hnames.trans hname)]
      exact hempty
  · intro h
    obtain ⟨entry, htells, hfresh, rfl⟩ := h
    exact entries.step_of_tells htells hfresh

/-- The entries are for different fields, none of which is filled yet. -/
def Fits (state : σ) (told : List ε) : Prop :=
  (told.map entries.name).Nodup ∧ ∀ entry ∈ told, entries.Fresh state entry

theorem fits_empty_iff {told : List ε} :
    entries.Fits record.empty told ↔ (told.map entries.name).Nodup :=
  and_iff_left fun entry _ => entries.fresh_empty entry

/-- The first entry fills its field, so the others are not for this one. -/
theorem fits_cons_iff {told : List ε} :
    entries.Fits state (entry :: told) ↔
      entries.Fresh state entry ∧ entries.Fits (entries.put state entry) told := by
  unfold Fits
  rw [List.map_cons, List.nodup_cons]
  constructor
  · intro h
    obtain ⟨⟨hname, hnodup⟩, hfresh⟩ := h
    refine ⟨hfresh entry List.mem_cons_self, hnodup, fun other hother => ?_⟩
    refine entries.fresh_put_iff.2 ⟨fun heq => ?_, hfresh other (List.mem_cons_of_mem _ hother)⟩
    exact hname (heq ▸ List.mem_map_of_mem hother)
  · intro h
    obtain ⟨hfirst, hnodup, hfresh⟩ := h
    refine ⟨⟨fun hmem => ?_, hnodup⟩, fun other hother => ?_⟩
    · obtain ⟨other, hother, hname⟩ := List.mem_map.1 hmem
      exact (entries.fresh_put_iff.1 (hfresh other hother)).1 hname.symm
    · rcases List.mem_cons.1 hother with rfl | hmem
      · exact hfirst
      · exact (entries.fresh_put_iff.1 (hfresh other hmem)).2

/-- The members tell these entries, each for a field of its own that is not filled before, and the
entries make of the state what it is in the end. -/
structure Told (state : σ) (members : List Member) (told : List ε) (final : σ) : Prop where
  tells : List.Forall₂ entries.Tells members told
  fits : entries.Fits state told
  puts : told.foldl entries.put state = final

/-- **The members** of a closed record are read exactly if they tell entries for different fields,
none of which is filled before. -/
theorem foldlM_step_eq_ok_iff (hclosed : record.isClosed = true) {members : List Member}
    (hvalues : ∀ member ∈ members, IsValue member.value) :
    members.foldlM record.step state = .ok final ↔
      ∃ told, entries.Told state members told final := by
  induction members generalizing state with
  | nil =>
    constructor
    · intro h
      obtain rfl := Except.ok.inj h
      exact ⟨[], .nil, ⟨List.nodup_nil, fun _ hentry => absurd hentry List.not_mem_nil⟩, rfl⟩
    · intro h
      obtain ⟨told, htells, -, hputs⟩ := h
      obtain rfl := List.forall₂_nil_left_iff.1 htells
      exact congrArg Except.ok hputs
  | cons member members ih =>
    have hvalue := hvalues member List.mem_cons_self
    have hothers : ∀ m ∈ members, IsValue m.value := fun m hm =>
      hvalues m (List.mem_cons_of_mem _ hm)
    rw [List.foldlM_cons]
    constructor
    · intro h
      cases hstep : record.step state member with
      | error problem =>
        rw [hstep] at h
        cases h
      | ok next =>
        rw [hstep] at h
        obtain ⟨entry, htells, hfresh, rfl⟩ := (entries.step_eq_ok_iff hclosed hvalue).1 hstep
        obtain ⟨told, htold⟩ := (ih hothers).1 h
        exact ⟨entry :: told, .cons htells htold.tells,
          entries.fits_cons_iff.2 ⟨hfresh, htold.fits⟩, htold.puts⟩
    · intro h
      obtain ⟨told, htells, hfits, hputs⟩ := h
      obtain ⟨entry, others, hfirst, hrest, rfl⟩ := List.forall₂_cons_left_iff.1 htells
      obtain ⟨hfresh, hfits⟩ := entries.fits_cons_iff.1 hfits
      rw [entries.step_of_tells hfirst hfresh]
      exact (ih hothers).2 ⟨others, hrest, hfits, hputs⟩

/-! ## Values at their places -/

include entries in
/-- What a member does that has the name of a field, the value does at the place of the field. -/
theorem step_eq_place {member : Member} {field : Field σ} (hfield : field ∈ record.fields)
    (hname : member.name.Spells field.name) (hempty : field.isFilled state = false)
    (hvalue : IsValue member.value) :
    record.step state member = Record.place state (field, member.value) :=
  Record.step_eq hname (entries.find_eq_some_iff.2 ⟨hfield, rfl⟩) hempty
    ((entries.decodes field hfield state).yields hvalue)

include entries in
/-- Filling a field does not fill another one. -/
theorem isFilled_place {field other : Field σ} (hfield : field ∈ record.fields)
    (hother : other ∈ record.fields) (hne : field.name ≠ other.name) {text : List Char}
    (hvalue : IsValue text) {next : σ} (hplace : Record.place state (field, text) = .ok next) :
    other.isFilled next = other.isFilled state := by
  obtain ⟨entry, hname, _, rfl⟩ :=
    ((entries.decodes field hfield state).outcome_eq_ok_iff hvalue).1 hplace
  rw [entries.isFilled_put other hother, hname, beq_eq_false_iff_ne.2 hne, Bool.false_or]

include entries in
theorem foldlM_step_eq_foldlM_place {members : List Member} {fields : List (Field σ)}
    (hnames : List.Forall₂ (fun member field => member.name.Spells field.name) members fields)
    (hvalues : ∀ member ∈ members, IsValue member.value)
    (hfields : ∀ field ∈ fields, field ∈ record.fields) (hdistinct : (fields.map Field.name).Nodup)
    (hempty : ∀ field ∈ fields, field.isFilled state = false) (others : List (Field σ)) :
    members.foldlM record.step state =
      ((fields ++ others).zip (members.map (·.value))).foldlM Record.place state := by
  induction hnames generalizing state with
  | nil =>
    rw [List.map_nil, List.zip_nil_right]
    rfl
  | @cons member field members fields hname hnames ih =>
    have hfield := hfields field List.mem_cons_self
    have hvalue := hvalues member List.mem_cons_self
    rw [List.map_cons, List.nodup_cons] at hdistinct
    rw [List.foldlM_cons, List.map_cons, List.cons_append, List.zip_cons_cons, List.foldlM_cons,
      entries.step_eq_place hfield hname (hempty field List.mem_cons_self) hvalue]
    cases hplace : Record.place state (field, member.value) with
    | error problem => rfl
    | ok next =>
      refine ih (fun m hm => hvalues m (List.mem_cons_of_mem _ hm))
        (fun f hf => hfields f (List.mem_cons_of_mem _ hf)) hdistinct.2 ?_
      intro other hother
      have hne : field.name ≠ other.name := fun heq =>
        hdistinct.1 (heq ▸ List.mem_map_of_mem hother)
      rw [entries.isFilled_place hfield (hfields other (List.mem_cons_of_mem _ hother)) hne hvalue
        hplace]
      exact hempty other (List.mem_cons_of_mem _ hother)

/-! ## Whole texts -/

include entries in
/-- An object as a whole is read as what its members make of the empty state. -/
theorem run_objectText {members : List Member}
    (hvalues : ∀ member ∈ members, IsValue member.value) (lead blank trail : Blank) :
    record.reader.run (document lead (objectText blank members) trail) =
      (members.foldlM record.step record.empty).bind record.ofMembers := by
  have htakes : ∀ member ∈ members, record.Takes member := fun member hmember =>
    Record.takes entries.decodes (hvalues member hmember)
  exact Record.run_document (Record.reader_objectText htakes lead blank trail.chars)

/-- **An object as a whole** is read as a closed record exactly if its members tell entries for
different fields that make a value. -/
theorem run_objectText_eq_ok_iff (hclosed : record.isClosed = true) {members : List Member}
    (hvalues : ∀ member ∈ members, IsValue member.value) (lead blank trail : Blank) {value : α} :
    record.reader.run (document lead (objectText blank members) trail) = .ok value ↔
      ∃ told, List.Forall₂ entries.Tells members told ∧ (told.map entries.name).Nodup ∧
        record.ofMembers (told.foldl entries.put record.empty) = .ok value := by
  rw [entries.run_objectText hvalues]
  constructor
  · intro h
    cases hfold : members.foldlM record.step record.empty with
    | error problem =>
      rw [hfold] at h
      cases h
    | ok final =>
      rw [hfold] at h
      obtain ⟨told, htold⟩ := (entries.foldlM_step_eq_ok_iff hclosed hvalues).1 hfold
      refine ⟨told, htold.tells, htold.fits.1, ?_⟩
      rw [htold.puts]
      exact h
  · intro h
    obtain ⟨told, htold, hnodup, hvalue⟩ := h
    have hfold := (entries.foldlM_step_eq_ok_iff hclosed hvalues).2
      ⟨told, htold, entries.fits_empty_iff.2 hnodup, rfl⟩
    rw [hfold]
    exact hvalue

include entries in
/-- **A list as a whole** gives what the object gives whose members have the same values and the
names of the first fields. -/
theorem run_listText_eq {members : List Member} {items : List Item} {count : Nat}
    (hvalues : ∀ member ∈ members, IsValue member.value)
    (hsame : items.map Item.value = members.map (·.value))
    (hnames : List.Forall₂ (fun member field => member.name.Spells field.name) members
      (record.fields.take count))
    (hmakes : record.ofItems = record.ofMembers) (lead blank trail lead' blank' trail' : Blank) :
    record.reader.run (document lead (listText blank items) trail) =
      record.reader.run (document lead' (objectText blank' members) trail') := by
  have hitems : ∀ item ∈ items, IsValue item.value := by
    intro item hitem
    have hmem : item.value ∈ members.map (·.value) := hsame ▸ List.mem_map_of_mem hitem
    obtain ⟨member, hmember, heq⟩ := List.mem_map.1 hmem
    exact heq ▸ hvalues member hmember
  have hlength : members.length = (record.fields.take count).length := hnames.length_eq
  have hcount : items.length = members.length := by
    simpa using congrArg List.length hsame
  have hfits : items.length ≤ record.fields.length := by
    rw [hcount, hlength, List.length_take]
    exact Nat.min_le_right _ _
  have hfold := entries.foldlM_step_eq_foldlM_place hnames hvalues
    (fun field hfield => List.mem_of_mem_take hfield)
    (entries.distinct.sublist ((List.take_sublist _ _).map _))
    (fun field hfield => entries.empty field (List.mem_of_mem_take hfield))
    (record.fields.drop count)
  rw [List.take_append_drop] at hfold
  rw [Record.run_document (Record.reader_listText hitems entries.decodes hfits lead blank _),
    entries.run_objectText hvalues, hsame, ← hfold, hmakes]

end Entries

end LatestTag.Json
