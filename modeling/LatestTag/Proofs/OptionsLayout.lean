import LatestTag.Json.Options
import LatestTag.Proofs.ReadBack
import LatestTag.Proofs.RecordEntries
import Mathlib.Data.List.Perm.Basic

/-!
# Options are read from objects in any order and layout

An `Entry` is one thing that the JSON text of options can say: a name together with a value that
suits it. Options are read from an object exactly if its members say different things, whatever the
order of the members, the escapes in names and strings, and the space between tokens; what no member
names has its default (`Holds`).
-/

namespace LatestTag.Options

open Json (Blank Item Member Problem Reader Decodes SaysBool SaysNat SaysString SaysOption IsValue)

/-! ## Entries -/

/-- What a member says about options. -/
inductive Entry where
  | useSha (enabled : Bool)
  | usePreRelease (enabled : Bool)
  | pinMajor (version? : Option UInt64)
  | pinMinor (version? : Option UInt64)
  | pinPatch (version? : Option UInt64)
  | regexMatcher (pattern? : Option TagPattern)
deriving DecidableEq

/-- The name of the member. -/
def Entry.name : Entry → String
  | useSha _ => "useSha"
  | usePreRelease _ => "usePreRelease"
  | pinMajor _ => "pinMajor"
  | pinMinor _ => "pinMinor"
  | pinPatch _ => "pinPatch"
  | regexMatcher _ => "regexMatcher"

/-- The value is a string for the text of the pattern. -/
def SaysPattern (text : List Char) (pattern : TagPattern) : Prop := SaysString text pattern.source

/-- The value of the member says it. -/
def Entry.Says : Entry → List Char → Prop
  | useSha enabled, text => SaysBool text enabled
  | usePreRelease enabled, text => SaysBool text enabled
  | pinMajor version?, text => SaysOption SaysNat text version?
  | pinMinor version?, text => SaysOption SaysNat text version?
  | pinPatch version?, text => SaysOption SaysNat text version?
  | regexMatcher pattern?, text => SaysOption SaysPattern text pattern?

/-- The members with an entry among them. -/
def Members.put (members : Members) : Entry → Members
  | .useSha enabled => { members with useSha := some enabled }
  | .usePreRelease enabled => { members with usePreRelease := some enabled }
  | .pinMajor version? => { members with pinMajor := some version? }
  | .pinMinor version? => { members with pinMinor := some version? }
  | .pinPatch version? => { members with pinPatch := some version? }
  | .regexMatcher pattern? => { members with regexMatcher := some pattern? }

/-- The pattern that a text is, or what is wrong with it. -/
def patternOf (source : String) : Except Problem TagPattern :=
  match TagPattern.ofText? source with
  | some pattern => .ok pattern
  | none => .error (.unsuitable (InvalidPattern.message ⟨source⟩))

theorem patternOf_eq_ok_iff {source : String} {pattern : TagPattern} :
    patternOf source = .ok pattern ↔ source = pattern.source := by
  constructor
  · intro h
    unfold patternOf TagPattern.ofText? at h
    split at h
    next found heq =>
      split at heq
      next expr hcompiled =>
        obtain rfl := Option.some.inj heq
        obtain rfl := Except.ok.inj h
        rfl
      next => cases heq
    next => cases h
  · intro h
    unfold patternOf
    rw [h, TagPattern.ofText?_source]

/-- A pattern is read from a string for its text, and from nothing else. -/
theorem decodes_pattern : Decodes readPattern SaysPattern := by
  have hbind : Decodes readPattern fun text pattern =>
      ∃ source, SaysString text source ∧ patternOf source = .ok pattern := by
    refine (Json.decodes_string "a string").bind fun source ahead => ?_
    unfold patternOf
    cases TagPattern.ofText? source with
    | some pattern => rfl
    | none => rfl
  refine hbind.congr fun text pattern => ?_
  constructor
  · intro h
    obtain ⟨source, hsaid, hsource⟩ := h
    obtain rfl := patternOf_eq_ok_iff.1 hsource
    exact hsaid
  · intro hsaid
    exact ⟨pattern.source, hsaid, patternOf_eq_ok_iff.2 rfl⟩

theorem decodes_pin : Decodes (Reader.option Reader.uint64) (SaysOption SaysNat) :=
  Json.decodes_option Json.decodes_uint64 Json.neverNull_saysNat

theorem decodes_pattern? : Decodes (Reader.option readPattern) (SaysOption SaysPattern) :=
  Json.decodes_option decodes_pattern fun text pattern =>
    Json.neverNull_saysString text pattern.source

/-- Every field is filled with the entries of its name. -/
theorem decodes_fill {field : Json.Field Members} (hfield : field ∈ record.fields)
    (members : Members) : Decodes (field.fill members) fun text next =>
      ∃ entry : Entry, entry.name = field.name ∧ entry.Says text ∧ next = members.put entry := by
  simp only [record, List.mem_cons, List.not_mem_nil, or_false] at hfield
  rcases hfield with rfl | rfl | rfl | rfl | rfl | rfl
  · refine Json.decodes_bool.fill .useSha Entry.Says members.put (fun entry => ?_)
      (fun _ _ => Iff.rfl)
    cases entry <;> simp [Entry.name]
  · refine Json.decodes_bool.fill .usePreRelease Entry.Says members.put (fun entry => ?_)
      (fun _ _ => Iff.rfl)
    cases entry <;> simp [Entry.name]
  · refine decodes_pin.fill .pinMajor Entry.Says members.put (fun entry => ?_)
      (fun _ _ => Iff.rfl)
    cases entry <;> simp [Entry.name]
  · refine decodes_pin.fill .pinMinor Entry.Says members.put (fun entry => ?_)
      (fun _ _ => Iff.rfl)
    cases entry <;> simp [Entry.name]
  · refine decodes_pin.fill .pinPatch Entry.Says members.put (fun entry => ?_)
      (fun _ _ => Iff.rfl)
    cases entry <;> simp [Entry.name]
  · refine decodes_pattern?.fill .regexMatcher Entry.Says members.put (fun entry => ?_)
      (fun _ _ => Iff.rfl)
    cases entry <;> simp [Entry.name]

/-- Options are filled by entries. -/
def entries : Json.Entries record Entry where
  name := Entry.name
  Says := Entry.Says
  put := Members.put
  decodes := fun _ hfield members => decodes_fill hfield members
  named := by
    intro entry
    cases entry <;> simp [Entry.name, record]
  distinct := by decide
  empty := by
    intro field hfield
    simp only [record, List.mem_cons, List.not_mem_nil, or_false] at hfield
    rcases hfield with rfl | rfl | rfl | rfl | rfl | rfl <;> rfl
  isFilled_put := by
    intro field hfield members entry
    simp only [record, List.mem_cons, List.not_mem_nil, or_false] at hfield
    rcases hfield with rfl | rfl | rfl | rfl | rfl | rfl <;> cases entry <;> rfl

/-! ## What the entries come to -/

/-- The entry is what the members say about its name. -/
def Members.Has (members : Members) : Entry → Prop
  | .useSha enabled => members.useSha = some enabled
  | .usePreRelease enabled => members.usePreRelease = some enabled
  | .pinMajor version? => members.pinMajor = some version?
  | .pinMinor version? => members.pinMinor = some version?
  | .pinPatch version? => members.pinPatch = some version?
  | .regexMatcher pattern? => members.regexMatcher = some pattern?

theorem Members.has_put_iff {members : Members} {entry other : Entry} :
    (members.put entry).Has other ↔
      entry = other ∨ (entry.name ≠ other.name ∧ members.Has other) := by
  cases entry <;> cases other <;> simp [put, Has, Entry.name]

/-- The options have what the entries say, and their defaults where no entry says anything. -/
structure Holds (options : Options) (told : List Entry) : Prop where
  useSha : options.useSha = true ↔ .useSha true ∈ told
  usePreRelease : options.usePreRelease = true ↔ .usePreRelease true ∈ told
  pinMajor : ∀ version, options.pinMajor = some version ↔ .pinMajor (some version) ∈ told
  pinMinor : ∀ version, options.pinMinor = some version ↔ .pinMinor (some version) ∈ told
  pinPatch : ∀ version, options.pinPatch = some version ↔ .pinPatch (some version) ∈ told
  pattern : ∀ pattern, options.pattern = some pattern ↔ .regexMatcher (some pattern) ∈ told

/-- **Entries with different names** hold of the options that they come to. -/
theorem holds_options {told : List Entry} (hnodup : (told.map Entry.name).Nodup) :
    (told.foldl Members.put {}).options.Holds told := by
  have hhas (entry : Entry) : (told.foldl Members.put {}).Has entry ↔ entry ∈ told := by
    rw [show Members.put = entries.put from rfl,
      entries.has_foldl_put_iff (fun _ _ _ => Members.has_put_iff) hnodup]
    cases entry <;> simp [Members.Has]
  generalize told.foldl Members.put {} = members at hhas
  have hflag (flag : Option Bool) : flag.getD false = true ↔ flag = some true := by
    cases flag <;> simp
  have hvalue {β : Type} (value : Option (Option β)) (x : β) :
      value.getD none = some x ↔ value = some (some x) := by
    cases value <;> simp
  exact {
    useSha := (hflag _).trans (hhas (.useSha true))
    usePreRelease := (hflag _).trans (hhas (.usePreRelease true))
    pinMajor := fun version => (hvalue _ version).trans (hhas (.pinMajor (some version)))
    pinMinor := fun version => (hvalue _ version).trans (hhas (.pinMinor (some version)))
    pinPatch := fun version => (hvalue _ version).trans (hhas (.pinPatch (some version)))
    pattern := fun pattern => (hvalue _ pattern).trans (hhas (.regexMatcher (some pattern))) }

/-- No other options have what the entries say. -/
theorem Holds.unique {options other : Options} {told : List Entry} (h : options.Holds told)
    (hother : other.Holds told) : options = other := by
  have hsha : options.useSha = other.useSha :=
    Bool.eq_iff_iff.2 (h.useSha.trans hother.useSha.symm)
  have hpre : options.usePreRelease = other.usePreRelease :=
    Bool.eq_iff_iff.2 (h.usePreRelease.trans hother.usePreRelease.symm)
  have hmajor : options.pinMajor = other.pinMajor :=
    Option.ext fun version => (h.pinMajor version).trans (hother.pinMajor version).symm
  have hminor : options.pinMinor = other.pinMinor :=
    Option.ext fun version => (h.pinMinor version).trans (hother.pinMinor version).symm
  have hpatch : options.pinPatch = other.pinPatch :=
    Option.ext fun version => (h.pinPatch version).trans (hother.pinPatch version).symm
  have hpattern : options.pattern = other.pattern :=
    Option.ext fun pattern => (h.pattern pattern).trans (hother.pattern pattern).symm
  cases options
  cases other
  simp_all

/-! ## Building options -/

/-- Settings that lead to the options. -/
def settings (options : Options) : List Setting :=
  [.useSha options.useSha, .usePreRelease options.usePreRelease]
    ++ options.pinMajor.toList.map .pinMajor ++ options.pinMinor.toList.map .pinMinor
    ++ options.pinPatch.toList.map .pinPatch
    ++ options.pattern.toList.map fun pattern => .pattern pattern.source

theorem ofSettings_settings (options : Options) :
    Draft.ofSettings options.settings =
      { options with pattern := options.pattern.map TagPattern.source } := by
  obtain ⟨useSha, usePreRelease, pinMajor, pinMinor, pinPatch, pattern⟩ := options
  cases pinMajor <;> cases pinMinor <;> cases pinPatch <;> cases pattern <;> rfl

theorem build_settings (options : Options) :
    (Draft.ofSettings options.settings).build = .ok options := by
  rw [ofSettings_settings]
  obtain ⟨useSha, usePreRelease, pinMajor, pinMinor, pinPatch, pattern⟩ := options
  cases pattern with
  | none => rfl
  | some pattern => simp only [Draft.build, Option.map_some, TagPattern.ofText?_source]

/-! ## Texts in any order and layout -/

/-- The names that members can have, in the order in which a list has their values. -/
def memberNames : List String :=
  ["useSha", "usePreRelease", "pinMajor", "pinMinor", "pinPatch", "regexMatcher"]

theorem Holds.perm {options : Options} {told other : List Entry} (h : options.Holds told)
    (hperm : told.Perm other) : options.Holds other where
  useSha := h.useSha.trans hperm.mem_iff
  usePreRelease := h.usePreRelease.trans hperm.mem_iff
  pinMajor := fun version => (h.pinMajor version).trans hperm.mem_iff
  pinMinor := fun version => (h.pinMinor version).trans hperm.mem_iff
  pinPatch := fun version => (h.pinPatch version).trans hperm.mem_iff
  pattern := fun pattern => (h.pattern pattern).trans hperm.mem_iff

/-- The options are what entries for different names say, each of them told by a member. -/
def ToldBy (options : Options) (members : List Member) : Prop :=
  ∃ told, List.Forall₂ entries.Tells members told ∧ (told.map Entry.name).Nodup ∧
    options.Holds told

theorem ToldBy.perm {options : Options} {members order : List Member}
    (h : options.ToldBy members) (hperm : order.Perm members) : options.ToldBy order := by
  obtain ⟨told, htold, hnodup, hholds⟩ := h
  obtain ⟨told', htold', hperm'⟩ := List.perm_comp_forall₂ hperm htold
  exact ⟨told', htold', (hperm'.map Entry.name).nodup_iff.2 hnodup, hholds.perm hperm'.symm⟩

/-- An object is read as the options that its members tell. -/
theorem ofJson_objectText_iff {members : List Member}
    (hvalues : ∀ member ∈ members, IsValue member.value) (lead blank trail : Blank)
    (options : Options) :
    ofJson (Json.document lead (Json.objectText blank members) trail) = .ok options ↔
      options.ToldBy members := by
  unfold ofJson ToldBy
  rw [entries.run_objectText_eq_ok_iff rfl hvalues]
  constructor
  · intro h
    obtain ⟨told, htold, hnodup, hoptions⟩ := h
    obtain rfl := Except.ok.inj hoptions
    exact ⟨told, htold, hnodup, holds_options hnodup⟩
  · intro h
    obtain ⟨told, htold, hnodup, hholds⟩ := h
    refine ⟨told, htold, hnodup, ?_⟩
    exact congrArg Except.ok ((holds_options hnodup).unique hholds)

/-- A list is read as the object that names its values. -/
theorem ofJson_listText_eq {members : List Member} {items : List Item} {count : Nat}
    (hvalues : ∀ member ∈ members, IsValue member.value)
    (hnames : List.Forall₂ (fun member name => member.name.Spells name) members
      (memberNames.take count))
    (hsame : items.map Item.value = members.map (·.value))
    (lead blank trail lead' blank' trail' : Blank) :
    ofJson (Json.document lead (Json.listText blank items) trail) =
      ofJson (Json.document lead' (Json.objectText blank' members) trail') := by
  have hfields : memberNames.take count = (record.fields.take count).map Json.Field.name := by
    rw [List.map_take]
    rfl
  rw [hfields] at hnames
  exact entries.run_listText_eq hvalues hsame (List.forall₂_map_right_iff.1 hnames) rfl
    lead blank trail lead' blank' trail'

/-- **Options are read strictly, in any order and layout.** Whatever the order of the members and
the space between tokens, an object is read exactly if its members say different things, and the
options have what they say and the defaults for the rest. A list of values is read as the object
with these values under the first names. Whatever text options are read from, they can be built. -/
theorem read_in_any_layout {members : List Member}
    (hvalues : ∀ member ∈ members, IsValue member.value) :
    (∀ order, order.Perm members → ∀ (lead blank trail : Blank) (options : Options),
      ofJson (Json.document lead (Json.objectText blank order) trail) = .ok options ↔
        ∃ told : List Entry,
          List.Forall₂ (fun member entry => member.name.Spells entry.name ∧
            entry.Says member.value) members told ∧
          (told.map Entry.name).Nodup ∧ options.Holds told) ∧
    (∀ count, List.Forall₂ (fun member name => member.name.Spells name) members
        (memberNames.take count) →
      ∀ items : List Item, items.map Item.value = members.map (·.value) →
        ∀ lead blank trail lead' blank' trail' : Blank,
          ofJson (Json.document lead (Json.listText blank items) trail) =
            ofJson (Json.document lead' (Json.objectText blank' members) trail')) ∧
    ∀ text options, ofJson text = .ok options →
      ∃ settings, (Draft.ofSettings settings).build = .ok options := by
  refine ⟨?_, ?_, ?_⟩
  · intro order hperm lead blank trail options
    have hordered : ∀ member ∈ order, IsValue member.value := fun member hmember =>
      hvalues member (hperm.mem_iff.1 hmember)
    rw [ofJson_objectText_iff hordered]
    exact ⟨fun htold => htold.perm hperm.symm, fun htold => ToldBy.perm htold hperm⟩
  · intro count hnames items hsame lead blank trail lead' blank' trail'
    exact ofJson_listText_eq hvalues hnames hsame lead blank trail lead' blank' trail'
  · intro text options _
    exact ⟨options.settings, build_settings options⟩

/-! ### A name with an escape in it -/

/-- The fourth letter of `useSha` by its code point. -/
theorem spells_useSha : Json.BodySpells "use\\u0053ha".toList "useSha".toList := by
  have hunit : Json.IsQuad '0' '0' '5' '3' 0x53 :=
    ⟨0, 0, 5, 3, ⟨by decide, Or.inl rfl⟩, ⟨by decide, Or.inl rfl⟩, ⟨by decide, Or.inl rfl⟩,
      ⟨by decide, Or.inl rfl⟩, rfl⟩
  have hend : Json.BodySpells "ha".toList "ha".toList :=
    .plain (by decide) (.plain (by decide) .nil)
  have hescape : Json.BodySpells "\\u0053ha".toList "Sha".toList :=
    .unit hunit (by decide) (by decide) hend
  exact .plain (by decide) (.plain (by decide) (.plain (by decide) hescape))

/-- A space. -/
def space : Blank := ⟨[' '], fun _ hc => Or.inl (List.mem_singleton.1 hc)⟩

def escapedSha : Member where
  front := space
  name := .ofSpells spells_useSha
  middle := space
  before := .none
  value := "true".toList
  behind := .none

def spacedPreRelease : Member where
  front := .none
  name := Json.written "usePreRelease"
  middle := .none
  before := space
  value := "false".toList
  behind := .none

def largestPin : Member where
  front := .none
  name := Json.written "pinMajor"
  middle := .none
  before := .none
  value := (Json.writeNat 18446744073709551615).toList
  behind := space

theorem saysNat_largest : SaysNat largestPin.value 18446744073709551615 :=
  Json.saysNat_writeNat 18446744073709551615

theorem isValue_of_integer {digits : List Char} (h : Json.IsInteger digits) : IsValue digits := by
  have hvalue := IsValue.number ⟨false, digits, h, [], by simp, none⟩
  rw [show Json.NumberLiteral.text _ = digits ++ ([] ++ []) from rfl, List.append_nil,
    List.append_nil] at hvalue
  exact hvalue

/-- The members in another order. -/
def escapedText : String :=
  "\x7b\"pinMajor\":18446744073709551615 , \"use\\u0053ha\" :true,\"usePreRelease\": false\x7d "

/-- In any order and from a list, these members give what they say. -/
theorem read_in_any_layout_of_escape :
    (∀ member ∈ [escapedSha, spacedPreRelease, largestPin], IsValue member.value) ∧
    ofJson escapedText = .ok { useSha := true, pinMajor := some 18446744073709551615 } ∧
    ofJson "[true, false,18446744073709551615]" =
      .ok { useSha := true, pinMajor := some 18446744073709551615 } := by
  have hvalues : ∀ member ∈ [escapedSha, spacedPreRelease, largestPin], IsValue member.value := by
    intro member hmember
    simp only [List.mem_cons, List.not_mem_nil, or_false] at hmember
    rcases hmember with rfl | rfl | rfl
    · exact .true
    · exact .false
    · exact isValue_of_integer saysNat_largest.1
  obtain ⟨hobject, hlist, _⟩ := read_in_any_layout hvalues
  have hnames : List.Forall₂ (fun member name => member.name.Spells name)
      [escapedSha, spacedPreRelease, largestPin] (memberNames.take 3) :=
    .cons spells_useSha (.cons (Json.written_spells _) (.cons (Json.written_spells _) .nil))
  have htold : List.Forall₂ (fun member (entry : Entry) => member.name.Spells entry.name ∧
      entry.Says member.value) [escapedSha, spacedPreRelease, largestPin]
      [.useSha true, .usePreRelease false, .pinMajor (some 18446744073709551615)] :=
    .cons ⟨spells_useSha, rfl⟩ (.cons ⟨Json.written_spells _, rfl⟩
      (.cons ⟨Json.written_spells _, saysNat_largest⟩ .nil))
  have hholds : Holds { useSha := true, pinMajor := some 18446744073709551615 }
      [.useSha true, .usePreRelease false, .pinMajor (some 18446744073709551615)] := by
    constructor <;> simp [eq_comm]
  have hperm : List.Perm [largestPin, escapedSha, spacedPreRelease]
      [escapedSha, spacedPreRelease, largestPin] := (List.perm_append_singleton _ _).symm
  refine ⟨hvalues, ?_, ?_⟩
  · exact (hobject _ hperm .none .none space _).2 ⟨_, htold, by decide, hholds⟩
  · have hread := (hobject _ (.refl _) .none .none .none _).2 ⟨_, htold, by decide, hholds⟩
    rw [← hread]
    exact hlist 3 hnames [⟨.none, "true".toList, .none⟩, ⟨space, "false".toList, .none⟩,
      ⟨.none, largestPin.value, .none⟩] rfl .none .none .none .none .none .none

end LatestTag.Options
