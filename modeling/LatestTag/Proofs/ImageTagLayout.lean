import LatestTag.ImageTag
import LatestTag.Proofs.OpenRecords
import LatestTag.Proofs.ReadBack
import LatestTag.Proofs.TimestampText

/-!
# Tags are read from their three members, whatever else there is

Registries say more about a tag than this library wants to know. A tag is read from the members
`tag`, `sha` and `timestamp`, in any order, and every other member is skipped, whatever its name and
however its value nests:

> `read_among_others`: an object with a tag and a timestamp is read as what the members of these
> names say, the same as without the others; without a tag or a timestamp, or with a name that comes
> again, it does not suit.
-/

namespace LatestTag.ImageTag

open Json (Blank Member Problem Reader Decodes SaysString IsValue)

/-! ## Entries -/

/-- What a member says about a tag. -/
inductive Entry where
  | tag (text : String)
  | sha (text : String)
  | timestamp (time : Timestamp)
deriving DecidableEq

/-- The name of the member. -/
def Entry.name : Entry → String
  | tag _ => "tag"
  | sha _ => "sha"
  | timestamp _ => "timestamp"

/-- The value is a string for a text of the time. -/
def SaysTime (text : List Char) (time : Timestamp) : Prop :=
  ∃ s, SaysString text s ∧ Timestamp.ofText? s = some time

/-- The value of the member says it. -/
def Entry.Says : Entry → List Char → Prop
  | tag s, text => SaysString text s
  | sha s, text => SaysString text s
  | timestamp time, text => SaysTime text time

/-- The members with an entry among them. -/
def Members.put (members : Members) : Entry → Members
  | .tag text => { members with tag := some text }
  | .sha text => { members with sha := some text }
  | .timestamp time => { members with timestamp := some time }

/-- The time that a text is, or what is wrong with it. -/
def timeOf (s : String) : Except Problem Timestamp :=
  match Timestamp.ofText? s with
  | some time => .ok time
  | none => .error .unreadable

theorem timeOf_eq_ok_iff {s : String} {time : Timestamp} :
    timeOf s = .ok time ↔ Timestamp.ofText? s = some time := by
  unfold timeOf
  cases Timestamp.ofText? s <;> simp

/-- A time is read from a string for a text of it, and from nothing else. -/
theorem decodes_timestamp : Decodes readTimestamp SaysTime := by
  have hbind : Decodes readTimestamp fun text time =>
      ∃ s, SaysString text s ∧ timeOf s = .ok time := by
    refine (Json.decodes_string "an RFC 3339 formatted date and time string").bind fun s ahead => ?_
    unfold timeOf
    cases Timestamp.ofText? s with
    | some time => rfl
    | none => rfl
  exact hbind.congr fun text time => exists_congr fun s => and_congr_right' timeOf_eq_ok_iff

/-- Every field is filled with the entries of its name. -/
theorem decodes_fill {field : Json.Field Members} (hfield : field ∈ record.fields)
    (members : Members) : Decodes (field.fill members) fun text next =>
      ∃ entry : Entry, entry.name = field.name ∧ entry.Says text ∧ next = members.put entry := by
  simp only [record, List.mem_cons, List.not_mem_nil, or_false] at hfield
  rcases hfield with rfl | rfl | rfl
  · refine (Json.decodes_string "a string").fill .tag Entry.Says members.put (fun entry => ?_)
      (fun _ _ => Iff.rfl)
    cases entry <;> simp [Entry.name]
  · refine (Json.decodes_string "a string").fill .sha Entry.Says members.put (fun entry => ?_)
      (fun _ _ => Iff.rfl)
    cases entry <;> simp [Entry.name]
  · refine decodes_timestamp.fill .timestamp Entry.Says members.put (fun entry => ?_)
      (fun _ _ => Iff.rfl)
    cases entry <;> simp [Entry.name]

/-- Tags are filled by entries. -/
def entries : Json.Entries record Entry where
  name := Entry.name
  Says := Entry.Says
  put := Members.put
  decodes := fun _ hfield members => decodes_fill hfield members
  named := by
    intro entry
    cases entry <;> simp [Entry.name, record]
  distinct := by decide
  empty := by
    intro field hfield
    simp only [record, List.mem_cons, List.not_mem_nil, or_false] at hfield
    rcases hfield with rfl | rfl | rfl <;> rfl
  isFilled_put := by
    intro field hfield members entry
    simp only [record, List.mem_cons, List.not_mem_nil, or_false] at hfield
    rcases hfield with rfl | rfl | rfl <;> cases entry <;> rfl

/-- What says an entry is a string. -/
theorem Entry.Says.isValue {entry : Entry} {text : List Char} (h : entry.Says text) :
    IsValue text := by
  have hstring {s : String} (h : SaysString text s) : IsValue text := by
    obtain ⟨literal, rfl, -⟩ := h
    exact .string literal
  cases entry with
  | tag s => exact hstring h
  | sha s => exact hstring h
  | timestamp time =>
    obtain ⟨s, hs, -⟩ := h
    exact hstring hs

theorem isValue_of_sifts {members own : List Member} {told : List Entry}
    (h : entries.Sifts members own told) : ∀ member ∈ members, IsValue member.value := by
  induction h with
  | nil => exact fun member hmember => absurd hmember List.not_mem_nil
  | own htells _ ih => exact List.forall_mem_cons.2 ⟨Entry.Says.isValue htells.2, ih⟩
  | other hother _ ih => exact List.forall_mem_cons.2 ⟨hother.1, ih⟩

/-! ## What the entries come to -/

/-- The tag has what the entries say; without an entry for it the digest is empty. -/
structure Holds (tag : ImageTag) (told : List Entry) : Prop where
  hasTag : .tag tag.tag ∈ told
  hasTimestamp : .timestamp tag.timestamp ∈ told
  hasSha : .sha tag.sha ∈ told ∨ tag.sha = "" ∧ "sha" ∉ told.map Entry.name

section Told

variable {told : List Entry}

/-- The entries of a name are of its kind. -/
theorem mem_names_iff {name : String} :
    name ∈ told.map Entry.name ↔
      (∃ text, .tag text ∈ told ∧ name = "tag") ∨ (∃ text, .sha text ∈ told ∧ name = "sha") ∨
        ∃ time, .timestamp time ∈ told ∧ name = "timestamp" := by
  constructor
  · intro h
    obtain ⟨entry, hentry, rfl⟩ := List.mem_map.1 h
    cases entry with
    | tag text => exact .inl ⟨text, hentry, rfl⟩
    | sha text => exact .inr (.inl ⟨text, hentry, rfl⟩)
    | timestamp time => exact .inr (.inr ⟨time, hentry, rfl⟩)
  · rintro (⟨text, hentry, rfl⟩ | ⟨text, hentry, rfl⟩ | ⟨time, hentry, rfl⟩)
    · exact List.mem_map_of_mem hentry
    · exact List.mem_map_of_mem hentry
    · exact List.mem_map_of_mem hentry

theorem exists_tag_iff : "tag" ∈ told.map Entry.name ↔ ∃ text, .tag text ∈ told := by
  simp [mem_names_iff]

theorem exists_sha_iff : "sha" ∈ told.map Entry.name ↔ ∃ text, .sha text ∈ told := by
  simp [mem_names_iff]

theorem exists_timestamp_iff :
    "timestamp" ∈ told.map Entry.name ↔ ∃ time, .timestamp time ∈ told := by
  simp [mem_names_iff]

/-- Entries for a tag and a timestamp come to some tag. -/
theorem exists_holds (htag : "tag" ∈ told.map Entry.name)
    (htimestamp : "timestamp" ∈ told.map Entry.name) : ∃ tag : ImageTag, tag.Holds told := by
  obtain ⟨text, htag⟩ := exists_tag_iff.1 htag
  obtain ⟨time, htimestamp⟩ := exists_timestamp_iff.1 htimestamp
  by_cases hsha : "sha" ∈ told.map Entry.name
  · obtain ⟨sha, hsha⟩ := exists_sha_iff.1 hsha
    exact ⟨⟨text, sha, time⟩, htag, htimestamp, .inl hsha⟩
  · exact ⟨⟨text, "", time⟩, htag, htimestamp, .inr ⟨rfl, hsha⟩⟩

/-- The entry is what the members say about its name. -/
def Members.Has (members : Members) : Entry → Prop
  | .tag text => members.tag = some text
  | .sha text => members.sha = some text
  | .timestamp time => members.timestamp = some time

theorem Members.has_put_iff {members : Members} {entry other : Entry} :
    (members.put entry).Has other ↔
      entry = other ∨ (entry.name ≠ other.name ∧ members.Has other) := by
  cases entry <;> cases other <;> simp [put, Has, Entry.name]

variable (hnodup : (told.map Entry.name).Nodup)
include hnodup

theorem has_told_iff {entry : Entry} : (told.foldl Members.put {}).Has entry ↔ entry ∈ told := by
  rw [show Members.put = entries.put from rfl,
    entries.has_foldl_put_iff (fun _ _ _ => Members.has_put_iff) hnodup]
  cases entry <;> simp [Members.Has]

/-- **Entries for different fields** come to the tag of which they hold. -/
theorem ofMembers_told {tag : ImageTag} (h : tag.Holds told) :
    record.ofMembers (told.foldl Members.put {}) = .ok tag := by
  have htag : (told.foldl Members.put {}).tag = some tag.tag := (has_told_iff hnodup).2 h.hasTag
  have htimestamp : (told.foldl Members.put {}).timestamp = some tag.timestamp :=
    (has_told_iff hnodup).2 h.hasTimestamp
  have hsha : (told.foldl Members.put {}).sha.getD "" = tag.sha := by
    rcases h.hasSha with hsome | ⟨hempty, hnot⟩
    · have hsome : (told.foldl Members.put {}).sha = some tag.sha := (has_told_iff hnodup).2 hsome
      rw [hsome, Option.getD_some]
    · have hnone : (told.foldl Members.put {}).sha = none := by
        refine Option.eq_none_iff_forall_ne_some.2 fun text hsome => ?_
        exact hnot (exists_sha_iff.2 ⟨text, (has_told_iff hnodup).1 hsome⟩)
      rw [hnone, Option.getD_none, hempty]
  simp only [record, Members.imageTag, htag, htimestamp, hsha]

/-- Without a tag or a timestamp the entries come to nothing. -/
theorem ofMembers_told_of_missing
    (h : "tag" ∉ told.map Entry.name ∨ "timestamp" ∉ told.map Entry.name) :
    ∃ name, record.ofMembers (told.foldl Members.put {}) =
      .error (.unsuitable ("missing field `" ++ name ++ "`")) := by
  simp only [record]
  unfold Members.imageTag
  split
  · exact ⟨"tag", rfl⟩
  · exact ⟨"timestamp", rfl⟩
  · next text time htag htimestamp =>
    have htag : Entry.tag text ∈ told := (has_told_iff hnodup).1 htag
    have htimestamp : Entry.timestamp time ∈ told := (has_told_iff hnodup).1 htimestamp
    rcases h with hnot | hnot
    · exact absurd (exists_tag_iff.2 ⟨text, htag⟩) hnot
    · exact absurd (exists_timestamp_iff.2 ⟨time, htimestamp⟩) hnot

end Told

/-! ## Whole texts -/

/-- **A tag is read from its members, whatever others there are.** The members tell entries, with
others before, between and after them. If no name comes twice and there are a tag and a timestamp,
the tag with what they say is read, from any layout, with the others and without them; else the text
does not suit, and neither does it if a name comes again after these members, with any value. -/
theorem read_among_others {members own : List Member} {told : List Entry}
    (h : entries.Sifts members own told) :
    ((told.map Entry.name).Nodup → "tag" ∈ told.map Entry.name →
      "timestamp" ∈ told.map Entry.name → ∃ tag : ImageTag, tag.Holds told ∧
        ∀ lead blank trail lead' blank' trail' : Blank,
          ofJson (Json.document lead (Json.objectText blank members) trail) = .ok tag ∧
          ofJson (Json.document lead' (Json.objectText blank' own) trail') = .ok tag) ∧
    (¬ (told.map Entry.name).Nodup ∨ "tag" ∉ told.map Entry.name ∨
        "timestamp" ∉ told.map Entry.name →
      ∀ lead blank trail : Blank, ∃ message,
        ofJson (Json.document lead (Json.objectText blank members) trail) =
          .error (.unsuitable message)) ∧
    ∀ (name : String) (member : Member) (after : List Member), name ∈ told.map Entry.name →
      member.name.Spells name → (∀ m ∈ member :: after, IsValue m.value) →
      ∀ lead blank trail : Blank, ∃ message,
        ofJson (Json.document lead (Json.objectText blank (members ++ member :: after)) trail) =
          .error (.unsuitable message) := by
  have hvalues := isValue_of_sifts h
  refine ⟨fun hnodup htag htimestamp => ?_, fun hbad lead blank trail => ?_, ?_⟩
  · obtain ⟨tag, hholds⟩ := exists_holds htag htimestamp
    have hmade := ofMembers_told hnodup hholds
    refine ⟨tag, hholds, fun lead blank trail lead' blank' trail' => ⟨?_, ?_⟩⟩
    · exact (entries.run_of_sifts rfl h lead blank trail hvalues hnodup).trans hmade
    · exact (entries.run_of_sifts rfl h.self lead' blank' trail' (isValue_of_sifts h.self)
        hnodup).trans hmade
  · by_cases hnodup : (told.map Entry.name).Nodup
    · obtain ⟨name, hmade⟩ :=
        ofMembers_told_of_missing hnodup (hbad.resolve_left (not_not.2 hnodup))
      exact ⟨_, (entries.run_of_sifts rfl h lead blank trail hvalues hnodup).trans hmade⟩
    · obtain ⟨name, hread⟩ := entries.run_of_not_nodup rfl h lead blank trail hvalues hnodup
      exact ⟨_, hread⟩
  · intro name member after htold hname hafter lead blank trail
    have hall : ∀ m ∈ members ++ member :: after, IsValue m.value := fun m hm =>
      (List.mem_append.1 hm).elim (hvalues m) (hafter m)
    obtain ⟨again, hread⟩ := entries.run_of_repeated rfl h lead blank trail hall htold hname
    exact ⟨_, hread⟩

/-! ### A value that is hard to skip -/

/-- A member without space. -/
def memberOf (name : Json.StringLiteral) (value : List Char) : Member where
  front := .none
  name := name
  middle := .none
  before := .none
  value := value
  behind := .none

/-- The second letter of `tag` by its code point. -/
theorem spells_tag : Json.BodySpells "t\\u0061g".toList "tag".toList := by
  have hunit : Json.IsQuad '0' '0' '6' '1' 0x61 :=
    ⟨0, 0, 6, 1, ⟨by decide, Or.inl rfl⟩, ⟨by decide, Or.inl rfl⟩, ⟨by decide, Or.inl rfl⟩,
      ⟨by decide, Or.inl rfl⟩, rfl⟩
  have hend : Json.BodySpells "g".toList "g".toList := .plain (by decide) .nil
  exact .plain (by decide) (.unit hunit (by decide) (by decide) hend)

/-- Half of a surrogate pair, a quote with a backslash, and the ends of a list and an object. -/
def halfPair : Json.StringLiteral where
  body := "\\ud800\\\"]\x7d".toList
  isBody := by
    have hunit : Json.IsQuad 'd' '8' '0' '0' 0xd800 :=
      ⟨13, 8, 0, 0, ⟨by decide, Or.inl rfl⟩, ⟨by decide, Or.inl rfl⟩, ⟨by decide, Or.inl rfl⟩,
        ⟨by decide, Or.inl rfl⟩, rfl⟩
    have hend : Json.IsBody "]\x7d".toList := .plain (by decide) (.plain (by decide) .nil)
    exact .unit hunit (.escape (show Json.IsEscape '"' '"' by simp [Json.IsEscape]) hend)

/-- A number that no floating number is as large as. -/
def hugeNumber : Json.NumberLiteral where
  isNegative := true
  whole := ['1']
  isInteger := ⟨⟨by simp, by simp⟩, fun rest h => by cases h⟩
  fraction := ['5']
  isFraction := by simp
  exponent? := some ⟨'E', .inr rfl, ['+'], .inr (.inl rfl), ['9', '9', '9'], by simp, by simp⟩

/-- A list of the number, the string and an object with a member of a name that matters. -/
def nested : List Char :=
  Json.listText .none [⟨.none, hugeNumber.text, .none⟩, ⟨.none, halfPair.text, .none⟩,
    ⟨.none, Json.objectText .none [memberOf (.ofSpells spells_tag) "null".toList], .none⟩]

theorem isValue_nested : IsValue nested := by
  refine .list .none fun item hitem => ?_
  simp only [List.mem_cons, List.not_mem_nil, or_false] at hitem
  rcases hitem with rfl | rfl | rfl
  · exact .number hugeNumber
  · exact .string halfPair
  · refine .object .none fun member hmember => ?_
    obtain rfl := List.mem_singleton.1 hmember
    exact .null

def nestedMember : Member := memberOf (Json.written "layers") nested

theorem isOther_nestedMember : Json.Entries.IsOther record nestedMember :=
  ⟨isValue_nested, "layers", Json.written_spells "layers", by decide⟩

def tagMember : Member := memberOf (.ofSpells spells_tag) (Json.writeString "1.0").toList

theorem tells_tagMember : entries.Tells tagMember (.tag "1.0") :=
  ⟨spells_tag, Json.saysString_writeString "1.0"⟩

/-- The start of the calendar that timestamps go by. -/
def epoch : Timestamp := ⟨0, 0⟩

def timestampMember : Member :=
  memberOf (Json.written "timestamp") (Json.writeString epoch.text).toList

theorem tells_timestampMember : entries.Tells timestampMember (.timestamp epoch) :=
  ⟨Json.written_spells "timestamp", epoch.text, Json.saysString_writeString epoch.text,
    Timestamp.ofText?_text (by decide)⟩

/-- The nested member twice, around the tag. -/
def nestedText : String :=
  "\x7b\"layers\":[-1.5E+999,\"\\ud800\\\"]\x7d\",\x7b\"t\\u0061g\":null\x7d],"
    ++ "\"t\\u0061g\":\"1.0\","
    ++ "\"layers\":[-1.5E+999,\"\\ud800\\\"]\x7d\",\x7b\"t\\u0061g\":null\x7d],"
    ++ "\"timestamp\":\"1970-01-01T00:00:00Z\"\x7d"

/-- The tag is read behind the nested member and before it; a second tag of no kind that suits is
refused, and so is an object with the nested member only. -/
theorem read_among_others_of_nested :
    let members := [nestedMember, tagMember, nestedMember, timestampMember]
    let again := memberOf (Json.written "tag") nested
    entries.Sifts members [tagMember, timestampMember] [.tag "1.0", .timestamp epoch] ∧
    ofJson nestedText = .ok ⟨"1.0", "", epoch⟩ ∧
    (∃ message, ofJson (Json.document .none (Json.objectText .none (members ++ [again])) .none) =
      .error (.unsuitable message)) ∧
    ∃ message, ofJson (Json.document .none (Json.objectText .none [nestedMember]) .none) =
      .error (.unsuitable message) := by
  intro members again
  have hsifts : entries.Sifts members [tagMember, timestampMember]
      [.tag "1.0", .timestamp epoch] :=
    .other isOther_nestedMember (.own tells_tagMember
      (.other isOther_nestedMember (.own tells_timestampMember .nil)))
  have htext : Json.document .none (Json.objectText .none members) .none = nestedText := by
    decide +kernel
  obtain ⟨hread, -, hagain⟩ := read_among_others hsifts
  obtain ⟨-, hmissing, -⟩ := read_among_others (.other isOther_nestedMember .nil)
  refine ⟨hsifts, ?_, ?_, hmissing (.inr (.inl (by decide))) .none .none .none⟩
  · obtain ⟨tag, hholds, hok⟩ := hread (by decide) (by decide) (by decide)
    have htag : tag = ⟨"1.0", "", epoch⟩ := by
      obtain ⟨htag, htimestamp, hsha⟩ := hholds
      cases tag
      simp_all [Entry.name]
    rw [← htext, ← htag]
    exact (hok .none .none .none .none .none .none).1
  · refine hagain "tag" again [] (by decide) (Json.written_spells "tag") ?_ .none .none .none
    exact List.forall_mem_singleton.2 isValue_nested

end LatestTag.ImageTag
