import LatestTag.Json.Record
import LatestTag.Proofs.JsonSkipping
import Mathlib.Data.List.TakeWhile

/-!
# Records are read from objects in any layout

A record is read from an object by taking one member after another. What a member does to the state
does not depend on the text around it (`Record.Takes`), so the whole is a fold, however the text is
laid out:

> `reader_objectText`: an object gives what its members make of the empty state, taken in order.

All members with JSON values are taken, and it is a matter of the state and the member whether it
goes on. The field of that name has to be empty, and the value has to suit it; if there is none, an
open record skips the member (`member_core_of_other`) and a closed one does not go on
(`step_eq_ok_iff`).
-/

namespace LatestTag.Json

variable {σ α : Type} {record : Record σ α} {state next : σ}

/-! ## What a reader makes of a value -/

/-- What the reader makes of a text by itself. -/
def Reader.outcome (reader : Reader α) (text : List Char) : Except Problem α :=
  (reader text).map Prod.fst

theorem Reader.outcome_eq {reader : Reader α} {text : List Char} {outcome : Except Problem α}
    (h : ∀ tail, IsEnd tail → reader (text ++ tail) = outcome.map (·, tail)) :
    reader.outcome text = outcome := by
  have hread := h [] (fun c hc => by cases hc)
  rw [List.append_nil] at hread
  unfold Reader.outcome
  rw [hread]
  cases outcome with
  | ok value => rfl
  | error problem => rfl

theorem Yields.read {reader : Reader α} {text : List Char} {outcome : Except Problem α}
    (h : Yields reader text outcome) {tail : List Char} (htail : IsEnd tail) :
    reader (text ++ tail) = outcome.map (·, tail) := h .none tail htail

theorem Yields.outcome_eq {reader : Reader α} {text : List Char} {outcome : Except Problem α}
    (h : Yields reader text outcome) : reader.outcome text = outcome :=
  Reader.outcome_eq fun _ htail => h.read htail

section Decodes

variable {reader : Reader α} {Says : List Char → α → Prop} {text : List Char}

theorem Decodes.yields (h : Decodes reader Says) (hvalue : IsValue text) :
    Yields reader text (reader.outcome text) := by
  obtain ⟨outcome, hyields, _⟩ := h.settles text hvalue
  rw [hyields.outcome_eq]
  exact hyields

theorem Decodes.outcome_eq_ok_iff (h : Decodes reader Says) (hvalue : IsValue text) {value : α} :
    reader.outcome text = .ok value ↔ Says text value := by
  constructor
  · intro heq
    obtain ⟨outcome, hyields, hok⟩ := h.settles text hvalue
    rw [hyields.outcome_eq] at heq
    exact hok value heq
  · intro hsaid
    exact (h.reads text value hsaid).outcome_eq

end Decodes

/-! ## Members -/

namespace Record

/-- What the record makes of a member. -/
def step (record : Record σ α) (state : σ) (member : Member) : Except Problem σ :=
  (record.member state).outcome member.core

/-- What the record makes of a member does not depend on what follows it. -/
def Takes (record : Record σ α) (member : Member) : Prop :=
  ∀ state tail, IsEnd tail →
    record.member state (member.core ++ tail) = (record.step state member).map (·, tail)

theorem colon_blank (blank : Blank) (rest : List Char) :
    colon (blank.chars ++ ':' :: rest) = .ok ((), rest) := by
  unfold colon
  rw [Reader.bind_of_ok (Reader.peek_blank blank rfl rest), if_pos rfl]
  rfl

/-- A member of a field that is still empty is a value for it. -/
theorem member_of_find {text back ahead : List Char} {field : Field σ} {name : String}
    (hname : Reader.quoted text = .ok (name, back))
    (hfind : record.fields.find? (·.name == name) = some field)
    (hempty : field.isFilled state = false) (hcolon : colon back = .ok ((), ahead)) :
    record.member state text = field.fill state ahead := by
  rw [member, Reader.bind_of_ok hname, hfind]
  dsimp only
  rw [if_neg (ne_true_of_eq_false hempty), Reader.bind_of_ok hcolon]

theorem member_core {member : Member} {field : Field σ} {name : String}
    (hname : member.name.Spells name) (hfind : record.fields.find? (·.name == name) = some field)
    (hempty : field.isFilled state = false) {outcome : Except Problem σ}
    (hyields : Yields (field.fill state) member.value outcome) {tail : List Char}
    (htail : IsEnd tail) :
    record.member state (member.core ++ tail) = outcome.map (·, tail) := by
  obtain ⟨read, hread, hspells⟩ := Reader.exists_quoted member.name
  obtain rfl := (hspells name).2 hname
  rw [member.core_append, member_of_find (hread _) hfind hempty (colon_blank _ _)]
  exact hyields member.before tail htail

/-- A member of a field that is filled is refused, whatever its value. -/
theorem member_core_of_filled {member : Member} {field : Field σ} {name : String}
    (hname : member.name.Spells name) (hfind : record.fields.find? (·.name == name) = some field)
    (hfilled : field.isFilled state = true) (tail : List Char) :
    record.member state (member.core ++ tail) =
      .error (.unsuitable ("duplicate field `" ++ name ++ "`")) := by
  obtain ⟨read, hread, hspells⟩ := Reader.exists_quoted member.name
  obtain rfl := (hspells name).2 hname
  rw [member.core_append, Record.member, Reader.bind_of_ok (hread _), hfind]
  dsimp only
  rw [if_pos hfilled]
  rfl

/-- A member of no field is refused by a closed record and skipped by an open one. -/
theorem member_core_of_other {member : Member} {name : String} (hname : member.name.Spells name)
    (hfind : record.fields.find? (·.name == name) = none) (hvalue : IsValue member.value)
    {tail : List Char} (htail : IsEnd tail) :
    record.member state (member.core ++ tail) =
      if record.isClosed then .error (record.unknownField name) else .ok (state, tail) := by
  obtain ⟨read, hread, hspells⟩ := Reader.exists_quoted member.name
  obtain rfl := (hspells name).2 hname
  rw [member.core_append, Record.member, Reader.bind_of_ok (hread _), hfind]
  dsimp only
  split
  · rfl
  · rw [Reader.bind_of_ok (colon_blank _ _),
      Reader.bind_of_ok (yields_skipValue hvalue member.before tail htail)]
    rfl

/-- What is made of a member that fills no field does not depend on what follows, and in a closed
record it is refused. -/
theorem exists_member_core {member : Member} (hvalue : IsValue member.value)
    (h : ∀ name field, member.name.Spells name →
      record.fields.find? (·.name == name) = some field → field.isFilled state = true) :
    ∃ outcome : Except Problem σ,
      (∀ tail, IsEnd tail →
        record.member state (member.core ++ tail) = outcome.map (·, tail)) ∧
      (record.isClosed = true → ∃ problem, outcome = .error problem) := by
  obtain ⟨read, hread, hspells⟩ := Reader.exists_quoted member.name
  cases read with
  | error problem =>
    refine ⟨.error problem, fun tail _ => ?_, fun _ => ⟨problem, rfl⟩⟩
    show (Reader.quoted (member.core ++ tail) >>= _) = _
    rw [member.core_append, hread]
    rfl
  | ok name =>
    have hname := (hspells name).1 rfl
    cases hfind : record.fields.find? (·.name == name) with
    | none =>
      have hother : ∀ tail, IsEnd tail → record.member state (member.core ++ tail) =
          if record.isClosed then .error (record.unknownField name) else .ok (state, tail) :=
        fun tail htail => member_core_of_other hname hfind hvalue htail
      cases hclosed : record.isClosed with
      | true =>
        rw [hclosed] at hother
        exact ⟨.error (record.unknownField name), hother, fun _ => ⟨_, rfl⟩⟩
      | false =>
        rw [hclosed] at hother
        exact ⟨.ok state, hother, fun h => absurd h Bool.false_ne_true⟩
    | some field =>
      exact ⟨.error (.unsuitable ("duplicate field `" ++ name ++ "`")),
        fun tail _ => member_core_of_filled hname hfind (h name field hname hfind) tail,
        fun _ => ⟨_, rfl⟩⟩

theorem step_eq_of_member {member : Member} {outcome : Except Problem σ}
    (h : ∀ tail, IsEnd tail →
      record.member state (member.core ++ tail) = outcome.map (·, tail)) :
    record.step state member = outcome := Reader.outcome_eq h

theorem step_eq {member : Member} {field : Field σ} {name : String}
    (hname : member.name.Spells name) (hfind : record.fields.find? (·.name == name) = some field)
    (hempty : field.isFilled state = false) {outcome : Except Problem σ}
    (hyields : Yields (field.fill state) member.value outcome) :
    record.step state member = outcome :=
  step_eq_of_member fun _ htail => member_core hname hfind hempty hyields htail

/-- Either a member fills the empty field of its name, or it fills none. -/
theorem fills_or_not (record : Record σ α) (state : σ) (member : Member) :
    (∃ name field, member.name.Spells name ∧ record.fields.find? (·.name == name) = some field ∧
      field.isFilled state = false) ∨
    ∀ name field, member.name.Spells name → record.fields.find? (·.name == name) = some field →
      field.isFilled state = true := by
  by_cases h : ∃ name field, member.name.Spells name ∧
      record.fields.find? (·.name == name) = some field ∧ field.isFilled state = false
  · exact Or.inl h
  · right
    intro name field hname hfind
    by_cases hempty : field.isFilled state = false
    · exact absurd ⟨name, field, hname, hfind, hempty⟩ h
    · exact eq_true_of_ne_false hempty

section Fields

variable {Says : Field σ → σ → List Char → σ → Prop} {member : Member}
  (hfields : ∀ field ∈ record.fields, ∀ state, Decodes (field.fill state) (Says field state))
include hfields

/-- Every member with a JSON value is taken. -/
theorem takes (hvalue : IsValue member.value) : record.Takes member := by
  intro state tail htail
  rcases record.fills_or_not state member with hfills | hnot
  · obtain ⟨name, field, hname, hfind, hempty⟩ := hfills
    have hyields := (hfields field (List.mem_of_find?_eq_some hfind) state).yields hvalue
    rw [step_eq hname hfind hempty hyields, member_core hname hfind hempty hyields htail]
  · obtain ⟨outcome, hread, _⟩ := exists_member_core hvalue hnot
    rw [step_eq_of_member hread, hread tail htail]

/-- **One member** of a closed record goes on exactly if it is the first one for a field and its
value says what to put there. -/
theorem step_eq_ok_iff (hclosed : record.isClosed = true) (hvalue : IsValue member.value) :
    record.step state member = .ok next ↔
      ∃ name field, member.name.Spells name ∧
        record.fields.find? (·.name == name) = some field ∧ field.isFilled state = false ∧
        Says field state member.value next := by
  constructor
  · intro hstep
    rcases record.fills_or_not state member with hfills | hnot
    · obtain ⟨name, field, hname, hfind, hempty⟩ := hfills
      have hdecodes := hfields field (List.mem_of_find?_eq_some hfind) state
      rw [step_eq hname hfind hempty (hdecodes.yields hvalue)] at hstep
      exact ⟨name, field, hname, hfind, hempty, (hdecodes.outcome_eq_ok_iff hvalue).1 hstep⟩
    · obtain ⟨outcome, hread, hrefused⟩ := exists_member_core hvalue hnot
      obtain ⟨problem, rfl⟩ := hrefused hclosed
      rw [step_eq_of_member hread] at hstep
      cases hstep
  · intro h
    obtain ⟨name, field, hname, hfind, hempty, hsaid⟩ := h
    have hdecodes := hfields field (List.mem_of_find?_eq_some hfind) state
    exact step_eq hname hfind hempty (hdecodes.reads _ _ hsaid)

end Fields

/-! ## Objects -/

/-- At the brace the loop ends. -/
theorem members_brace {ahead rest : List Char}
    (h : Reader.peek ahead = .ok ('\x7d', '\x7d' :: rest)) (fuel : Nat) (isFirst : Bool)
    (state : σ) :
    record.members (fuel + 1) isFirst state ahead = .ok (state, rest) := by
  rw [members, Reader.bind_of_ok h, if_pos rfl]
  rfl

/-- **The first turn** of the loop takes one member. -/
theorem members_first {ahead core : List Char} (h : Reader.peek ahead = .ok ('"', core))
    (fuel : Nat) (state : σ) :
    record.members (fuel + 1) true state ahead =
      (record.member state >>= fun next => record.members fuel false next) core := by
  rw [members, Reader.bind_of_ok h, if_neg (by decide)]
  dsimp only
  rw [if_neg (by decide), Reader.bind_of_ok (Reader.peek_of_peek h), if_pos rfl]

/-- **Each other turn** takes one member and the comma before it. -/
theorem members_next {ahead behind core : List Char}
    (hcomma : Reader.peek ahead = .ok (',', ',' :: behind))
    (h : Reader.peek behind = .ok ('"', core)) (fuel : Nat) (state : σ) :
    record.members (fuel + 1) false state ahead =
      (record.member state >>= fun next => record.members fuel false next) core := by
  have hskip : Reader.skip (',' :: behind) = .ok ((), behind) := rfl
  rw [members, Reader.bind_of_ok hcomma, if_neg (by decide)]
  dsimp only
  rw [if_pos (by decide), if_pos rfl, Reader.bind_of_ok hskip, Reader.bind_of_ok h, if_pos rfl]

theorem peek_core (blank : Blank) (member : Member) (rest : List Char) :
    Reader.peek (blank.chars ++ (member.core ++ rest)) = .ok ('"', member.core ++ rest) :=
  Reader.peek_blank blank rfl _

/-- Behind a member the loop goes on with what is made of it. -/
theorem member_bind {member : Member} (htakes : record.Takes member) {back : List Char}
    (hback : IsEnd back) (fuel : Nat) (state : σ) :
    (record.member state >>= fun next => record.members fuel false next) (member.core ++ back) =
      record.step state member >>= fun next => record.members fuel false next back := by
  show (record.member state (member.core ++ back) >>= _) = _
  rw [htakes state back hback]
  cases record.step state member with
  | ok next => rfl
  | error problem => rfl

/-- Members with a comma before each of them. -/
def restText (members : List Member) : List Char :=
  members.flatMap fun member => ',' :: member.text

theorem isEnd_restText (members : List Member) (rest : List Char) :
    IsEnd (restText members ++ '\x7d' :: rest) := by
  intro c hc
  cases members with
  | nil =>
    obtain rfl := Option.some.inj hc
    decide
  | cons member members =>
    obtain rfl := Option.some.inj hc
    decide

theorem length_le_length_restText (members : List Member) :
    members.length ≤ (restText members).length := by
  induction members with
  | nil => exact Nat.le_refl 0
  | cons member members ih =>
    have hcons : restText (member :: members) = ',' :: (member.text ++ restText members) := rfl
    rw [hcons, List.length_cons, List.length_cons, List.length_append]
    omega

/-- **The loop** makes of the members what they make of the state one after another. -/
theorem members_restText {members : List Member} (htakes : ∀ member ∈ members, record.Takes member)
    {fuel : Nat} (hfuel : members.length < fuel) (blank : Blank) (state : σ) (rest : List Char) :
    record.members fuel false state (blank.chars ++ (restText members ++ '\x7d' :: rest)) =
      (members.foldlM record.step state).map (·, rest) := by
  induction members generalizing fuel blank state with
  | nil =>
    obtain ⟨fuel, rfl⟩ : ∃ k, fuel = k + 1 := ⟨fuel - 1, by omega⟩
    exact members_brace (Reader.peek_blank blank rfl rest) fuel false state
  | cons member members ih =>
    obtain ⟨fuel, rfl⟩ : ∃ k, fuel = k + 1 := ⟨fuel - 1, by omega⟩
    rw [List.length_cons] at hfuel
    have hcons : restText (member :: members) ++ '\x7d' :: rest =
        ',' :: (member.front.chars ++ (member.core ++
          (member.behind.chars ++ (restText members ++ '\x7d' :: rest)))) := by
      simp [restText, Member.text_eq]
    rw [hcons, members_next (Reader.peek_blank blank rfl _) (peek_core member.front member _),
      member_bind (htakes member List.mem_cons_self)
        (isEnd_blank member.behind (isEnd_restText members rest)), List.foldlM_cons]
    cases record.step state member with
    | ok next =>
      exact ih (fun m hm => htakes m (List.mem_cons_of_mem _ hm)) (by omega) member.behind next
    | error problem => rfl

/-- The members as they stand in an object, with a comma between two of them. -/
def membersText (members : List Member) : List Char :=
  [','].intercalate (members.map Member.text)

theorem membersText_cons (member : Member) (members : List Member) :
    membersText (member :: members) =
      member.front.chars ++ (member.core ++ (member.behind.chars ++ restText members)) := by
  rw [membersText, List.map_cons, intercalate_comma, List.flatMap_map, Member.text_eq]
  simp [restText]

theorem length_le_length_membersText (members : List Member) :
    members.length ≤ (membersText members).length := by
  cases members with
  | nil => exact Nat.zero_le _
  | cons member members =>
    have hlength := length_le_length_restText members
    rw [membersText_cons, Member.core, StringLiteral.text]
    simp only [List.length_append, List.length_cons]
    omega

theorem members_membersText {members : List Member}
    (htakes : ∀ member ∈ members, record.Takes member) {fuel : Nat} (hfuel : members.length < fuel)
    (blank : Blank) (state : σ) (rest : List Char) :
    record.members fuel true state (blank.chars ++ (membersText members ++ '\x7d' :: rest)) =
      (members.foldlM record.step state).map (·, rest) := by
  obtain ⟨fuel, rfl⟩ : ∃ k, fuel = k + 1 := ⟨fuel - 1, by omega⟩
  cases members with
  | nil => exact members_brace (Reader.peek_blank blank rfl rest) fuel true state
  | cons member members =>
    rw [List.length_cons] at hfuel
    have htext : blank.chars ++ (membersText (member :: members) ++ '\x7d' :: rest) =
        (blank.append member.front).chars ++ (member.core ++
          (member.behind.chars ++ (restText members ++ '\x7d' :: rest))) := by
      simp [membersText_cons, Blank.append]
    rw [htext, members_first (peek_core (blank.append member.front) member _),
      member_bind (htakes member List.mem_cons_self)
        (isEnd_blank member.behind (isEnd_restText members rest)), List.foldlM_cons]
    cases record.step state member with
    | ok next =>
      exact members_restText (fun m hm => htakes m (List.mem_cons_of_mem _ hm)) (by omega)
        member.behind next rest
    | error problem => rfl

/-- An object is what stands between its braces, read with as much fuel as there are characters. -/
theorem reader_brace {text ahead rest : List Char} {outcome : Except Problem σ}
    (h : Reader.peek text = .ok ('\x7b', '\x7b' :: ahead))
    (hmembers : record.members (ahead.length + 1) true record.empty ahead =
      outcome.map (·, rest)) :
    record.reader text = (outcome.bind record.ofMembers).map (·, rest) := by
  have hskip : Reader.skip ('\x7b' :: ahead) = .ok ((), ahead) := rfl
  have hget : (get : Reader (List Char)) ahead = .ok (ahead, ahead) := rfl
  rw [reader, Reader.bind_of_ok h, if_pos rfl, Reader.bind_of_ok hskip, Reader.bind_of_ok hget]
  show (record.members (ahead.length + 1) true record.empty ahead >>= _) = _
  rw [hmembers]
  cases outcome with
  | ok final => rfl
  | error problem => rfl

/-- **An object** gives what its members make of the empty state. -/
theorem reader_objectText {members : List Member}
    (htakes : ∀ member ∈ members, record.Takes member) (lead blank : Blank) (rest : List Char) :
    record.reader (lead.chars ++ (objectText blank members ++ rest)) =
      ((members.foldlM record.step record.empty).bind record.ofMembers).map (·, rest) := by
  have htext : objectText blank members ++ rest =
      '\x7b' :: (blank.chars ++ (membersText members ++ '\x7d' :: rest)) := by
    simp [objectText, membersText]
  rw [htext]
  refine reader_brace (Reader.peek_blank lead rfl _) (members_membersText htakes ?_ blank _ rest)
  have hlength := length_le_length_membersText members
  rw [List.length_append, List.length_append]
  omega

/-! ## Whole texts -/

theorem run_document {lead trail : Blank} {value : List Char} {outcome : Except Problem α}
    (h : record.reader (lead.chars ++ (value ++ trail.chars)) = outcome.map (·, trail.chars)) :
    record.reader.run (document lead value trail) = outcome := by
  have htrail : (skipSpace trail.chars).isEmpty = true := by
    unfold skipSpace
    rw [List.dropWhile_eq_nil_iff.2 trail.isSpace]
    rfl
  unfold Reader.run document
  rw [String.toList_ofList, h]
  cases outcome with
  | ok value => exact if_pos htrail
  | error problem => rfl

end Record

end LatestTag.Json
