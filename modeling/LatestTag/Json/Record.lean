import LatestTag.Json.Skip
import LatestTag.Json.Value

/-!
# Records in JSON

A record is read from an object, whose members may come in any order, or from a list of the values
of its fields in their order, of which the last ones may be missing. Either way it is filled field
by field, starting from an empty one, and made into a value at the end.
-/

namespace LatestTag.Json

/-- A field of a record that is filled in a state `σ`. -/
structure Field (σ : Type) where
  /-- The name of the member. -/
  name : String
  /-- Whether the field is filled. -/
  isFilled : σ → Bool
  /-- Reads a value into the field. -/
  fill : σ → Reader σ

/-- A kind of record: how a value is read through a state. -/
structure Record (σ α : Type) where
  /-- The name of the kind, in messages. -/
  name : String
  /-- The fields, in order. -/
  fields : List (Field σ)
  /-- Whether other members are refused; otherwise they are skipped. -/
  isClosed : Bool
  /-- The state without any field. -/
  empty : σ
  /-- The value of an object that filled these fields. -/
  ofMembers : σ → Except Problem α
  /-- The value of a list that filled these fields. -/
  ofItems : σ → Except Problem α

namespace Record

variable {σ α : Type}

/-- The message for a name that no field has. -/
def unknownField (record : Record σ α) (name : String) : Problem :=
  .unsuitable ("unknown field `" ++ name ++ "`, expected one of "
    ++ ", ".intercalate (record.fields.map fun field => "`" ++ field.name ++ "`"))

/-- Takes the colon behind a name. -/
def colon : Reader Unit := do
  if (← Reader.peek) = ':' then Reader.skip else Reader.fail .malformed

/-- Reads a member of an object, of which the name is next. -/
def member (record : Record σ α) (state : σ) : Reader σ := do
  let name ← Reader.quoted
  match record.fields.find? (·.name == name) with
  | some field =>
    if field.isFilled state then
      Reader.fail (.unsuitable ("duplicate field `" ++ name ++ "`"))
    else do
      colon
      field.fill state
  | none =>
    if record.isClosed then Reader.fail (record.unknownField name)
    else do
      colon
      Reader.skipValue
      return state

/-- Reads the members of an object up to its end, from the first one or from what follows a member.
Each member takes characters, so as much fuel as there are characters suffices. -/
def members (record : Record σ α) (fuel : Nat) (isFirst : Bool) (state : σ) : Reader σ := do
  match fuel with
  | 0 => Reader.fail .malformed
  | fuel + 1 =>
    let next ← Reader.peek
    if next = '\x7d' then do
      Reader.skip
      return state
    else do
      if !isFirst then do
        if next = ',' then Reader.skip else Reader.fail .malformed
      if (← Reader.peek) = '"' then do
        members record fuel false (← record.member state)
      else Reader.fail .malformed

/-- Reads the items of a list into the fields, from the first item or from what follows one. Items
that are missing leave their fields empty. -/
def items (isFirst : Bool) (state : σ) : List (Field σ) → Reader σ
  | [] => return state
  | field :: fields => do
    let next ← Reader.peek
    if next = ']' then return state
    else do
      if !isFirst then do
        if next = ',' then do
          Reader.skip
          if (← Reader.peek) = ']' then Reader.fail .malformed
        else Reader.fail .malformed
      items false (← field.fill state) fields

/-- Takes the end of a list. -/
def endOfList : Reader Unit := do
  if (← Reader.peek) = ']' then Reader.skip else Reader.fail .malformed

/-- Reads a record. -/
def reader (record : Record σ α) : Reader α := do
  let first ← Reader.peek
  if first = '\x7b' then do
    Reader.skip
    let fuel := (← get).length + 1
    record.ofMembers (← record.members fuel true record.empty)
  else if first = '[' then do
    Reader.skip
    let value ← record.ofItems (← items true record.empty record.fields)
    endOfList
    return value
  else Reader.refuse record.name

end Record

end LatestTag.Json
