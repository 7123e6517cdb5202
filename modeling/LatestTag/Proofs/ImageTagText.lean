import LatestTag.ImageTag
import LatestTag.Proofs.RecordText
import LatestTag.Proofs.TimestampText

/-!
# Tags are read back

A tag in JSON is an object of two strings and a timestamp, which is a string too. The strings are
read back whatever they hold, and the timestamp is read back as a string and then from its text; so
a tag survives being written, down to the nanoseconds that decide which tag is the latest:

> `tag_read_back`: every tag with a timestamp of the calendar range is read from its own JSON text.
-/

namespace LatestTag.ImageTag

open Json (Reader Reads)

theorem reads_timestamp {timestamp : Timestamp} (h : timestamp.IsValid) :
    Reads readTimestamp (Json.writeString timestamp.text) timestamp := by
  refine (Json.reads_string _ timestamp.text).bind ?_
  rw [Timestamp.ofText?_text h]

/-- A tag is read off the front of any text that begins with it. -/
theorem reader_json {tag : ImageTag} (h : tag.timestamp.IsValid) (rest : List Char) :
    record.reader (tag.json.toList ++ rest) = .ok (tag, rest) := by
  have hvalue : record.ofMembers ⟨some tag.tag, some tag.sha, some tag.timestamp⟩ = .ok tag := rfl
  refine Json.Record.reader_writeObject ?_ hvalue rest
  refine .cons rfl rfl ((Json.reads_string "a string" tag.tag).bind rfl) ?_
  refine .cons rfl rfl ((Json.reads_string "a string" tag.sha).bind rfl) ?_
  refine .cons rfl rfl ((reads_timestamp h).bind rfl) ?_
  exact .nil

/-- **A tag is read from its own JSON text**, with the same second and the same nanoseconds. -/
theorem tag_read_back (tag : ImageTag) (h : tag.timestamp.IsValid) :
    ∃ decoded, ofJson tag.json = .ok decoded ∧ decoded = tag ∧
      decoded.timestamp.seconds = tag.timestamp.seconds ∧
      decoded.timestamp.nanos = tag.timestamp.nanos := by
  exact ⟨tag, Reader.run_of_forall (reader_json h), rfl, rfl, rfl⟩

/-- A tag with a quote, a control character and a backslash, pushed within a leap second of a
negative year. -/
theorem tag_read_back_of_leap_second :
    let tag : ImageTag := ⟨"\"\x01\\", "😀", ⟨-63549273601, 1500000000⟩⟩
    tag.timestamp.IsValid ∧ ∃ decoded, ofJson tag.json = .ok decoded ∧ decoded = tag ∧
      decoded.timestamp.seconds = tag.timestamp.seconds ∧
      decoded.timestamp.nanos = tag.timestamp.nanos :=
  have h : (⟨-63549273601, 1500000000⟩ : Timestamp).IsValid := by decide
  ⟨h, tag_read_back _ h⟩

end LatestTag.ImageTag
