import LatestTag.Fingerprint
import LatestTag.Proofs.OptionsLayout
import LatestTag.Proofs.RecordText

/-!
# Options are read back

The JSON text of options stands for these options and no others. It can be read back, and it even
says where it ends: options can be read off the front of any text that begins with them.

> `reader_json`: behind the JSON text of options the reader leaves what stands there.
> `options_read_back`: options are read from their own JSON text, so their fingerprints stay.
> `preimage_unambiguous`: of the text that is hashed for a fingerprint no other image and no other
> options are the origin.

The last one rests on the first: the text has no mark between the options and the reference of the
image, and needs none, since reading it gives back both of them.
-/

namespace LatestTag.Options

open Json (Reader Reads)
open Json.Record (Fills)

theorem reads_pin (pin? : Option UInt64) :
    Reads (Reader.option Reader.uint64)
      (Json.writeOption (fun version => Json.writeNat version.toNat) pin?) pin? :=
  decodes_pin.reads_text (Json.saysOption_writeOption Json.saysNat_writeNat pin?)

/-- A pattern is read from its text, as it has compiled before. -/
theorem reads_pattern (pattern? : Option TagPattern) :
    Reads (Reader.option readPattern)
      (Json.writeOption (fun pattern => Json.writeString pattern.source) pattern?) pattern? := by
  refine decodes_pattern?.reads_text (Json.saysOption_writeOption (fun pattern => ?_) pattern?)
  exact Json.saysString_writeString pattern.source

/-- **Options are read off the front** of any text that begins with them. -/
theorem reader_json (options : Options) (rest : List Char) :
    record.reader (options.json.toList ++ rest) = .ok (options, rest) := by
  have hvalue : record.ofMembers ⟨some options.useSha, some options.usePreRelease,
      some options.pinMajor, some options.pinMinor, some options.pinPatch,
      some options.pattern⟩ = .ok options := rfl
  refine Json.Record.reader_writeObject ?_ hvalue rest
  -- the fields in the order in which they are written
  refine .cons rfl rfl ((Json.reads_bool options.useSha).bind rfl) ?_
  refine .cons rfl rfl ((Json.reads_bool options.usePreRelease).bind rfl) ?_
  refine .cons rfl rfl ((reads_pin options.pinMajor).bind rfl) ?_
  refine .cons rfl rfl ((reads_pin options.pinMinor).bind rfl) ?_
  refine .cons rfl rfl ((reads_pin options.pinPatch).bind rfl) ?_
  refine .cons rfl rfl ((reads_pattern options.pattern).bind rfl) ?_
  exact .nil

/-- **Options are read from their own JSON text**, and nothing that depends on them changes by it:
their fingerprints with any image stay the same. -/
theorem options_read_back (options : Options) :
    ∃ decoded, ofJson options.json = .ok decoded ∧ decoded = options ∧
      ∀ url, fingerprint url decoded = fingerprint url options :=
  ⟨options, Reader.run_of_forall (reader_json options), rfl, fun _ => rfl⟩

/-! ## What a fingerprint is made of -/

/-- Two texts that begin with options and are equal begin with the same options. -/
theorem eq_of_json_append {options₁ options₂ : Options} {rest₁ rest₂ : List Char}
    (h : options₁.json.toList ++ rest₁ = options₂.json.toList ++ rest₂) :
    options₁ = options₂ ∧ rest₁ = rest₂ := by
  have hread := reader_json options₁ rest₁
  rw [h, reader_json options₂ rest₂] at hread
  obtain ⟨hoptions, hrest⟩ := Prod.mk.inj (Except.ok.inj hread)
  exact ⟨hoptions.symm, hrest.symm⟩

/-- A text whose bytes begin another text begins it. -/
theorem isPrefix_toList_of_bytes {s t : String}
    (h : s.toByteArray.data.toList <+: t.toByteArray.data.toList) : s.toList <+: t.toList := by
  obtain ⟨bytes, hbytes⟩ := h
  refine List.isPrefix_of_utf8Encode_append_eq_utf8Encode bytes.toByteArray ?_
  rw [String.utf8Encode_toList, String.utf8Encode_toList]
  apply ByteArray.ext
  apply Array.toList_inj.1
  simpa using hbytes

/-- **What is hashed says what it was made of**: the bytes give back the image and the options. No
JSON text of options begins another one, and different options have different texts. -/
theorem preimage_unambiguous (url₁ url₂ : String) (options₁ options₂ : Options) :
    ((Fingerprint.preimage url₁ options₁).toByteArray.data.toList =
        (Fingerprint.preimage url₂ options₂).toByteArray.data.toList ↔
      url₁ = url₂ ∧ options₁ = options₂) ∧
    (options₁.json.toByteArray.data.toList <+: options₂.json.toByteArray.data.toList ↔
      options₁ = options₂) ∧
    (options₁ = options₂ ↔ options₁.json = options₂.json) := by
  have hbegins : options₁.json.toByteArray.data.toList <+: options₂.json.toByteArray.data.toList →
      options₁ = options₂ := by
    intro h
    obtain ⟨rest, hrest⟩ := isPrefix_toList_of_bytes h
    rw [← List.append_nil options₂.json.toList] at hrest
    exact (eq_of_json_append hrest).1
  refine ⟨⟨?_, ?_⟩, ⟨hbegins, ?_⟩, congrArg json, ?_⟩
  · intro hbytes
    -- equal bytes are equal texts, and these begin with the options
    have htext : Fingerprint.preimage url₁ options₁ = Fingerprint.preimage url₂ options₂ :=
      String.toByteArray_inj.1 (ByteArray.ext (Array.toList_inj.1 hbytes))
    have hchars := congrArg String.toList htext
    rw [Fingerprint.preimage, Fingerprint.preimage, String.toList_append,
      String.toList_append] at hchars
    obtain ⟨hoptions, hurl⟩ := eq_of_json_append hchars
    exact ⟨String.toList_inj.1 hurl, hoptions⟩
  · rintro ⟨rfl, rfl⟩
    rfl
  · rintro rfl
    exact List.prefix_refl _
  · intro htext
    rw [htext] at hbegins
    exact hbegins (List.prefix_refl _)

end LatestTag.Options
