import LatestTag.Proofs.HashSteps
import LatestTag.Proofs.PrecedenceRules
import LatestTag.Proofs.RecordText
import Mathlib.Logic.ExistsUnique

/-!
# What a fingerprint is sure to notice

Fingerprints of 32 bits cannot tell all texts apart. Some changes they notice whatever the image and
the other options are, because of where the change stands in the text that is hashed and how small
it is:

> `hashFrom_ne_of_differOnce`: texts of the same length that differ in one byte differ in their
> hashes, as the step at that byte tells them apart and no step behind it brings them together.

That covers one byte of an image and one digit of a pin. A flag is written as `true` or `false`, so
there the lengths differ too; but only few fixed bytes stand before a flag, and behind these the two
words lead to different hashes (`useSha_words`, `usePreRelease_words`). Either way the member with
the change stands between a front and a back that stay (`writeObject_around`), and the back keeps
apart what the member has told apart (`fingerprint_ne_of_member`).
-/

namespace LatestTag

/-! ## Lists that differ in one place -/

/-- The lists have the same length and differ in exactly one place. -/
def DifferOnce {α : Type} (l l' : List α) : Prop :=
  l.length = l'.length ∧ ∃! i : Nat, l[i]? ≠ l'[i]?

/-- They are the same before the place and behind it. -/
theorem DifferOnce.exists_eq {α : Type} {l l' : List α} (h : DifferOnce l l') :
    ∃ front x y back, x ≠ y ∧ l = front ++ x :: back ∧ l' = front ++ y :: back := by
  obtain ⟨hlength, i, hi, hunique⟩ := h
  have hlt : i < l.length := by
    by_cases hlt : i < l.length
    · exact hlt
    · rw [List.getElem?_eq_none (by omega), List.getElem?_eq_none (by omega)] at hi
      exact absurd rfl hi
  have hlt' : i < l'.length := hlength ▸ hlt
  have hsame (j : Nat) (hj : j ≠ i) : l[j]? = l'[j]? := by
    by_cases heq : l[j]? = l'[j]?
    · exact heq
    · exact absurd (hunique j heq) hj
  have htake : l.take i = l'.take i := by
    apply List.ext_getElem?
    intro j
    rw [List.getElem?_take, List.getElem?_take]
    by_cases hj : j < i
    · rw [if_pos hj, if_pos hj, hsame j (by omega)]
    · rw [if_neg hj, if_neg hj]
  have hdrop : l.drop (i + 1) = l'.drop (i + 1) := by
    apply List.ext_getElem?
    intro j
    rw [List.getElem?_drop, List.getElem?_drop, hsame (i + 1 + j) (by omega)]
  refine ⟨l.take i, l[i], l'[i], l.drop (i + 1), ?_, ?_, ?_⟩
  · intro heq
    rw [List.getElem?_eq_getElem hlt, List.getElem?_eq_getElem hlt', heq] at hi
    exact absurd rfl hi
  · rw [List.getElem_cons_drop, List.take_append_drop]
  · rw [htake, hdrop, List.getElem_cons_drop, List.take_append_drop]

theorem differOnce_append_cons {α : Type} {x y : α} (hne : x ≠ y) (front back : List α) :
    DifferOnce (front ++ x :: back) (front ++ y :: back) := by
  refine ⟨by simp, front.length, by simpa using hne, ?_⟩
  intro i hi
  rcases Nat.lt_trichotomy i front.length with hlt | heq | hgt
  · rw [List.getElem?_append_left hlt, List.getElem?_append_left hlt] at hi
    exact absurd rfl hi
  · exact heq
  · obtain ⟨k, rfl⟩ : ∃ k, i = front.length + (k + 1) := ⟨i - front.length - 1, by omega⟩
    rw [List.getElem?_append_right (by omega), List.getElem?_append_right (by omega),
      Nat.add_sub_cancel_left, List.getElem?_cons_succ, List.getElem?_cons_succ] at hi
    exact absurd rfl hi

namespace Fingerprint

/-- **One byte is noticed.** -/
theorem hashFrom_ne_of_differOnce {bytes bytes' : List UInt8} (h : DifferOnce bytes bytes')
    (hash : UInt32) : hashFrom hash bytes ≠ hashFrom hash bytes' := by
  obtain ⟨front, x, y, back, hne, rfl, rfl⟩ := h.exists_eq
  intro heq
  rw [hashFrom_append, hashFrom_append] at heq
  have hstep : step (hashFrom hash front) x = step (hashFrom hash front) y :=
    hashFrom_injective back heq
  exact hne (step_byte_injective _ hstep)

/-! ## Digits -/

/-- A digit is one byte, so it stands in the bytes where it stands in the text. -/
theorem bytesOf_digit (front back : List Char) {d : Char} (hd : d.isDigit) :
    bytesOf (.ofList (front ++ d :: back)) =
      bytesOf (.ofList front) ++ d.val.toUInt8 :: bytesOf (.ofList back) := by
  have hbounds := Numeral.isDigit_bounds hd
  have hsize : d.utf8Size = 1 := by
    rw [Char.utf8Size_eq_one_iff, UInt32.le_iff_toNat_le]
    show d.toNat ≤ 127
    omega
  unfold bytesOf
  rw [String.toByteArray_ofList, String.toByteArray_ofList, String.toByteArray_ofList,
    List.utf8Encode_append, List.utf8Encode_cons, List.utf8Encode_singleton,
    String.utf8EncodeChar_eq_singleton hsize, ByteArray.toList_data_append,
    ByteArray.toList_data_append]
  simp

theorem eq_of_digit_byte_eq {d d' : Char} (hd : d.isDigit) (hd' : d'.isDigit)
    (h : d.val.toUInt8 = d'.val.toUInt8) : d = d' := by
  have hbounds := Numeral.isDigit_bounds hd
  have hbounds' := Numeral.isDigit_bounds hd'
  have hmod : d.toNat % 256 = d'.toNat % 256 := congrArg UInt8.toNat h
  apply Char.toNat_inj.1
  omega

theorem differOnce_bytesOf_repr {m n : Nat} (h : DifferOnce m.repr.toList n.repr.toList) :
    DifferOnce (bytesOf m.repr) (bytesOf n.repr) := by
  obtain ⟨front, d, d', back, hne, hm, hn⟩ := h.exists_eq
  have hdigit (k : Nat) : ∀ c ∈ k.repr.toList, c.isDigit := by
    intro c hc
    rw [Nat.toList_repr] at hc
    exact Numeral.isDigit_of_mem_toDigits c hc
  have hd : d.isDigit := hdigit m d (by rw [hm]; simp)
  have hd' : d'.isDigit := hdigit n d' (by rw [hn]; simp)
  have hm : m.repr = .ofList (front ++ d :: back) := by rw [← hm, String.ofList_toList]
  have hn : n.repr = .ofList (front ++ d' :: back) := by rw [← hn, String.ofList_toList]
  rw [hm, hn, bytesOf_digit front back hd, bytesOf_digit front back hd']
  have hbyte : d.val.toUInt8 ≠ d'.val.toUInt8 := fun heq => hne (eq_of_digit_byte_eq hd hd' heq)
  exact differOnce_append_cons hbyte _ _

end Fingerprint

/-! ## Members of an object -/

namespace Json

/-- What an object has before the value of a member. -/
def objectFront (before : List (String × String)) (name : String) : String :=
  .ofList ('\x7b' :: (before.flatMap fun member => memberText member ++ [','])
    ++ (writeString name).toList ++ [':'])

/-- What an object has behind the value of a member. -/
def objectBack (after : List (String × String)) : String := .ofList (tailText after ++ ['\x7d'])

/-- **The value of a member** stands between a front and a back that do not depend on it. -/
theorem writeObject_around (before after : List (String × String)) (name value : String) :
    writeObject (before ++ (name, value) :: after) =
      objectFront before name ++ value ++ objectBack after := by
  apply String.toList_inj.1
  have htail (before : List (String × String)) :
      tailText (before ++ (name, value) :: after) ++ ['\x7d'] =
        ',' :: (before.flatMap fun member => memberText member ++ [',']) ++
          (memberText (name, value) ++ (tailText after ++ ['\x7d'])) := by
    induction before with
    | nil => simp [tailText]
    | cons member before ih =>
      show ',' :: memberText member ++ tailText (before ++ (name, value) :: after) ++ ['\x7d'] = _
      rw [List.append_assoc, ih]
      simp
  -- the first member of an object has no comma before it
  cases before with
  | nil =>
    rw [List.nil_append, toList_writeObject_cons]
    simp [objectFront, objectBack, memberText]
  | cons first before =>
    rw [List.cons_append, toList_writeObject_cons, htail]
    simp [objectFront, objectBack, memberText]

end Json

namespace Options

open Json (objectBack objectFront writeBool writeNat writeObject)

/-! ## The member that changes -/

/-- A number of a version, as options can pin it. -/
inductive Pin where
  | major
  | minor
  | patch
deriving DecidableEq, Repr

/-- What the number is pinned to. -/
def pin? (options : Options) : Pin → Option UInt64
  | .major => options.pinMajor
  | .minor => options.pinMinor
  | .patch => options.pinPatch

/-- The options with the number pinned. -/
def setPin (options : Options) (version : UInt64) : Pin → Options
  | .major => { options with pinMajor := some version }
  | .minor => { options with pinMinor := some version }
  | .patch => { options with pinPatch := some version }

theorem setPin_of_pin? {options : Options} {pin : Pin} {version : UInt64}
    (h : options.pin? pin = some version) : options.setPin version pin = options := by
  obtain ⟨useSha, usePreRelease, pinMajor, pinMinor, pinPatch, pattern⟩ := options
  cases pin with
  | major => obtain rfl : pinMajor = some version := h; rfl
  | minor => obtain rfl : pinMinor = some version := h; rfl
  | patch => obtain rfl : pinPatch = some version := h; rfl

/-- The first flag as a member of the JSON text. -/
def shaMember (options : Options) : String × String := ("useSha", writeBool options.useSha)

/-- The second flag as a member of the JSON text. -/
def preReleaseMember (options : Options) : String × String :=
  ("usePreRelease", writeBool options.usePreRelease)

/-- A pin as a member of the JSON text. -/
def pinMember (name : String) (pin? : Option UInt64) : String × String :=
  (name, Json.writeOption (fun version => writeNat version.toNat) pin?)

/-- The pattern as a member of the JSON text. -/
def patternMember (options : Options) : String × String :=
  ("regexMatcher",
    Json.writeOption (fun pattern => Json.writeString pattern.source) options.pattern)

theorem json_eq (options : Options) :
    options.json = writeObject [options.shaMember, options.preReleaseMember,
      pinMember "pinMajor" options.pinMajor, pinMember "pinMinor" options.pinMinor,
      pinMember "pinPatch" options.pinPatch, options.patternMember] := rfl

theorem exists_json_useSha (options : Options) :
    ∃ after, ∀ useSha, json { options with useSha := useSha } =
      writeObject ([] ++ ("useSha", writeBool useSha) :: after) := by
  refine ⟨[options.preReleaseMember, pinMember "pinMajor" options.pinMajor,
    pinMember "pinMinor" options.pinMinor, pinMember "pinPatch" options.pinPatch,
    options.patternMember], ?_⟩
  intro useSha
  exact json_eq _

theorem exists_json_usePreRelease (options : Options) :
    ∃ after, ∀ usePreRelease, json { options with usePreRelease := usePreRelease } =
      writeObject ([options.shaMember] ++ ("usePreRelease", writeBool usePreRelease) :: after) := by
  refine ⟨[pinMember "pinMajor" options.pinMajor, pinMember "pinMinor" options.pinMinor,
    pinMember "pinPatch" options.pinPatch, options.patternMember], ?_⟩
  intro usePreRelease
  exact json_eq _

theorem exists_json_setPin (options : Options) (pin : Pin) :
    ∃ before name after, ∀ version, (options.setPin version pin).json =
      writeObject (before ++ (name, writeNat version.toNat) :: after) := by
  cases pin with
  | major =>
    refine ⟨[options.shaMember, options.preReleaseMember], "pinMajor",
      [pinMember "pinMinor" options.pinMinor, pinMember "pinPatch" options.pinPatch,
        options.patternMember], ?_⟩
    intro version
    exact json_eq _
  | minor =>
    refine ⟨[options.shaMember, options.preReleaseMember, pinMember "pinMajor" options.pinMajor],
      "pinMinor", [pinMember "pinPatch" options.pinPatch, options.patternMember], ?_⟩
    intro version
    exact json_eq _
  | patch =>
    refine ⟨[options.shaMember, options.preReleaseMember, pinMember "pinMajor" options.pinMajor,
      pinMember "pinMinor" options.pinMinor], "pinPatch", [options.patternMember], ?_⟩
    intro version
    exact json_eq _

end Options

namespace Fingerprint

open Json (objectBack objectFront writeBool writeObject)

/-- What the value of a member tells apart, the rest of the text keeps apart. -/
theorem fingerprint_ne_of_member {options options' : Options}
    {before after : List (String × String)} {name value value' : String}
    (h : options.json = writeObject (before ++ (name, value) :: after))
    (h' : options'.json = writeObject (before ++ (name, value') :: after))
    (hne : hashFrom (hashFrom basis (bytesOf (objectFront before name))) (bytesOf value) ≠
      hashFrom (hashFrom basis (bytesOf (objectFront before name))) (bytesOf value'))
    (url : String) : fingerprint url options ≠ fingerprint url options' := by
  intro heq
  have hhash : optionsHash options = optionsHash options' :=
    (fingerprint_eq_iff_optionsHash url options options').1 heq
  unfold optionsHash at hhash
  rw [h, h', Json.writeObject_around, Json.writeObject_around] at hhash
  simp only [bytesOf_append, hashFrom_append] at hhash
  exact hne (hashFrom_injective (bytesOf (objectBack after)) hhash)

theorem useSha_words (useSha : Bool) :
    let hash := hashFrom basis (bytesOf (objectFront [] "useSha"))
    hashFrom hash (bytesOf (writeBool !useSha)) ≠ hashFrom hash (bytesOf (writeBool useSha)) := by
  cases useSha <;> decide +kernel

/-- Before the second flag stands the first one, so four cases are to be told apart. -/
theorem usePreRelease_words (useSha usePreRelease : Bool) :
    let front := objectFront [("useSha", writeBool useSha)] "usePreRelease"
    let hash := hashFrom basis (bytesOf front)
    hashFrom hash (bytesOf (writeBool !usePreRelease)) ≠
      hashFrom hash (bytesOf (writeBool usePreRelease)) := by
  cases useSha <;> cases usePreRelease <;> decide +kernel

/-- **Changes that are always noticed**, whatever the image and the other options are: one flag
turned, one byte of the image, one digit of a pin. -/
theorem changes_noticed (url : String) (options : Options) :
    fingerprint url { options with useSha := !options.useSha } ≠ fingerprint url options ∧
    fingerprint url { options with usePreRelease := !options.usePreRelease } ≠
      fingerprint url options ∧
    (∀ url', DifferOnce (bytesOf url) (bytesOf url') →
      fingerprint url' options ≠ fingerprint url options) ∧
    ∀ pin version version', options.pin? pin = some version →
      DifferOnce version.toNat.repr.toList version'.toNat.repr.toList →
      fingerprint url (options.setPin version' pin) ≠ fingerprint url options := by
  refine ⟨?_, ?_, ?_, ?_⟩
  · obtain ⟨after, hjson⟩ := options.exists_json_useSha
    exact fingerprint_ne_of_member (hjson !options.useSha) (hjson options.useSha)
      (useSha_words options.useSha) url
  · obtain ⟨after, hjson⟩ := options.exists_json_usePreRelease
    exact fingerprint_ne_of_member (hjson !options.usePreRelease) (hjson options.usePreRelease)
      (usePreRelease_words options.useSha options.usePreRelease) url
  · intro url' h heq
    rw [fingerprint_eq_iff, hash_eq_hashFrom_optionsHash, hash_eq_hashFrom_optionsHash] at heq
    exact hashFrom_ne_of_differOnce h (optionsHash options) heq.symm
  · intro pin version version' hpin h
    obtain ⟨before, name, after, hjson⟩ := options.exists_json_setPin pin
    have hself : options.json =
        writeObject (before ++ (name, Json.writeNat version.toNat) :: after) := by
      rw [← hjson version, Options.setPin_of_pin? hpin]
    refine (fingerprint_ne_of_member hself (hjson version') ?_ url).symm
    exact hashFrom_ne_of_differOnce (differOnce_bytesOf_repr h) _

/-- A letter of the image, and a digit of the greatest pin there is. -/
theorem changes_noticed_of_slips :
    let options : Options := { usePreRelease := true, pinPatch := some 18446744073709551615 }
    DifferOnce (bytesOf "library/nginx") (bytesOf "library/nginz") ∧
      fingerprint "library/nginz" options ≠ fingerprint "library/nginx" options ∧
      options.pin? .patch = some 18446744073709551615 ∧
      DifferOnce (18446744073709551615 : UInt64).toNat.repr.toList
        (18446744073709551605 : UInt64).toNat.repr.toList ∧
      fingerprint "library/nginx" (options.setPin 18446744073709551605 .patch) ≠
        fingerprint "library/nginx" options := by
  intro options
  have hletter : DifferOnce (bytesOf "library/nginx") (bytesOf "library/nginz") := by
    have hne : (120 : UInt8) ≠ 122 := by decide
    exact differOnce_append_cons hne (bytesOf "library/ngin") []
  have hdigit : DifferOnce (18446744073709551615 : UInt64).toNat.repr.toList
      (18446744073709551605 : UInt64).toNat.repr.toList := by
    have hne : '1' ≠ '0' := by decide
    exact differOnce_append_cons hne "184467440737095516".toList ['5']
  obtain ⟨_, _, hurl, hpin⟩ := changes_noticed "library/nginx" options
  exact ⟨hletter, hurl "library/nginz" hletter, rfl, hdigit,
    hpin .patch 18446744073709551615 18446744073709551605 rfl hdigit⟩

end Fingerprint

end LatestTag
