import LatestTag.Fingerprint
import Std.Data.String.ToNat
import Mathlib.Logic.Function.Basic

/-!
# The steps of the hash can be undone

A fingerprint has only 32 bits, so different texts must share it. But no step of the hash loses
anything: it multiplies by an odd number, which can be undone modulo 2^32, and mixes in a byte,
which can be undone as well. Two things follow for a single step, and the first of them by induction
for any number of steps:

> `hashFrom_injective`: from different hashes the same bytes lead to different hashes.

> `step_byte_injective`: from the same hash different bytes lead to different hashes.

The options are hashed first and the image goes on from there. So whether two options collide is
settled before the image is looked at (`collide_regardless_of_image`).
-/

namespace LatestTag.Fingerprint

/-! ## One step and many -/

/-- The number that undoes the factor of a step. -/
def primeInverse : UInt32 := 0x359c449b

theorem prime_mul_primeInverse : prime * primeInverse = 1 := by decide

theorem mul_prime_injective : Function.Injective (· * prime) := by
  intro hash hash' h
  have hback (hash : UInt32) : hash * prime * primeInverse = hash := by
    rw [UInt32.mul_assoc, prime_mul_primeInverse, UInt32.mul_one]
  calc hash = hash * prime * primeInverse := (hback hash).symm
    _ = hash' * prime * primeInverse := congrArg (· * primeInverse) h
    _ = hash' := hback hash'

/-- **A step keeps hashes apart.** -/
theorem step_injective (byte : UInt8) : Function.Injective (step · byte) := by
  intro hash hash' h
  exact mul_prime_injective ((UInt32.xor_left_inj byte.toUInt32).1 h)

/-- **A step tells bytes apart.** -/
theorem step_byte_injective (hash : UInt32) : Function.Injective (step hash) := by
  intro byte byte' h
  exact UInt8.toUInt32_inj.1 ((UInt32.xor_right_inj (hash * prime)).1 h)

theorem hashFrom_append (hash : UInt32) (front back : List UInt8) :
    hashFrom hash (front ++ back) = hashFrom (hashFrom hash front) back :=
  List.foldl_append

/-- **The same bytes keep hashes apart.** -/
theorem hashFrom_injective (bytes : List UInt8) : Function.Injective (hashFrom · bytes) := by
  induction bytes with
  | nil => exact Function.injective_id
  | cons byte bytes ih =>
    intro hash hash' h
    have hstep : step hash byte = step hash' byte := ih h
    exact step_injective byte hstep

/-! ## The hash of an image and options -/

/-- The bytes of a text. -/
def bytesOf (text : String) : List UInt8 := text.toByteArray.data.toList

theorem bytesOf_append (s t : String) : bytesOf (s ++ t) = bytesOf s ++ bytesOf t := by
  unfold bytesOf
  rw [String.toByteArray_append, ByteArray.toList_data_append]

/-- The hash of options without an image. -/
def optionsHash (options : Options) : UInt32 := hashFrom basis (bytesOf options.json)

theorem hash_eq_hashFrom_optionsHash (url : String) (options : Options) :
    hash url options = hashFrom (optionsHash options) (bytesOf url) := by
  show hashFrom basis (bytesOf (options.json ++ url)) = _
  rw [bytesOf_append, hashFrom_append]
  rfl

theorem fingerprint_eq_iff {url url' : String} {options options' : Options} :
    fingerprint url options = fingerprint url' options' ↔
      hash url options = hash url' options' := by
  unfold fingerprint
  rw [Nat.repr_inj, UInt32.toNat_inj]

theorem fingerprint_eq_iff_optionsHash (url : String) (options options' : Options) :
    fingerprint url options = fingerprint url options' ↔
      optionsHash options = optionsHash options' := by
  rw [fingerprint_eq_iff, hash_eq_hashFrom_optionsHash, hash_eq_hashFrom_optionsHash]
  exact (hashFrom_injective (bytesOf url)).eq_iff

/-- **Whether options collide does not depend on the image**: two options share their fingerprints
for one image exactly if they do for any other, and that is exactly if they share the hash of their
JSON texts alone. -/
theorem collide_regardless_of_image (options options' : Options) (url url' : String) :
    (fingerprint url options = fingerprint url options' ↔
      fingerprint url' options = fingerprint url' options') ∧
    (fingerprint url options = fingerprint url options' ↔
      optionsHash options = optionsHash options') := by
  have hurl := fingerprint_eq_iff_optionsHash url options options'
  have hurl' := fingerprint_eq_iff_optionsHash url' options options'
  exact ⟨hurl.trans hurl'.symm, hurl⟩

end LatestTag.Fingerprint
