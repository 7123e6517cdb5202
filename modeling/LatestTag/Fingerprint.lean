import LatestTag.Json.Options

/-!
# Fingerprints

A fingerprint stands for an image together with the options to select among its tags. It is a hash
of 32 bits over the JSON text of the options followed by the reference of the image, so the members
of that text and their order are part of what a fingerprint means.
-/

namespace LatestTag

namespace Fingerprint

/-- What the hash of no bytes is. -/
def basis : UInt32 := 0x811c9dc5

/-- The factor of each step. -/
def prime : UInt32 := 0x01000193

/-- The hash after one more byte. -/
def step (hash : UInt32) (byte : UInt8) : UInt32 := hash * prime ^^^ byte.toUInt32

/-- The hash of some bytes, from a given hash on. -/
def hashFrom (hash : UInt32) (bytes : List UInt8) : UInt32 := bytes.foldl step hash

/-- The text that is hashed. -/
def preimage (url : String) (options : Options) : String := options.json ++ url

/-- The hash of an image and options. -/
def hash (url : String) (options : Options) : UInt32 :=
  hashFrom basis (preimage url options).toByteArray.data.toList

end Fingerprint

/-- The fingerprint of an image and options. -/
def fingerprint (url : String) (options : Options) : String :=
  (Fingerprint.hash url options).toNat.repr

end LatestTag
