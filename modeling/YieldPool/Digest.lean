import YieldPool.Digest.Sha256
import YieldPool.Error

/-!
# Digests of records

The digest of a value under a label is the SHA-256 digest of a message: the label and the version of the encoding, a
zero byte, and the canonical form of the value. `message` is everything about a digest but the hashing.
-/

namespace YieldPool.Digest

/-- The text in front of the canonical form, with the version as it is written. -/
def headingOf (label version : Text) : Text := "farmledger:" ++ label ++ ":v" ++ version ++ "\x00"

/-- The text in front of the canonical form. -/
def heading (label : Text) (version : Int) : Text := headingOf label (Text.ofInt version)

/-- The bytes of a heading and of the canonical form of a value. -/
def compose (heading : Text) (v : Value) : Except Error (List UInt8) := do
  let canonical ← v.canonicalBytes
  return heading.utf8 ++ canonical

/-- The bytes that are hashed for a value under an ASCII label. -/
def message (label : Text) (version : Int) (v : Value) : Except Error (List UInt8) := do
  require (label.all CodePoint.isAscii = true) .labelNotAscii
  compose (heading label version) v

/-- The written form of the digest of a message. -/
def ofMessage (bytes : List UInt8) : Text := "0x" ++ Sha256.hexDigest bytes

/-- The version of the canonical encoding. -/
def encodingVersion : Int := 1

/-- The digest of a value under a label. -/
def digest (label : Text) (version : Int) (v : Value) : Except Error Text := do
  let bytes ← message label version v
  return ofMessage bytes

/-- The digest of a value under a label and a version that have not been checked, both put into the heading as they are
displayed. -/
def readDigest (label version v : Value) : Except Error Text := do
  require ((label.display ++ version.display).all CodePoint.isAscii = true) .labelNotAscii
  let bytes ← compose (headingOf label.display version.display) v
  return ofMessage bytes

end YieldPool.Digest
