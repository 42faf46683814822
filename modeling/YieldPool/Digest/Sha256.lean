import YieldPool.Text

/-!
# The SHA-256 digest

The message is padded to blocks of 64 bytes. Each block is spread over a schedule of 64 words and mixed into a state
of eight words, which starts from fixed words and is the digest in the end. All arithmetic is on words of 32 bits.
-/

namespace YieldPool.Sha256

/-- The constants of the rounds: the first 32 bits of the fractions of the cube roots of the first 64 primes. -/
def roundConstants : Array UInt32 := #[
  0x428a2f98, 0x71374491, 0xb5c0fbcf, 0xe9b5dba5, 0x3956c25b, 0x59f111f1, 0x923f82a4, 0xab1c5ed5,
  0xd807aa98, 0x12835b01, 0x243185be, 0x550c7dc3, 0x72be5d74, 0x80deb1fe, 0x9bdc06a7, 0xc19bf174,
  0xe49b69c1, 0xefbe4786, 0x0fc19dc6, 0x240ca1cc, 0x2de92c6f, 0x4a7484aa, 0x5cb0a9dc, 0x76f988da,
  0x983e5152, 0xa831c66d, 0xb00327c8, 0xbf597fc7, 0xc6e00bf3, 0xd5a79147, 0x06ca6351, 0x14292967,
  0x27b70a85, 0x2e1b2138, 0x4d2c6dfc, 0x53380d13, 0x650a7354, 0x766a0abb, 0x81c2c92e, 0x92722c85,
  0xa2bfe8a1, 0xa81a664b, 0xc24b8b70, 0xc76c51a3, 0xd192e819, 0xd6990624, 0xf40e3585, 0x106aa070,
  0x19a4c116, 0x1e376c08, 0x2748774c, 0x34b0bcb5, 0x391c0cb3, 0x4ed8aa4a, 0x5b9cca4f, 0x682e6ff3,
  0x748f82ee, 0x78a5636f, 0x84c87814, 0x8cc70208, 0x90befffa, 0xa4506ceb, 0xbef9a3f7, 0xc67178f2]

/-- The eight words of the state. -/
structure State where
  a : UInt32
  b : UInt32
  c : UInt32
  d : UInt32
  e : UInt32
  f : UInt32
  g : UInt32
  h : UInt32
deriving DecidableEq

namespace State

/-- The words before the first block: the first 32 bits of the fractions of the square roots of the first eight
primes. -/
def initial : State :=
  ⟨0x6a09e667, 0xbb67ae85, 0x3c6ef372, 0xa54ff53a, 0x510e527f, 0x9b05688c, 0x1f83d9ab, 0x5be0cd19⟩

/-- The sum word by word. -/
def add (s t : State) : State :=
  ⟨s.a + t.a, s.b + t.b, s.c + t.c, s.d + t.d, s.e + t.e, s.f + t.f, s.g + t.g, s.h + t.h⟩

/-- The words in order. -/
def words (s : State) : List UInt32 := [s.a, s.b, s.c, s.d, s.e, s.f, s.g, s.h]

end State

/-- A word with its bits turned to the right. -/
def rotate (w amount : UInt32) : UInt32 := (w >>> amount) ||| (w <<< (32 - amount))

/-- One round: a word of the schedule and a constant are mixed into the state. -/
def round (s : State) (word constant : UInt32) : State :=
  let mixE := rotate s.e 6 ^^^ rotate s.e 11 ^^^ rotate s.e 25
  let choice := (s.e &&& s.f) ^^^ (~~~s.e &&& s.g)
  let first := s.h + mixE + choice + constant + word
  let mixA := rotate s.a 2 ^^^ rotate s.a 13 ^^^ rotate s.a 22
  let majority := (s.a &&& s.b) ^^^ (s.a &&& s.c) ^^^ (s.b &&& s.c)
  ⟨first + (mixA + majority), s.a, s.b, s.c, s.d + first, s.e, s.f, s.g⟩

/-- The schedule with the word that follows from four earlier ones. -/
def extend (schedule : Array UInt32) (i : Nat) : Array UInt32 :=
  let x := schedule.getD (i - 15) 0
  let y := schedule.getD (i - 2) 0
  let mixX := rotate x 7 ^^^ rotate x 18 ^^^ (x >>> 3)
  let mixY := rotate y 17 ^^^ rotate y 19 ^^^ (y >>> 10)
  schedule.push (schedule.getD (i - 16) 0 + mixX + schedule.getD (i - 7) 0 + mixY)

/-- The words of which bytes consist, four bytes each, the first byte weighing most. -/
def wordsOf : List UInt8 → List UInt32
  | a :: b :: c :: d :: rest =>
    (a.toUInt32 <<< 24 ||| b.toUInt32 <<< 16 ||| c.toUInt32 <<< 8 ||| d.toUInt32) :: wordsOf rest
  | _ => []

/-- The state after one more block of sixteen words. -/
def compress (s : State) (block : List UInt32) : State :=
  let schedule := (List.range' 16 48).foldl extend block.toArray
  s.add ((List.range 64).foldl (fun s i => round s (schedule.getD i 0) (roundConstants.getD i 0)) s)

/-- The bytes of a natural number, the first weighing most. -/
def bytesOf (width n : Nat) : List UInt8 :=
  match width with
  | 0 => []
  | w + 1 => bytesOf w (n / 256) ++ [UInt8.ofNat n]

/-- A message with the bit and the length that end it: a multiple of 64 bytes. -/
def pad (message : List UInt8) : List UInt8 :=
  let size := message.length
  message ++ 0x80 :: List.replicate ((119 - size % 64) % 64) 0 ++ bytesOf 8 (8 * size)

/-- The state after all blocks of a list of words, of which there are at most `count`. -/
def absorb (count : Nat) (s : State) (words : List UInt32) : State :=
  match count, words with
  | count + 1, w :: rest => absorb count (compress s ((w :: rest).take 16)) ((w :: rest).drop 16)
  | _, _ => s

/-- The digest of a message: 32 bytes. -/
def digest (message : List UInt8) : List UInt8 :=
  let words := wordsOf (pad message)
  (absorb words.length .initial words).words.flatMap fun w => bytesOf 4 w.toNat

/-- The digest in base sixteen. -/
def hexDigest (message : List UInt8) : Text := (digest message).flatMap fun b => Text.hex 2 b.toNat

end YieldPool.Sha256
