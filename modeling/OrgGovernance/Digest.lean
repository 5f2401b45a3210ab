import OrgGovernance.Number

/-!
# Digests and identifiers

Byte strings are lists of bytes. Numbers enter them in a fixed number of bytes,
least or most significant byte first, and text enters them in UTF-8. Bytes are
written as two lower-case digits each. Reading takes either case and any number
of leading `0x` marks. A text of odd length is refused as a whole; otherwise the
first byte that is no digit is named with its position behind the marks.

The digest is SHA-256. The message is padded to blocks of sixteen words, each
block is expanded to sixty-four words, and the rounds fold every block into eight
words of state. The digest is the state, most significant byte first, so it always
has thirty-two bytes, and as a text it has sixty-four digits.

An identifier is the digest of a domain followed by its parts, written in
hexadecimal. Every part stands behind its length in eight bytes, so that no
byte can move from one part to the next without changing what is hashed.
-/

namespace OrgGovernance

/-- A string of bytes. -/
abbrev Bytes := List UInt8

namespace Bytes

/-- The last `count` base-256 digits of a number, least significant first. -/
def littleEndian : (count n : Nat) → Bytes
  | 0, _ => []
  | count + 1, n => UInt8.ofNat (n % 256) :: littleEndian count (n / 256)

/-- The last `count` base-256 digits of a number, most significant first. -/
def bigEndian (count n : Nat) : Bytes := (littleEndian count n).reverse

/-- The UTF-8 bytes of a text. -/
def ofText (text : String) : Bytes := text.toUTF8.data.toList

/-- A little-endian number takes exactly the bytes asked for. -/
@[simp] theorem length_littleEndian (count n : Nat) : (littleEndian count n).length = count := by
  induction count generalizing n with
  | zero => rfl
  | succ count ih => simp [littleEndian, ih]

/-- A big-endian number takes exactly the bytes asked for. -/
@[simp] theorem length_bigEndian (count n : Nat) : (bigEndian count n).length = count := by
  simp [bigEndian]

end Bytes

namespace Hexadecimal

/-- Why a text is no string of hexadecimal pairs. -/
inductive Fault
  /-- The text has an odd number of bytes. -/
  | oddLength
  /-- The byte at this position is no digit. -/
  | badDigit (byte : UInt8) (position : Nat)
  deriving DecidableEq, Repr

/-- The digit of a number below sixteen, in lower case. -/
def digit (n : Nat) : Char :=
  if n < 10 then Char.ofNat (48 + n) else Char.ofNat (87 + n)

/-- The value of a digit of either case, given as a byte of text. -/
def value? (byte : UInt8) : Option Nat :=
  let n := byte.toNat
  if 48 ≤ n ∧ n ≤ 57 then some (n - 48)
  else if 65 ≤ n ∧ n ≤ 70 then some (n - 55)
  else if 97 ≤ n ∧ n ≤ 102 then some (n - 87)
  else none

/-- The two digits of a byte. -/
def pair (byte : UInt8) : List Char := [digit (byte.toNat / 16), digit (byte.toNat % 16)]

/-- The digits of a byte string. -/
def encode (bytes : Bytes) : String := String.ofList (bytes.flatMap pair)

/-- Text behind all leading `0x` marks. -/
def withoutMarks : Bytes → Bytes
  | 48 :: 120 :: rest => withoutMarks rest
  | text => text

/-- Reads pairs of digits that start at the given position. -/
def decodePairs : Nat → Bytes → Except Fault Bytes
  | _, [] => .ok []
  | _, [_] => .error .oddLength
  | position, high :: low :: rest =>
    match value? high, value? low with
    | none, _ => .error (.badDigit high position)
    | some _, none => .error (.badDigit low (position + 1))
    | some h, some l => (decodePairs (position + 2) rest).map (UInt8.ofNat (16 * h + l) :: ·)

/-- Reads a text of pairs of digits without a mark. -/
def decode (text : Bytes) : Except Fault Bytes :=
  if text.length % 2 = 1 then .error .oddLength else decodePairs 0 text

/-- Reads a text of pairs of digits behind any number of `0x` marks. -/
def decodeMarked (text : String) : Except Fault Bytes :=
  decode (withoutMarks (Bytes.ofText text))

/-- The lower-case digits of a number without leading zeros. -/
def shortText (n : Nat) : String := String.ofList (Nat.toDigits 16 n)

/-- A byte shown as the character of its number, between apostrophes. An
apostrophe, a backslash and the usual control characters are shown by their
letters; other characters that have no shape of their own by their number. -/
def quoted (byte : UInt8) : String :=
  let n := byte.toNat
  let shown :=
    if n = 0 then "\\0"
    else if n = 9 then "\\t"
    else if n = 10 then "\\n"
    else if n = 13 then "\\r"
    else if n = 39 then "\\'"
    else if n = 92 then "\\\\"
    else if n < 32 ∨ (127 ≤ n ∧ n ≤ 160) ∨ n = 173 then "\\u\x7b" ++ shortText n ++ "\x7d"
    else String.singleton (Char.ofNat n)
  "'" ++ shown ++ "'"

/-- The wording of a fault. -/
def Fault.message : Fault → String
  | .oddLength => "Odd number of digits"
  | .badDigit byte position => s!"Invalid character {quoted byte} at position {position}"

end Hexadecimal

/-- Thirty-two bytes. -/
@[ext]
structure Digest where
  /-- The bytes in order. -/
  bytes : Bytes
  /-- There are thirty-two of them. -/
  length_bytes : bytes.length = 32
  deriving DecidableEq

namespace Sha256

/-- The eight words of state between blocks. -/
structure State where
  /-- The first word. -/
  a : UInt32
  /-- The second word. -/
  b : UInt32
  /-- The third word. -/
  c : UInt32
  /-- The fourth word. -/
  d : UInt32
  /-- The fifth word. -/
  e : UInt32
  /-- The sixth word. -/
  f : UInt32
  /-- The seventh word. -/
  g : UInt32
  /-- The eighth word. -/
  h : UInt32
  deriving DecidableEq, Repr

/-- The state before the first block. -/
def start : State :=
  ⟨0x6a09e667, 0xbb67ae85, 0x3c6ef372, 0xa54ff53a,
   0x510e527f, 0x9b05688c, 0x1f83d9ab, 0x5be0cd19⟩

/-- The constants of the sixty-four rounds. -/
def roundConstants : List UInt32 :=
  [0x428a2f98, 0x71374491, 0xb5c0fbcf, 0xe9b5dba5, 0x3956c25b, 0x59f111f1, 0x923f82a4, 0xab1c5ed5,
   0xd807aa98, 0x12835b01, 0x243185be, 0x550c7dc3, 0x72be5d74, 0x80deb1fe, 0x9bdc06a7, 0xc19bf174,
   0xe49b69c1, 0xefbe4786, 0x0fc19dc6, 0x240ca1cc, 0x2de92c6f, 0x4a7484aa, 0x5cb0a9dc, 0x76f988da,
   0x983e5152, 0xa831c66d, 0xb00327c8, 0xbf597fc7, 0xc6e00bf3, 0xd5a79147, 0x06ca6351, 0x14292967,
   0x27b70a85, 0x2e1b2138, 0x4d2c6dfc, 0x53380d13, 0x650a7354, 0x766a0abb, 0x81c2c92e, 0x92722c85,
   0xa2bfe8a1, 0xa81a664b, 0xc24b8b70, 0xc76c51a3, 0xd192e819, 0xd6990624, 0xf40e3585, 0x106aa070,
   0x19a4c116, 0x1e376c08, 0x2748774c, 0x34b0bcb5, 0x391c0cb3, 0x4ed8aa4a, 0x5b9cca4f, 0x682e6ff3,
   0x748f82ee, 0x78a5636f, 0x84c87814, 0x8cc70208, 0x90befffa, 0xa4506ceb, 0xbef9a3f7, 0xc67178f2]

/-- A word turned to the right by a number of places between one and thirty-one. -/
def rotated (x places : UInt32) : UInt32 := (x >>> places) ||| (x <<< (32 - places))

/-- Words sixteen at a time give the next word of the schedule. -/
def nextWord (oldest second tenth fifteenth : UInt32) : UInt32 :=
  let near := rotated fifteenth 17 ^^^ rotated fifteenth 19 ^^^ (fifteenth >>> 10)
  let far := rotated second 7 ^^^ rotated second 18 ^^^ (second >>> 3)
  near + tenth + far + oldest

/-- `count` further words of a schedule whose last sixteen words are given, oldest first. -/
def scheduleFrom : (count : Nat) → (window : List UInt32) → List UInt32
  | 0, _ => []
  | count + 1, window =>
    match window with
    | w0 :: w1 :: w2 :: w3 :: w4 :: w5 :: w6 :: w7 :: w8 :: w9 :: w10 :: w11 :: w12 :: w13 ::
        w14 :: w15 :: _ =>
      let next := nextWord w0 w1 w9 w14
      next :: scheduleFrom count
        [w1, w2, w3, w4, w5, w6, w7, w8, w9, w10, w11, w12, w13, w14, w15, next]
    | _ => []

/-- The sixty-four words of a block of sixteen. -/
def schedule (block : List UInt32) : List UInt32 := block ++ scheduleFrom 48 block

/-- One round with its constant and word of the schedule. -/
def round (s : State) (constant word : UInt32) : State :=
  let mixE := rotated s.e 6 ^^^ rotated s.e 11 ^^^ rotated s.e 25
  let choice := (s.e &&& s.f) ^^^ (~~~ s.e &&& s.g)
  let t1 := s.h + mixE + choice + constant + word
  let mixA := rotated s.a 2 ^^^ rotated s.a 13 ^^^ rotated s.a 22
  let majority := (s.a &&& s.b) ^^^ (s.a &&& s.c) ^^^ (s.b &&& s.c)
  ⟨t1 + (mixA + majority), s.a, s.b, s.c, s.d + t1, s.e, s.f, s.g⟩

/-- The state after a block: the rounds on the schedule, added to the state before. -/
def absorb (s : State) (block : List UInt32) : State :=
  let t := (roundConstants.zip (schedule block)).foldl (fun t kw => round t kw.1 kw.2) s
  ⟨s.a + t.a, s.b + t.b, s.c + t.c, s.d + t.d, s.e + t.e, s.f + t.f, s.g + t.g, s.h + t.h⟩

/-- The message with its closing bit, the zeros that fill a block and the bit count. -/
def padded (message : Bytes) : Bytes :=
  let zeros := (119 - message.length % 64) % 64
  message ++ 0x80 :: List.replicate zeros 0 ++ Bytes.bigEndian 8 (8 * message.length)

/-- The word of four bytes, most significant first. -/
def wordOf (b0 b1 b2 b3 : UInt8) : UInt32 :=
  (b0.toUInt32 <<< 24) ||| (b1.toUInt32 <<< 16) ||| (b2.toUInt32 <<< 8) ||| b3.toUInt32

/-- The words of a byte string whose length is a multiple of four. -/
def words : Bytes → List UInt32
  | b0 :: b1 :: b2 :: b3 :: rest => wordOf b0 b1 b2 b3 :: words rest
  | _ => []

/-- Folds `count` blocks of sixteen words into the state. -/
def absorbBlocks : (count : Nat) → State → List UInt32 → State
  | 0, s, _ => s
  | count + 1, s, ws => absorbBlocks count (absorb s (ws.take 16)) (ws.drop 16)

/-- The four bytes of a word, most significant first. -/
def bytesOf (w : UInt32) : Bytes := Bytes.bigEndian 4 w.toNat

/-- The bytes of a state. -/
def State.bytes (s : State) : Bytes :=
  bytesOf s.a ++ bytesOf s.b ++ bytesOf s.c ++ bytesOf s.d ++ bytesOf s.e ++ bytesOf s.f ++
    bytesOf s.g ++ bytesOf s.h

/-- A state has thirty-two bytes. -/
theorem length_stateBytes (s : State) : s.bytes.length = 32 := by
  simp [State.bytes, bytesOf]

/-- The digest of a message. -/
def hash (message : Bytes) : Digest :=
  let ws := words (padded message)
  ⟨(absorbBlocks (ws.length / 16) start ws).bytes, length_stateBytes _⟩

end Sha256

namespace Digest

/-- Why a text is no digest. -/
inductive Fault
  /-- The text is not hexadecimal. -/
  | hexadecimal (fault : Hexadecimal.Fault)
  /-- The text is hexadecimal for this other number of bytes. -/
  | length (count : Nat)
  deriving DecidableEq, Repr

/-- The wording of a fault. -/
def Fault.message : Fault → String
  | .hexadecimal fault => s!"Invalid hex: {fault.message}"
  | .length count => s!"Invalid digest length: expected 32 bytes, got {count}"

/-- The digits of a digest. -/
def text (digest : Digest) : String := Hexadecimal.encode digest.bytes

/-- The digest of thirty-two bytes. -/
def ofBytes (bytes : Bytes) : Except Fault Digest :=
  if h : bytes.length = 32 then .ok ⟨bytes, h⟩ else .error (.length bytes.length)

/-- Reads a digest from text. -/
def ofText (text : String) : Except Fault Digest :=
  match Hexadecimal.decodeMarked text with
  | .error fault => .error (.hexadecimal fault)
  | .ok bytes => ofBytes bytes

end Digest

namespace Identifier

/-- A part behind its length in eight bytes, most significant first. -/
def framed (part : Bytes) : Bytes := Bytes.bigEndian 8 part.length ++ part

/-- The bytes that are hashed for a domain and a list of parts. -/
def preimage (domain : Bytes) (parts : List Bytes) : Bytes := domain ++ parts.flatMap framed

/-- The identifier of a list of parts in a domain. -/
def derive (domain : Bytes) (parts : List Bytes) : String :=
  Hexadecimal.encode (Sha256.hash (preimage domain parts)).bytes

/-- The domain of organizations. -/
def organizationDomain : Bytes := Bytes.ofText "dorg/orgs"

/-- The domain of proposals. -/
def proposalDomain : Bytes := Bytes.ofText "dorg/proposals"

/-- The parts that name an organization: its number, in four bytes. -/
def organizationParts (number : Word 32) : List Bytes := [Bytes.bigEndian 4 number.toNat]

/-- The parts that name a proposal: its organization, its call and its number in eight bytes. -/
def proposalParts (organization : String) (call : Bytes) (number : Word 64) : List Bytes :=
  [Bytes.ofText organization, call, Bytes.bigEndian 8 number.toNat]

/-- The identifier of the organization with the given number. -/
def organization (number : Word 32) : String :=
  derive organizationDomain (organizationParts number)

/-- The identifier of a proposal. -/
def proposal (organization : String) (call : Bytes) (number : Word 64) : String :=
  derive proposalDomain (proposalParts organization call number)

end Identifier

end OrgGovernance
