import OrgGovernance.Digest
import Mathlib.Data.List.Basic
import Mathlib.Tactic.Common

/-!
# The texts of digests

A number that fits the bytes it is written in is determined by them. The bytes of a
text are those of its characters in turn; a character of ASCII is one byte, and no
other character begins with such a byte.

The digits of a byte string are ASCII characters, two for every byte, and the
second of them is no `x`, so that no byte string is taken for a mark. Reading
the digits gives the bytes again, and likewise for digests.

A text is read as a digest exactly when it consists of marks and sixty-four digits
of either case, and the digest is then shown by these digits in lower case. Another
even number of digits is refused for its length, and every other text for what
stands in it. A shown digest is read back behind any number of marks.
-/

namespace OrgGovernance

namespace Bytes

-- The function `Nat.pow` is named, for `^` means another instance once algebra is imported.

/-- Numbers that fit a count of bytes and are written in the same ones are equal. -/
theorem littleEndian_inj {count m n : Nat} (hm : m < Nat.pow 256 count)
    (hn : n < Nat.pow 256 count) (h : littleEndian count m = littleEndian count n) : m = n := by
  induction count generalizing m n with
  | zero =>
    have hm' : m < 1 := hm
    have hn' : n < 1 := hn
    omega
  | succ count ih =>
    obtain ⟨hlow, hhigh⟩ := List.cons.inj h
    have hfits : ∀ {k : Nat}, k < Nat.pow 256 (count + 1) → k / 256 < Nat.pow 256 count :=
      fun hk => Nat.div_lt_of_lt_mul (by rwa [Nat.mul_comm])
    have hrest : m / 256 = n / 256 := ih (hfits hm) (hfits hn) hhigh
    have hdigit : m % 256 % 256 = n % 256 % 256 := congrArg UInt8.toNat hlow
    omega

/-- The same holds when the most significant byte comes first. -/
theorem bigEndian_inj {count m n : Nat} (hm : m < Nat.pow 256 count) (hn : n < Nat.pow 256 count)
    (h : bigEndian count m = bigEndian count n) : m = n :=
  littleEndian_inj hm hn (List.reverse_inj.mp h)

/-- A number of a width in whole bytes is determined by them. -/
theorem littleEndian_toNat_inj (count : Nat) {m n : Word (8 * count)}
    (h : littleEndian count m.toNat = littleEndian count n.toNat) : m = n := by
  have width : Nat.pow 2 (8 * count) = Nat.pow 256 count := Nat.pow_mul 2 8 count
  have fits : ∀ k : Word (8 * count), k.toNat < Nat.pow 256 count := fun k => width ▸ k.toNat_lt
  exact Word.ext (littleEndian_inj (fits m) (fits n) h)

/-- The same holds when the most significant byte comes first. -/
theorem bigEndian_toNat_inj (count : Nat) {m n : Word (8 * count)}
    (h : bigEndian count m.toNat = bigEndian count n.toNat) : m = n :=
  littleEndian_toNat_inj count (List.reverse_inj.mp h)

/-- The UTF-8 bytes of characters. -/
def ofChars (chars : List Char) : Bytes := chars.flatMap String.utf8EncodeChar

/-- The bytes of a text are those of its characters. -/
theorem ofText_eq_ofChars (text : String) : ofText text = ofChars text.toList := by
  obtain ⟨chars, rfl⟩ : ∃ chars, text = String.ofList chars :=
    ⟨text.toList, String.ofList_toList.symm⟩
  simp [ofText, ofChars, List.utf8Encode]

/-- A character of ASCII is one byte, its number. -/
theorem utf8EncodeChar_of_ascii {c : Char} (ascii : c.toNat < 128) :
    String.utf8EncodeChar c = [UInt8.ofNat c.toNat] := by
  unfold String.utf8EncodeChar
  exact if_pos (Nat.le_of_lt_succ ascii)

/-- A character of several bytes begins with none of ASCII. -/
theorem ascii_of_utf8EncodeChar {c : Char} {byte : UInt8} {rest : Bytes}
    (encoded : String.utf8EncodeChar c = byte :: rest) (ascii : byte.toNat < 128) :
    c.toNat = byte.toNat ∧ rest = [] := by
  rcases Nat.lt_or_ge c.toNat 128 with low | high
  · rw [utf8EncodeChar_of_ascii low, List.cons.injEq] at encoded
    obtain ⟨rfl, rfl⟩ := encoded
    exact ⟨(Nat.mod_eq_of_lt (Nat.lt_trans low (by decide))).symm, rfl⟩
  · -- All bytes of the longer forms are at least 128.
    have value : c.toNat = c.val.toNat := rfl
    have first : ∃ lead, 128 ≤ lead ∧ lead < 256 ∧ byte = UInt8.ofNat lead := by
      unfold String.utf8EncodeChar at encoded
      dsimp only at encoded
      split at encoded
      · omega
      · split at encoded
        · exact ⟨_, by omega, by omega, (List.cons.inj encoded).1.symm⟩
        · split at encoded
          · exact ⟨_, by omega, by omega, (List.cons.inj encoded).1.symm⟩
          · exact ⟨_, by omega, by omega, (List.cons.inj encoded).1.symm⟩
    obtain ⟨lead, least, most, rfl⟩ := first
    rw [UInt8.toNat_ofNat_of_lt' most] at ascii
    omega

/-- A byte of ASCII in front is that of a character. -/
theorem exists_of_ofChars_eq_cons {chars : List Char} {byte : UInt8} {bytes : Bytes}
    (encoded : ofChars chars = byte :: bytes) (ascii : byte.toNat < 128) :
    ∃ rest, chars = Char.ofNat byte.toNat :: rest ∧ ofChars rest = bytes := by
  cases chars with
  | nil => cases encoded
  | cons c rest =>
    rw [ofChars, List.flatMap_cons] at encoded
    cases first : String.utf8EncodeChar c with
    | nil => exact absurd first String.utf8EncodeChar_ne_nil
    | cons lead others =>
      rw [first, List.cons_append, List.cons.injEq] at encoded
      obtain ⟨rfl, behind⟩ := encoded
      obtain ⟨same, rfl⟩ := ascii_of_utf8EncodeChar first ascii
      exact ⟨rest, by rw [← same, Char.ofNat_toNat], behind⟩

end Bytes

namespace Hexadecimal

/-- The digit of a number below sixteen as a byte of text. -/
def digitByte (n : Nat) : UInt8 := (digit n).val.toUInt8

/-- The digit of a number below sixteen is one byte of text, has the number as its value and is
no `x`. -/
theorem digit_read {n : Nat} (h : n < 16) :
    (digit n).utf8Size = 1 ∧ value? (digitByte n) = some n ∧ digitByte n ≠ 120 := by
  have all : ∀ m : Fin 16,
      (digit m).utf8Size = 1 ∧ value? (digitByte m) = some m.val ∧ digitByte m ≠ 120 := by decide
  exact all ⟨n, h⟩

/-- The two digits of a byte as bytes of text. -/
def pairBytes (byte : UInt8) : Bytes := [digitByte (byte.toNat / 16), digitByte (byte.toNat % 16)]

/-- A byte consists of two numbers below sixteen. -/
theorem halves_lt (byte : UInt8) : byte.toNat / 16 < 16 ∧ byte.toNat % 16 < 16 := by
  have := byte.toNat_lt
  omega

/-- The text of a byte string has two bytes for each of its bytes. -/
theorem ofText_encode (bytes : Bytes) :
    Bytes.ofText (encode bytes) = bytes.flatMap pairBytes := by
  have one (byte : UInt8) : (pair byte).flatMap String.utf8EncodeChar = pairBytes byte := by
    obtain ⟨high, low⟩ := halves_lt byte
    simp only [pair, List.flatMap_cons, List.flatMap_nil,
      String.utf8EncodeChar_eq_singleton (digit_read high).1,
      String.utf8EncodeChar_eq_singleton (digit_read low).1]
    rfl
  have all : Bytes.ofText (encode bytes) = (bytes.flatMap pair).flatMap String.utf8EncodeChar := by
    rw [Bytes.ofText_eq_ofChars, encode, String.toList_ofList, Bytes.ofChars]
  simp only [all, List.flatMap_assoc, one]

/-- No written byte string begins with a mark. -/
theorem withoutMarks_pairs (bytes : Bytes) :
    withoutMarks (bytes.flatMap pairBytes) = bytes.flatMap pairBytes := by
  cases bytes with
  | nil => rfl
  | cons byte rest =>
    have apart := (digit_read (halves_lt byte).2).2.2
    rw [List.flatMap_cons, pairBytes, List.cons_append, List.cons_append, withoutMarks]
    exact fun _ marked => apart (List.cons.inj (List.cons.inj marked).2).1

/-- The bytes are read back from their digits, wherever these stand. -/
theorem decodePairs_pairs (position : Nat) (bytes : Bytes) :
    decodePairs position (bytes.flatMap pairBytes) = .ok bytes := by
  induction bytes generalizing position with
  | nil => rfl
  | cons byte rest ih =>
    obtain ⟨high, low⟩ := halves_lt byte
    have whole : UInt8.ofNat (16 * (byte.toNat / 16) + byte.toNat % 16) = byte := by
      rw [Nat.div_add_mod, UInt8.ofNat_toNat]
    simp only [List.flatMap_cons, pairBytes, List.cons_append, List.nil_append, decodePairs,
      (digit_read high).2.1, (digit_read low).2.1, ih, Except.map, whole]

/-- A byte string is read back from its digits. -/
theorem decodeMarked_encode (bytes : Bytes) : decodeMarked (encode bytes) = .ok bytes := by
  have even : (bytes.flatMap pairBytes).length % 2 ≠ 1 := by
    induction bytes with
    | nil => decide
    | cons byte rest ih =>
      rw [List.flatMap_cons, List.length_append, pairBytes, List.length_cons, List.length_singleton]
      omega
  rw [decodeMarked, ofText_encode, withoutMarks_pairs, decode, if_neg even, decodePairs_pairs]

/-- A byte string is determined by its digits. -/
theorem encode_inj {bytes other : Bytes} (h : encode bytes = encode other) : bytes = other := by
  have read := decodeMarked_encode bytes
  rw [h, decodeMarked_encode] at read
  exact (Except.ok.inj read).symm

end Hexadecimal

/-- A digest is read back from its text. -/
theorem Digest.ofText_text (digest : Digest) : Digest.ofText digest.text = .ok digest := by
  rw [Digest.ofText, Digest.text, Hexadecimal.decodeMarked_encode]
  exact dif_pos digest.length_bytes

namespace Hexadecimal

/-- The digits of either case. -/
def digits : List Char := "0123456789abcdefABCDEF".toList

/-- A digit is a character of ASCII, and its value is shown by the digit in lower case. -/
theorem value?_of_mem_digits {c : Char} (member : c ∈ digits) : c.toNat < 128 ∧
    ∃ n < 16, value? (UInt8.ofNat c.toNat) = some n ∧ digit n = c.toLower := by
  have all : digits.all (fun c => c.toNat < 128 ∧
      (value? (UInt8.ofNat c.toNat)).any (fun n => n < 16 ∧ digit n = c.toLower) = true) = true := by
    decide
  obtain ⟨ascii, shown⟩ := of_decide_eq_true (List.all_eq_true.mp all c member)
  obtain ⟨n, valued, shown⟩ := (Option.any_eq_true _ _).mp shown
  obtain ⟨small, lower⟩ := of_decide_eq_true shown
  exact ⟨ascii, n, small, valued, lower⟩

/-- A byte with a value is a digit. -/
theorem mem_digits_of_value? {byte : UInt8} {n : Nat} (valued : value? byte = some n) :
    byte.toNat < 128 ∧ Char.ofNat byte.toNat ∈ digits := by
  have all : ∀ byte : Fin 256, value? (UInt8.ofFin byte) ≠ none →
      byte < 128 ∧ Char.ofNat byte.val ∈ digits := by decide +kernel
  exact all byte.toFin (by simp [valued])

variable {chars : List Char} {bytes : Bytes}

/-- The digits of a byte string are twice as many as its bytes. -/
theorem length_pairs (bytes : Bytes) : (bytes.flatMap pair).length = 2 * bytes.length := by
  induction bytes with
  | nil => rfl
  | cons byte rest ih =>
    rw [List.flatMap_cons, List.length_append, ih, pair, List.length_cons, List.length_singleton,
      List.length_cons]
    omega

/-- The byte of two halves is written with the digits of both. -/
theorem pair_of_halves {h l : Nat} (hh : h < 16) (hl : l < 16) :
    pair (UInt8.ofNat (16 * h + l)) = [digit h, digit l] := by
  have small : 16 * h + l < 256 := by omega
  have high : (16 * h + l) / 16 = h := by omega
  have low : (16 * h + l) % 16 = l := by omega
  rw [pair, UInt8.toNat_ofNat_of_lt' small, high, low]

/-- Only digits are decoded. -/
theorem value?_of_decodePairs {position : Nat} {text : Bytes}
    (decoded : decodePairs position text = .ok bytes) :
    ∀ byte ∈ text, ∃ n, value? byte = some n := by
  induction position, text using decodePairs.induct generalizing bytes with
  | case1 position => exact fun _ member => nomatch member
  | case2 position byte => cases decoded
  | case3 position high low rest unvalued => simp [decodePairs, unvalued] at decoded
  | case4 position high low rest h valued unvalued =>
    simp [decodePairs, valued, unvalued] at decoded
  | case5 position high low rest h l second first ih =>
    simp only [decodePairs, first, second] at decoded
    cases behind : decodePairs (position + 2) rest with
    | error fault =>
      rw [behind] at decoded
      cases decoded
    | ok others =>
      intro byte member
      rcases List.mem_cons.mp member with rfl | member
      · exact ⟨h, first⟩
      · rcases List.mem_cons.mp member with rfl | member
        · exact ⟨l, second⟩
        · exact ih behind byte member

/-- Characters whose bytes all have a value are digits. -/
theorem mem_digits_of_ofChars (valued : ∀ byte ∈ Bytes.ofChars chars, ∃ n, value? byte = some n) :
    ∀ c ∈ chars, c ∈ digits := by
  intro c member
  cases encoded : String.utf8EncodeChar c with
  | nil => exact absurd encoded String.utf8EncodeChar_ne_nil
  | cons byte rest =>
    have inside : byte ∈ Bytes.ofChars chars :=
      List.mem_flatMap.mpr ⟨c, member, encoded ▸ List.mem_cons_self⟩
    obtain ⟨n, value⟩ := valued byte inside
    obtain ⟨ascii, digit⟩ := mem_digits_of_value? value
    have same := (Bytes.ascii_of_utf8EncodeChar encoded ascii).1
    rwa [← same, Char.ofNat_toNat] at digit

/-- An even number of digits is decoded as the bytes that they show in lower case. -/
theorem exists_decoded {count : Nat} (all : ∀ c ∈ chars, c ∈ digits)
    (even : chars.length = 2 * count) : ∃ bytes : Bytes, bytes.length = count ∧
      bytes.flatMap pair = chars.map Char.toLower ∧
      ∀ position, decodePairs position (Bytes.ofChars chars) = .ok bytes := by
  induction count generalizing chars with
  | zero =>
    rw [List.length_eq_zero_iff.mp even]
    exact ⟨[], rfl, rfl, fun _ => rfl⟩
  | succ count ih =>
    obtain ⟨high, low, rest, rfl⟩ : ∃ high low rest, chars = high :: low :: rest := by
      match chars, even with
      | high :: low :: rest, _ => exact ⟨high, low, rest, rfl⟩
      | [_], even => cases even
    have later : ∀ c ∈ rest, c ∈ digits := fun c member =>
      all c (List.mem_cons_of_mem _ (List.mem_cons_of_mem _ member))
    obtain ⟨bytes, counted, shown, decoded⟩ := ih later (by
      rw [List.length_cons, List.length_cons] at even
      omega)
    obtain ⟨highAscii, h, hh, highValue, highShown⟩ :=
      value?_of_mem_digits (all high List.mem_cons_self)
    obtain ⟨lowAscii, l, hl, lowValue, lowShown⟩ :=
      value?_of_mem_digits (all low (List.mem_cons_of_mem _ List.mem_cons_self))
    refine ⟨UInt8.ofNat (16 * h + l) :: bytes, ?_, ?_, fun position => ?_⟩
    · rw [List.length_cons, counted]
    · rw [List.flatMap_cons, pair_of_halves hh hl, shown, highShown, lowShown]
      rfl
    · have parts : Bytes.ofChars (high :: low :: rest) =
          UInt8.ofNat high.toNat :: UInt8.ofNat low.toNat :: Bytes.ofChars rest := by
        simp only [Bytes.ofChars, List.flatMap_cons, Bytes.utf8EncodeChar_of_ascii highAscii,
          Bytes.utf8EncodeChar_of_ascii lowAscii, List.singleton_append]
      simp only [parts, decodePairs, highValue, lowValue, decoded, Except.map]

/-- Digits of one byte each have as many bytes. -/
theorem length_ofChars (all : ∀ c ∈ chars, c ∈ digits) :
    (Bytes.ofChars chars).length = chars.length := by
  induction chars with
  | nil => rfl
  | cons c rest ih =>
    have ascii := (value?_of_mem_digits (all c List.mem_cons_self)).1
    have later := ih fun c member => all c (List.mem_cons_of_mem _ member)
    rw [Bytes.ofChars, List.flatMap_cons, Bytes.utf8EncodeChar_of_ascii ascii,
      List.singleton_append, List.length_cons, List.length_cons, ← later, Bytes.ofChars]

/-- Characters are decoded exactly when they are digits and show the bytes in lower case. -/
theorem decode_ofChars_eq_ok_iff : decode (Bytes.ofChars chars) = .ok bytes ↔
    (∀ c ∈ chars, c ∈ digits) ∧ chars.map Char.toLower = bytes.flatMap pair := by
  constructor
  · intro decoded
    unfold decode at decoded
    split at decoded
    · cases decoded
    · next even =>
      have all := mem_digits_of_ofChars (value?_of_decodePairs decoded)
      rw [length_ofChars all] at even
      obtain ⟨others, -, shown, decoded'⟩ :=
        exists_decoded all (show chars.length = 2 * (chars.length / 2) by omega)
      cases (decoded' 0).symm.trans decoded
      exact ⟨all, shown.symm⟩
  · rintro ⟨all, shown⟩
    have counted : chars.length = 2 * bytes.length := by
      rw [← length_pairs, ← shown, List.length_map]
    obtain ⟨others, -, shown', decoded⟩ := exists_decoded all counted
    have same : others = bytes := encode_inj (congrArg String.ofList (shown'.trans shown))
    rw [decode, length_ofChars all, if_neg (by omega), decoded 0, same]

/-- The characters of a number of marks. -/
def marks (count : Nat) : List Char := (List.replicate count ['0', 'x']).flatten

/-- A text consists of any number of marks and of digits behind them. -/
structure Marked (text : String) (chars : List Char) : Prop where
  /-- The text is that of marks and the digits. -/
  marked : ∃ count, text.toList = marks count ++ chars
  /-- All characters behind the marks are digits. -/
  all : ∀ c ∈ chars, c ∈ digits

/-- One mark more stands in front of the others. -/
theorem marks_succ (count : Nat) : marks (count + 1) = '0' :: 'x' :: marks count := by
  rw [marks, List.replicate_succ, List.flatten_cons]
  rfl

/-- Characters are any number of marks and others that do not begin with one. -/
theorem exists_marks (chars : List Char) :
    ∃ count rest, chars = marks count ++ rest ∧ ¬['0', 'x'] <+: rest := by
  by_cases marked : ['0', 'x'] <+: chars
  · obtain ⟨behind, rfl⟩ := marked
    obtain ⟨count, rest, same, unmarked⟩ := exists_marks behind
    refine ⟨count + 1, rest, ?_, unmarked⟩
    rw [same, marks_succ]
    rfl
  · exact ⟨0, chars, rfl, marked⟩
termination_by chars.length

/-- The bytes behind the marks are those of the characters behind them. -/
theorem withoutMarks_marks {rest : List Char} (count : Nat) (unmarked : ¬['0', 'x'] <+: rest) :
    withoutMarks (Bytes.ofChars (marks count ++ rest)) = Bytes.ofChars rest := by
  induction count with
  | zero =>
    show withoutMarks (Bytes.ofChars rest) = _
    unfold withoutMarks
    split
    · next behind encoded =>
      obtain ⟨later, rfl, encoded'⟩ := Bytes.exists_of_ofChars_eq_cons encoded (by decide)
      obtain ⟨last, rfl, -⟩ := Bytes.exists_of_ofChars_eq_cons encoded' (by decide)
      exact absurd ⟨last, rfl⟩ unmarked
    · rfl
  | succ count ih =>
    rw [marks_succ]
    exact ih

/-- No digits begin with a mark. -/
theorem not_marked_of_digits (all : ∀ c ∈ chars, c ∈ digits) : ¬['0', 'x'] <+: chars := by
  rintro ⟨rest, rfl⟩
  exact absurd (all 'x' (by simp)) (by decide)

/-- A text is decoded exactly when it is marked digits that show the bytes in lower case. -/
theorem decodeMarked_eq_ok_iff {text : String} : decodeMarked text = .ok bytes ↔
    ∃ chars, Marked text chars ∧ chars.map Char.toLower = bytes.flatMap pair := by
  rw [decodeMarked, Bytes.ofText_eq_ofChars]
  constructor
  · intro decoded
    obtain ⟨count, rest, parts, unmarked⟩ := exists_marks text.toList
    rw [parts, withoutMarks_marks count unmarked] at decoded
    obtain ⟨all, shown⟩ := decode_ofChars_eq_ok_iff.mp decoded
    exact ⟨rest, ⟨⟨count, parts⟩, all⟩, shown⟩
  · rintro ⟨chars, ⟨⟨count, parts⟩, all⟩, shown⟩
    rw [parts, withoutMarks_marks count (not_marked_of_digits all)]
    exact decode_ofChars_eq_ok_iff.mpr ⟨all, shown⟩

/-- A text is decoded as a number of bytes exactly when it is twice as many marked digits. -/
theorem exists_decodeMarked_iff (text : String) (count : Nat) :
    (∃ bytes, decodeMarked text = .ok bytes ∧ bytes.length = count) ↔
      ∃ chars, Marked text chars ∧ chars.length = 2 * count := by
  constructor
  · rintro ⟨bytes, decoded, rfl⟩
    obtain ⟨chars, marked, shown⟩ := decodeMarked_eq_ok_iff.mp decoded
    refine ⟨chars, marked, ?_⟩
    rw [← length_pairs, ← shown, List.length_map]
  · rintro ⟨chars, marked, even⟩
    obtain ⟨bytes, counted, shown, -⟩ := exists_decoded marked.all even
    exact ⟨bytes, decodeMarked_eq_ok_iff.mpr ⟨chars, marked, shown.symm⟩, counted⟩

/-- The characters that show bytes are digits in lower case. -/
theorem lower_of_mem_pairs {c : Char} (member : c ∈ bytes.flatMap pair) :
    c ∈ digits ∧ c.toLower = c := by
  have all : ∀ n : Fin 16, digit n ∈ digits ∧ (digit n).toLower = digit n := by decide
  obtain ⟨byte, -, half⟩ := List.mem_flatMap.mp member
  obtain ⟨high, low⟩ := halves_lt byte
  rcases List.mem_pair.mp half with rfl | rfl
  · exact all ⟨_, high⟩
  · exact all ⟨_, low⟩

/-- A written byte string is read back behind any number of marks. -/
theorem decodeMarked_marks_encode (count : Nat) (bytes : Bytes) :
    decodeMarked (String.ofList (marks count) ++ encode bytes) = .ok bytes := by
  have parts : (String.ofList (marks count) ++ encode bytes).toList =
      marks count ++ bytes.flatMap pair := by
    rw [String.toList_append, encode, String.toList_ofList, String.toList_ofList]
  refine decodeMarked_eq_ok_iff.mpr ⟨bytes.flatMap pair,
    ⟨⟨count, parts⟩, fun c member => (lower_of_mem_pairs member).1⟩, ?_⟩
  exact (List.map_congr_left fun c member => (lower_of_mem_pairs member).2).trans (List.map_id _)

end Hexadecimal

namespace Digest

open Hexadecimal

variable {text : String} {digest : Digest}

/-- A text is read as the digest of the bytes that it is decoded as. -/
theorem ofText_eq_ok_iff : ofText text = .ok digest ↔ decodeMarked text = .ok digest.bytes := by
  unfold ofText ofBytes
  constructor
  · intro read
    split at read
    · cases read
    · next decoded =>
      split at read
      · cases read
        exact decoded
      · cases read
  · intro decoded
    rw [decoded]
    exact dif_pos digest.length_bytes

/-- A text is refused for its length exactly when it is decoded as another number of bytes. -/
theorem ofText_eq_length_iff {count : Nat} : ofText text = .error (.length count) ↔
    ∃ bytes, decodeMarked text = .ok bytes ∧ bytes.length = count ∧ count ≠ 32 := by
  unfold ofText ofBytes
  constructor
  · intro refused
    split at refused
    · cases refused
    · next bytes decoded =>
      split at refused
      · cases refused
      · next other =>
        cases refused
        exact ⟨bytes, decoded, rfl, other⟩
  · rintro ⟨bytes, decoded, rfl, other⟩
    rw [decoded]
    exact dif_neg other

/-- A text is refused for what stands in it exactly when it is not decoded. -/
theorem ofText_eq_hexadecimal_iff : (∃ fault, ofText text = .error (.hexadecimal fault)) ↔
    ¬∃ bytes, decodeMarked text = .ok bytes := by
  unfold ofText ofBytes
  constructor
  · rintro ⟨fault, refused⟩ ⟨bytes, decoded⟩
    rw [decoded] at refused
    dsimp only at refused
    split at refused
    · cases refused
    · cases refused
  · intro undecoded
    cases decoded : decodeMarked text with
    | error fault => exact ⟨fault, rfl⟩
    | ok bytes => exact absurd ⟨bytes, decoded⟩ undecoded

/-- Sixty-four digits behind any number of marks are read as the digest that is shown by them in
lower case. Another even number of digits behind marks is refused for half of that number, and
every other text for what stands in it. The text of a digest behind any number of marks is read
as the digest. -/
theorem read_iff_marked_digits (text : String) (digest : Digest) :
    (ofText text = .ok digest ↔ ∃ chars, Marked text chars ∧ chars.length = 64 ∧
        digest.text = String.ofList (chars.map Char.toLower)) ∧
      ((∃ read, ofText text = .ok read) ↔ ∃ chars, Marked text chars ∧ chars.length = 64) ∧
      (∀ count, ofText text = .error (.length count) ↔
        ∃ chars, Marked text chars ∧ chars.length = 2 * count ∧ count ≠ 32) ∧
      ((∃ fault, ofText text = .error (.hexadecimal fault)) ↔
        ¬∃ chars, Marked text chars ∧ chars.length % 2 = 0) ∧
      ∀ count, ofText (String.ofList (marks count) ++ digest.text) = .ok digest := by
  have shows : ∀ chars : List Char, digest.text = String.ofList (chars.map Char.toLower) ↔
      chars.map Char.toLower = digest.bytes.flatMap pair := fun chars =>
    String.ofList_inj.trans eq_comm
  refine ⟨?_, ?_, fun count => ?_, ?_, fun count => ?_⟩
  · rw [ofText_eq_ok_iff, decodeMarked_eq_ok_iff]
    constructor
    · rintro ⟨chars, marked, shown⟩
      have counted := length_pairs digest.bytes
      rw [← shown, List.length_map, digest.length_bytes] at counted
      exact ⟨chars, marked, counted, (shows chars).mpr shown⟩
    · rintro ⟨chars, marked, -, shown⟩
      exact ⟨chars, marked, (shows chars).mp shown⟩
  · refine Iff.trans ?_ (exists_decodeMarked_iff text 32)
    constructor
    · rintro ⟨read, ended⟩
      exact ⟨read.bytes, ofText_eq_ok_iff.mp ended, read.length_bytes⟩
    · rintro ⟨bytes, decoded, counted⟩
      exact ⟨⟨bytes, counted⟩, ofText_eq_ok_iff.mpr decoded⟩
  · rw [ofText_eq_length_iff]
    constructor
    · rintro ⟨bytes, decoded, counted, other⟩
      obtain ⟨chars, marked, even⟩ := (exists_decodeMarked_iff text _).mp ⟨bytes, decoded, counted⟩
      exact ⟨chars, marked, even, other⟩
    · rintro ⟨chars, marked, even, other⟩
      obtain ⟨bytes, decoded, counted⟩ := (exists_decodeMarked_iff text _).mpr ⟨chars, marked, even⟩
      exact ⟨bytes, decoded, counted, other⟩
  · rw [ofText_eq_hexadecimal_iff, not_iff_not]
    constructor
    · rintro ⟨bytes, decoded⟩
      obtain ⟨chars, marked, even⟩ := (exists_decodeMarked_iff text _).mp ⟨bytes, decoded, rfl⟩
      exact ⟨chars, marked, by omega⟩
    · rintro ⟨chars, marked, even⟩
      have half : chars.length = 2 * (chars.length / 2) := by omega
      obtain ⟨bytes, decoded, -⟩ := (exists_decodeMarked_iff text _).mpr ⟨chars, marked, half⟩
      exact ⟨bytes, decoded⟩
  · exact ofText_eq_ok_iff.mpr (decodeMarked_marks_encode count digest.bytes)

example : ofText "0x0xabCD" = .error (.length 2) := by decide

example : ofText "0xabé" = .error (.hexadecimal (.badDigit 0xc3 2)) := by decide

end Digest

end OrgGovernance
