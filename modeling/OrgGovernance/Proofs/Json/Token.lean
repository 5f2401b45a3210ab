import OrgGovernance.Json
import OrgGovernance.Number
import Mathlib.Data.List.TakeDrop

/-!
# Texts that spell tokens

A character is written in one of three ways, each of which the scanner takes as
it is and the reader turns back into the character. A text of any characters can
therefore stand between quotes, and it is the text that is read from there.

A text spells a list of tokens when it consists of their characters, with blanks
between them wherever they stand, and no number runs into what follows it. Such a
text is cut into these tokens and no others. Parts of texts are put together as
long as what stands behind a number cannot belong to it.
-/

namespace OrgGovernance.Json

/-- Written characters that may stand between quotes: a scan takes them as they are and stops at
the quote behind them. -/
def Quotable (written : List Char) : Prop :=
  ∀ rest, scanString (written ++ '"' :: rest) = some (written, rest)

/-- A scan takes a part of a string as it is, whatever the string holds behind it. -/
def Scanned (part : List Char) : Prop :=
  ∀ tail, scanString (part ++ tail) = (scanString tail).map fun r => (part ++ r.1, r.2)

/-- Parts that are taken one by one make up a string. -/
theorem quotable_flatMap {α : Type} {items : List α} {part : α → List Char}
    (h : ∀ a ∈ items, Scanned (part a)) : Quotable (items.flatMap part) := by
  intro rest
  induction items with
  | nil => rfl
  | cons a items ih =>
    obtain ⟨first, later⟩ := List.forall_mem_cons.mp h
    rw [List.flatMap_cons, List.append_assoc, first, ih later]
    rfl

/-- The ways in which a character stands in a string. -/
inductive Escapes (c : Char) : List Char → Prop
  /-- Behind a backslash stands the letter that names the character. -/
  | short {letter : Char} (named : ofShortEscape? letter = some c)
    (short : isShortEscape letter = true) (apart : letter ≠ 'u') : Escapes c ['\\', letter]
  /-- Behind a backslash stands the number of the character in four digits. -/
  | control (low : c.toNat < 0x20) :
    Escapes c ['\\', 'u', '0', '0', hexDigit (c.toNat / 16), hexDigit (c.toNat % 16)]
  /-- The character stands for itself. -/
  | plain (plain : isPlain c = true) : Escapes c [c]

/-- A character that has a short escape is what the letter of the escape names. -/
theorem shortEscape?_eq_some {c letter : Char} (h : shortEscape? c = some letter) :
    ofShortEscape? letter = some c ∧ isShortEscape letter = true ∧ letter ≠ 'u' := by
  unfold shortEscape? at h
  iterate 7
    split at h
    · next same =>
      rw [same, ← Option.some.inj h]
      decide
  cases h

/-- A character is plain exactly when it is no control character, no quote and no backslash. -/
theorem isPlain_iff {c : Char} : isPlain c = true ↔ 0x20 ≤ c.toNat ∧ c ≠ '"' ∧ c ≠ '\\' := by
  simp only [isPlain, bne_iff_ne, Bool.and_eq_true, decide_eq_true_eq, and_assoc]

/-- Every character is written in one of the three ways. -/
theorem escapes_escapeChar (c : Char) : Escapes c (escapeChar c) := by
  unfold escapeChar
  split
  · next letter h =>
    obtain ⟨named, short, apart⟩ := shortEscape?_eq_some h
    exact .short named short apart
  · next h =>
    split
    · next low => exact .control low
    · next high =>
      -- Quote and backslash have short escapes, so the character is neither.
      refine .plain (isPlain_iff.mpr ⟨Nat.le_of_not_lt high, ?_, ?_⟩)
      · rintro rfl
        exact absurd h (by decide)
      · rintro rfl
        exact absurd h (by decide)

/-- The digit of a number below sixteen is hexadecimal and has the number as its value. -/
theorem hexValue?_hexDigit {n : Nat} (h : n < 16) :
    isHexDigit (hexDigit n) = true ∧ hexValue? (hexDigit n) = some n := by
  have all : ∀ m : Fin 16, isHexDigit (hexDigit m) = true ∧
      hexValue? (hexDigit m) = some m.val := by decide
  exact all ⟨n, h⟩

/-- However a character is written, a scan takes it as it is. -/
theorem Escapes.scanned {c : Char} {part : List Char} (h : Escapes c part) : Scanned part := by
  intro tail
  cases h with
  | @short letter named short apart =>
    simp only [List.cons_append, List.nil_append]
    rw [scanString]
    · rw [if_pos short]
    · exact fun _ _ _ _ _ digits _ => apart digits
  | control low =>
    have first := (hexValue?_hexDigit (n := c.toNat / 16) (by omega)).1
    have second := (hexValue?_hexDigit (n := c.toNat % 16) (by omega)).1
    simp only [List.cons_append, List.nil_append, scanString, first, second]
    rfl
  | plain plain =>
    obtain ⟨_, quote, backslash⟩ := isPlain_iff.mp plain
    simp only [List.cons_append, List.nil_append]
    rw [scanString]
    · rw [if_pos plain]
    · exact quote
    · exact fun _ _ _ _ _ same _ => backslash same
    · exact fun _ _ same _ => backslash same

/-- The number of a control character is read from its four digits. -/
theorem unit?_control {n : Nat} (h : n < 0x20) :
    unit? '0' '0' (hexDigit (n / 16)) (hexDigit (n % 16)) = some n := by
  have high := (hexValue?_hexDigit (n := n / 16) (by omega)).2
  have low := (hexValue?_hexDigit (n := n % 16) (by omega)).2
  have zero : hexValue? '0' = some 0 := by decide
  simp only [unit?, zero, high, low, Option.bind_eq_bind, Option.bind_some, Option.pure_def,
    Option.some.injEq]
  omega

/-- However a character is written, it is the first of what is read. -/
theorem Escapes.unescapeChars? {c : Char} {part : List Char} (h : Escapes c part)
    (tail : List Char) :
    unescapeChars? (part ++ tail) = (Json.unescapeChars? tail).map (c :: ·) := by
  cases h with
  | @short letter named short apart =>
    simp only [List.cons_append, List.nil_append]
    rw [Json.unescapeChars?]
    · rw [named]
    · exact fun _ _ _ _ _ digits _ => apart digits
  | control low =>
    have high : ¬(0xd800 ≤ c.toNat ∧ c.toNat < 0xdc00) := by omega
    have second : ¬(0xdc00 ≤ c.toNat ∧ c.toNat < 0xe000) := by omega
    simp only [List.cons_append, List.nil_append]
    rw [Json.unescapeChars?, unit?_control low]
    simp only [if_neg high, if_neg second, Char.ofNat_toNat]
  | plain plain =>
    obtain ⟨_, _, backslash⟩ := isPlain_iff.mp plain
    simp only [List.cons_append, List.nil_append]
    rw [Json.unescapeChars?]
    · exact fun _ _ _ _ _ same _ => backslash same
    · exact fun _ _ same _ => backslash same

/-- Every text may stand between quotes. -/
theorem quotable_escape (text : String) : Quotable (escape text) :=
  quotable_flatMap fun c _ => (escapes_escapeChar c).scanned

/-- A text is read back from what is written for it. -/
theorem unescape?_escape (text : String) : unescape? (escape text) = some text := by
  have chars : ∀ cs : List Char, unescapeChars? (cs.flatMap escapeChar) = some cs := by
    intro cs
    induction cs with
    | nil => rfl
    | cons c cs ih =>
      rw [List.flatMap_cons, (escapes_escapeChar c).unescapeChars?, ih]
      rfl
  rw [unescape?, escape, chars, Option.map_some, String.ofList_toList]

/-- The text of a string is read back. -/
@[simp] theorem text?_ofText (text : String) : (ofText text).text? = some text :=
  unescape?_escape text

/-- The decimal digits of a number may stand between quotes. -/
theorem quotable_toDigits (n : Nat) : Quotable (Nat.toDigits 10 n) := by
  rw [← List.flatMap_singleton' (Nat.toDigits 10 n)]
  refine quotable_flatMap fun c digit => (Escapes.plain ?_).scanned
  have decimal : c.isDigit = true := Nat.isDigit_of_mem_toDigits (by decide) (by decide) digit
  have bounds : 48 ≤ c.toNat := by
    simp only [Char.isDigit, Bool.and_eq_true, decide_eq_true_eq] at decimal
    exact decimal.1
  refine isPlain_iff.mpr ⟨by omega, ?_, ?_⟩
  · rintro rfl
    exact absurd decimal (by decide)
  · rintro rfl
    exact absurd decimal (by decide)

/-- Whether what stands behind a number cannot belong to it. -/
def endsNumber : List Char → Bool
  | [] => true
  | c :: _ => !c.isDigit && c != '.' && c != 'e' && c != 'E'

/-- A text consists of the characters of tokens and of blanks between them. -/
inductive Spells : List Char → List Token → Prop
  /-- The empty text spells no token. -/
  | nil : Spells [] []
  /-- A blank adds no token. -/
  | blank {c : Char} {text : List Char} {tokens : List Token} (blank : isBlank c = true)
    (spells : Spells text tokens) : Spells (c :: text) tokens
  /-- The characters of a token are scanned as this token. -/
  | token {t : Token} {text : List Char} {tokens : List Token} (visible : t.text ≠ [])
    (scans : scanToken (t.text ++ text) = some (t, text)) (spells : Spells text tokens) :
    Spells (t.text ++ text) (t :: tokens)

/-- No token begins with a blank. -/
theorem scanToken_blank {c : Char} (blank : isBlank c = true) (text : List Char) :
    scanToken (c :: text) = none := by
  simp only [isBlank, Bool.or_eq_true, beq_iff_eq] at blank
  rcases blank with ((rfl | rfl) | rfl) | rfl <;> rfl

/-- A text is cut into the tokens that it spells. -/
theorem Spells.tokensWithin {text : List Char} {tokens : List Token} (h : Spells text tokens)
    {fuel : Nat} (enough : text.length ≤ fuel) : tokensWithin fuel text = some tokens := by
  induction h generalizing fuel with
  | nil => cases fuel <;> rfl
  | blank blank spells ih =>
    cases fuel with
    | zero => cases enough
    | succ fuel =>
      rw [Json.tokensWithin, if_pos blank]
      exact ih (Nat.le_of_succ_le_succ enough)
  | @token t text tokens visible scans spells ih =>
    obtain ⟨c, part, written⟩ := List.exists_cons_of_ne_nil visible
    rw [written, List.cons_append] at scans enough ⊢
    have dark : ¬isBlank c = true := fun blank =>
      nomatch (scanToken_blank blank _).symm.trans scans
    cases fuel with
    | zero => cases enough
    | succ fuel =>
      have shorter : text.length ≤ fuel := by
        simp only [List.length_cons, List.length_append] at enough
        omega
      rw [Json.tokensWithin, if_neg dark, scans]
      simp only [ih shorter, Option.map_some]

/-- A part of a text spells tokens in front of everything that cannot belong to a number. -/
def Writes (part : List Char) (tokens : List Token) : Prop :=
  ∀ ⦃text : List Char⦄ ⦃later : List Token⦄, endsNumber text = true → Spells text later →
    Spells (part ++ text) (tokens ++ later)

/-- A part that spells tokens is cut into them when nothing follows. -/
theorem Writes.tokens? {part : List Char} {tokens : List Token} (h : Writes part tokens) :
    tokens? part = some tokens := by
  have spells := h rfl .nil
  rw [List.append_nil, List.append_nil] at spells
  exact spells.tokensWithin (Nat.le_refl _)

namespace Writes

/-- Blanks in front of a part add no tokens. -/
theorem blanks {blanks part : List Char} {tokens : List Token}
    (blank : ∀ c ∈ blanks, isBlank c = true) (h : Writes part tokens) :
    Writes (blanks ++ part) tokens := by
  intro text later ends spells
  induction blanks with
  | nil => exact h ends spells
  | cons c blanks ih =>
    obtain ⟨first, others⟩ := List.forall_mem_cons.mp blank
    exact .blank first (ih others)

/-- Two parts spell the tokens of both, when the second one does not continue a number. -/
theorem append {part part' : List Char} {tokens tokens' : List Token} (h : Writes part tokens)
    (h' : Writes part' tokens')
    (apart : ∀ text, endsNumber text = true → endsNumber (part' ++ text) = true) :
    Writes (part ++ part') (tokens ++ tokens') := by
  intro text later ends spells
  rw [List.append_assoc, List.append_assoc]
  exact h (apart text ends) (h' ends spells)

/-- The empty part spells no tokens. -/
theorem nil : Writes [] [] := fun _ _ _ spells => spells

end Writes

/-- A token that is scanned from its characters in front of anything. -/
structure Definite (t : Token) : Prop where
  /-- The token has characters. -/
  visible : t.text ≠ []
  /-- Its characters are scanned as this token. -/
  scans : ∀ text, scanToken (t.text ++ text) = some (t, text)

namespace Definite

/-- Every token other than a number and a string has characters of its own and is definite. -/
theorem fixed (t : Token) (number : ∀ written, t ≠ .number written)
    (string : ∀ written, t ≠ .string written) : Definite t := by
  cases t with
  | number written => exact absurd rfl (number written)
  | string written => exact absurd rfl (string written)
  | bool value => cases value <;> exact ⟨List.cons_ne_nil _ _, fun _ => rfl⟩
  | _ => exact ⟨List.cons_ne_nil _ _, fun _ => rfl⟩

/-- A string is definite with anything that may stand between quotes. -/
theorem string {written : List Char} (h : Quotable written) : Definite (.string written) where
  visible := List.cons_ne_nil _ _
  scans text := by
    have scans : scanString (written ++ ['"'] ++ text) = some (written, text) := by
      rw [List.append_assoc]
      exact h text
    simp only [Token.text, List.cons_append, scanToken, scans, Option.map_some]

variable {t : Token} {part : List Char} {tokens : List Token}

/-- The characters of a definite token may stand in front of any part. -/
theorem before (definite : Definite t) (h : Writes part tokens) :
    Writes (t.text ++ part) (t :: tokens) := by
  intro text later ends spells
  rw [List.append_assoc]
  exact .token definite.visible (definite.scans _) (h ends spells)

/-- A definite token is spelled by its characters. -/
theorem writes (definite : Definite t) : Writes t.text [t] := by
  have alone := definite.before .nil
  rwa [List.append_nil] at alone

end Definite

/-- Digits are taken up to where a number ends. -/
theorem scanDigits_append {digits text : List Char} (decimal : ∀ c ∈ digits, c.isDigit = true)
    (ends : endsNumber text = true) : scanDigits (digits ++ text) = (digits, text) := by
  have none : text.takeWhile Char.isDigit = [] ∧ text.dropWhile Char.isDigit = text := by
    cases text with
    | nil => exact ⟨rfl, rfl⟩
    | cons c text =>
      simp only [endsNumber, Bool.and_eq_true, Bool.not_eq_true'] at ends
      simp [ends.1.1.1]
  rw [scanDigits, List.span_eq_takeWhile_dropWhile, List.takeWhile_append_of_pos decimal,
    List.dropWhile_append_of_pos decimal, none.1, none.2, List.append_nil]

/-- A number has no fraction where it ends. -/
theorem scanFraction_ends {text : List Char} (ends : endsNumber text = true) :
    scanFraction text = some ([], text) := by
  cases text with
  | nil => rfl
  | cons c text =>
    simp only [endsNumber, Bool.and_eq_true, bne_iff_ne] at ends
    rw [scanFraction]
    exact fun _ point => ends.1.1.2 (List.cons.inj point).1

/-- A number has no exponent where it ends. -/
theorem scanExponent_ends {text : List Char} (ends : endsNumber text = true) :
    scanExponent text = some ([], text) := by
  cases text with
  | nil => rfl
  | cons c text =>
    simp only [endsNumber, Bool.and_eq_true, bne_iff_ne] at ends
    have neither : ¬(c = 'e' ∨ c = 'E') := not_or.mpr ⟨ends.1.2, ends.2⟩
    rw [scanExponent, if_neg neither]

/-- The digits of a number are digits, and there is a first one. -/
theorem exists_toDigits_eq_cons (n : Nat) : ∃ c digits, Nat.toDigits 10 n = c :: digits ∧
    c.isDigit = true ∧ ∀ d ∈ c :: digits, d.isDigit = true := by
  obtain ⟨c, digits, written⟩ := List.exists_cons_of_ne_nil (Nat.toDigits_ne_nil (n := n) (b := 10))
  have decimal : ∀ d ∈ c :: digits, d.isDigit = true := fun d digit =>
    Nat.isDigit_of_mem_toDigits (by decide) (by decide) (written ▸ digit)
  exact ⟨c, digits, written, decimal c List.mem_cons_self, decimal⟩

/-- The digits of a number are taken as its whole part, up to where it ends. -/
theorem scanWhole_toDigits (n : Nat) {text : List Char} (ends : endsNumber text = true) :
    scanWhole (Nat.toDigits 10 n ++ text) = some (Nat.toDigits 10 n, text) := by
  obtain ⟨c, digits, written, _, decimal⟩ := exists_toDigits_eq_cons n
  rw [written, List.cons_append]
  by_cases zero : c = '0'
  · -- A leading zero stands alone, so nothing is left of the digits.
    subst zero
    rw [Decimal.eq_nil_of_toDigits_eq_zero_cons written]
    rfl
  · have taken := scanDigits_append decimal ends
    rw [List.cons_append] at taken
    rw [scanWhole]
    · simp only [taken]
    · exact fun _ leading => zero (List.cons.inj leading).1

/-- The digits of a number are taken as a number, up to where it ends. -/
theorem scanNumber_toDigits (n : Nat) {text : List Char} (ends : endsNumber text = true) :
    scanNumber (Nat.toDigits 10 n ++ text) = some (Nat.toDigits 10 n, text) := by
  have unsigned : scanUnsigned (Nat.toDigits 10 n ++ text) = some (Nat.toDigits 10 n, text) := by
    simp only [scanUnsigned, scanWhole_toDigits n ends, scanFraction_ends ends,
      scanExponent_ends ends, Option.bind_eq_bind, Option.bind_some, List.append_nil,
      Option.pure_def]
  obtain ⟨c, digits, written, decimal, _⟩ := exists_toDigits_eq_cons n
  rw [scanNumber]
  · exact unsigned
  · intro rest signed
    rw [written, List.cons_append] at signed
    rw [(List.cons.inj signed).1] at decimal
    exact absurd decimal (by decide)

/-- A digit begins a number and no other token. -/
theorem scanToken_digit {c : Char} (decimal : c.isDigit = true) (text : List Char) :
    scanToken (c :: text) = (scanNumber (c :: text)).map fun r => (.number r.1, r.2) := by
  unfold scanToken
  split
  case h_11 => rfl
  all_goals
    next same =>
      rw [(List.cons.inj same).1] at decimal
      exact absurd decimal (by decide)

/-- A number is spelled by its digits. -/
theorem Writes.number (n : Nat) :
    Writes (Token.number (Nat.toDigits 10 n)).text [.number (Nat.toDigits 10 n)] := by
  intro text later ends spells
  have visible : (Token.number (Nat.toDigits 10 n)).text ≠ [] := Nat.toDigits_ne_nil
  refine .token visible ?_ spells
  have scans := scanNumber_toDigits n ends
  obtain ⟨c, digits, written, decimal, _⟩ := exists_toDigits_eq_cons n
  rw [Token.text, written, List.cons_append, scanToken_digit decimal, ← List.cons_append, ← written,
    scans, Option.map_some]

end OrgGovernance.Json
