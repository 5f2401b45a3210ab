/-!
# TOML strings, numbers and dates

There are four kinds of strings: in quotation marks with escapes or in
apostrophes without them, each on one line or over several. A string over several
lines drops a line break right behind its opening marks, and may end in one or two
marks of its own. Every reader answers what it finds at the head of a text and
what follows.

Numbers, dates and truth values stand without quotes and brackets. Digits may be
grouped by single underscores, and dates are checked against the calendar. Numbers
that are too large, and texts that begin like an integer in groups but go on
otherwise, are kept as unusable: they are a fault only where their value is asked
for.
-/

namespace OrgGovernance.Toml

/-- Whether a character is a blank within a line. -/
def isSpace (c : Char) : Bool := c == ' ' || c == '\t'

/-- The text behind the blanks at its head. -/
def skipSpaces (text : List Char) : List Char := text.dropWhile isSpace

/-- What follows a line break. -/
def lineBreak? : List Char → Option (List Char)
  | '\n' :: rest => some rest
  | '\r' :: '\n' :: rest => some rest
  | _ => none

/-- Whether a character may stand in a string or a comment as it is. -/
def isPrintable (c : Char) : Bool := c == '\t' || (0x20 ≤ c.toNat && c.toNat != 0x7f)

/-- The value of a hexadecimal digit of either case. -/
def hexValue? (c : Char) : Option Nat :=
  if c.isDigit then some (c.toNat - 48)
  else if 'a' ≤ c ∧ c ≤ 'f' then some (c.toNat - 87)
  else if 'A' ≤ c ∧ c ≤ 'F' then some (c.toNat - 55)
  else none

/-- The character of a fixed count of hexadecimal digits, if there is one. -/
def codePoint? (count : Nat) (text : List Char) : Option (Char × List Char) := do
  let digits ← (text.take count).mapM hexValue?
  if digits.length ≠ count then none
  let n := digits.foldl (fun n d => n * 16 + d) 0
  if h : n.isValidChar then return (Char.ofNatAux n h, text.drop count) else none

/-- The character of an escape behind its backslash. -/
def escape? : List Char → Option (Char × List Char)
  | 'b' :: rest => some ('\x08', rest)
  | 't' :: rest => some ('\t', rest)
  | 'n' :: rest => some ('\n', rest)
  | 'f' :: rest => some ('\x0c', rest)
  | 'r' :: rest => some ('\r', rest)
  | 'e' :: rest => some ('\x1b', rest)
  | '"' :: rest => some ('"', rest)
  | '\\' :: rest => some ('\\', rest)
  | 'x' :: rest => codePoint? 2 rest
  | 'u' :: rest => codePoint? 4 rest
  | 'U' :: rest => codePoint? 8 rest
  | _ => none

/-- A string in quotation marks on one line, behind its opening mark. -/
def quoted? : (fuel : Nat) → List Char → Option (List Char × List Char)
  | 0, _ => none
  | _, [] => none
  | _, '"' :: rest => some ([], rest)
  | fuel + 1, '\\' :: rest => do
    let (c, rest) ← escape? rest
    let (cs, rest) ← quoted? fuel rest
    return (c :: cs, rest)
  | fuel + 1, c :: rest =>
    if isPrintable c then do
      let (cs, rest) ← quoted? fuel rest
      return (c :: cs, rest)
    else none

/-- A string in apostrophes on one line, behind its opening mark. -/
def literal? : List Char → Option (List Char × List Char)
  | [] => none
  | '\'' :: rest => some ([], rest)
  | c :: rest =>
    if isPrintable c then (literal? rest).map fun r => (c :: r.1, r.2) else none

/-- The text behind all blanks and line breaks at its head. -/
def skipLines : List Char → List Char
  | '\r' :: '\n' :: rest => skipLines rest
  | c :: rest => if isSpace c || c == '\n' then skipLines rest else c :: rest
  | [] => []

/-- The closing marks of a string over several lines: the string's own last
marks, of which there are at most two, and what follows. -/
def closing? (mark : Char) : List Char → Option (List Char × List Char)
  | a :: b :: c :: rest =>
    if a = mark ∧ b = mark ∧ c = mark then
      match rest with
      | d :: e :: more =>
        if d = mark ∧ e = mark then some ([mark, mark], more)
        else if d = mark then some ([mark], e :: more)
        else some ([], rest)
      | [d] => if d = mark then some ([mark], []) else some ([], rest)
      | [] => some ([], [])
    else none
  | _ => none

/-- A string over several lines, behind its opening marks; only the kind in
quotation marks has escapes, among them a backslash that joins lines. -/
def lines? (mark : Char) : (fuel : Nat) → List Char → Option (List Char × List Char)
  | 0, _ => none
  | fuel + 1, text =>
    match closing? mark text with
    | some last => some last
    | none =>
      match text with
      | [] => none
      | '\r' :: '\n' :: rest => (lines? mark fuel rest).map fun r => ('\r' :: '\n' :: r.1, r.2)
      | c :: rest =>
        if c = '\\' ∧ mark = '"' then
          if (lineBreak? (skipSpaces rest)).isSome then lines? mark fuel (skipLines rest)
          else do
            let (c, rest) ← escape? rest
            let (cs, rest) ← lines? mark fuel rest
            return (c :: cs, rest)
        else if isPrintable c || c == '\n' then
          (lines? mark fuel rest).map fun r => (c :: r.1, r.2)
        else none

/-- The text without a line break at its head. -/
def skipLineBreak (text : List Char) : List Char := (lineBreak? text).getD text

/-- A string on one line, of either kind. -/
def lineString? : List Char → Option (String × List Char)
  | '"' :: rest => (quoted? (rest.length + 1) rest).map fun r => (String.ofList r.1, r.2)
  | '\'' :: rest => (literal? rest).map fun r => (String.ofList r.1, r.2)
  | _ => none

/-- A string of any kind. -/
def string? : List Char → Option (String × List Char)
  | '"' :: '"' :: '"' :: rest =>
    (lines? '"' (rest.length + 1) (skipLineBreak rest)).map fun r => (String.ofList r.1, r.2)
  | '\'' :: '\'' :: '\'' :: rest =>
    (lines? '\'' (rest.length + 1) (skipLineBreak rest)).map fun r => (String.ofList r.1, r.2)
  | text => lineString? text

/-- A value that is written without quotes and brackets. -/
inductive Scalar
  /-- An integer. -/
  | integer (value : Int)
  /-- A number that is no integer. -/
  | float
  /-- A truth value. -/
  | truth (value : Bool)
  /-- A date, a time or both. -/
  | moment
  /-- A number that has no value. -/
  | unusable
  deriving DecidableEq, Repr

namespace Scalar

/-- The digits of a group without its underscores, each of which has to stand
between two digits. -/
def ungrouped? (isDigit : Char → Bool) : List Char → Option (List Char)
  | [] => none
  | [c] => if isDigit c then some [c] else none
  | c :: '_' :: rest =>
    if isDigit c then (ungrouped? isDigit rest).map (c :: ·) else none
  | c :: rest => if isDigit c then (ungrouped? isDigit rest).map (c :: ·) else none

/-- The value of a digit in bases up to sixteen. -/
def digitValue (c : Char) : Nat :=
  if c.isDigit then c.toNat - 48
  else if 'a' ≤ c ∧ c ≤ 'f' then c.toNat - 87
  else if 'A' ≤ c ∧ c ≤ 'F' then c.toNat - 55
  else 16

/-- The number of grouped digits in a base. -/
def grouped? (base : Nat) (text : List Char) : Option Nat := do
  let digits ← ungrouped? (fun c => digitValue c < base) text
  return digits.foldl (fun n c => n * base + digitValue c) 0

/-- A sign, if there is one, and what follows it. -/
def signed : List Char → Bool × List Char
  | '+' :: rest => (false, rest)
  | '-' :: rest => (true, rest)
  | text => (false, text)

/-- Grouped decimal digits without a leading zero. -/
def whole? : List Char → Option (List Char)
  | ['0'] => some ['0']
  | '0' :: _ => none
  | text => ungrouped? Char.isDigit text

/-- An integer between the least signed and the largest unsigned number of 128
bits; all others are unusable. -/
def ofInt (value : Int) : Scalar :=
  if -(Nat.pow 2 127 : Int) ≤ value ∧ value < (Nat.pow 2 128 : Int) then .integer value
  else .unusable

/-- The number of the digits behind the mark of a base, which is unusable without them. -/
def based? (base : Nat) : List Char → Option Scalar
  | [] => some .unusable
  | digits => (grouped? base digits).map fun n => ofInt n

/-- An integer in decimal, hexadecimal, octal or binary digits. -/
def integer? : List Char → Option Scalar
  | '0' :: 'x' :: digits => based? 16 digits
  | '0' :: 'o' :: digits => based? 8 digits
  | '0' :: 'b' :: digits => based? 2 digits
  | text => do
    let (negative, digits) := signed text
    let digits ← whole? digits
    let n := Nat.ofDigitChars 10 digits 0
    return ofInt (if negative then -(n : Int) else n)

/-- Whether every underscore stands between two digits of bases up to sixteen, given
the character before. -/
def isGrouping : Char → List Char → Bool
  | _, [] => true
  | before, '_' :: rest =>
    digitValue before < 16 && (rest.head?.any fun c => digitValue c < 16) && isGrouping '_' rest
  | _, c :: rest => isGrouping c rest

/-- A text that begins with grouped decimal digits, without a leading zero, but
goes on with other characters than those of a fraction or an exponent. -/
def spoiled? (text : List Char) : Option Scalar :=
  let (_, body) := signed text
  let (digits, rest) := body.span Char.isDigit
  if rest.head? = some '_' ∧ digits ≠ [] ∧ digits.head? ≠ some '0' ∧ isGrouping ' ' body
      ∧ rest.all fun c => c ≠ ' ' ∧ c ≠ '.' ∧ c ≠ 'e' ∧ c ≠ 'E' then
    some .unusable
  else none

/-- Whether `digits · 10 ^ exponent` lies in the range of double precision, that
is below the midpoint between the largest finite number and the next power of two. -/
def isFinite (digits : List Char) (exponent : Int) : Bool :=
  let significant := digits.dropWhile (· == '0')
  let magnitude := exponent + significant.length
  if significant.isEmpty || magnitude < 300 then true
  else if magnitude > 320 then false
  else
    let n := Nat.ofDigitChars 10 significant 0
    let limit := Nat.pow 2 1024 - Nat.pow 2 970
    if exponent ≥ 0 then n * Nat.pow 10 exponent.toNat < limit
    else n < limit * Nat.pow 10 (-exponent).toNat

/-- The exponent behind its letter. -/
def exponent? (text : List Char) : Option Int := do
  let (negative, digits) := signed text
  let digits ← ungrouped? Char.isDigit digits
  let n := Nat.ofDigitChars 10 digits 0
  return if negative then -(n : Int) else n

/-- A number with a fraction, an exponent or both, or one of the special numbers. -/
def float? (text : List Char) : Option Scalar := do
  let (_, body) := signed text
  if body = ['i', 'n', 'f'] ∨ body = ['n', 'a', 'n'] then return .float
  let (mantissa, power) := body.span fun c => c != 'e' && c != 'E'
  let (whole, fraction) := mantissa.span (· != '.')
  if power.isEmpty && fraction.isEmpty then none
  let whole ← whole? whole
  let fraction ←
    match fraction with
    | [] => some []
    | _ :: digits => ungrouped? Char.isDigit digits
  let exponent ←
    match power with
    | [] => some 0
    | _ :: digits => exponent? digits
  return if isFinite (whole ++ fraction) (exponent - fraction.length) then .float else .unusable

/-- The number of a fixed count of digits. -/
def fixed? (count : Nat) (text : List Char) : Option (Nat × List Char) :=
  let digits := text.take count
  if digits.length = count && digits.all Char.isDigit then
    some (Nat.ofDigitChars 10 digits 0, text.drop count)
  else none

/-- What follows a given character. -/
def behind? (c : Char) : List Char → Option (List Char)
  | [] => none
  | head :: rest => if head = c then some rest else none

/-- The days of a month. -/
def daysOf (year month : Nat) : Nat :=
  if month = 2 then
    if year % 4 = 0 ∧ (year % 100 ≠ 0 ∨ year % 400 = 0) then 29 else 28
  else if month = 4 ∨ month = 6 ∨ month = 9 ∨ month = 11 then 30
  else 31

/-- What follows a date of the calendar. -/
def date? (text : List Char) : Option (List Char) := do
  let (year, text) ← fixed? 4 text
  let text ← behind? '-' text
  let (month, text) ← fixed? 2 text
  let text ← behind? '-' text
  let (day, text) ← fixed? 2 text
  if 1 ≤ month ∧ month ≤ 12 ∧ 1 ≤ day ∧ day ≤ daysOf year month then return text else none

/-- What follows the seconds of a time, if it has them, and their fraction. -/
def seconds? : List Char → Option (List Char)
  | ':' :: text => do
    let (second, text) ← fixed? 2 text
    if second > 60 then none
    match text with
    | '.' :: text =>
      let (digits, text) := text.span Char.isDigit
      if digits.isEmpty then none else return text
    | text => return text
  | text => some text

/-- What follows a time of the day. -/
def time? (text : List Char) : Option (List Char) := do
  let (hour, text) ← fixed? 2 text
  let text ← behind? ':' text
  let (minute, text) ← fixed? 2 text
  if hour > 23 ∨ minute > 59 then none
  seconds? text

/-- Whether a text is an offset from universal time, or nothing. -/
def isOffset : List Char → Bool
  | [] => true
  | ['Z'] => true
  | ['z'] => true
  | sign :: text =>
    (sign == '+' || sign == '-') &&
      ((do
        let (hour, text) ← fixed? 2 text
        let text ← behind? ':' text
        let (minute, text) ← fixed? 2 text
        return hour ≤ 23 && minute ≤ 59 && text.isEmpty).getD false)

/-- A date, a time of the day or both. -/
def moment? (text : List Char) : Option Scalar :=
  match date? text with
  | none =>
    match time? text with
    | some [] => some .moment
    | _ => none
  | some [] => some .moment
  | some (separator :: text) =>
    if separator = 'T' ∨ separator = 't' ∨ separator = ' ' then
      match time? text with
      | some rest => if isOffset rest then some .moment else none
      | none => none
    else none

/-- The value of a text without quotes and brackets. -/
def ofChars? (text : List Char) : Option Scalar :=
  if text = ['t', 'r', 'u', 'e'] then some (.truth true)
  else if text = ['f', 'a', 'l', 's', 'e'] then some (.truth false)
  else integer? text <|> float? text <|> moment? text <|> spoiled? text

end Scalar

end OrgGovernance.Toml
