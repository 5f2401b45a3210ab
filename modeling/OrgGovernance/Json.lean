/-!
# JSON text

A text is cut into punctuation, words, numbers and strings, with blanks between
them dropped. Numbers and strings are kept as they are written: the meaning of
an escape is a matter of who reads the string. A value is built from the tokens
by one pass with a stack of the containers that are still open. Writing a value
gives back its tokens, with or without layout. Members of an object keep their
order and their repetitions.

Inside a string a text is written with an escape for quotes, backslashes and the
characters below the space, and as it is otherwise. Reading resolves every
escape; a half of a surrogate pair that stands alone names no character, so a
string with one has no text.
-/

namespace OrgGovernance

namespace Json

/-- A token of JSON text. -/
inductive Token
  /-- The brace that begins an object. -/
  | openBrace
  /-- The brace that ends an object. -/
  | closeBrace
  /-- The bracket that begins an array. -/
  | openBracket
  /-- The bracket that ends an array. -/
  | closeBracket
  /-- The comma between elements or members. -/
  | comma
  /-- The colon behind a key. -/
  | colon
  /-- The word for no value. -/
  | null
  /-- The words for the truth values. -/
  | bool (value : Bool)
  /-- A number as it is written. -/
  | number (written : List Char)
  /-- A string as it is written between its quotes. -/
  | string (written : List Char)
  deriving DecidableEq, Repr

/-- Whether a character may stand between tokens. -/
def isBlank (c : Char) : Bool := c == ' ' || c == '\n' || c == '\t' || c == '\r'

/-- Whether a character is a hexadecimal digit. -/
def isHexDigit (c : Char) : Bool :=
  c.isDigit || ('a' ≤ c && c ≤ 'f') || ('A' ≤ c && c ≤ 'F')

/-- Whether a character names an escape by itself. -/
def isShortEscape (c : Char) : Bool :=
  c == '"' || c == '\\' || c == '/' || c == 'b' || c == 'f' || c == 'n' || c == 'r' || c == 't'

/-- Whether a character may stand in a string without an escape. -/
def isPlain (c : Char) : Bool := 0x20 ≤ c.toNat && c != '"' && c != '\\'

/-- The rest of a string and what follows its closing quote. -/
def scanString : List Char → Option (List Char × List Char)
  | [] => none
  | '"' :: rest => some ([], rest)
  | '\\' :: 'u' :: a :: b :: c :: d :: rest =>
    if isHexDigit a && isHexDigit b && isHexDigit c && isHexDigit d then
      (scanString rest).map fun r => ('\\' :: 'u' :: a :: b :: c :: d :: r.1, r.2)
    else none
  | '\\' :: c :: rest =>
    if isShortEscape c then (scanString rest).map fun r => ('\\' :: c :: r.1, r.2) else none
  | c :: rest =>
    if isPlain c then (scanString rest).map fun r => (c :: r.1, r.2) else none

/-- The digits at the head of a text and what follows them. -/
def scanDigits (text : List Char) : List Char × List Char := text.span Char.isDigit

/-- The whole part of a number, which has no leading zero, and what follows it. -/
def scanWhole : List Char → Option (List Char × List Char)
  | '0' :: rest => some (['0'], rest)
  | text =>
    match scanDigits text with
    | ([], _) => none
    | (digits, rest) => some (digits, rest)

/-- The fraction of a number, if there is one, and what follows it. -/
def scanFraction : List Char → Option (List Char × List Char)
  | '.' :: rest =>
    match scanDigits rest with
    | ([], _) => none
    | (digits, rest) => some ('.' :: digits, rest)
  | text => some ([], text)

/-- The sign of an exponent, if there is one, and what follows it. -/
def scanSign : List Char → List Char × List Char
  | '+' :: rest => (['+'], rest)
  | '-' :: rest => (['-'], rest)
  | text => ([], text)

/-- The exponent of a number, if there is one, and what follows it. -/
def scanExponent : List Char → Option (List Char × List Char)
  | [] => some ([], [])
  | e :: rest =>
    if e = 'e' ∨ e = 'E' then
      let sign := scanSign rest
      match scanDigits sign.2 with
      | ([], _) => none
      | (digits, rest) => some (e :: sign.1 ++ digits, rest)
    else some ([], e :: rest)

/-- A number without its sign and what follows it. -/
def scanUnsigned (text : List Char) : Option (List Char × List Char) := do
  let (whole, rest) ← scanWhole text
  let (fraction, rest) ← scanFraction rest
  let (exponent, rest) ← scanExponent rest
  return (whole ++ fraction ++ exponent, rest)

/-- A number and what follows it. -/
def scanNumber : List Char → Option (List Char × List Char)
  | '-' :: rest => (scanUnsigned rest).map fun r => ('-' :: r.1, r.2)
  | text => scanUnsigned text

/-- The first token of a text that does not begin with a blank, and what follows it. -/
def scanToken : List Char → Option (Token × List Char)
  | '{' :: rest => some (.openBrace, rest)
  | '}' :: rest => some (.closeBrace, rest)
  | '[' :: rest => some (.openBracket, rest)
  | ']' :: rest => some (.closeBracket, rest)
  | ',' :: rest => some (.comma, rest)
  | ':' :: rest => some (.colon, rest)
  | '"' :: rest => (scanString rest).map fun r => (.string r.1, r.2)
  | 'n' :: 'u' :: 'l' :: 'l' :: rest => some (.null, rest)
  | 't' :: 'r' :: 'u' :: 'e' :: rest => some (.bool true, rest)
  | 'f' :: 'a' :: 'l' :: 's' :: 'e' :: rest => some (.bool false, rest)
  | text => (scanNumber text).map fun r => (.number r.1, r.2)

/-- The tokens of a text, when it has no more than `fuel` characters. -/
def tokensWithin : (fuel : Nat) → List Char → Option (List Token)
  | _, [] => some []
  | 0, _ :: _ => none
  | fuel + 1, c :: rest =>
    if isBlank c then tokensWithin fuel rest
    else
      match scanToken (c :: rest) with
      | none => none
      | some (token, rest) => (tokensWithin fuel rest).map (token :: ·)

/-- The tokens of a text, when it consists of tokens and blanks. -/
def tokens? (text : List Char) : Option (List Token) := tokensWithin text.length text

/-- The characters of a token. -/
def Token.text : Token → List Char
  | .openBrace => ['{']
  | .closeBrace => ['}']
  | .openBracket => ['[']
  | .closeBracket => [']']
  | .comma => [',']
  | .colon => [':']
  | .null => ['n', 'u', 'l', 'l']
  | .bool true => ['t', 'r', 'u', 'e']
  | .bool false => ['f', 'a', 'l', 's', 'e']
  | .number written => written
  | .string written => '"' :: written ++ ['"']

end Json

/-- A JSON value; numbers and strings are kept as they are written. -/
inductive Json
  /-- No value. -/
  | null
  /-- A truth value. -/
  | bool (value : Bool)
  /-- A number as it is written. -/
  | number (written : List Char)
  /-- A string as it is written between its quotes. -/
  | string (written : List Char)
  /-- The elements of an array. -/
  | array (elements : List Json)
  /-- The members of an object, each key as it is written. -/
  | object (members : List (List Char × Json))

namespace Json

/-- A container that is still open, with what it holds so far in reverse. -/
inductive Frame
  /-- An array with its elements. -/
  | array (elements : List Json)
  /-- An object with its members and the key whose value comes next. -/
  | object (members : List (List Char × Json)) (key : List Char)

/-- What the next token may be. -/
inductive Expectation
  /-- A value. -/
  | value
  /-- A value or the end of the array that has just begun. -/
  | valueOrEnd
  /-- A key or the end of the object that has just begun. -/
  | keyOrEnd
  /-- A key of an object with these members in reverse. -/
  | key (members : List (List Char × Json))
  /-- The colon behind a key of an object with these members in reverse. -/
  | colon (members : List (List Char × Json)) (key : List Char)
  /-- A comma or the end of the innermost container: this value is complete. -/
  | continuation (complete : Json)

/-- The open containers, innermost first, and what may come next. -/
structure Reader where
  /-- The open containers, innermost first. -/
  stack : List Frame
  /-- What the next token may be. -/
  expecting : Expectation

namespace Reader

/-- The reader before the first token. -/
def start : Reader := ⟨[], .value⟩

/-- The reader after a token that begins or is a value. -/
def takeValue (stack : List Frame) : Token → Option Reader
  | .null => some ⟨stack, .continuation .null⟩
  | .bool value => some ⟨stack, .continuation (.bool value)⟩
  | .number written => some ⟨stack, .continuation (.number written)⟩
  | .string written => some ⟨stack, .continuation (.string written)⟩
  | .openBracket => some ⟨.array [] :: stack, .valueOrEnd⟩
  | .openBrace => some ⟨stack, .keyOrEnd⟩
  | _ => none

/-- The reader after a token that follows a complete value. -/
def takeContinuation (complete : Json) : List Frame → Token → Option Reader
  | .array elements :: stack, .comma => some ⟨.array (complete :: elements) :: stack, .value⟩
  | .array elements :: stack, .closeBracket =>
    some ⟨stack, .continuation (.array (complete :: elements).reverse)⟩
  | .object members key :: stack, .comma => some ⟨stack, .key ((key, complete) :: members)⟩
  | .object members key :: stack, .closeBrace =>
    some ⟨stack, .continuation (.object ((key, complete) :: members).reverse)⟩
  | _, _ => none

/-- The reader after a token. -/
def take (r : Reader) (token : Token) : Option Reader :=
  match r.expecting, token with
  | .value, token => takeValue r.stack token
  | .valueOrEnd, .closeBracket =>
    match r.stack with
    | .array elements :: stack => some ⟨stack, .continuation (.array elements.reverse)⟩
    | _ => none
  | .valueOrEnd, token => takeValue r.stack token
  | .keyOrEnd, .closeBrace => some ⟨r.stack, .continuation (.object [])⟩
  | .keyOrEnd, .string key => some ⟨r.stack, .colon [] key⟩
  | .keyOrEnd, _ => none
  | .key members, .string key => some ⟨r.stack, .colon members key⟩
  | .key _, _ => none
  | .colon members key, .colon => some ⟨.object members key :: r.stack, .value⟩
  | .colon _ _, _ => none
  | .continuation complete, token => takeContinuation complete r.stack token

/-- The value, when the reader has one and no container is open. -/
def result? (r : Reader) : Option Json :=
  match r.stack, r.expecting with
  | [], .continuation complete => some complete
  | _, _ => none

end Reader

/-- The value of a list of tokens. -/
def ofTokens? (tokens : List Token) : Option Json := do
  let r ← tokens.foldlM Reader.take Reader.start
  r.result?

/-- The value that a text holds between blanks. -/
def parse? (text : String) : Option Json := do
  let tokens ← tokens? text.toList
  ofTokens? tokens

mutual

/-- The tokens of a value. -/
def tokens : Json → List Token
  | .null => [.null]
  | .bool value => [.bool value]
  | .number written => [.number written]
  | .string written => [.string written]
  | .array elements => .openBracket :: elementTokens elements ++ [.closeBracket]
  | .object members => .openBrace :: memberTokens members ++ [.closeBrace]

/-- The tokens of elements with commas between them. -/
def elementTokens : List Json → List Token
  | [] => []
  | [last] => last.tokens
  | first :: second :: rest => first.tokens ++ .comma :: elementTokens (second :: rest)

/-- The tokens of members with commas between them. -/
def memberTokens : List (List Char × Json) → List Token
  | [] => []
  | [last] => .string last.1 :: .colon :: last.2.tokens
  | first :: second :: rest =>
    .string first.1 :: .colon :: first.2.tokens ++ .comma :: memberTokens (second :: rest)

end

/-- The text of a value without any blank. -/
def compact (j : Json) : String := String.ofList (j.tokens.flatMap Token.text)

/-- The line break and the indentation of a level. -/
def newLine (level : Nat) : List Char := '\n' :: List.replicate (2 * level) ' '

mutual

/-- The characters of a value whose container stands at a level, each element and
member on a line of its own. -/
def laidOut (level : Nat) : Json → List Char
  | .null => Token.null.text
  | .bool value => (Token.bool value).text
  | .number written => (Token.number written).text
  | .string written => (Token.string written).text
  | .array [] => ['[', ']']
  | .array (first :: rest) =>
    '[' :: elementLines (level + 1) (first :: rest) ++ newLine level ++ [']']
  | .object [] => ['{', '}']
  | .object (first :: rest) =>
    '{' :: memberLines (level + 1) (first :: rest) ++ newLine level ++ ['}']

/-- The lines of elements at a level. -/
def elementLines (level : Nat) : List Json → List Char
  | [] => []
  | [last] => newLine level ++ last.laidOut level
  | first :: second :: rest =>
    newLine level ++ first.laidOut level ++ ',' :: elementLines level (second :: rest)

/-- The lines of members at a level. -/
def memberLines (level : Nat) : List (List Char × Json) → List Char
  | [] => []
  | [last] =>
    newLine level ++ (Token.string last.1).text ++ ':' :: ' ' :: last.2.laidOut level
  | first :: second :: rest =>
    newLine level ++ (Token.string first.1).text ++ ':' :: ' ' :: first.2.laidOut level ++
      ',' :: memberLines level (second :: rest)

end

/-- The text of a value with each element and member on a line of its own. -/
def pretty (j : Json) : String := String.ofList (j.laidOut 0)

/-- The letter of the short escape of a character, if it has one. -/
def shortEscape? (c : Char) : Option Char :=
  if c = '"' then some '"'
  else if c = '\\' then some '\\'
  else if c = '\x08' then some 'b'
  else if c = '\x0c' then some 'f'
  else if c = '\n' then some 'n'
  else if c = '\r' then some 'r'
  else if c = '\t' then some 't'
  else none

/-- The character that a short escape names. -/
def ofShortEscape? (letter : Char) : Option Char :=
  if letter = '"' then some '"'
  else if letter = '\\' then some '\\'
  else if letter = '/' then some '/'
  else if letter = 'b' then some '\x08'
  else if letter = 'f' then some '\x0c'
  else if letter = 'n' then some '\n'
  else if letter = 'r' then some '\r'
  else if letter = 't' then some '\t'
  else none

/-- The lower-case digit of a number below sixteen. -/
def hexDigit (n : Nat) : Char := if n < 10 then Char.ofNat (48 + n) else Char.ofNat (87 + n)

/-- The value of a hexadecimal digit of either case. -/
def hexValue? (c : Char) : Option Nat :=
  if c.isDigit then some (c.toNat - 48)
  else if 'a' ≤ c ∧ c ≤ 'f' then some (c.toNat - 87)
  else if 'A' ≤ c ∧ c ≤ 'F' then some (c.toNat - 55)
  else none

/-- The number of four hexadecimal digits. -/
def unit? (a b c d : Char) : Option Nat := do
  let a ← hexValue? a
  let b ← hexValue? b
  let c ← hexValue? c
  let d ← hexValue? d
  return ((a * 16 + b) * 16 + c) * 16 + d

/-- A character as it stands in a string. -/
def escapeChar (c : Char) : List Char :=
  match shortEscape? c with
  | some letter => ['\\', letter]
  | none =>
    if c.toNat < 0x20 then ['\\', 'u', '0', '0', hexDigit (c.toNat / 16), hexDigit (c.toNat % 16)]
    else [c]

/-- A text as it stands in a string. -/
def escape (text : String) : List Char := text.toList.flatMap escapeChar

/-- The characters that a string names, when every escape names one. -/
def unescapeChars? : List Char → Option (List Char)
  | [] => some []
  | '\\' :: 'u' :: a :: b :: c :: d :: rest =>
    match unit? a b c d with
    | none => none
    | some unit =>
      if 0xd800 ≤ unit ∧ unit < 0xdc00 then
        match rest with
        | '\\' :: 'u' :: a :: b :: c :: d :: rest =>
          match unit? a b c d with
          | none => none
          | some low =>
            if 0xdc00 ≤ low ∧ low < 0xe000 then
              (unescapeChars? rest).map
                (Char.ofNat (0x10000 + (unit - 0xd800) * 0x400 + (low - 0xdc00)) :: ·)
            else none
        | _ => none
      else if 0xdc00 ≤ unit ∧ unit < 0xe000 then none
      else (unescapeChars? rest).map (Char.ofNat unit :: ·)
  | '\\' :: letter :: rest =>
    match ofShortEscape? letter with
    | none => none
    | some c => (unescapeChars? rest).map (c :: ·)
  | c :: rest => (unescapeChars? rest).map (c :: ·)

/-- The text of a string, when every escape names a character. -/
def unescape? (written : List Char) : Option String :=
  (unescapeChars? written).map String.ofList

/-- The string of a text. -/
def ofText (text : String) : Json := .string (escape text)

/-- The text of a string. -/
def text? : Json → Option String
  | .string written => unescape? written
  | _ => none

end Json

end OrgGovernance
