import OrgGovernance.Toml.Scalar

/-!
# TOML documents

A document is a sequence of lines: headers of tables, assignments to keys,
comments and blanks. Brackets and braces nest to a fixed depth, and dotted keys
have at most as many parts. Readers that repeat themselves carry a number of
further steps, for which more than the length of the text is always enough.

What is read is a tree of tables. A table remembers how it came about, because
that decides whether a later line may add to it: a table named only on the way
to another may still get its own header, one made by a dotted key may be
extended by dotted keys, and one written out in braces may not be extended.
-/

namespace OrgGovernance.Toml

/-- How a table came about. -/
inductive Origin
  /-- Named on the way to a table with a header. -/
  | implied
  /-- Made by a dotted key. -/
  | dotted
  /-- Given by its own header; the document itself counts as such. -/
  | header
  /-- Written out in braces. -/
  | inline
  deriving DecidableEq, Repr

/-- A TOML value. -/
inductive Value
  /-- A string. -/
  | text (text : String)
  /-- An integer. -/
  | integer (value : Int)
  /-- A number that is no integer; its value is not kept. -/
  | float
  /-- A truth value. -/
  | truth (value : Bool)
  /-- A date, a time or both; its value is not kept. -/
  | moment
  /-- A number that has no value. -/
  | unusable
  /-- An array written out in brackets. -/
  | array (elements : List Value)
  /-- The tables of a repeated header, in order. -/
  | tables (elements : List (List (String × Value)))
  /-- A table with its entries. -/
  | table (origin : Origin) (entries : List (String × Value))

/-- The entries of a table in the order in which they came. -/
abbrev Entries := List (String × Value)

mutual

/-- Whether every number in a value is usable. -/
def Value.isUsable : Value → Bool
  | .unusable => false
  | .array elements => areUsable elements
  | .tables elements => areUsableTables elements
  | .table _ entries => areUsableEntries entries
  | _ => true

/-- Whether every number in an array is usable. -/
def areUsable : List Value → Bool
  | [] => true
  | value :: rest => value.isUsable && areUsable rest

/-- Whether every number in repeated tables is usable. -/
def areUsableTables : List (List (String × Value)) → Bool
  | [] => true
  | entries :: rest => areUsableEntries entries && areUsableTables rest

/-- Whether every number in the entries of a table is usable. -/
def areUsableEntries : List (String × Value) → Bool
  | [] => true
  | (_, value) :: rest => value.isUsable && areUsableEntries rest

end

namespace Entries

/-- The entries with the value of one key put in the place of the earlier one. -/
def replace (entries : Entries) (key : String) (value : Value) : Entries :=
  entries.map fun e => if e.1 = key then (key, value) else e

/-- The entries with one entry more. -/
def add (entries : Entries) (key : String) (value : Value) : Entries := entries ++ [(key, value)]

/-- Carries out a change of the table at a path. Tables that are missing on the
way are made, the last of repeated tables is entered, and a dotted path enters
no table with a header of its own. -/
def update (dotted : Bool) (change : Origin → Entries → Option Entries) :
    List String → Origin → Entries → Option Entries
  | [], origin, entries => change origin entries
  | key :: path, _, entries =>
    match entries.lookup key with
    | none => do
      let origin := if dotted then .dotted else .implied
      let inner ← update dotted change path origin []
      return entries.add key (.table origin inner)
    | some (.table origin inner) =>
      if origin = .inline ∨ (dotted ∧ origin = .header) then none
      else do
        let inner ← update dotted change path origin inner
        return entries.replace key (.table origin inner)
    | some (.tables elements) => do
      let last ← elements.getLast?
      let last ← update dotted change path .header last
      return entries.replace key (.tables (elements.dropLast ++ [last]))
    | some _ => none

/-- The entries after an assignment to a dotted key of their table. -/
def assign (entries : Entries) (origin : Origin) (path : List String) (key : String)
    (value : Value) : Option Entries :=
  let insert := fun (origin : Origin) (entries : Entries) =>
    if (origin = .dotted ↔ path = []) ∨ (entries.lookup key).isSome then none
    else some (entries.add key value)
  entries.update true insert path origin

/-- The document after the header of a table. -/
def openTable (document : Entries) (path : List String) (key : String) : Option Entries :=
  let insert := fun (_ : Origin) (entries : Entries) =>
    match entries.lookup key with
    | none => some (entries.add key (.table .header []))
    | some (.table .implied inner) => some (entries.replace key (.table .header inner))
    | some _ => none
  document.update false insert path .header

/-- The document after the header of a repeated table. -/
def openRepeated (document : Entries) (path : List String) (key : String) : Option Entries :=
  let insert := fun (_ : Origin) (entries : Entries) =>
    match entries.lookup key with
    | none => some (entries.add key (.tables [[]]))
    | some (.tables elements) => some (entries.replace key (.tables (elements ++ [[]])))
    | some _ => none
  document.update false insert path .header

/-- The document after an assignment below the latest header. -/
def assignBelow (document : Entries) (header path : List String) (key : String)
    (value : Value) : Option Entries :=
  document.update false (fun origin entries => entries.assign origin path key value) header .header

end Entries

/-- The deepest nesting of brackets and braces, and the most parts of a dotted key. -/
def deepest : Nat := 80

/-- Whether a character may stand in a key without quotes. -/
def isBare (c : Char) : Bool := c.isAlphanum || c == '_' || c == '-'

/-- A key that is not dotted. -/
def simpleKey? (text : List Char) : Option (String × List Char) :=
  match lineString? text with
  | some key => some key
  | none =>
    match text.span isBare with
    | ([], _) => none
    | (key, rest) => some (String.ofList key, rest)

/-- The parts of a dotted key, of which there may be so many. -/
def keyParts? : (most : Nat) → List Char → Option (List String × List Char)
  | 0, _ => none
  | most + 1, text => do
    let (key, rest) ← simpleKey? text
    match skipSpaces rest with
    | '.' :: more =>
      let (keys, rest) ← keyParts? most (skipSpaces more)
      return (key :: keys, rest)
    | more => return ([key], more)

/-- The path and the last part of a dotted key, and what follows the blanks behind it. -/
def key? (text : List Char) : Option ((List String × String) × List Char) := do
  let (keys, rest) ← keyParts? deepest text
  let last ← keys.getLast?
  return ((keys.dropLast, last), rest)

/-- What follows a comment, if there is one: the end of its line. -/
def comment? : List Char → Option (List Char)
  | '#' :: text =>
    let (words, rest) := text.span fun c => c != '\n' && c != '\r'
    if words.all isPrintable then some rest else none
  | text => some text

/-- What follows blanks, comments and line breaks, when the text may begin inside
a comment. -/
def skipFrom? : (commenting : Bool) → List Char → Option (List Char)
  | _, [] => some []
  | _, '\n' :: rest => skipFrom? false rest
  | _, '\r' :: '\n' :: rest => skipFrom? false rest
  | true, c :: rest => if isPrintable c then skipFrom? true rest else none
  | false, c :: rest =>
    if isSpace c then skipFrom? false rest
    else if c = '#' then skipFrom? true rest
    else some (c :: rest)

/-- What follows blanks, comments and line breaks. -/
def skipBetween? (text : List Char) : Option (List Char) := skipFrom? false text

/-- What follows the end of a line that has nothing more but a comment. -/
def lineEnd? (text : List Char) : Option (List Char) := do
  let rest ← comment? (skipSpaces text)
  match rest with
  | [] => return []
  | _ => lineBreak? rest

/-- Whether a character ends a value without quotes and brackets. -/
def isDelimiter (c : Char) : Bool := "=,[]{}# \t\r\n".toList.contains c

/-- The text of a value without quotes and brackets, and what follows. It goes on
behind blanks when something follows them that is neither a string nor a dot. -/
def words : List Char → List Char × List Char
  | [] => ([], [])
  | c :: rest =>
    if isSpace c then
      match skipSpaces rest with
      | [] => ([], c :: rest)
      | d :: _ =>
        if isDelimiter d || d == '"' || d == '\'' || d == '.' then ([], c :: rest)
        else
          let (text, rest) := words rest
          (c :: text, rest)
    else if isDelimiter c then ([], c :: rest)
    else
      let (text, rest) := words rest
      (c :: text, rest)

/-- A value without quotes and brackets. -/
def scalar? (text : List Char) : Option (Scalar × List Char) := do
  let (text, rest) := words text
  let scalar ← Scalar.ofChars? text
  return (scalar, rest)

/-- The value of a scalar. -/
def Value.ofScalar : Scalar → Value
  | .integer value => .integer value
  | .float => .float
  | .truth value => .truth value
  | .moment => .moment
  | .unusable => .unusable

mutual

/-- A value of any kind, whose brackets and braces may nest so deep. -/
def value? : (fuel depth : Nat) → List Char → Option (Value × List Char)
  | 0, _, _ => none
  | fuel + 1, depth, text =>
    match text, depth with
    | '"' :: _, _ => (string? text).map fun r => (.text r.1, r.2)
    | '\'' :: _, _ => (string? text).map fun r => (.text r.1, r.2)
    | '[' :: rest, depth + 1 => (elements? fuel depth rest).map fun r => (.array r.1, r.2)
    | '{' :: rest, depth + 1 => (braced? fuel depth [] rest).map fun r => (.table .inline r.1, r.2)
    | _, _ => (scalar? text).map fun r => (.ofScalar r.1, r.2)

/-- The elements of an array up to its closing bracket. -/
def elements? : (fuel depth : Nat) → List Char → Option (List Value × List Char)
  | 0, _, _ => none
  | fuel + 1, depth, text => do
    match ← skipBetween? text with
    | ']' :: rest => return ([], rest)
    | text =>
      let (value, rest) ← value? fuel depth text
      match ← skipBetween? rest with
      | ']' :: rest => return ([value], rest)
      | ',' :: rest =>
        let (values, rest) ← elements? fuel depth rest
        return (value :: values, rest)
      | _ => none

/-- The entries of a table in braces up to its closing brace, added to earlier ones. -/
def braced? : (fuel depth : Nat) → Entries → List Char → Option (Entries × List Char)
  | 0, _, _, _ => none
  | fuel + 1, depth, entries, text => do
    match ← skipBetween? text with
    | '}' :: rest => return (entries, rest)
    | text =>
      let ((path, key), rest) ← key? text
      match ← skipBetween? rest with
      | '=' :: rest =>
        let (value, rest) ← value? fuel depth (← skipBetween? rest)
        let entries ← entries.assign .header path key value
        match ← skipBetween? rest with
        | '}' :: rest => return (entries, rest)
        | ',' :: rest => braced? fuel depth entries rest
        | _ => none
      | _ => none

end

/-- A document that is being read: its entries and the path of the latest header. -/
structure Draft where
  /-- The entries so far. -/
  entries : Entries
  /-- The path of the latest header. -/
  header : List String

/-- The draft after the line at the head of a text that is neither blank nor a comment. -/
def Draft.line? (fuel : Nat) (d : Draft) : List Char → Option (Draft × List Char)
  | '[' :: '[' :: text => do
    let ((path, key), rest) ← key? (skipSpaces text)
    match rest with
    | ']' :: ']' :: rest =>
      let entries ← d.entries.openRepeated path key
      return (⟨entries, path ++ [key]⟩, rest)
    | _ => none
  | '[' :: text => do
    let ((path, key), rest) ← key? (skipSpaces text)
    match rest with
    | ']' :: rest =>
      let entries ← d.entries.openTable path key
      return (⟨entries, path ++ [key]⟩, rest)
    | _ => none
  | text => do
    let ((path, key), rest) ← key? text
    match rest with
    | '=' :: rest =>
      let (value, rest) ← value? fuel deepest (skipSpaces rest)
      let entries ← d.entries.assignBelow d.header path key value
      return ({ d with entries }, rest)
    | _ => none

/-- The draft after all lines of a text. -/
def Draft.lines? : (fuel : Nat) → Draft → List Char → Option Draft
  | 0, _, _ => none
  | fuel + 1, d, text => do
    match ← skipBetween? text with
    | [] => return d
    | text =>
      let (d, rest) ← d.line? (fuel + 1) text
      let rest ← lineEnd? rest
      Draft.lines? fuel d rest

/-- The entries of a document, behind a byte order mark if there is one. -/
def parse? (text : String) : Option Entries := do
  let chars :=
    match text.toList with
    | '\ufeff' :: rest => rest
    | chars => chars
  let d ← Draft.lines? (chars.length + 1) ⟨[], []⟩ chars
  return d.entries

end OrgGovernance.Toml
