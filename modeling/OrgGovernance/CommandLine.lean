import OrgGovernance.Number

/-!
# The command line

Arguments are options with a long and perhaps a short name, and at most one
operand. The value of an option stands behind an equals sign, directly behind
the short name, or in the next argument unless that begins with a dash. A double
dash ends the options. Every value is checked where it stands, so that the first
thing out of order decides how reading ends.

Options for the files of the node stand before the name of a command, and the
command's own arguments behind it. Numbers are checked against their width while
the arguments are read; texts that the council judges are passed on as given.
-/

namespace OrgGovernance

/-- How reading arguments ends early. -/
inductive EarlyEnd
  /-- The arguments are not as the grammar wants them. -/
  | usage
  /-- Help is asked for. -/
  | help
  /-- The version is asked for. -/
  | version
  deriving DecidableEq, Repr

/-- What an option takes. -/
inductive OptionKind
  /-- Nothing; it may be given once. -/
  | flag
  /-- A value; it may be given once. -/
  | single
  /-- A value; it may be given any number of times. -/
  | repeated
  /-- Nothing; it ends the reading. -/
  | ending (how : EarlyEnd)
  deriving DecidableEq, Repr

/-- An option of a grammar. -/
structure OptionRule where
  /-- The name behind two dashes. -/
  long : String
  /-- The letter behind one dash. -/
  short : Option Char
  /-- What the option takes. -/
  kind : OptionKind
  /-- Whether a text can be the value. -/
  accepts : String → Bool

/-- The options and the operand that arguments may have. -/
structure ArgumentGrammar where
  /-- The options. -/
  options : List OptionRule
  /-- Whether a text can be the operand, when the grammar has one. -/
  operand : Option (String → Bool)

/-- The options and the operand that were read. -/
structure Arguments where
  /-- The long names of the given options with their values, latest first. -/
  given : List (String × String)
  /-- The operand. -/
  operand : Option String

namespace Arguments

/-- No arguments. -/
def empty : Arguments := ⟨[], none⟩

/-- Whether an option was given. -/
def has (a : Arguments) (name : String) : Bool := a.given.any fun g => g.1 = name

/-- The value of an option. -/
def value? (a : Arguments) (name : String) : Option String := a.given.lookup name

/-- All values of an option in the order in which they were given. -/
def values (a : Arguments) (name : String) : List String :=
  (a.given.reverse.filter fun g => g.1 = name).map Prod.snd

end Arguments

/-- The outer form of an argument. -/
inductive ArgumentForm
  /-- The double dash. -/
  | separator
  /-- A long name, with a value if there is an equals sign. -/
  | long (name : String) (value : Option String)
  /-- Letters behind one dash. -/
  | short (letters : List Char)
  /-- Anything else, a single dash among it. -/
  | word (text : String)
  deriving DecidableEq, Repr

/-- The outer form of an argument. -/
def ArgumentForm.ofText (text : String) : ArgumentForm :=
  match text.toList with
  | ['-', '-'] => .separator
  | '-' :: '-' :: body =>
    match body.span (· != '=') with
    | (name, '=' :: value) => .long (String.ofList name) (some (String.ofList value))
    | (name, _) => .long (String.ofList name) none
  | '-' :: letter :: letters => .short (letter :: letters)
  | _ => .word text

/-- Whether an argument can be the value of the option before it. -/
def ArgumentForm.isValue (text : String) : Bool :=
  match ofText text with
  | .word _ => true
  | _ => false

namespace ArgumentGrammar

/-- The option of a long name. -/
def byName (g : ArgumentGrammar) (name : String) : Option OptionRule :=
  g.options.find? fun o => o.long = name

/-- The option of a letter. -/
def byLetter (g : ArgumentGrammar) (letter : Char) : Option OptionRule :=
  g.options.find? fun o => o.short = some letter

/-- The arguments with an option more, unless it may not be repeated or the value is refused. -/
def accept (a : Arguments) (o : OptionRule) (value : String) : Except EarlyEnd Arguments :=
  if o.kind ≠ .repeated ∧ a.has o.long then .error .usage
  else if o.accepts value then .ok { a with given := (o.long, value) :: a.given }
  else .error .usage

/-- The arguments with the operand, unless there is none to come or the text is refused. -/
def acceptOperand (g : ArgumentGrammar) (a : Arguments) (text : String) :
    Except EarlyEnd Arguments :=
  match g.operand, a.operand with
  | some accepts, none => if accepts text then .ok { a with operand := some text } else .error .usage
  | _, _ => .error .usage

/-- What an argument leaves open. -/
inductive Step
  /-- Nothing; these are the arguments so far. -/
  | complete (a : Arguments)
  /-- The next argument has to be the value of an option. -/
  | awaiting (a : Arguments) (o : OptionRule)

/-- The step for a long name. -/
def long (g : ArgumentGrammar) (a : Arguments) (name : String) (value? : Option String) :
    Except EarlyEnd Step :=
  match g.byName name with
  | none => .error .usage
  | some o =>
    match o.kind, value? with
    | .ending how, none => .error how
    | .ending _, some _ => .error .usage
    | .flag, none => (accept a o "").map .complete
    | .flag, some _ => .error .usage
    | _, some value => (accept a o value).map .complete
    | _, none => .ok (.awaiting a o)

/-- The step for letters behind one dash. -/
def short (g : ArgumentGrammar) (a : Arguments) : List Char → Except EarlyEnd Step
  | [] => .ok (.complete a)
  | letter :: rest =>
    match g.byLetter letter with
    | none => .error .usage
    | some o =>
      match o.kind, rest with
      | .ending how, _ => .error how
      | .flag, rest =>
        match accept a o "" with
        | .error how => .error how
        | .ok a => short g a rest
      | _, [] => .ok (.awaiting a o)
      | _, '=' :: value => (accept a o (String.ofList value)).map .complete
      | _, value => (accept a o (String.ofList value)).map .complete

/-- The step for an argument that is no separator. -/
def step (g : ArgumentGrammar) (a : Arguments) : ArgumentForm → Except EarlyEnd Step
  | .separator => .ok (.complete a)
  | .long name value? => g.long a name value?
  | .short letters => g.short a letters
  | .word text => (g.acceptOperand a text).map .complete

/-- Reads arguments up to a word that `stops` recognises, and answers that word
with the arguments behind it; without such a word, all arguments are read. -/
def readUntil (g : ArgumentGrammar) (stops : String → Bool) :
    Arguments → List String → Except EarlyEnd (Arguments × Option (String × List String))
  | a, [] => .ok (a, none)
  | a, text :: rest =>
    match ArgumentForm.ofText text with
    | .separator => (rest.foldlM g.acceptOperand a).map fun a => (a, none)
    | form =>
      if form = .word text ∧ stops text then .ok (a, some (text, rest))
      else
        match g.step a form with
        | .error how => .error how
        | .ok (.complete a) => readUntil g stops a rest
        | .ok (.awaiting a o) =>
          match rest with
          | [] => .error .usage
          | value :: rest =>
            if ArgumentForm.isValue value then
              match accept a o value with
              | .error how => .error how
              | .ok a => readUntil g stops a rest
            else .error .usage

/-- Reads all arguments. -/
def read (g : ArgumentGrammar) (texts : List String) : Except EarlyEnd Arguments :=
  (g.readUntil (fun _ => false) .empty texts).map Prod.fst

end ArgumentGrammar

/-- What the command line asks for. -/
inductive Command
  /-- Registers an organization. -/
  | createOrganization (executors : List String) (voting : String)
      (parameters : List (String × String))
  /-- Shows an organization. -/
  | showOrganization (id : String)
  /-- Dispatches a call as an executor. -/
  | applyAs (caller organization call : String)
  /-- Opens a proposal. -/
  | createProposal (organization call : String)
  /-- Lists the proposals of an organization. -/
  | listProposals (organization : String)
  /-- Casts an open vote. -/
  | vote (proposal voter : String) (power : Word 128) (against : Bool)
  /-- Commits to a hidden vote. -/
  | commit (proposal voter hash : String)
  /-- Reveals a hidden vote. -/
  | reveal (proposal voter : String) (power : Word 128) (salt : Word 64) (against : Bool)
  /-- Closes a proposal. -/
  | close (proposal : String)
  /-- Drops a proposal as an executor. -/
  | veto (proposal caller : String)
  /-- Moves the chain forward. -/
  | advance (blocks : Word 64)
  /-- Increases a supply. -/
  | mint (currency : Word 32) (amount : Word 128)
  /-- Prints the commitment to a hidden vote. -/
  | commitment (power : Word 128) (salt : Word 64) (against : Bool)
  deriving DecidableEq, Repr

/-- A command with the files it works on. -/
structure Invocation where
  /-- The path of the settings. -/
  config : Option String
  /-- The path of the state, in the place of the one in the settings. -/
  state : Option String
  /-- The command. -/
  command : Command
  deriving DecidableEq, Repr

namespace CommandLine

/-- The key and the value of a parameter, without blanks around either. -/
def parameter? (text : String) : Option (String × String) :=
  match text.toList.span (· != '=') with
  | (key, '=' :: value) =>
    some (String.ofList (BlankText.trimmedChars key), String.ofList (BlankText.trimmedChars value))
  | _ => none

/-- Takes every text. -/
def anyText (_ : String) : Bool := true

/-- Takes the texts of numbers of a width. -/
def numberText (bits : Nat) (text : String) : Bool := (Decimal.unsigned? bits text).isSome

/-- An option with one value that may be any text. -/
def single (long : String) : OptionRule := ⟨long, none, .single, anyText⟩

/-- An option with one value that is a number of a width. -/
def number (long : String) (bits : Nat) : OptionRule := ⟨long, none, .single, numberText bits⟩

/-- An option without a value. -/
def flag (long : String) : OptionRule := ⟨long, none, .flag, anyText⟩

/-- The option that asks for help. -/
def helpOption : OptionRule := ⟨"help", some 'h', .ending .help, anyText⟩

/-- The options before the command. -/
def outerGrammar : ArgumentGrammar where
  options :=
    [⟨"config", some 'c', .single, fun text => text ≠ ""⟩,
      ⟨"state", some 's', .single, fun text => text ≠ ""⟩,
      ⟨"version", some 'V', .ending .version, anyText⟩, helpOption]
  operand := none

/-- A command as the command line knows it: its name, its grammar and what its
arguments ask for, if none is missing. -/
structure Rule where
  /-- The name. -/
  name : String
  /-- The grammar of the arguments, apart from help. -/
  grammar : ArgumentGrammar
  /-- The command of the arguments. -/
  build : Arguments → Option Command

/-- The number of a width that an option has. -/
def word? (a : Arguments) (bits : Nat) (name : String) : Option (Word bits) := do
  let text ← a.value? name
  Decimal.unsigned? bits text

/-- All commands. -/
def rules : List Rule :=
  [{ name := "create-org"
     grammar :=
      ⟨[⟨"executor", some 'e', .repeated, anyText⟩, ⟨"voting", some 'v', .single, anyText⟩,
        ⟨"param", some 'p', .repeated, fun text => (parameter? text).isSome⟩], none⟩
     build := fun a => do
      let voting ← a.value? "voting"
      return .createOrganization (a.values "executor") voting
        ((a.values "param").filterMap parameter?) },
   { name := "show-org"
     grammar := ⟨[], some anyText⟩
     build := fun a => a.operand.map .showOrganization },
   { name := "apply-as"
     grammar := ⟨[single "caller", single "org", single "call"], none⟩
     build := fun a => do
      let caller ← a.value? "caller"
      let organization ← a.value? "org"
      let call ← a.value? "call"
      return .applyAs caller organization call },
   { name := "create-proposal"
     grammar := ⟨[single "org", single "call"], none⟩
     build := fun a => do
      let organization ← a.value? "org"
      let call ← a.value? "call"
      return .createProposal organization call },
   { name := "list-proposals"
     grammar := ⟨[], some anyText⟩
     build := fun a => a.operand.map .listProposals },
   { name := "vote"
     grammar := ⟨[single "voter", number "power" 128, flag "against"], some anyText⟩
     build := fun a => do
      let proposal ← a.operand
      let voter ← a.value? "voter"
      let power ← word? a 128 "power"
      return .vote proposal voter power (a.has "against") },
   { name := "commit"
     grammar := ⟨[single "voter", single "hash"], some anyText⟩
     build := fun a => do
      let proposal ← a.operand
      let voter ← a.value? "voter"
      let hash ← a.value? "hash"
      return .commit proposal voter hash },
   { name := "reveal"
     grammar :=
      ⟨[single "voter", number "power" 128, number "salt" 64, flag "against"], some anyText⟩
     build := fun a => do
      let proposal ← a.operand
      let voter ← a.value? "voter"
      let power ← word? a 128 "power"
      let salt ← word? a 64 "salt"
      return .reveal proposal voter power salt (a.has "against") },
   { name := "close"
     grammar := ⟨[], some anyText⟩
     build := fun a => a.operand.map .close },
   { name := "veto"
     grammar := ⟨[single "caller"], some anyText⟩
     build := fun a => do
      let proposal ← a.operand
      let caller ← a.value? "caller"
      return .veto proposal caller },
   { name := "advance"
     grammar := ⟨[], some (numberText 64)⟩
     build := fun a =>
      match a.operand with
      | none => some (.advance 1)
      | some text => (Decimal.unsigned? 64 text).map .advance },
   { name := "mint"
     grammar :=
      ⟨[⟨"currency", none, .single, fun text => (Decimal.signed? 32 text).isSome⟩,
        number "amount" 128], none⟩
     build := fun a => do
      let currency ← a.value? "currency"
      let currency ← Decimal.signed? 32 currency
      let amount ← word? a 128 "amount"
      return .mint currency amount },
   { name := "commitment"
     grammar := ⟨[number "power" 128, number "salt" 64, flag "against"], none⟩
     build := fun a => do
      let power ← word? a 128 "power"
      let salt ← word? a 64 "salt"
      return .commitment power salt (a.has "against") }]

/-- The command of a name. -/
def ruleOf? (name : String) : Option Rule := rules.find? fun r => r.name = name

/-- Whether a word names a command, help among them. -/
def isCommand (word : String) : Bool := word = "help" || (ruleOf? word).isSome

/-- Help on one command, or on all when none is named. -/
def help : List String → EarlyEnd
  | [] => .help
  | [name] => if isCommand name then .help else .usage
  | _ => .usage

/-- The command of a rule's arguments. -/
def Rule.command (r : Rule) (texts : List String) : Except EarlyEnd Command := do
  let grammar := { r.grammar with options := helpOption :: r.grammar.options }
  let arguments ← grammar.read texts
  match r.build arguments with
  | some command => return command
  | none => throw .usage

/-- The invocation that the arguments of the program ask for. -/
def read (texts : List String) : Except EarlyEnd Invocation := do
  let (outer, rest) ← outerGrammar.readUntil isCommand .empty texts
  match rest with
  | none => throw .usage
  | some (name, texts) =>
    match ruleOf? name with
    | none => throw (help texts)
    | some r =>
      let command ← r.command texts
      return { config := outer.value? "config", state := outer.value? "state", command }

end CommandLine

end OrgGovernance
