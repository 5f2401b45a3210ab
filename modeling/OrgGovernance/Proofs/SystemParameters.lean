import OrgGovernance.VotingSystem
import Mathlib.Data.List.DropRight

/-!
# The parameters of voting systems

A number is spelled by ASCII digits, perhaps behind a plus sign and between
blank characters. The reader takes exactly these texts, when the number fits its
width, and no text spells two numbers.

A voting system has a value under each of its keys: a number, whose width the key
determines, or the name of a counting. Any statement about all parameters of a
system is one about its own parameters and its thresholds.
-/

namespace OrgGovernance

namespace BlankText

variable {before core after : List Char}

/-- No character of a text was lost but blank ones in front and behind. -/
theorem exists_blank_around (chars : List Char) : ∃ before after,
    chars = before ++ trimmedChars chars ++ after ∧ ∀ c ∈ before ++ after, isBlank c = true := by
  refine ⟨chars.takeWhile isBlank, (chars.dropWhile isBlank).rtakeWhile isBlank, ?_, ?_⟩
  · have behind : trimmedChars chars ++ (chars.dropWhile isBlank).rtakeWhile isBlank
        = chars.dropWhile isBlank := List.rdropWhile_append_rtakeWhile
    rw [List.append_assoc, behind, List.takeWhile_append_dropWhile]
  · intro c member
    rcases List.mem_append.mp member with front | back
    · exact List.mem_takeWhile_imp front
    · exact List.mem_rtakeWhile_imp back

/-- Characters that are not blank are what is left of them between blank ones. -/
theorem trimmedChars_between (blank : ∀ c ∈ before ++ after, isBlank c = true)
    (solid : ∀ c ∈ core, isBlank c = false) (nonempty : core ≠ []) :
    trimmedChars (before ++ core ++ after) = core := by
  have front : (before ++ core ++ after).dropWhile isBlank = core ++ after := by
    rw [List.append_assoc, List.dropWhile_append_of_pos
      fun c member => blank c (List.mem_append_left _ member)]
    cases core with
    | nil => exact absurd rfl nonempty
    | cons c rest =>
      exact List.dropWhile_cons_of_neg (by simp [solid c List.mem_cons_self])
  have back : (core ++ after).rdropWhile isBlank = core.rdropWhile isBlank := by
    rw [List.rdropWhile, List.reverse_append, List.dropWhile_append_of_pos
      fun c member => blank c (List.mem_append_right _ (List.mem_reverse.mp member))]
    rfl
  have kept : core.rdropWhile isBlank = core := List.rdropWhile_eq_self_iff.mpr fun any => by
    rw [solid _ (List.getLast_mem any)]
    exact Bool.false_ne_true
  rw [trimmedChars, front]
  exact back.trans kept

/-- No digit is blank. -/
theorem isBlank_eq_false_of_isDigit {c : Char} (digit : c.isDigit = true) : isBlank c = false := by
  simp only [Char.isDigit, ge_iff_le, Bool.and_eq_true, decide_eq_true_eq, UInt32.le_iff_toNat_le]
    at digit
  have low : 48 ≤ c.toNat := digit.1
  have high : c.toNat ≤ 57 := digit.2
  simp only [isBlank, Bool.or_eq_false_iff, Bool.and_eq_false_iff, decide_eq_false_iff_not,
    beq_eq_false_iff_ne]
  omega

end BlankText

namespace Decimal

/-- A text that spells a number, in its parts. -/
structure Numeral (text : String) where
  /-- The blank characters in front. -/
  before : List Char
  /-- The sign, if there is one. -/
  sign : List Char
  /-- The digits. -/
  digits : List Char
  /-- The blank characters behind. -/
  after : List Char
  /-- The text is made of the four parts. -/
  parts : text.toList = before ++ (sign ++ digits) ++ after
  /-- The characters around are blank. -/
  blank : ∀ c ∈ before ++ after, BlankText.isBlank c = true
  /-- The sign is a plus sign. -/
  plus : sign = [] ∨ sign = ['+']
  /-- There is a digit. -/
  nonempty : digits ≠ []
  /-- All digits are digits of ASCII. -/
  decimal : ∀ c ∈ digits, c.isDigit = true

/-- The number that a text spells. -/
def Numeral.value {text : String} (numeral : Numeral text) : Nat :=
  Nat.ofDigitChars 10 numeral.digits 0

/-- A text spells a number. -/
def Spells (text : String) (n : Nat) : Prop := ∃ numeral : Numeral text, numeral.value = n

/-- The characters behind a plus sign, if the first one is that. -/
def behindPlus : List Char → List Char
  | '+' :: rest => rest
  | chars => chars

variable {text : String} {n : Nat} {bits : Nat}

/-- Digits have a number when there is one and all of them are digits. -/
theorem digits?_eq_some_iff {chars : List Char} : digits? chars = some n ↔
    chars ≠ [] ∧ (∀ c ∈ chars, c.isDigit = true) ∧ Nat.ofDigitChars 10 chars 0 = n := by
  unfold digits?
  split
  · next decimal =>
    rw [List.all_eq_true] at decimal
    rw [Option.some.injEq]
    exact ⟨fun value => ⟨decimal.1, decimal.2, value⟩, fun ⟨_, _, value⟩ => value⟩
  · next refused =>
    rw [List.all_eq_true] at refused
    exact iff_of_false (by simp) fun ⟨nonempty, decimal, _⟩ => refused ⟨nonempty, decimal⟩

/-- A plus sign in front of digits is not one of them. -/
theorem behindPlus_append {sign digits : List Char} (plus : sign = [] ∨ sign = ['+'])
    (decimal : ∀ c ∈ digits, c.isDigit = true) : behindPlus (sign ++ digits) = digits := by
  rcases plus with rfl | rfl
  · unfold behindPlus
    split
    · next rest plusFirst =>
      rw [List.nil_append] at plusFirst
      have digit := decimal '+' (plusFirst ▸ List.mem_cons_self)
      exact absurd digit (by decide)
    · rfl
  · rfl

/-- Characters are those behind the plus sign and perhaps the sign. -/
theorem exists_sign (chars : List Char) :
    ∃ sign, (sign = [] ∨ sign = ['+']) ∧ chars = sign ++ behindPlus chars := by
  unfold behindPlus
  split
  · exact ⟨['+'], .inr rfl, rfl⟩
  · exact ⟨[], .inl rfl, rfl⟩

/-- The characters of a numeral without those around are the sign and the digits. -/
theorem Numeral.trimmedChars_eq (numeral : Numeral text) :
    BlankText.trimmedChars text.toList = numeral.sign ++ numeral.digits := by
  have solid : ∀ c ∈ numeral.sign ++ numeral.digits, BlankText.isBlank c = false := by
    intro c member
    rcases List.mem_append.mp member with signed | digit
    · rcases numeral.plus with none | plus
      · rw [none] at signed
        cases signed
      · rw [plus, List.mem_singleton] at signed
        subst signed
        decide
    · exact BlankText.isBlank_eq_false_of_isDigit (numeral.decimal c digit)
  rw [numeral.parts]
  exact BlankText.trimmedChars_between numeral.blank solid
    (List.append_ne_nil_of_right_ne_nil _ numeral.nonempty)

/-- A text spells a number exactly when the digits behind its sign, without the blank characters
around, have it. -/
theorem spells_iff_digits? : Spells text n ↔
    digits? (behindPlus (BlankText.trimmedChars text.toList)) = some n := by
  constructor
  · rintro ⟨numeral, value⟩
    rw [numeral.trimmedChars_eq, behindPlus_append numeral.plus numeral.decimal]
    exact digits?_eq_some_iff.mpr ⟨numeral.nonempty, numeral.decimal, value⟩
  · intro read
    obtain ⟨nonempty, decimal, value⟩ := digits?_eq_some_iff.mp read
    obtain ⟨before, after, around, blank⟩ := BlankText.exists_blank_around text.toList
    obtain ⟨sign, plus, signed⟩ := exists_sign (BlankText.trimmedChars text.toList)
    rw [signed] at around
    exact ⟨⟨before, sign, _, after, around, blank, plus, nonempty, decimal⟩, value⟩

/-- No text spells two numbers. -/
theorem Spells.unique {m : Nat} (first : Spells text n) (second : Spells text m) : n = m :=
  Option.some.inj ((spells_iff_digits?.mp first).symm.trans (spells_iff_digits?.mp second))

/-- A number of a width is read from a text exactly when the text spells it. -/
theorem unsigned?_trimmed_eq_some_iff {w : Word bits} :
    unsigned? bits (BlankText.trimmed text) = some w ↔ Spells text w.toNat := by
  have digits : unsigned? bits (BlankText.trimmed text) =
      (digits? (behindPlus (BlankText.trimmedChars text.toList))).bind (Word.ofNat? bits) := by
    rw [unsigned?, BlankText.trimmed, String.toList_ofList]
    rfl
  rw [digits, Option.bind_eq_some_iff, spells_iff_digits?]
  simp only [Word.ofNat?_eq_some_iff, exists_eq_right]

example : Spells "\u2003+007 " 7 := spells_iff_digits?.mpr (by decide)

/-- A number is spelled by its decimal digits. -/
theorem spells_repr (n : Nat) : Spells n.repr n := by
  have decimal : ∀ c ∈ Nat.toDigits 10 n, c.isDigit = true := fun c member =>
    Nat.isDigit_of_mem_toDigits (by decide) (by decide) member
  refine ⟨⟨[], [], Nat.toDigits 10 n, [], ?_, nofun, .inl rfl, Nat.toDigits_ne_nil, decimal⟩,
    Nat.ofDigitChars_ten_toDigits⟩
  rw [Nat.repr, String.toList_ofList, List.nil_append, List.nil_append, List.append_nil]

end Decimal

/-- All texts that name a counting. -/
def Counting.names : Counting → List String
  | .simple => ["Simple", "simple"]
  | .quadratic => ["Quadratic", "quadratic"]

/-- A counting is found by its names and no other text. -/
theorem Counting.ofName?_eq_some_iff {text : String} {counting : Counting} :
    Counting.ofName? text = some counting ↔ text ∈ counting.names := by
  unfold Counting.ofName?
  split
  · next simple => cases counting <;> rcases simple with rfl | rfl <;> decide
  · next other =>
    split
    · next quadratic => cases counting <;> rcases quadratic with rfl | rfl <;> decide
    · next unknown =>
      refine iff_of_false (by simp) fun named => ?_
      cases counting
      · exact other (by simpa [names] using named)
      · exact unknown (by simpa [names] using named)

/-- Four texts name a counting. -/
theorem Counting.exists_mem_names_iff {text : String} : (∃ c : Counting, text ∈ c.names) ↔
    text ∈ ["Simple", "simple", "Quadratic", "quadratic"] := by
  constructor
  · rintro ⟨c, named⟩
    cases c with
    | simple => exact List.mem_append_left Counting.quadratic.names named
    | quadratic => exact List.mem_append_right Counting.simple.names named
  · intro listed
    rcases List.mem_append.mp (show text ∈ Counting.simple.names ++ Counting.quadratic.names
      from listed) with simple | quadratic
    · exact ⟨.simple, simple⟩
    · exact ⟨.quadratic, quadratic⟩

/-- The value of a parameter. -/
inductive ParameterValue
  /-- A number. -/
  | number (n : Nat)
  /-- A counting. -/
  | counting (c : Counting)
  deriving DecidableEq, Repr

namespace ParameterValue

/-- A text spells a value: a numeral spells its number, and a counting has its names. -/
def SpelledBy : ParameterValue → String → Prop
  | .number n, text => Decimal.Spells text n
  | .counting c, text => text ∈ c.names

/-- The text in which a value is written. -/
def text : ParameterValue → String
  | .number n => n.repr
  | .counting c => c.name

/-- The value of a parameter whose key is absent, if the key may be absent. -/
def default? (key : String) : Option ParameterValue :=
  if key = "vote_counting_strategy" then some (.counting .simple)
  else if key = "decay" then some (.number 0)
  else none

/-- The width of the numbers under a key: durations are wider than all others. -/
def width (key : String) : Nat :=
  if key ∈ ["ttl", "commit_duration", "reveal_duration"] then 64 else 32

/-- A value may stand under a key: a counting under its own, and a number of the width under any
other. -/
def Fits (key : String) : ParameterValue → Prop
  | .number n => key ≠ "vote_counting_strategy" ∧ n < Nat.pow 2 (width key)
  | .counting _ => key = "vote_counting_strategy"

variable {key : String} {value : ParameterValue}

/-- A value is spelled by the text in which it is written. -/
theorem spelledBy_text (value : ParameterValue) : value.SpelledBy value.text := by
  cases value with
  | number n => exact Decimal.spells_repr n
  | counting c => cases c <;> exact List.mem_cons_self

/-- A key that may be absent is that of the counting or that of the decay. -/
theorem key_of_default? (absent : default? key = some value) :
    key = "vote_counting_strategy" ∨ key = "decay" := by
  unfold default? at absent
  split at absent
  · next counting => exact .inl counting
  · split at absent
    · next decay => exact .inr decay
    · cases absent

/-- A number of the width fits. -/
theorem number_fits {bits : Nat} (w : Word bits) (other : key ≠ "vote_counting_strategy")
    (wide : width key = bits) : (number w.toNat).Fits key :=
  ⟨other, wide ▸ w.toNat_lt⟩

end ParameterValue

open ParameterValue

/-- The values of thresholds under their keys. -/
def Thresholds.parameters (t : Thresholds) : List (String × ParameterValue) :=
  [("voting_currency", .number t.currency.toNat), ("min_quorum", .number t.minQuorum.toNat),
    ("min_participation", .number t.minParticipation.toNat)]

/-- The parameters of thresholds are the currency and the two percentages. -/
theorem Thresholds.forall_parameters {P : String → ParameterValue → Prop} {t : Thresholds} :
    (∀ e ∈ t.parameters, P e.1 e.2) ↔
      P "voting_currency" (.number t.currency.toNat) ∧
        P "min_quorum" (.number t.minQuorum.toNat) ∧
          P "min_participation" (.number t.minParticipation.toNat) := by
  rw [Thresholds.parameters, List.forall_mem_cons, List.forall_mem_cons, List.forall_mem_singleton]

/-- The thresholds fit their keys. -/
theorem Thresholds.parameters_fit (t : Thresholds) : ∀ e ∈ t.parameters, e.2.Fits e.1 :=
  Thresholds.forall_parameters.mpr ⟨number_fits _ (by decide) (by decide),
    number_fits _ (by decide) (by decide), number_fits _ (by decide) (by decide)⟩

/-- Thresholds are accepted exactly when the currency is not the reserved one and both percentages
are at most one hundred. -/
theorem Thresholds.check_eq_ok_iff {t : Thresholds} : t.check = .ok () ↔
    t.currency.toNat ≠ 0 ∧ t.minQuorum.toNat ≤ 100 ∧ t.minParticipation.toNat ≤ 100 := by
  simp only [Thresholds.check, Percentage.highest]
  grind

namespace VotingSystem

/-- The values of the parameters of a voting system under their keys. -/
def parameters : VotingSystem → List (String × ParameterValue)
  | .coin p => ("ttl", .number p.lifetime.toNat) :: p.thresholds.parameters ++
      [("vote_counting_strategy", .counting p.counting)]
  | .conviction p => ("ttl", .number p.lifetime.toNat) :: p.thresholds.parameters ++
      [("decay", .number p.decay.toNat)]
  | .sealed p => [("commit_duration", .number p.commitDuration.toNat),
      ("reveal_duration", .number p.revealDuration.toNat)] ++ p.thresholds.parameters

/-- The request for a voting system with all its parameters written out. -/
def request (s : VotingSystem) : SystemRequest where
  tag := s.id.name
  parameters := .ofList (s.parameters.map fun e => (e.1, e.2.text))

variable {s : VotingSystem} {key : String} {value : ParameterValue}

/-- The keys of the parameters are those of the system. -/
theorem keys_parameters (s : VotingSystem) : s.parameters.map Prod.fst = s.id.parameterKeys := by
  cases s <;> rfl

/-- The keys of a voting system differ. -/
theorem nodup_parameterKeys (id : SystemId) : id.parameterKeys.Nodup := by
  cases id <;> decide

/-- The thresholds are among the parameters. -/
theorem mem_parameters_of_thresholds (member : (key, value) ∈ s.thresholds.parameters) :
    (key, value) ∈ s.parameters := by
  cases s with
  | coin p => exact List.mem_append_left _ (List.mem_cons_of_mem _ member)
  | conviction p => exact List.mem_append_left _ (List.mem_cons_of_mem _ member)
  | sealed p => exact List.mem_append_right _ member

section

variable {P : String → ParameterValue → Prop}

/-- The parameters of coin voting are the lifetime, the thresholds and the counting. -/
theorem forall_parameters_coin {p : CoinParameters} :
    (∀ e ∈ (coin p).parameters, P e.1 e.2) ↔
      P "ttl" (.number p.lifetime.toNat) ∧ (∀ e ∈ p.thresholds.parameters, P e.1 e.2) ∧
        P "vote_counting_strategy" (.counting p.counting) := by
  rw [parameters, List.cons_append, List.forall_mem_cons, List.forall_mem_append,
    List.forall_mem_singleton]

/-- The parameters of conviction voting are the lifetime, the thresholds and the decay. -/
theorem forall_parameters_conviction {p : ConvictionParameters} :
    (∀ e ∈ (conviction p).parameters, P e.1 e.2) ↔
      P "ttl" (.number p.lifetime.toNat) ∧ (∀ e ∈ p.thresholds.parameters, P e.1 e.2) ∧
        P "decay" (.number p.decay.toNat) := by
  rw [parameters, List.cons_append, List.forall_mem_cons, List.forall_mem_append,
    List.forall_mem_singleton]

/-- The parameters of sealed voting are the two durations and the thresholds. -/
theorem forall_parameters_sealed {p : SealedParameters} :
    (∀ e ∈ (sealed p).parameters, P e.1 e.2) ↔
      P "commit_duration" (.number p.commitDuration.toNat) ∧
        P "reveal_duration" (.number p.revealDuration.toNat) ∧
          ∀ e ∈ p.thresholds.parameters, P e.1 e.2 := by
  rw [parameters, List.cons_append, List.cons_append, List.nil_append, List.forall_mem_cons,
    List.forall_mem_cons]

end

/-- All parameters of a voting system fit their keys. -/
theorem parameters_fit (s : VotingSystem) : ∀ e ∈ s.parameters, e.2.Fits e.1 := by
  cases s with
  | coin p =>
    exact forall_parameters_coin.mpr ⟨number_fits _ (by decide) (by decide),
      p.thresholds.parameters_fit, rfl⟩
  | conviction p =>
    exact forall_parameters_conviction.mpr ⟨number_fits _ (by decide) (by decide),
      p.thresholds.parameters_fit, number_fits _ (by decide) (by decide)⟩
  | «sealed» p =>
    exact forall_parameters_sealed.mpr ⟨number_fits _ (by decide) (by decide),
      number_fits _ (by decide) (by decide), p.thresholds.parameters_fit⟩

/-- A voting system is accepted exactly when its thresholds are. -/
theorem validate_eq_ok_iff : s.validate = .ok () ↔ s.thresholds.check = .ok () := by
  unfold validate
  cases s.thresholds.check with
  | ok _ => exact iff_of_true rfl rfl
  | error fault => exact iff_of_false nofun nofun

end VotingSystem

end OrgGovernance
