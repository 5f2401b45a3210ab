/-!
# Bounded numbers

Balances, heights, currencies, percentages and counters are natural numbers of
a fixed width in binary. Arithmetic on them is stated through the natural
number itself: a clipped operation answers the nearest number of the width, a
wrapping one the remainder.

Percentages are whole numbers; those above one hundred count as one hundred.
The comparison splits the base into hundreds and a rest, so that no product
leaves the range of balances and no fraction is rounded. The root of a balance
is found by Newton's method: the number itself comes first and one more than its
half comes second, and the descent ends at the first iterate whose successor is
no smaller. Two ends where it starts, because one more than its half is two
again; every other number ends at its root rounded down.

Numbers are written in ASCII digits without leading zeros. Three grammars read
them: bare digits, digits as the writer gives them, and digits behind a sign.
Around them may stand the characters with the Unicode property White_Space.
-/

namespace OrgGovernance

-- The function `Nat.pow` is named, for `^` means another instance once algebra is imported.

/-- A natural number below `2 ^ bits`. -/
@[ext]
structure Word (bits : Nat) where
  /-- The number itself. -/
  toNat : Nat
  /-- The number fits its width. -/
  toNat_lt : toNat < Nat.pow 2 bits
  deriving DecidableEq, Repr

namespace Word

variable {bits : Nat}

/-- The largest number of a width. -/
def greatest (bits : Nat) : Nat := Nat.pow 2 bits - 1

/-- The remainder of a number modulo `2 ^ bits`. -/
def ofNat (bits n : Nat) : Word bits :=
  ⟨n % Nat.pow 2 bits, Nat.mod_lt _ (Nat.two_pow_pos bits)⟩

instance (n : Nat) : OfNat (Word bits) n := ⟨ofNat bits n⟩

instance : Inhabited (Word bits) := ⟨0⟩

/-- The number, when it fits the width. -/
def ofNat? (bits n : Nat) : Option (Word bits) :=
  if h : n < Nat.pow 2 bits then some ⟨n, h⟩ else none

/-- The number, or the largest one of the width when it does not fit. -/
def clip (bits n : Nat) : Word bits :=
  ⟨min n (greatest bits), by
    have : 0 < Nat.pow 2 bits := Nat.two_pow_pos bits
    simp only [greatest]
    omega⟩

/-- The sum, held at the largest number of the width. -/
def addClipped (a b : Word bits) : Word bits := clip bits (a.toNat + b.toNat)

/-- The difference, held at zero. -/
def subClipped (a b : Word bits) : Word bits :=
  ⟨a.toNat - b.toNat, Nat.lt_of_le_of_lt (Nat.sub_le _ _) a.toNat_lt⟩

/-- The next number, when there is one. -/
def succ? (a : Word bits) : Option (Word bits) := ofNat? bits (a.toNat + 1)

/-- The next number, going round to zero after the largest one. -/
def succWrapped (a : Word bits) : Word bits := ofNat bits (a.toNat + 1)

/-- The decimal digits of the number, without leading zeros. -/
def text (a : Word bits) : String := a.toNat.repr

instance : LT (Word bits) := ⟨fun a b => a.toNat < b.toNat⟩

instance : LE (Word bits) := ⟨fun a b => a.toNat ≤ b.toNat⟩

instance (a b : Word bits) : Decidable (a < b) :=
  inferInstanceAs (Decidable (a.toNat < b.toNat))

instance (a b : Word bits) : Decidable (a ≤ b) :=
  inferInstanceAs (Decidable (a.toNat ≤ b.toNat))

instance : Ord (Word bits) := ⟨fun a b => compare a.toNat b.toNat⟩

instance : Std.TransOrd (Word bits) where
  eq_swap := Std.OrientedOrd.eq_swap (α := Nat)
  isLE_trans := Std.TransOrd.isLE_trans (α := Nat)

instance : Std.LawfulEqOrd (Word bits) where
  compare_self := Std.ReflOrd.compare_self (α := Nat)
  eq_of_compare h := Word.ext (Std.LawfulEqOrd.eq_of_compare (α := Nat) h)

/-- Order is the order of the numbers. -/
theorem lt_def {a b : Word bits} : a < b ↔ a.toNat < b.toNat := Iff.rfl

/-- Order is the order of the numbers. -/
theorem le_def {a b : Word bits} : a ≤ b ↔ a.toNat ≤ b.toNat := Iff.rfl

/-- No number of the width exceeds the largest one. -/
theorem toNat_le_greatest (a : Word bits) : a.toNat ≤ greatest bits := by
  have := a.toNat_lt
  simp only [greatest]
  omega

/-- Clipping answers the smaller of the number and the largest one. -/
@[simp] theorem toNat_clip (n : Nat) : (clip bits n).toNat = min n (greatest bits) := rfl

/-- A clipped sum is the smaller of the sum and the largest number. -/
@[simp] theorem toNat_addClipped (a b : Word bits) :
    (a.addClipped b).toNat = min (a.toNat + b.toNat) (greatest bits) := rfl

/-- A clipped difference is the truncated difference of the numbers. -/
@[simp] theorem toNat_subClipped (a b : Word bits) :
    (a.subClipped b).toNat = a.toNat - b.toNat := rfl

/-- A remainder modulo the width is the remainder of the number. -/
@[simp] theorem toNat_ofNat (n : Nat) : (ofNat bits n).toNat = n % Nat.pow 2 bits := rfl

/-- The wrapping successor is the successor modulo the width. -/
@[simp] theorem toNat_succWrapped (a : Word bits) :
    a.succWrapped.toNat = (a.toNat + 1) % Nat.pow 2 bits := rfl

/-- The wrapping successor is another number, unless there is only one. -/
theorem succWrapped_ne (a : Word bits) (wide : 0 < bits) :
    a.succWrapped ≠ a := by
  intro same
  have fits := a.toNat_lt
  have many : 1 < Nat.pow 2 bits := Nat.one_lt_two_pow (Nat.ne_of_gt wide)
  have equal : (a.toNat + 1) % Nat.pow 2 bits = a.toNat := congrArg toNat same
  rcases Nat.lt_or_ge (a.toNat + 1) (Nat.pow 2 bits) with below | full
  · rw [Nat.mod_eq_of_lt below] at equal
    omega
  · have last : a.toNat + 1 = Nat.pow 2 bits := Nat.le_antisymm fits full
    rw [last, Nat.mod_self] at equal
    omega

/-- A number is accepted at a width exactly when it is a number of that width. -/
theorem ofNat?_eq_some_iff {n : Nat} {a : Word bits} :
    ofNat? bits n = some a ↔ n = a.toNat := by
  unfold ofNat?
  split
  · next h =>
    simp only [Option.some.injEq]
    exact ⟨fun e => e ▸ rfl, fun e => Word.ext e⟩
  · next h =>
    simp only [reduceCtorEq, false_iff]
    exact fun e => h (e ▸ a.toNat_lt)

/-- Every number of a width is read back from its natural number. -/
@[simp] theorem ofNat?_toNat (a : Word bits) : ofNat? bits a.toNat = some a :=
  ofNat?_eq_some_iff.mpr rfl

end Word

/-- Token amounts. -/
abbrev Balance := Word 128

/-- Chain heights and spans of blocks. -/
abbrev Height := Word 64

/-- Currencies; zero is reserved. -/
abbrev Currency := Word 32

/-- Whole percentages as given, which may exceed one hundred. -/
abbrev Percent := Word 32

instance : Std.TransOrd Currency := inferInstanceAs (Std.TransOrd (Word 32))

instance : Std.LawfulEqOrd Currency := inferInstanceAs (Std.LawfulEqOrd (Word 32))

namespace Percentage

/-- The highest percentage. -/
def highest : Nat := 100

/-- A percentage as it counts. -/
def counted (percent : Percent) : Nat := min percent.toNat highest

/-- The percentage of the whole hundreds of a base. -/
def ofHundreds (percent : Percent) (base : Balance) : Nat := counted percent * (base.toNat / 100)

/-- A hundred times the percentage of what a base has beyond its whole hundreds. -/
def ofRest (percent : Percent) (base : Balance) : Nat := counted percent * (base.toNat % 100)

/-- Whether a value is strictly more than a percentage of a base. -/
def exceeds (value : Balance) (percent : Percent) (base : Balance) : Bool :=
  if value.toNat < ofHundreds percent base then false
  else if value.toNat - ofHundreds percent base ≥ 100 then true
  else (value.toNat - ofHundreds percent base) * 100 > ofRest percent base

/-- A percentage of a base, rounded down. -/
def shareOf (percent : Percent) (base : Balance) : Balance :=
  Word.clip 128 (ofHundreds percent base + ofRest percent base / 100)

/-- A percentage never counts for more than the highest one. -/
theorem counted_le (percent : Percent) : counted percent ≤ highest := Nat.min_le_right _ _

/-- The share of a base never reaches the limit at which it would be clipped. -/
theorem toNat_shareOf (percent : Percent) (base : Balance) :
    (shareOf percent base).toNat = ofHundreds percent base + ofRest percent base / 100 := by
  simp only [shareOf, Word.toNat_clip]
  refine Nat.min_eq_left ?_
  have fits := base.toNat_le_greatest
  have small : counted percent ≤ 100 := counted_le percent
  have whole : ofHundreds percent base ≤ 100 * (base.toNat / 100) := Nat.mul_le_mul_right _ small
  have rest : ofRest percent base ≤ 100 * (base.toNat % 100) := Nat.mul_le_mul_right _ small
  omega

end Percentage

namespace SquareRoot

/-- The iterate that follows `x` on the way to the root of `n`. -/
def next (n x : Nat) : Nat := (x + n / x) / 2

/-- Replaces `x` by `y` and `y` by the iterate after it for as long as `y` is smaller. -/
def descend (n x y : Nat) : Nat :=
  if y < x then descend n y (next n y) else x
termination_by x

/-- The root of a natural number: rounded down, except that the root of two is two. -/
def ofNat (n : Nat) : Nat :=
  if n < 2 then n else descend n n (n / 2 + 1)

/-- The iteration answers at most the number it starts from. -/
theorem descend_le (n x y : Nat) : descend n x y ≤ x := by
  fun_induction descend n x y with
  | case1 x y lt ih => exact Nat.le_trans ih (Nat.le_of_lt lt)
  | case2 x y _ => exact Nat.le_refl x

/-- The root of a number is at most the number. -/
theorem ofNat_le (n : Nat) : ofNat n ≤ n := by
  unfold ofNat
  split
  · exact Nat.le_refl n
  · exact descend_le n n _

/-- The root of a balance, as for natural numbers. -/
def ofBalance (n : Balance) : Balance :=
  ⟨ofNat n.toNat, Nat.lt_of_le_of_lt (ofNat_le n.toNat) n.toNat_lt⟩

end SquareRoot

namespace Decimal

/-- The number of a nonempty run of digits. -/
def digits? (text : List Char) : Option Nat :=
  if text ≠ [] ∧ text.all Char.isDigit then some (Nat.ofDigitChars 10 text 0) else none

/-- The number of a run of digits in which a leading zero stands only alone. -/
def canonical? : List Char → Option Nat
  | '0' :: _ :: _ => none
  | text => digits? text

/-- A number of the given width, read from digits behind at most one plus sign. -/
def unsigned? (bits : Nat) (text : String) : Option (Word bits) :=
  let digits :=
    match text.toList with
    | '+' :: rest => rest
    | chars => chars
  (digits? digits).bind (Word.ofNat? bits)

/-- A number of the given width, read from digits behind at most one sign. A
minus sign is accepted before zero alone, for no other value fits the width. -/
def signed? (bits : Nat) (text : String) : Option (Word bits) :=
  match text.toList with
  | '-' :: rest => (digits? rest).bind fun n => if n = 0 then some 0 else none
  | _ => unsigned? bits text

/-- Written digits read back as the number. -/
theorem digits?_toDigits (n : Nat) : digits? (Nat.toDigits 10 n) = some n := by
  unfold digits?
  rw [if_pos]
  · rw [Nat.ofDigitChars_ten_toDigits]
  · refine ⟨Nat.toDigits_ne_nil, ?_⟩
    rw [List.all_eq_true]
    exact fun c h => Nat.isDigit_of_mem_toDigits (by decide) (by decide) h

/-- The digits of a number begin with a zero only when that is all of them. -/
theorem eq_nil_of_toDigits_eq_zero_cons {n : Nat} {rest : List Char}
    (h : Nat.toDigits 10 n = '0' :: rest) : rest = [] := by
  induction n using Nat.strongRecOn generalizing rest with
  | ind n ih =>
    rcases Nat.lt_or_ge n 10 with small | large
    · rw [Nat.toDigits_of_lt_base small] at h
      exact (List.cons.inj h).2.symm
    · rw [Nat.toDigits_of_base_le (by decide) large] at h
      cases front : Nat.toDigits 10 (n / 10) with
      | nil => exact absurd front Nat.toDigits_ne_nil
      | cons c digits =>
        rw [front, List.cons_append, List.cons.injEq] at h
        -- The digits before the last one would be those of zero.
        rw [h.1] at front
        have alone := ih (n / 10) (by omega) front
        have value : Nat.ofDigitChars 10 (Nat.toDigits 10 (n / 10)) 0 = n / 10 :=
          Nat.ofDigitChars_ten_toDigits
        rw [front, alone] at value
        have zero : n / 10 = 0 := value.symm
        omega

/-- Written digits read back as the number also where leading zeros are refused. -/
theorem canonical?_toDigits (n : Nat) : canonical? (Nat.toDigits 10 n) = some n := by
  unfold canonical?
  split
  · next second rest written => cases eq_nil_of_toDigits_eq_zero_cons written
  · exact digits?_toDigits n

end Decimal

namespace BlankText

/-- Whether a character has the property White_Space. -/
def isBlank (c : Char) : Bool :=
  let n := c.toNat
  (9 ≤ n && n ≤ 13) || n == 0x20 || n == 0x85 || n == 0xa0 || n == 0x1680 ||
    (0x2000 ≤ n && n ≤ 0x200a) || n == 0x2028 || n == 0x2029 || n == 0x202f || n == 0x205f ||
    n == 0x3000

/-- The characters without the blank ones at either end. -/
def trimmedChars (chars : List Char) : List Char :=
  ((chars.dropWhile isBlank).reverse.dropWhile isBlank).reverse

/-- The text without the blank characters at either end. -/
def trimmed (text : String) : String := String.ofList (trimmedChars text.toList)

end BlankText

end OrgGovernance
