import OrgGovernance.Number
import Mathlib.Tactic.Ring

/-!
# Percentages are compared exactly

The comparison by whole hundreds and a rest decides the inequality of the full
products, which may lie far outside the range of balances. The share of a base
is the full product in hundreds, rounded down, and a value is more than the share
exactly when it exceeds the percentage.

Both are computed without a step outside the range of balances. To say so, the
result of an operation on two numbers of a width is answered only when it is a
number of that width: nothing is clipped and nothing goes round, and a division
by zero has no answer either. A computation in these operations that has an
answer has therefore left the width at no step.
-/

namespace OrgGovernance

namespace Word

variable {bits : Nat}

/-- The sum, when it fits the width. -/
def add? (a b : Word bits) : Option (Word bits) := ofNat? bits (a.toNat + b.toNat)

/-- The difference, when it is not below zero. -/
def sub? (a b : Word bits) : Option (Word bits) :=
  if b ≤ a then ofNat? bits (a.toNat - b.toNat) else none

/-- The product, when it fits the width. -/
def mul? (a b : Word bits) : Option (Word bits) := ofNat? bits (a.toNat * b.toNat)

/-- The quotient, when the divisor is not zero. -/
def div? (a b : Word bits) : Option (Word bits) :=
  if b.toNat = 0 then none else ofNat? bits (a.toNat / b.toNat)

/-- The remainder, when the divisor is not zero. -/
def mod? (a b : Word bits) : Option (Word bits) :=
  if b.toNat = 0 then none else ofNat? bits (a.toNat % b.toNat)

/-- A number up to the largest one of a width is accepted at the width. -/
theorem exists_ofNat? {n : Nat} (fits : n ≤ greatest bits) :
    ∃ a : Word bits, ofNat? bits n = some a ∧ a.toNat = n := by
  have positive : 0 < Nat.pow 2 bits := Nat.two_pow_pos bits
  have below : n < Nat.pow 2 bits := by
    unfold greatest at fits
    omega
  exact ⟨⟨n, below⟩, dif_pos below, rfl⟩

variable {a b : Word bits}

/-- A sum is answered when it is at most the largest number. -/
theorem exists_add? (fits : a.toNat + b.toNat ≤ greatest bits) :
    ∃ c, a.add? b = some c ∧ c.toNat = a.toNat + b.toNat :=
  exists_ofNat? fits

/-- A product is answered when it is at most the largest number. -/
theorem exists_mul? (fits : a.toNat * b.toNat ≤ greatest bits) :
    ∃ c, a.mul? b = some c ∧ c.toNat = a.toNat * b.toNat :=
  exists_ofNat? fits

/-- A difference is answered when the first number is no smaller. -/
theorem exists_sub? (le : b.toNat ≤ a.toNat) :
    ∃ c, a.sub? b = some c ∧ c.toNat = a.toNat - b.toNat := by
  have fits : a.toNat - b.toNat ≤ greatest bits := Nat.le_trans (Nat.sub_le _ _) a.toNat_le_greatest
  rw [sub?, if_pos (le_def.mpr le)]
  exact exists_ofNat? fits

/-- A quotient is answered for every divisor but zero. -/
theorem exists_div? (divides : b.toNat ≠ 0) :
    ∃ c, a.div? b = some c ∧ c.toNat = a.toNat / b.toNat := by
  have fits : a.toNat / b.toNat ≤ greatest bits :=
    Nat.le_trans (Nat.div_le_self _ _) a.toNat_le_greatest
  rw [div?, if_neg divides]
  exact exists_ofNat? fits

/-- What is answered is the sum. -/
theorem add?_eq_some_iff {c : Word bits} : a.add? b = some c ↔ a.toNat + b.toNat = c.toNat :=
  ofNat?_eq_some_iff

/-- What is answered is the quotient by a divisor that is not zero. -/
theorem div?_eq_some_iff {c : Word bits} :
    a.div? b = some c ↔ b.toNat ≠ 0 ∧ a.toNat / b.toNat = c.toNat := by
  unfold div?
  by_cases zero : b.toNat = 0
  · rw [if_pos zero]
    exact iff_of_false nofun fun quotient => quotient.1 zero
  · rw [if_neg zero, ofNat?_eq_some_iff]
    exact (and_iff_right zero).symm

/-- A remainder is answered for every divisor but zero. -/
theorem exists_mod? (divides : b.toNat ≠ 0) :
    ∃ c, a.mod? b = some c ∧ c.toNat = a.toNat % b.toNat := by
  have fits : a.toNat % b.toNat ≤ greatest bits := Nat.le_trans (Nat.mod_le _ _) a.toNat_le_greatest
  rw [mod?, if_neg divides]
  exact exists_ofNat? fits

end Word

namespace Percentage

/-- A hundred times the two parts of a percentage make up the full product. -/
theorem counted_mul_base (percent : Percent) (base : Balance) :
    counted percent * base.toNat = 100 * ofHundreds percent base + ofRest percent base := by
  have hsplit := Nat.div_add_mod base.toNat 100
  calc counted percent * base.toNat
      = counted percent * (100 * (base.toNat / 100) + base.toNat % 100) := by rw [hsplit]
    _ = 100 * ofHundreds percent base + ofRest percent base := by
      simp only [ofHundreds, ofRest]
      ring

/-- The rest of a base contributes less than a hundred hundreds. -/
theorem ofRest_lt (percent : Percent) (base : Balance) : ofRest percent base < 10000 := by
  have hrest : base.toNat % 100 ≤ 99 := Nat.le_of_lt_succ (Nat.mod_lt _ (by omega))
  have hproduct := Nat.mul_le_mul (counted_le percent) hrest
  simp only [highest] at hproduct
  simp only [ofRest]
  omega

/-- A value exceeds a percentage of a base exactly when a hundred times the value
exceeds the product of the two. -/
theorem exceeds_eq_true_iff (value : Balance) (percent : Percent) (base : Balance) :
    exceeds value percent base = true ↔ counted percent * base.toNat < 100 * value.toNat := by
  have hproduct := counted_mul_base percent base
  have hrest := ofRest_lt percent base
  unfold exceeds
  by_cases hbelow : value.toNat < ofHundreds percent base
  · rw [if_pos hbelow]
    simp only [Bool.false_eq_true, false_iff]
    omega
  · rw [if_neg hbelow]
    by_cases habove : value.toNat - ofHundreds percent base ≥ 100
    · rw [if_pos habove]
      simp only [true_iff]
      omega
    · rw [if_neg habove]
      simp only [gt_iff_lt, decide_eq_true_eq]
      omega

/-- The share of a base is a hundredth of the full product, rounded down. -/
theorem toNat_shareOf_eq_div (percent : Percent) (base : Balance) :
    (shareOf percent base).toNat = counted percent * base.toNat / 100 := by
  have hproduct := counted_mul_base percent base
  rw [toNat_shareOf]
  omega

/-- A value is more than the share of a base exactly when it exceeds the percentage. -/
theorem shareOf_lt_iff_exceeds (value : Balance) (percent : Percent) (base : Balance) :
    shareOf percent base < value ↔ exceeds value percent base = true := by
  rw [exceeds_eq_true_iff, Word.lt_def, toNat_shareOf_eq_div]
  omega

/-! ### No step leaves the range of balances -/

/-- A percentage as it counts is a balance. -/
def factor (percent : Percent) : Balance := Word.clip 128 (counted percent)

/-- The percentage of the whole hundreds of a base, when every step is a balance. -/
def ofHundreds? (percent : Percent) (base : Balance) : Option Balance := do
  let hundreds ← base.div? 100
  (factor percent).mul? hundreds

/-- A hundred times the percentage of the rest of a base, when every step is a balance. -/
def ofRest? (percent : Percent) (base : Balance) : Option Balance := do
  let rest ← base.mod? 100
  (factor percent).mul? rest

/-- Whether a value exceeds a percentage of a base, when every step is a balance. -/
def exceeds? (value : Balance) (percent : Percent) (base : Balance) : Option Bool := do
  let whole ← ofHundreds? percent base
  if value < whole then
    return false
  let beyond ← value.sub? whole
  if 100 ≤ beyond then
    return true
  let scaled ← beyond.mul? 100
  let due ← ofRest? percent base
  return decide (due < scaled)

/-- A percentage of a base, rounded down, when every step is a balance. -/
def shareOf? (percent : Percent) (base : Balance) : Option Balance := do
  let whole ← ofHundreds? percent base
  let due ← ofRest? percent base
  let part ← due.div? 100
  whole.add? part

/-- The factor of a percentage is the percentage as it counts. -/
theorem toNat_factor (percent : Percent) : (factor percent).toNat = counted percent :=
  Nat.min_eq_left ((counted_le percent).trans (by decide))

/-- The percentage of the whole hundreds of a base is computed within the range of balances. -/
theorem exists_ofHundreds? (percent : Percent) (base : Balance) :
    ∃ whole, ofHundreds? percent base = some whole ∧ whole.toNat = ofHundreds percent base := by
  have hshare := toNat_shareOf percent base
  have hgreatest := (shareOf percent base).toNat_le_greatest
  have hfits : ofHundreds percent base ≤ Word.greatest 128 := by omega
  obtain ⟨hundreds, hdiv, hhundreds⟩ := Word.exists_div? (a := base) (b := 100) (by decide)
  have hterms : (factor percent).toNat * hundreds.toNat = ofHundreds percent base := by
    rw [toNat_factor, hhundreds]
    rfl
  obtain ⟨whole, hmul, hwhole⟩ := Word.exists_mul? (hterms.trans_le hfits)
  refine ⟨whole, ?_, hwhole.trans hterms⟩
  simp only [ofHundreds?, hdiv, Option.bind_eq_bind, Option.bind_some, hmul]

/-- The percentage of the rest of a base is computed within the range of balances. -/
theorem exists_ofRest? (percent : Percent) (base : Balance) :
    ∃ due, ofRest? percent base = some due ∧ due.toNat = ofRest percent base := by
  have hfits : ofRest percent base ≤ Word.greatest 128 :=
    (ofRest_lt percent base).le.trans (by decide)
  obtain ⟨rest, hmod, hrest⟩ := Word.exists_mod? (a := base) (b := 100) (by decide)
  have hterms : (factor percent).toNat * rest.toNat = ofRest percent base := by
    rw [toNat_factor, hrest]
    rfl
  obtain ⟨due, hmul, hdue⟩ := Word.exists_mul? (hterms.trans_le hfits)
  refine ⟨due, ?_, hdue.trans hterms⟩
  simp only [ofRest?, hmod, Option.bind_eq_bind, Option.bind_some, hmul]

/-- The comparison is computed within the range of balances. -/
theorem exceeds?_eq_some (value : Balance) (percent : Percent) (base : Balance) :
    exceeds? value percent base = some (exceeds value percent base) := by
  obtain ⟨whole, hofHundreds, hwhole⟩ := exists_ofHundreds? percent base
  obtain ⟨due, hofRest, hdue⟩ := exists_ofRest? percent base
  unfold exceeds? exceeds
  simp only [hofHundreds, hofRest, Option.bind_eq_bind, Option.bind_some, ← hwhole, ← hdue]
  by_cases hbelow : value.toNat < whole.toNat
  · rw [if_pos hbelow, if_pos (Word.lt_def.mpr hbelow)]
    rfl
  · obtain ⟨beyond, hsub, hbeyond⟩ := Word.exists_sub? (Nat.le_of_not_lt hbelow)
    rw [if_neg hbelow, if_neg (mt Word.lt_def.mp hbelow), hsub, Option.bind_some, ← hbeyond]
    by_cases habove : 100 ≤ beyond.toNat
    · rw [if_pos habove, if_pos (Word.le_def.mpr habove)]
      rfl
    · have hfits : beyond.toNat * 100 ≤ Word.greatest 128 := by
        have hsmall : beyond.toNat * 100 ≤ 10000 := by omega
        exact hsmall.trans (by decide)
      obtain ⟨scaled, hmul, hscaled⟩ := Word.exists_mul? (a := beyond) (b := 100) hfits
      rw [if_neg habove, if_neg (mt Word.le_def.mp habove), hmul, Option.bind_some]
      exact congrArg (fun product => some (decide (due.toNat < product))) hscaled

/-- The share of a base is computed within the range of balances. -/
theorem shareOf?_eq_some (percent : Percent) (base : Balance) :
    shareOf? percent base = some (shareOf percent base) := by
  obtain ⟨whole, hofHundreds, hwhole⟩ := exists_ofHundreds? percent base
  obtain ⟨due, hofRest, hdue⟩ := exists_ofRest? percent base
  obtain ⟨part, hdiv, hpart⟩ := Word.exists_div? (a := due) (b := 100) (by decide)
  have hterms : whole.toNat + part.toNat = (shareOf percent base).toNat := by
    rw [toNat_shareOf, hwhole, hpart, hdue]
    rfl
  obtain ⟨share, hadd, hshare⟩ :=
    Word.exists_add? (hterms.trans_le (shareOf percent base).toNat_le_greatest)
  have hsame : share = shareOf percent base := Word.ext (hshare.trans hterms)
  simp only [shareOf?, hofHundreds, hofRest, hdiv, Option.bind_eq_bind, Option.bind_some, hadd,
    hsame]

/-- A value exceeds a percentage of a base exactly when it does so in unbounded numbers, where
percentages above one hundred count as one hundred. No product and no difference on the way is
outside the range of balances. -/
theorem exceeds_exact_within_range (value : Balance) (percent : Percent) (base : Balance) :
    (exceeds value percent base = true ↔
        min percent.toNat 100 * base.toNat < 100 * value.toNat) ∧
      exceeds? value percent base = some (exceeds value percent base) :=
  ⟨exceeds_eq_true_iff value percent base, exceeds?_eq_some value percent base⟩

end Percentage

end OrgGovernance
