import OrgGovernance.Proofs.Percentage
import Mathlib.Algebra.Order.Ring.Nat
import Mathlib.Algebra.Order.Ring.Unbundled.Basic
import Mathlib.Data.Nat.Sqrt
import Mathlib.Tactic.Ring

/-!
# Square roots are rounded down

The iteration ends at a number that its successor does not undercut, and such a
number squared is at most the radicand. On the way every iterate stays at the
root or above it, because a number and its quotient have no smaller mean. The
end is therefore the root rounded down. Two alone ends above its root, for the
iteration stops there before it has begun. The root of a balance takes at most
half the bits of the balance.

The iteration is followed round by round in operations that answer nothing when they
divide by zero or leave the range of balances. A round holds an iterate and the one
after it, and a pass replaces both for as long as the second is smaller. The second
iterate is never below the root, nor above half the balance and one, so that it is not
zero and its sum with its quotient stays within the range. Every balance therefore has
one run of rounds. The iterates fall from each round to the next, and the last of them
is the root.
-/

namespace OrgGovernance.SquareRoot

/-- A number whose successor is no smaller is at most the root. -/
theorem mul_self_le_of_le_next {n x : Nat} (ends : x ≤ next n x) : x * x ≤ n := by
  unfold next at ends
  rcases Nat.eq_zero_or_pos x with rfl | positive
  · exact Nat.zero_le n
  · have quotient : x ≤ n / x := by omega
    exact (Nat.le_div_iff_mul_le positive).mp quotient

/-- The successor of a number lies above the root once it is raised by one. -/
theorem lt_mul_self_next {n x : Nat} (positive : 0 < x) :
    n < (next n x + 1) * (next n x + 1) := by
  have quotient : n < x * (n / x + 1) := Nat.lt_mul_div_succ n positive
  have means : 4 * x * (n / x + 1) ≤ (x + (n / x + 1)) ^ 2 := four_mul_le_sq_add x (n / x + 1)
  have halved : x + (n / x + 1) ≤ 2 * (next n x + 1) := by
    unfold next
    omega
  have fourfold : 4 * n < 4 * ((next n x + 1) * (next n x + 1)) := by
    calc 4 * n
        < 4 * (x * (n / x + 1)) := by omega
      _ = 4 * x * (n / x + 1) := by ring
      _ ≤ (x + (n / x + 1)) ^ 2 := means
      _ ≤ (2 * (next n x + 1)) ^ 2 := Nat.pow_le_pow_left halved 2
      _ = 4 * ((next n x + 1) * (next n x + 1)) := by ring
  omega

/-- The iteration that goes on from a number ends at most at the root. -/
theorem mul_self_descend_le (n x : Nat) :
    descend n x (next n x) * descend n x (next n x) ≤ n := by
  -- The second number is always the successor of the first.
  generalize follows : next n x = y
  fun_induction descend n x y with
  | case1 x y smaller ih => exact ih rfl
  | case2 x y ends => exact mul_self_le_of_le_next (follows ▸ Nat.le_of_not_lt ends)

/-- The iteration that goes on from a number above the root ends no lower than the root rounded
down. -/
theorem lt_mul_self_descend {n x : Nat} (above : n < (x + 1) * (x + 1)) :
    n < (descend n x (next n x) + 1) * (descend n x (next n x) + 1) := by
  generalize follows : next n x = y
  fun_induction descend n x y with
  | case1 x y smaller ih =>
    -- A number with a smaller successor is not zero.
    have positive : 0 < x := Nat.zero_lt_of_lt smaller
    subst follows
    exact ih (lt_mul_self_next positive) rfl
  | case2 x y ends => exact above

/-- Beyond two the iteration goes on from one more than half the number. -/
theorem ofNat_eq_descend {n : Nat} (large : 2 < n) :
    ofNat n = descend n (n / 2 + 1) (next n (n / 2 + 1)) := by
  have other : ¬n < 2 := by omega
  have below : n / 2 + 1 < n := by omega
  rw [ofNat, if_neg other, descend, if_pos below]

/-- The iteration for two ends where it starts. -/
theorem ofNat_two : ofNat 2 = 2 := by
  rw [ofNat, if_neg (Nat.lt_irrefl 2), descend, if_neg (by decide)]

/-- The root squared is at most the number, which only two fails. -/
theorem mul_self_ofNat_le {n : Nat} (other : n ≠ 2) : ofNat n * ofNat n ≤ n := by
  rcases Nat.lt_or_ge 2 n with large | small
  · rw [ofNat_eq_descend large]
    exact mul_self_descend_le n (n / 2 + 1)
  · have either : n = 0 ∨ n = 1 := by omega
    rcases either with rfl | rfl <;> decide

/-- One more than the root squared is more than the number. -/
theorem lt_mul_self_ofNat (n : Nat) : n < (ofNat n + 1) * (ofNat n + 1) := by
  rcases Nat.lt_or_ge 2 n with large | small
  · have start : n < (n / 2 + 1 + 1) * (n / 2 + 1 + 1) := by
      calc n
          < 2 * (n / 2 + 1) := by omega
        _ ≤ (n / 2 + 1 + 1) * (n / 2 + 1 + 1) := Nat.mul_le_mul (by omega) (by omega)
    rw [ofNat_eq_descend large]
    exact lt_mul_self_descend start
  · have either : n = 0 ∨ n = 1 ∨ n = 2 := by omega
    rcases either with rfl | rfl | rfl
    · decide
    · decide
    · rw [ofNat_two]
      decide

/-- The root of every balance but two is the root rounded down: squared it is at most the balance,
and one more squared is more than the balance. The root of two is two. -/
theorem ofBalance_rounds_down_iff_ne_two (n : Balance) :
    let root := (ofBalance n).toNat
    (root * root ≤ n.toNat ∧ n.toNat < (root + 1) * (root + 1) ↔ n ≠ 2) ∧
      root = if n = 2 then 2 else n.toNat.sqrt := by
  intro root
  have above : n.toNat < (root + 1) * (root + 1) := lt_mul_self_ofNat n.toNat
  rcases eq_or_ne n 2 with rfl | other
  · have two : root = 2 := ofNat_two
    rw [if_pos rfl, two]
    exact ⟨by decide, rfl⟩
  · have number : n.toNat ≠ 2 := fun same => other (Word.ext same)
    have below : root * root ≤ n.toNat := mul_self_ofNat_le number
    rw [if_neg other]
    exact ⟨⟨fun _ => other, fun _ => ⟨below, above⟩⟩, Nat.eq_sqrt.mpr ⟨below, above⟩⟩

/-- The root of two squared is more than two. -/
theorem two_lt_mul_self_root_of_two :
    (2 : Balance).toNat < (ofBalance 2).toNat * (ofBalance 2).toNat := by
  have two : (ofBalance 2).toNat = 2 := ofNat_two
  rw [two]
  decide

/-- The root of a balance takes half the bits. -/
theorem ofBalance_le (n : Balance) : (ofBalance n).toNat ≤ 2 ^ 64 - 1 := by
  have fits : n.toNat < 2 ^ 64 * 2 ^ 64 := n.toNat_lt
  rcases eq_or_ne n.toNat 2 with two | other
  · have small := ofNat_le n.toNat
    change ofNat n.toNat ≤ 2 ^ 64 - 1
    omega
  · have root := mul_self_ofNat_le other
    have below : ofNat n.toNat < 2 ^ 64 := Nat.mul_self_lt_mul_self_iff.mp (root.trans_lt fits)
    exact Nat.le_pred_of_lt below

/-- An iterate and the one after it. -/
@[ext]
structure Round where
  /-- The iterate that has been reached. -/
  current : Balance
  /-- The iterate after it, which is taken when it is smaller. -/
  following : Balance

/-- The round that the iteration begins with, when every step is a balance. -/
def start? (n : Balance) : Option Round := do
  let half ← n.div? 2
  let following ← half.add? 1
  return ⟨n, following⟩

/-- The round after a pass, when every step is a balance. -/
def Round.pass? (r : Round) (n : Balance) : Option Round := do
  let quotient ← n.div? r.following
  let sum ← r.following.add? quotient
  let following ← sum.div? 2
  return ⟨r.following, following⟩

/-- The iteration from a round on, with all its rounds and the number it ends at, when every pass
is answered. -/
inductive Runs (n : Balance) : Round → List Round → Balance → Prop
  /-- The second iterate is no smaller, and the iteration ends at the first. -/
  | ends {r : Round} (level : ¬r.following < r.current) : Runs n r [r] r.current
  /-- The second iterate is smaller, and the iteration goes on from it. -/
  | passes {r s : Round} {later : List Round} {root : Balance} (smaller : r.following < r.current)
    (pass : r.pass? n = some s) (run : Runs n s later root) : Runs n r (r :: later) root

/-- The first round holds the balance and one more than its half. -/
theorem exists_start? (n : Balance) :
    ∃ first, start? n = some first ∧ first.current = n ∧
      first.following.toNat = n.toNat / 2 + 1 := by
  have fits := n.toNat_le_greatest
  obtain ⟨half, halves, hhalf⟩ := Word.exists_div? (a := n) (b := 2) (by decide)
  have value : half.toNat = n.toNat / 2 := hhalf
  have room : half.toNat + (1 : Balance).toNat ≤ Word.greatest 128 := by
    have one : (1 : Balance).toNat = 1 := rfl
    have large : 2 ≤ Word.greatest 128 := by decide
    omega
  obtain ⟨following, adds, hfollowing⟩ := Word.exists_add? room
  refine ⟨⟨n, following⟩, ?_, rfl, hfollowing.trans (congrArg (· + 1) value)⟩
  simp only [start?, halves, adds, Option.bind_eq_bind, Option.bind_some]
  rfl

/-- A pass is answered exactly when it divides by no zero and its sum is a balance, and then it
takes the second iterate and its successor. -/
theorem pass?_eq_some_iff {n : Balance} {r s : Round} :
    r.pass? n = some s ↔
      (1 ≤ r.following.toNat ∧
        r.following.toNat + n.toNat / r.following.toNat ≤ Word.greatest 128) ∧
      s.current = r.following ∧ s.following.toNat = next n.toNat r.following.toNat := by
  constructor
  · intro pass
    simp only [Round.pass?, Option.bind_eq_bind, Option.bind_eq_some_iff] at pass
    obtain ⟨quotient, divides, sum, adds, following, halves, same⟩ := pass
    obtain ⟨positive, hquotient⟩ := Word.div?_eq_some_iff.mp divides
    have hsum := Word.add?_eq_some_iff.mp adds
    have hfollowing := (Word.div?_eq_some_iff.mp halves).2
    obtain rfl := Option.some.inj same
    rw [← hquotient] at hsum
    rw [← hsum] at hfollowing
    refine ⟨⟨Nat.one_le_iff_ne_zero.mpr positive, ?_⟩, rfl, hfollowing.symm⟩
    rw [hsum]
    exact sum.toNat_le_greatest
  · rintro ⟨⟨positive, fits⟩, hcurrent, hfollowing⟩
    obtain ⟨quotient, divides, hquotient⟩ :=
      Word.exists_div? (a := n) (Nat.one_le_iff_ne_zero.mp positive)
    rw [← hquotient] at fits
    obtain ⟨sum, adds, hsum⟩ := Word.exists_add? fits
    obtain ⟨following, halves, hhalf⟩ := Word.exists_div? (a := sum) (b := 2) (by decide)
    have value : following.toNat = s.following.toNat := by
      rw [hhalf, hsum, hquotient, hfollowing]
      rfl
    have same : (⟨r.following, following⟩ : Round) = s := Round.ext hcurrent.symm (Word.ext value)
    simp only [Round.pass?, divides, adds, halves, Option.bind_eq_bind, Option.bind_some]
    exact congrArg some same

/-! ### Every balance has a run -/

/-- The second iterate of a round lies at the root or above it, and no higher than half the balance
and one. -/
structure Round.Approaches (r : Round) (n : Balance) : Prop where
  /-- The iterate is at most the balance. -/
  current_le : r.current.toNat ≤ n.toNat
  /-- The iterate after it is not zero. -/
  positive : 1 ≤ r.following.toNat
  /-- One more than the iterate after it lies above the root. -/
  above : n.toNat < (r.following.toNat + 1) * (r.following.toNat + 1)
  /-- The iterate after it is at most one more than half the balance. -/
  following_le : r.following.toNat ≤ n.toNat / 2 + 1

/-- The first round approaches the root. -/
theorem approaches_of_start {n : Balance} {first : Round} (current : first.current = n)
    (following : first.following.toNat = n.toNat / 2 + 1) : first.Approaches n where
  current_le := by rw [current]
  positive := by omega
  above := by
    calc n.toNat
        < 2 * first.following.toNat := by omega
      _ ≤ (first.following.toNat + 1) * (first.following.toNat + 1) :=
        Nat.mul_le_mul (by omega) (by omega)
  following_le := Nat.le_of_eq following

/-- An iterate and its quotient make up at most one more than twice half the balance, or four for
the smallest balances. -/
theorem add_div_le {n x : Nat} (positive : 1 ≤ x) (above : n < (x + 1) * (x + 1))
    (half : x ≤ n / 2 + 1) : x + n / x ≤ max 4 (2 * (n / 2) + 1) := by
  rcases Nat.eq_or_lt_of_le positive with rfl | large
  · rw [Nat.div_one]
    omega
  · have quotient : n / x ≤ n / 2 := Nat.div_le_div_left large (by decide)
    omega

/-- A round that approaches the root is passed within the range of balances, and the round after it
approaches the root. -/
theorem Round.Approaches.exists_pass? {n : Balance} {r : Round} (h : r.Approaches n)
    (smaller : r.following < r.current) : ∃ s, r.pass? n = some s ∧ s.Approaches n := by
  have below : r.following.toNat < n.toNat := Nat.lt_of_lt_of_le smaller h.current_le
  have positive := h.positive
  have sum := add_div_le positive h.above h.following_le
  have quotient : 1 ≤ n.toNat / r.following.toNat := Nat.div_pos below.le positive
  have width : Word.greatest 128 = 2 ^ 128 - 1 := rfl
  have balance := n.toNat_le_greatest
  have fits : r.following.toNat + n.toNat / r.following.toNat ≤ Word.greatest 128 := by omega
  have halved : next n.toNat r.following.toNat ≤ Word.greatest 128 :=
    (Nat.div_le_self _ 2).trans fits
  obtain ⟨following, _, value⟩ := Word.exists_ofNat? halved
  refine ⟨⟨r.following, following⟩, pass?_eq_some_iff.mpr ⟨⟨positive, fits⟩, rfl, value⟩, ?_⟩
  refine ⟨below.le, ?_, ?_, ?_⟩
  · rw [value, next]
    omega
  · rw [value]
    exact lt_mul_self_next positive
  · rw [value, next]
    omega

/-- From a round that approaches the root the iteration runs to its end. -/
theorem Round.Approaches.exists_runs {n : Balance} {r : Round} (h : r.Approaches n) :
    ∃ rounds root, Runs n r rounds root := by
  -- The induction is on the first iterate, which a pass replaces by the smaller one.
  induction size : r.current.toNat using Nat.strongRecOn generalizing r with
  | ind m ih =>
    by_cases smaller : r.following < r.current
    · obtain ⟨s, pass, approaches⟩ := h.exists_pass? smaller
      have current := (pass?_eq_some_iff.mp pass).2.1
      have less : s.current.toNat < m := by
        rw [current, ← size]
        exact smaller
      obtain ⟨later, root, run⟩ := ih s.current.toNat less approaches rfl
      exact ⟨r :: later, root, .passes smaller pass run⟩
    · exact ⟨[r], r.current, .ends smaller⟩

/-! ### What a run is like -/

namespace Runs

variable {n : Balance} {r : Round} {rounds : List Round} {root : Balance}

/-- A round has one run. -/
theorem unique (run : Runs n r rounds root) {others : List Round} {other : Balance}
    (again : Runs n r others other) : others = rounds ∧ other = root := by
  induction run generalizing others other with
  | ends level =>
    cases again with
    | ends _ => exact ⟨rfl, rfl⟩
    | passes smaller _ _ => exact absurd smaller level
  | passes smaller pass _ ih =>
    cases again with
    | ends level => exact absurd smaller level
    | passes _ pass' run' =>
      obtain rfl := Option.some.inj (pass.symm.trans pass')
      obtain ⟨same, equal⟩ := ih run'
      exact ⟨congrArg _ same, equal⟩

/-- A run begins with its round. -/
theorem exists_eq_cons (run : Runs n r rounds root) : ∃ later, rounds = r :: later := by
  cases run with
  | ends _ => exact ⟨[], rfl⟩
  | passes _ _ _ => exact ⟨_, rfl⟩

/-- No round of a run has a first iterate above that of the round it begins with. -/
theorem current_le (run : Runs n r rounds root) {s : Round} (member : s ∈ rounds) :
    s.current ≤ r.current := by
  induction run with
  | ends _ =>
    obtain rfl := List.mem_singleton.mp member
    exact Nat.le_refl _
  | @passes r t later root smaller pass run ih =>
    rcases List.mem_cons.mp member with rfl | behind
    · exact Nat.le_refl _
    · have current := (pass?_eq_some_iff.mp pass).2.1
      have reached := ih behind
      rw [current] at reached
      exact Nat.le_trans reached (Nat.le_of_lt smaller)

/-- The first iterates of a run fall from each round to the next. -/
theorem falls (run : Runs n r rounds root) :
    rounds.Pairwise fun earlier later => later.current < earlier.current := by
  induction run with
  | ends _ => exact List.pairwise_singleton _ _
  | passes smaller pass run ih =>
    refine List.pairwise_cons.mpr ⟨fun s member => ?_, ih⟩
    have reached := run.current_le member
    rw [(pass?_eq_some_iff.mp pass).2.1] at reached
    exact Nat.lt_of_le_of_lt reached smaller

/-- The first iterate of every round but the first of a run is not zero, and together with its
quotient it is a balance. -/
theorem divides (run : Runs n r rounds root) :
    ∀ s ∈ rounds.tail, 1 ≤ s.current.toNat ∧
      s.current.toNat + n.toNat / s.current.toNat ≤ Word.greatest 128 := by
  induction run with
  | ends _ => exact List.forall_mem_nil _
  | passes smaller pass run ih =>
    obtain ⟨later, rfl⟩ := run.exists_eq_cons
    obtain ⟨answered, current, _⟩ := pass?_eq_some_iff.mp pass
    rw [← current] at answered
    exact List.forall_mem_cons.mpr ⟨answered, ih⟩

/-- A run ends where the iteration in unbounded numbers does. -/
theorem root_eq (run : Runs n r rounds root) :
    root.toNat = descend n.toNat r.current.toNat r.following.toNat := by
  induction run with
  | ends level => rw [descend, if_neg (mt Word.lt_def.mpr level)]
  | @passes r s later root smaller pass run ih =>
    obtain ⟨_, current, following⟩ := pass?_eq_some_iff.mp pass
    have goes : descend n.toNat r.current.toNat r.following.toNat =
        descend n.toNat r.following.toNat (next n.toNat r.following.toNat) := by
      rw [descend.eq_1 _ r.current.toNat, if_pos (Word.lt_def.mp smaller)]
    rw [ih, current, following, goes]

end Runs

/-- The iteration from the first round gives the root of every number. -/
theorem ofNat_eq_descend_start (n : Nat) : ofNat n = descend n n (n / 2 + 1) := by
  unfold ofNat
  split
  · next small =>
    have level : ¬n / 2 + 1 < n := by omega
    rw [descend, if_neg level]
  · rfl

/-- For every balance half of it and one is a balance, and the iteration that begins there has
exactly one run, which ends at the root. From each of its rounds to the next the iterate falls. An
iterate that the balance is divided by is at least one, and its sum with the quotient is a balance
again, so that no step divides by zero or leaves the range. -/
theorem rounds_fall_within_range (n : Balance) :
    n.toNat / 2 + 1 ≤ 2 ^ 128 - 1 ∧
      ∃ first rounds, start? n = some first ∧
        (∀ others root, Runs n first others root ↔ others = rounds ∧ root = ofBalance n) ∧
        (rounds.Pairwise fun earlier later => later.current < earlier.current) ∧
        ∀ r ∈ rounds.tail, 1 ≤ r.current.toNat ∧
          r.current.toNat + n.toNat / r.current.toNat ≤ 2 ^ 128 - 1 := by
  obtain ⟨first, starts, current, following⟩ := exists_start? n
  obtain ⟨rounds, root, run⟩ := (approaches_of_start current following).exists_runs
  have answer : root = ofBalance n := by
    refine Word.ext (run.root_eq.trans ?_)
    rw [current, following]
    exact (ofNat_eq_descend_start n.toNat).symm
  subst answer
  refine ⟨?_, first, rounds, starts, fun others root => ⟨run.unique, ?_⟩, run.falls, run.divides⟩
  · rw [← following]
    exact first.following.toNat_le_greatest
  · rintro ⟨rfl, rfl⟩
    exact run

end OrgGovernance.SquareRoot
