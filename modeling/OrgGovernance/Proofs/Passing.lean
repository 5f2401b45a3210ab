import OrgGovernance.Proofs.Percentage
import OrgGovernance.Proofs.Recording

/-!
# When a proposal passes

A proposal reaches its thresholds when participation exceeds its share of the
supply and the favorable power exceeds its share of the participation, both in
unbounded numbers. The decision is taken over a participation that is held at
the largest balance. It is right whenever the two sides fit a balance together;
beyond, the exact conditions are given under which a proposal passes without
its quorum or is refused with both thresholds reached.

Favorable power raises the participation, and the favorable power has to exceed
its share of that. The share grows by no more than the power added, since a
percentage never counts for more than one hundred, and the clipped participation
by no more than that either. A proposal that passes therefore passes with more
favorable power, and against a smaller supply; without any it never passes.
-/

namespace OrgGovernance

namespace Thresholds

/-- Both percentages are at most one hundred. -/
def Bounded (t : Thresholds) : Prop :=
  t.minQuorum.toNat ≤ Percentage.highest ∧ t.minParticipation.toNat ≤ Percentage.highest

/-- Participation and quorum are exceeded, without any limit on the numbers. -/
def Reached (t : Thresholds) (favorable against supply : Nat) : Prop :=
  t.minParticipation.toNat * supply < 100 * (favorable + against) ∧
    t.minQuorum.toNat * (favorable + against) < 100 * favorable

/-- All of the largest possible supply has to participate. -/
def DemandsMost (t : Thresholds) (supply : Nat) : Prop :=
  t.minParticipation.toNat = 100 ∧ supply = Word.greatest 128

/-- The sides do not fit a balance together, and the favorable power exceeds its share of the
largest balance but not of their sum. -/
def PassedShortOfQuorum (t : Thresholds) (favorable against supply : Nat) : Prop :=
  Word.greatest 128 < favorable + against ∧ ¬t.DemandsMost supply ∧
    t.minQuorum.toNat * Word.greatest 128 < 100 * favorable ∧
    100 * favorable ≤ t.minQuorum.toNat * (favorable + against)

/-- The sides do not fit a balance together, and their sum alone exceeds the whole supply. -/
def RefusedWithQuorum (t : Thresholds) (favorable against supply : Nat) : Prop :=
  Word.greatest 128 < favorable + against ∧ t.DemandsMost supply ∧
    t.minQuorum.toNat * (favorable + against) < 100 * favorable

instance (t : Thresholds) : Decidable t.Bounded := inferInstanceAs (Decidable (_ ∧ _))

instance (t : Thresholds) (favorable against supply : Nat) :
    Decidable (t.Reached favorable against supply) := inferInstanceAs (Decidable (_ ∧ _))

instance (t : Thresholds) (supply : Nat) : Decidable (t.DemandsMost supply) :=
  inferInstanceAs (Decidable (_ ∧ _))

instance (t : Thresholds) (favorable against supply : Nat) :
    Decidable (t.PassedShortOfQuorum favorable against supply) :=
  inferInstanceAs (Decidable (_ ∧ ¬_ ∧ _ ∧ _))

instance (t : Thresholds) (favorable against supply : Nat) :
    Decidable (t.RefusedWithQuorum favorable against supply) :=
  inferInstanceAs (Decidable (_ ∧ _ ∧ _))

/-- A tally passes exactly when participation and favorable power exceed their percentages, as
these count, over the clipped participation. -/
theorem passed_iff_counted (t : Thresholds) (favorable against supply : Balance) :
    t.passed favorable against supply = true ↔
      Percentage.counted t.minParticipation * supply.toNat <
          100 * min (favorable.toNat + against.toNat) (Word.greatest 128) ∧
        Percentage.counted t.minQuorum *
            min (favorable.toNat + against.toNat) (Word.greatest 128) <
          100 * favorable.toNat := by
  simp only [passed, Bool.and_eq_true, Percentage.exceeds_eq_true_iff, Word.toNat_addClipped]

/-- A tally passes exactly when it reaches its thresholds over the clipped participation. -/
theorem passed_eq_true_iff {t : Thresholds} (h : t.Bounded) (favorable against supply : Balance) :
    t.passed favorable against supply = true ↔
      t.minParticipation.toNat * supply.toNat <
          100 * min (favorable.toNat + against.toNat) (Word.greatest 128) ∧
        t.minQuorum.toNat * min (favorable.toNat + against.toNat) (Word.greatest 128) <
          100 * favorable.toNat := by
  have hq : Percentage.counted t.minQuorum = t.minQuorum.toNat := Nat.min_eq_left h.1
  have hp : Percentage.counted t.minParticipation = t.minParticipation.toNat := Nat.min_eq_left h.2
  rw [passed_iff_counted, hq, hp]

/-- Without favorable power no thresholds pass, against any supply. -/
theorem passed_eq_false_of_unfavorable (t : Thresholds) {favorable : Balance}
    (h : favorable.toNat = 0) (against supply : Balance) :
    t.passed favorable against supply = false := by
  rw [← Bool.not_eq_true, passed_iff_counted, h]
  omega

/-- A percentage of a supply stays below the largest balance unless it is all of it. -/
theorem participation_lt_greatest_iff {t : Thresholds} (h : t.Bounded) {supply : Nat}
    (hs : supply ≤ Word.greatest 128) :
    t.minParticipation.toNat * supply < 100 * Word.greatest 128 ↔ ¬t.DemandsMost supply := by
  have hp : t.minParticipation.toNat ≤ 100 := h.2
  have hpositive : 0 < Word.greatest 128 := by decide
  constructor
  · rintro hlt ⟨hall, hmost⟩
    rw [hall, hmost] at hlt
    exact Nat.lt_irrefl _ hlt
  · intro hnot
    by_cases hall : t.minParticipation.toNat = 100
    · have hless : supply < Word.greatest 128 := Nat.lt_of_le_of_ne hs fun e => hnot ⟨hall, e⟩
      rw [hall]
      omega
    · calc t.minParticipation.toNat * supply
          ≤ 99 * Word.greatest 128 := Nat.mul_le_mul (by omega) hs
        _ < 100 * Word.greatest 128 := by omega

/-- Sides that fit a balance together are judged by the thresholds. -/
theorem passed_iff_reached_of_fits {t : Thresholds} (h : t.Bounded)
    {favorable against : Balance} (supply : Balance)
    (hfits : favorable.toNat + against.toNat ≤ Word.greatest 128) :
    t.passed favorable against supply = true ↔
      t.Reached favorable.toNat against.toNat supply.toNat := by
  rw [passed_eq_true_iff h, Nat.min_eq_left hfits]
  exact Iff.rfl

/-- Sides that do not fit a balance together are judged by the largest balance. -/
theorem passed_iff_of_overfull {t : Thresholds} (h : t.Bounded)
    {favorable against : Balance} (supply : Balance)
    (hover : Word.greatest 128 < favorable.toNat + against.toNat) :
    t.passed favorable against supply = true ↔
      ¬t.DemandsMost supply.toNat ∧
        t.minQuorum.toNat * Word.greatest 128 < 100 * favorable.toNat := by
  rw [passed_eq_true_iff h, Nat.min_eq_right hover.le,
    participation_lt_greatest_iff h supply.toNat_le_greatest]

/-- Sides that do not fit a balance together exceed every participation, so that the quorum
alone is left to reach. -/
theorem reached_iff_of_overfull {t : Thresholds} (h : t.Bounded) {favorable against supply : Nat}
    (hs : supply ≤ Word.greatest 128) (hover : Word.greatest 128 < favorable + against) :
    t.Reached favorable against supply ↔
      t.minQuorum.toNat * (favorable + against) < 100 * favorable := by
  have hp : t.minParticipation.toNat ≤ 100 := h.2
  have hparticipation : t.minParticipation.toNat * supply < 100 * (favorable + against) := by
    calc t.minParticipation.toNat * supply
        ≤ 100 * Word.greatest 128 := Nat.mul_le_mul hp hs
      _ < 100 * (favorable + against) := by omega
  exact ⟨fun hr => hr.2, fun hq => ⟨hparticipation, hq⟩⟩

end Thresholds

/-- The totals of a tally in which votes count decide whether it passes. -/
theorem Tally.isPassing_eq_passed {t : Tally} (h : t.systemId ≠ .conviction) (supply : Balance) :
    t.isPassing supply =
      t.system.thresholds.passed t.totals.favorable t.totals.against supply := by
  cases t with
  | coin t => rfl
  | conviction t => exact absurd rfl h
  | sealed t => rfl

/-- Under coin and sealed voting a proposal whose sides fit a balance together passes exactly
when it reaches its thresholds. One whose sides do not fit passes without having reached them,
or is refused although it has, under exactly the stated conditions. -/
theorem isPassing_iff_reached_or_misjudged {t : Tally} (h : t.systemId ≠ .conviction)
    (hb : t.system.thresholds.Bounded) (supply : Balance) :
    let favorable := t.totals.favorable.toNat
    let against := t.totals.against.toNat
    let thresholds := t.system.thresholds
    (favorable + against ≤ Word.greatest 128 →
      (t.isPassing supply = true ↔ thresholds.Reached favorable against supply.toNat)) ∧
    (t.isPassing supply = true ∧ ¬thresholds.Reached favorable against supply.toNat ↔
      thresholds.PassedShortOfQuorum favorable against supply.toNat) ∧
    (t.isPassing supply = false ∧ thresholds.Reached favorable against supply.toNat ↔
      thresholds.RefusedWithQuorum favorable against supply.toNat) := by
  intro favorable against thresholds
  rw [Tally.isPassing_eq_passed h]
  rcases Nat.lt_or_ge (Word.greatest 128) (favorable + against) with hover | hfits
  · have hpassed := thresholds.passed_iff_of_overfull hb supply hover
    have hreached := thresholds.reached_iff_of_overfull hb supply.toNat_le_greatest hover
    have hshare : thresholds.minQuorum.toNat * Word.greatest 128 ≤
        thresholds.minQuorum.toNat * (favorable + against) := Nat.mul_le_mul_left _ hover.le
    rw [← Bool.not_eq_true, hpassed, hreached]
    refine ⟨fun hfits => absurd hover (Nat.not_lt.mpr hfits), ?_, ?_⟩
    · constructor
      · rintro ⟨⟨hmost, hquorum⟩, hshort⟩
        exact ⟨hover, hmost, hquorum, Nat.not_lt.mp hshort⟩
      · rintro ⟨_, hmost, hquorum, hshort⟩
        exact ⟨⟨hmost, hquorum⟩, Nat.not_lt.mpr hshort⟩
    · constructor
      · rintro ⟨hrefused, hquorum⟩
        refine ⟨hover, ?_, hquorum⟩
        by_contra hmost
        exact hrefused ⟨hmost, hshare.trans_lt hquorum⟩
      · rintro ⟨_, hmost, hquorum⟩
        exact ⟨fun hpasses => hpasses.1 hmost, hquorum⟩
  · have hpassed := thresholds.passed_iff_reached_of_fits hb supply hfits
    rw [← Bool.not_eq_true, hpassed]
    refine ⟨fun _ => Iff.rfl, ?_, ?_⟩
    · constructor
      · rintro ⟨hreached, hnot⟩
        exact absurd hreached hnot
      · rintro ⟨hover, _⟩
        exact absurd hover (Nat.not_lt.mpr hfits)
    · constructor
      · rintro ⟨hnot, hreached⟩
        exact absurd hreached hnot
      · rintro ⟨hover, _⟩
        exact absurd hover (Nat.not_lt.mpr hfits)

/-- Two opposite votes of the largest power pass a proposal that half of them does not
support, because the participation they make up is clipped. -/
theorem opposite_votes_pass_short_of_quorum :
    let system := VotingSystem.coin ⟨10, ⟨1, 50, 33⟩, .simple⟩
    let most : Balance := Word.clip 128 (2 ^ 128)
    let tally := system.freshTally.submitAll
      [⟨"anna", .vote ⟨true, most⟩⟩, ⟨"bert", .vote ⟨false, most⟩⟩]
    tally.systemId ≠ .conviction ∧ tally.system.thresholds.Bounded ∧
      tally.isPassing 1000 = true ∧
      ¬tally.system.thresholds.Reached tally.totals.favorable.toNat
        tally.totals.against.toNat 1000 := by
  intro system most tally
  have hid : tally.systemId ≠ .conviction := by decide +kernel
  have hbounded : tally.system.thresholds.Bounded := by decide +kernel
  have hjudged := (isPassing_iff_reached_or_misjudged hid hbounded 1000).2.1
  exact ⟨hid, hbounded, hjudged.mpr (by decide +kernel)⟩

/-- Two opposite votes of the largest power are refused when all of the largest supply has to
participate, although together they are more than that and the favorable one reaches the quorum. -/
theorem opposite_votes_refused_with_quorum :
    let system := VotingSystem.coin ⟨10, ⟨1, 10, 100⟩, .simple⟩
    let most : Balance := Word.clip 128 (2 ^ 128)
    let tally := system.freshTally.submitAll
      [⟨"anna", .vote ⟨true, most⟩⟩, ⟨"bert", .vote ⟨false, most⟩⟩]
    tally.isPassing most = false ∧
      tally.system.thresholds.Reached tally.totals.favorable.toNat
        tally.totals.against.toNat most.toNat := by
  decide +kernel

/-- Thresholds that pass still pass with more favorable power and against a smaller supply. -/
theorem Thresholds.passed_mono {t : Thresholds} {favorable more against supply less : Balance}
    (grown : favorable ≤ more) (shrunk : less ≤ supply)
    (passes : t.passed favorable against supply = true) :
    t.passed more against less = true := by
  rw [passed_iff_counted] at passes ⊢
  obtain ⟨participates, carries⟩ := passes
  have added : favorable.toNat ≤ more.toNat := grown
  have smaller : less.toNat ≤ supply.toNat := shrunk
  have quorum : Percentage.counted t.minQuorum ≤ 100 := Percentage.counted_le t.minQuorum
  let before := min (favorable.toNat + against.toNat) (Word.greatest 128)
  let after := min (more.toNat + against.toNat) (Word.greatest 128)
  have rises : before ≤ after := by omega
  have slowly : after ≤ before + (more.toNat - favorable.toNat) := by omega
  constructor
  · calc Percentage.counted t.minParticipation * less.toNat
        ≤ Percentage.counted t.minParticipation * supply.toNat := Nat.mul_le_mul_left _ smaller
      _ < 100 * before := participates
      _ ≤ 100 * after := Nat.mul_le_mul_left _ rises
  · have share : Percentage.counted t.minQuorum * (more.toNat - favorable.toNat) ≤
        100 * (more.toNat - favorable.toNat) := Nat.mul_le_mul_right _ quorum
    calc Percentage.counted t.minQuorum * after
        ≤ Percentage.counted t.minQuorum * (before + (more.toNat - favorable.toNat)) :=
          Nat.mul_le_mul_left _ slowly
      _ = Percentage.counted t.minQuorum * before +
          Percentage.counted t.minQuorum * (more.toNat - favorable.toNat) := Nat.mul_add _ _ _
      _ < 100 * favorable.toNat + 100 * (more.toNat - favorable.toNat) :=
          Nat.add_lt_add_of_lt_of_le carries share
      _ = 100 * more.toNat := by omega

/-- No tally under conviction voting passes. -/
theorem Tally.isPassing_conviction {t : Tally} (stakes : t.systemId = .conviction)
    (supply : Balance) : t.isPassing supply = false := by
  cases t with
  | coin t => cases stakes
  | conviction t => rfl
  | sealed t => cases stakes

/-- A tally that passes against a supply passes with more favorable power, the same power against
and the same voting system, also against a smaller supply, and this whether or not the two sides
fit a balance together. A tally without favorable power passes against no supply. -/
theorem passing_grows_with_favorable_power :
    (∀ (t more : Tally) (supply less : Balance), more.system = t.system →
      t.totals.favorable ≤ more.totals.favorable → more.totals.against = t.totals.against →
      less ≤ supply → t.isPassing supply = true → more.isPassing less = true) ∧
    (∀ (t : Tally) (supply : Balance), t.totals.favorable = 0 → t.isPassing supply = false) := by
  constructor
  · intro t more supply less same grown kept shrunk passes
    have votes : t.systemId ≠ .conviction := by
      intro stakes
      rw [Tally.isPassing_conviction stakes] at passes
      cases passes
    have also : more.systemId ≠ .conviction := by
      rwa [Tally.systemId, same]
    rw [Tally.isPassing_eq_passed votes] at passes
    rw [Tally.isPassing_eq_passed also, same, kept]
    exact Thresholds.passed_mono grown shrunk passes
  · intro t supply none
    by_cases stakes : t.systemId = .conviction
    · exact Tally.isPassing_conviction stakes supply
    · have zero : t.totals.favorable.toNat = 0 := congrArg Word.toNat none
      rw [Tally.isPassing_eq_passed stakes]
      exact Thresholds.passed_eq_false_of_unfavorable _ zero _ supply

/-- Two opposite votes that do not fit a balance together pass a proposal. It passes against a
smaller supply too after a third voter has taken the favorable power to its limit. -/
theorem overfull_votes_go_on_passing :
    let system := VotingSystem.coin ⟨10, ⟨1, 50, 99⟩, .simple⟩
    let half : Balance := Word.clip 128 (2 ^ 127 + 1)
    let most : Balance := Word.clip 128 (2 ^ 128)
    let votes : List Submission := [⟨"anna", .vote ⟨true, half⟩⟩, ⟨"bert", .vote ⟨false, half⟩⟩]
    let third : Submission := ⟨"cara", .vote ⟨true, most⟩⟩
    let tally := system.freshTally.submitAll votes
    let more := system.freshTally.submitAll (votes ++ [third])
    tally.isPassing most = true ∧ more.totals.favorable = most ∧ more.isPassing 1000 = true ∧
      system.freshTally.isPassing 1000 = false := by
  intro system half most votes third tally more
  obtain ⟨grows, never⟩ := passing_grows_with_favorable_power
  have same : more.system = tally.system := by simp only [more, tally, Tally.submitAll_system]
  have passes : tally.isPassing most = true := by decide +kernel
  have limit : more.totals.favorable = most := by decide +kernel
  have grown : tally.totals.favorable ≤ more.totals.favorable := by decide +kernel
  have kept : more.totals.against = tally.totals.against := by decide +kernel
  exact ⟨passes, limit, grows tally more most 1000 same grown kept (by decide +kernel) passes,
    never system.freshTally 1000 rfl⟩

end OrgGovernance
