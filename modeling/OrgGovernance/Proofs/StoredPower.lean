import OrgGovernance.Proofs.Recording
import Mathlib.Data.List.Infix

/-!
# Stored power and running totals

Totals are kept up to date by clipped additions and subtractions, while the
stored decisions keep every power in full. The totals equal the clipped sums of
the stored power until a side that holds more than the largest balance loses
power: what was clipped away is then missing. This is the only way in which
totals and decisions come apart.
-/

namespace OrgGovernance

/-- The power of a ballot on a side; on the other side it has none. -/
def Ballot.powerOn (side : Bool) (b : Ballot) : Nat :=
  if b.inSupport = side then b.power.toNat else 0

/-- The revealed power of an entry on a side. -/
def SealedEntry.powerOn (side : Bool) : SealedEntry → Nat
  | .committed _ => 0
  | .revealed b => Ballot.powerOn side ⟨b.inSupport, b.power⟩

/-- No ballot has more power than the largest balance. -/
theorem Ballot.powerOn_le (side : Bool) (b : Ballot) : b.powerOn side ≤ Word.greatest 128 := by
  unfold Ballot.powerOn
  split
  · exact b.power.toNat_le_greatest
  · exact Nat.zero_le _

namespace Totals

/-- Totals are determined by their two sides. -/
theorem eq_of_sides {t u : Totals} (h : ∀ side, (t.side side).toNat = (u.side side).toNat) :
    t = u := by
  cases t with
  | mk favorable against =>
    cases u with
    | mk favorable' against' =>
      have hf : favorable = favorable' := Word.ext (h true)
      have ha : against = against' := Word.ext (h false)
      rw [hf, ha]

/-- Adding power raises its own side, held at the largest balance, and no other. -/
theorem toNat_side_add (t : Totals) (b : Ballot) (side : Bool) :
    ((t.add b.inSupport b.power).side side).toNat =
      min ((t.side side).toNat + b.powerOn side) (Word.greatest 128) := by
  have hf := t.favorable.toNat_le_greatest
  have ha := t.against.toNat_le_greatest
  cases hb : b.inSupport <;> cases side <;> simp [add, Totals.side, Ballot.powerOn, hb, hf, ha]

/-- Taking power back lowers its own side, held at zero, and no other. -/
theorem toNat_side_remove (t : Totals) (b : Ballot) (side : Bool) :
    ((t.remove b.inSupport b.power).side side).toNat = (t.side side).toNat - b.powerOn side := by
  cases hb : b.inSupport <;> cases side <;> simp [remove, Totals.side, Ballot.powerOn, hb]

/-- Recasting moves a side from the power of the replaced ballot to that of the new one. -/
theorem toNat_side_recast (t : Totals) (previous : Option Ballot) (current : Ballot)
    (side : Bool) :
    ((t.recast previous current).side side).toNat =
      min ((t.side side).toNat - (previous.map (Ballot.powerOn side)).getD 0 +
        current.powerOn side) (Word.greatest 128) := by
  cases previous with
  | none => simp only [recast, toNat_side_add, Option.map_none, Option.getD_none, Nat.sub_zero]
  | some b =>
    simp only [recast, toNat_side_add, toNat_side_remove, Option.map_some, Option.getD_some]

end Totals

namespace Tally

/-- The counted power that the stored decisions hold on a side. -/
def stored (side : Bool) : Tally → Nat
  | .coin t => t.votes.total fun b => (t.weighed b).powerOn side
  | .conviction t => t.convictions.total (Ballot.powerOn side)
  | .sealed t => t.entries.total (SealedEntry.powerOn side)

/-- The totals are the clipped sums of the stored power on either side. -/
def TotalsExact (t : Tally) : Prop :=
  ∀ side, (t.totals.side side).toNat = min (t.stored side) (Word.greatest 128)

/-- A submission takes power from a side that holds more than the largest balance. -/
def LosesOverfull (t : Tally) (s : Submission) : Prop :=
  ∃ side, Word.greatest 128 < t.stored side ∧ (t.submit s).stored side < t.stored side

/-- The totals are exact before, between and after the submissions. -/
def StaysExact (t : Tally) (submissions : List Submission) : Prop :=
  ∀ earlier, earlier <+: submissions → (t.submitAll earlier).TotalsExact

/-- No submission takes power from an overfull side. -/
def KeepsOverfull (t : Tally) (submissions : List Submission) : Prop :=
  ∀ earlier s, earlier ++ [s] <+: submissions → ¬(t.submitAll earlier).LosesOverfull s

instance (t : Tally) (s : Submission) : Decidable (t.LosesOverfull s) :=
  inferInstanceAs (Decidable (∃ side, Word.greatest 128 < t.stored side ∧
    (t.submit s).stored side < t.stored side))

instance (t : Tally) (submissions : List Submission) : Decidable (t.KeepsOverfull submissions) :=
  decidable_of_iff (∀ whole ∈ submissions.inits, ∀ s ∈ whole.getLast?,
    ¬(t.submitAll whole.dropLast).LosesOverfull s) (by
      constructor
      · intro h earlier s hp
        have hlast := h _ ((List.mem_inits _ _).mpr hp) s (List.getLast?_concat ..)
        rwa [List.dropLast_concat] at hlast
      · intro h whole hw s hs
        obtain ⟨earlier, rfl⟩ := List.getLast?_eq_some_iff.mp hs
        rw [List.dropLast_concat]
        exact h earlier s ((List.mem_inits _ _).mp hw))

/-- A recorded decision takes the same old power from the stored sum and the total of a side,
and adds the same new power to both. -/
theorem Records.moves {voter : String} {t after : Tally} {decision : Decision}
    (h : Records voter t decision after) (side : Bool) :
    ∃ old new, old ≤ Word.greatest 128 ∧ old ≤ t.stored side ∧
      after.stored side + old = t.stored side + new ∧
      (after.totals.side side).toNat =
        min ((t.totals.side side).toNat - old + new) (Word.greatest 128) := by
  cases h with
  | coin t ballot =>
    have hsum := t.votes.total_insert voter ballot fun b => (t.weighed b).powerOn side
    have hheld := t.votes.found_le_total voter fun b => (t.weighed b).powerOn side
    have htotal := t.totals.toNat_side_recast ((t.votes.find? voter).map t.weighed)
      (t.weighed ballot) side
    rw [Option.map_map] at htotal
    refine ⟨_, _, ?_, hheld, hsum, htotal⟩
    cases t.votes.find? voter with
    | none => exact Nat.zero_le _
    | some b => exact Ballot.powerOn_le side (t.weighed b)
  | conviction t ballot =>
    have hsum := t.convictions.total_insert voter ballot (Ballot.powerOn side)
    have hheld := t.convictions.found_le_total voter (Ballot.powerOn side)
    have htotal := t.totals.toNat_side_recast (t.convictions.find? voter) ballot side
    refine ⟨_, _, ?_, hheld, hsum, htotal⟩
    cases t.convictions.find? voter with
    | none => exact Nat.zero_le _
    | some b => exact Ballot.powerOn_le side b
  | committed t digest hidden =>
    have hsum := t.entries.total_insert voter (.committed digest) (SealedEntry.powerOn side)
    have hfits := (t.totals.side side).toNat_le_greatest
    refine ⟨0, 0, Nat.zero_le _, Nat.zero_le _, ?_, (Nat.min_eq_left hfits).symm⟩
    change (t.entries.insert voter (.committed digest)).total (SealedEntry.powerOn side) =
      t.entries.total (SealedEntry.powerOn side)
    cases hf : t.entries.find? voter with
    | none => simpa [hf, SealedEntry.powerOn] using hsum
    | some entry =>
      cases entry with
      | committed digest => simpa [hf, SealedEntry.powerOn] using hsum
      | revealed ballot => exact absurd hf (hidden ballot)
  | revealed t ballot held =>
    have hsum := t.entries.total_insert voter (.revealed ballot) (SealedEntry.powerOn side)
    have htotal := t.totals.toNat_side_add ⟨ballot.inSupport, ballot.power⟩ side
    rw [held] at hsum
    exact ⟨0, _, Nat.zero_le _, Nat.zero_le _, hsum, htotal⟩

/-- A submission that keeps exact totals exact is one that takes nothing from an overfull side. -/
theorem totalsExact_submit_iff {t : Tally} (h : t.TotalsExact) (s : Submission) :
    (t.submit s).TotalsExact ↔ ¬t.LosesOverfull s := by
  have hside : ∀ side,
      ((t.submit s).totals.side side).toNat =
          min ((t.submit s).stored side) (Word.greatest 128) ↔
        ¬(Word.greatest 128 < t.stored side ∧ (t.submit s).stored side < t.stored side) := by
    intro side
    have hexact := h side
    rcases t.submit_cases s with hkept | hrecorded
    · rw [hkept]
      omega
    · obtain ⟨old, new, hfits, hheld, hstored, htotal⟩ := hrecorded.moves side
      omega
  simp only [TotalsExact, LosesOverfull, hside, not_exists]

/-- A new tally has no power on either side. -/
theorem totalsExact_freshTally (system : VotingSystem) : system.freshTally.TotalsExact := by
  intro side
  cases system <;> cases side <;> rfl

/-- The totals stay exact through submissions exactly when no overfull side loses power. -/
theorem staysExact_iff_keepsOverfull {t : Tally} (h : t.TotalsExact)
    (submissions : List Submission) :
    t.StaysExact submissions ↔ t.KeepsOverfull submissions := by
  induction submissions using List.reverseRecOn with
  | nil =>
    constructor
    · intro _ earlier s hp
      simp at hp
    · intro _ earlier hp
      rw [List.prefix_nil.mp hp]
      exact h
  | append_singleton earlier s ih =>
    have hpart : earlier <+: earlier ++ [s] := List.prefix_append _ _
    constructor
    · intro hstays first last hp
      rcases List.prefix_concat_iff.mp hp with hwhole | hfirst
      · obtain ⟨rfl, rfl⟩ := List.append_singleton_inj.mp hwhole
        have hnext := hstays _ hp
        rw [submitAll_concat] at hnext
        exact (totalsExact_submit_iff (hstays _ hpart) last).mp hnext
      · exact ih.mp (fun part hpre => hstays part (hpre.trans hpart)) first last hfirst
    · intro hkeeps first hp
      have hstays := ih.mpr fun part last hpre => hkeeps part last (hpre.trans hpart)
      rcases List.prefix_concat_iff.mp hp with rfl | hfirst
      · rw [submitAll_concat]
        exact (totalsExact_submit_iff (hstays earlier (List.prefix_refl _)) s).mpr
          (hkeeps earlier s (List.prefix_refl _))
      · exact hstays first hfirst

/-- Open tallies of one system with the same ballots and exact totals are equal. -/
theorem eq_of_ballots {t u : Tally} (h : t.systemId ≠ .sealed) (hs : u.system = t.system)
    (hb : ∀ voter, u.ballots.find? voter = t.ballots.find? voter)
    (ht : t.TotalsExact) (hu : u.TotalsExact) : u = t := by
  cases t with
  | sealed t => exact absurd rfl h
  | coin t =>
    cases u with
    | conviction u => cases hs
    | sealed u => cases hs
    | coin u =>
      obtain ⟨parameters, totals, votes⟩ := t
      obtain ⟨parameters', totals', votes'⟩ := u
      obtain rfl : parameters' = parameters := VotingSystem.coin.inj hs
      obtain rfl : votes' = votes := OrderedMap.ext_find? hb
      obtain rfl : totals' = totals :=
        Totals.eq_of_sides fun side => (hu side).trans (ht side).symm
      rfl
  | conviction t =>
    cases u with
    | coin u => cases hs
    | sealed u => cases hs
    | conviction u =>
      obtain ⟨parameters, convictions, totals⟩ := t
      obtain ⟨parameters', convictions', totals'⟩ := u
      obtain rfl : parameters' = parameters := VotingSystem.conviction.inj hs
      obtain rfl : convictions' = convictions := OrderedMap.ext_find? hb
      obtain rfl : totals' = totals :=
        Totals.eq_of_sides fun side => (hu side).trans (ht side).symm
      rfl

/-- Under coin and conviction voting the totals are the clipped sums of the
stored power after every submission exactly when no submission takes power from
a side that holds more than the largest balance. The stored ballots are always
the latest ones, so that submissions of this kind with the same latest ballots
lead to the same tally, whatever was replaced on the way. -/
theorem staysExact_iff_and_latest_votes_decide {system : VotingSystem} (h : system.id ≠ .sealed)
    (submissions : List Submission) :
    (system.freshTally.StaysExact submissions ↔ system.freshTally.KeepsOverfull submissions) ∧
    (∀ voter, (system.freshTally.submitAll submissions).ballots.find? voter =
      latestVote voter submissions) ∧
    ∀ others, system.freshTally.KeepsOverfull submissions →
      system.freshTally.KeepsOverfull others →
      (∀ voter, latestVote voter others = latestVote voter submissions) →
      system.freshTally.submitAll others = system.freshTally.submitAll submissions := by
  have hiff := staysExact_iff_keepsOverfull (totalsExact_freshTally system)
  have hexact : ∀ {ss}, system.freshTally.KeepsOverfull ss →
      (system.freshTally.submitAll ss).TotalsExact :=
    fun hk => (hiff _).mpr hk _ (List.prefix_refl _)
  refine ⟨hiff submissions, ballots_submitAll h submissions, fun others hk hk' hlatest => ?_⟩
  refine eq_of_ballots ?_ ?_ ?_ (hexact hk) (hexact hk')
  · rw [systemId, submitAll_system, freshTally_system]
    exact h
  · rw [submitAll_system, submitAll_system]
  · intro voter
    rw [ballots_submitAll h, ballots_submitAll h, hlatest]

/-- A run in which a vote changes sides before two others overfill one side leads where the
latest votes alone lead. -/
theorem latest_votes_decide_overfull_run :
    let system := VotingSystem.coin ⟨10, ⟨1, 50, 33⟩, .simple⟩
    let most : Balance := Word.clip 128 (2 ^ 128)
    let run : List Submission := [⟨"cara", .vote ⟨true, 9⟩⟩, ⟨"cara", .vote ⟨false, 4⟩⟩,
      ⟨"anna", .vote ⟨true, most⟩⟩, ⟨"bert", .vote ⟨true, most⟩⟩]
    let latest : List Submission := [⟨"bert", .vote ⟨true, most⟩⟩,
      ⟨"anna", .vote ⟨true, most⟩⟩, ⟨"cara", .vote ⟨false, 4⟩⟩]
    system.id ≠ .sealed ∧ system.freshTally.StaysExact run ∧
      system.freshTally.submitAll latest = system.freshTally.submitAll run := by
  intro system most run latest
  have hid : system.id ≠ .sealed := by decide
  have hrun : system.freshTally.KeepsOverfull run := by decide +kernel
  have hlatest : system.freshTally.KeepsOverfull latest := by decide +kernel
  obtain ⟨hexact, _, hsame⟩ := staysExact_iff_and_latest_votes_decide hid run
  refine ⟨hid, hexact.mpr hrun, hsame latest hrun hlatest fun voter => ?_⟩
  by_cases ha : "anna" = voter
  · rw [← ha]
    rfl
  · by_cases hb : "bert" = voter
    · rw [← hb]
      rfl
    · by_cases hc : "cara" = voter
      · rw [← hc]
        rfl
      · simp [latestVote, Submission.voteOf?, run, latest, ha, hb, hc]

/-- A vote that is replaced after its side was overfull leaves a trace: one coin is stored in
favor and none is counted. -/
theorem replaced_overfull_vote_leaves_trace :
    let system := VotingSystem.coin ⟨10, ⟨1, 50, 33⟩, .simple⟩
    let most : Balance := Word.clip 128 (2 ^ 128)
    ¬system.freshTally.StaysExact [⟨"anna", .vote ⟨true, most⟩⟩, ⟨"bert", .vote ⟨true, 1⟩⟩,
      ⟨"anna", .vote ⟨true, 0⟩⟩] := by
  intro system most hstays
  have hexact := hstays _ (List.prefix_refl _) true
  revert hexact
  decide +kernel

end Tally

end OrgGovernance
