import OrgGovernance.Proofs.Passing
import OrgGovernance.Proofs.SquareRoot
import OrgGovernance.Proofs.StoredPower
import Mathlib.Data.List.Dedup

/-!
# Votes that fit a balance

As long as the counted power of all stored ballots fits one balance, nothing is
ever clipped: what a replaced ballot gives back is part of its side, and what a
new one brings has room on its side. This is so whenever the voters, each with
the greatest counted power of a ballot, fit together. Under quadratic counting
no ballot counts for more than half the bits of a balance, so that as many
voters as half the bits can number always fit, and their proposals are decided
over the exact sums.
-/

namespace OrgGovernance

/-- The power of a ballot is its power on its own side. -/
theorem Ballot.powerOn_inSupport (b : Ballot) : b.powerOn b.inSupport = b.power.toNat := if_pos rfl

/-- The power of a ballot is its power on both sides together. -/
theorem Ballot.powerOn_add (b : Ballot) : b.powerOn true + b.powerOn false = b.power.toNat := by
  unfold powerOn
  cases b.inSupport <;> simp

namespace Totals

/-- The totals once a replaced ballot is taken back. -/
def cleared (t : Totals) : Option Ballot → Totals
  | some b => t.remove b.inSupport b.power
  | none => t

/-- A ballot is put in the place of an earlier one by taking that back and adding. -/
theorem recast_eq (t : Totals) (previous : Option Ballot) (current : Ballot) :
    t.recast previous current = (t.cleared previous).add current.inSupport current.power := by
  cases previous <;> rfl

/-- Taking back the power of a ballot clips nothing. -/
def RemovesExactly (t : Totals) (b : Ballot) : Prop :=
  ((t.remove b.inSupport b.power).side b.inSupport).toNat + b.power.toNat =
    (t.side b.inSupport).toNat

/-- Adding the power of a ballot clips nothing. -/
def AddsExactly (t : Totals) (b : Ballot) : Prop :=
  ((t.add b.inSupport b.power).side b.inSupport).toNat =
    (t.side b.inSupport).toNat + b.power.toNat

/-- Putting a ballot in the place of an earlier one clips nothing, neither when that is taken back
nor when the new one is added. -/
def RecastsExactly (t : Totals) (previous : Option Ballot) (current : Ballot) : Prop :=
  (∀ b, previous = some b → t.RemovesExactly b) ∧ (t.cleared previous).AddsExactly current

/-- Taking a ballot back lowers its own side, held at zero, and no other. -/
theorem toNat_side_cleared (t : Totals) (previous : Option Ballot) (side : Bool) :
    ((t.cleared previous).side side).toNat =
      (t.side side).toNat - (previous.map (Ballot.powerOn side)).getD 0 := by
  cases previous with
  | none => rfl
  | some b => exact t.toNat_side_remove b side

/-- Nothing is clipped when the replaced ballot is part of its side and the new one has room. -/
theorem recastsExactly_of_le {t : Totals} {previous : Option Ballot} {current : Ballot}
    (held : ∀ side, (previous.map (Ballot.powerOn side)).getD 0 ≤ (t.side side).toNat)
    (room : ∀ side, (t.side side).toNat - (previous.map (Ballot.powerOn side)).getD 0 +
      current.powerOn side ≤ Word.greatest 128) : t.RecastsExactly previous current := by
  constructor
  · rintro b rfl
    have part : b.powerOn b.inSupport ≤ (t.side b.inSupport).toNat := held b.inSupport
    rw [RemovesExactly, toNat_side_remove, ← b.powerOn_inSupport]
    exact Nat.sub_add_cancel part
  · have fits := room current.inSupport
    rw [← toNat_side_cleared] at fits
    rw [AddsExactly, toNat_side_add, Nat.min_eq_left fits, current.powerOn_inSupport]

end Totals

/-- The voter and the ballot of a submission that casts one. -/
def Submission.cast? (s : Submission) : Option (String × Ballot) :=
  match s.decision with
  | .vote ballot => some (s.voter, ballot)
  | _ => none

/-- The ballots that submissions cast, each with its voter. -/
def casts (submissions : List Submission) : List (String × Ballot) :=
  submissions.filterMap Submission.cast?

/-- The latest ballot of a voter was cast. -/
theorem mem_casts_of_latestVote {voter : String} {ballot : Ballot}
    {submissions : List Submission} (latest : latestVote voter submissions = some ballot) :
    (voter, ballot) ∈ casts submissions := by
  obtain ⟨⟨name, decision⟩, member, votes⟩ :=
    List.mem_filterMap.mp (List.mem_of_getLast? latest)
  refine List.mem_filterMap.mpr ⟨⟨name, decision⟩, member, ?_⟩
  cases decision with
  | vote cast =>
    obtain ⟨same, rfl⟩ : name = voter ∧ cast = ballot := by simpa [Submission.voteOf?] using votes
    rw [← same]
    rfl
  | commit digest => cases votes
  | reveal ballot => cases votes

/-- The earlier ballots of a run are among all of its ballots. -/
theorem casts_subset_of_longer {earlier submissions : List Submission}
    (longer : earlier <+: submissions) : casts earlier ⊆ casts submissions :=
  (longer.filterMap Submission.cast?).subset

/-- A ballot with the power that counts for it. -/
def VotingSystem.counted : VotingSystem → Ballot → Ballot
  | .coin parameters, ballot => (CoinTally.fresh parameters).weighed ballot
  | .conviction _, ballot => ballot
  | .sealed _, ballot => ballot

namespace Tally

/-- The voter's earlier ballot with the power that counts for it. -/
def previous (t : Tally) (voter : String) : Option Ballot :=
  (t.ballots.find? voter).map t.system.counted

/-- Casting a ballot takes the voter's earlier one back and adds the new one, each with the power
that counts for it, and clips nothing on the way. -/
def CastsExactly (t : Tally) (voter : String) (ballot : Ballot) : Prop :=
  let current := t.system.counted ballot
  (t.submit ⟨voter, .vote ballot⟩).totals =
      (t.totals.cleared (t.previous voter)).add current.inSupport current.power ∧
    t.totals.RecastsExactly (t.previous voter) current

section Casting

variable {t : Tally} (isOpen : t.systemId ≠ .sealed) (voter : String) (ballot : Ballot)
  (side : Bool)
include isOpen

/-- Casting a ballot recasts the totals from the voter's earlier ballot to the new one. -/
theorem totals_submit_vote :
    (t.submit ⟨voter, .vote ballot⟩).totals =
      t.totals.recast (t.previous voter) (t.system.counted ballot) := by
  cases t with
  | coin t => rfl
  | conviction t =>
    have whole : (VotingSystem.conviction t.parameters).counted = id := rfl
    rw [previous, system, whole, Option.map_id]
    rfl
  | sealed t => exact absurd rfl isOpen

/-- Under coin and conviction voting the stored power is that which counts for the ballots. -/
theorem stored_eq_total :
    t.stored side = t.ballots.total fun b => (t.system.counted b).powerOn side := by
  cases t with
  | coin t => rfl
  | conviction t => rfl
  | sealed t => exact absurd rfl isOpen

/-- Casting a ballot moves the stored power from the voter's earlier ballot to the new one. -/
theorem stored_submit_vote :
    (t.submit ⟨voter, .vote ballot⟩).stored side +
        ((t.previous voter).map (Ballot.powerOn side)).getD 0 =
      t.stored side + (t.system.counted ballot).powerOn side := by
  rw [previous, Option.map_map]
  cases t with
  | coin t => exact t.votes.total_insert voter ballot fun b => (t.weighed b).powerOn side
  | conviction t => exact t.convictions.total_insert voter ballot (Ballot.powerOn side)
  | sealed t => exact absurd rfl isOpen

/-- What counts for the ballot of a voter is part of the stored power. -/
theorem previous_le_stored :
    ((t.previous voter).map (Ballot.powerOn side)).getD 0 ≤ t.stored side := by
  rw [previous, Option.map_map, stored_eq_total isOpen]
  exact t.ballots.found_le_total voter _

end Casting

/-- The stored power of both sides fits one balance. -/
def FitsBalance (t : Tally) : Prop := t.stored true + t.stored false ≤ Word.greatest 128

/-- Nothing is clipped in a run of submissions: not when a ballot is cast, and not when the
participation is summed up before, between and after. -/
structure Unclipped (t : Tally) (submissions : List Submission) : Prop where
  /-- Every ballot is cast exactly. -/
  casting : ∀ earlier voter ballot, earlier ++ [⟨voter, .vote ballot⟩] <+: submissions →
    (t.submitAll earlier).CastsExactly voter ballot
  /-- The participation is the sum of the two sides. -/
  participation : ∀ earlier, earlier <+: submissions →
    let totals := (t.submitAll earlier).totals
    (totals.favorable.addClipped totals.against).toNat =
      totals.favorable.toNat + totals.against.toNat

section Fitting

variable {system : VotingSystem} (isOpen : system.id ≠ .sealed) {submissions : List Submission}

section Room

variable (room : ∀ earlier, earlier <+: submissions →
  (system.freshTally.submitAll earlier).FitsBalance)
include room

/-- While the stored power fits a balance, the totals are the stored power. -/
theorem toNat_side_eq_stored {earlier : List Submission} (longer : earlier <+: submissions)
    (side : Bool) :
    ((system.freshTally.submitAll earlier).totals.side side).toNat =
      (system.freshTally.submitAll earlier).stored side := by
  have below : ∀ first, first <+: submissions → ∀ side,
      (system.freshTally.submitAll first).stored side ≤ Word.greatest 128 := by
    intro first before side
    have fits := room first before
    unfold FitsBalance at fits
    cases side <;> omega
  have keeps : system.freshTally.KeepsOverfull submissions := by
    rintro first s before ⟨side, overfull, -⟩
    exact absurd overfull (below first ((List.prefix_append first [s]).trans before) side).not_gt
  have exact := (staysExact_iff_keepsOverfull (totalsExact_freshTally system) submissions).mpr keeps
  exact (exact earlier longer side).trans (Nat.min_eq_left (below earlier longer side))

/-- While the stored power fits a balance, it decides whether a proposal under coin voting
passes. -/
theorem isPassing_iff_reached_stored (votes : system.id ≠ .conviction)
    (bounded : system.thresholds.Bounded) {earlier : List Submission}
    (longer : earlier <+: submissions) (supply : Balance) :
    (system.freshTally.submitAll earlier).isPassing supply = true ↔
      system.thresholds.Reached ((system.freshTally.submitAll earlier).stored true)
        ((system.freshTally.submitAll earlier).stored false) supply.toNat := by
  have counts := (systemId_submitAll system earlier).trans_ne votes
  have favorable : (system.freshTally.submitAll earlier).totals.favorable.toNat = _ :=
    toNat_side_eq_stored room longer true
  have against : (system.freshTally.submitAll earlier).totals.against.toNat = _ :=
    toNat_side_eq_stored room longer false
  have fits := room earlier longer
  rw [FitsBalance, ← favorable, ← against] at fits
  rw [isPassing_eq_passed counts, submitAll_system, freshTally_system,
    Thresholds.passed_iff_reached_of_fits bounded supply fits, favorable, against]

include isOpen

/-- While the stored power fits a balance, nothing is clipped. -/
theorem unclipped_of_fits : system.freshTally.Unclipped submissions := by
  constructor
  · intro earlier voter ballot longer
    have before := (List.prefix_append earlier [⟨voter, .vote ballot⟩]).trans longer
    have ofOpen := (systemId_submitAll system earlier).trans_ne isOpen
    have fits := room _ longer
    rw [submitAll_concat] at fits
    refine ⟨(totals_submit_vote ofOpen voter ballot).trans (Totals.recast_eq _ _ _),
      Totals.recastsExactly_of_le (fun side => ?_) (fun side => ?_)⟩
    · rw [toNat_side_eq_stored room before]
      exact previous_le_stored ofOpen voter side
    · -- The side after the ballot is cast is the stored power of then.
      have moved := stored_submit_vote ofOpen voter ballot side
      have held := previous_le_stored ofOpen voter side
      rw [toNat_side_eq_stored room before]
      unfold FitsBalance at fits
      cases side <;> omega
  · intro earlier longer totals
    have favorable : totals.favorable.toNat = _ := toNat_side_eq_stored room longer true
    have against : totals.against.toNat = _ := toNat_side_eq_stored room longer false
    have fits := room earlier longer
    unfold FitsBalance at fits
    rw [Word.toNat_addClipped, favorable, against]
    exact Nat.min_eq_left fits

end Room

include isOpen

/-- No more voters have a ballot than have cast one. -/
theorem size_ballots_le {names : List String}
    (named : ∀ cast ∈ casts submissions, cast.1 ∈ names) :
    (system.freshTally.submitAll submissions).ballots.size ≤ names.length := by
  let ballots := (system.freshTally.submitAll submissions).ballots
  have known : ballots.keys ⊆ names := by
    intro voter key
    obtain ⟨ballot, found⟩ := Option.isSome_iff_exists.mp (OrderedMap.mem_keys_iff.mp key)
    rw [ballots_submitAll isOpen] at found
    exact named _ (mem_casts_of_latestVote found)
  have counted := (List.subperm_of_subset ballots.nodup_keys known).length_le
  rwa [OrderedMap.keys, List.length_map] at counted

/-- The stored power fits a balance when the voters do, each with the greatest counted power. -/
theorem fitsBalance_of_bounded {names : List String} {power : Nat}
    (bounded : names.length * power < 2 ^ 128)
    (named : ∀ cast ∈ casts submissions, cast.1 ∈ names)
    (light : ∀ cast ∈ casts submissions,
      (system.counted cast.2).power.toNat ≤ power) :
    (system.freshTally.submitAll submissions).FitsBalance := by
  let t := system.freshTally.submitAll submissions
  have ofOpen : t.systemId ≠ .sealed := (systemId_submitAll system submissions).trans_ne isOpen
  have each : ∀ voter ballot, t.ballots.find? voter = some ballot →
      (t.system.counted ballot).powerOn true + (t.system.counted ballot).powerOn false ≤
        power := by
    intro voter ballot found
    rw [ballots_submitAll isOpen] at found
    rw [Ballot.powerOn_add, submitAll_system, freshTally_system]
    exact light _ (mem_casts_of_latestVote found)
  have both : t.stored true + t.stored false ≤ names.length * power := by
    calc t.stored true + t.stored false
        = t.ballots.total fun b =>
            (t.system.counted b).powerOn true + (t.system.counted b).powerOn false := by
          rw [stored_eq_total ofOpen, stored_eq_total ofOpen, OrderedMap.total_add]
      _ ≤ t.ballots.size * power := OrderedMap.total_le_size_mul each
      _ ≤ names.length * power := Nat.mul_le_mul_right power (size_ballots_le isOpen named)
  exact Nat.le_pred_of_lt (both.trans_lt bounded)

/-- The stored power fits a balance throughout when the voters of all submissions do, each with the
greatest counted power. -/
theorem fits_of_bounded {voters power : Nat} (bounded : voters * power < 2 ^ 128)
    (few : ((casts submissions).map Prod.fst).dedup.length ≤ voters)
    (light : ∀ cast ∈ casts submissions,
      (system.counted cast.2).power.toNat ≤ power)
    (earlier : List Submission) (longer : earlier <+: submissions) :
    (system.freshTally.submitAll earlier).FitsBalance := by
  have among := casts_subset_of_longer longer
  refine fitsBalance_of_bounded isOpen ((Nat.mul_le_mul_right power few).trans_lt bounded) ?_
    fun cast member => light cast (among member)
  exact fun cast member => List.mem_dedup.mpr (List.mem_map_of_mem (among member))

end Fitting

/-- Submissions on a new tally of coin or conviction voting clip nothing when the voters, each with
the greatest counted power of a ballot, fit a balance. Under quadratic counting no stake counts for
more than half the bits of a balance. There nothing is clipped whatever is staked, for as many
voters as half the bits can number, and a proposal passes exactly when the stored power reaches the
thresholds. -/
theorem bounded_votes_unclipped :
    (∀ (system : VotingSystem) (voters power : Nat) (submissions : List Submission),
      system.id ≠ .sealed → voters * power < 2 ^ 128 →
      ((casts submissions).map Prod.fst).dedup.length ≤ voters →
      (∀ cast ∈ casts submissions, (system.counted cast.2).power.toNat ≤ power) →
        system.freshTally.Unclipped submissions) ∧
    (∀ (t : CoinTally) (stake : Balance), t.parameters.counting = .quadratic →
      (t.countedPower stake).toNat ≤ 2 ^ 64 - 1) ∧
    (∀ (parameters : CoinParameters) (submissions : List Submission),
      parameters.counting = .quadratic →
      ((casts submissions).map Prod.fst).dedup.length ≤ 2 ^ 64 →
        let fresh := (VotingSystem.coin parameters).freshTally
        fresh.Unclipped submissions ∧
        (parameters.thresholds.Bounded → ∀ earlier, earlier <+: submissions → ∀ supply,
          let tally := fresh.submitAll earlier
          tally.isPassing supply = true ↔
            parameters.thresholds.Reached (tally.stored true) (tally.stored false)
              supply.toNat)) := by
  have root : ∀ (t : CoinTally) (stake : Balance), t.parameters.counting = .quadratic →
      (t.countedPower stake).toNat ≤ 2 ^ 64 - 1 := by
    intro t stake quadratic
    rw [CoinTally.countedPower, quadratic]
    exact SquareRoot.ofBalance_le stake
  refine ⟨fun system voters power submissions isOpen bounded few light => ?_, root,
    fun parameters submissions quadratic few => ?_⟩
  · exact unclipped_of_fits isOpen (fits_of_bounded isOpen bounded few light)
  · have isOpen : (VotingSystem.coin parameters).id ≠ .sealed := nofun
    have votes : (VotingSystem.coin parameters).id ≠ .conviction := nofun
    have room := fits_of_bounded isOpen (by decide) few
      fun cast _ => root (.fresh parameters) cast.2.power quadratic
    exact ⟨unclipped_of_fits isOpen room, fun bounded earlier longer supply =>
      isPassing_iff_reached_stored room votes bounded longer supply⟩

/-- Two stakes that nearly fill a balance clip nothing, although one of them changes sides in
between. Under quadratic counting three votes of the largest stake clip nothing either, and the two
in support pass their proposal. -/
theorem full_stakes_unclipped :
    let conviction := VotingSystem.conviction ⟨10, ⟨1, 50, 33⟩, 0⟩
    let half : Balance := Word.clip 128 (2 ^ 127 - 1)
    let stakes : List Submission := [⟨"anna", .vote ⟨true, half⟩⟩, ⟨"bert", .vote ⟨true, half⟩⟩,
      ⟨"anna", .vote ⟨false, half⟩⟩]
    let quadratic : CoinParameters := ⟨10, ⟨1, 50, 33⟩, .quadratic⟩
    let most : Balance := Word.clip 128 (2 ^ 128)
    let votes : List Submission := [⟨"anna", .vote ⟨true, most⟩⟩, ⟨"bert", .vote ⟨true, most⟩⟩,
      ⟨"cara", .vote ⟨false, most⟩⟩]
    let fresh := (VotingSystem.coin quadratic).freshTally
    conviction.freshTally.Unclipped stakes ∧
      ((CoinTally.fresh quadratic).countedPower most).toNat ≤ 2 ^ 64 - 1 ∧
      fresh.Unclipped votes ∧ (fresh.submitAll votes).isPassing 1000 = true := by
  intro conviction half stakes quadratic most votes fresh
  obtain ⟨bounded, root, squares⟩ := bounded_votes_unclipped
  obtain ⟨exact, decides⟩ := squares quadratic votes rfl (by decide)
  have two : ((casts stakes).map Prod.fst).dedup.length ≤ 2 := by decide
  have light : ∀ cast ∈ casts stakes,
      (conviction.counted cast.2).power.toNat ≤ 2 ^ 127 - 1 := by decide
  exact ⟨bounded conviction 2 (2 ^ 127 - 1) stakes nofun (by decide) two light,
    root (.fresh quadratic) most rfl, exact,
    (decides (by decide) votes (List.prefix_refl votes) 1000).mpr (by decide +kernel)⟩

end Tally

end OrgGovernance
