import OrgGovernance.Console
import OrgGovernance.Proofs.Passing

/-!
# The shown requirement is the one that decides

A proposal is shown with the participation it needs, a share of the supply that
is rounded down. The decision compares with no such number: it weighs the full
products. Both agree for every participation, percentage and supply, so that the
participation is more than the number shown exactly when the decision takes it
as enough. The participation is the one of the decision, which is held at the
largest balance.
-/

namespace OrgGovernance

/-- The power on both sides, as the decision counts it. -/
def Totals.participation (t : Totals) : Balance := t.favorable.addClipped t.against

namespace Tally

/-- Whether the participation exceeds its share of a supply, the first part of the decision. -/
def participates (t : Tally) (supply : Balance) : Bool :=
  Percentage.exceeds t.totals.participation t.system.thresholds.minParticipation supply

/-- Whether the favorable power exceeds its share of the participation, the second part of the
decision. -/
def carries (t : Tally) : Bool :=
  Percentage.exceeds t.totals.favorable t.system.thresholds.minQuorum t.totals.participation

/-- A tally in which votes count passes when both parts of the decision hold. -/
theorem isPassing_eq_participates_and_carries {t : Tally} (votes : t.systemId ≠ .conviction)
    (supply : Balance) : t.isPassing supply = (t.participates supply && t.carries) :=
  isPassing_eq_passed votes supply

end Tally

namespace Display

/-- What follows the participation that is shown as needed. -/
def needsEnding (t : Tally) : String := if t.systemId = .sealed then " revealed" else ""

/-- A proposal whose votes count is shown to need its share of the supply. -/
theorem needs_eq {p : Proposal} (votes : p.tally.systemId ≠ .conviction) (supply : Balance) :
    needs p supply =
      participationNeeded p.tally.system.thresholds supply ++ needsEnding p.tally := by
  obtain ⟨id, organization, call, voting, createdOn, tally⟩ := p
  cases tally with
  | coin t => exact (String.append_empty).symm
  | conviction t => exact absurd rfl votes
  | sealed t => rfl

/-- Among the lines of a proposal is one for what it needs. -/
theorem proposal_shows_needs (p : Proposal) (supply : Balance) :
    ∃ texts, proposal p supply = lines texts ∧ s!"  Needs:      {needs p supply}" ∈ texts := by
  refine ⟨_, rfl, ?_⟩
  simp only [List.mem_cons, true_or, or_true]

/-- Among the lines of a proposal whose votes count is one with its share of the supply. -/
theorem proposal_shows_share {p : Proposal} (votes : p.tally.systemId ≠ .conviction)
    (supply : Balance) :
    let needed := Percentage.shareOf p.tally.system.thresholds.minParticipation supply
    ∃ texts, proposal p supply = lines texts ∧
      s!"  Needs:      > {needed.text} of {supply.text}" ++ needsEnding p.tally ∈ texts := by
  intro needed
  obtain ⟨texts, shown, line⟩ := proposal_shows_needs p supply
  have share : s!"  Needs:      {needs p supply}" =
      s!"  Needs:      > {needed.text} of {supply.text}" ++ needsEnding p.tally := by
    have mark : "  Needs:      > " = "  Needs:      " ++ "> " := by decide
    rw [needs_eq votes, mark]
    simp only [participationNeeded, toString, String.append_assoc, needed]
  exact ⟨texts, shown, share ▸ line⟩

end Display

/-- The share of a base is a hundredth of the full product, rounded down, and is computed within
the range of balances. A value is more than the share exactly when it exceeds the percentage.
A proposal under coin or sealed voting is therefore shown with a number that its participation
exceeds exactly when the first part of the decision holds. -/
theorem shown_requirement_decides_participation :
    (∀ (percent : Percent) (base : Balance),
      (Percentage.shareOf percent base).toNat = min percent.toNat 100 * base.toNat / 100 ∧
      Percentage.shareOf? percent base = some (Percentage.shareOf percent base) ∧
      ∀ value, Percentage.shareOf percent base < value ↔
        Percentage.exceeds value percent base = true) ∧
    (∀ (p : Proposal) (supply : Balance), p.tally.systemId ≠ .conviction →
      let needed := Percentage.shareOf p.tally.system.thresholds.minParticipation supply
      (∃ texts, Display.proposal p supply = Display.lines texts ∧
        s!"  Needs:      > {needed.text} of {supply.text}" ++ Display.needsEnding p.tally ∈ texts) ∧
      p.tally.isPassing supply = (p.tally.participates supply && p.tally.carries) ∧
      (needed < p.tally.totals.participation ↔ p.tally.participates supply = true)) := by
  constructor
  · intro percent base
    exact ⟨Percentage.toNat_shareOf_eq_div percent base, Percentage.shareOf?_eq_some percent base,
      fun value => Percentage.shareOf_lt_iff_exceeds value percent base⟩
  · intro p supply votes
    exact ⟨Display.proposal_shows_share votes supply,
      Tally.isPassing_eq_participates_and_carries votes supply,
      Percentage.shareOf_lt_iff_exceeds _ _ supply⟩

/-- A third of ten coins is not a whole number. Three coins are shown to be exceeded, and only a
fourth one is enough. -/
theorem more_than_three_of_ten_needed :
    let system := VotingSystem.coin ⟨10, ⟨1, 50, 33⟩, .simple⟩
    let anna : Submission := ⟨"anna", .vote ⟨true, 3⟩⟩
    let bert : Submission := ⟨"bert", .vote ⟨false, 1⟩⟩
    let three : Proposal := ⟨"id", "org", [], .coin, 0, system.freshTally.submitAll [anna]⟩
    let four : Proposal := ⟨"id", "org", [], .coin, 0, system.freshTally.submitAll [anna, bert]⟩
    three.tally.systemId ≠ .conviction ∧ four.tally.systemId ≠ .conviction ∧
      (∃ texts, Display.proposal four 10 = Display.lines texts ∧
        "  Needs:      > 3 of 10" ∈ texts) ∧
      three.tally.participates 10 = false ∧ four.tally.participates 10 = true := by
  intro system anna bert three four
  obtain ⟨_, decides⟩ := shown_requirement_decides_participation
  have votes : three.tally.systemId ≠ .conviction := by decide +kernel
  have also : four.tally.systemId ≠ .conviction := by decide +kernel
  obtain ⟨_, _, refused⟩ := decides three 10 votes
  obtain ⟨⟨texts, shown, line⟩, _, taken⟩ := decides four 10 also
  have written : s!"  Needs:      > {(Percentage.shareOf 33 10).text} of {(10 : Balance).text}" ++
      Display.needsEnding four.tally = "  Needs:      > 3 of 10" := by decide +kernel
  have short : ¬three.tally.participates 10 = true := mt refused.mpr (by decide +kernel)
  exact ⟨votes, also, ⟨texts, shown, written ▸ line⟩, Bool.not_eq_true _ ▸ short,
    taken.mp (by decide +kernel)⟩

end OrgGovernance
