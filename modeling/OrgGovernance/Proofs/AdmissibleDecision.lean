import OrgGovernance.Proofs.Interference
import OrgGovernance.Proofs.SealedPhases
import OrgGovernance.Proofs.WellFormed

/-!
# Admissible decisions

Which decisions are taken is spread over the stored proposal, its tag, the
height, the number of voters and the tally. Taken together it is one condition:
a known voter or room for another one, and a decision that the voting system
takes at the height from this voter. Exactly these decisions are accepted. An
accepted one sets the entry of its voter on the one proposal, and all else stays.
-/

namespace OrgGovernance

/-- The decision that an entry of sealed voting holds. -/
def SealedEntry.decision : SealedEntry → Decision
  | .committed digest => .commit digest
  | .revealed ballot => .reveal ballot

namespace Tally

/-- The decision of a voter that a tally holds: the ballot cast, the commitment or the ballot
revealed. -/
def decisionOf? (voter : String) : Tally → Option Decision
  | .coin t => (t.votes.find? voter).map .vote
  | .conviction t => (t.convictions.find? voter).map .vote
  | .sealed t => (t.entries.find? voter).map SealedEntry.decision

/-- The decisions that a voting system takes from a voter at a height, on a proposal created at
another. All other decisions fit no voting system or come at the wrong time. -/
inductive Admissible (createdOn now : Height) (voter : String) : Tally → Decision → Prop
  /-- Under coin voting a ballot is taken at any height. -/
  | coin (t : CoinTally) (ballot : Ballot) : Admissible createdOn now voter (.coin t) (.vote ballot)
  /-- Under conviction voting a ballot is taken at any height. -/
  | conviction (t : ConvictionTally) (ballot : Ballot) :
    Admissible createdOn now voter (.conviction t) (.vote ballot)
  /-- A commitment is taken before the end of the commit phase, unless the voter has revealed. -/
  | commit (t : SealedTally) (digest : Digest) (early : now < t.commitEndsOn createdOn)
    (unrevealed : ∀ ballot, t.entries.find? voter ≠ some (.revealed ballot)) :
    Admissible createdOn now voter (.sealed t) (.commit digest)
  /-- A reveal is taken between the ends of the phases, of the ballot committed to. -/
  | reveal (t : SealedTally) (ballot : HiddenBallot) (started : t.commitEndsOn createdOn < now)
    (running : now < t.revealEndsOn createdOn)
    (committed : t.entries.find? voter = some (.committed ballot.commitment)) :
    Admissible createdOn now voter (.sealed t) (.reveal ballot)

/-- What a tally becomes through a decision of a voter: the decision takes the place of the voter's
earlier one, if there was one, and nothing else is different beside the power that is counted. -/
structure Takes (before : Tally) (voter : String) (decision : Decision) (after : Tally) :
    Prop where
  /-- The voting system is that of before, with all parameters. -/
  system : after.system = before.system
  /-- The voter's decision is the new one, and those of all others are as before. -/
  decisions : ∀ other, after.decisionOf? other =
    if other = voter then some decision else before.decisionOf? other
  /-- There is one voter more exactly when the voter was not known. -/
  voterCount : after.voterCount =
    if before.hasVoter voter then before.voterCount else before.voterCount + 1

variable {t after : Tally} {voter : String} {decision : Decision} {createdOn now : Height}

/-- A voter is known to a tally exactly when the tally holds a decision of the voter. -/
theorem hasVoter_eq_isSome (t : Tally) (voter : String) :
    t.hasVoter voter = (t.decisionOf? voter).isSome := by
  cases t <;> exact Option.isSome_map.symm

/-- A decision is admissible exactly when it is in time and the tally records it. -/
theorem admissible_iff : Admissible createdOn now voter t decision ↔
    t.checkPhase decision createdOn now = .ok () ∧ ∃ after, Records voter t decision after := by
  constructor
  · intro admissible
    cases admissible with
    | coin t ballot => exact ⟨rfl, _, .coin t ballot⟩
    | conviction t ballot => exact ⟨rfl, _, .conviction t ballot⟩
    | commit t digest early unrevealed =>
      exact ⟨SealedTally.checkPhase_commit_eq_ok_iff.mpr early, _, .committed t digest unrevealed⟩
    | reveal t ballot started running committed =>
      exact ⟨SealedTally.checkPhase_reveal_eq_ok_iff.mpr ⟨started, running⟩, _,
        .revealed t ballot committed⟩
  · rintro ⟨inside, after, records⟩
    cases records with
    | coin t ballot => exact .coin t ballot
    | conviction t ballot => exact .conviction t ballot
    | committed t digest hidden =>
      exact .commit t digest (SealedTally.checkPhase_commit_eq_ok_iff.mp inside) hidden
    | revealed t ballot held =>
      obtain ⟨started, running⟩ := SealedTally.checkPhase_reveal_eq_ok_iff.mp inside
      exact .reveal t ballot started running held

/-- A recorded decision is held of its voter, and those of all others are held as before. -/
theorem Records.decisionOf? (records : Records voter t decision after) (other : String) :
    after.decisionOf? other = if other = voter then some decision else t.decisionOf? other := by
  cases records with
  | coin t ballot =>
    simp only [Tally.decisionOf?, CoinTally.cast, OrderedMap.find?_insert]
    split <;> rfl
  | conviction t ballot =>
    simp only [Tally.decisionOf?, ConvictionTally.cast, OrderedMap.find?_insert]
    split <;> rfl
  | committed t digest hidden =>
    simp only [Tally.decisionOf?, OrderedMap.find?_insert]
    split <;> rfl
  | revealed t ballot held =>
    simp only [Tally.decisionOf?, OrderedMap.find?_insert]
    split <;> rfl

/-- A recorded decision is all that a tally takes. -/
theorem Records.takes (records : Records voter t decision after) :
    t.Takes voter decision after where
  system := records.system
  decisions := records.decisionOf?
  voterCount := records.voterCount

end Tally

namespace Council

/-- A decision of a voter on the proposal that is stored under an identifier may be taken: the tag
of the proposal is that of its tally, the voter is known or there is room for another one, and the
voting system takes the decision at the current height. -/
structure Admissible (c : Council) (id voter : String) (decision : Decision) (p : Proposal) :
    Prop where
  /-- The proposal is stored under the identifier. -/
  held : c.registry.proposals.find? id = some p
  /-- The tag of the proposal is that of its tally. -/
  tagged : p.voting = p.tally.systemId
  /-- The voter is known, or there are fewer voters than allowed. -/
  room : p.tally.hasVoter voter = true ∨ p.tally.voterCount < c.limits.maxVoters.toNat
  /-- The voting system takes the decision. -/
  admissible : p.tally.Admissible p.createdOn c.chain.height voter decision

variable {c after : Council} {id voter : String} {decision : Decision}

/-- A decision that is accepted passed every check and was recorded on the stored proposal. -/
theorem decided_of_accepted (accepted : c.submitDecision id voter decision = (.ok (), after)) :
    ∃ p tally, c.Admissible id voter decision p ∧ Tally.Records voter p.tally decision tally ∧
      after = { c with registry := c.registry.put { p with tally } } := by
  cases (c.allOrNothing_submitDecision id voter decision).of_ok accepted with
  | @decided _ _ _ p tally held routed inside admitted records =>
    have admissible := Tally.admissible_iff.mpr ⟨inside, tally, records⟩
    exact ⟨p, tally, ⟨held, routed.symm, admitted, admissible⟩, records, rfl⟩

/-- An admissible decision is accepted. -/
theorem Admissible.accepted {p : Proposal} (h : c.Admissible id voter decision p) :
    ∃ tally, Tally.Records voter p.tally decision tally ∧
      c.submitDecision id voter decision =
        (.ok (), { c with registry := c.registry.put { p with tally } }) := by
  obtain ⟨inside, tally, records⟩ := Tally.admissible_iff.mp h.admissible
  exact ⟨tally, records, submitDecision_admitted h.held h.tagged.symm inside h.room records⟩

/-- Putting a proposal back under its own identifier with another tally changes nothing else. -/
theorem differsAt_put {p : Proposal} (named : p.id = id) (tally : Tally) :
    c.DiffersAt { c with registry := c.registry.put { p with tally } } id where
  proposals _ apart := (OrderedMap.find?_insert _ _ _ _).trans (if_neg (named.symm ▸ apart))
  organizations := rfl
  organizationsCreated := rfl
  nextNonce := rfl
  height := rfl
  issuance := rfl
  failDispatches := rfl
  limits := rfl

/-- In any council that stores every proposal under its own identifier, a decision is accepted
exactly when it is admissible. Then the stored proposal keeps all but its tally, which takes the
decision, and the chain, the limits, the organizations, the counters and all other proposals stay
as they are. -/
theorem accepted_iff_admissible (keyed : c.Keyed) (id voter : String) (decision : Decision) :
    ((c.submitDecision id voter decision).1 = .ok () ↔ ∃ p, c.Admissible id voter decision p) ∧
    ∀ p after, c.registry.proposals.find? id = some p →
      c.submitDecision id voter decision = (.ok (), after) →
      (∃ tally, after.registry.proposals.find? id = some { p with tally } ∧
        p.tally.Takes voter decision tally) ∧
      c.DiffersAt after id ∧ after.chain = c.chain := by
  refine ⟨⟨fun accepted => ?_, fun ⟨p, admissible⟩ => ?_⟩, fun p after held accepted => ?_⟩
  · obtain ⟨p, _, admissible, _⟩ := decided_of_accepted (Prod.ext accepted rfl)
    exact ⟨p, admissible⟩
  · obtain ⟨tally, _, accepted⟩ := admissible.accepted
    rw [accepted]
  · obtain ⟨q, tally, admissible, records, rfl⟩ := decided_of_accepted accepted
    obtain rfl : p = q := Option.some.inj (held.symm.trans admissible.held)
    have named : p.id = id := keyed id p held
    have stored : (c.registry.put { p with tally }).proposals.find? id = some { p with tally } :=
      (OrderedMap.find?_insert _ _ _ _).trans (if_pos named.symm)
    exact ⟨⟨tally, stored, records.takes⟩, differsAt_put named tally, rfl⟩

/-- A proposal under sealed voting on which anna has committed to a ballot and bert has revealed
his. -/
def halfRevealed (anna bert : HiddenBallot) : Proposal :=
  ⟨"p", "o", [1], .sealed, 0, .sealed ⟨⟨5, 5, ⟨1, 50, 33⟩⟩,
    (OrderedMap.empty.insert "anna" (.committed anna.commitment)).insert "bert" (.revealed bert),
    ⟨0, 20⟩⟩⟩

/-- A council in the reveal phase of that proposal, with another proposal, that allows two
voters. -/
def fullHouse (anna bert : HiddenBallot) : Council where
  registry :=
    { Registry.empty with
      proposals := (OrderedMap.empty.insert "p" (halfRevealed anna bert)).insert "q"
        ⟨"q", "o", [2], .coin, 0, .coin (.fresh ⟨10, ⟨1, 50, 33⟩, .simple⟩)⟩ }
  chain := { Chain.genesis with height := 7 }
  limits := ⟨100, 2⟩

/-- Both proposals are stored under their own identifiers. -/
theorem keyed_fullHouse (anna bert : HiddenBallot) : (fullHouse anna bert).Keyed := by
  intro id p held
  simp only [fullHouse, OrderedMap.find?_insert, OrderedMap.find?_empty] at held
  split at held
  · next second =>
    obtain rfl := Option.some.inj held
    exact second.symm
  · split at held
    · next first =>
      obtain rfl := Option.some.inj held
      exact first.symm
    · cases held

/-- The proposal of the full house is stored. -/
theorem held_fullHouse (anna bert : HiddenBallot) :
    (fullHouse anna bert).registry.proposals.find? "p" = some (halfRevealed anna bert) := by
  have apart : ¬("p" = "q") := by decide
  simp only [fullHouse, OrderedMap.find?_insert, if_neg apart, if_true]

/-- In a full house anna is let reveal her ballot, for she is known. Nobody else is let in, not even
with the same ballot. -/
theorem anna_alone_reveals_in_full_house :
    let anna : HiddenBallot := ⟨30, true, 11⟩
    let bert : HiddenBallot := ⟨20, false, 12⟩
    let c := fullHouse anna bert
    c.Keyed ∧ c.Admissible "p" "anna" (.reveal anna) (halfRevealed anna bert) ∧
      (∃ after tally, c.submitDecision "p" "anna" (.reveal anna) = (.ok (), after) ∧
        after.registry.proposals.find? "p" = some { halfRevealed anna bert with tally } ∧
        (halfRevealed anna bert).tally.Takes "anna" (.reveal anna) tally ∧
        c.DiffersAt after "p" ∧ after.chain = c.chain) ∧
      (c.submitDecision "p" "carl" (.reveal anna)).1 ≠ .ok () := by
  intro anna bert c
  have keyed : c.Keyed := keyed_fullHouse anna bert
  have held : c.registry.proposals.find? "p" = some (halfRevealed anna bert) :=
    held_fullHouse anna bert
  have commitment : ((OrderedMap.empty.insert "anna" (.committed anna.commitment)).insert "bert"
      (.revealed bert)).find? "anna" = some (SealedEntry.committed anna.commitment) := by
    have apart : ¬("anna" = "bert") := by decide
    rw [OrderedMap.find?_insert, if_neg apart, OrderedMap.find?_insert, if_pos rfl]
  have known : (halfRevealed anna bert).tally.hasVoter "anna" = true := by
    rw [Tally.hasVoter_eq_isSome, halfRevealed, Tally.decisionOf?, commitment]
    rfl
  have admissible : c.Admissible "p" "anna" (.reveal anna) (halfRevealed anna bert) :=
    ⟨held, rfl, .inl known, .reveal _ anna (by decide) (by decide) commitment⟩
  obtain ⟨taken, changes⟩ := accepted_iff_admissible keyed "p" "anna" (.reveal anna)
  have accepted : c.submitDecision "p" "anna" (.reveal anna) =
      (.ok (), (c.submitDecision "p" "anna" (.reveal anna)).2) :=
    Prod.ext (taken.mpr ⟨_, admissible⟩) rfl
  obtain ⟨⟨tally, stored, takes⟩, differs, chain⟩ := changes _ _ held accepted
  refine ⟨keyed, admissible, ⟨_, tally, accepted, stored, takes, differs, chain⟩, fun let_in => ?_⟩
  obtain ⟨p, carl⟩ := (accepted_iff_admissible keyed "p" "carl" (.reveal anna)).1.mp let_in
  obtain rfl : halfRevealed anna bert = p := Option.some.inj (held.symm.trans carl.held)
  -- Carl is not known, and both places are taken.
  exact absurd carl.room (by decide +kernel)

end Council

end OrgGovernance
