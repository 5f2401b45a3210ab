import OrgGovernance.Proofs.Transition

/-!
# What a refusal changes

A refused operation leaves the council as it was, whatever the council holds.
Nothing is undone for this: what can refuse an operation comes before its first
change. There are two exceptions. Closing takes its proposal away before the chain
is asked to carry out the call, and a refusal of the chain does not bring it back.
And a proposal that is refused because its identifier is taken has already drawn a
number, so that the number of the next proposal moves on.

A decision passes five checks one after the other: the proposal is there, its
tally is of the tagged system, the decision is in time, there is room for the
voter, and the tally takes it. A refusal names the first check that failed.
-/

namespace OrgGovernance

namespace Council

/-- The councils differ by the absence of the proposal stored under an identifier alone. -/
structure Loses (before after : Council) (id : String) : Prop where
  /-- There was such a proposal. -/
  held : ∃ p, before.registry.proposals.find? id = some p
  /-- It is gone, and every other proposal is stored as before. -/
  proposals : ∀ other, after.registry.proposals.find? other =
    if other = id then none else before.registry.proposals.find? other
  /-- The organizations are those of before. -/
  organizations : after.registry.organizations = before.registry.organizations
  /-- As many organizations are numbered as before. -/
  organizationsCreated :
    after.registry.organizationsCreated = before.registry.organizationsCreated
  /-- The next proposal has the number it had before. -/
  nextNonce : after.registry.nextNonce = before.registry.nextNonce
  /-- The chain is that of before. -/
  chain : after.chain = before.chain
  /-- The limits are those of before. -/
  limits : after.limits = before.limits

/-- The councils differ at most in the number of the next proposal. -/
structure AgreesButNonce (before after : Council) : Prop where
  /-- The proposals are those of before. -/
  proposals : after.registry.proposals = before.registry.proposals
  /-- The organizations are those of before. -/
  organizations : after.registry.organizations = before.registry.organizations
  /-- As many organizations are numbered as before. -/
  organizationsCreated :
    after.registry.organizationsCreated = before.registry.organizationsCreated
  /-- The chain is that of before. -/
  chain : after.chain = before.chain
  /-- The limits are those of before. -/
  limits : after.limits = before.limits

variable {c after : Council}

/-- Removing a stored proposal loses it alone. -/
theorem loses_remove {id : String} {p : Proposal}
    (held : c.registry.proposals.find? id = some p) :
    c.Loses { c with registry := c.registry.remove id } id where
  held := ⟨p, held⟩
  proposals other := c.registry.proposals.find?_erase id other
  organizations := rfl
  organizationsCreated := rfl
  nextNonce := rfl
  chain := rfl
  limits := rfl

/-- A standing for which a proposal is due to close gives the reason: passing comes first. -/
theorem reason_of_due {standing : Evaluation} {reason : CloseReason}
    (due : standing.closeReason? = some reason) :
    reason = if standing.passing then .passed else .expired := by
  rcases Evaluation.closeReason?_eq_some_iff.mp due with ⟨rfl, passing⟩ | ⟨rfl, idle, _⟩
  · rw [if_pos passing]
  · rw [if_neg (Bool.eq_false_iff.mp idle)]

/-- In any council, well-formed or not, an operation other than the opening of a proposal that is
refused without reporting a proposal closed leaves the council as it was. A refusal that reports
one is that of closing: the council loses that proposal alone, and the reason is the one
evaluated just before. -/
theorem refusal_leaves_council {operation : Operation} {refusal : Refusal}
    (refused : c.perform operation = (.error refusal, after))
    (other : ∀ id call, operation ≠ .createProposal id call) :
    (refusal.closed? = none → after = c) ∧
    ∀ reason, refusal.closed? = some reason → ∃ id now supply standing,
      c.Closes operation id now supply ∧ c.evaluate id now supply = .ok standing ∧
      reason = (if standing.passing then .passed else .expired) ∧ c.Loses after id := by
  have t := c.performs_perform operation
  rw [refused] at t
  -- Only three transitions answer a refusal, and the one of a taken identifier is excluded.
  cases t with
  | refused _ plain => exact ⟨fun _ => rfl, fun reason closed => nomatch plain.symm.trans closed⟩
  | duplicated owner taken => exact absurd rfl (other _ _)
  | @rejected _ id now supply p given closes held routed due rejecting =>
    refine ⟨fun plain => (nomatch plain), fun reason closed => ?_⟩
    obtain rfl : given = reason := Option.some.inj closed
    exact ⟨id, now, supply, p.standing now supply, closes, evaluate_held now supply held routed,
      reason_of_due due, loses_remove held⟩

/-- A council on a chain that rejects calls, with a proposal whose tag is not that of its tally
and one whose voting window has ended. -/
def stranded : Council where
  registry := { Registry.empty with
    proposals := .ofList
      [("astray", ⟨"astray", "o", [1], .coin, 0, .sealed (.fresh ⟨5, 5, ⟨1, 50, 33⟩⟩)⟩),
        ("late", ⟨"late", "o", [2], .coin, 0, .coin (.fresh ⟨0, ⟨1, 50, 33⟩, .simple⟩)⟩)] }
  chain := { Chain.genesis with height := 1, failDispatches := true }
  limits := .standard

/-- Closing the one stranded proposal changes nothing, and closing the other one loses it alone,
as expired. -/
theorem stranded_closings_refused :
    (∃ after, stranded.perform (.close "astray") =
        (.error (.unknownVotingSystem "astray" .coin .sealed), after) ∧ after = stranded) ∧
      ∃ after, stranded.perform (.close "late") =
          (.error (.dispatchFailed "o" 1 (some .expired)), after) ∧
        ∃ id now supply standing, stranded.Closes (.close "late") id now supply ∧
          stranded.evaluate id now supply = .ok standing ∧
          CloseReason.expired = (if standing.passing then .passed else .expired) ∧
          stranded.Loses after id := by
  have astray : stranded.perform (.close "astray") =
      (.error (.unknownVotingSystem "astray" .coin .sealed), stranded) := by decide +kernel
  have late : stranded.perform (.close "late") =
      (.error (.dispatchFailed "o" 1 (some .expired)),
        { stranded with registry := stranded.registry.remove "late" }) := by decide +kernel
  have other : ∀ id, ∀ owner call, Operation.close id ≠ .createProposal owner call :=
    fun _ _ _ => nofun
  exact ⟨⟨_, astray, (refusal_leaves_council astray (other _)).1 rfl⟩,
    _, late, (refusal_leaves_council late (other _)).2 .expired rfl⟩

/-- A proposal is refused when its organization is missing, which changes nothing, or when its
identifier is taken, for which its number is drawn all the same. -/
theorem createProposal_eq_error {id : String} {call : Bytes} {refusal : Refusal}
    (refused : c.createProposal id call = (.error refusal, after)) :
    (c.registry.organizations.find? id = none ∧ refusal = .organizationNotFound id ∧ after = c) ∨
      ∃ p, c.registry.proposals.find? (Identifier.proposal id call c.registry.nextNonce) = some p ∧
        refusal = .duplicatedProposal (Identifier.proposal id call c.registry.nextNonce) ∧
        after = { c with registry := c.registry.drawNonce } := by
  cases owner : c.registry.organizations.find? id with
  | none =>
    rw [createProposal_missing call owner] at refused
    cases refused
    exact .inl ⟨rfl, rfl, rfl⟩
  | some details =>
    cases stored : c.registry.proposals.find?
        (Identifier.proposal id call c.registry.nextNonce) with
    | none =>
      rw [createProposal_free owner stored] at refused
      cases refused
    | some p =>
      rw [createProposal_taken owner stored] at refused
      cases refused
      exact .inr ⟨p, rfl, rfl, rfl⟩

/-- In any council, a proposal is refused only for an organization that is missing or an identifier
that is taken. In the first case nothing changes. In the second one the number of the next
proposal moves to the following one, and nothing else changes. -/
theorem refused_opening_spends_number {id : String} {call : Bytes} {refusal : Refusal}
    (refused : c.createProposal id call = (.error refusal, after)) :
    c.AgreesButNonce after ∧
      ((refusal = .organizationNotFound id ∧ c.registry.organizations.find? id = none ∧
          after = c) ∨
        ∃ p, refusal = .duplicatedProposal (Identifier.proposal id call c.registry.nextNonce) ∧
          c.registry.proposals.find? (Identifier.proposal id call c.registry.nextNonce) = some p ∧
          after.registry.nextNonce = c.registry.nextNonce.succWrapped ∧
          after.registry.nextNonce ≠ c.registry.nextNonce) := by
  rcases createProposal_eq_error refused with ⟨missing, rfl, rfl⟩ | ⟨p, taken, rfl, rfl⟩
  · exact ⟨⟨rfl, rfl, rfl, rfl, rfl⟩, .inl ⟨rfl, missing, rfl⟩⟩
  · have moved := c.registry.nextNonce.succWrapped_ne (by decide)
    exact ⟨⟨rfl, rfl, rfl, rfl, rfl⟩, .inr ⟨p, rfl, taken, rfl, moved⟩⟩

/-- The organization of the forestalled council. -/
def forestalledOwner : Organization := ⟨[], .coin ⟨10, ⟨1, 50, 33⟩, .simple⟩⟩

/-- A council that has numbered no proposal yet, but has stored the one that would be the first. -/
def forestalled : Council where
  registry :=
    { Registry.empty with
      organizations := OrderedMap.empty.insert "o" forestalledOwner
      proposals := OrderedMap.empty.insert (Identifier.proposal "o" [1] 0)
        (.opened "o" [1] forestalledOwner.voting 0 0) }
  chain := .genesis
  limits := .standard

/-- The forestalled council refuses its first proposal and draws the number. -/
theorem createProposal_forestalled : forestalled.createProposal "o" [1] =
    (.error (.duplicatedProposal (Identifier.proposal "o" [1] 0)),
      { forestalled with registry := forestalled.registry.drawNonce }) := by
  have owner : forestalled.registry.organizations.find? "o" = some forestalledOwner := by
    simp only [forestalled, OrderedMap.find?_insert, if_true]
  have taken : forestalled.registry.proposals.find? (Identifier.proposal "o" [1] 0) =
      some (.opened "o" [1] forestalledOwner.voting 0 0) := by
    simp only [forestalled, OrderedMap.find?_insert, if_true]
  exact createProposal_taken owner taken

/-- The refusal of the forestalled council changes the number of the next proposal alone. -/
theorem forestalled_spends_number :
    ∃ after, forestalled.createProposal "o" [1] =
        (.error (.duplicatedProposal (Identifier.proposal "o" [1] 0)), after) ∧
      forestalled.AgreesButNonce after ∧
      after.registry.nextNonce = forestalled.registry.nextNonce.succWrapped ∧
      after.registry.nextNonce ≠ forestalled.registry.nextNonce := by
  obtain ⟨agrees, missing | taken⟩ := refused_opening_spends_number createProposal_forestalled
  · cases missing.1
  · obtain ⟨_, _, _, next, moved⟩ := taken
    exact ⟨_, createProposal_forestalled, agrees, next, moved⟩

/-- A refused proposal does not leave the council untouched: the number of the next one moves. -/
theorem refused_opening_moves_number :
    forestalled.registry.nextNonce = 0 ∧
      (forestalled.createProposal "o" [1]).1 =
        .error (.duplicatedProposal (Identifier.proposal "o" [1] 0)) ∧
      (forestalled.createProposal "o" [1]).2.registry.nextNonce = 1 := by
  rw [createProposal_forestalled]
  exact ⟨rfl, rfl, rfl⟩

/-- The ways in which a decision of a voter on the proposal under an identifier is refused. -/
inductive Refuses (c : Council) (id voter : String) (decision : Decision) : Refusal → Prop
  /-- There is no such proposal. -/
  | missing (free : c.registry.proposals.find? id = none) :
    Refuses c id voter decision (.proposalNotFound id)
  /-- The tally of the proposal is not of the tagged system. -/
  | astray {p : Proposal} (held : c.registry.proposals.find? id = some p)
    (astray : p.tally.systemId ≠ p.voting) :
    Refuses c id voter decision (.unknownVotingSystem p.id p.voting p.tally.systemId)
  /-- The decision arrives outside its window. -/
  | untimely {p : Proposal} {t : SealedTally} {window : PhaseWindow}
    (held : c.registry.proposals.find? id = some p) (routed : p.tally.systemId = p.voting)
    (sealed : p.tally = .sealed t) (due : t.window? p.createdOn decision.kind = some window)
    (outside : window.covers c.chain.height = false) :
    Refuses c id voter decision (.outsidePhase decision.kind c.chain.height window)
  /-- The voter is new and the proposal has as many voters as allowed. -/
  | crowded {p : Proposal} (held : c.registry.proposals.find? id = some p)
    (routed : p.tally.systemId = p.voting)
    (inside : p.tally.checkPhase decision p.createdOn c.chain.height = .ok ())
    (unknown : p.tally.hasVoter voter = false)
    (full : c.limits.maxVoters.toNat ≤ p.tally.voterCount) :
    Refuses c id voter decision (.tooManyVoters c.limits.maxVoters.toNat)
  /-- The tally does not take the decision, which passed all other checks. -/
  | declined {p : Proposal} {refusal : Refusal}
    (held : c.registry.proposals.find? id = some p) (routed : p.tally.systemId = p.voting)
    (inside : p.tally.checkPhase decision p.createdOn c.chain.height = .ok ())
    (admitted : c.checkVoters p.tally voter = .ok ())
    (declined : (p.tally.record voter decision).1 = .error refusal) :
    Refuses c id voter decision refusal

end Council

/-- A proposal is refused only where none is stored. -/
theorem Registry.proposal_eq_error {r : Registry} {id : String} {refusal : Refusal}
    (h : r.proposal id = .error refusal) :
    r.proposals.find? id = none ∧ refusal = .proposalNotFound id := by
  unfold Registry.proposal at h
  cases found : r.proposals.find? id with
  | none =>
    rw [found] at h
    exact ⟨rfl, (Except.error.inj h).symm⟩
  | some p =>
    rw [found] at h
    cases h

/-- A tally is refused only under the tag of another system. -/
theorem Proposal.routedTally_eq_error {p : Proposal} {refusal : Refusal}
    (h : p.routedTally = .error refusal) : p.tally.systemId ≠ p.voting ∧
      refusal = .unknownVotingSystem p.id p.voting p.tally.systemId := by
  unfold Proposal.routedTally Tally.routed? at h
  by_cases routed : p.tally.systemId = p.voting
  · simp only [if_pos routed] at h
    cases h
  · simp only [if_neg routed] at h
    exact ⟨routed, (Except.error.inj h).symm⟩

/-- A decision is untimely only outside the window of a sealed tally. -/
theorem Tally.checkPhase_eq_error {t : Tally} {decision : Decision} {createdOn now : Height}
    {refusal : Refusal} (h : t.checkPhase decision createdOn now = .error refusal) :
    ∃ s window, t = .sealed s ∧ s.window? createdOn decision.kind = some window ∧
      window.covers now = false ∧ refusal = .outsidePhase decision.kind now window := by
  cases t with
  | coin t => cases h
  | conviction t => cases h
  | sealed t =>
    simp only [Tally.checkPhase, SealedTally.checkPhase] at h
    split at h
    · cases h
    · next window due =>
      split at h
      · cases h
      · next outside =>
        exact ⟨t, window, rfl, due, Bool.eq_false_iff.mpr outside, (Except.error.inj h).symm⟩

/-- A tally that finds a voter to have revealed already was given a commitment. -/
theorem Tally.record_eq_alreadyRevealed {t : Tally} {voter name : String} {decision : Decision}
    (h : (t.record voter decision).1 = .error (.alreadyRevealed name)) :
    ∃ s digest ballot, t = .sealed s ∧ decision = .commit digest ∧
      s.entries.find? voter = some (.revealed ballot) := by
  cases t with
  | coin t => cases decision <;> cases h
  | conviction t => cases decision <;> cases h
  | sealed t =>
    cases decision with
    | vote ballot => cases h
    | commit digest =>
      simp only [Tally.record, SealedTally.record, SealedTally.commit_eq] at h
      rcases held : t.entries.find? voter with _ | ⟨earlier⟩ | ballot
      · rw [held] at h
        cases h
      · rw [held] at h
        cases h
      · exact ⟨t, digest, ballot, rfl, rfl, held⟩
    | reveal ballot =>
      simp only [Tally.record, SealedTally.record, SealedTally.reveal_eq] at h
      split at h
      · split at h <;> cases h
      · cases h

namespace Council

variable {c : Council}

/-- A voter is turned away only when new to a proposal that has as many voters as allowed. -/
theorem checkVoters_eq_error {t : Tally} {voter : String} {refusal : Refusal}
    (h : c.checkVoters t voter = .error refusal) : t.hasVoter voter = false ∧
      c.limits.maxVoters.toNat ≤ t.voterCount ∧
      refusal = .tooManyVoters c.limits.maxVoters.toNat := by
  unfold checkVoters at h
  split at h
  · next full =>
    simp only [Bool.and_eq_true, Bool.not_eq_true', decide_eq_true_eq] at full
    exact ⟨full.1, full.2, (Except.error.inj h).symm⟩
  · cases h

/-- A decision is refused in one of the five ways. -/
theorem refuses_of_submitDecision {id voter : String} {decision : Decision} {refusal : Refusal}
    (h : (c.submitDecision id voter decision).1 = .error refusal) :
    c.Refuses id voter decision refusal := by
  have refused : c.submitDecision id voter decision = (.error refusal, _) := Prod.ext h rfl
  unfold submitDecision at refused
  rw [Step.get_bind] at refused
  rcases Step.check_bind_eq_error refused with unfound | ⟨p, found, refused⟩
  · obtain ⟨free, rfl⟩ := Registry.proposal_eq_error unfound
    exact .missing free
  have held := (c.registry.yields_proposal id).of_eq_ok found
  rcases Step.check_bind_eq_error refused with unrouted | ⟨tally, routes, refused⟩
  · obtain ⟨astray, rfl⟩ := Proposal.routedTally_eq_error unrouted
    exact .astray held astray
  obtain ⟨routed, rfl⟩ := p.yields_routedTally.of_eq_ok routes
  rcases Step.check_bind_eq_error refused with late | ⟨_, inside, refused⟩
  · obtain ⟨t, window, sealed, due, outside, rfl⟩ := Tally.checkPhase_eq_error late
    exact .untimely held routed sealed due outside
  rcases Step.check_bind_eq_error refused with turned | ⟨_, admitted, refused⟩
  · obtain ⟨unknown, full, rfl⟩ := checkVoters_eq_error turned
    exact .crowded held routed inside unknown full
  rcases Step.check_bind_eq_error refused with declined | ⟨_, _, refused⟩
  · exact .declined held routed inside admitted declined
  · cases refused

end Council

end OrgGovernance
