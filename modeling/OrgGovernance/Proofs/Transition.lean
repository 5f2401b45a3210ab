import OrgGovernance.Council
import OrgGovernance.Proofs.Recording

/-!
# Transitions of a council

Each operation takes a council along one of a few transitions, and its reply
tells which. A transition states every condition under which it is taken and
all that it changes, so that whatever holds of a run is shown by going through
the transitions and never through the operations themselves.
-/

namespace OrgGovernance

/-- The standing of a proposal at a height and against a supply, by the tally it holds. -/
def Proposal.standing (p : Proposal) (now : Height) (supply : Balance) : Evaluation :=
  ⟨p.tally.isPassing supply, p.tally.isExpired p.createdOn now⟩

/-- A standing closes a proposal as passed when it passes, and as expired when it is only
expired. -/
theorem Evaluation.closeReason?_eq_some_iff {e : Evaluation} {reason : CloseReason} :
    e.closeReason? = some reason ↔
      reason = .passed ∧ e.passing = true ∨
        reason = .expired ∧ e.passing = false ∧ e.expired = true := by
  obtain ⟨passing, expired⟩ := e
  cases passing <;> cases expired <;> cases reason <;> decide

/-- The chain with a call of an organization recorded at the current height. -/
def Chain.log (c : Chain) (origin : String) (call : Bytes) : Chain :=
  { c with dispatched := c.dispatched ++ [⟨origin, call, c.height⟩] }

/-- The registry with an organization under the identifier of a new number. -/
def Registry.found (r : Registry) (number : Word 32) (details : Organization) : Registry :=
  { r with
    organizationsCreated := number
    organizations := r.organizations.insert (Identifier.organization number) details }

/-- An operation asks for an organization of these executors under this voting system. -/
inductive Operation.Founds : Operation → List String → VotingSystem → Prop
  /-- The voting system is given. -/
  | given (executors : List String) (voting : VotingSystem) :
    Founds (.createOrganization executors voting) executors voting
  /-- The voting system is requested in text and granted. -/
  | granted (executors : List String) {request : SystemRequest} {voting : VotingSystem}
    (grant : request.grant = .ok voting) :
    Founds (.createOrganizationFrom executors request) executors voting

namespace Council

/-- An operation asks to close a proposal at a height and against a supply. -/
inductive Closes (c : Council) : Operation → String → Height → Balance → Prop
  /-- Height and supply are given. -/
  | given (id : String) (now : Height) (supply : Balance) :
    Closes c (.tryClose id now supply) id now supply
  /-- Height and supply are those of the chain. -/
  | current {id : String} {p : Proposal} (held : c.registry.proposals.find? id = some p) :
    Closes c (.close id) id c.chain.height (c.chain.supplyOf p.tally.currency)

/-- The transitions of a council under an operation, with the reply and the council after. -/
inductive Performs (c : Council) : Operation → Except Refusal Reply → Council → Prop
  /-- The operation is refused and changes nothing. -/
  | refused (operation : Operation) {refusal : Refusal} (plain : refusal.closed? = none) :
    Performs c operation (.error refusal) c
  /-- An organization is registered under the next number. -/
  | founded {operation : Operation} {executors : List String} {voting : VotingSystem}
    {number : Word 32} (founds : operation.Founds executors voting)
    (valid : voting.validate = .ok ())
    (few : (Organization.ofExecutors executors voting).executors.length ≤
      c.limits.maxExecutors.toNat)
    (next : c.registry.organizationsCreated.succ? = some number) :
    Performs c operation (.ok (.identifier (Identifier.organization number)))
      { c with registry := c.registry.found number (Organization.ofExecutors executors voting) }
  /-- An executor dispatches a call. -/
  | applied {caller id : String} {call : Bytes} {details : Organization}
    (owner : c.registry.organizations.find? id = some details)
    (executor : details.isExecutor caller = true) (accepting : c.chain.failDispatches = false) :
    Performs c (.applyAs caller id call) (.ok .done) { c with chain := c.chain.log id call }
  /-- A proposal is opened under an identifier that is free. -/
  | opened {id : String} {call : Bytes} {details : Organization}
    (owner : c.registry.organizations.find? id = some details)
    (free : c.registry.proposals.find? (Identifier.proposal id call c.registry.nextNonce) = none) :
    Performs c (.createProposal id call)
      (.ok (.identifier (Identifier.proposal id call c.registry.nextNonce)))
      { c with
        registry := c.registry.drawNonce.put
          (.opened id call details.voting c.chain.height c.registry.nextNonce) }
  /-- The identifier of a new proposal is taken, and its number is spent. -/
  | duplicated {id : String} {call : Bytes} {details : Organization} {p : Proposal}
    (owner : c.registry.organizations.find? id = some details)
    (taken : c.registry.proposals.find?
      (Identifier.proposal id call c.registry.nextNonce) = some p) :
    Performs c (.createProposal id call)
      (.error (.duplicatedProposal (Identifier.proposal id call c.registry.nextNonce)))
      { c with registry := c.registry.drawNonce }
  /-- A proposal is removed. -/
  | removed {id : String} {p : Proposal} (held : c.registry.proposals.find? id = some p) :
    Performs c (.removeProposal id) (.ok (.proposal p))
      { c with registry := c.registry.remove id }
  /-- A decision is recorded on a proposal. -/
  | decided {id voter : String} {decision : Decision} {p : Proposal} {tally : Tally}
    (held : c.registry.proposals.find? id = some p) (routed : p.tally.systemId = p.voting)
    (inside : p.tally.checkPhase decision p.createdOn c.chain.height = .ok ())
    (admitted : p.tally.hasVoter voter = true ∨
      p.tally.voterCount < c.limits.maxVoters.toNat)
    (records : Tally.Records voter p.tally decision tally) :
    Performs c (.submitDecision id voter decision) (.ok .done)
      { c with registry := c.registry.put { p with tally } }
  /-- The standing of a proposal is answered. -/
  | evaluated {id : String} {p : Proposal} (now : Height) (supply : Balance)
    (held : c.registry.proposals.find? id = some p) (routed : p.tally.systemId = p.voting) :
    Performs c (.evaluate id now supply) (.ok (.standing (p.standing now supply))) c
  /-- A proposal neither passes nor is expired. -/
  | waited {operation : Operation} {id : String} {now : Height} {supply : Balance} {p : Proposal}
    (closes : c.Closes operation id now supply)
    (held : c.registry.proposals.find? id = some p) (routed : p.tally.systemId = p.voting)
    (early : (p.standing now supply).closeReason? = none) :
    Performs c operation (.ok (.outcome .notYetClosable)) c
  /-- A proposal is closed and its call is dispatched. -/
  | concluded {operation : Operation} {id : String} {now : Height} {supply : Balance}
    {p : Proposal} {reason : CloseReason} (closes : c.Closes operation id now supply)
    (held : c.registry.proposals.find? id = some p) (routed : p.tally.systemId = p.voting)
    (due : (p.standing now supply).closeReason? = some reason)
    (accepting : c.chain.failDispatches = false) :
    Performs c operation (.ok (.outcome (.closed reason)))
      { c with registry := c.registry.remove id, chain := c.chain.log p.organization p.call }
  /-- A proposal is closed and its call is rejected. -/
  | rejected {operation : Operation} {id : String} {now : Height} {supply : Balance}
    {p : Proposal} {reason : CloseReason} (closes : c.Closes operation id now supply)
    (held : c.registry.proposals.find? id = some p) (routed : p.tally.systemId = p.voting)
    (due : (p.standing now supply).closeReason? = some reason)
    (rejecting : c.chain.failDispatches = true) :
    Performs c operation
      (.error (.dispatchFailed p.organization p.call.length (some reason)))
      { c with registry := c.registry.remove id }
  /-- An executor drops a proposal of the organization. -/
  | vetoed {caller id : String} {p : Proposal} {details : Organization}
    (held : c.registry.proposals.find? id = some p)
    (owner : c.registry.organizations.find? p.organization = some details)
    (executor : details.isExecutor caller = true) :
    Performs c (.vetoProposal caller id) (.ok .done) { c with registry := c.registry.remove id }
  /-- The chain moves forward. -/
  | advanced (blocks : Height) :
    Performs c (.advance blocks) (.ok (.height (c.chain.advance blocks).height))
      { c with chain := c.chain.advance blocks }
  /-- A supply is increased. -/
  | minted (currency : Currency) (amount : Balance) :
    Performs c (.mint currency amount)
      (.ok (.supply ((c.chain.mint currency amount).supplyOf currency)))
      { c with chain := c.chain.mint currency amount }
  /-- The chain is told to accept or to reject calls. -/
  | switched (failing : Bool) :
    Performs c (.setFailing failing) (.ok .done)
      { c with chain := { c.chain with failDispatches := failing } }

end Council

/-- An organization is yielded as it is stored. -/
theorem Registry.yields_organization (r : Registry) (id : String) :
    Yields (r.organization id) fun details => r.organizations.find? id = some details := by
  unfold Registry.organization
  cases h : r.organizations.find? id with
  | none => exact rfl
  | some details => exact rfl

/-- A proposal is yielded as it is stored. -/
theorem Registry.yields_proposal (r : Registry) (id : String) :
    Yields (r.proposal id) fun p => r.proposals.find? id = some p := by
  unfold Registry.proposal
  cases h : r.proposals.find? id with
  | none => exact rfl
  | some p => exact rfl

/-- What is stored after a removal was stored before. -/
theorem Registry.held_of_remove {r : Registry} {id other : String} {p : Proposal}
    (held : (r.remove id).proposals.find? other = some p) : r.proposals.find? other = some p := by
  simp only [Registry.remove, OrderedMap.find?_erase] at held
  split at held
  · cases held
  · exact held

/-- What is stored after a proposal is put is that one, or it was stored before. -/
theorem Registry.held_of_put {r : Registry} {id : String} {p q : Proposal}
    (held : (r.put p).proposals.find? id = some q) :
    (id = p.id ∧ p = q) ∨ (id ≠ p.id ∧ r.proposals.find? id = some q) := by
  simp only [Registry.put, OrderedMap.find?_insert] at held
  split at held
  · next same => exact .inl ⟨same, Option.some.inj held⟩
  · next other => exact .inr ⟨other, held⟩

/-- The tally of a proposal is answered under the tag of its system. -/
theorem Proposal.routedTally_of_routed {p : Proposal} (routed : p.tally.systemId = p.voting) :
    p.routedTally = .ok p.tally := by
  simp only [Proposal.routedTally, Tally.routed?, if_pos routed]

/-- The tally of a proposal is yielded when it is of the tagged system. -/
theorem Proposal.yields_routedTally (p : Proposal) :
    Yields p.routedTally fun tally => p.tally.systemId = p.voting ∧ tally = p.tally := by
  unfold Proposal.routedTally Tally.routed?
  by_cases h : p.tally.systemId = p.voting
  · simp only [if_pos h]
    exact ⟨h, rfl⟩
  · simp only [if_neg h]
    exact rfl

/-- A phase check passes or refuses plainly. -/
theorem Tally.yields_checkPhase (t : Tally) (decision : Decision) (createdOn now : Height) :
    Yields (t.checkPhase decision createdOn now) fun _ =>
      t.checkPhase decision createdOn now = .ok () := by
  cases h : t.checkPhase decision createdOn now with
  | ok _ => exact rfl
  | error refusal =>
    cases t with
    | coin t => cases h
    | conviction t => cases h
    | sealed t =>
      simp only [Tally.checkPhase, SealedTally.checkPhase] at h
      split at h
      · cases h
      · split at h
        · cases h
        · cases h
          exact rfl

/-- A voter who may vote is known or comes before the proposal is full. -/
theorem Council.yields_checkVoters (c : Council) (t : Tally) (voter : String) :
    Yields (c.checkVoters t voter) fun _ =>
      t.hasVoter voter = true ∨ t.voterCount < c.limits.maxVoters.toNat := by
  unfold Council.checkVoters
  by_cases h : (!t.hasVoter voter && t.voterCount ≥ c.limits.maxVoters.toNat) = true
  · rw [if_pos h]
    exact rfl
  · rw [if_neg h]
    cases hv : t.hasVoter voter with
    | true => exact .inl rfl
    | false =>
      refine .inr ?_
      simpa [hv] using h

/-- A voter who is known, or who comes before the proposal is full, may vote. -/
theorem Council.checkVoters_of_admitted {c : Council} {t : Tally} {voter : String}
    (admitted : t.hasVoter voter = true ∨ t.voterCount < c.limits.maxVoters.toNat) :
    c.checkVoters t voter = .ok () := by
  unfold Council.checkVoters
  rcases admitted with known | room
  · rw [known, Bool.not_true, Bool.false_and, if_neg Bool.false_ne_true]
  · have open_ : ¬t.voterCount ≥ c.limits.maxVoters.toNat := Nat.not_le.mpr room
    rw [decide_eq_false open_, Bool.and_false, if_neg Bool.false_ne_true]

/-- An organization is yielded to its executors alone. -/
theorem Council.yields_executorsOrganization (c : Council) (caller id : String) :
    Yields (c.executorsOrganization caller id) fun details =>
      c.registry.organizations.find? id = some details ∧ details.isExecutor caller = true := by
  refine (c.registry.yields_organization id).bind fun details owner => ?_
  by_cases h : details.isExecutor caller = true
  · rw [if_pos h]
    exact ⟨owner, h⟩
  · rw [if_neg h]
    exact rfl

/-- A voting system that is accepted is valid. -/
theorem VotingSystem.yields_validate (voting : VotingSystem) :
    Yields (voting.validate.mapError Refusal.invalidVotingSystem) fun _ =>
      voting.validate = .ok () := by
  cases valid : voting.validate with
  | error fault => exact rfl
  | ok _ => exact rfl

/-- An organization that is accepted has no more executors than allowed. -/
theorem Limits.yields_checkExecutors (limits : Limits) (o : Organization) :
    Yields (limits.checkExecutors o) fun _ => o.executors.length ≤ limits.maxExecutors.toNat := by
  unfold Limits.checkExecutors
  by_cases many : o.executors.length > limits.maxExecutors.toNat
  · rw [if_pos many]
    exact rfl
  · rw [if_neg many]
    exact Nat.le_of_not_lt many

/-- The number of the next organization follows the last one. -/
theorem Registry.yields_nextOrganization (r : Registry) :
    Yields r.nextOrganization fun number => r.organizationsCreated.succ? = some number := by
  unfold Registry.nextOrganization
  cases next : r.organizationsCreated.succ? with
  | none => exact rfl
  | some number => exact rfl

/-- A registered organization is valid, small and numbered next, and one that is refused leaves the
registry, its counter included, as it was. -/
theorem Registry.allOrNothing_register (r : Registry) (limits : Limits) (executors : List String)
    (voting : VotingSystem) :
    AllOrNothing (register limits executors voting) r fun id after =>
      voting.validate = .ok () ∧
      (Organization.ofExecutors executors voting).executors.length ≤ limits.maxExecutors.toNat ∧
      ∃ number, r.organizationsCreated.succ? = some number ∧
        id = Identifier.organization number ∧
        after = r.found number (Organization.ofExecutors executors voting) := by
  unfold register
  refine .after_check voting.yields_validate fun _ valid => ?_
  refine .after_check (limits.yields_checkExecutors _) fun _ few => ?_
  refine .after_get ?_
  refine .after_check r.yields_nextOrganization fun number next => ?_
  exact ⟨valid, few, number, next, rfl, rfl⟩

/-- Nothing is taken away where nothing is stored. -/
theorem Registry.remove_of_free {r : Registry} {id : String}
    (free : r.proposals.find? id = none) : r.remove id = r := by
  have kept := r.proposals.assign_find? id
  rw [free] at kept
  exact congrArg (fun proposals => { r with proposals }) kept

/-- A chain records a call, or it rejects the call and records none. -/
theorem Chain.dispatch_eq (c : Chain) (origin : String) (call : Bytes) :
    c.dispatch origin call =
      if c.failDispatches then (.error ⟨call.length⟩, c) else (.ok (), c.log origin call) := by
  unfold Chain.dispatch
  rw [Step.get_bind]
  cases c.failDispatches <;> rfl

namespace Council

/-- A call is handed to the chain: it is recorded, or it is reported as rejected and nothing
changes. -/
theorem dispatch_eq (c : Council) (organization : String) (call : Bytes)
    (closed : Option CloseReason) :
    c.dispatch organization call closed =
      if c.chain.failDispatches then
        (.error (.dispatchFailed organization call.length closed), c)
      else (.ok (), { c with chain := c.chain.log organization call }) := by
  have outcome := c.chain.dispatch_eq organization call
  unfold dispatch Step.within
  change (((c.chain.dispatch organization call).1.mapError _),
    { c with chain := (c.chain.dispatch organization call).2 }) = _
  rw [outcome]
  cases c.chain.failDispatches <;> rfl

/-- A registered organization is answered. -/
theorem organization_held {c : Council} {id : String} {details : Organization}
    (owner : c.registry.organizations.find? id = some details) :
    c.organization id = .ok details := by
  unfold organization Registry.organization
  rw [owner]

/-- Where no organization is registered none is answered. -/
theorem organization_missing {c : Council} {id : String}
    (missing : c.registry.organizations.find? id = none) :
    c.organization id = .error (.organizationNotFound id) := by
  unfold organization Registry.organization
  rw [missing]

/-- A stored proposal is answered. -/
theorem proposal_held {c : Council} {id : String} {p : Proposal}
    (held : c.registry.proposals.find? id = some p) : c.proposal id = .ok p := by
  unfold proposal Registry.proposal
  rw [held]

/-- Where no proposal is stored none is answered. -/
theorem proposal_missing {c : Council} {id : String}
    (free : c.registry.proposals.find? id = none) :
    c.proposal id = .error (.proposalNotFound id) := by
  unfold proposal Registry.proposal
  rw [free]

/-- A stored proposal whose tag fits its tally is evaluated by that tally. -/
theorem evaluate_held {c : Council} {id : String} {p : Proposal} (now : Height) (supply : Balance)
    (held : c.registry.proposals.find? id = some p) (routed : p.tally.systemId = p.voting) :
    c.evaluate id now supply = .ok (p.standing now supply) := by
  have tally := Proposal.routedTally_of_routed routed
  unfold evaluate
  rw [proposal_held held]
  simp only [bind, Except.bind, tally]
  rfl

/-- The standing that is yielded is that of the stored proposal. -/
theorem yields_evaluate (c : Council) (id : String) (now : Height) (supply : Balance) :
    Yields (c.evaluate id now supply) fun standing =>
      ∃ p, c.registry.proposals.find? id = some p ∧ p.tally.systemId = p.voting ∧
        standing = p.standing now supply := by
  refine (c.registry.yields_proposal id).bind fun p held => ?_
  refine p.yields_routedTally.bind fun tally routed => ?_
  obtain ⟨tagged, rfl⟩ := routed
  exact ⟨p, held, tagged, rfl⟩

/-- A stored proposal is taken out. -/
theorem removeProposal_held {c : Council} {id : String} {p : Proposal}
    (held : c.registry.proposals.find? id = some p) :
    c.removeProposal id = (.ok p, { c with registry := c.registry.remove id }) := by
  have found : c.registry.take? id = (.ok (some p), c.registry.remove id) := by
    rw [← held]
    rfl
  have taken : c.onRegistry (Registry.take? id) =
      (.ok (some p), { c with registry := c.registry.remove id }) := Step.within_of_eq found
  unfold removeProposal
  rw [Step.bind_of_ok taken]
  rfl

/-- Where no proposal is stored none is taken out. -/
theorem removeProposal_missing {c : Council} {id : String}
    (free : c.registry.proposals.find? id = none) :
    c.removeProposal id = (.error (.proposalNotFound id), c) := by
  have found : c.registry.take? id = (.ok none, c.registry) := by
    rw [← free]
    exact congrArg (Except.ok _, ·) (Registry.remove_of_free free)
  have taken : c.onRegistry (Registry.take? id) = (.ok none, c) := Step.within_of_eq found
  unfold removeProposal
  rw [Step.bind_of_ok taken]
  rfl

/-- What a step answers is reported in its form, with the council that the step leaves. -/
theorem answer_of_eq {α : Type} {c after : Council} {step : Action α} {form : α → Reply}
    {result : Except Refusal α} (outcome : step c = (result, after)) :
    c.answer step form = (result.map form, after) := by
  unfold answer
  rw [outcome]

/-- A step that is reported as refused is refused. -/
theorem refused_of_answer {α : Type} {c after : Council} {step : Action α} {form : α → Reply}
    {refusal : Refusal} (refused : c.answer step form = (.error refusal, after)) :
    step c = (.error refusal, after) := by
  unfold answer at refused
  cases carried : step c with
  | mk result left =>
    rw [carried] at refused
    cases result with
    | error _ =>
      cases refused
      rfl
    | ok _ => cases refused

/-- A transition for every answer of a step that is all or nothing is one for the step. -/
theorem performs_of_allOrNothing {α : Type} {c : Council} {operation : Operation}
    {step : Action α} {form : α → Reply}
    (h : AllOrNothing step c fun a after => c.Performs operation (.ok (form a)) after) :
    c.Performs operation (c.answer step form).1 (c.answer step form).2 := by
  unfold answer
  cases carried : step c with
  | mk result after =>
    cases result with
    | ok a => exact h.of_ok carried
    | error refusal =>
      obtain ⟨plain, rfl⟩ := h.of_error carried
      exact .refused operation plain

/-- Registering an organization founds one or is refused. -/
theorem allOrNothing_createOrganization (c : Council) {operation : Operation}
    {executors : List String} {voting : VotingSystem}
    (founds : operation.Founds executors voting) :
    AllOrNothing (createOrganization executors voting) c fun id after =>
      c.Performs operation (.ok (.identifier id)) after := by
  unfold createOrganization
  refine .after_get (.within ?_ rfl)
  refine (c.registry.allOrNothing_register c.limits executors voting).mono fun id after h => ?_
  obtain ⟨valid, few, number, next, rfl, rfl⟩ := h
  exact .founded founds valid few next

/-- An organization whose voting system is requested in text is founded or refused. -/
theorem allOrNothing_createOrganizationFrom (c : Council) (executors : List String)
    (request : SystemRequest) :
    AllOrNothing (createOrganizationFrom executors request) c fun id after =>
      c.Performs (.createOrganizationFrom executors request) (.ok (.identifier id)) after := by
  have grants : Yields (request.grant.mapError Refusal.invalidVotingSystem) fun voting =>
      request.grant = .ok voting := by
    cases grant : request.grant <;> exact rfl
  exact .after_check grants fun voting grant =>
    c.allOrNothing_createOrganization (.granted executors grant)

/-- An executor's call is dispatched or refused. -/
theorem allOrNothing_applyAs (c : Council) (caller id : String) (call : Bytes) :
    AllOrNothing (applyAs caller id call) c fun _ after =>
      c.Performs (.applyAs caller id call) (.ok .done) after := by
  refine .after_get (.after_check (c.yields_executorsOrganization caller id) fun details h => ?_)
  unfold AllOrNothing
  rw [dispatch_eq]
  cases failing : c.chain.failDispatches with
  | true => exact ⟨rfl, rfl⟩
  | false => exact .applied h.1 h.2 failing

/-- A proposal of an organization that is not registered is refused. -/
theorem createProposal_missing {c : Council} {id : String} (call : Bytes)
    (missing : c.registry.organizations.find? id = none) :
    c.createProposal id call = (.error (.organizationNotFound id), c) := by
  rw [createProposal, Step.get_bind, organization_missing missing, Step.check_error_bind]

/-- The opening of a proposal goes on, with its number drawn, by looking whether its identifier is
taken. -/
theorem createProposal_drawn {c : Council} {id : String} (call : Bytes) {details : Organization}
    (owner : c.registry.organizations.find? id = some details) :
    c.createProposal id call =
      let p := Proposal.opened id call details.voting c.chain.height c.registry.nextNonce
      if c.registry.proposals.contains p.id then
        (.error (.duplicatedProposal p.id), { c with registry := c.registry.drawNonce })
      else (.ok p.id, { c with registry := c.registry.drawNonce.put p }) := by
  have drawn : c.onRegistry Registry.takeNonce =
      (.ok c.registry.nextNonce, { c with registry := c.registry.drawNonce }) := rfl
  rw [createProposal, Step.get_bind, organization_held owner, Step.check_ok_bind,
    Step.bind_of_ok drawn, Step.get_bind]
  generalize Proposal.opened id call details.voting c.chain.height c.registry.nextNonce = p
  by_cases taken : c.registry.proposals.contains p.id = true
  · exact (congrFun (if_pos taken) _).trans (if_pos taken).symm
  · exact (congrFun (if_neg taken) _).trans (if_neg taken).symm

/-- A proposal whose identifier is taken is refused once its number is drawn. -/
theorem createProposal_taken {c : Council} {id : String} {call : Bytes} {details : Organization}
    {p : Proposal} (owner : c.registry.organizations.find? id = some details)
    (taken : c.registry.proposals.find?
      (Identifier.proposal id call c.registry.nextNonce) = some p) :
    c.createProposal id call =
      (.error (.duplicatedProposal (Identifier.proposal id call c.registry.nextNonce)),
        { c with registry := c.registry.drawNonce }) := by
  have present : c.registry.proposals.contains
      (Identifier.proposal id call c.registry.nextNonce) = true := by
    rw [OrderedMap.contains, taken, Option.isSome_some]
  rw [createProposal_drawn call owner]
  exact if_pos present

/-- A proposal whose identifier is free is opened. -/
theorem createProposal_free {c : Council} {id : String} {call : Bytes} {details : Organization}
    (owner : c.registry.organizations.find? id = some details)
    (free : c.registry.proposals.find?
      (Identifier.proposal id call c.registry.nextNonce) = none) :
    c.createProposal id call =
      (.ok (Identifier.proposal id call c.registry.nextNonce),
        { c with
          registry := c.registry.drawNonce.put
            (.opened id call details.voting c.chain.height c.registry.nextNonce) }) := by
  have absent : ¬c.registry.proposals.contains
      (Identifier.proposal id call c.registry.nextNonce) = true := by
    rw [OrderedMap.contains, free, Option.isSome_none]
    exact Bool.false_ne_true
  rw [createProposal_drawn call owner]
  exact if_neg absent

/-- A proposal is opened, or its number is spent on a taken identifier. -/
theorem performs_createProposal (c : Council) (id : String) (call : Bytes) :
    c.Performs (.createProposal id call) (c.answer (createProposal id call) .identifier).1
      (c.answer (createProposal id call) .identifier).2 := by
  unfold answer
  cases owner : c.registry.organizations.find? id with
  | none =>
    rw [createProposal_missing call owner]
    exact .refused _ rfl
  | some details =>
    cases stored : c.registry.proposals.find?
        (Identifier.proposal id call c.registry.nextNonce) with
    | none =>
      rw [createProposal_free owner stored]
      exact .opened owner stored
    | some p =>
      rw [createProposal_taken owner stored]
      exact .duplicated owner stored

/-- A proposal that is removed was stored. -/
theorem allOrNothing_removeProposal (c : Council) (id : String) :
    AllOrNothing (removeProposal id) c fun p after =>
      c.registry.proposals.find? id = some p ∧
        after = { c with registry := c.registry.remove id } := by
  unfold AllOrNothing
  cases held : c.registry.proposals.find? id with
  | none =>
    rw [removeProposal_missing held]
    exact ⟨rfl, rfl⟩
  | some p =>
    rw [removeProposal_held held]
    exact ⟨rfl, rfl⟩

/-- A decision is recorded on the stored proposal, or it is refused by one of the checks or by the
tally, before anything is stored. -/
theorem allOrNothing_submitDecision (c : Council) (id voter : String) (decision : Decision) :
    AllOrNothing (submitDecision id voter decision) c fun _ after =>
      c.Performs (.submitDecision id voter decision) (.ok .done) after := by
  refine .after_get (.after_check (c.registry.yields_proposal id) fun p held => ?_)
  refine .after_check p.yields_routedTally fun tally h => ?_
  obtain ⟨routed, rfl⟩ := h
  refine .after_check (p.tally.yields_checkPhase decision p.createdOn c.chain.height)
    fun _ inside => ?_
  refine .after_check (c.yields_checkVoters p.tally voter) fun _ admitted => ?_
  refine .after_check (p.tally.allOrNothing_record voter decision).yields fun _ records => ?_
  exact .decided held routed inside admitted records

section Closing

variable {c : Council} {id : String} {p : Proposal} {now : Height} {supply : Balance}
  {standing : Evaluation} {reason : CloseReason}

/-- A proposal that is not evaluated is not closed. -/
theorem tryClose_refused {refusal : Refusal}
    (refused : c.evaluate id now supply = .error refusal) :
    c.tryClose id now supply = (.error refusal, c) := by
  unfold tryClose
  rw [Step.get_bind, refused, Step.check_error_bind]

/-- A proposal that is not due stays. -/
theorem tryClose_early (evaluated : c.evaluate id now supply = .ok standing)
    (early : standing.closeReason? = none) :
    c.tryClose id now supply = (.ok .notYetClosable, c) := by
  unfold tryClose
  rw [Step.get_bind, evaluated, Step.check_ok_bind, early]
  rfl

/-- A proposal that is due is removed, and then its call is recorded or rejected. -/
theorem tryClose_due (held : c.registry.proposals.find? id = some p)
    (evaluated : c.evaluate id now supply = .ok standing)
    (due : standing.closeReason? = some reason) :
    c.tryClose id now supply =
      let removed := { c with registry := c.registry.remove id }
      if c.chain.failDispatches then
        (.error (.dispatchFailed p.organization p.call.length (some reason)), removed)
      else (.ok (.closed reason), { removed with chain := c.chain.log p.organization p.call }) := by
  have dispatched := dispatch_eq { c with registry := c.registry.remove id } p.organization p.call
    (some reason)
  unfold tryClose
  rw [Step.get_bind, evaluated, Step.check_ok_bind, due]
  simp only [Step.bind_of_ok (removeProposal_held held)]
  cases failing : c.chain.failDispatches with
  | true =>
    rw [if_pos failing] at dispatched
    exact Step.bind_of_error dispatched _
  | false =>
    rw [if_neg (Bool.eq_false_iff.mp failing)] at dispatched
    exact Step.bind_of_ok dispatched _

/-- A stored proposal is closed at the height of the chain against the supply of its currency. -/
theorem close_held (held : c.registry.proposals.find? id = some p) :
    c.close id = c.tryClose id c.chain.height (c.chain.supplyOf p.tally.currency) := by
  unfold close
  rw [Step.get_bind, proposal_held held, Step.check_ok_bind]

/-- Where no proposal is stored none is closed. -/
theorem close_missing (free : c.registry.proposals.find? id = none) :
    c.close id = (.error (.proposalNotFound id), c) := by
  unfold close
  rw [Step.get_bind, proposal_missing free, Step.check_error_bind]

end Closing

/-- A proposal is closed, kept or not found. -/
theorem performs_tryClose (c : Council) {operation : Operation} {id : String} {now : Height}
    {supply : Balance} (closes : c.Closes operation id now supply) :
    c.Performs operation (c.answer (tryClose id now supply) .outcome).1
      (c.answer (tryClose id now supply) .outcome).2 := by
  have h := c.yields_evaluate id now supply
  unfold answer
  cases evaluated : c.evaluate id now supply with
  | error refusal =>
    rw [evaluated] at h
    rw [tryClose_refused evaluated]
    exact .refused _ h
  | ok standing =>
    obtain ⟨p, held, routed, rfl⟩ := h.of_eq_ok evaluated
    cases due : (p.standing now supply).closeReason? with
    | none =>
      rw [tryClose_early evaluated due]
      exact .waited closes held routed due
    | some reason =>
      rw [tryClose_due held evaluated due]
      cases failing : c.chain.failDispatches with
      | true => exact .rejected closes held routed due failing
      | false => exact .concluded closes held routed due failing

/-- A proposal closed at the height of the chain is closed, kept or not found. -/
theorem performs_close (c : Council) (id : String) :
    c.Performs (.close id) (c.answer (close id) .outcome).1 (c.answer (close id) .outcome).2 := by
  unfold answer
  cases stored : c.registry.proposals.find? id with
  | none =>
    rw [close_missing stored]
    exact .refused _ rfl
  | some p =>
    rw [close_held stored]
    exact c.performs_tryClose (.current stored)

/-- The standing of a proposal is answered or refused. -/
theorem performs_evaluate (c : Council) (id : String) (now : Height) (supply : Balance) :
    c.Performs (.evaluate id now supply) ((c.evaluate id now supply).map .standing) c := by
  have h := c.yields_evaluate id now supply
  cases evaluated : c.evaluate id now supply with
  | error refusal =>
    rw [evaluated] at h
    exact .refused _ h
  | ok standing =>
    rw [evaluated] at h
    obtain ⟨p, held, routed, rfl⟩ := h
    exact .evaluated now supply held routed

/-- A veto takes the proposal out for an executor of its organization, or it is refused. -/
theorem allOrNothing_vetoProposal (c : Council) (caller id : String) :
    AllOrNothing (vetoProposal caller id) c fun _ after =>
      c.Performs (.vetoProposal caller id) (.ok .done) after := by
  refine .after_get (.after_check (c.registry.yields_proposal id) fun p held => ?_)
  refine .after_check (c.yields_executorsOrganization caller p.organization) fun details h => ?_
  refine .before_answer (c.allOrNothing_removeProposal id) fun q after removed => ?_
  obtain ⟨-, rfl⟩ := removed
  exact ⟨(), _, rfl, .vetoed held h.1 h.2⟩

/-- Every operation takes a council along a transition. -/
theorem performs_perform (c : Council) (operation : Operation) :
    c.Performs operation (c.perform operation).1 (c.perform operation).2 := by
  cases operation with
  | createOrganization executors voting =>
    exact performs_of_allOrNothing (c.allOrNothing_createOrganization (.given executors voting))
  | createOrganizationFrom executors request =>
    exact performs_of_allOrNothing (c.allOrNothing_createOrganizationFrom executors request)
  | applyAs caller id call =>
    exact performs_of_allOrNothing (c.allOrNothing_applyAs caller id call)
  | createProposal id call => exact c.performs_createProposal id call
  | removeProposal id =>
    refine performs_of_allOrNothing ((c.allOrNothing_removeProposal id).mono fun p after h => ?_)
    obtain ⟨held, rfl⟩ := h
    exact .removed held
  | submitDecision id voter decision =>
    exact performs_of_allOrNothing (c.allOrNothing_submitDecision id voter decision)
  | evaluate id now supply => exact c.performs_evaluate id now supply
  | tryClose id now supply => exact c.performs_tryClose (.given id now supply)
  | close id => exact c.performs_close id
  | vetoProposal caller id =>
    exact performs_of_allOrNothing (c.allOrNothing_vetoProposal caller id)
  | advance blocks => exact .advanced blocks
  | mint currency amount => exact .minted currency amount
  | setFailing failing => exact .switched failing

/-- A decision that passes every check is recorded. -/
theorem submitDecision_admitted {c : Council} {id voter : String} {decision : Decision}
    {p : Proposal} {tally : Tally} (held : c.registry.proposals.find? id = some p)
    (routed : p.tally.systemId = p.voting)
    (inside : p.tally.checkPhase decision p.createdOn c.chain.height = .ok ())
    (admitted : p.tally.hasVoter voter = true ∨ p.tally.voterCount < c.limits.maxVoters.toNat)
    (records : Tally.Records voter p.tally decision tally) :
    c.submitDecision id voter decision =
      (.ok (), { c with registry := c.registry.put { p with tally } }) := by
  have route := Proposal.routedTally_of_routed routed
  have passes := checkVoters_of_admitted admitted
  have recorded := Tally.record_eq_ok_iff.mpr records
  simp only [submitDecision, Step.get_bind, proposal_held held, Step.check_ok_bind, route, inside,
    passes, recorded]
  rfl

/-- The council without organizations and proposals on a chain and under limits. -/
def empty (chain : Chain) (limits : Limits) : Council := ⟨Registry.empty, chain, limits⟩

/-- A run goes on from where its first part ends. -/
theorem run_append (c : Council) (first later : List Operation) :
    c.run (first ++ later) = (c.run first).run later := List.foldl_append

/-- A run ends with its last operation. -/
theorem run_concat (c : Council) (operations : List Operation) (operation : Operation) :
    c.run (operations ++ [operation]) = ((c.run operations).perform operation).2 := by
  simp only [run, List.foldl_append, List.foldl_cons, List.foldl_nil]

/-- A transition leaves the limits and never lowers the height or the number of organizations. -/
theorem Performs.grows {c after : Council} {operation : Operation} {reply : Except Refusal Reply}
    (t : c.Performs operation reply after) :
    after.limits = c.limits ∧ c.chain.height ≤ after.chain.height ∧
      c.registry.organizationsCreated ≤ after.registry.organizationsCreated := by
  cases t with
  | founded _ _ _ next =>
    have number := Word.ofNat?_eq_some_iff.mp next
    exact ⟨rfl, Nat.le_refl _, Nat.le_of_succ_le (Nat.le_of_eq number)⟩
  | advanced blocks =>
    have fits := c.chain.height.toNat_le_greatest
    exact ⟨rfl, Nat.le_min.mpr ⟨Nat.le_add_right _ _, fits⟩, Nat.le_refl _⟩
  | _ => exact ⟨rfl, Nat.le_refl _, Nat.le_refl _⟩

end Council

end OrgGovernance
