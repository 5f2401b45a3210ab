import OrgGovernance.Proofs.Atomicity
import OrgGovernance.Proofs.Founding

/-!
# The authority of executors

Whether an account may act for an organization is decided by halving the sorted
list of its executors. Since the stored list never changes, an account may act
exactly when it was among the executors that the organization was founded with:
then its calls are handed to the chain and its vetoes take proposals away. Every
other account is refused, and nothing changes.
-/

namespace OrgGovernance.Council

/-- The chain was asked to carry out a call of an organization, and its verdict was answered. -/
inductive Attempts (c : Council) (id : String) (call : Bytes) : Answer Unit → Prop
  /-- The chain has recorded the call at its height, and nothing else has changed. -/
  | recorded (accepting : c.chain.failDispatches = false) :
    Attempts c id call (.ok (),
      { c with
        chain := { c.chain with
          dispatched := c.chain.dispatched ++ [⟨id, call, c.chain.height⟩] } })
  /-- The chain has rejected the call, and nothing has changed. -/
  | rejected (rejecting : c.chain.failDispatches = true) :
    Attempts c id call (.error (.dispatchFailed id call.length none), c)

/-- Whatever the chain says of a call, it was asked. -/
theorem attempts_dispatch (c : Council) (id : String) (call : Bytes) :
    c.Attempts id call (c.dispatch id call none) := by
  rw [dispatch_eq]
  cases verdict : c.chain.failDispatches with
  | true => exact .rejected verdict
  | false => exact .recorded verdict

/-- Of two answers a check gives the first exactly when it holds, and else the second. They are
told apart by what holds of the first alone. -/
theorem Answer.of_check {given granted denied : Answer Unit} {check : Bool} {P : Prop}
    {Q : Answer Unit → Prop} (decides : given = if check then granted else denied)
    (grants : Q granted) (denies : ¬Q denied) (means : check = true ↔ P) :
    (Q given ↔ P) ∧ (¬P → given = denied) := by
  cases check with
  | true =>
    have same : given = granted := decides
    exact ⟨iff_of_true (same ▸ grants) (means.mp rfl), fun fails => absurd (means.mp rfl) fails⟩
  | false =>
    have same : given = denied := decides
    have fails : ¬P := fun holds => Bool.false_ne_true (means.mpr holds)
    exact ⟨iff_of_false (same ▸ denies) fails, fun _ => same⟩

section Stored

variable {c : Council} {id : String} {details : Organization}

/-- The details of an organization are handed to its executors alone. -/
theorem executorsOrganization_eq (stored : c.registry.organizations.find? id = some details)
    (caller : String) :
    c.executorsOrganization caller id =
      if details.isExecutor caller then .ok details else .error (.unauthorized caller) := by
  unfold executorsOrganization
  rw [organization_eq_ok_iff.mpr stored]
  rfl

/-- The call of an executor is handed to the chain, and that of anyone else is refused. -/
theorem applyAs_eq (stored : c.registry.organizations.find? id = some details)
    (caller : String) (call : Bytes) :
    c.applyAs caller id call =
      if details.isExecutor caller then c.dispatch id call none
      else (.error (.unauthorized caller), c) := by
  rw [applyAs, Step.get_bind, executorsOrganization_eq stored]
  cases details.isExecutor caller <;> rfl

/-- The veto of an executor takes a proposal out, and that of anyone else is refused. -/
theorem vetoProposal_eq {proposal : String} {p : Proposal}
    (held : c.registry.proposals.find? proposal = some p)
    (stored : c.registry.organizations.find? p.organization = some details) (caller : String) :
    c.vetoProposal caller proposal =
      if details.isExecutor caller then
        (.ok (), { c with registry := c.registry.remove proposal })
      else (.error (.unauthorized caller), c) := by
  rw [vetoProposal, Step.get_bind, proposal_held held, Step.check_ok_bind,
    executorsOrganization_eq stored]
  cases details.isExecutor caller with
  | true => exact Step.bind_of_ok (removeProposal_held held) _
  | false => rfl

end Stored

/-- An organization stays stored as it was founded, as long as no two numbers share an
identifier. -/
theorem held_of_registered {c after : Council} {operation : Operation} {executors : List String}
    {voting : VotingSystem} {id : String} (founds : operation.Founds executors voting)
    (registered : c.perform operation = (.ok (.identifier id), after)) {later : List Operation}
    (distinct : Identifier.OrganizationsDistinct
      (after.run later).registry.organizationsCreated) :
    (after.run later).registry.organizations.find? id = some (.ofExecutors executors voting) := by
  have goes : c.run (operation :: later) = after.run later := by
    rw [run, List.foldl_cons, registered]
    rfl
  have first : ⟨id, executors, voting⟩ ∈ c.foundings (operation :: later) := by
    rw [foundings, history, registered, List.filterMap_cons_some
      (Event.founding?_of_founds founds c id)]
    exact List.mem_cons_self
  rw [← goes] at distinct ⊢
  exact held_of_founding distinct first

/-- Suppose that an organization is founded with a list of executors, in any order and with any
repetitions, that any operations follow, and that no two of the organizations numbered so far share
an identifier. Then an account has its calls handed to the chain, and takes proposals of the
organization away by a veto that leaves the chain alone, exactly when it occurs in the list. Calls
and vetoes of all others are refused as unauthorized, and the council stays as it is. -/
theorem executors_alone_act {c after : Council} {operation : Operation} {executors : List String}
    {voting : VotingSystem} {id : String} (founds : operation.Founds executors voting)
    (registered : c.perform operation = (.ok (.identifier id), after)) (later : List Operation)
    (distinct : Identifier.OrganizationsDistinct
      (after.run later).registry.organizationsCreated) (caller : String) :
    let now := after.run later
    (∀ call, (now.Attempts id call (now.applyAs caller id call) ↔ caller ∈ executors) ∧
      (caller ∉ executors → now.applyAs caller id call = (.error (.unauthorized caller), now))) ∧
    (∀ proposal p, now.registry.proposals.find? proposal = some p → p.organization = id →
      ((∃ last, now.vetoProposal caller proposal = (.ok (), last) ∧ now.Loses last proposal) ↔
        caller ∈ executors) ∧
      (caller ∉ executors →
        now.vetoProposal caller proposal = (.error (.unauthorized caller), now))) := by
  intro now
  have stored := held_of_registered founds registered distinct
  have listed : (Organization.ofExecutors executors voting).isExecutor caller = true ↔
      caller ∈ executors := Organization.isExecutor_ofExecutors executors voting caller
  refine ⟨fun call => ?_, fun proposal p held owner => ?_⟩
  · exact Answer.of_check (applyAs_eq stored caller call) (now.attempts_dispatch id call) nofun
      listed
  · have vetoed := vetoProposal_eq held (owner ▸ stored) caller
    have lost := Answer.of_check (P := caller ∈ executors)
      (Q := fun answer => ∃ last, answer = (.ok (), last) ∧ now.Loses last proposal) vetoed
    exact lost ⟨_, rfl, loses_remove held⟩ (by rintro ⟨_, ⟨⟩, _⟩) listed

/-- An organization is founded with two executors, one of them given twice, and another organization
and a proposal follow. Both executors may act, and the executor of none may not. -/
theorem twoOrganizations_executors_act :
    let founding : Operation :=
      .createOrganization ["bob", "anna", "bob"] (.coin ⟨10, ⟨1, 50, 33⟩, .simple⟩)
    let now := ((empty .genesis .standard).perform founding).2.run twoOrganizations.tail
    let id := Identifier.organization 1
    let proposal := Identifier.proposal id [1, 2, 3] 0
    (now.registry.proposals.find? proposal).map Proposal.organization = some id ∧
      now.Attempts id [9] (now.applyAs "bob" id [9]) ∧
      (∃ last, now.vetoProposal "anna" proposal = (.ok (), last) ∧ now.Loses last proposal) ∧
      now.applyAs "carl" id [9] = (.error (.unauthorized "carl"), now) ∧
      now.vetoProposal "carl" proposal = (.error (.unauthorized "carl"), now) := by
  intro founding now id proposal
  have answered : ((empty .genesis .standard).perform founding).1 = .ok (.identifier id) := by
    decide +kernel
  obtain ⟨numbered, opened⟩ : now.registry.organizationsCreated = 2 ∧
      (now.registry.proposals.find? proposal).map Proposal.organization = some id := by
    decide +kernel
  have distinct : Identifier.OrganizationsDistinct now.registry.organizationsCreated := by
    rw [numbered]
    exact organizationsDistinct_two
  have registered : (empty .genesis .standard).perform founding =
      (.ok (.identifier id), ((empty .genesis .standard).perform founding).2) :=
    Prod.ext answered rfl
  have acts := executors_alone_act (.given _ _) registered twoOrganizations.tail distinct
  obtain ⟨p, held, owner⟩ := Option.map_eq_some_iff.mp opened
  obtain ⟨-, vetoes⟩ := acts "anna"
  obtain ⟨applies, -⟩ := acts "bob"
  obtain ⟨refusedCall, refusedVeto⟩ := acts "carl"
  exact ⟨opened, (applies [9]).1.mpr (by decide), (vetoes proposal p held owner).1.mpr (by decide),
    (refusedCall [9]).2 (by decide), (refusedVeto proposal p held owner).2 (by decide)⟩

end OrgGovernance.Council
