import OrgGovernance.Proofs.History

/-!
# Operations on different proposals

An operation that decides on a proposal, closes it or drops it reads the council
from one identifier: the proposal stored there, the organizations, the chain up
to its recorded calls, and the limits. It writes what is stored under that
identifier, and when it closes the proposal the chain records its call. Two such
operations on different proposals can therefore change places.
-/

namespace OrgGovernance

/-- The chain with calls recorded behind the earlier ones. -/
def Chain.logAll (c : Chain) (calls : List DispatchedCall) : Chain :=
  { c with dispatched := c.dispatched ++ calls }

/-- Without calls nothing is recorded. -/
theorem Chain.logAll_nil (c : Chain) : c.logAll [] = c := by
  simp only [logAll, List.append_nil]

/-- Calls recorded in two steps are recorded in one. -/
theorem Chain.logAll_logAll (c : Chain) (calls later : List DispatchedCall) :
    (c.logAll calls).logAll later = c.logAll (calls ++ later) := by
  simp only [logAll, List.append_assoc]

/-- The proposal that an operation decides on, closes or drops. -/
def Operation.target? : Operation → Option String
  | .removeProposal id => some id
  | .submitDecision id _ _ => some id
  | .tryClose id _ _ => some id
  | .close id => some id
  | .vetoProposal _ id => some id
  | _ => none

namespace Council

/-- The calls that the chain records for a reply about the proposal under an identifier: that of
the proposal, if the reply says that it is closed. -/
def callsFor (c : Council) (id : String) : Except Refusal Reply → List DispatchedCall
  | .ok (.outcome (.closed _)) =>
    ((c.registry.proposals.find? id).map fun p =>
      ⟨p.organization, p.call, c.chain.height⟩).toList
  | _ => []

/-- The council with something or nothing stored under an identifier, and with the calls recorded
for a reply. -/
def settle (c : Council) (id : String) (reply : Except Refusal Reply) (kept : Option Proposal) :
    Council :=
  { c with
    registry := { c.registry with proposals := c.registry.proposals.assign id kept }
    chain := c.chain.logAll (c.callsFor id reply) }

/-- The councils look the same to an operation on the proposal under an identifier. -/
structure Resembles (c d : Council) (id : String) : Prop where
  /-- The same proposal is stored under the identifier, or none in both. -/
  slot : d.registry.proposals.find? id = c.registry.proposals.find? id
  /-- The organizations are the same. -/
  organizations : d.registry.organizations = c.registry.organizations
  /-- The height is the same. -/
  height : d.chain.height = c.chain.height
  /-- The supplies are the same. -/
  issuance : d.chain.issuance = c.chain.issuance
  /-- Both chains accept calls, or both reject them. -/
  failDispatches : d.chain.failDispatches = c.chain.failDispatches
  /-- The limits are the same. -/
  limits : d.limits = c.limits

/-- The councils differ at most in the proposal under an identifier and in the calls that the chain
has recorded. -/
structure DiffersAt (before after : Council) (id : String) : Prop where
  /-- All other proposals are stored as before. -/
  proposals : ∀ other, other ≠ id →
    after.registry.proposals.find? other = before.registry.proposals.find? other
  /-- The organizations are those of before. -/
  organizations : after.registry.organizations = before.registry.organizations
  /-- As many organizations are numbered as before. -/
  organizationsCreated :
    after.registry.organizationsCreated = before.registry.organizationsCreated
  /-- The next proposal has the number it had before. -/
  nextNonce : after.registry.nextNonce = before.registry.nextNonce
  /-- The height is that of before. -/
  height : after.chain.height = before.chain.height
  /-- The supplies are those of before. -/
  issuance : after.chain.issuance = before.chain.issuance
  /-- The chain accepts or rejects calls as before. -/
  failDispatches : after.chain.failDispatches = before.chain.failDispatches
  /-- The limits are those of before. -/
  limits : after.limits = before.limits

variable {c d : Council} {id : String}

/-- A council resembles itself. -/
theorem Resembles.refl (c : Council) (id : String) : c.Resembles c id :=
  ⟨rfl, rfl, rfl, rfl, rfl, rfl⟩

/-- What differs at one identifier looks the same from any other. -/
theorem DiffersAt.resembles {other : String} (h : c.DiffersAt d id) (apart : other ≠ id) :
    c.Resembles d other :=
  ⟨h.proposals other apart, h.organizations, h.height, h.issuance, h.failDispatches, h.limits⟩

/-- Settling a proposal changes nothing else but the recorded calls. -/
theorem differsAt_settle (c : Council) (id : String) (reply : Except Refusal Reply)
    (kept : Option Proposal) : c.DiffersAt (c.settle id reply kept) id where
  proposals _ apart := (OrderedMap.find?_assign _ _ _ _).trans (if_neg apart)
  organizations := rfl
  organizationsCreated := rfl
  nextNonce := rfl
  height := rfl
  issuance := rfl
  failDispatches := rfl
  limits := rfl

/-- Councils that look the same record the same calls. -/
theorem Resembles.callsFor (h : c.Resembles d id) (reply : Except Refusal Reply) :
    d.callsFor id reply = c.callsFor id reply := by
  unfold Council.callsFor
  rw [h.slot, h.height]

/-- Settling different proposals leads to one registry, and the calls are recorded in turn. -/
theorem settle_settle {other : String} (apart : id ≠ other) (reply reply' : Except Refusal Reply)
    (kept kept' : Option Proposal) :
    (c.settle id reply kept).settle other reply' kept' =
      { c with
        registry :=
          { c.registry with
            proposals := (c.registry.proposals.assign id kept).assign other kept' }
        chain := c.chain.logAll (c.callsFor id reply ++ c.callsFor other reply') } := by
  have calls := ((c.differsAt_settle id reply kept).resembles apart.symm).callsFor reply'
  rw [settle, calls]
  simp only [settle, Chain.logAll_logAll]

/-- An operation does the same in every council that looks the same: it gives this reply, stores
this under the identifier and has the calls for the reply recorded. -/
def Acts (c : Council) (operation : Operation) (id : String) (reply : Except Refusal Reply)
    (kept : Option Proposal) : Prop :=
  ∀ d, c.Resembles d id → d.perform operation = (reply, d.settle id reply kept)

/-- An operation that leaves the council whenever it looks the same stores what was stored. -/
theorem acts_idle {operation : Operation} {reply : Except Refusal Reply}
    (silent : ∀ d : Council, d.callsFor id reply = [])
    (idle : ∀ d, c.Resembles d id → d.perform operation = (reply, d)) :
    c.Acts operation id reply (c.registry.proposals.find? id) := by
  intro d h
  rw [idle d h, settle, ← h.slot, OrderedMap.assign_find?, silent, Chain.logAll_nil]

/-- An operation that is refused alike whenever the council looks the same, and changes nothing. -/
theorem acts_refused {operation : Operation} (refusal : Refusal)
    (refuses : ∀ d, c.Resembles d id → d.perform operation = (.error refusal, d)) :
    ∃ reply kept, c.Acts operation id reply kept :=
  ⟨.error refusal, _, acts_idle (fun _ => rfl) refuses⟩

/-- An operation that stores a proposal under the identifier and closes none. -/
theorem acts_put {operation : Operation} {reply : Except Refusal Reply} {p : Proposal}
    (silent : ∀ d : Council, d.callsFor id reply = []) (named : p.id = id)
    (puts : ∀ d, c.Resembles d id →
      d.perform operation = (reply, { d with registry := d.registry.put p })) :
    c.Acts operation id reply (some p) := by
  intro d h
  rw [puts d h, settle, silent, Chain.logAll_nil, Registry.put, named]
  rfl

/-- An operation that removes the proposal under the identifier without a call. -/
theorem acts_remove {operation : Operation} {reply : Except Refusal Reply}
    (silent : ∀ d : Council, d.callsFor id reply = [])
    (removes : ∀ d, c.Resembles d id →
      d.perform operation = (reply, { d with registry := d.registry.remove id })) :
    c.Acts operation id reply none := by
  intro d h
  rw [removes d h, settle, silent, Chain.logAll_nil]
  rfl

namespace Resembles

/-- The same proposal is answered. -/
theorem proposal (h : c.Resembles d id) : d.proposal id = c.proposal id := by
  unfold Council.proposal Registry.proposal
  rw [h.slot]

/-- The same standing is answered. -/
theorem evaluate (h : c.Resembles d id) (now : Height) (supply : Balance) :
    d.evaluate id now supply = c.evaluate id now supply := by
  unfold Council.evaluate
  rw [h.proposal]

/-- The same organizations are answered, to the same callers. -/
theorem executorsOrganization (h : c.Resembles d id) (caller owner : String) :
    d.executorsOrganization caller owner = c.executorsOrganization caller owner := by
  unfold Council.executorsOrganization organization Registry.organization
  rw [h.organizations]

/-- The same voters are turned away. -/
theorem checkVoters (h : c.Resembles d id) (tally : Tally) (voter : String) :
    d.checkVoters tally voter = c.checkVoters tally voter := by
  unfold Council.checkVoters
  rw [h.limits]

end Resembles

/-- Removing a proposal acts on it alone. -/
theorem acts_removeProposal (c : Council) (id : String) :
    ∃ reply kept, c.Acts (.removeProposal id) id reply kept := by
  cases held : c.registry.proposals.find? id with
  | none =>
    refine acts_refused (.proposalNotFound id) fun d h => ?_
    exact answer_of_eq (removeProposal_missing (h.slot.trans held))
  | some p =>
    refine ⟨.ok (.proposal p), none, acts_remove (fun _ => rfl) fun d h => ?_⟩
    exact answer_of_eq (removeProposal_held (h.slot.trans held))

/-- The proposal under an identifier with a decision of a voter recorded on it. -/
def decidedProposal (c : Council) (id voter : String) (decision : Decision) :
    Except Refusal Proposal := do
  let p ← c.proposal id
  let tally ← p.routedTally
  tally.checkPhase decision p.createdOn c.chain.height
  c.checkVoters tally voter
  let outcome := tally.record voter decision
  outcome.1
  return { p with tally := outcome.2 }

/-- A decision is submitted by storing the proposal on which it is recorded. -/
theorem submitDecision_eq (c : Council) (id voter : String) (decision : Decision) :
    c.submitDecision id voter decision =
      (liftM (c.decidedProposal id voter decision) >>= fun p =>
        onRegistry (modify fun r => r.put p) : Action Unit) c := by
  simp only [submitDecision, decidedProposal, Step.get_bind, Step.check_bind_bind]
  rfl

/-- A decision is recorded on the same proposal. -/
theorem Resembles.decidedProposal (h : c.Resembles d id) (voter : String) (decision : Decision) :
    d.decidedProposal id voter decision = c.decidedProposal id voter decision := by
  simp only [Council.decidedProposal, h.proposal, h.height, h.checkVoters]

/-- A proposal on which a decision is recorded keeps its identifier. -/
theorem yields_decidedProposal (keyed : c.Keyed) (id voter : String) (decision : Decision) :
    Yields (c.decidedProposal id voter decision) fun p => p.id = id := by
  refine (c.registry.yields_proposal id).bind fun p held => ?_
  refine p.yields_routedTally.bind fun tally _ => ?_
  refine (tally.yields_checkPhase decision p.createdOn c.chain.height).bind fun _ _ => ?_
  refine (c.yields_checkVoters tally voter).bind fun _ _ => ?_
  refine (tally.allOrNothing_record voter decision).yields.bind fun _ _ => ?_
  exact keyed id p held

/-- A decision acts on its proposal alone. -/
theorem acts_submitDecision (keyed : c.Keyed) (id voter : String) (decision : Decision) :
    ∃ reply kept, c.Acts (.submitDecision id voter decision) id reply kept := by
  cases decided : c.decidedProposal id voter decision with
  | error refusal =>
    refine acts_refused refusal fun d h => ?_
    have refused : d.submitDecision id voter decision = (.error refusal, d) := by
      rw [submitDecision_eq, h.decidedProposal, decided, Step.check_error_bind]
    exact answer_of_eq refused
  | ok p =>
    have named := (yields_decidedProposal keyed id voter decision).of_eq_ok decided
    refine ⟨.ok .done, some p, acts_put (fun _ => rfl) named fun d h => ?_⟩
    have taken : d.submitDecision id voter decision =
        (.ok (), { d with registry := d.registry.put p }) := by
      rw [submitDecision_eq, h.decidedProposal, decided, Step.check_ok_bind]
      rfl
    exact answer_of_eq taken

/-- A veto acts on its proposal alone. -/
theorem acts_vetoProposal (c : Council) (caller id : String) :
    ∃ reply kept, c.Acts (.vetoProposal caller id) id reply kept := by
  cases held : c.registry.proposals.find? id with
  | none =>
    refine acts_refused (.proposalNotFound id) fun d h => ?_
    have refused : d.vetoProposal caller id = (.error (.proposalNotFound id), d) := by
      rw [vetoProposal, Step.get_bind, proposal_missing (h.slot.trans held), Step.check_error_bind]
    exact answer_of_eq refused
  | some p =>
    cases owner : c.executorsOrganization caller p.organization with
    | error refusal =>
      refine acts_refused refusal fun d h => ?_
      have refused : d.vetoProposal caller id = (.error refusal, d) := by
        rw [vetoProposal, Step.get_bind, proposal_held (h.slot.trans held), Step.check_ok_bind,
          h.executorsOrganization, owner, Step.check_error_bind]
      exact answer_of_eq refused
    | ok details =>
      refine ⟨.ok .done, none, acts_remove (fun _ => rfl) fun d h => ?_⟩
      have stored := h.slot.trans held
      have vetoed : d.vetoProposal caller id =
          (.ok (), { d with registry := d.registry.remove id }) := by
        rw [vetoProposal, Step.get_bind, proposal_held stored, Step.check_ok_bind,
          h.executorsOrganization, owner, Step.check_ok_bind]
        exact Step.bind_of_ok (removeProposal_held stored) _
      exact answer_of_eq vetoed

/-- Closing a proposal acts on it alone. -/
theorem acts_tryClose (c : Council) (id : String) (now : Height) (supply : Balance) :
    ∃ reply kept, c.Acts (.tryClose id now supply) id reply kept := by
  cases evaluated : c.evaluate id now supply with
  | error refusal =>
    refine acts_refused refusal fun d h => ?_
    exact answer_of_eq (tryClose_refused ((h.evaluate now supply).trans evaluated))
  | ok standing =>
    obtain ⟨p, held, _, _⟩ := (c.yields_evaluate id now supply).of_eq_ok evaluated
    cases due : standing.closeReason? with
    | none =>
      refine ⟨.ok (.outcome .notYetClosable), _, acts_idle (fun _ => rfl) fun d h => ?_⟩
      exact answer_of_eq (tryClose_early ((h.evaluate now supply).trans evaluated) due)
    | some reason =>
      have closes : ∀ d, c.Resembles d id → _ := fun d h =>
        tryClose_due (h.slot.trans held) ((h.evaluate now supply).trans evaluated) due
      cases failing : c.chain.failDispatches with
      | true =>
        refine ⟨.error (.dispatchFailed p.organization p.call.length (some reason)), none,
          acts_remove (fun _ => rfl) fun d h => ?_⟩
        simp only [perform, answer, closes d h, h.failDispatches, failing, if_true]
        rfl
      | false =>
        refine ⟨.ok (.outcome (.closed reason)), none, fun d h => ?_⟩
        simp only [perform, answer, closes d h, h.failDispatches, failing, Bool.false_eq_true,
          if_false, settle, Council.callsFor, h.slot, held]
        rfl

/-- Closing a proposal at the current height acts on it alone. -/
theorem acts_close (c : Council) (id : String) :
    ∃ reply kept, c.Acts (.close id) id reply kept := by
  cases held : c.registry.proposals.find? id with
  | none =>
    refine acts_refused (.proposalNotFound id) fun d h => ?_
    exact answer_of_eq (close_missing (h.slot.trans held))
  | some p =>
    obtain ⟨reply, kept, acts⟩ :=
      c.acts_tryClose id c.chain.height (c.chain.supplyOf p.tally.currency)
    refine ⟨reply, kept, fun d h => ?_⟩
    have supply : d.chain.supplyOf p.tally.currency = c.chain.supplyOf p.tally.currency := by
      simp only [Chain.supplyOf, h.issuance]
    rw [← acts d h]
    simp only [perform, answer, close_held (h.slot.trans held), h.height, supply]

/-- An operation on a proposal acts on it alone. -/
theorem exists_acts (keyed : c.Keyed) {operation : Operation}
    (aims : operation.target? = some id) :
    ∃ reply kept, c.Acts operation id reply kept := by
  cases operation with
  | removeProposal target =>
    obtain rfl := Option.some.inj aims
    exact c.acts_removeProposal target
  | submitDecision target voter decision =>
    obtain rfl := Option.some.inj aims
    exact acts_submitDecision keyed target voter decision
  | tryClose target now supply =>
    obtain rfl := Option.some.inj aims
    exact c.acts_tryClose target now supply
  | close target =>
    obtain rfl := Option.some.inj aims
    exact c.acts_close target
  | vetoProposal caller target =>
    obtain rfl := Option.some.inj aims
    exact c.acts_vetoProposal caller target
  | _ => cases aims

/-- In any council that stores every proposal under its own identifier, two operations that decide
on, close or drop different proposals can change places. Either is replied to as it is alone, and
the registry comes out the same. The chain records the calls of the proposals that are closed in
the order of the operations, and nothing else happens to it. Neither operation changes anything but
its own proposal and the recorded calls. -/
theorem operations_commute (keyed : c.Keyed) {first second : Operation} {other : String}
    (aims : first.target? = some id) (aims' : second.target? = some other) (apart : id ≠ other) :
    let calls := c.callsFor id (c.perform first).1
    let calls' := c.callsFor other (c.perform second).1
    ((c.perform first).2.perform second).1 = (c.perform second).1 ∧
      ((c.perform second).2.perform first).1 = (c.perform first).1 ∧
      ((c.perform first).2.perform second).2.registry =
        ((c.perform second).2.perform first).2.registry ∧
      ((c.perform first).2.perform second).2.chain = c.chain.logAll (calls ++ calls') ∧
      ((c.perform second).2.perform first).2.chain = c.chain.logAll (calls' ++ calls) ∧
      c.DiffersAt (c.perform first).2 id ∧ c.DiffersAt (c.perform second).2 other := by
  obtain ⟨reply, kept, acts⟩ := exists_acts keyed aims
  obtain ⟨reply', kept', acts'⟩ := exists_acts keyed aims'
  have differs := c.differsAt_settle id reply kept
  have differs' := c.differsAt_settle other reply' kept'
  rw [acts c (.refl c id), acts' c (.refl c other), acts' _ (differs.resembles apart.symm),
    acts _ (differs'.resembles apart), settle_settle apart, settle_settle apart.symm,
    OrderedMap.assign_comm _ apart]
  exact ⟨rfl, rfl, rfl, rfl, rfl, differs, differs'⟩

/-- A council at height twenty with two proposals whose voting has ended. -/
def twoDue : Council where
  registry :=
    { Registry.empty with
      proposals := .ofList
        [("a", ⟨"a", "o", [1], .coin, 0, .coin (.fresh ⟨10, ⟨1, 50, 33⟩, .simple⟩)⟩),
          ("b", ⟨"b", "o", [2], .sealed, 0, .sealed (.fresh ⟨5, 5, ⟨1, 50, 33⟩⟩)⟩)] }
  chain := { Chain.genesis with height := 20 }
  limits := .standard

/-- Both proposals are stored under their own identifiers. -/
theorem keyed_twoDue : twoDue.Keyed := by
  intro id p held
  have named : ∀ e ∈ twoDue.registry.proposals.entries, e.2.id = e.1 := by decide +kernel
  exact named _ (OrderedMap.mem_entries_iff.mpr held)

/-- The two proposals are closed in either order, and the chain records their calls in that
order. -/
theorem two_closings_commute :
    let afterFirst := (twoDue.perform (.close "a")).2
    let afterSecond := (twoDue.perform (.close "b")).2
    twoDue.Keyed ∧ (afterFirst.perform (.close "b")).1 = .ok (.outcome (.closed .expired)) ∧
      (afterSecond.perform (.close "a")).1 = .ok (.outcome (.closed .expired)) ∧
      (afterFirst.perform (.close "b")).2.registry =
        (afterSecond.perform (.close "a")).2.registry ∧
      (afterFirst.perform (.close "b")).2.chain =
        twoDue.chain.logAll [⟨"o", [1], 20⟩, ⟨"o", [2], 20⟩] ∧
      (afterSecond.perform (.close "a")).2.chain =
        twoDue.chain.logAll [⟨"o", [2], 20⟩, ⟨"o", [1], 20⟩] ∧
      twoDue.DiffersAt afterFirst "a" ∧ twoDue.DiffersAt afterSecond "b" := by
  have first : (twoDue.perform (.close "a")).1 = .ok (.outcome (.closed .expired)) := by
    decide +kernel
  have second : (twoDue.perform (.close "b")).1 = .ok (.outcome (.closed .expired)) := by
    decide +kernel
  have calls : twoDue.callsFor "a" (.ok (.outcome (.closed .expired))) = [⟨"o", [1], 20⟩] := by
    decide +kernel
  have calls' : twoDue.callsFor "b" (.ok (.outcome (.closed .expired))) = [⟨"o", [2], 20⟩] := by
    decide +kernel
  have aims : (Operation.close "a").target? = some "a" := rfl
  have aims' : (Operation.close "b").target? = some "b" := rfl
  have commute := operations_commute keyed_twoDue aims aims' (by decide)
  simp only [first, second, calls, calls'] at commute
  exact ⟨keyed_twoDue, commute⟩

end Council

end OrgGovernance
