import OrgGovernance.Registry

/-!
# The council: the life of a proposal

The council holds the registry, the chain and the limits, and carries out every
operation of governance. Each operation is a step: it answers a result or a
refusal, and the council is left as the operation has changed it by then. A
proposal whose identifier is taken has already drawn its number, and a proposal
that closes is taken out before the chain is handed its call.

Height, token supply and the execution of calls belong to the chain. This chain
records the calls it is given, or rejects every one of them when so set.

Everything that can be asked of a council and its chain is an operation, so that
a run is a list of operations and its history the list of their replies. Between
runs of the program a node keeps the registry and the chain. The limits belong
to its settings and are configured anew every time.
-/

namespace OrgGovernance

/-- A call as the chain recorded it. -/
structure DispatchedCall where
  /-- The organization on whose behalf the call was made. -/
  origin : String
  /-- The encoded call. -/
  call : Bytes
  /-- The height of the chain at the time. -/
  height : Height
  deriving DecidableEq, Repr

/-- Why the chain rejects a call. -/
structure Rejection where
  /-- The number of bytes of the call. -/
  callLength : Nat
  deriving DecidableEq, Repr

/-- The state of the chain. -/
structure Chain where
  /-- The current height. -/
  height : Height
  /-- The supply of every currency that was ever minted. -/
  issuance : OrderedMap Currency Balance
  /-- The recorded calls, oldest first. -/
  dispatched : List DispatchedCall
  /-- Whether every call is rejected. -/
  failDispatches : Bool
  deriving DecidableEq

namespace Chain

/-- A chain at height zero without supply and calls. -/
def genesis : Chain := ⟨0, .empty, [], false⟩

/-- The chain at genesis with the supply of one currency. -/
def withSupply (currency : Currency) (supply : Balance) : Chain :=
  { genesis with issuance := OrderedMap.empty.insert currency supply }

/-- The supply of a currency. -/
def supplyOf (c : Chain) (currency : Currency) : Balance := (c.issuance.find? currency).getD 0

/-- The chain a number of blocks later. -/
def advance (c : Chain) (blocks : Height) : Chain :=
  { c with height := c.height.addClipped blocks }

/-- The chain with the supply of a currency increased. -/
def mint (c : Chain) (currency : Currency) (amount : Balance) : Chain :=
  { c with
    issuance := c.issuance.insert currency ((c.supplyOf currency).addClipped amount) }

/-- Records a call at the current height, or rejects it. -/
def dispatch (origin : String) (call : Bytes) : Step Rejection Chain Unit := do
  if (← get).failDispatches then throw ⟨call.length⟩
  else modify fun c => { c with dispatched := c.dispatched ++ [⟨origin, call, c.height⟩] }

end Chain

/-- The standing of a proposal at a height and against a supply. -/
structure Evaluation where
  /-- Whether the tally passes. -/
  passing : Bool
  /-- Whether the voting window has ended. -/
  expired : Bool
  deriving DecidableEq, Repr

/-- What an attempt to close a proposal came to. -/
inductive CloseOutcome
  /-- The proposal is closed and its call dispatched. -/
  | closed (reason : CloseReason)
  /-- The proposal neither passes nor is expired. -/
  | notYetClosable
  deriving DecidableEq, Repr

/-- The reason for which a proposal of this standing closes; passing comes first. -/
def Evaluation.closeReason? (e : Evaluation) : Option CloseReason :=
  if e.passing then some .passed else if e.expired then some .expired else none

/-- The registry, the chain and the limits. -/
structure Council where
  /-- Organizations and proposals. -/
  registry : Registry
  /-- The host chain. -/
  chain : Chain
  /-- The bounds in force. -/
  limits : Limits
  deriving DecidableEq

namespace Council

/-- The answer of an operation and the council afterwards. -/
abbrev Answer (α : Type) := Except Refusal α × Council

/-- A step of a council. -/
abbrev Action (α : Type) := Step Refusal Council α

/-- Carries out a step on the registry. -/
def onRegistry {α : Type} (step : Step Refusal Registry α) : Action α :=
  Step.within registry (fun c registry => { c with registry }) step

/-- Hands a call of an organization to the chain. A rejection is reported with the reason for
which a proposal was closed before, if one was. -/
def dispatch (organization : String) (call : Bytes) (closed : Option CloseReason) : Action Unit :=
  Step.within chain (fun c chain => { c with chain }) <|
    (Chain.dispatch organization call).adapt fun rejection =>
      .dispatchFailed organization rejection.callLength closed

/-- Registers an organization bound to a voting system. -/
def createOrganization (executors : List String) (voting : VotingSystem) : Action String := do
  let limits := (← get).limits
  onRegistry (Registry.register limits executors voting)

/-- Registers an organization bound to a voting system requested in text. -/
def createOrganizationFrom (executors : List String) (request : SystemRequest) :
    Action String := do
  let voting ← request.grant.mapError Refusal.invalidVotingSystem
  createOrganization executors voting

/-- The details of an organization. -/
def organization (c : Council) (id : String) : Except Refusal Organization :=
  c.registry.organization id

/-- The organization, when the caller is one of its executors. -/
def executorsOrganization (c : Council) (caller id : String) : Except Refusal Organization := do
  let details ← c.organization id
  if details.isExecutor caller then return details else throw (.unauthorized caller)

/-- Lets an executor dispatch a call without a vote. -/
def applyAs (caller id : String) (call : Bytes) : Action Unit := do
  let _ ← (← get).executorsOrganization caller id
  dispatch id call none

/-- Opens a proposal of an organization at the current height. -/
def createProposal (id : String) (call : Bytes) : Action String := do
  let c ← get
  let details ← c.organization id
  let number ← onRegistry Registry.takeNonce
  let p := Proposal.opened id call details.voting c.chain.height number
  if (← get).registry.proposals.contains p.id then throw (.duplicatedProposal p.id)
  else
    onRegistry (modify fun r => r.put p)
    return p.id

/-- The proposal under an identifier. -/
def proposal (c : Council) (id : String) : Except Refusal Proposal := c.registry.proposal id

/-- The open proposals of an organization, in the order of their identifiers. -/
def proposalsOf (c : Council) (id : String) : Except Refusal (List Proposal) := do
  let _ ← c.organization id
  return c.registry.proposalsOf id

/-- Removes a proposal and answers it. -/
def removeProposal (id : String) : Action Proposal := do
  match ← onRegistry (Registry.take? id) with
  | some p => return p
  | none => throw (.proposalNotFound id)

/-- Refuses a voter the proposal does not know when it has as many voters as allowed. -/
def checkVoters (c : Council) (tally : Tally) (voter : String) : Except Refusal Unit :=
  if !tally.hasVoter voter && tally.voterCount ≥ c.limits.maxVoters.toNat then
    .error (.tooManyVoters c.limits.maxVoters.toNat)
  else .ok ()

/-- Records a decision of a voter at the current height. The tally records it on a copy of the
proposal, which is stored when nothing has refused it. -/
def submitDecision (id voter : String) (decision : Decision) : Action Unit := do
  let c ← get
  let p ← c.proposal id
  let tally ← p.routedTally
  tally.checkPhase decision p.createdOn c.chain.height
  c.checkVoters tally voter
  let outcome := tally.record voter decision
  outcome.1
  onRegistry (modify fun r => r.put { p with tally := outcome.2 })

/-- The standing of a proposal at a height and against a supply. -/
def evaluate (c : Council) (id : String) (now : Height) (supply : Balance) :
    Except Refusal Evaluation := do
  let p ← c.proposal id
  let tally ← p.routedTally
  return ⟨tally.isPassing supply, tally.isExpired p.createdOn now⟩

/-- Closes a proposal that passes or is expired at a height and against a supply. It is removed
before its call is handed to the chain, and stays removed when the chain rejects the call. -/
def tryClose (id : String) (now : Height) (supply : Balance) : Action CloseOutcome := do
  let standing ← (← get).evaluate id now supply
  match standing.closeReason? with
  | none => return .notYetClosable
  | some reason =>
    let p ← removeProposal id
    dispatch p.organization p.call (some reason)
    return .closed reason

/-- Closes a proposal at the current height against the supply of its currency. -/
def close (id : String) : Action CloseOutcome := do
  let c ← get
  let p ← c.proposal id
  tryClose id c.chain.height (c.chain.supplyOf p.tally.currency)

/-- Lets an executor of its organization drop a proposal without a dispatch. -/
def vetoProposal (caller id : String) : Action Unit := do
  let c ← get
  let p ← c.proposal id
  let _ ← c.executorsOrganization caller p.organization
  let _ ← removeProposal id

end Council

/-- What can be asked of a council and its chain. -/
inductive Operation
  /-- Registers an organization. -/
  | createOrganization (executors : List String) (voting : VotingSystem)
  /-- Registers an organization whose voting system is requested in text. -/
  | createOrganizationFrom (executors : List String) (request : SystemRequest)
  /-- Lets an executor dispatch a call. -/
  | applyAs (caller organization : String) (call : Bytes)
  /-- Opens a proposal. -/
  | createProposal (organization : String) (call : Bytes)
  /-- Removes a proposal. -/
  | removeProposal (id : String)
  /-- Records a decision. -/
  | submitDecision (id voter : String) (decision : Decision)
  /-- Asks for the standing of a proposal. -/
  | evaluate (id : String) (now : Height) (supply : Balance)
  /-- Closes a proposal at a height and against a supply. -/
  | tryClose (id : String) (now : Height) (supply : Balance)
  /-- Closes a proposal at the current height. -/
  | close (id : String)
  /-- Lets an executor drop a proposal. -/
  | vetoProposal (caller id : String)
  /-- Moves the chain forward. -/
  | advance (blocks : Height)
  /-- Increases a supply. -/
  | mint (currency : Currency) (amount : Balance)
  /-- Sets whether the chain rejects calls. -/
  | setFailing (failing : Bool)

/-- What an operation that succeeds answers. -/
inductive Reply
  /-- There is nothing to answer. -/
  | done
  /-- The identifier of a new organization or proposal. -/
  | identifier (id : String)
  /-- A removed proposal. -/
  | proposal (p : Proposal)
  /-- The standing of a proposal. -/
  | standing (evaluation : Evaluation)
  /-- The outcome of closing. -/
  | outcome (outcome : CloseOutcome)
  /-- The new height. -/
  | height (height : Height)
  /-- The new supply. -/
  | supply (supply : Balance)
  deriving DecidableEq

namespace Council

/-- The answer of a step on a council, with its value as a reply. -/
def answer {α : Type} (c : Council) (step : Action α) (form : α → Reply) : Answer Reply :=
  let outcome := step c
  (outcome.1.map form, outcome.2)

/-- Carries out an operation. -/
def perform (c : Council) : Operation → Answer Reply
  | .createOrganization executors voting =>
    c.answer (createOrganization executors voting) .identifier
  | .createOrganizationFrom executors request =>
    c.answer (createOrganizationFrom executors request) .identifier
  | .applyAs caller organization call =>
    c.answer (applyAs caller organization call) fun _ => .done
  | .createProposal organization call => c.answer (createProposal organization call) .identifier
  | .removeProposal id => c.answer (removeProposal id) .proposal
  | .submitDecision id voter decision =>
    c.answer (submitDecision id voter decision) fun _ => .done
  | .evaluate id now supply => ((c.evaluate id now supply).map .standing, c)
  | .tryClose id now supply => c.answer (tryClose id now supply) .outcome
  | .close id => c.answer (close id) .outcome
  | .vetoProposal caller id => c.answer (vetoProposal caller id) fun _ => .done
  | .advance blocks =>
    let chain := c.chain.advance blocks
    (.ok (.height chain.height), { c with chain })
  | .mint currency amount =>
    let chain := c.chain.mint currency amount
    (.ok (.supply (chain.supplyOf currency)), { c with chain })
  | .setFailing failing =>
    (.ok .done, { c with chain := { c.chain with failDispatches := failing } })

/-- The council after a run of operations. -/
def run (c : Council) (operations : List Operation) : Council :=
  operations.foldl (fun c operation => (c.perform operation).2) c

end Council

/-- The registry and the chain of a node. -/
structure NodeState where
  /-- Organizations and proposals. -/
  registry : Registry
  /-- The local chain. -/
  chain : Chain
  deriving DecidableEq

namespace NodeState

/-- The state of a node that has never run. -/
def fresh : NodeState := ⟨.empty, .genesis⟩

/-- The council over a state under limits. -/
def council (s : NodeState) (limits : Limits) : Council := ⟨s.registry, s.chain, limits⟩

end NodeState

/-- What is kept of a council. -/
def Council.state (c : Council) : NodeState := ⟨c.registry, c.chain⟩

/-- The limits in force and the file of the state. -/
structure Settings where
  /-- The limits in force. -/
  limits : Limits
  /-- The path of the state file. -/
  stateFile : String
  deriving DecidableEq, Repr

/-- The settings in force when none are given. -/
def Settings.standard : Settings := ⟨.standard, "dorg-state.json"⟩

end OrgGovernance
