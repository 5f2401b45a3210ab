import OrgGovernance.Tally

/-!
# The registry of organizations and proposals

An organization has executors, who may act for it and veto its proposals, and
the voting system of all its proposals. Neither ever changes. The executors are
kept in increasing order without repetition, and membership is decided by
halving. A proposal is a pending call of an organization with the tally of its
votes. It is tagged with the voting system its tally belongs to.

Organizations and open proposals are stored under their identifiers, beside the
counters from which identifiers are derived.
-/

namespace OrgGovernance

namespace Roster

/-- The accounts of a list in increasing order, each once. -/
def ofList (accounts : List String) : List String :=
  (OrderedMap.ofList (accounts.map fun account => (account, ()))).keys

/-- Whether an account is found by halving: while several accounts are left, the
upper half is kept unless it begins above the one looked for. -/
def holds (roster : List String) (account : String) : Bool :=
  match roster with
  | [] => false
  | [only] => only = account
  | first :: second :: rest =>
    let all := first :: second :: rest
    let half := all.length / 2
    if (all[half]?).any fun middle => compare middle account = .gt then
      holds (all.take (all.length - half)) account
    else holds (all.drop half) account
termination_by roster.length
decreasing_by
  · simp only [List.length_take, List.length_cons]
    omega
  · simp only [List.length_drop, List.length_cons]
    omega

end Roster

/-- The bounds that a host puts on organizations and proposals. -/
structure Limits where
  /-- The most executors of an organization. -/
  maxExecutors : Word 64
  /-- The most voters of a proposal. -/
  maxVoters : Word 64
  deriving DecidableEq, Repr

/-- The bounds in force when none are configured. -/
def Limits.standard : Limits := ⟨100, 1024⟩

/-- The details of a registered organization. -/
structure Organization where
  /-- The accounts that may act for the organization. -/
  executors : List String
  /-- The voting system of every proposal. -/
  voting : VotingSystem
  deriving DecidableEq

namespace Organization

/-- The organization of a list of executors in any order. -/
def ofExecutors (executors : List String) (voting : VotingSystem) : Organization :=
  ⟨Roster.ofList executors, voting⟩

/-- Whether an account may act for the organization. -/
def isExecutor (o : Organization) (account : String) : Bool := Roster.holds o.executors account

end Organization

/-- Refuses an organization with more executors than allowed. -/
def Limits.checkExecutors (limits : Limits) (o : Organization) : Except Refusal Unit :=
  if o.executors.length > limits.maxExecutors.toNat then
    .error (.tooManyExecutors o.executors.length limits.maxExecutors.toNat)
  else .ok ()

/-- A pending call of an organization. -/
structure Proposal where
  /-- The identifier. -/
  id : String
  /-- The organization on whose behalf the call would be dispatched. -/
  organization : String
  /-- The encoded call. -/
  call : Bytes
  /-- The voting system the tally should be of. -/
  voting : SystemId
  /-- The height of creation. -/
  createdOn : Height
  /-- The votes so far. -/
  tally : Tally
  deriving DecidableEq

namespace Proposal

/-- A new proposal without votes, named by its organization, call and number. -/
def opened (organization : String) (call : Bytes) (system : VotingSystem) (createdOn : Height)
    (number : Word 64) : Proposal where
  id := Identifier.proposal organization call number
  organization := organization
  call := call
  voting := system.id
  createdOn := createdOn
  tally := system.freshTally

/-- The tally, when it is of the system the proposal is tagged with. -/
def routedTally (p : Proposal) : Except Refusal Tally :=
  match p.tally.routed? p.voting with
  | some tally => .ok tally
  | none => .error (.unknownVotingSystem p.id p.voting p.tally.systemId)

end Proposal

/-- All organizations, all open proposals and the counters that number them. -/
structure Registry where
  /-- How many organizations were numbered. -/
  organizationsCreated : Word 32
  /-- The number of the next proposal. -/
  nextNonce : Word 64
  /-- The organizations under their identifiers. -/
  organizations : OrderedMap String Organization
  /-- The open proposals under their identifiers. -/
  proposals : OrderedMap String Proposal
  deriving DecidableEq

namespace Registry

/-- The registry without organizations and proposals. -/
def empty : Registry := ⟨0, 0, .empty, .empty⟩

/-- The organization under an identifier. -/
def organization (r : Registry) (id : String) : Except Refusal Organization :=
  match r.organizations.find? id with
  | some details => .ok details
  | none => .error (.organizationNotFound id)

/-- The proposal under an identifier. -/
def proposal (r : Registry) (id : String) : Except Refusal Proposal :=
  match r.proposals.find? id with
  | some p => .ok p
  | none => .error (.proposalNotFound id)

/-- Stores a proposal under its identifier. -/
def put (r : Registry) (p : Proposal) : Registry :=
  { r with proposals := r.proposals.insert p.id p }

/-- Removes the proposal under an identifier. -/
def remove (r : Registry) (id : String) : Registry :=
  { r with proposals := r.proposals.erase id }

/-- The open proposals of an organization, in the order of their identifiers. -/
def proposalsOf (r : Registry) (organization : String) : List Proposal :=
  r.proposals.values.filter fun p => p.organization = organization

/-- The registry with the number of the next proposal drawn. -/
def drawNonce (r : Registry) : Registry := { r with nextNonce := r.nextNonce.succWrapped }

/-- Draws the number of a proposal. -/
def takeNonce : Step Refusal Registry (Word 64) := do
  let number := (← get).nextNonce
  modify drawNonce
  return number

/-- Takes the proposal under an identifier out, if there is one. -/
def take? (id : String) : Step Refusal Registry (Option Proposal) := do
  let found := (← get).proposals.find? id
  modify fun r => r.remove id
  return found

/-- The number of the next organization. -/
def nextOrganization (r : Registry) : Except Refusal (Word 32) :=
  match r.organizationsCreated.succ? with
  | some number => .ok number
  | none => .error .organizationsExhausted

/-- Registers an organization under the next number. The counter moves before the organization is
stored, so that no number is drawn twice. -/
def register (limits : Limits) (executors : List String) (voting : VotingSystem) :
    Step Refusal Registry String := do
  voting.validate.mapError Refusal.invalidVotingSystem
  let details := Organization.ofExecutors executors voting
  limits.checkExecutors details
  let number ← (← get).nextOrganization
  modify fun r => { r with organizationsCreated := number }
  let id := Identifier.organization number
  modify fun r => { r with organizations := r.organizations.insert id details }
  return id

end Registry

end OrgGovernance
