import OrgGovernance.Digest
import OrgGovernance.VotingSystem

/-!
# Decisions and refusals

A voter decides on a proposal by an open ballot, by a commitment to a hidden
one, or by revealing a hidden one. The commitment is the digest of a fixed
layout of twenty-five bytes.

Every operation that does not succeed gives one of the causes listed here, and
the wording of a cause is a function of it alone. An operation is a step on a
state, which is left as the operation has changed it so far, also when it ends
in a refusal.
-/

namespace OrgGovernance

/-- An open vote: a side and the staked power. -/
structure Ballot where
  /-- Whether the vote is favorable. -/
  inSupport : Bool
  /-- The staked power. -/
  power : Balance
  deriving DecidableEq, Repr

/-- A vote that was hidden behind a commitment. -/
structure HiddenBallot where
  /-- The power. -/
  power : Balance
  /-- Whether the vote is favorable. -/
  inSupport : Bool
  /-- The number that keeps the commitment from being guessed. -/
  salt : Word 64
  deriving DecidableEq, Repr

namespace HiddenBallot

/-- The layout that is hashed: the power in sixteen bytes and the salt in eight,
least significant byte first, with the side in one byte between them. -/
def encode (b : HiddenBallot) : Bytes :=
  Bytes.littleEndian 16 b.power.toNat ++ (if b.inSupport then 1 else 0) ::
    Bytes.littleEndian 8 b.salt.toNat

/-- The commitment to a hidden ballot. -/
def commitment (b : HiddenBallot) : Digest := Sha256.hash b.encode

/-- The layout always has twenty-five bytes. -/
theorem length_encode (b : HiddenBallot) : b.encode.length = 25 := by
  simp [encode]

end HiddenBallot

/-- What a voter submits to a proposal. -/
inductive Decision
  /-- An open vote. -/
  | vote (ballot : Ballot)
  /-- A commitment to a hidden ballot. -/
  | commit (digest : Digest)
  /-- A hidden ballot behind an earlier commitment. -/
  | reveal (ballot : HiddenBallot)
  deriving DecidableEq

/-- The kinds of decisions. -/
inductive DecisionKind
  /-- An open vote. -/
  | vote
  /-- A commitment. -/
  | commit
  /-- A reveal. -/
  | reveal
  deriving DecidableEq, Repr

/-- The kind of a decision. -/
def Decision.kind : Decision → DecisionKind
  | .vote _ => .vote
  | .commit _ => .commit
  | .reveal _ => .reveal

/-- The name of a kind of decision. -/
def DecisionKind.name : DecisionKind → String
  | .vote => "vote"
  | .commit => "commit"
  | .reveal => "reveal"

/-- Why a proposal was closed. -/
inductive CloseReason
  /-- The tally passed. -/
  | passed
  /-- The voting window ended. -/
  | expired
  deriving DecidableEq, Repr

/-- The name of a reason. -/
def CloseReason.name : CloseReason → String
  | .passed => "Passed"
  | .expired => "Expired"

/-- The heights at which a phase of sealed voting takes decisions. -/
inductive PhaseWindow
  /-- Commitments are taken before this height. -/
  | commits (before : Height)
  /-- Reveals are taken strictly between these heights. -/
  | reveals (after before : Height)
  deriving DecidableEq, Repr

/-- Whether a height lies in a window. -/
def PhaseWindow.covers (now : Height) : PhaseWindow → Bool
  | .commits before => now < before
  | .reveals after before => after < now && now < before

/-- The wording of a window. -/
def PhaseWindow.message : PhaseWindow → String
  | .commits before => s!"commits are accepted before height {before.text}"
  | .reveals after before =>
    s!"reveals are accepted after height {after.text} and before height {before.text}"

/-- What a tally takes and what it was given instead. -/
structure DecisionMismatch where
  /-- The voting system of the tally. -/
  system : SystemId
  /-- The kind of the decision. -/
  given : DecisionKind
  deriving DecidableEq, Repr

/-- The wording of a mismatch. -/
def DecisionMismatch.message (m : DecisionMismatch) : String :=
  match m.system with
  | .coin => s!"coin voting expects a vote, got {m.given.name}"
  | .conviction => s!"conviction voting expects a vote, got {m.given.name}"
  | .sealed => s!"plcr voting expects a commit or a reveal, got {m.given.name}"

/-- Why an operation was refused. -/
inductive Refusal
  /-- No organization has this identifier. -/
  | organizationNotFound (id : String)
  /-- No proposal is stored under this identifier. -/
  | proposalNotFound (id : String)
  /-- The voting system is not acceptable. -/
  | invalidVotingSystem (fault : SystemFault)
  /-- The tally of a proposal is not of the system it is tagged with. -/
  | unknownVotingSystem (proposal : String) (tagged held : SystemId)
  /-- The revealed ballot is not the one committed to. -/
  | revealMismatch (voter : String)
  /-- The chain rejected a call of so many bytes; the reason is that of the
  proposal it closed, if there was one. -/
  | dispatchFailed (organization : String) (callLength : Nat) (closed : Option CloseReason)
  /-- There are more executors than allowed. -/
  | tooManyExecutors (given allowed : Nat)
  /-- No further organization can be numbered. -/
  | organizationsExhausted
  /-- A proposal is already stored under the identifier. -/
  | duplicatedProposal (id : String)
  /-- The tally does not take this kind of decision. -/
  | decisionMismatch (mismatch : DecisionMismatch)
  /-- The voter has no open commitment. -/
  | noCommitFound (voter : String)
  /-- The voter has already revealed. -/
  | alreadyRevealed (voter : String)
  /-- The decision arrived outside its window. -/
  | outsidePhase (decision : DecisionKind) (now : Height) (window : PhaseWindow)
  /-- No further voter is taken. -/
  | tooManyVoters (allowed : Nat)
  /-- The caller is no executor. -/
  | unauthorized (caller : String)
  deriving DecidableEq, Repr

namespace Refusal

/-- The name of the kind of a refusal. -/
def kind : Refusal → String
  | .organizationNotFound _ => "NotFound"
  | .proposalNotFound _ => "NotFound"
  | .invalidVotingSystem _ => "InvalidVotingSystem"
  | .unknownVotingSystem _ _ _ => "UnknownVotingSystem"
  | .revealMismatch _ => "RevealMismatch"
  | .dispatchFailed _ _ _ => "DispatchFailed"
  | .tooManyExecutors _ _ => "InvalidOrganization"
  | .organizationsExhausted => "CreatedOrganizationsOverflow"
  | .duplicatedProposal _ => "DuplicatedProposal"
  | .decisionMismatch _ => "DecisionMismatch"
  | .noCommitFound _ => "NoCommitFound"
  | .alreadyRevealed _ => "AlreadyRevealed"
  | .outsidePhase _ _ _ => "Phase"
  | .tooManyVoters _ => "TooManyVoters"
  | .unauthorized _ => "Unauthorized"

/-- The wording of a refusal. -/
def message : Refusal → String
  | .organizationNotFound id => s!"Not found: organization {id}"
  | .proposalNotFound id => s!"Not found: proposal {id}"
  | .invalidVotingSystem fault => s!"Invalid voting system: {fault.message}"
  | .unknownVotingSystem proposal tagged held =>
    s!"Unknown voting system for proposal {proposal}: tagged {tagged.name} but holds {held.name} state"
  | .revealMismatch voter => s!"Reveal from {voter} does not match the committed hash"
  | .dispatchFailed organization callLength _ =>
    s!"Dispatch failed for organization {organization}: dispatch of {callLength} byte call rejected"
  | .tooManyExecutors given allowed =>
    s!"Invalid organization: {given} executors, at most {allowed} allowed"
  | .organizationsExhausted => "Maximum number of organizations created"
  | .duplicatedProposal id => s!"Duplicated proposal: {id}"
  | .decisionMismatch mismatch =>
    s!"Decision does not fit voting system: {mismatch.message}"
  | .noCommitFound voter => s!"No commit found for {voter}"
  | .alreadyRevealed voter => s!"Vote from {voter} was already revealed"
  | .outsidePhase decision now window =>
    s!"{decision.name} not accepted at height {now.text}: {window.message}"
  | .tooManyVoters allowed => s!"Too many voters: at most {allowed} allowed"
  | .unauthorized caller => s!"Unauthorized: {caller}"

end Refusal

/-- A step on a state answers a value or gives a cause, and leaves a state in either case. What it
has changed before it gives a cause stays changed. -/
abbrev Step (ε σ α : Type) := ExceptT ε (StateM σ) α

/-- A step on a part of a state, carried out on the whole of it. -/
def Step.within {ε σ τ α : Type} (part : σ → τ) (replace : σ → τ → σ) (step : Step ε τ α) :
    Step ε σ α := fun s =>
  let outcome := step (part s)
  (outcome.1, replace s outcome.2)

end OrgGovernance
