import OrgGovernance.Decision

/-!
# Tallies of proposals

A proposal carries the tally of its voting system. What the lifecycle of a
proposal asks of a tally is the same for all three systems. The power on either
side is kept up to date as ballots come in, and is held at the limits of
balances.

Under coin voting each voter has one ballot, and a later ballot replaces an
earlier one, which is taken back first. A coin counts once, or the root of a
stake counts when the counting is quadratic. Under conviction voting stake is
placed on either side and may be moved. Conviction itself is not computed, so a
proposal never passes and closes through expiry alone.

Under sealed voting voters commit to hidden ballots in a first phase and reveal
them in a second one; only revealed ballots count. A commitment may be replaced
until it is revealed, and a reveal is final.
-/

namespace OrgGovernance

/-- The power on either side. -/
structure Totals where
  /-- The favorable power. -/
  favorable : Balance
  /-- The power against. -/
  against : Balance
  deriving DecidableEq, Repr

namespace Totals

/-- No power on either side. -/
def zero : Totals := ⟨0, 0⟩

/-- The power on one side. -/
def side (t : Totals) (inSupport : Bool) : Balance :=
  if inSupport then t.favorable else t.against

/-- Adds power to one side. -/
def add (t : Totals) (inSupport : Bool) (power : Balance) : Totals :=
  if inSupport then { t with favorable := t.favorable.addClipped power }
  else { t with against := t.against.addClipped power }

/-- Takes power back from one side. -/
def remove (t : Totals) (inSupport : Bool) (power : Balance) : Totals :=
  if inSupport then { t with favorable := t.favorable.subClipped power }
  else { t with against := t.against.subClipped power }

/-- Puts a ballot in the place of an earlier one, each weighed by its power. -/
def recast (t : Totals) (previous : Option Ballot) (current : Ballot) : Totals :=
  let cleared :=
    match previous with
    | some b => t.remove b.inSupport b.power
    | none => t
  cleared.add current.inSupport current.power

end Totals

/-- The ballots of a proposal under coin voting and their totals. -/
structure CoinTally where
  /-- The parameters of the voting system. -/
  parameters : CoinParameters
  /-- The counted power on either side. -/
  totals : Totals
  /-- The latest ballot of every voter, as staked. -/
  votes : OrderedMap String Ballot
  deriving DecidableEq

namespace CoinTally

/-- A tally without ballots. -/
def fresh (parameters : CoinParameters) : CoinTally := ⟨parameters, Totals.zero, .empty⟩

/-- The power that counts for a stake. -/
def countedPower (t : CoinTally) (stake : Balance) : Balance :=
  match t.parameters.counting with
  | .simple => stake
  | .quadratic => SquareRoot.ofBalance stake

/-- A ballot with the power that counts for its stake. -/
def weighed (t : CoinTally) (b : Ballot) : Ballot := { b with power := t.countedPower b.power }

/-- The tally after a ballot. -/
def cast (t : CoinTally) (voter : String) (ballot : Ballot) : CoinTally :=
  { t with
    totals := t.totals.recast ((t.votes.find? voter).map t.weighed) (t.weighed ballot)
    votes := t.votes.insert voter ballot }

/-- Records a decision; only open votes are taken. -/
def record (voter : String) : Decision → Step Refusal CoinTally Unit
  | .vote ballot => modify fun t => t.cast voter ballot
  | other => throw (.decisionMismatch ⟨.coin, other.kind⟩)

/-- Whether the totals pass against a supply. -/
def isPassing (t : CoinTally) (supply : Balance) : Bool :=
  t.parameters.thresholds.passed t.totals.favorable t.totals.against supply

/-- The last height at which a proposal created at the given one is not expired. -/
def endsOn (t : CoinTally) (createdOn : Height) : Height :=
  createdOn.addClipped t.parameters.lifetime

/-- Whether the voting window has ended. -/
def isExpired (t : CoinTally) (createdOn now : Height) : Bool := t.endsOn createdOn < now

end CoinTally

/-- The stakes on a proposal under conviction voting and their totals. -/
structure ConvictionTally where
  /-- The parameters of the voting system. -/
  parameters : ConvictionParameters
  /-- The latest stake of every voter. -/
  convictions : OrderedMap String Ballot
  /-- The stake on either side. -/
  totals : Totals
  deriving DecidableEq

namespace ConvictionTally

/-- A tally without stakes. -/
def fresh (parameters : ConvictionParameters) : ConvictionTally :=
  ⟨parameters, .empty, Totals.zero⟩

/-- The tally after a stake is placed. -/
def cast (t : ConvictionTally) (voter : String) (ballot : Ballot) : ConvictionTally :=
  { t with
    totals := t.totals.recast (t.convictions.find? voter) ballot
    convictions := t.convictions.insert voter ballot }

/-- Records a decision; only open votes are taken. -/
def record (voter : String) : Decision → Step Refusal ConvictionTally Unit
  | .vote ballot => modify fun t => t.cast voter ballot
  | other => throw (.decisionMismatch ⟨.conviction, other.kind⟩)

/-- The last height at which a proposal created at the given one is not expired. -/
def endsOn (t : ConvictionTally) (createdOn : Height) : Height :=
  createdOn.addClipped t.parameters.lifetime

/-- Whether the voting window has ended. -/
def isExpired (t : ConvictionTally) (createdOn now : Height) : Bool := t.endsOn createdOn < now

end ConvictionTally

/-- How far a voter has come. -/
inductive SealedEntry
  /-- The voter has committed to a hidden ballot. -/
  | committed (digest : Digest)
  /-- The voter has revealed the ballot. -/
  | revealed (ballot : HiddenBallot)
  deriving DecidableEq

/-- The entries of a proposal under sealed voting and the revealed totals. -/
structure SealedTally where
  /-- The parameters of the voting system. -/
  parameters : SealedParameters
  /-- The progress of every voter. -/
  entries : OrderedMap String SealedEntry
  /-- The revealed power on either side. -/
  totals : Totals
  deriving DecidableEq

namespace SealedTally

/-- A tally without entries. -/
def fresh (parameters : SealedParameters) : SealedTally := ⟨parameters, .empty, Totals.zero⟩

/-- The height at which the commit phase of a proposal ends. -/
def commitEndsOn (t : SealedTally) (createdOn : Height) : Height :=
  createdOn.addClipped t.parameters.commitDuration

/-- The height at which the reveal phase of a proposal ends. -/
def revealEndsOn (t : SealedTally) (createdOn : Height) : Height :=
  (t.commitEndsOn createdOn).addClipped t.parameters.revealDuration

/-- Takes a commitment, unless the voter has revealed. -/
def commit (voter : String) (digest : Digest) : Step Refusal SealedTally Unit := do
  match (← get).entries.find? voter with
  | some (.revealed _) => throw (.alreadyRevealed voter)
  | _ => modify fun t => { t with entries := t.entries.insert voter (.committed digest) }

/-- Takes a ballot that the voter has committed to: its power is counted first, and then the entry
of the voter is replaced. -/
def reveal (voter : String) (ballot : HiddenBallot) : Step Refusal SealedTally Unit := do
  match (← get).entries.find? voter with
  | some (.committed digest) =>
    if ballot.commitment = digest then
      modify fun t => { t with totals := t.totals.add ballot.inSupport ballot.power }
      modify fun t => { t with entries := t.entries.insert voter (.revealed ballot) }
    else throw (.revealMismatch voter)
  | _ => throw (.noCommitFound voter)

/-- Records a decision; open votes are not taken. -/
def record (voter : String) : Decision → Step Refusal SealedTally Unit
  | .commit digest => commit voter digest
  | .reveal ballot => reveal voter ballot
  | .vote _ => throw (.decisionMismatch ⟨.sealed, .vote⟩)

/-- Whether the revealed totals pass against a supply. -/
def isPassing (t : SealedTally) (supply : Balance) : Bool :=
  t.parameters.thresholds.passed t.totals.favorable t.totals.against supply

/-- Whether both phases have ended. -/
def isExpired (t : SealedTally) (createdOn now : Height) : Bool := t.revealEndsOn createdOn < now

/-- The window in which a decision is taken; open votes have none. -/
def window? (t : SealedTally) (createdOn : Height) : DecisionKind → Option PhaseWindow
  | .commit => some (.commits (t.commitEndsOn createdOn))
  | .reveal => some (.reveals (t.commitEndsOn createdOn) (t.revealEndsOn createdOn))
  | .vote => none

/-- Refuses a decision that arrives outside its window. -/
def checkPhase (t : SealedTally) (decision : Decision) (createdOn now : Height) :
    Except Refusal Unit :=
  match t.window? createdOn decision.kind with
  | none => .ok ()
  | some window =>
    if window.covers now then .ok () else .error (.outsidePhase decision.kind now window)

end SealedTally

/-- The tally of a proposal, of one of the three voting systems. -/
inductive Tally
  /-- A tally of coin voting. -/
  | coin (tally : CoinTally)
  /-- A tally of conviction voting. -/
  | conviction (tally : ConvictionTally)
  /-- A tally of sealed voting. -/
  | sealed (tally : SealedTally)
  deriving DecidableEq

/-- The tally of a new proposal under a voting system. -/
def VotingSystem.freshTally : VotingSystem → Tally
  | .coin p => .coin (.fresh p)
  | .conviction p => .conviction (.fresh p)
  | .sealed p => .sealed (.fresh p)

namespace Tally

/-- The voting system of a tally with its parameters. -/
def system : Tally → VotingSystem
  | .coin t => .coin t.parameters
  | .conviction t => .conviction t.parameters
  | .sealed t => .sealed t.parameters

/-- Which of the three systems a tally is of. -/
def systemId (t : Tally) : SystemId := t.system.id

/-- The currency whose total supply is the base of participation. -/
def currency (t : Tally) : Currency := t.system.currency

/-- The power on either side. -/
def totals : Tally → Totals
  | .coin t => t.totals
  | .conviction t => t.totals
  | .sealed t => t.totals

/-- The voters with a ballot or an entry, in order. -/
def voters : Tally → List String
  | .coin t => t.votes.keys
  | .conviction t => t.convictions.keys
  | .sealed t => t.entries.keys

/-- The number of voters. -/
def voterCount : Tally → Nat
  | .coin t => t.votes.size
  | .conviction t => t.convictions.size
  | .sealed t => t.entries.size

/-- Whether a voter has a ballot or an entry. -/
def hasVoter (voter : String) : Tally → Bool
  | .coin t => t.votes.contains voter
  | .conviction t => t.convictions.contains voter
  | .sealed t => t.entries.contains voter

/-- Records a decision of a voter on the tally of its system. -/
def record (voter : String) (decision : Decision) : Step Refusal Tally Unit
  | .coin t => (t.record voter decision).map id .coin
  | .conviction t => (t.record voter decision).map id .conviction
  | .sealed t => (t.record voter decision).map id .sealed

/-- Whether a proposal would pass against a supply; under conviction voting none does. -/
def isPassing (supply : Balance) : Tally → Bool
  | .coin t => t.isPassing supply
  | .conviction _ => false
  | .sealed t => t.isPassing supply

/-- Whether the voting window of a proposal has ended. -/
def isExpired (createdOn now : Height) : Tally → Bool
  | .coin t => t.isExpired createdOn now
  | .conviction t => t.isExpired createdOn now
  | .sealed t => t.isExpired createdOn now

/-- Refuses a decision outside its window; only sealed voting has windows. -/
def checkPhase (decision : Decision) (createdOn now : Height) : Tally → Except Refusal Unit
  | .coin _ => .ok ()
  | .conviction _ => .ok ()
  | .sealed t => t.checkPhase decision createdOn now

/-- The tally, if it is of the tagged system. -/
def routed? (tag : SystemId) (t : Tally) : Option Tally :=
  if t.systemId = tag then some t else none

end Tally

end OrgGovernance
