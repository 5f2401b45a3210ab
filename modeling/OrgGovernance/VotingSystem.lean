import OrgGovernance.Number
import OrgGovernance.OrderedMap

/-!
# Voting systems

An organization is bound to one of three voting systems with its parameters.
Coin and conviction voting run for a number of blocks; sealed voting has a
phase for commitments and one for reveals. All share the rule that names the
currency and the two percentages a proposal has to exceed.

A request names a voting system and gives its parameters as texts under their
keys. It is granted when every key belongs to the system, every required key is
there, every value can be read and the thresholds are acceptable. Otherwise one
fault is reported: a foreign key before all others, then an unknown counting, then
the first key without a readable number in the order of the system's keys, and a
refused threshold last.
-/

namespace OrgGovernance

/-- The three voting systems, without parameters. -/
inductive SystemId
  /-- Votes weighed by staked coins. -/
  | coin
  /-- Stake that accrues conviction over time. -/
  | conviction
  /-- Votes committed to first and revealed later. -/
  | sealed
  deriving DecidableEq, Repr

/-- How staked coins become counted power. -/
inductive Counting
  /-- Every coin counts. -/
  | simple
  /-- The root of the stake counts. -/
  | quadratic
  deriving DecidableEq, Repr

/-- What a proposal has to exceed, and in which currency. -/
structure Thresholds where
  /-- The currency whose holdings weigh the votes. -/
  currency : Currency
  /-- The percentage of the participating power that has to be favorable. -/
  minQuorum : Percent
  /-- The percentage of the total supply that has to participate. -/
  minParticipation : Percent
  deriving DecidableEq, Repr

/-- The parameters of coin voting. -/
structure CoinParameters where
  /-- Blocks from creation after which a proposal is expired. -/
  lifetime : Height
  /-- What a proposal has to exceed. -/
  thresholds : Thresholds
  /-- How stake is counted. -/
  counting : Counting
  deriving DecidableEq, Repr

/-- The parameters of conviction voting. -/
structure ConvictionParameters where
  /-- Blocks from creation after which a proposal is expired. -/
  lifetime : Height
  /-- What a proposal would have to exceed. -/
  thresholds : Thresholds
  /-- The decay of the conviction curve. -/
  decay : Word 32
  deriving DecidableEq, Repr

/-- The parameters of sealed voting. -/
structure SealedParameters where
  /-- Blocks from creation in which commitments are taken. -/
  commitDuration : Height
  /-- Blocks after them in which reveals are taken. -/
  revealDuration : Height
  /-- What a proposal has to exceed. -/
  thresholds : Thresholds
  deriving DecidableEq, Repr

/-- A voting system with its parameters. -/
inductive VotingSystem
  /-- Coin voting. -/
  | coin (parameters : CoinParameters)
  /-- Conviction voting. -/
  | conviction (parameters : ConvictionParameters)
  /-- Sealed voting. -/
  | sealed (parameters : SealedParameters)
  deriving DecidableEq, Repr

namespace SystemId

/-- The name of a voting system. -/
def name : SystemId → String
  | .coin => "CoinVoting"
  | .conviction => "ConvictionVoting"
  | .sealed => "PlcrVoting"

/-- All voting systems. -/
def all : List SystemId := [.coin, .conviction, .sealed]

/-- The voting system of a name. -/
def ofName? (text : String) : Option SystemId := all.find? fun id => id.name = text

end SystemId

namespace Counting

/-- The name of a counting. -/
def name : Counting → String
  | .simple => "Simple"
  | .quadratic => "Quadratic"

/-- The counting of a name, with a capital or a small first letter. -/
def ofName? (text : String) : Option Counting :=
  if text = "Simple" ∨ text = "simple" then some .simple
  else if text = "Quadratic" ∨ text = "quadratic" then some .quadratic
  else none

end Counting

/-- Why thresholds are refused. -/
inductive Thresholds.Fault
  /-- The currency is the reserved one. -/
  | reservedCurrency
  /-- The quorum is above the highest percentage. -/
  | quorumTooHigh (given : Percent)
  /-- The participation is above the highest percentage. -/
  | participationTooHigh (given : Percent)
  deriving DecidableEq, Repr

namespace Thresholds

/-- Refuses the reserved currency, then a quorum and then a participation above one hundred. -/
def check (t : Thresholds) : Except Fault Unit :=
  if t.currency.toNat = 0 then .error .reservedCurrency
  else if t.minQuorum.toNat > Percentage.highest then .error (.quorumTooHigh t.minQuorum)
  else if t.minParticipation.toNat > Percentage.highest then
    .error (.participationTooHigh t.minParticipation)
  else .ok ()

/-- Whether a tally passes: participation exceeds its share of the supply, and
the favorable power exceeds its share of the participation. -/
def passed (t : Thresholds) (favorable against supply : Balance) : Bool :=
  let participation := favorable.addClipped against
  Percentage.exceeds participation t.minParticipation supply &&
    Percentage.exceeds favorable t.minQuorum participation

end Thresholds

namespace VotingSystem

/-- Which of the three systems this is. -/
def id : VotingSystem → SystemId
  | .coin _ => .coin
  | .conviction _ => .conviction
  | .sealed _ => .sealed

/-- What a proposal of the system has to exceed. -/
def thresholds : VotingSystem → Thresholds
  | .coin p => p.thresholds
  | .conviction p => p.thresholds
  | .sealed p => p.thresholds

/-- The currency whose total supply is the base of participation. -/
def currency (s : VotingSystem) : Currency := s.thresholds.currency

end VotingSystem

/-- Why a voting system is refused. -/
inductive SystemFault
  /-- No voting system has this name. -/
  | unknownTag (text : String)
  /-- No counting has this name. -/
  | unknownCounting (text : String)
  /-- The key is none of the system's. -/
  | foreignParameter (key : String) (system : SystemId)
  /-- The text under the key cannot be read. -/
  | invalidValue (raw key : String)
  /-- A required key is absent. -/
  | missingParameter (key : String)
  /-- The thresholds are refused. -/
  | thresholds (fault : Thresholds.Fault)
  deriving DecidableEq, Repr

/-- The wording of a fault. -/
def SystemFault.message : SystemFault → String
  | .unknownTag text => s!"unknown voting system tag '{text}'"
  | .unknownCounting text => s!"unknown vote counting strategy '{text}'"
  | .foreignParameter key system => s!"parameter {key} does not apply to {system.name}"
  | .invalidValue raw key => s!"invalid value '{raw}' for {key}"
  | .missingParameter key => s!"missing parameter {key}"
  | .thresholds .reservedCurrency => "voting_currency must be non-zero"
  | .thresholds (.quorumTooHigh given) => s!"min_quorum must be at most 100, got {given.text}"
  | .thresholds (.participationTooHigh given) =>
    s!"min_participation must be at most 100, got {given.text}"

/-- Refuses a voting system whose thresholds are not acceptable. -/
def VotingSystem.validate (s : VotingSystem) : Except SystemFault Unit :=
  s.thresholds.check.mapError .thresholds

/-- The keys of the parameters of a voting system. -/
def SystemId.parameterKeys : SystemId → List String
  | .coin =>
    ["ttl", "voting_currency", "min_quorum", "min_participation", "vote_counting_strategy"]
  | .conviction => ["ttl", "voting_currency", "min_quorum", "min_participation", "decay"]
  | .sealed =>
    ["commit_duration", "reveal_duration", "voting_currency", "min_quorum", "min_participation"]

/-- The voting system of a name, or the fault of an unknown one. -/
def SystemId.ofName (text : String) : Except SystemFault SystemId :=
  match SystemId.ofName? text with
  | some id => .ok id
  | none => .error (.unknownTag text)

/-- The counting of a name, or the fault of an unknown one. -/
def Counting.ofName (text : String) : Except SystemFault Counting :=
  match Counting.ofName? text with
  | some counting => .ok counting
  | none => .error (.unknownCounting text)

/-- The name of a voting system and its parameters as texts under their keys. -/
structure SystemRequest where
  /-- The name of the voting system. -/
  tag : String
  /-- The texts under their keys. -/
  parameters : OrderedMap String String

namespace SystemRequest

/-- The number of the given width under a key, if the key is there. -/
def optional (r : SystemRequest) (bits : Nat) (key : String) :
    Except SystemFault (Option (Word bits)) :=
  match r.parameters.find? key with
  | none => .ok none
  | some raw =>
    match Decimal.unsigned? bits (BlankText.trimmed raw) with
    | some n => .ok (some n)
    | none => .error (.invalidValue raw key)

/-- The number of the given width under a key that has to be there. -/
def required (r : SystemRequest) (bits : Nat) (key : String) : Except SystemFault (Word bits) := do
  match ← r.optional bits key with
  | some n => .ok n
  | none => .error (.missingParameter key)

/-- Refuses the first key that is none of the system's. -/
def checkKeys (r : SystemRequest) (id : SystemId) : Except SystemFault Unit :=
  match r.parameters.keys.find? fun key => !id.parameterKeys.contains key with
  | some key => .error (.foreignParameter key id)
  | none => .ok ()

/-- The counting under its key, simple when there is none. -/
def counting (r : SystemRequest) : Except SystemFault Counting :=
  match r.parameters.find? "vote_counting_strategy" with
  | some raw => Counting.ofName raw
  | none => .ok .simple

/-- The thresholds under their keys. -/
def thresholds (r : SystemRequest) : Except SystemFault Thresholds := do
  let currency ← r.required 32 "voting_currency"
  let minQuorum ← r.required 32 "min_quorum"
  let minParticipation ← r.required 32 "min_participation"
  return { currency, minQuorum, minParticipation }

/-- The system of the given kind with the parameters under their keys. -/
def system (r : SystemRequest) (id : SystemId) (counting : Counting) :
    Except SystemFault VotingSystem :=
  match id with
  | .coin => do
    let lifetime ← r.required 64 "ttl"
    let thresholds ← r.thresholds
    return .coin { lifetime, thresholds, counting }
  | .conviction => do
    let lifetime ← r.required 64 "ttl"
    let thresholds ← r.thresholds
    let decay ← r.optional 32 "decay"
    return .conviction { lifetime, thresholds, decay := decay.getD 0 }
  | .sealed => do
    let commitDuration ← r.required 64 "commit_duration"
    let revealDuration ← r.required 64 "reveal_duration"
    let thresholds ← r.thresholds
    return .sealed { commitDuration, revealDuration, thresholds }

/-- The requested voting system, or the first fault of the request. -/
def grant (r : SystemRequest) : Except SystemFault VotingSystem := do
  let id ← SystemId.ofName r.tag
  r.checkKeys id
  let counting ← r.counting
  let system ← r.system id counting
  system.validate
  return system

end SystemRequest

end OrgGovernance
