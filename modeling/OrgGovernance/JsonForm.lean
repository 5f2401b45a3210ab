import OrgGovernance.Council
import OrgGovernance.Json

/-!
# JSON forms of values

Every kind of value that is stored has one written form and the forms from
which it is read. Numbers are bare digits, digests and calls are hexadecimal
strings, maps are objects under their keys. A record is an object of its fields
or an array of them in order; unknown fields are passed over and a field given
twice is an error. A choice is the object of its one case, or the bare name of
a case that carries nothing.

The thresholds and the totals of a record are written among its own fields, at
the place where the record has them.
-/

namespace OrgGovernance

/-- Values that are written as JSON and read from it. -/
class JsonForm (α : Type) where
  /-- The written form. -/
  toJson : α → Json
  /-- The value of a form, if it is one. -/
  ofJson? : Json → Option α

namespace JsonForm

/-- The compact text of a value. -/
def write {α : Type} [JsonForm α] (value : α) : String := (toJson value).compact

/-- The text of a value with each element and member on a line of its own. -/
def writePretty {α : Type} [JsonForm α] (value : α) : String := (toJson value).pretty

/-- The value that a text holds. -/
def read? {α : Type} [JsonForm α] (text : String) : Option α := do
  let j ← Json.parse? text
  ofJson? j

/-- The object of the given fields. -/
def record (fields : List (String × Json)) : Json :=
  .object (fields.map fun field => (Json.escape field.1, field.2))

/-- The fields of a record that have one of the given names, each once; the
elements of an array are fields in the order of the names. -/
def fields? (names : List String) : Json → Option (List (String × Json))
  | .object members => do
    let named ← members.mapM fun m => (Json.unescape? m.1).map fun key => (key, m.2)
    let known := named.filter fun field => names.contains field.1
    if (known.map Prod.fst).Nodup then some known else none
  | .array elements => if elements.length ≤ names.length then some (names.zip elements) else none
  | _ => none

/-- The value of a field that has to be there. -/
def required {α : Type} [JsonForm α] (fields : List (String × Json)) (name : String) :
    Option α := do
  let j ← fields.lookup name
  ofJson? j

/-- The value of a field, or the given one when the field is absent. -/
def optional {α : Type} [JsonForm α] (fields : List (String × Json)) (name : String)
    (absent : α) : Option α :=
  match fields.lookup name with
  | none => some absent
  | some j => ofJson? j

/-- The object of one case of a choice. -/
def chosen (name : String) (content : Json) : Json := record [(name, content)]

/-- A case of a choice with what it carries, if anything. -/
def case? : Json → Option (String × Option Json)
  | .string written => (Json.unescape? written).map fun name => (name, none)
  | .object [(key, content)] => (Json.unescape? key).map fun name => (name, some content)
  | _ => none

/-- The name of a case that carries nothing; it may be written with an explicit null. -/
def bareCase? (j : Json) : Option String :=
  match case? j with
  | some (name, none) => some name
  | some (name, some .null) => some name
  | _ => none

/-- The name of a case and the content it carries. -/
def contentCase? (j : Json) : Option (String × Json) :=
  match case? j with
  | some (name, some content) => some (name, content)
  | _ => none

instance : JsonForm Bool where
  toJson b := .bool b
  ofJson?
    | .bool b => some b
    | _ => none

instance : JsonForm String where
  toJson := Json.ofText
  ofJson? := Json.text?

instance {bits : Nat} : JsonForm (Word bits) where
  toJson n := .number (Nat.toDigits 10 n.toNat)
  ofJson?
    | .number written => (Decimal.canonical? written).bind (Word.ofNat? bits)
    | _ => none

instance : JsonForm Digest where
  toJson d := Json.ofText d.text
  ofJson? j := do
    let text ← j.text?
    (Digest.ofText text).toOption

/-- The hexadecimal string of a call. -/
def ofBytes (bytes : Bytes) : Json := Json.ofText (Hexadecimal.encode bytes)

/-- The call of a hexadecimal string. -/
def bytes? (j : Json) : Option Bytes := do
  let text ← j.text?
  (Hexadecimal.decodeMarked text).toOption

/-- The array of the forms of a list. -/
instance {α : Type} [JsonForm α] : JsonForm (List α) where
  toJson values := .array (values.map toJson)
  ofJson?
    | .array elements => elements.mapM ofJson?
    | _ => none

/-- Values that serve as keys of objects. -/
class Key (κ : Type) where
  /-- The key as it is written between quotes. -/
  toKey : κ → List Char
  /-- The value of a written key. -/
  ofKey? : List Char → Option κ

instance : Key String where
  toKey := Json.escape
  ofKey? := Json.unescape?

/-- A number is a key in bare digits, without any escape. -/
instance {bits : Nat} : Key (Word bits) where
  toKey n := Nat.toDigits 10 n.toNat
  ofKey? written := (Decimal.canonical? written).bind (Word.ofNat? bits)

/-- The object of a map; of two members with one key the later counts. -/
instance {κ ν : Type} [Ord κ] [Std.TransOrd κ] [Std.LawfulEqOrd κ] [Key κ] [JsonForm ν] :
    JsonForm (OrderedMap κ ν) where
  toJson m := .object (m.entries.map fun e => (Key.toKey e.1, toJson e.2))
  ofJson?
    | .object members => do
      let entries ← members.mapM fun m => do
        let key ← Key.ofKey? m.1
        let value ← ofJson? m.2
        return (key, value)
      return OrderedMap.ofList entries
    | _ => none

/-- A choice whose cases carry nothing, read by their names. -/
def ofNames {α : Type} (cases : List α) (name : α → String) (j : Json) : Option α := do
  let given ← bareCase? j
  cases.find? fun case => name case = given

instance : JsonForm SystemId where
  toJson id := Json.ofText id.name
  ofJson? := ofNames SystemId.all SystemId.name

instance : JsonForm Counting where
  toJson counting := Json.ofText counting.name
  ofJson? := ofNames [.simple, .quadratic] Counting.name

instance : JsonForm CloseReason where
  toJson reason := Json.ofText reason.name
  ofJson? := ofNames [.passed, .expired] CloseReason.name

/-- The fields of thresholds. -/
def thresholdFields (t : Thresholds) : List (String × Json) :=
  [("voting_currency", toJson t.currency), ("min_quorum", toJson t.minQuorum),
    ("min_participation", toJson t.minParticipation)]

/-- The thresholds among the fields of a record. -/
def thresholds? (fields : List (String × Json)) : Option Thresholds := do
  let currency ← required fields "voting_currency"
  let minQuorum ← required fields "min_quorum"
  let minParticipation ← required fields "min_participation"
  return { currency, minQuorum, minParticipation }

instance : JsonForm CoinParameters where
  toJson p := record <|
    ("ttl", toJson p.lifetime) :: thresholdFields p.thresholds ++
      [("vote_counting_strategy", toJson p.counting)]
  ofJson? j := do
    let fields ← fields?
      ["ttl", "voting_currency", "min_quorum", "min_participation", "vote_counting_strategy"] j
    let lifetime ← required fields "ttl"
    let thresholds ← thresholds? fields
    let counting ← optional fields "vote_counting_strategy" Counting.simple
    return { lifetime, thresholds, counting }

instance : JsonForm ConvictionParameters where
  toJson p := record <|
    ("ttl", toJson p.lifetime) :: thresholdFields p.thresholds ++ [("decay", toJson p.decay)]
  ofJson? j := do
    let fields ← fields?
      ["ttl", "voting_currency", "min_quorum", "min_participation", "decay"] j
    let lifetime ← required fields "ttl"
    let thresholds ← thresholds? fields
    let decay ← optional fields "decay" 0
    return { lifetime, thresholds, decay }

instance : JsonForm SealedParameters where
  toJson p := record <|
    ("commit_duration", toJson p.commitDuration) ::
      ("reveal_duration", toJson p.revealDuration) :: thresholdFields p.thresholds
  ofJson? j := do
    let fields ← fields?
      ["commit_duration", "reveal_duration", "voting_currency", "min_quorum",
        "min_participation"] j
    let commitDuration ← required fields "commit_duration"
    let revealDuration ← required fields "reveal_duration"
    let thresholds ← thresholds? fields
    return { commitDuration, revealDuration, thresholds }

instance : JsonForm VotingSystem where
  toJson
    | .coin p => chosen "Coin" (toJson p)
    | .conviction p => chosen "Conviction" (toJson p)
    | .sealed p => chosen "Plcr" (toJson p)
  ofJson? j :=
    match contentCase? j with
    | some ("Coin", content) => (ofJson? content).map .coin
    | some ("Conviction", content) => (ofJson? content).map .conviction
    | some ("Plcr", content) => (ofJson? content).map .sealed
    | _ => none

instance : JsonForm Ballot where
  toJson b := record [("in_support", toJson b.inSupport), ("power", toJson b.power)]
  ofJson? j := do
    let fields ← fields? ["in_support", "power"] j
    let inSupport ← required fields "in_support"
    let power ← required fields "power"
    return { inSupport, power }

instance : JsonForm HiddenBallot where
  toJson b := record
    [("power", toJson b.power), ("in_support", toJson b.inSupport), ("salt", toJson b.salt)]
  ofJson? j := do
    let fields ← fields? ["power", "in_support", "salt"] j
    let power ← required fields "power"
    let inSupport ← required fields "in_support"
    let salt ← required fields "salt"
    return { power, inSupport, salt }

instance : JsonForm Decision where
  toJson
    | .vote ballot => chosen "Vote" (toJson ballot)
    | .commit digest => chosen "Commit" (toJson digest)
    | .reveal ballot => chosen "Reveal" (toJson ballot)
  ofJson? j :=
    match contentCase? j with
    | some ("Vote", content) => (ofJson? content).map .vote
    | some ("Commit", content) => (ofJson? content).map .commit
    | some ("Reveal", content) => (ofJson? content).map .reveal
    | _ => none

instance : JsonForm SealedEntry where
  toJson
    | .committed digest => chosen "Committed" (toJson digest)
    | .revealed ballot => chosen "Revealed" (toJson ballot)
  ofJson? j :=
    match contentCase? j with
    | some ("Committed", content) => (ofJson? content).map .committed
    | some ("Revealed", content) => (ofJson? content).map .revealed
    | _ => none

/-- The totals among the fields of a record, under the names of the two sides. -/
def totals? (fields : List (String × Json)) (favorable against : String) : Option Totals := do
  let favorable ← required fields favorable
  let against ← required fields against
  return { favorable, against }

instance : JsonForm CoinTally where
  toJson t := record
    [("parameters", toJson t.parameters), ("total_favorable", toJson t.totals.favorable),
      ("total_against", toJson t.totals.against), ("votes", toJson t.votes)]
  ofJson? j := do
    let fields ← fields? ["parameters", "total_favorable", "total_against", "votes"] j
    let parameters ← required fields "parameters"
    let totals ← totals? fields "total_favorable" "total_against"
    let votes ← required fields "votes"
    return { parameters, totals, votes }

instance : JsonForm ConvictionTally where
  toJson t := record
    [("parameters", toJson t.parameters), ("convictions", toJson t.convictions),
      ("conviction_for", toJson t.totals.favorable),
      ("conviction_against", toJson t.totals.against)]
  ofJson? j := do
    let fields ← fields? ["parameters", "convictions", "conviction_for", "conviction_against"] j
    let parameters ← required fields "parameters"
    let convictions ← required fields "convictions"
    let totals ← totals? fields "conviction_for" "conviction_against"
    return { parameters, convictions, totals }

instance : JsonForm SealedTally where
  toJson t := record
    [("parameters", toJson t.parameters), ("entries", toJson t.entries),
      ("revealed_favorable", toJson t.totals.favorable),
      ("revealed_against", toJson t.totals.against)]
  ofJson? j := do
    let fields ← fields? ["parameters", "entries", "revealed_favorable", "revealed_against"] j
    let parameters ← required fields "parameters"
    let entries ← required fields "entries"
    let totals ← totals? fields "revealed_favorable" "revealed_against"
    return { parameters, entries, totals }

instance : JsonForm Tally where
  toJson
    | .coin t => chosen "Coin" (toJson t)
    | .conviction t => chosen "Conviction" (toJson t)
    | .sealed t => chosen "Plcr" (toJson t)
  ofJson? j :=
    match contentCase? j with
    | some ("Coin", content) => (ofJson? content).map .coin
    | some ("Conviction", content) => (ofJson? content).map .conviction
    | some ("Plcr", content) => (ofJson? content).map .sealed
    | _ => none

instance : JsonForm Organization where
  toJson o := record [("executors", toJson o.executors), ("voting", toJson o.voting)]
  ofJson? j := do
    let fields ← fields? ["executors", "voting"] j
    let executors ← required fields "executors"
    let voting ← required fields "voting"
    return { executors, voting }

/-- The call under a name among the fields of a record. -/
def requiredBytes (fields : List (String × Json)) (name : String) : Option Bytes := do
  let j ← fields.lookup name
  bytes? j

instance : JsonForm Proposal where
  toJson p := record
    [("id", toJson p.id), ("org", toJson p.organization), ("call", ofBytes p.call),
      ("voting", toJson p.voting), ("created_on", toJson p.createdOn), ("state", toJson p.tally)]
  ofJson? j := do
    let fields ← fields? ["id", "org", "call", "voting", "created_on", "state"] j
    let id ← required fields "id"
    let organization ← required fields "org"
    let call ← requiredBytes fields "call"
    let voting ← required fields "voting"
    let createdOn ← required fields "created_on"
    let tally ← required fields "state"
    return { id, organization, call, voting, createdOn, tally }

instance : JsonForm Registry where
  toJson r := record
    [("organizations_created", toJson r.organizationsCreated), ("next_nonce", toJson r.nextNonce),
      ("organizations", toJson r.organizations), ("proposals", toJson r.proposals)]
  ofJson? j := do
    let fields ← fields? ["organizations_created", "next_nonce", "organizations", "proposals"] j
    let organizationsCreated ← required fields "organizations_created"
    let nextNonce ← required fields "next_nonce"
    let organizations ← required fields "organizations"
    let proposals ← required fields "proposals"
    return { organizationsCreated, nextNonce, organizations, proposals }

instance : JsonForm DispatchedCall where
  toJson d := record
    [("origin", toJson d.origin), ("call", ofBytes d.call), ("height", toJson d.height)]
  ofJson? j := do
    let fields ← fields? ["origin", "call", "height"] j
    let origin ← required fields "origin"
    let call ← requiredBytes fields "call"
    let height ← required fields "height"
    return { origin, call, height }

instance : JsonForm Chain where
  toJson c := record
    [("height", toJson c.height), ("issuance", toJson c.issuance),
      ("dispatched", toJson c.dispatched), ("fail_dispatches", toJson c.failDispatches)]
  ofJson? j := do
    let fields ← fields? ["height", "issuance", "dispatched", "fail_dispatches"] j
    let height ← required fields "height"
    let issuance ← required fields "issuance"
    let dispatched ← required fields "dispatched"
    let failDispatches ← optional fields "fail_dispatches" false
    return { height, issuance, dispatched, failDispatches }

instance : JsonForm NodeState where
  toJson s := record [("governance", toJson s.registry), ("chain", toJson s.chain)]
  ofJson? j := do
    let fields ← fields? ["governance", "chain"] j
    let registry ← required fields "governance"
    let chain ← required fields "chain"
    return { registry, chain }

instance : JsonForm Limits where
  toJson l := record
    [("max_executors", toJson l.maxExecutors), ("max_voters", toJson l.maxVoters)]
  ofJson? j := do
    let fields ← fields? ["max_executors", "max_voters"] j
    let maxExecutors ← optional fields "max_executors" Limits.standard.maxExecutors
    let maxVoters ← optional fields "max_voters" Limits.standard.maxVoters
    return { maxExecutors, maxVoters }

/-- The state file in its section of the settings. -/
def stateFile? (j : Json) : Option String := do
  let fields ← fields? ["state_file"] j
  optional fields "state_file" Settings.standard.stateFile

instance : JsonForm Settings where
  toJson s := record
    [("governance", toJson s.limits), ("node", record [("state_file", toJson s.stateFile)])]
  ofJson? j := do
    let fields ← fields? ["governance", "node"] j
    let limits ← optional fields "governance" Limits.standard
    let stateFile ←
      match fields.lookup "node" with
      | none => some Settings.standard.stateFile
      | some node => stateFile? node
    return { limits, stateFile }

instance : JsonForm Evaluation where
  toJson e := record [("passing", toJson e.passing), ("expired", toJson e.expired)]
  ofJson? j := do
    let fields ← fields? ["passing", "expired"] j
    let passing ← required fields "passing"
    let expired ← required fields "expired"
    return { passing, expired }

instance : JsonForm CloseOutcome where
  toJson
    | .closed reason => chosen "Closed" (toJson reason)
    | .notYetClosable => Json.ofText "NotYetClosable"
  ofJson? j :=
    match contentCase? j, bareCase? j with
    | some ("Closed", content), _ => (ofJson? content).map .closed
    | _, some "NotYetClosable" => some .notYetClosable
    | _, _ => none

end JsonForm

end OrgGovernance
