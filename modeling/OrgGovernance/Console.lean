import OrgGovernance.CommandLine
import OrgGovernance.Disk

/-!
# One run of the program

A run reads its arguments, loads the state, carries out one command and saves
the state. A command that fails saves nothing, except that an attempt to close
a proposal is saved whatever comes of it. Organizations and proposals are shown
in lines with the colours of the terminal. What a run prints and what it leaves
on the disk depend on its arguments and on the disk alone.
-/

namespace OrgGovernance

namespace Display

/-- A text in a colour of the terminal, given by its code. -/
def coloured (code : Nat) (text : String) : String := s!"\x1b[{code}m{text}\x1b[39m"

/-- A text in green. -/
def green (text : String) : String := coloured 32 text

/-- A text in red. -/
def red (text : String) : String := coloured 31 text

/-- A text in yellow. -/
def yellow (text : String) : String := coloured 33 text

/-- A text in bold yellow. -/
def headline (text : String) : String := s!"\x1b[1m{yellow text}\x1b[0m"

/-- Lines, each with its line break. -/
def lines (texts : List String) : String := String.join (texts.map fun text => text ++ "\n")

/-- The quorum and the participation of thresholds behind their currency. -/
def thresholds (t : Thresholds) : String :=
  s!"currency={t.currency.text} quorum={t.minQuorum.text}% participation={t.minParticipation.text}%"

/-- A voting system with its parameters. -/
def votingSystem : VotingSystem → String
  | .coin p =>
    s!"CoinVoting ttl={p.lifetime.text} {thresholds p.thresholds} counting={p.counting.name}"
  | .conviction p =>
    s!"ConvictionVoting ttl={p.lifetime.text} {thresholds p.thresholds} decay={p.decay.text}"
  | .sealed p =>
    s!"PlcrVoting commit={p.commitDuration.text} reveal={p.revealDuration.text} {thresholds p.thresholds}"

/-- The lines of an organization. -/
def organization (id : String) (o : Organization) : String :=
  let title := headline "Organization"
  let executors := ", ".intercalate o.executors
  lines
    [s!"{title}: {id}",
      s!"  Executors: {executors}",
      s!"  Voting:    {votingSystem o.voting}"]

/-- The participation that a supply asks for. -/
def participationNeeded (t : Thresholds) (supply : Balance) : String :=
  s!"> {(Percentage.shareOf t.minParticipation supply).text} of {supply.text}"

/-- What a proposal needs in order to close. -/
def needs (p : Proposal) (supply : Balance) : String :=
  match p.tally with
  | .coin t => participationNeeded t.parameters.thresholds supply
  | .conviction t => s!"expiry after height {(t.endsOn p.createdOn).text}"
  | .sealed t => s!"{participationNeeded t.parameters.thresholds supply} revealed"

/-- The word before the totals of a tally. -/
def totalsLabel : Tally → String
  | .coin _ => "Tally:      "
  | .conviction _ => "Stake:      "
  | .sealed _ => "Revealed:   "

/-- What those counted in a tally are called. -/
def votersLabel : Tally → String
  | .coin _ => "voters"
  | .conviction _ => "voters"
  | .sealed _ => "participants"

/-- The totals of a tally. -/
def totals (t : Tally) : String :=
  let favorable := green t.totals.favorable.text
  let against := red t.totals.against.text
  s!"{totalsLabel t}{favorable} for / {against} against ({t.voterCount} {votersLabel t})"

/-- The lines of a proposal against the supply of its currency. -/
def proposal (p : Proposal) (supply : Balance) : String :=
  let title := headline "Proposal"
  lines
    [s!"{title}: {p.id}",
      s!"  Call:       0x{Hexadecimal.encode p.call}",
      s!"  Created on: {p.createdOn.text}",
      s!"  Needs:      {needs p supply}",
      s!"  {totals p.tally}"]

/-- The lines of several proposals, or of their absence. -/
def proposals (c : Chain) (ps : List Proposal) : String :=
  if ps = [] then lines ["No open proposals"]
  else String.join (ps.map fun p => proposal p (c.supplyOf p.tally.currency))

end Display

/-- Why a run fails with a message. -/
inductive Complaint
  /-- The state cannot be loaded or saved. -/
  | state (fault : StateFault)
  /-- The council refuses. -/
  | refused (refusal : Refusal)
  /-- The call is not hexadecimal. -/
  | badCall (text : String)
  /-- The commitment cannot be read. -/
  | badCommitment (fault : Digest.Fault)
  /-- The reserved currency cannot be minted. -/
  | reservedCurrency
  deriving DecidableEq, Repr

/-- The wording of a complaint. -/
def Complaint.message : Complaint → String
  | .state fault => fault.message
  | .refused refusal => refusal.message
  | .badCall text => s!"invalid call hex '{text}'"
  | .badCommitment fault => s!"invalid commitment: {fault.message}"
  | .reservedCurrency => "currency 0 is reserved"

/-- How a run ends and what it prints. -/
structure Report where
  /-- The exit code. -/
  code : Nat
  /-- What is printed on standard output. -/
  output : String
  /-- The message of a failure. -/
  complaint : Option Complaint
  deriving DecidableEq, Repr

namespace Report

/-- A run that succeeds. -/
def success (output : String) : Report := ⟨0, output, none⟩

/-- A run that fails after some output. -/
def failure (output : String) (complaint : Complaint) : Report := ⟨1, output, some complaint⟩

end Report

namespace Console

/-- The line that tells the version. -/
def versionLine : String := "dorg 0.1.0\n"

/-- The lines that help gives. -/
def helpLines : String :=
  Display.lines <|
    "Decentralized organization governance" :: "" ::
    "Usage: dorg [--config FILE] [--state FILE] COMMAND" :: "" :: "Commands:" ::
      CommandLine.rules.map fun r => "  " ++ r.name

/-- The report of arguments that end early. -/
def early : EarlyEnd → Report
  | .usage => ⟨2, "", none⟩
  | .help => .success helpLines
  | .version => .success versionLine

/-- The call of a hexadecimal text. -/
def callOf (text : String) : Except Complaint Bytes :=
  (Hexadecimal.decodeMarked text).mapError fun _ => .badCall text

/-- What a command does with the council. -/
inductive Task
  /-- Prints something about the council. -/
  | look (view : Council → Except Refusal String)
  /-- Carries out an operation and announces its reply. -/
  | act (operation : Operation) (announce : Reply → String)
  /-- Closes a proposal, and saves whatever comes of it. -/
  | close (id : String)
  /-- Prints a text without regard to the council. -/
  | print (text : String)

/-- A green line with a check mark. -/
def done (text : String) : String := Display.lines [Display.green s!"✓ {text}"]

/-- The announcement of something new. -/
def created (what : String) : Reply → String
  | .identifier id =>
    let mark := Display.green s!"✓ Created {what}"
    Display.lines [s!"{mark} {id}"]
  | _ => ""

/-- The announcement of an attempt to close. -/
def closing : CloseOutcome → String
  | .closed reason =>
    let mark := Display.green "✓ Proposal closed"
    Display.lines [s!"{mark} ({reason.name})"]
  | .notYetClosable => Display.lines [Display.yellow "Proposal is not closable yet"]

/-- The announcement of a height. -/
def heightLine : Reply → String
  | .height height => Display.lines [s!"Height: {height.text}"]
  | _ => ""

/-- The announcement of the supply of a currency. -/
def supplyLine (currency : Currency) : Reply → String
  | .supply supply => Display.lines [s!"Supply of currency {currency.text}: {supply.text}"]
  | _ => ""

/-- What a command comes down to, unless its own texts cannot be read. -/
def task : Command → Except Complaint Task
  | .createOrganization executors voting parameters =>
    .ok (.act (.createOrganizationFrom executors ⟨voting, .ofList parameters⟩)
      (created "organization"))
  | .showOrganization id =>
    .ok (.look fun c => (c.organization id).map (Display.organization id))
  | .applyAs caller organization call => do
    let call ← callOf call
    return .act (.applyAs caller organization call) fun _ => done "Call dispatched"
  | .createProposal organization call => do
    let call ← callOf call
    return .act (.createProposal organization call) (created "proposal")
  | .listProposals organization =>
    .ok (.look fun c => (c.proposalsOf organization).map (Display.proposals c.chain))
  | .vote proposal voter power against =>
    .ok (.act (.submitDecision proposal voter (.vote ⟨!against, power⟩))
      fun _ => done "Vote recorded")
  | .commit proposal voter hash =>
    match Digest.ofText hash with
    | .error fault => .error (.badCommitment fault)
    | .ok digest =>
      .ok (.act (.submitDecision proposal voter (.commit digest))
        fun _ => done "Commitment recorded")
  | .reveal proposal voter power salt against =>
    .ok (.act (.submitDecision proposal voter (.reveal ⟨power, !against, salt⟩))
      fun _ => done "Vote revealed")
  | .close proposal => .ok (.close proposal)
  | .veto proposal caller =>
    .ok (.act (.vetoProposal caller proposal) fun _ => done "Proposal vetoed")
  | .advance blocks => .ok (.act (.advance blocks) heightLine)
  | .mint currency amount =>
    if currency.toNat = 0 then .error .reservedCurrency
    else .ok (.act (.mint currency amount) (supplyLine currency))
  | .commitment power salt against =>
    .ok (.print (Display.lines [(HiddenBallot.commitment ⟨power, !against, salt⟩).text]))

/-- Saves a council behind some output. -/
def saved (c : Council) (d : Disk) (path output : String) : Report × Disk :=
  match c.state.save d path with
  | .ok after => (.success output, after)
  | .error fault => (.failure output (.state fault), d)

/-- Carries out a task and saves the council. -/
def carryOut (c : Council) (d : Disk) (path : String) : Task → Report × Disk
  | .look view =>
    match view c with
    | .error refusal => (.failure "" (.refused refusal), d)
    | .ok output => saved c d path output
  | .act operation announce =>
    match c.perform operation with
    | (.error refusal, _) => (.failure "" (.refused refusal), d)
    | (.ok reply, after) => saved after d path (announce reply)
  | .close id =>
    let (result, after) := c.close id
    match after.state.save d path with
    | .error fault => (.failure "" (.state fault), d)
    | .ok kept =>
      match result with
      | .error refusal => (.failure "" (.refused refusal), kept)
      | .ok outcome => (.success (closing outcome), kept)
  | .print text => (.success text, d)

/-- Carries out a command on the state at a path. Texts of the command that
cannot be read are reported only after the state is loaded. -/
def execute (limits : Limits) (path : String) (d : Disk) (command : Command) : Report × Disk :=
  match task command with
  | .ok (.print text) => (.success text, d)
  | work =>
    match NodeState.load d path with
    | .error fault => (.failure "" (.state fault), d)
    | .ok state =>
      match work with
      | .error complaint => (.failure "" complaint, d)
      | .ok work => carryOut (state.council limits) d path work

/-- The path of the state that an invocation works on. -/
def statePath (settings : Settings) (i : Invocation) : String := i.state.getD settings.stateFile

/-- One run of the program on the given arguments. -/
def run (d : Disk) (arguments : List String) : Report × Disk :=
  match CommandLine.read arguments with
  | .error how => (early how, d)
  | .ok i =>
    let settings := Settings.load d i.config
    execute settings.limits (statePath settings i) d i.command

end Console

end OrgGovernance
