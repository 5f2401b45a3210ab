import OrgGovernance.Proofs.SealedPhases
import OrgGovernance.Proofs.VoterProgress

/-!
# Committed ballots can be revealed

The entry of a voter on a stored proposal under sealed voting follows from the
decisions that were taken from the voter since the proposal was opened. Who has
committed to a ballot and has revealed none can therefore reveal it between the
ends of the two phases, whatever happened in between. The ballot counts once:
from then on every decision of the voter on the proposal is refused.

The limits are no part of this. A voter who has committed is known to the
proposal and is let in however few voters are allowed by then, so that the
limits may be set anew between any two operations.
-/

namespace OrgGovernance

namespace SealedTally

/-- A tally in which one more ballot is revealed: its power is added to its own side, held at the
largest balance, and the entry of its voter is set. Nothing else is different. -/
structure Counts (t : SealedTally) (voter : String) (ballot : HiddenBallot) (u : SealedTally) :
    Prop where
  /-- The parameters are those of before. -/
  parameters : u.parameters = t.parameters
  /-- The power is added to the side of the ballot. -/
  own : (u.totals.side ballot.inSupport).toNat =
    min ((t.totals.side ballot.inSupport).toNat + ballot.power.toNat) (Word.greatest 128)
  /-- The other side is as before. -/
  other : u.totals.side (!ballot.inSupport) = t.totals.side (!ballot.inSupport)
  /-- The entry of the voter is the ballot, and all others are as before. -/
  entries : ∀ name, u.entries.find? name =
    if name = voter then some (.revealed ballot) else t.entries.find? name

/-- Setting the entry of a voter to a revealed ballot counts the ballot. -/
theorem counts_set (t : SealedTally) (voter : String) (ballot : HiddenBallot) :
    t.Counts voter ballot (t.set voter (.revealed ballot)) where
  parameters := rfl
  own := by
    have counted := SealedEntry.toNat_side_addTo t.totals (.revealed ballot) ballot.inSupport
    rwa [SealedEntry.powerOn, Ballot.powerOn, if_pos rfl] at counted
  other := by
    cases side : ballot.inSupport <;>
      simp [set, SealedEntry.addTo, Totals.add, Totals.side, side]
  entries name := OrderedMap.find?_insert _ _ _ _

end SealedTally

namespace Council

/-- The council under other limits. -/
def under (c : Council) (limits : Limits) : Council := { c with limits }

/-- A council leads to another one by operations, with their events latest first; between any two
of them the limits may be set anew. -/
inductive Leads (c : Council) : List Event → Council → Prop
  /-- The council leads to itself. -/
  | start : Leads c [] c
  /-- An operation is carried out. -/
  | performed {past : List Event} {last : Council} (led : Leads c past last)
    (operation : Operation) :
    Leads c (⟨last, operation, (last.perform operation).1⟩ :: past) (last.perform operation).2
  /-- The limits are set anew. -/
  | limited {past : List Event} {last : Council} (led : Leads c past last) (limits : Limits) :
    Leads c past (last.under limits)

/-- A council leads to the end of every run. -/
theorem leads_run (c : Council) (operations : List Operation) :
    c.Leads (c.past operations) (c.run operations) := by
  induction operations using List.reverseRecOn with
  | nil => exact .start
  | append_singleton earlier operation ih =>
    rw [past_concat, run_concat]
    exact ih.performed operation

variable {c after : Council} {operation : Operation} {reply : Except Refusal Reply}

/-- Every proposal is stored under its own identifier with the tag of its tally, and under sealed
voting the entry of every voter follows from the decisions taken since the proposal was opened. -/
structure Follows (c : Council) (past : List Event) : Prop where
  /-- Every proposal is stored under its own identifier. -/
  keyed : c.Keyed
  /-- The tag of every proposal is that of its tally. -/
  routed : ∀ id p, c.registry.proposals.find? id = some p → p.tally.systemId = p.voting
  /-- Every entry follows from the decisions that were taken. -/
  entries : ∀ id p t, c.registry.proposals.find? id = some p → p.tally = .sealed t →
    ∀ voter, t.entries.find? voter =
      (decisionsOn id voter past).foldl (SealedEntry.follow voter) none

/-- Without proposals there are no entries. -/
theorem follows_empty (chain : Chain) (limits : Limits) : (empty chain limits).Follows [] where
  keyed := keyed_empty chain limits
  routed _ _ held := nomatch held
  entries _ _ _ held := nomatch held

/-- A transition keeps entries following from decisions. -/
theorem Performs.follows {past : List Event} (t : c.Performs operation reply after)
    (h : c.Follows past) : after.Follows (⟨c, operation, reply⟩ :: past) where
  keyed := t.keyed h.keyed
  routed id p stored := by
    cases t.affects h.keyed id with
    | spared unopened untaken stays => exact h.routed id p (stays p stored)
    | opened _ opens _ _ _ stays =>
      obtain rfl := Option.some.inj (stays.symm.trans stored)
      exact Proposal.lasting_routed.opened _ _ _ _ _
    | @decided voter decision q tally _ unopened takes held _ records stays =>
      obtain rfl := Option.some.inj (stays.symm.trans stored)
      exact (congrArg VotingSystem.id records.system).trans (h.routed id q held)
  entries id p u stored sealed voter := by
    cases t.affects h.keyed id with
    | spared unopened untaken stays =>
      rw [decisionsOn_cons_of_unopened unopened, untaken]
      exact (h.entries id p u (stays p stored) sealed voter).trans
        (congrArg (List.foldl _ none) (List.append_nil _).symm)
    | opened _ opens _ _ _ stays =>
      obtain rfl := Option.some.inj (stays.symm.trans stored)
      rw [decisionsOn_cons_of_opening opens]
      obtain ⟨parameters, rfl⟩ := VotingSystem.eq_fresh_of_freshTally sealed
      rfl
    | @decided name decision q tally _ unopened takes held _ records stays =>
      obtain rfl := Option.some.inj (stays.symm.trans stored)
      obtain rfl : tally = .sealed u := sealed
      obtain ⟨s, before, _⟩ := records.sealed
      rw [before] at records
      rw [Tally.sealed.inj records.eq_take, SealedTally.find?_take,
        decisionsOn_cons_of_unopened unopened, takes, h.entries id q s held before voter]
      by_cases own : name = voter
      · rw [if_pos own, if_pos own]
        exact (List.foldl_concat ..).symm
      · rw [if_neg own, if_neg own]
        exact congrArg (List.foldl _ none) (List.append_nil _).symm

/-- From no proposals on, entries follow from decisions. -/
theorem Leads.follows {chain : Chain} {limits : Limits} {past : List Event}
    (led : (empty chain limits).Leads past c) : c.Follows past := by
  induction led with
  | start => exact follows_empty chain limits
  | performed led operation ih => exact (performs_perform _ operation).follows ih
  | limited led limits ih => exact ⟨ih.keyed, ih.routed, ih.entries⟩

/-- A voter whose last commitment is to a ballot, and who has revealed none, holds the commitment
to it. -/
theorem Follows.committed {past : List Event} (h : c.Follows past) {id voter : String}
    {p : Proposal} {t : SealedTally} {digest : Digest}
    (held : c.registry.proposals.find? id = some p) (sealed : p.tally = .sealed t)
    (committed : latestCommitment (decisionsOn id voter past) = some digest)
    (unrevealed : ∀ ballot, .reveal ballot ∉ decisionsOn id voter past) :
    t.entries.find? voter = some (.committed digest) := by
  rw [h.entries id p t held sealed voter]
  rcases SealedEntry.latestCommitment_foldl_follow voter (decisionsOn id voter past)
    with hidden | ⟨ballot, given, _⟩
  · rw [hidden, committed, Option.map_some]
  · exact absurd given (unrevealed ballot)

/-- A decision of a known voter that is in time is recorded, however few voters are allowed. -/
theorem submitDecision_taken {id voter : String} {decision : Decision} {p : Proposal}
    {tally : Tally} (held : c.registry.proposals.find? id = some p)
    (routed : p.tally.systemId = p.voting)
    (inside : p.tally.checkPhase decision p.createdOn c.chain.height = .ok ())
    (known : p.tally.hasVoter voter = true) (records : Tally.Records voter p.tally decision tally) :
    c.submitDecision id voter decision =
      (.ok (), { c with registry := c.registry.put { p with tally } }) :=
  submitDecision_admitted held routed inside (.inl known) records

/-- The proposal under an identifier, if there is one, is under sealed voting and a voter has
revealed a ballot on it. -/
def Shows (c : Council) (id voter : String) (ballot : HiddenBallot) : Prop :=
  ∀ p, c.registry.proposals.find? id = some p →
    ∃ t, p.tally = .sealed t ∧ t.entries.find? voter = some (.revealed ballot)

/-- What a voter has revealed stays through operations that open no proposal under the
identifier. -/
theorem Leads.shows {id voter : String} {ballot : HiddenBallot} {later : List Event}
    {last : Council} (led : c.Leads later last) (keyed : c.Keyed)
    (shows : c.Shows id voter ballot) (unopened : ∀ e ∈ later, e.opening? id = none) :
    last.Keyed ∧ last.Shows id voter ballot := by
  induction led with
  | start => exact ⟨keyed, shows⟩
  | @performed past middle led operation ih =>
    obtain ⟨keyed', shows'⟩ := ih fun e member => unopened e (List.mem_cons_of_mem _ member)
    have t := middle.performs_perform operation
    refine ⟨t.keyed keyed', fun p stored => ?_⟩
    cases t.affects keyed' id with
    | spared _ untaken stays => exact shows' p (stays p stored)
    | opened _ opens _ _ _ _ => cases opens.symm.trans (unopened _ List.mem_cons_self)
    | @decided name decision q tally _ _ takes held _ records stays =>
      obtain rfl := Option.some.inj (stays.symm.trans stored)
      obtain ⟨t, sealed, shown⟩ := shows' q held
      rw [sealed] at records
      have other : name ≠ voter := by
        rintro rfl
        exact records.unrevealed ballot shown
      refine ⟨_, records.eq_take, ?_⟩
      rw [SealedTally.find?_take, if_neg other]
      exact shown
  | limited led limits ih => exact ih unopened

/-- Every further decision of a voter who has revealed is refused and changes nothing. -/
theorem Shows.refuses {id voter : String} {ballot : HiddenBallot}
    (shows : c.Shows id voter ballot) (decision : Decision) :
    ∃ refusal, c.submitDecision id voter decision = (.error refusal, c) := by
  have t := c.allOrNothing_submitDecision id voter decision
  cases given : c.submitDecision id voter decision with
  | mk answer after =>
    cases answer with
    | error refusal =>
      obtain ⟨-, rfl⟩ := t.of_error given
      exact ⟨refusal, rfl⟩
    | ok done =>
      cases t.of_ok given with
      | @decided _ _ _ p tally held routed inside admitted records =>
        obtain ⟨t, sealed, shown⟩ := shows p held
        rw [sealed] at records
        exact absurd shown (records.unrevealed ballot)

/-- Take any council that a council without organizations and proposals leads to, on any chain and
under any limits, which may be set anew in between, and a proposal of sealed voting that it has
stored. If the last commitment that was taken from a voter on the proposal is to a ballot, and the
voter has revealed none, then between the ends of the two phases the voter is let reveal the
ballot: its power is added to its own side alone, and its entry alone changes. From then on every
decision of the voter is refused and changes nothing, whatever else happens, as long as no other
proposal is opened under the identifier. -/
theorem committed_ballot_counts_once (chain : Chain) (limits : Limits) {past : List Event}
    (led : (empty chain limits).Leads past c) {id voter : String} {p : Proposal} {t : SealedTally}
    {ballot : HiddenBallot} (held : c.registry.proposals.find? id = some p)
    (sealed : p.tally = .sealed t)
    (committed : latestCommitment (decisionsOn id voter past) = some ballot.commitment)
    (unrevealed : ∀ other, .reveal other ∉ decisionsOn id voter past)
    (started : t.commitEndsOn p.createdOn < c.chain.height)
    (running : c.chain.height < t.revealEndsOn p.createdOn) :
    ∃ u after, c.submitDecision id voter (.reveal ballot) = (.ok (), after) ∧
      p.id = id ∧ after = { c with registry := c.registry.put { p with tally := .sealed u } } ∧
      t.Counts voter ballot u ∧
      ∀ later last, after.Leads later last → (∀ e ∈ later, e.opening? id = none) →
        ∀ decision, ∃ refusal, last.submitDecision id voter decision = (.error refusal, last) := by
  have follows := led.follows
  have hidden := follows.committed held sealed committed unrevealed
  have inside : p.tally.checkPhase (.reveal ballot) p.createdOn c.chain.height = .ok () := by
    rw [sealed]
    exact SealedTally.checkPhase_reveal_eq_ok_iff.mpr ⟨started, running⟩
  have known : p.tally.hasVoter voter = true := by
    rw [sealed]
    exact Option.isSome_iff_exists.mpr ⟨_, hidden⟩
  have records : Tally.Records voter p.tally (.reveal ballot)
      (.sealed (t.set voter (.revealed ballot))) := by
    rw [sealed]
    exact .revealed t ballot hidden
  have taken := submitDecision_taken held (follows.routed id p held) inside known records
  have keyed := (performs_perform c (.submitDecision id voter (.reveal ballot))).keyed follows.keyed
  rw [perform, answer_of_eq taken] at keyed
  have named := follows.keyed id p held
  have counts := t.counts_set voter ballot
  have shows : Shows
      { c with
        registry := c.registry.put { p with tally := .sealed (t.set voter (.revealed ballot)) } }
      id voter ballot := by
    intro q stored
    rcases Registry.held_of_put stored with ⟨_, rfl⟩ | ⟨apart, _⟩
    · exact ⟨_, rfl, (counts.entries voter).trans (if_pos rfl)⟩
    · exact absurd named.symm apart
  exact ⟨_, _, taken, named, rfl, counts, fun later last led unopened decision =>
    (led.shows keyed shows unopened).2.refuses decision⟩

/-- Anna, who has replaced an earlier commitment, can reveal her ballot after bert has revealed his
and no voters are allowed any more. -/
theorem anna_reveals_though_none_allowed :
    let anna : HiddenBallot := ⟨30, true, 11⟩
    let bert : HiddenBallot := ⟨20, false, 12⟩
    let parameters : SealedParameters := ⟨5, 5, ⟨1, 50, 33⟩⟩
    let owner := Identifier.organization 1
    let id := Identifier.proposal owner [7] 0
    let operations : List Operation :=
      [.createOrganization [] (.sealed parameters), .createProposal owner [7],
        .submitDecision id "anna" (.commit bert.commitment),
        .submitDecision id "bert" (.commit bert.commitment),
        .submitDecision id "anna" (.commit anna.commitment), .advance 6,
        .submitDecision id "bert" (.reveal bert)]
    let start := empty .genesis .standard
    let c := (start.run operations).under ⟨0, 0⟩
    let t : SealedTally := ⟨parameters,
      .ofList [("anna", .committed anna.commitment), ("bert", .revealed bert)], ⟨0, 20⟩⟩
    let p : Proposal := ⟨id, owner, [7], .sealed, 0, .sealed t⟩
    start.Leads (start.past operations) c ∧ c.registry.proposals.find? id = some p ∧
      decisionsOn id "anna" (start.past operations) =
        [.commit bert.commitment, .commit anna.commitment] ∧
      t.commitEndsOn p.createdOn < c.chain.height ∧ c.chain.height < t.revealEndsOn p.createdOn ∧
      ∃ u after, c.submitDecision id "anna" (.reveal anna) = (.ok (), after) ∧
        t.Counts "anna" anna u ∧
        ∀ later last, after.Leads later last → (∀ e ∈ later, e.opening? id = none) →
          ∀ decision, ∃ refusal,
            last.submitDecision id "anna" decision = (.error refusal, last) := by
  intro anna bert parameters owner id operations start c t p
  have led : start.Leads (start.past operations) c := (leads_run start operations).limited ⟨0, 0⟩
  -- One evaluation decides all four facts, for each of them runs the same digests.
  obtain ⟨held, decisions, started, running⟩ : c.registry.proposals.find? id = some p ∧
      decisionsOn id "anna" (start.past operations) =
        [.commit bert.commitment, .commit anna.commitment] ∧
      t.commitEndsOn p.createdOn < c.chain.height ∧
      c.chain.height < t.revealEndsOn p.createdOn := by decide +kernel
  have committed : latestCommitment (decisionsOn id "anna" (start.past operations)) =
      some anna.commitment := by
    rw [decisions]
    rfl
  have unrevealed : ∀ other, .reveal other ∉ decisionsOn id "anna" (start.past operations) := by
    intro other
    rw [decisions]
    simp
  obtain ⟨u, after, taken, _, _, counts, final⟩ := committed_ballot_counts_once .genesis .standard
    led held rfl committed unrevealed started running
  exact ⟨led, held, decisions, started, running, u, after, taken, counts, final⟩

end Council

end OrgGovernance
