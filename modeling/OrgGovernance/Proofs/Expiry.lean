import OrgGovernance.Proofs.SealedPhases

/-!
# Expiry and the stages before it

A proposal is expired at the heights beyond its creation and the lifetime of its
voting system, as an unbounded sum: the clipped ends of the phases lie beyond
every height exactly when the sum does. The height of creation and the voting
system of a proposal are those of the moment it was opened, and no decision
changes them. What is expired once can therefore be closed for as long as it is
stored.

Under sealed voting a proposal first takes commitments, then reveals, and is
expired in the end. The ends of both phases are clipped sums, one on top of the
other, so that the second is never below the first, however long the phases are.
Each end lies strictly between two stages and belongs to neither: the stages
exclude each other, come in their order, and are not entered a second time.
-/

namespace OrgGovernance

/-- A clipped sum is exceeded exactly when the sum is, since no number of the width exceeds the
largest one. -/
theorem Word.addClipped_lt_iff {bits : Nat} {a b now : Word bits} :
    a.addClipped b < now ↔ a.toNat + b.toNat < now.toNat := by
  have fits := now.toNat_le_greatest
  rw [Word.lt_def, Word.toNat_addClipped]
  omega

/-- The blocks from the creation of a proposal to the end of its voting, as an unbounded sum. -/
def VotingSystem.span : VotingSystem → Nat
  | .coin p => p.lifetime.toNat
  | .conviction p => p.lifetime.toNat
  | .sealed p => p.commitDuration.toNat + p.revealDuration.toNat

/-- A tally is expired exactly beyond the span of its voting system. -/
theorem Tally.isExpired_eq_decide (t : Tally) (createdOn now : Height) :
    t.isExpired createdOn now = decide (createdOn.toNat + t.system.span < now.toNat) := by
  cases t with
  | coin t => exact decide_eq_decide.mpr Word.addClipped_lt_iff
  | conviction t => exact decide_eq_decide.mpr Word.addClipped_lt_iff
  | sealed t =>
    refine decide_eq_decide.mpr (Word.addClipped_lt_iff.trans ?_)
    have fits := now.toNat_le_greatest
    simp only [SealedTally.commitEndsOn, Word.toNat_addClipped, Tally.system, VotingSystem.span]
    omega

/-- A tally that is expired at a height is expired at every later one. -/
theorem Tally.isExpired_mono {t : Tally} {createdOn earlier now : Height}
    (h : t.isExpired createdOn earlier = true) (passed : earlier ≤ now) :
    t.isExpired createdOn now = true := by
  rw [Tally.isExpired_eq_decide, decide_eq_true_eq] at h ⊢
  exact Nat.lt_of_lt_of_le h passed

/-- Two proposals have their beginning in common: the height of creation and the voting system
with all parameters, by tag and by tally. -/
structure Proposal.SharesOrigin (p q : Proposal) : Prop where
  /-- Both were created at one height. -/
  createdOn : q.createdOn = p.createdOn
  /-- Both are tagged with one voting system. -/
  voting : q.voting = p.voting
  /-- Both tallies are of one voting system with the same parameters. -/
  system : q.tally.system = p.tally.system

namespace Proposal.SharesOrigin

/-- A proposal shares its own origin. -/
theorem refl (p : Proposal) : p.SharesOrigin p := ⟨rfl, rfl, rfl⟩

/-- Origins are shared along a chain of proposals. -/
theorem trans {p q r : Proposal} (h : p.SharesOrigin q) (h' : q.SharesOrigin r) :
    p.SharesOrigin r :=
  ⟨h'.createdOn.trans h.createdOn, h'.voting.trans h.voting, h'.system.trans h.system⟩

end Proposal.SharesOrigin

namespace Council

variable {c : Council}

/-- A proposal that stays stored under an identifier keeps its origin through an operation. -/
theorem Leaves.sharesOrigin {id : String} {operation : Operation} {p q : Proposal}
    (h : c.Leaves id operation q) (held : c.registry.proposals.find? id = some p) :
    p.SharesOrigin q := by
  cases h with
  | kept stored =>
    obtain rfl : p = q := Option.some.inj (held.symm.trans stored)
    exact .refl p
  | opened organization named free => exact nomatch held.symm.trans free
  | decided stored inside records =>
    obtain rfl := Option.some.inj (held.symm.trans stored)
    exact ⟨rfl, rfl, records.system⟩

/-- A proposal that stays stored through operations is stored after each one more of them. -/
theorem Keeps.earlier {id : String} {earlier : List Operation} {operation : Operation}
    (stays : c.Keeps id (earlier ++ [operation])) : c.Keeps id earlier :=
  fun part within => stays part (within.trans (List.prefix_append _ _))

/-- A proposal that stays stored keeps its origin. -/
theorem Keeps.sharesOrigin (keyed : c.Keyed) {id : String} {p : Proposal}
    (held : c.registry.proposals.find? id = some p) {operations : List Operation}
    (stays : c.Keeps id operations) :
    ∃ q, (c.run operations).registry.proposals.find? id = some q ∧ p.SharesOrigin q := by
  induction operations using List.reverseRecOn with
  | nil => exact ⟨p, held, .refl p⟩
  | append_singleton earlier operation ih =>
    obtain ⟨q, stored, origin⟩ := ih stays.earlier
    obtain ⟨r, kept⟩ := Option.isSome_iff_exists.mp (stays _ (List.prefix_refl _))
    refine ⟨r, kept, origin.trans ?_⟩
    rw [run_concat] at kept
    have t := (c.run earlier).performs_perform operation
    exact (t.leaves (keyed.run earlier) kept).sharesOrigin stored

/-- The proposal that is stored under an identifier at the end of a run was opened in it, at this
height and under an organization of this voting system, and stayed stored from then on. -/
inductive OpenedIn (c : Council) (operations : List Operation) (id : String) :
    Height → VotingSystem → Prop
  /-- The run splits at the operation that opened the proposal. -/
  | opening {earlier later : List Operation} {owner : String} {call : Bytes}
    {details : Organization} (split : operations = earlier ++ .createProposal owner call :: later)
    (organization : (c.run earlier).registry.organizations.find? owner = some details)
    (replied : ((c.run earlier).createProposal owner call).1 = .ok id)
    (stays : ((c.run earlier).createProposal owner call).2.Keeps id later) :
    OpenedIn c operations id (c.run earlier).chain.height details.voting

/-- A proposal that stays stored through operations and after one more stays stored through all. -/
theorem Keeps.concat {id : String} {earlier : List Operation} {operation : Operation}
    (stays : c.Keeps id earlier)
    (kept : (c.run (earlier ++ [operation])).registry.proposals.contains id = true) :
    c.Keeps id (earlier ++ [operation]) := by
  intro part within
  rcases List.prefix_concat_iff.mp within with rfl | within
  · exact kept
  · exact stays part within

/-- A proposal that was opened in a run and is stored after one more operation was opened in the
longer run. -/
theorem OpenedIn.concat {operations : List Operation} {operation : Operation} {id : String}
    {height : Height} {voting : VotingSystem} (h : c.OpenedIn operations id height voting)
    (kept : (c.run (operations ++ [operation])).registry.proposals.contains id = true) :
    c.OpenedIn (operations ++ [operation]) id height voting := by
  cases h with
  | @opening earlier later owner call details split organization replied stays =>
    have split' : operations ++ [operation] =
        earlier ++ .createProposal owner call :: (later ++ [operation]) := by
      rw [split, List.append_assoc, List.cons_append]
    rw [split', run_append] at kept
    exact .opening split' organization replied (stays.concat kept)

/-- Every proposal that a run without proposals at first has stored was opened in the run, at the
height and under the voting system that it still carries. -/
theorem openedIn_of_held (chain : Chain) (limits : Limits) (operations : List Operation)
    {id : String} {p : Proposal}
    (held : ((empty chain limits).run operations).registry.proposals.find? id = some p) :
    (empty chain limits).OpenedIn operations id p.createdOn p.tally.system := by
  induction operations using List.reverseRecOn generalizing p with
  | nil => cases held
  | append_singleton earlier operation ih =>
    have kept : ((empty chain limits).run (earlier ++ [operation])).registry.proposals.contains
        id = true := Option.isSome_iff_exists.mpr ⟨p, held⟩
    rw [run_concat] at held
    have t := ((empty chain limits).run earlier).performs_perform operation
    cases t.leaves ((keyed_empty chain limits).run earlier) held with
    | kept stored => exact (ih stored).concat kept
    | @opened owner call details organization named free =>
      subst named
      have replied := congrArg Prod.fst (createProposal_free organization free)
      rw [Proposal.opened, Tally.freshTally_system]
      refine .opening rfl organization replied fun part within => ?_
      rw [List.prefix_nil.mp within]
      rw [run_concat] at kept
      exact kept
    | decided stored inside records =>
      rw [records.system]
      exact (ih stored).concat kept

/-- An opening that is answered with an identifier found it free and stores the new proposal
under it. -/
theorem held_of_createProposal {owner : String} {call : Bytes} {details : Organization}
    {id : String} (organization : c.registry.organizations.find? owner = some details)
    (replied : (c.createProposal owner call).1 = .ok id) :
    (c.createProposal owner call).2.registry.proposals.find? id =
      some (.opened owner call details.voting c.chain.height c.registry.nextNonce) := by
  cases stored : c.registry.proposals.find?
      (Identifier.proposal owner call c.registry.nextNonce) with
  | some p =>
    rw [createProposal_taken organization stored] at replied
    cases replied
  | none =>
    rw [createProposal_free organization stored] at replied ⊢
    obtain rfl := Except.ok.inj replied
    exact (OrderedMap.find?_insert _ _ _ _).trans (if_pos rfl)

/-- A proposal still has the height and the voting system under which it was opened. -/
theorem OpenedIn.origin {operations : List Operation} {id : String} {height : Height}
    {voting : VotingSystem} (keyed : c.Keyed) (h : c.OpenedIn operations id height voting) :
    ∃ p, (c.run operations).registry.proposals.find? id = some p ∧ p.createdOn = height ∧
      p.tally.systemId = p.voting ∧ p.tally.system = voting := by
  cases h with
  | @opening earlier later owner call details split organization replied stays =>
    have held := held_of_createProposal organization replied
    have keyed' : ((c.run earlier).createProposal owner call).2.Keyed :=
      ((c.run earlier).performs_perform (.createProposal owner call)).keyed (keyed.run earlier)
    obtain ⟨p, kept, origin⟩ := stays.sharesOrigin keyed' held
    have system : p.tally.system = details.voting :=
      origin.system.trans (Tally.freshTally_system details.voting)
    have run : c.run operations =
        ((c.run earlier).createProposal owner call).2.run later := by
      rw [split, run_append]
      rfl
    refine ⟨p, run ▸ kept, origin.createdOn, ?_, system⟩
    rw [origin.voting]
    exact congrArg VotingSystem.id system

/-- A stored proposal whose tag fits its tally is evaluated as expired exactly beyond the span of
its voting system. -/
theorem evaluate_expired {id : String} {p : Proposal}
    (held : c.registry.proposals.find? id = some p) (routed : p.tally.systemId = p.voting)
    (now : Height) (supply : Balance) : ∃ passing, c.evaluate id now supply =
      .ok ⟨passing, decide (p.createdOn.toNat + p.tally.system.span < now.toNat)⟩ := by
  rw [evaluate_held now supply held routed, Proposal.standing, Tally.isExpired_eq_decide]
  exact ⟨_, rfl⟩

/-- An attempt to close the proposal under an identifier at the current height closes it, whether
or not the chain accepts the call. -/
def Closable (c : Council) (id : String) : Prop :=
  ∃ reason, (c.close id).1 = .ok (.closed reason) ∨
    ∃ organization callLength,
      (c.close id).1 = .error (.dispatchFailed organization callLength (some reason))

/-- A stored proposal that is expired at the current height is closable. -/
theorem closable_of_expired {id : String} {p : Proposal}
    (held : c.registry.proposals.find? id = some p) (routed : p.tally.systemId = p.voting)
    (expired : p.tally.isExpired p.createdOn c.chain.height = true) : c.Closable id := by
  have due : ∃ reason, (p.standing c.chain.height
      (c.chain.supplyOf p.tally.currency)).closeReason? = some reason := by
    simp only [Proposal.standing, Evaluation.closeReason?, expired, if_true]
    split
    · exact ⟨_, rfl⟩
    · exact ⟨_, rfl⟩
  obtain ⟨reason, due⟩ := due
  refine ⟨reason, ?_⟩
  rw [close_held held, tryClose_due held (evaluate_held _ _ held routed) due]
  cases c.chain.failDispatches with
  | true => exact .inr ⟨_, _, rfl⟩
  | false => exact .inl rfl

/-- Take any council that a run without organizations and proposals at first leads to, on any
chain and under any limits, and a proposal that it has stored. The proposal was opened in the run,
and whatever its height and voting system were at that moment, every evaluation finds it expired
exactly beyond their unbounded sum. If one finds it expired at some height, then closing it
succeeds, or fails in the chain alone, after every continuation along which it stays stored, once
that height is reached. -/
theorem expiry_exact_and_lasting (chain : Chain) (limits : Limits) (operations : List Operation)
    {id : String}
    (held : ((empty chain limits).run operations).registry.proposals.contains id = true) :
    let c := (empty chain limits).run operations
    (∃ height voting, (empty chain limits).OpenedIn operations id height voting) ∧
    (∀ height voting, (empty chain limits).OpenedIn operations id height voting →
      ∀ now supply, ∃ passing, c.evaluate id now supply =
        .ok ⟨passing, decide (height.toNat + voting.span < now.toNat)⟩) ∧
    ∀ now supply passing, c.evaluate id now supply = .ok ⟨passing, true⟩ →
      ∀ later, c.Keeps id later → now ≤ (c.run later).chain.height →
        (c.run later).Closable id := by
  intro c
  obtain ⟨p, held⟩ := Option.isSome_iff_exists.mp held
  have keyed : c.Keyed := (keyed_empty chain limits).run operations
  have routed := Proposal.lasting_routed.stored chain limits operations held
  refine ⟨⟨_, _, openedIn_of_held chain limits operations held⟩,
    fun height voting opened now supply => ?_,
    fun now supply passing expired later stays reached => ?_⟩
  · obtain ⟨q, stored, rfl, routed', rfl⟩ := opened.origin (keyed_empty chain limits)
    exact evaluate_expired stored routed' now supply
  · rw [evaluate_held now supply held routed] at expired
    have past : p.tally.isExpired p.createdOn now = true :=
      congrArg Evaluation.expired (Except.ok.inj expired)
    obtain ⟨q, stored, origin⟩ := stays.sharesOrigin keyed held
    have routed' : q.tally.systemId = q.voting := by
      rw [origin.voting, ← routed]
      exact congrArg VotingSystem.id origin.system
    refine closable_of_expired stored routed' (Tally.isExpired_mono ?_ reached)
    rw [Tally.isExpired_eq_decide, origin.createdOn, origin.system, ← Tally.isExpired_eq_decide]
    exact past

/-- A proposal that lapses six blocks after its opening, near the largest height, can still be
closed when a vote has been cast, tokens have been minted and no further height is left. -/
theorem lapsed_stays_closable :
    let chain := { Chain.genesis with height := 18446744073709551607 }
    let id := Identifier.proposal (Identifier.organization 1) [7] 0
    let lapse : List Operation :=
      [.createOrganization [] (.coin ⟨5, ⟨1, 50, 33⟩, .simple⟩),
        .createProposal (Identifier.organization 1) [7], .advance 6]
    let c := (empty chain .standard).run lapse
    let later : List Operation :=
      [.mint 1 500, .submitDecision id "anna" (.vote ⟨false, 9⟩), .advance 100]
    c.registry.proposals.contains id = true ∧
      c.evaluate id c.chain.height 0 = .ok ⟨false, true⟩ ∧ c.Keeps id later ∧
      c.chain.height ≤ (c.run later).chain.height ∧ (c.run later).Closable id := by
  intro chain id lapse c later
  obtain ⟨held, expired, stays, reached⟩ : c.registry.proposals.contains id = true ∧
      c.evaluate id c.chain.height 0 = .ok ⟨false, true⟩ ∧ c.Keeps id later ∧
      c.chain.height ≤ (c.run later).chain.height := by decide +kernel
  have lasting : ∀ now supply passing, c.evaluate id now supply = .ok ⟨passing, true⟩ →
      ∀ later, c.Keeps id later → now ≤ (c.run later).chain.height → (c.run later).Closable id :=
    (expiry_exact_and_lasting chain .standard lapse held).2.2
  exact ⟨held, expired, stays, reached, lasting _ _ _ expired later stays reached⟩

end Council

/-- A clipped sum is not below its first part. -/
theorem Word.le_addClipped {bits : Nat} (a b : Word bits) : a ≤ a.addClipped b :=
  Nat.le_min.mpr ⟨Nat.le_add_right _ _, a.toNat_le_greatest⟩

/-- The stages of a proposal under sealed voting. -/
inductive SealedStage
  /-- Commitments are taken. -/
  | commits
  /-- Reveals are taken. -/
  | reveals
  /-- Voting is over. -/
  | expired
  deriving DecidableEq

/-- The place of a stage among the stages. -/
def SealedStage.place : SealedStage → Nat
  | .commits => 0
  | .reveals => 1
  | .expired => 2

/-- Stages at one place are the same. -/
theorem SealedStage.place_inj {stage other : SealedStage} (h : stage.place = other.place) :
    stage = other := by
  cases stage <;> cases other <;> revert h <;> decide

namespace SealedTally

/-- The stage in which a tally is at a height: some commitment is in time there, some reveal is
in time, or the tally is expired. -/
inductive InStage (t : SealedTally) (createdOn now : Height) : SealedStage → Prop
  /-- A commitment is in time. -/
  | commits {digest : Digest} (taken : t.checkPhase (.commit digest) createdOn now = .ok ()) :
    InStage t createdOn now .commits
  /-- A reveal is in time. -/
  | reveals {ballot : HiddenBallot}
    (taken : t.checkPhase (.reveal ballot) createdOn now = .ok ()) :
    InStage t createdOn now .reveals
  /-- The tally is expired. -/
  | expired (ended : t.isExpired createdOn now = true) : InStage t createdOn now .expired

variable {t : SealedTally} {createdOn earlier now : Height}

/-- The commit phase ends first, or both phases end at one height. -/
theorem commitEndsOn_le_revealEndsOn (t : SealedTally) (createdOn : Height) :
    t.commitEndsOn createdOn ≤ t.revealEndsOn createdOn :=
  Word.le_addClipped _ _

/-- A tally is expired exactly beyond the end of the reveal phase. -/
theorem isExpired_iff : t.isExpired createdOn now = true ↔ t.revealEndsOn createdOn < now := by
  rw [isExpired, decide_eq_true_eq]

/-- The first stage lies before the end of the commit phase. -/
theorem inStage_commits_iff :
    t.InStage createdOn now .commits ↔ now < t.commitEndsOn createdOn := by
  constructor
  · intro inside
    cases inside with
    | commits taken => exact checkPhase_commit_eq_ok_iff.mp taken
  · intro early
    have taken : t.checkPhase (.commit (Sha256.hash [])) createdOn now = .ok () :=
      checkPhase_commit_eq_ok_iff.mpr early
    exact .commits taken

/-- The second stage lies between the ends of the two phases. -/
theorem inStage_reveals_iff : t.InStage createdOn now .reveals ↔
    t.commitEndsOn createdOn < now ∧ now < t.revealEndsOn createdOn := by
  constructor
  · intro inside
    cases inside with
    | reveals taken => exact checkPhase_reveal_eq_ok_iff.mp taken
  · intro between
    have taken : t.checkPhase (.reveal ⟨0, true, 0⟩) createdOn now = .ok () :=
      checkPhase_reveal_eq_ok_iff.mpr between
    exact .reveals taken

/-- The last stage lies beyond the end of the reveal phase. -/
theorem inStage_expired_iff :
    t.InStage createdOn now .expired ↔ t.revealEndsOn createdOn < now := by
  constructor
  · intro inside
    cases inside with
    | expired ended => exact isExpired_iff.mp ended
  · intro late
    exact .expired (isExpired_iff.mpr late)

/-- The entries and totals of a tally do not matter for its stages. -/
theorem inStage_congr {u : SealedTally} (same : u.parameters = t.parameters)
    (stage : SealedStage) : u.InStage createdOn now stage ↔ t.InStage createdOn now stage := by
  have commits : u.commitEndsOn createdOn = t.commitEndsOn createdOn := by
    rw [commitEndsOn, same, commitEndsOn]
  have reveals : u.revealEndsOn createdOn = t.revealEndsOn createdOn := by
    rw [revealEndsOn, commits, same, revealEndsOn]
  cases stage with
  | commits => rw [inStage_commits_iff, inStage_commits_iff, commits]
  | reveals => rw [inStage_reveals_iff, inStage_reveals_iff, commits, reveals]
  | expired => rw [inStage_expired_iff, inStage_expired_iff, reveals]

/-- Between two stages lies a height that belongs to neither. -/
theorem InStage.exists_between {stage later : SealedStage}
    (first : t.InStage createdOn earlier stage) (second : t.InStage createdOn now later)
    (order : stage.place < later.place) :
    ∃ ending : Height, earlier < ending ∧ ending < now := by
  have ends := commitEndsOn_le_revealEndsOn t createdOn
  cases stage with
  | commits =>
    have early := inStage_commits_iff.mp first
    cases later with
    | commits => exact absurd order (Nat.lt_irrefl _)
    | reveals => exact ⟨_, early, (inStage_reveals_iff.mp second).1⟩
    | expired => exact ⟨_, early, Nat.lt_of_le_of_lt ends (inStage_expired_iff.mp second)⟩
  | reveals =>
    have inside := (inStage_reveals_iff.mp first).2
    cases later with
    | commits => cases order
    | reveals => exact absurd order (Nat.lt_irrefl _)
    | expired => exact ⟨_, inside, inStage_expired_iff.mp second⟩
  | expired => exact absurd order (by cases later <;> decide)

/-- Two stages are at least two heights apart, in their order. -/
theorem InStage.add_two_le {stage later : SealedStage} (first : t.InStage createdOn earlier stage)
    (second : t.InStage createdOn now later) (order : stage.place < later.place) :
    earlier.toNat + 2 ≤ now.toNat := by
  obtain ⟨ending, before, behind⟩ := first.exists_between second order
  have before' := Word.lt_def.mp before
  have behind' := Word.lt_def.mp behind
  omega

/-- A tally is in one stage at most at a height. -/
theorem InStage.unique {stage other : SealedStage} (first : t.InStage createdOn now stage)
    (second : t.InStage createdOn now other) : stage = other := by
  refine SealedStage.place_inj ?_
  rcases Nat.lt_trichotomy stage.place other.place with order | same | order
  · have apart := first.add_two_le second order
    omega
  · exact same
  · have apart := second.add_two_le first order
    omega

/-- Under sealed voting with any parameters, and at any height of creation, clipped ends of the
phases included: the stages depend on the parameters alone, and the first two do not depend on
what is committed to or revealed. At one height a proposal is in one stage at most, and from one
stage to a later one there are at least two heights. Commitments that are refused at a height are
refused at all larger ones, reveals that are refused above a height at which they were taken
are refused at all larger ones, and what is expired stays expired. -/
theorem stages_disjoint_and_ordered (t : SealedTally) (createdOn : Height) :
    (∀ u : SealedTally, u.parameters = t.parameters → ∀ now stage,
      u.InStage createdOn now stage ↔ t.InStage createdOn now stage) ∧
    (∀ now, (∀ digest, t.checkPhase (.commit digest) createdOn now = .ok () ↔
        t.InStage createdOn now .commits) ∧
      (∀ ballot, t.checkPhase (.reveal ballot) createdOn now = .ok () ↔
        t.InStage createdOn now .reveals) ∧
      (t.isExpired createdOn now = true ↔ t.InStage createdOn now .expired)) ∧
    (∀ now stage other, t.InStage createdOn now stage → t.InStage createdOn now other →
      stage = other) ∧
    (∀ earlier now stage later, t.InStage createdOn earlier stage →
      t.InStage createdOn now later → stage.place < later.place →
        earlier.toNat + 2 ≤ now.toNat) ∧
    (∀ earlier now, ¬t.InStage createdOn earlier .commits → earlier ≤ now →
      ¬t.InStage createdOn now .commits) ∧
    (∀ opened earlier now, t.InStage createdOn opened .reveals → opened < earlier →
      ¬t.InStage createdOn earlier .reveals → earlier ≤ now → ¬t.InStage createdOn now .reveals) ∧
    ∀ earlier now, t.InStage createdOn earlier .expired → earlier ≤ now →
      t.InStage createdOn now .expired := by
  refine ⟨fun u same now stage => inStage_congr same stage, fun now => ⟨fun digest => ?_,
    fun ballot => ?_, ?_⟩, fun now stage other => InStage.unique,
    fun earlier now stage later => InStage.add_two_le, fun earlier now refused passed taken => ?_,
    fun opened earlier now taken above refused passed again => ?_,
    fun earlier now ended passed => ?_⟩
  · rw [checkPhase_commit_eq_ok_iff, inStage_commits_iff]
  · rw [checkPhase_reveal_eq_ok_iff, inStage_reveals_iff]
  · rw [isExpired_iff, inStage_expired_iff]
  · rw [inStage_commits_iff] at refused taken
    exact refused (Nat.lt_of_le_of_lt passed taken)
  · rw [inStage_reveals_iff] at taken refused again
    exact refused ⟨Nat.lt_trans taken.1 above, Nat.lt_of_le_of_lt passed again.2⟩
  · rw [inStage_expired_iff] at ended ⊢
    exact Nat.lt_of_lt_of_le ended passed

end SealedTally

end OrgGovernance
