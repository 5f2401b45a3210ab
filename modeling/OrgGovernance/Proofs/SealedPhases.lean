import OrgGovernance.Proofs.Atomicity
import OrgGovernance.Proofs.Conservation
import OrgGovernance.Proofs.Passing
import OrgGovernance.Proofs.UniqueReading
import Mathlib.Data.List.Infix

/-!
# The phases of sealed voting

Up to the end of the commit phase every ballot is hidden and nothing counts, so
that no proposal passes. From then on nobody commits: all that can become of an
entry is that its ballot is revealed. The two phases meet in one height, at which
neither commitments nor reveals are taken, and no voter who has revealed is ever
asked for a commitment again.

A hidden ballot can be read back from the bytes that are hashed for it, so that
two ballots behind one commitment are a collision of the digest. Once the commit
phase of a proposal has ended, its entries can only be opened. Whatever else
happens, all continuations in which a voter reveals a ballot therefore reveal the
same one, and it is the ballot that the voter had committed to.
-/

namespace OrgGovernance

namespace SealedEntry

/-- What becomes of the entry of a voter when no commitments are taken: it stays, or the ballot
behind it is revealed. -/
inductive Opens : Option SealedEntry → Option SealedEntry → Prop
  /-- The entry stays, or there is none before and after. -/
  | same (entry : Option SealedEntry) : Opens entry entry
  /-- The ballot behind the commitment is revealed. -/
  | revealed (ballot : HiddenBallot) :
    Opens (some (.committed ballot.commitment)) (some (.revealed ballot))

/-- An entry is opened at most once. -/
theorem Opens.trans {first middle last : Option SealedEntry} (h : Opens first middle)
    (h' : Opens middle last) : Opens first last := by
  cases h with
  | same entry => exact h'
  | revealed ballot =>
    cases h' with
    | same entry => exact .revealed ballot

end SealedEntry

namespace SealedTally

/-- Every ballot is hidden and no power counts. -/
structure Hidden (t : SealedTally) : Prop where
  /-- Every entry is a commitment. -/
  committed : ∀ voter entry, t.entries.find? voter = some entry →
    ∃ digest, entry = .committed digest
  /-- There is no power on either side. -/
  totals : t.totals = Totals.zero

/-- A new tally is hidden. -/
theorem hidden_fresh (parameters : SealedParameters) : (fresh parameters).Hidden where
  committed _ _ held := nomatch held
  totals := rfl

/-- Another commitment leaves a tally hidden. -/
theorem Hidden.commit {t : SealedTally} (h : t.Hidden) (voter : String) (digest : Digest) :
    Hidden { t with entries := t.entries.insert voter (.committed digest) } where
  committed other entry held := by
    rw [OrderedMap.find?_insert] at held
    split at held
    · exact ⟨digest, (Option.some.inj held).symm⟩
    · exact h.committed other entry held
  totals := h.totals

/-- A hidden tally passes against no supply. -/
theorem Hidden.isPassing {t : SealedTally} (h : t.Hidden) (supply : Balance) :
    t.isPassing supply = false := by
  have unfavorable : t.totals.favorable.toNat = 0 := by
    rw [h.totals]
    rfl
  exact t.parameters.thresholds.passed_eq_false_of_unfavorable unfavorable _ supply

/-- Commitments are in time exactly before the end of the commit phase. -/
theorem checkPhase_commit_eq_ok_iff {t : SealedTally} {digest : Digest}
    {createdOn now : Height} :
    t.checkPhase (.commit digest) createdOn now = .ok () ↔ now < t.commitEndsOn createdOn := by
  simp only [checkPhase, window?, Decision.kind, PhaseWindow.covers, decide_eq_true_eq]
  by_cases h : now < t.commitEndsOn createdOn <;> simp [h]

/-- Reveals are in time exactly between the ends of the two phases. -/
theorem checkPhase_reveal_eq_ok_iff {t : SealedTally} {ballot : HiddenBallot}
    {createdOn now : Height} :
    t.checkPhase (.reveal ballot) createdOn now = .ok () ↔
      t.commitEndsOn createdOn < now ∧ now < t.revealEndsOn createdOn := by
  simp only [checkPhase, window?, Decision.kind, PhaseWindow.covers, Bool.and_eq_true,
    decide_eq_true_eq]
  by_cases h : t.commitEndsOn createdOn < now ∧ now < t.revealEndsOn createdOn <;> simp [h]

/-- Up to the end of the commit phase a decision that is taken leaves a tally hidden. -/
theorem Hidden.records {t : SealedTally} {voter : String} {decision : Decision} {after : Tally}
    {createdOn now : Height} (h : t.Hidden)
    (records : Tally.Records voter (.sealed t) decision after)
    (inside : t.checkPhase decision createdOn now = .ok ())
    (running : now ≤ t.commitEndsOn createdOn) : ∃ s, after = .sealed s ∧ s.Hidden := by
  cases records with
  | committed _ digest unrevealed => exact ⟨_, rfl, h.commit voter digest⟩
  | revealed _ ballot held =>
    have late := (checkPhase_reveal_eq_ok_iff.mp inside).1
    exact absurd late (Nat.not_lt.mpr running)

/-- From the end of the commit phase on, a decision that is taken only opens entries. -/
theorem records_opens {t : SealedTally} {voter : String} {decision : Decision} {after : Tally}
    {createdOn now : Height} (records : Tally.Records voter (.sealed t) decision after)
    (inside : t.checkPhase decision createdOn now = .ok ())
    (ended : t.commitEndsOn createdOn ≤ now) :
    ∃ s, after = .sealed s ∧ s.parameters = t.parameters ∧
      ∀ other, SealedEntry.Opens (t.entries.find? other) (s.entries.find? other) := by
  cases records with
  | committed _ digest unrevealed =>
    have early := checkPhase_commit_eq_ok_iff.mp inside
    exact absurd early (Nat.not_lt.mpr ended)
  | revealed _ ballot held =>
    refine ⟨_, rfl, rfl, fun other => ?_⟩
    simp only [OrderedMap.find?_insert]
    split
    · next same =>
      rw [same, held]
      exact .revealed ballot
    · exact .same _

end SealedTally

/-- A tally becomes a sealed one through a decision only from a sealed one. -/
theorem Tally.Records.sealed {voter : String} {before : Tally} {decision : Decision}
    {t : SealedTally} (records : Records voter before decision (.sealed t)) :
    ∃ s, before = .sealed s ∧ s.parameters = t.parameters := by
  cases records with
  | committed s digest unrevealed => exact ⟨s, rfl, rfl⟩
  | revealed s ballot held => exact ⟨s, rfl, rfl⟩

/-- A new tally under sealed voting has no entries. -/
theorem VotingSystem.eq_fresh_of_freshTally {voting : VotingSystem} {t : SealedTally}
    (sealed : voting.freshTally = .sealed t) : ∃ parameters, t = .fresh parameters := by
  cases voting with
  | coin parameters => cases sealed
  | conviction parameters => cases sealed
  | sealed parameters => exact ⟨parameters, (Tally.sealed.inj sealed).symm⟩

/-- Under sealed voting the tally of a proposal is hidden up to the end of its commit phase. -/
theorem Proposal.lasting_hidden : Lasting fun now p =>
    ∀ t, p.tally = .sealed t → now ≤ t.commitEndsOn p.createdOn → t.Hidden where
  later passed h t sealed running := h t sealed (Nat.le_trans passed running)
  opened _ _ voting _ _ t sealed _ := by
    obtain ⟨parameters, rfl⟩ := VotingSystem.eq_fresh_of_freshTally sealed
    exact SealedTally.hidden_fresh parameters
  decided {now p voter decision tally} h inside records t sealed running := by
    obtain rfl : tally = .sealed t := sealed
    obtain ⟨s, before, parameters⟩ := records.sealed
    rw [before] at inside records
    have same : t.commitEndsOn p.createdOn = s.commitEndsOn p.createdOn := by
      simp only [SealedTally.commitEndsOn, parameters]
    have running' : now ≤ s.commitEndsOn p.createdOn := same ▸ running
    obtain ⟨u, after, hidden⟩ := (h s before running').records records inside running'
    exact Tally.sealed.inj after ▸ hidden

/-- The tally of sealed voting, if it is one. -/
def Tally.sealed? : Tally → Option SealedTally
  | .sealed t => some t
  | _ => none

/-- Exactly the tallies of sealed voting are found to be one. -/
theorem Tally.sealed?_eq_some_iff {t : Tally} {s : SealedTally} :
    t.sealed? = some s ↔ t = .sealed s := by
  cases t with
  | coin t => simp [Tally.sealed?]
  | conviction t => simp [Tally.sealed?]
  | sealed t => simp [Tally.sealed?]

namespace Council

/-- The entry of a voter on the proposal of sealed voting under an identifier. -/
def progress? (c : Council) (id voter : String) : Option SealedEntry :=
  (c.registry.proposals.find? id).bind fun p =>
    p.tally.sealed?.bind fun t => t.entries.find? voter

/-- The commit phase of the proposal of sealed voting under an identifier has ended. -/
def CommitsEnded (c : Council) (id : String) : Prop :=
  ∃ p ∈ c.registry.proposals.find? id, ∃ t ∈ p.tally.sealed?,
    t.commitEndsOn p.createdOn ≤ c.chain.height

instance (c : Council) (id : String) : Decidable (c.CommitsEnded id) :=
  inferInstanceAs (Decidable (∃ p ∈ _, ∃ t ∈ Tally.sealed? _, _ ≤ _))

variable {c after : Council} {operation : Operation} {reply : Except Refusal Reply}

/-- The entries on a stored proposal are those of its tally. -/
theorem progress?_held {id : String} {p : Proposal} {t : SealedTally}
    (held : c.registry.proposals.find? id = some p) (sealed : p.tally = .sealed t)
    (voter : String) : c.progress? id voter = t.entries.find? voter := by
  simp only [progress?, held, Option.bind_some, sealed, Tally.sealed?]

/-- Once its commit phase has ended, a proposal that stays stored has only entries opened, and
its commit phase has ended still. -/
theorem Performs.opens (t : c.Performs operation reply after) (keyed : c.Keyed) {id : String}
    (ended : c.CommitsEnded id) {q : Proposal}
    (stays : after.registry.proposals.find? id = some q) :
    after.CommitsEnded id ∧
      ∀ voter, SealedEntry.Opens (c.progress? id voter) (after.progress? id voter) := by
  obtain ⟨p, held, tally, found, past⟩ := ended
  have sealed := Tally.sealed?_eq_some_iff.mp found
  have past' := Nat.le_trans past t.grows.2.1
  cases t.leaves keyed stays with
  | kept stored =>
    obtain rfl : p = q := Option.some.inj (held.symm.trans stored)
    refine ⟨⟨p, stays, tally, found, past'⟩, fun voter => ?_⟩
    rw [progress?_held held sealed, progress?_held stays sealed]
    exact .same _
  | opened organization named free => exact nomatch held.symm.trans free
  | @decided voter decision p' recorded stored inside records =>
    obtain rfl : p = p' := Option.some.inj (held.symm.trans stored)
    rw [sealed] at inside records
    obtain ⟨s, rfl, parameters, opens⟩ := SealedTally.records_opens records inside past
    have same : s.commitEndsOn p.createdOn = tally.commitEndsOn p.createdOn := by
      simp only [SealedTally.commitEndsOn, parameters]
    refine ⟨⟨_, stays, s, rfl, same ▸ past'⟩, fun other => ?_⟩
    rw [progress?_held held sealed, progress?_held stays rfl]
    exact opens other

/-- No evaluation of a proposal says that it passes, and closing it never reports so, whether or
not the chain accepts the call. -/
structure Unpassed (c : Council) (id : String) : Prop where
  /-- At every height and against every supply the proposal is evaluated as not passing. -/
  evaluated : ∀ now supply, ∃ expired, c.evaluate id now supply = .ok ⟨false, expired⟩
  /-- The proposal is not closed as passed. -/
  closed : (c.close id).1 ≠ .ok (.closed .passed)
  /-- Nor is it closed as passed with its call rejected. -/
  rejected : ∀ organization callLength,
    (c.close id).1 ≠ .error (.dispatchFailed organization callLength (some .passed))

/-- Closing reports a proposal passed only if it was evaluated as passing. -/
theorem reason?_close_ne_passed {id : String}
    (evaluated : ∀ now supply, ∃ expired, c.evaluate id now supply = .ok ⟨false, expired⟩) :
    (Event.mk c (.close id) (c.perform (.close id)).1).reason? ≠ some .passed := by
  intro reported
  obtain ⟨other, now, supply, standing, closes, found, passes, _⟩ :=
    (c.performs_perform (.close id)).justified .passed reported
  obtain rfl : id = other := Option.some.inj closes.closing?
  obtain ⟨expired, idle⟩ := evaluated now supply
  obtain rfl : standing = ⟨false, expired⟩ := Except.ok.inj (found.symm.trans idle)
  exact Bool.false_ne_true (passes.mp rfl)

/-- A proposal with a hidden tally of the tagged system is unpassed. -/
theorem unpassed_of_hidden {id : String} {p : Proposal} {t : SealedTally}
    (held : c.registry.proposals.find? id = some p) (routed : p.tally.systemId = p.voting)
    (sealed : p.tally = .sealed t) (hidden : t.Hidden) : c.Unpassed id := by
  have evaluated : ∀ now supply, ∃ expired, c.evaluate id now supply = .ok ⟨false, expired⟩ := by
    intro now supply
    refine ⟨p.tally.isExpired p.createdOn now, ?_⟩
    have idle : p.tally.isPassing supply = false := by
      rw [sealed]
      exact hidden.isPassing supply
    rw [evaluate_held now supply held routed, Proposal.standing, idle]
  refine ⟨evaluated, fun closed => ?_, fun organization callLength rejected => ?_⟩
  · refine reason?_close_ne_passed evaluated ?_
    simp only [perform, answer, closed, Except.map, Event.reason?, Operation.closing?]
  · refine reason?_close_ne_passed evaluated ?_
    simp only [perform, answer, rejected, Except.map, Event.reason?, Operation.closing?,
      Refusal.closed?]

/-- Where every tally in its commit phase is hidden, no voter is told to have revealed already:
a commitment that is in time comes before all reveals. -/
theorem submitDecision_ne_alreadyRevealed
    (hidden : ∀ id p t, c.registry.proposals.find? id = some p → p.tally = .sealed t →
      c.chain.height ≤ t.commitEndsOn p.createdOn → t.Hidden)
    (id voter : String) (decision : Decision) (name : String) :
    (c.submitDecision id voter decision).1 ≠ .error (.alreadyRevealed name) := by
  intro refused
  cases refuses_of_submitDecision refused with
  | @declined p _ held routed inside admitted declined =>
    obtain ⟨t, digest, ballot, sealed, rfl, revealed⟩ := Tally.record_eq_alreadyRevealed declined
    rw [sealed] at inside
    have early := SealedTally.checkPhase_commit_eq_ok_iff.mp inside
    obtain ⟨given, committed⟩ :=
      (hidden id p t held sealed (Nat.le_of_lt early)).committed voter _ revealed
    cases committed

/-- In every run that starts without organizations and proposals, on any chain and under any
limits: up to the end of its commit phase the tally of a proposal under sealed voting is hidden,
so that no evaluation and no closing finds it passed; from that height on every operation that
leaves the proposal stored leaves each entry as it is or opens it; and no voter is ever told to
have revealed already. -/
theorem run_keeps_phases (chain : Chain) (limits : Limits) (operations : List Operation) :
    let c := (empty chain limits).run operations
    (∀ id p t, c.registry.proposals.find? id = some p → p.tally = .sealed t →
      c.chain.height ≤ t.commitEndsOn p.createdOn → t.Hidden ∧ c.Unpassed id) ∧
    (∀ id operation, c.CommitsEnded id →
      (c.perform operation).2.registry.proposals.contains id = true →
      ∀ voter, SealedEntry.Opens (c.progress? id voter)
        ((c.perform operation).2.progress? id voter)) ∧
    ∀ id voter decision name,
      (c.submitDecision id voter decision).1 ≠ .error (.alreadyRevealed name) := by
  intro c
  have hidden : ∀ id p t, c.registry.proposals.find? id = some p → p.tally = .sealed t →
      c.chain.height ≤ t.commitEndsOn p.createdOn → t.Hidden :=
    fun id p t held => Proposal.lasting_hidden.stored chain limits operations held t
  refine ⟨fun id p t held sealed running => ?_, fun id operation ended stays => ?_,
    submitDecision_ne_alreadyRevealed hidden⟩
  · have routed := Proposal.lasting_routed.stored chain limits operations held
    have unrevealed := hidden id p t held sealed running
    exact ⟨unrevealed, unpassed_of_hidden held routed sealed unrevealed⟩
  · obtain ⟨q, kept⟩ := Option.isSome_iff_exists.mp stays
    have keyed : c.Keyed := (keyed_empty chain limits).run operations
    exact ((c.performs_perform operation).opens keyed ended kept).2

end Council

/-- A hidden ballot is determined by its layout. -/
theorem HiddenBallot.encode_inj {a b : HiddenBallot} (h : a.encode = b.encode) : a = b := by
  obtain ⟨power, inSupport, salt⟩ := a
  obtain ⟨power', inSupport', salt'⟩ := b
  have hwidth : (Bytes.littleEndian 16 power.toNat).length =
      (Bytes.littleEndian 16 power'.toNat).length := by
    rw [Bytes.length_littleEndian, Bytes.length_littleEndian]
  obtain ⟨hpower, hrest⟩ := List.append_inj h hwidth
  obtain ⟨hside, hsalt⟩ := List.cons.inj hrest
  obtain rfl : power = power' := Bytes.littleEndian_toNat_inj 16 hpower
  obtain rfl : salt = salt' := Bytes.littleEndian_toNat_inj 8 hsalt
  have hflag : ∀ x y : Bool,
      (if x then (1 : UInt8) else 0) = (if y then 1 else 0) → x = y := by decide
  obtain rfl := hflag inSupport inSupport' hside
  rfl

/-- Ballots that do not collide are equal when they have the same commitment. -/
theorem HiddenBallot.eq_of_commitment_eq {a b : HiddenBallot}
    (apart : Sha256.Apart a.encode b.encode) (h : a.commitment = b.commitment) : a = b :=
  encode_inj (apart h)

/-- An entry that was opened held the ballot before or the commitment to it. -/
theorem SealedEntry.Opens.before_revealed {entry : Option SealedEntry} {ballot : HiddenBallot}
    (h : Opens entry (some (.revealed ballot))) :
    entry = some (.revealed ballot) ∨ entry = some (.committed ballot.commitment) := by
  cases h with
  | same entry => exact .inl rfl
  | revealed ballot => exact .inr rfl

namespace Council

/-- A proposal stays stored before, between and after the operations. -/
def Keeps (c : Council) (id : String) (operations : List Operation) : Prop :=
  ∀ earlier, earlier <+: operations → (c.run earlier).registry.proposals.contains id = true

instance (c : Council) (id : String) (operations : List Operation) :
    Decidable (c.Keeps id operations) :=
  decidable_of_iff (∀ earlier ∈ operations.inits,
    (c.run earlier).registry.proposals.contains id = true)
    (by simp only [Keeps, List.mem_inits])

variable {c : Council}

/-- Once its commit phase has ended, a proposal that stays stored has only entries opened. -/
theorem Keeps.opens (keyed : c.Keyed) {id : String} (ended : c.CommitsEnded id)
    {operations : List Operation} (stays : c.Keeps id operations) :
    (c.run operations).CommitsEnded id ∧
      ∀ voter, SealedEntry.Opens (c.progress? id voter)
        ((c.run operations).progress? id voter) := by
  induction operations using List.reverseRecOn with
  | nil => exact ⟨ended, fun _ => .same _⟩
  | append_singleton earlier operation ih =>
    obtain ⟨ended', opened⟩ :=
      ih fun part hpart => stays part (hpart.trans (List.prefix_append _ _))
    obtain ⟨p, kept⟩ := Option.isSome_iff_exists.mp (stays _ (List.prefix_refl _))
    rw [run_concat] at kept ⊢
    have t := (c.run earlier).performs_perform operation
    obtain ⟨ended'', opens⟩ := t.opens (keyed.run earlier) ended' kept
    exact ⟨ended'', fun voter => (opened voter).trans (opens voter)⟩

/-- Take any council that a run without organizations and proposals at first leads to, in which
the commit phase of a proposal under sealed voting has ended, and any two continuations along
which the proposal stays stored. A voter who has revealed a ballot at the end of each has
revealed the same one, and if the voter was committed when they part, then to that ballot,
unless the two ballots are a collision of the digest. -/
theorem revealed_ballots_agree (chain : Chain) (limits : Limits) (operations : List Operation)
    {id : String} (ended : ((empty chain limits).run operations).CommitsEnded id)
    {first second : List Operation}
    (stays : ((empty chain limits).run operations).Keeps id first)
    (stays' : ((empty chain limits).run operations).Keeps id second)
    {voter : String} {ballot other : HiddenBallot}
    (reveals : (((empty chain limits).run operations).run first).progress? id voter =
      some (.revealed ballot))
    (reveals' : (((empty chain limits).run operations).run second).progress? id voter =
      some (.revealed other))
    (apart : Sha256.Apart ballot.encode other.encode) :
    ballot = other ∧ ∀ digest,
      ((empty chain limits).run operations).progress? id voter = some (.committed digest) →
        digest = ballot.commitment := by
  have keyed := (keyed_empty chain limits).run operations
  have opens := (stays.opens keyed ended).2 voter
  have opens' := (stays'.opens keyed ended).2 voter
  rw [reveals] at opens
  rw [reveals'] at opens'
  rcases opens.before_revealed with shown | hidden
  · -- The ballot was revealed before the continuations part, and a reveal is final.
    rcases opens'.before_revealed with shown' | hidden'
    · have same := shown.symm.trans shown'
      cases same
      exact ⟨rfl, fun digest held => nomatch shown.symm.trans held⟩
    · exact nomatch shown.symm.trans hidden'
  · rcases opens'.before_revealed with shown' | hidden'
    · exact nomatch hidden.symm.trans shown'
    · have same : ballot.commitment = other.commitment :=
        SealedEntry.committed.inj (Option.some.inj (hidden.symm.trans hidden'))
      refine ⟨HiddenBallot.eq_of_commitment_eq apart same, fun digest held => ?_⟩
      exact SealedEntry.committed.inj (Option.some.inj (held.symm.trans hidden))

/-- A run in which anna and bert commit to hidden ballots before the commit phase ends. -/
def sealedVote (anna bert : HiddenBallot) : List Operation :=
  [.createOrganization [] (.sealed ⟨5, 5, ⟨1, 50, 33⟩⟩),
    .createProposal (Identifier.organization 1) [7],
    .submitDecision (Identifier.proposal (Identifier.organization 1) [7] 0) "anna"
      (.commit anna.commitment),
    .submitDecision (Identifier.proposal (Identifier.organization 1) [7] 0) "bert"
      (.commit bert.commitment),
    .advance 5]

/-- Whether anna reveals first, or after bert and another ballot that she had not committed to,
she reveals the same ballot. -/
theorem anna_reveals_one_ballot :
    let anna : HiddenBallot := ⟨30, true, 11⟩
    let bert : HiddenBallot := ⟨20, false, 12⟩
    let id := Identifier.proposal (Identifier.organization 1) [7] 0
    let c := (empty .genesis .standard).run (sealedVote anna bert)
    let first : List Operation := [.advance 1, .submitDecision id "anna" (.reveal anna)]
    let second : List Operation := [.advance 2, .submitDecision id "bert" (.reveal bert),
      .submitDecision id "anna" (.reveal { anna with power := 90 }), .mint 1 500,
      .submitDecision id "anna" (.reveal anna)]
    c.CommitsEnded id ∧ c.Keeps id first ∧ c.Keeps id second ∧
      ∃ ballot other, (c.run first).progress? id "anna" = some (.revealed ballot) ∧
        (c.run second).progress? id "anna" = some (.revealed other) ∧
        ballot = other ∧ ∀ digest, c.progress? id "anna" = some (.committed digest) →
          digest = ballot.commitment := by
  intro anna bert id c first second
  -- One evaluation decides all five facts, for each of them runs the same digests.
  obtain ⟨ended, stays, stays', reveals, reveals'⟩ : c.CommitsEnded id ∧ c.Keeps id first ∧
      c.Keeps id second ∧ (c.run first).progress? id "anna" = some (.revealed anna) ∧
      (c.run second).progress? id "anna" = some (.revealed anna) := by decide +kernel
  exact ⟨ended, stays, stays', anna, anna, reveals, reveals',
    revealed_ballots_agree .genesis .standard (sealedVote anna bert) ended stays stays' reveals
      reveals' fun _ => rfl⟩

end Council

end OrgGovernance
