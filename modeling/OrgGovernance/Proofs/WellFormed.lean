import OrgGovernance.Proofs.Transition

/-!
# Well-formed councils

In a well-formed council every organization is acceptable and every proposal
fits its organization: it is stored under its own identifier and its tally is of
the voting system of its organization. A run that starts without organizations
and proposals stays well-formed, as long as no two organizations it numbers
share an identifier.

A roster lists the accounts it was made of in increasing order, each once. In
such a list halving looks at every place where an account can stand, so that it
finds exactly the accounts the roster was made of.
-/

namespace OrgGovernance

namespace Roster

/-- Accounts are listed in strictly increasing order. -/
theorem ofList_sorted (accounts : List String) : (ofList accounts).Pairwise (· < ·) :=
  OrderedMap.keys_increasing _

/-- The accounts of a roster are those it was made of. -/
theorem mem_ofList {accounts : List String} {account : String} :
    account ∈ ofList accounts ↔ account ∈ accounts := by
  rw [ofList, OrderedMap.mem_keys_iff, OrderedMap.contains_ofList]
  simp

section Halving

variable {roster : List String} {middle account : String} {i : Nat}

/-- An account below the one at a place stands before it. -/
theorem mem_take_of_lt (sorted : roster.Pairwise (· < ·)) (at_place : roster[i]? = some middle)
    (below : account < middle) (member : account ∈ roster) : account ∈ roster.take i := by
  obtain ⟨inside, rfl⟩ := List.getElem?_eq_some_iff.mp at_place
  obtain ⟨j, bound, rfl⟩ := List.mem_iff_getElem.mp member
  have before : j < i := by
    by_contra behind
    rcases Nat.eq_or_lt_of_not_lt behind with rfl | later
    · exact String.lt_irrefl _ below
    · exact String.lt_asymm below (List.pairwise_iff_getElem.mp sorted i j inside bound later)
  exact List.mem_take_iff_getElem.mpr ⟨j, Nat.lt_min.mpr ⟨before, bound⟩, rfl⟩

/-- An account that is not below the one at a place stands there or behind it. -/
theorem mem_drop_of_not_lt (sorted : roster.Pairwise (· < ·)) (at_place : roster[i]? = some middle)
    (reached : ¬account < middle) (member : account ∈ roster) : account ∈ roster.drop i := by
  obtain ⟨inside, rfl⟩ := List.getElem?_eq_some_iff.mp at_place
  obtain ⟨j, bound, rfl⟩ := List.mem_iff_getElem.mp member
  have behind : i ≤ j := by
    by_contra before
    exact reached (List.pairwise_iff_getElem.mp sorted j i bound inside (Nat.lt_of_not_le before))
  refine List.mem_drop_iff_getElem.mpr ⟨j - i, by omega, ?_⟩
  simp only [Nat.add_sub_cancel' behind]

end Halving

/-- Halving finds exactly the accounts of a list in increasing order. -/
theorem holds_eq_true_iff {roster : List String} (sorted : roster.Pairwise (· < ·))
    (account : String) : holds roster account = true ↔ account ∈ roster := by
  fun_induction holds roster account with
  | case1 => simp
  | case2 only => simp [eq_comm]
  | case3 first second rest all half above ih =>
    -- The part that is kept reaches at least as far as the middle.
    obtain ⟨middle, found, greater⟩ := (Option.any_eq_true ..).mp above
    have below : account < middle := by
      rw [decide_eq_true_eq, Std.OrientedCmp.gt_iff_lt] at greater
      exact compareOfLessAndEq_eq_lt.mp greater
    have far : half ≤ all.length - half := by
      have := Nat.div_mul_le_self all.length 2
      omega
    rw [ih sorted.take]
    refine ⟨List.mem_of_mem_take, fun member => ?_⟩
    exact List.take_subset_take_left all far (mem_take_of_lt sorted found below member)
  | case4 first second rest all half reached ih =>
    have inside : half < all.length := Nat.div_lt_self (Nat.succ_pos _) (Nat.lt_succ_self 1)
    have found : all[half]? = some all[half] := List.getElem?_eq_getElem inside
    have notBelow : ¬account < all[half] := by
      intro below
      rw [found, Option.any_some, decide_eq_true_eq, Std.OrientedCmp.gt_iff_lt] at reached
      exact reached (compareOfLessAndEq_eq_lt.mpr below)
    rw [ih sorted.drop]
    exact ⟨List.mem_of_mem_drop, mem_drop_of_not_lt sorted found notBelow⟩

end Roster

/-- The executors of an organization are the accounts it was given. -/
theorem Organization.isExecutor_ofExecutors (executors : List String) (voting : VotingSystem)
    (account : String) :
    (ofExecutors executors voting).isExecutor account = true ↔ account ∈ executors :=
  (Roster.holds_eq_true_iff (Roster.ofList_sorted executors) account).trans Roster.mem_ofList

/-- An organization stored under an identifier is numbered, valid, sorted and small. -/
structure Organization.Fits (created : Word 32) (limits : Limits) (id : String)
    (o : Organization) : Prop where
  /-- The identifier is derived from a number that was drawn. -/
  numbered : ∃ number : Word 32, 0 < number.toNat ∧ number ≤ created ∧
    id = Identifier.organization number
  /-- The voting system is acceptable. -/
  valid : o.voting.validate = .ok ()
  /-- Executors are listed in order, each once. -/
  sorted : o.executors.Pairwise (· < ·)
  /-- There are no more executors than allowed. -/
  few : o.executors.length ≤ limits.maxExecutors.toNat

/-- A proposal stored under an identifier agrees with its organization. -/
structure Proposal.Fits (organizations : OrderedMap String Organization) (height : Height)
    (limits : Limits) (id : String) (p : Proposal) : Prop where
  /-- The proposal is stored under its own identifier. -/
  named : p.id = id
  /-- The identifier is derived from the organization, the call and some number. -/
  derived : ∃ number, p.id = Identifier.proposal p.organization p.call number
  /-- The organization is registered, and its voting system with all parameters is that
  of the tally and of the tag. -/
  ruled : ∃ o, organizations.find? p.organization = some o ∧ p.voting = o.voting.id ∧
    p.tally.system = o.voting
  /-- The tag is that of the tally. -/
  tagged : p.voting = p.tally.systemId
  /-- The proposal was not created in the future. -/
  begun : p.createdOn ≤ height
  /-- There are no more voters than allowed. -/
  bounded : p.tally.voterCount ≤ limits.maxVoters.toNat

/-- Every organization and every proposal of a council fits. -/
structure Council.WellFormed (c : Council) : Prop where
  /-- Every organization fits under its identifier. -/
  organizations : ∀ id o, c.registry.organizations.find? id = some o →
    o.Fits c.registry.organizationsCreated c.limits id
  /-- Every proposal fits under its identifier. -/
  proposals : ∀ id p, c.registry.proposals.find? id = some p →
    p.Fits c.registry.organizations c.chain.height c.limits id

/-- No two of the first organizations share an identifier. -/
def Identifier.OrganizationsDistinct (created : Word 32) : Prop :=
  ∀ m n : Word 32, 0 < m.toNat → m ≤ created → 0 < n.toNat → n ≤ created →
    organization m = organization n → m = n

/-- Identifiers that are distinct among more organizations are so among fewer. -/
theorem Identifier.OrganizationsDistinct.mono {fewer more : Word 32}
    (h : OrganizationsDistinct more) (le : fewer ≤ more) : OrganizationsDistinct fewer :=
  fun m n hm hm' hn hn' =>
    h m n hm (Nat.le_trans hm' le) hn (Nat.le_trans hn' le)

/-- A decision adds a voter exactly when the voter is new. -/
theorem Tally.Records.voterCount {voter : String} {t after : Tally} {decision : Decision}
    (h : Records voter t decision after) :
    after.voterCount = if t.hasVoter voter then t.voterCount else t.voterCount + 1 := by
  cases h with
  | coin t ballot => exact t.votes.size_insert voter _
  | conviction t ballot => exact t.convictions.size_insert voter _
  | committed t digest hidden => exact t.entries.size_insert voter _
  | revealed t ballot held => exact t.entries.size_insert voter _

/-- A new tally has no voters. -/
theorem VotingSystem.freshTally_voterCount (system : VotingSystem) :
    system.freshTally.voterCount = 0 := by
  cases system <;> rfl

namespace Council

variable {c : Council}

/-- A council without organizations and proposals is well-formed. -/
theorem wellFormed_empty (chain : Chain) (limits : Limits) :
    WellFormed (empty chain limits) where
  organizations _ _ h := by cases h
  proposals _ _ h := by cases h

namespace WellFormed

/-- A chain that is not lower keeps a council well-formed. -/
theorem withChain (h : c.WellFormed) {chain : Chain} (later : c.chain.height ≤ chain.height) :
    WellFormed { c with chain } where
  organizations := h.organizations
  proposals id p held :=
    let fits := h.proposals id p held
    { fits with begun := Nat.le_trans fits.begun later }

/-- A drawn number keeps a council well-formed. -/
theorem drawNonce (h : c.WellFormed) : WellFormed { c with registry := c.registry.drawNonce } :=
  ⟨h.organizations, h.proposals⟩

/-- Removing a proposal keeps a council well-formed. -/
theorem remove (h : c.WellFormed) (id : String) :
    WellFormed { c with registry := c.registry.remove id } where
  organizations := h.organizations
  proposals other p held := h.proposals other p (Registry.held_of_remove held)

/-- Storing a proposal that fits keeps a council well-formed. -/
theorem put (h : c.WellFormed) {p : Proposal}
    (fits : p.Fits c.registry.organizations c.chain.height c.limits p.id) :
    WellFormed { c with registry := c.registry.put p } where
  organizations := h.organizations
  proposals id other held := by
    rcases Registry.held_of_put held with ⟨rfl, rfl⟩ | ⟨_, kept⟩
    · exact fits
    · exact h.proposals id other kept

/-- Founding an organization under an identifier of its own keeps a council well-formed. -/
theorem found (h : c.WellFormed) {executors : List String} {voting : VotingSystem}
    {number : Word 32} (valid : voting.validate = .ok ())
    (few : (Organization.ofExecutors executors voting).executors.length ≤
      c.limits.maxExecutors.toNat)
    (next : c.registry.organizationsCreated.succ? = some number)
    (distinct : Identifier.OrganizationsDistinct number) :
    WellFormed { c with
      registry := c.registry.found number (Organization.ofExecutors executors voting) } := by
  have step : c.registry.organizationsCreated.toNat + 1 = number.toNat :=
    Word.ofNat?_eq_some_iff.mp next
  constructor
  · intro id o held
    simp only [Registry.found, OrderedMap.find?_insert] at held
    split at held
    · next same =>
      cases held
      refine ⟨⟨number, ?_, Nat.le_refl _, same⟩, valid, Roster.ofList_sorted executors, few⟩
      omega
    · have fits := h.organizations id o held
      obtain ⟨m, positive, drawn, same⟩ := fits.numbered
      have drawn' : m ≤ number := Nat.le_trans drawn (Nat.le_of_succ_le (Nat.le_of_eq step))
      exact { fits with numbered := ⟨m, positive, drawn', same⟩ }
  · intro id p held
    have fits := h.proposals id p held
    obtain ⟨o, owner, ruled⟩ := fits.ruled
    -- The new identifier replaces none: it would be that of an earlier number.
    have other : p.organization ≠ Identifier.organization number := by
      intro same
      obtain ⟨m, positive, drawn, named⟩ := (h.organizations _ o owner).numbered
      rw [Word.le_def] at drawn
      have equal : m = number := by
        refine distinct m number positive ?_ ?_ (Nat.le_refl _) (named.symm.trans same)
        · rw [Word.le_def]
          omega
        · omega
      rw [equal] at drawn
      omega
    have kept : (c.registry.found number (Organization.ofExecutors executors voting)
        ).organizations.find? p.organization = some o := by
      simp only [Registry.found, OrderedMap.find?_insert, if_neg other]
      exact owner
    exact { fits with ruled := ⟨o, kept, ruled⟩ }

/-- A proposal that is opened fits. -/
theorem opened_fits {id : String} {call : Bytes} {details : Organization} {number : Word 64}
    (owner : c.registry.organizations.find? id = some details) :
    (Proposal.opened id call details.voting c.chain.height number).Fits
      c.registry.organizations c.chain.height c.limits
      (Proposal.opened id call details.voting c.chain.height number).id where
  named := rfl
  derived := ⟨number, rfl⟩
  ruled := ⟨details, owner, rfl, Tally.freshTally_system details.voting⟩
  tagged := congrArg VotingSystem.id (Tally.freshTally_system details.voting).symm
  begun := Nat.le_refl _
  bounded := by
    simp only [Proposal.opened, VotingSystem.freshTally_voterCount]
    exact Nat.zero_le _

/-- A proposal on which an admitted voter decides still fits. -/
theorem decided_fits (h : c.WellFormed) {id voter : String} {decision : Decision} {p : Proposal}
    {tally : Tally} (held : c.registry.proposals.find? id = some p)
    (admitted : p.tally.hasVoter voter = true ∨ p.tally.voterCount < c.limits.maxVoters.toNat)
    (records : Tally.Records voter p.tally decision tally) :
    Proposal.Fits c.registry.organizations c.chain.height c.limits p.id { p with tally } := by
  have fits := h.proposals id p held
  obtain ⟨o, owner, tag, system⟩ := fits.ruled
  refine ⟨rfl, fits.derived, ⟨o, owner, tag, records.system.trans system⟩, ?_, fits.begun, ?_⟩
  · rw [fits.tagged]
    exact congrArg VotingSystem.id records.system.symm
  · have bounded := fits.bounded
    rw [records.voterCount]
    rcases admitted with known | room
    · rw [if_pos known]
      exact bounded
    · split
      · exact bounded
      · exact room

/-- Every transition keeps a council well-formed, if identifiers of organizations are distinct. -/
theorem performs (h : c.WellFormed) {operation : Operation} {reply : Except Refusal Reply}
    {after : Council} (t : c.Performs operation reply after)
    (distinct : Identifier.OrganizationsDistinct after.registry.organizationsCreated) :
    after.WellFormed := by
  cases t with
  | refused _ plain => exact h
  | founded founds valid few next => exact h.found valid few next distinct
  | applied owner executor accepting => exact h.withChain (Nat.le_refl _)
  | opened owner free => exact h.drawNonce.put (opened_fits owner)
  | duplicated owner taken => exact h.drawNonce
  | removed held => exact h.remove _
  | decided held routed inside admitted records =>
    have fits := h.decided_fits held admitted records
    exact h.put fits
  | evaluated now supply held routed => exact h
  | waited closes held routed early => exact h
  | concluded closes held routed due accepting =>
    exact (h.remove _).withChain (Nat.le_refl _)
  | rejected closes held routed due rejecting => exact h.remove _
  | vetoed held owner executor => exact h.remove _
  | advanced blocks => exact h.withChain (Performs.advanced blocks).grows.2.1
  | minted currency amount => exact h.withChain (Nat.le_refl _)
  | switched failing => exact h.withChain (Nat.le_refl _)

/-- A run keeps a council well-formed, if identifiers of organizations are distinct. -/
theorem run (h : c.WellFormed) (operations : List Operation)
    (distinct : Identifier.OrganizationsDistinct
      (c.run operations).registry.organizationsCreated) :
    (c.run operations).WellFormed := by
  induction operations using List.reverseRecOn with
  | nil => exact h
  | append_singleton earlier operation ih =>
    rw [run_concat] at distinct ⊢
    have t := (c.run earlier).performs_perform operation
    exact (ih (distinct.mono t.grows.2.2)).performs t distinct

end WellFormed

/-- A run never changes the limits. -/
theorem run_limits (c : Council) (operations : List Operation) :
    (c.run operations).limits = c.limits := by
  induction operations using List.reverseRecOn with
  | nil => rfl
  | append_singleton earlier operation ih =>
    rw [run_concat]
    exact ((c.run earlier).performs_perform operation).grows.1.trans ih

/-- A run in which two organizations are founded, one opens a proposal, and an executor
of it votes before the chain moves on. -/
def twoOrganizations : List Operation :=
  [.createOrganization ["bob", "anna", "bob"] (.coin ⟨10, ⟨1, 50, 33⟩, .simple⟩),
    .createOrganization [] (.sealed ⟨5, 5, ⟨1, 50, 33⟩⟩),
    .createProposal (Identifier.organization 1) [1, 2, 3],
    .submitDecision (Identifier.proposal (Identifier.organization 1) [1, 2, 3] 0) "anna"
      (.vote ⟨true, 7⟩),
    .advance 3]

/-- The first two organizations have identifiers of their own. -/
theorem organizationsDistinct_two : Identifier.OrganizationsDistinct 2 := by
  have apart : Identifier.organization 1 ≠ Identifier.organization 2 := by decide +kernel
  have either : ∀ n : Word 32, 0 < n.toNat → n ≤ 2 → n = 1 ∨ n = 2 := by
    intro n positive small
    have bound : n.toNat ≤ 2 := small
    have cases : n.toNat = 1 ∨ n.toNat = 2 := by omega
    exact cases.imp (fun h => Word.ext h) (fun h => Word.ext h)
  intro m n hm hm' hn hn' same
  rcases either m hm hm' with rfl | rfl
  · rcases either n hn hn' with rfl | rfl
    · rfl
    · exact absurd same apart
  · rcases either n hn hn' with rfl | rfl
    · exact absurd same.symm apart
    · rfl

/-- Every run that starts without organizations and proposals, on any chain and under any
limits, ends well-formed under the same limits, if no two organizations that it numbers
share an identifier. -/
theorem run_empty_wellFormed (chain : Chain) (limits : Limits) (operations : List Operation)
    (distinct : Identifier.OrganizationsDistinct
      ((empty chain limits).run operations).registry.organizationsCreated) :
    ((empty chain limits).run operations).WellFormed ∧
      ((empty chain limits).run operations).limits = limits :=
  ⟨(wellFormed_empty chain limits).run operations distinct, run_limits _ operations⟩

/-- The run that founds two organizations ends well-formed with a proposal on which one
voter has decided. -/
theorem twoOrganizations_wellFormed :
    Identifier.OrganizationsDistinct
        ((empty .genesis .standard).run twoOrganizations).registry.organizationsCreated ∧
      ((empty .genesis .standard).run twoOrganizations).registry.proposals.values.map
        (fun p => p.tally.voterCount) = [1] ∧
      ((empty .genesis .standard).run twoOrganizations).WellFormed ∧
      ((empty .genesis .standard).run twoOrganizations).limits = .standard := by
  have numbered : ((empty .genesis .standard).run twoOrganizations
      ).registry.organizationsCreated = 2 := by decide +kernel
  have distinct : Identifier.OrganizationsDistinct
      ((empty .genesis .standard).run twoOrganizations).registry.organizationsCreated :=
    numbered.symm ▸ organizationsDistinct_two
  exact ⟨distinct, by decide +kernel, run_empty_wellFormed _ _ _ distinct⟩

end Council

end OrgGovernance
