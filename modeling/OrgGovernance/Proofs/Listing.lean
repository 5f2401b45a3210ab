import OrgGovernance.Proofs.Founding
import Mathlib.Data.List.Nodup

/-!
# Listings of proposals

The open proposals of an organization are listed from the one map of all proposals.
Because each is stored under its own identifier, the order of the map is the order of
the identifiers, and no proposal is stored twice. Because organizations stay registered
once they are, every stored proposal is of a registered organization. The listings of
all registered organizations therefore share the stored proposals out among them. None
of this depends on how identifiers are derived.
-/

namespace OrgGovernance.Council

/-- Every stored proposal is of a registered organization. -/
def Owned (c : Council) : Prop := ∀ id p, c.registry.proposals.find? id = some p →
  c.registry.organizations.contains p.organization = true

section Transitions

variable {c after : Council} {operation : Operation} {reply : Except Refusal Reply}

/-- An organization that is registered stays registered. -/
theorem Performs.registered (t : c.Performs operation reply after) {id : String}
    (registered : c.registry.organizations.contains id = true) :
    after.registry.organizations.contains id = true := by
  cases t.registers with
  | kept _ organizations _ =>
    rw [organizations]
    exact registered
  | founded _ _ organizations _ =>
    rw [organizations, OrderedMap.contains_insert]
    exact .inr registered

/-- A transition keeps every stored proposal with a registered organization. -/
theorem Performs.owned (t : c.Performs operation reply after) (keyed : c.Keyed)
    (owned : c.Owned) : after.Owned := by
  intro id p held
  refine t.registered ?_
  cases t.leaves keyed held with
  | kept stored => exact owned id p stored
  | opened organization named free =>
    rw [OrderedMap.contains]
    exact Option.isSome_of_eq_some organization
  | decided stored inside records =>
    have same := owned id _ stored
    exact same

/-- A run keeps every stored proposal with a registered organization. -/
theorem Owned.run (h : c.Owned) (keyed : c.Keyed) (operations : List Operation) :
    (c.run operations).Owned := by
  induction operations using List.reverseRecOn with
  | nil => exact h
  | append_singleton earlier operation ih =>
    rw [run_concat]
    exact (performs_perform _ operation).owned (keyed.run earlier) ih

/-- Without proposals every one is of a registered organization. -/
theorem owned_empty (chain : Chain) (limits : Limits) : (empty chain limits).Owned :=
  fun _ _ held => nomatch held

end Transitions

section Listings

variable {c : Council}

/-- The listing of an organization is answered exactly when the organization is registered. -/
theorem proposalsOf_eq_ok_iff {owner : String} {listed : List Proposal} :
    c.proposalsOf owner = .ok listed ↔
      c.registry.organizations.contains owner = true ∧ c.registry.proposalsOf owner = listed := by
  unfold proposalsOf organization Registry.organization OrderedMap.contains
  cases c.registry.organizations.find? owner with
  | none => exact iff_of_false nofun fun registered => Bool.false_ne_true registered.1
  | some details =>
    refine ⟨fun answered => ⟨rfl, Except.ok.inj answered⟩, fun registered => ?_⟩
    exact congrArg Except.ok registered.2

/-- A listing has the stored proposals of its organization. -/
theorem mem_proposalsOf_iff {owner : String} {p : Proposal} :
    p ∈ c.registry.proposalsOf owner ↔
      p ∈ c.registry.proposals.values ∧ p.organization = owner := by
  rw [Registry.proposalsOf, List.mem_filter, decide_eq_true_eq]

/-- The identifiers of the stored proposals are the keys they are stored under. -/
theorem Keyed.map_id_values (keyed : c.Keyed) :
    c.registry.proposals.values.map Proposal.id = c.registry.proposals.keys := by
  rw [OrderedMap.values, OrderedMap.keys, List.map_map]
  exact List.map_congr_left fun e member => keyed e.1 e.2 (OrderedMap.mem_entries_iff.mp member)

/-- A listing is in increasing order of the identifiers. -/
theorem Keyed.ids_increasing (keyed : c.Keyed) (owner : String) :
    ((c.registry.proposalsOf owner).map Proposal.id).Pairwise (· < ·) := by
  have all := c.registry.proposals.keys_increasing
  rw [← keyed.map_id_values] at all
  exact all.sublist (List.filter_sublist.map Proposal.id)

/-- A stored proposal is answered under its identifier. -/
theorem Keyed.proposal_of_mem (keyed : c.Keyed) {p : Proposal}
    (stored : p ∈ c.registry.proposals.values) : c.proposal p.id = .ok p := by
  obtain ⟨id, held⟩ := OrderedMap.mem_values_iff.mp stored
  rw [keyed id p held]
  exact proposal_held held

/-- A stored proposal is listed once for its organization, and for no other. -/
theorem Keyed.count_proposalsOf (keyed : c.Keyed) {p : Proposal}
    (stored : p ∈ c.registry.proposals.values) (owner : String) :
    (c.registry.proposalsOf owner).count p = if owner = p.organization then 1 else 0 := by
  have ids : (c.registry.proposals.values.map Proposal.id).Nodup := by
    rw [keyed.map_id_values]
    exact c.registry.proposals.nodup_keys
  have once : (c.registry.proposalsOf owner).Nodup := (List.Nodup.of_map Proposal.id ids).filter _
  have listed : p ∈ c.registry.proposalsOf owner ↔ owner = p.organization := by
    rw [mem_proposalsOf_iff, and_iff_right stored, eq_comm]
  exact once.count.trans (if_congr listed rfl rfl)

end Listings

/-- Take any run without organizations and proposals at first, on any chain and under any limits. For
every organization registered at its end the listing is answered, in strictly increasing order of
the identifiers, and each listed proposal is one of the organization and is answered under its
identifier. Every stored proposal is of a registered organization, whose listing has it once; the
listings of all others do not have it. -/
theorem listings_partition_proposals (chain : Chain) (limits : Limits)
    (operations : List Operation) :
    let c := (empty chain limits).run operations
    (∀ owner, c.registry.organizations.contains owner = true →
      ∃ listed, c.proposalsOf owner = .ok listed ∧
        (listed.map Proposal.id).Pairwise (· < ·) ∧
        ∀ p ∈ listed, p.organization = owner ∧ c.proposal p.id = .ok p) ∧
    (∀ p ∈ c.registry.proposals.values,
      c.registry.organizations.contains p.organization = true ∧
      ∀ owner listed, c.proposalsOf owner = .ok listed →
        listed.count p = if owner = p.organization then 1 else 0) := by
  intro c
  have keyed : c.Keyed := (keyed_empty chain limits).run operations
  have owned : c.Owned := (owned_empty chain limits).run (keyed_empty chain limits) operations
  refine ⟨fun owner registered => ?_, fun p stored => ⟨?_, fun owner listed answered => ?_⟩⟩
  · refine ⟨c.registry.proposalsOf owner, proposalsOf_eq_ok_iff.mpr ⟨registered, rfl⟩,
      keyed.ids_increasing owner, fun p member => ?_⟩
    obtain ⟨stored, organization⟩ := mem_proposalsOf_iff.mp member
    exact ⟨organization, keyed.proposal_of_mem stored⟩
  · obtain ⟨id, held⟩ := OrderedMap.mem_values_iff.mp stored
    exact owned id p held
  · obtain ⟨_, rfl⟩ := proposalsOf_eq_ok_iff.mp answered
    exact keyed.count_proposalsOf stored owner

/-- A run in which two organizations propose one call in turn, and one of the four proposals is
removed. -/
def alternatingProposals : List Operation :=
  let first := Identifier.organization 1
  let second := Identifier.organization 2
  [.createOrganization ["anna"] (.coin ⟨10, ⟨1, 50, 33⟩, .simple⟩),
    .createOrganization [] (.sealed ⟨5, 5, ⟨1, 50, 33⟩⟩), .createProposal first [7],
    .createProposal second [7], .createProposal first [7], .createProposal second [7],
    .removeProposal (Identifier.proposal second [7] 1), .advance 3]

/-- The run stores three proposals. The listing of the first organization is answered in order, and
has its latest proposal once; that of the second does not have it. -/
theorem alternatingProposals_listed :
    let c := (empty .genesis .standard).run alternatingProposals
    let first := Identifier.organization 1
    let p := Proposal.opened first [7] (.coin ⟨10, ⟨1, 50, 33⟩, .simple⟩) 0 2
    c.registry.proposals.size = 3 ∧ c.registry.organizations.contains first = true ∧
      (∃ listed, c.proposalsOf first = .ok listed ∧
        (listed.map Proposal.id).Pairwise (· < ·) ∧
        ∀ q ∈ listed, q.organization = first ∧ c.proposal q.id = .ok q) ∧
      p ∈ c.registry.proposals.values ∧
      ∀ owner listed, c.proposalsOf owner = .ok listed →
        listed.count p = if owner = first then 1 else 0 := by
  intro c first p
  obtain ⟨listings, shares⟩ :=
    listings_partition_proposals .genesis .standard alternatingProposals
  -- One evaluation decides all three facts, for each of them runs the same digests.
  obtain ⟨three, registered, stored⟩ :
      c.registry.proposals.size = 3 ∧ c.registry.organizations.contains first = true ∧
        p ∈ c.registry.proposals.values := by decide +kernel
  exact ⟨three, registered, listings first registered, stored, (shares p stored).2⟩

end OrgGovernance.Council
