import OrgGovernance.Proofs.History
import OrgGovernance.Proofs.UniqueReading
import Mathlib.Data.List.Nodup
import Mathlib.Data.List.Range

/-!
# Identifiers of proposals are never reused

Every attempt to open a proposal of a registered organization draws the next
number, whether or not it succeeds, and what becomes of proposals afterwards
gives none back. The numbers of a run are therefore the first ones in order, and
they are distinct until all numbers of the width are spent. Since a proposal is
named by its number, each attempt up to then finds its identifier free, unless
two of the messages that are hashed for them collide.
-/

namespace OrgGovernance

/-- The number after a remainder is the remainder of the number after. -/
theorem Word.succWrapped_ofNat (bits n : Nat) :
    (Word.ofNat bits n).succWrapped = Word.ofNat bits (n + 1) :=
  Word.ext (Nat.mod_add_mod n (Nat.pow 2 bits) 1)

/-- What a new proposal is named by. -/
structure Naming where
  /-- The organization. -/
  organization : String
  /-- The encoded call. -/
  call : Bytes
  /-- The number that was drawn. -/
  number : Word 64

namespace Naming

/-- The bytes that are hashed for the name. -/
def message (n : Naming) : Bytes :=
  Identifier.preimage Identifier.proposalDomain
    (Identifier.proposalParts n.organization n.call n.number)

/-- The name. -/
def identifier (n : Naming) : String := Identifier.proposal n.organization n.call n.number

/-- Namings of one identifier have one number, if their messages do not collide. -/
theorem number_eq_of_identifier_eq {m n : Naming} (apart : Sha256.Apart m.message n.message)
    (h : m.identifier = n.identifier) : m.number = n.number :=
  Identifier.number_eq_of_preimage_eq (Identifier.preimage_eq_of_derive_eq apart h)

end Naming

namespace Event

/-- The naming of the proposal that an event asks to open in a registered organization. -/
def naming? (e : Event) : Option Naming :=
  match e.operation with
  | .createProposal organization call =>
    if e.before.registry.organizations.contains organization then
      some ⟨organization, call, e.before.registry.nextNonce⟩
    else none
  | _ => none

/-- The identifier that is answered for a proposal that was opened. -/
def opened? (e : Event) : Option String :=
  match e.reply, e.operation with
  | .ok (.identifier id), .createProposal _ _ => some id
  | _, _ => none

/-- Only a number that is next is drawn. -/
theorem number_of_naming? {e : Event} {n : Naming} (h : e.naming? = some n) :
    n.number = e.before.registry.nextNonce := by
  unfold naming? at h
  split at h
  · split at h
    · cases h
      rfl
    · cases h
  · cases h

end Event

namespace Council

/-- The namings of the proposals that a run asks to open in registered organizations, in order. -/
def namings (c : Council) (operations : List Operation) : List Naming :=
  (c.history operations).filterMap Event.naming?

variable {c after : Council} {operation : Operation} {reply : Except Refusal Reply}

/-- The last operation of a run adds its naming, if it has one. -/
theorem namings_concat (c : Council) (operations : List Operation) (operation : Operation) :
    c.namings (operations ++ [operation]) = c.namings operations ++
      (Event.mk (c.run operations) operation
        ((c.run operations).perform operation).1).naming?.toList :=
  filterMap_history_concat Event.naming? c operations operation

/-- An operation that asks for no proposal leaves the next number. -/
theorem Performs.nextNonce_eq (t : c.Performs operation reply after)
    (other : ∀ id call, operation ≠ .createProposal id call) :
    after.registry.nextNonce = c.registry.nextNonce := by
  cases t with
  | opened owner free => exact absurd rfl (other _ _)
  | duplicated owner taken => exact absurd rfl (other _ _)
  | _ => rfl

/-- The next number moves on exactly when a proposal is asked for in a registered organization. -/
theorem nextNonce_perform (c : Council) (operation : Operation) :
    (c.perform operation).2.registry.nextNonce =
      if (Event.mk c operation (c.perform operation).1).naming?.isSome
      then c.registry.nextNonce.succWrapped else c.registry.nextNonce := by
  have t := c.performs_perform operation
  cases operation with
  | createProposal id call =>
    cases owner : c.registry.organizations.find? id with
    | none =>
      simp [perform, answer, createProposal_missing call owner, Event.naming?,
        OrderedMap.contains, owner]
    | some details =>
      cases stored : c.registry.proposals.find?
          (Identifier.proposal id call c.registry.nextNonce) with
      | none =>
        simp [perform, answer, createProposal_free owner stored, Event.naming?,
          OrderedMap.contains, owner, Registry.put, Registry.drawNonce]
      | some p =>
        simp [perform, answer, createProposal_taken owner stored, Event.naming?,
          OrderedMap.contains, owner, Registry.drawNonce]
  | _ => exact t.nextNonce_eq (by rintro id call ⟨⟩)

/-- The numbers that are drawn in a run without proposals at first are the first ones in order,
and the next number is the one after them. -/
theorem numbers_run (chain : Chain) (limits : Limits) (operations : List Operation) :
    let names := (empty chain limits).namings operations
    ((empty chain limits).run operations).registry.nextNonce = Word.ofNat 64 names.length ∧
      names.map Naming.number = (List.range names.length).map (Word.ofNat 64) := by
  induction operations using List.reverseRecOn with
  | nil => exact ⟨rfl, rfl⟩
  | append_singleton earlier operation ih =>
    obtain ⟨next, drawn⟩ := ih
    simp only [run_concat, namings_concat, nextNonce_perform]
    cases named : (Event.mk ((empty chain limits).run earlier) operation
        (((empty chain limits).run earlier).perform operation).1).naming? with
    | none => simpa using ⟨next, drawn⟩
    | some n =>
      have number : n.number = Word.ofNat 64 ((empty chain limits).namings earlier).length :=
        (Event.number_of_naming? named).trans next
      simp [next, drawn, number, Word.succWrapped_ofNat, List.range_succ]

/-- Numbers that are drawn in a run are distinct, as long as the width has enough of them. -/
theorem numbers_nodup {chain : Chain} {limits : Limits} {operations : List Operation}
    (few : ((empty chain limits).namings operations).length ≤ 2 ^ 64) :
    (((empty chain limits).namings operations).map Naming.number).Nodup := by
  rw [(numbers_run chain limits operations).2]
  refine List.Nodup.map_on (fun i hi j hj same => ?_) List.nodup_range
  have remainders : i % 2 ^ 64 = j % 2 ^ 64 := congrArg Word.toNat same
  rw [List.mem_range] at hi hj
  omega

/-- Identifiers that are asked for in a run are distinct, if the numbers suffice and no two
messages collide. -/
theorem identifiers_nodup {chain : Chain} {limits : Limits} {operations : List Operation}
    (few : ((empty chain limits).namings operations).length ≤ 2 ^ 64)
    (apart : ∀ m ∈ (empty chain limits).namings operations,
      ∀ n ∈ (empty chain limits).namings operations, Sha256.Apart m.message n.message) :
    (((empty chain limits).namings operations).map Naming.identifier).Nodup := by
  have numbers := numbers_nodup few
  refine List.Nodup.map_on (fun m hm n hn same => ?_) numbers.of_map
  exact List.inj_on_of_nodup_map numbers hm hn
    (Naming.number_eq_of_identifier_eq (apart m hm n hn) same)

/-- Every proposal that a run has stored is stored under an identifier that was asked for. -/
theorem held_named {chain : Chain} {limits : Limits} {operations : List Operation} {id : String}
    {p : Proposal}
    (held : ((empty chain limits).run operations).registry.proposals.find? id = some p) :
    id ∈ ((empty chain limits).namings operations).map Naming.identifier := by
  induction operations using List.reverseRecOn generalizing p with
  | nil => cases held
  | append_singleton earlier operation ih =>
    rw [run_concat] at held
    rw [namings_concat, List.map_append]
    have t := ((empty chain limits).run earlier).performs_perform operation
    cases t.leaves ((keyed_empty chain limits).run earlier) held with
    | kept stored => exact List.mem_append_left _ (ih stored)
    | opened organization named free =>
      refine List.mem_append_right _ ?_
      simp [Event.naming?, OrderedMap.contains, organization, Naming.identifier, named]
    | decided stored inside records => exact List.mem_append_left _ (ih stored)

/-- A proposal that is asked for in a registered organization is opened when its identifier is
free. -/
theorem reply_of_free {n : Naming}
    (named : (Event.mk c operation (c.perform operation).1).naming? = some n)
    (free : c.registry.proposals.find? n.identifier = none) :
    (c.perform operation).1 = .ok (.identifier n.identifier) := by
  cases operation with
  | createProposal id call =>
    simp only [Event.naming?] at named
    split at named
    · next registered =>
      obtain ⟨details, owner⟩ := Option.isSome_iff_exists.mp registered
      cases named
      exact congrArg Prod.fst (answer_of_eq (createProposal_free owner free))
    · cases named
  | _ => cases named

/-- When the identifiers that are asked for are distinct, each attempt is answered with its
own. -/
theorem reply_of_nodup {chain : Chain} {limits : Limits} {operations : List Operation}
    (distinct : (((empty chain limits).namings operations).map Naming.identifier).Nodup)
    {e : Event} (member : e ∈ (empty chain limits).history operations) {n : Naming}
    (named : e.naming? = some n) : e.reply = .ok (.identifier n.identifier) := by
  induction operations using List.reverseRecOn with
  | nil => cases member
  | append_singleton earlier operation ih =>
    rw [namings_concat, List.map_append] at distinct
    rw [history_concat] at member
    rcases List.mem_append.mp member with before | last
    · exact ih distinct.of_append_left before
    · obtain rfl := List.mem_singleton.mp last
      refine reply_of_free named ?_
      cases stored : ((empty chain limits).run earlier).registry.proposals.find? n.identifier with
      | none => rfl
      | some p =>
        have fresh := List.disjoint_of_nodup_append distinct (held_named stored)
        rw [named] at fresh
        exact absurd (List.mem_singleton_self n.identifier) fresh

/-- An attempt to open a proposal that has no naming is refused for its organization. -/
theorem reply_of_unnamed {id : String} {call : Bytes}
    (unnamed : (Event.mk c (.createProposal id call) reply).naming? = none) :
    (c.perform (.createProposal id call)).1 = .error (.organizationNotFound id) := by
  cases owner : c.registry.organizations.find? id with
  | none =>
    exact congrArg Prod.fst (answer_of_eq (createProposal_missing call owner))
  | some details => simp [Event.naming?, OrderedMap.contains, owner] at unnamed

/-- An event whose naming, if any, is answered opens the proposal that it names. -/
theorem opened?_eq {operations : List Operation} {e : Event} (member : e ∈ c.history operations)
    (answered : ∀ n, e.naming? = some n → e.reply = .ok (.identifier n.identifier)) :
    e.opened? = e.naming?.map Naming.identifier := by
  obtain ⟨before, operation, reply⟩ := e
  have replied : reply = (before.perform operation).1 := reply_of_mem_history member
  cases named : (Event.mk before operation reply).naming? with
  | none =>
    cases operation with
    | createProposal id call =>
      rw [reply_of_unnamed named] at replied
      rw [replied]
      rfl
    | _ => cases reply with
      | error refusal => rfl
      | ok value => cases value <;> rfl
  | some n =>
    obtain rfl : reply = _ := answered n named
    cases operation with
    | createProposal id call => rfl
    | _ => cases named

/-- Take any run without organizations and proposals at first, on any chain and under any limits,
that asks for no more proposals of registered organizations than there are numbers, and suppose
that no two of the messages that are hashed for them collide. Each of these attempts opens its
proposal, so that no identifier is ever found taken, and the identifiers that the run answers for
new proposals are distinct, whatever has become of the earlier proposals. -/
theorem identifiers_never_reused (chain : Chain) (limits : Limits) (operations : List Operation)
    (few : ((empty chain limits).namings operations).length ≤ 2 ^ 64)
    (apart : ∀ m ∈ (empty chain limits).namings operations,
      ∀ n ∈ (empty chain limits).namings operations, Sha256.Apart m.message n.message) :
    let history := (empty chain limits).history operations
    (∀ e ∈ history, ∀ n, e.naming? = some n → e.reply = .ok (.identifier n.identifier)) ∧
      (∀ e ∈ history, ∀ owner call, e.operation = .createProposal owner call →
        ∀ id, e.reply ≠ .error (.duplicatedProposal id)) ∧
      (history.filterMap Event.opened?).Nodup := by
  intro history
  have distinct := identifiers_nodup few apart
  have answered : ∀ e ∈ history, ∀ n, e.naming? = some n →
      e.reply = .ok (.identifier n.identifier) :=
    fun e member n named => reply_of_nodup distinct member named
  refine ⟨answered, fun e member owner call asked id duplicated => ?_, ?_⟩
  · cases named : e.naming? with
    | some n => exact nomatch (answered e member n named).symm.trans duplicated
    | none =>
      obtain ⟨before, operation, reply⟩ := e
      obtain rfl : operation = _ := asked
      have replied := reply_of_mem_history member
      exact nomatch (reply_of_unnamed named).symm.trans (replied.symm.trans duplicated)
  · have opened : history.filterMap Event.opened? =
        ((empty chain limits).namings operations).map Naming.identifier := by
      rw [namings, List.map_filterMap]
      exact List.filterMap_congr fun e member => opened?_eq member (answered e member)
    rw [opened]
    exact distinct

/-- A run in which one call is proposed three times by two organizations, and the earlier proposals
are removed and vetoed in between. -/
def repeatedProposals : List Operation :=
  let first := Identifier.organization 1
  let second := Identifier.organization 2
  [.createOrganization ["anna"] (.coin ⟨10, ⟨1, 50, 33⟩, .simple⟩),
    .createOrganization [] (.sealed ⟨5, 5, ⟨1, 50, 33⟩⟩), .createProposal first [7],
    .removeProposal (Identifier.proposal first [7] 0), .createProposal first [7],
    .createProposal "nobody" [7], .vetoProposal "anna" (Identifier.proposal first [7] 1),
    .createProposal second [7]]

/-- The run is answered with three different identifiers. -/
theorem repeatedProposals_identifiers :
    let history := (empty .genesis .standard).history repeatedProposals
    ((empty .genesis .standard).namings repeatedProposals).length = 3 ∧
      (∀ m ∈ (empty .genesis .standard).namings repeatedProposals,
        ∀ n ∈ (empty .genesis .standard).namings repeatedProposals,
          Sha256.Apart m.message n.message) ∧
      (history.filterMap Event.opened?).length = 3 ∧ (history.filterMap Event.opened?).Nodup := by
  intro history
  -- One evaluation decides all three facts, for each of them runs the same digests.
  obtain ⟨three, apart, opened⟩ :
      ((empty .genesis .standard).namings repeatedProposals).length = 3 ∧
        (∀ m ∈ (empty .genesis .standard).namings repeatedProposals,
          ∀ n ∈ (empty .genesis .standard).namings repeatedProposals,
            Sha256.Apart m.message n.message) ∧
        (history.filterMap Event.opened?).length = 3 := by decide +kernel
  have few : ((empty .genesis .standard).namings repeatedProposals).length ≤ 2 ^ 64 := by
    rw [three]
    decide
  exact ⟨three, apart, opened,
    (identifiers_never_reused .genesis .standard repeatedProposals few apart).2.2⟩

end Council

end OrgGovernance
