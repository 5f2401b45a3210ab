import OrgGovernance.Proofs.History
import OrgGovernance.Proofs.WellFormed

/-!
# Registered organizations

A council numbers organizations in order and stores each under the identifier of
its number, and nothing else touches an organization or its number. As long as
no two numbers share an identifier, the organizations of a run are those that it
founded, each as it was founded. A refused founding draws no number, and when
the last number is drawn every further one is refused.
-/

namespace OrgGovernance

/-- There is no next number exactly for the largest one. -/
theorem Word.succ?_eq_none_iff {bits : Nat} {a : Word bits} :
    a.succ? = none ↔ a.toNat = Word.greatest bits := by
  have fits := a.toNat_lt
  unfold Word.succ? Word.ofNat? Word.greatest
  split
  · next below =>
    simp only [reduceCtorEq, false_iff]
    omega
  · next full =>
    simp only [true_iff]
    omega

/-- An organization lists the accounts of a list in increasing order, each once. -/
structure Organization.Lists (o : Organization) (accounts : List String) : Prop where
  /-- The executors stand in increasing order. -/
  sorted : o.executors.Pairwise (· < ·)
  /-- They are the accounts of the list. -/
  members : ∀ account, account ∈ o.executors ↔ account ∈ accounts

/-- An organization lists the executors it was given. -/
theorem Organization.lists_ofExecutors (executors : List String) (voting : VotingSystem) :
    (ofExecutors executors voting).Lists executors :=
  ⟨Roster.ofList_sorted executors, fun _ => Roster.mem_ofList⟩

/-- Whether an operation asks for an organization. -/
def Operation.asksForOrganization : Operation → Bool
  | .createOrganization _ _ => true
  | .createOrganizationFrom _ _ => true
  | _ => false

/-- An organization that was founded: what was asked for and the identifier that was answered. -/
structure Founding where
  /-- The identifier. -/
  id : String
  /-- The executors that were given. -/
  executors : List String
  /-- The voting system that was given or granted. -/
  voting : VotingSystem

/-- The organization under its identifier. -/
def Founding.entry (f : Founding) : String × Organization :=
  (f.id, .ofExecutors f.executors f.voting)

/-- Whether an organization was asked for with success. -/
def Event.founds (e : Event) : Bool :=
  match e.reply with
  | .ok _ => e.operation.asksForOrganization
  | .error _ => false

/-- The founding that an event answers. -/
def Event.founding? (e : Event) : Option Founding :=
  match e.reply, e.operation with
  | .ok (.identifier id), .createOrganization executors voting => some ⟨id, executors, voting⟩
  | .ok (.identifier id), .createOrganizationFrom executors request =>
    request.grant.toOption.map fun voting => ⟨id, executors, voting⟩
  | _, _ => none

/-- An identifier that is answered to an operation which asks for an organization founds it. -/
theorem Event.founding?_of_founds {operation : Operation} {executors : List String}
    {voting : VotingSystem} (founds : operation.Founds executors voting) (c : Council)
    (id : String) :
    (Event.mk c operation (.ok (.identifier id))).founding? = some ⟨id, executors, voting⟩ := by
  cases founds with
  | given => rfl
  | granted _ grant => simp only [founding?, grant, Except.toOption, Option.map_some]

namespace Council

/-- The foundings of a run, in order. -/
def foundings (c : Council) (operations : List Operation) : List Founding :=
  (c.history operations).filterMap Event.founding?

/-- What an event does to the organizations of a council. -/
inductive Registers (c : Council) (e : Event) (after : Council) : Prop
  /-- No organization is founded, and all stay as they are. -/
  | kept (unfounded : e.founding? = none)
    (organizations : after.registry.organizations = c.registry.organizations)
    (created : after.registry.organizationsCreated = c.registry.organizationsCreated)
  /-- An organization is founded under the next number. -/
  | founded {f : Founding} (founds : e.founding? = some f)
    (numbered : f.id = Identifier.organization after.registry.organizationsCreated)
    (organizations : after.registry.organizations =
      c.registry.organizations.insert f.entry.1 f.entry.2)
    (created : after.registry.organizationsCreated.toNat =
      c.registry.organizationsCreated.toNat + 1)

variable {c after : Council} {operation : Operation} {reply : Except Refusal Reply}

/-- A transition founds an organization under the next number or leaves all as they are. -/
theorem Performs.registers (t : c.Performs operation reply after) :
    c.Registers ⟨c, operation, reply⟩ after := by
  cases t with
  | @founded _ executors voting number founds valid few next =>
    have following := (Word.ofNat?_eq_some_iff.mp next).symm
    exact .founded (Event.founding?_of_founds founds c _) rfl rfl following
  | waited closes held routed early => cases closes <;> exact .kept rfl rfl rfl
  | concluded closes held routed due accepting => cases closes <;> exact .kept rfl rfl rfl
  | _ => exact .kept rfl rfl rfl

/-- An organization is asked for with success exactly when an event answers a founding. -/
theorem Performs.founds_eq (t : c.Performs operation reply after) :
    (Event.mk c operation reply).founds = (Event.mk c operation reply).founding?.isSome := by
  cases t with
  | founded founds valid few next =>
    rw [Event.founding?_of_founds founds]
    cases founds <;> rfl
  | waited closes held routed early => cases closes <;> rfl
  | concluded closes held routed due accepting => cases closes <;> rfl
  | rejected closes held routed due rejecting => cases closes <;> rfl
  | _ => rfl

/-- A run has as many foundings as it asks for organizations with success. -/
theorem countP_founds (c : Council) (operations : List Operation) :
    (c.history operations).countP Event.founds = (c.foundings operations).length := by
  rw [foundings, List.length_filterMap_eq_countP]
  refine List.countP_congr fun e member => ?_
  have t := e.before.performs_perform e.operation
  rw [← reply_of_mem_history member] at t
  exact Bool.eq_iff_iff.mp t.founds_eq

/-- The foundings of a run go on from where its first part ends. -/
theorem foundings_append (c : Council) (first later : List Operation) :
    c.foundings (first ++ later) = c.foundings first ++ (c.run first).foundings later := by
  rw [foundings, history_append, List.filterMap_append]
  rfl

/-- The last operation of a run adds its founding, if it answers one. -/
theorem foundings_concat (c : Council) (operations : List Operation) (operation : Operation) :
    c.foundings (operations ++ [operation]) = c.foundings operations ++
      (Event.mk (c.run operations) operation
        ((c.run operations).perform operation).1).founding?.toList :=
  filterMap_history_concat Event.founding? c operations operation

/-- A run counts its foundings, and stores them over the organizations of before. -/
theorem registry_run (c : Council) (operations : List Operation) :
    (c.run operations).registry.organizationsCreated.toNat =
        c.registry.organizationsCreated.toNat + (c.foundings operations).length ∧
      (c.run operations).registry.organizations =
        ((c.foundings operations).map Founding.entry).foldl (fun m e => m.insert e.1 e.2)
          c.registry.organizations := by
  induction operations using List.reverseRecOn with
  | nil => exact ⟨rfl, rfl⟩
  | append_singleton earlier operation ih =>
    obtain ⟨counted, stored⟩ := ih
    rw [run_concat, foundings_concat, List.length_append, List.map_append, List.foldl_append,
      ← stored]
    cases ((c.run earlier).performs_perform operation).registers with
    | kept unfounded organizations created =>
      rw [unfounded, organizations, created, counted]
      exact ⟨rfl, rfl⟩
    | founded founds numbered organizations created =>
      rw [founds, organizations, created, counted]
      exact ⟨rfl, rfl⟩

/-- The foundings of a run are numbered in order. -/
theorem foundings_numbered {c : Council} {operations : List Operation} {k : Nat} {f : Founding}
    (founded : (c.foundings operations)[k]? = some f) :
    ∃ number : Word 32, number.toNat = c.registry.organizationsCreated.toNat + k + 1 ∧
      f.id = Identifier.organization number := by
  induction operations using List.reverseRecOn with
  | nil => cases founded
  | append_singleton earlier operation ih =>
    rw [foundings_concat, List.getElem?_append] at founded
    split at founded
    · exact ih founded
    · next beyond =>
      cases ((c.run earlier).performs_perform operation).registers with
      | kept unfounded _ _ =>
        rw [unfounded] at founded
        cases founded
      | founded founds numbered _ created =>
        rw [founds, Option.toList_some, List.getElem?_singleton] at founded
        split at founded
        · next last =>
          cases founded
          have counted := (registry_run c earlier).1
          exact ⟨_, by omega, numbered⟩
        · cases founded

/-- The identifiers that a run answers for organizations are distinct, as long as no two numbers
share one. -/
theorem foundings_nodup {c : Council} {operations : List Operation}
    (distinct : Identifier.OrganizationsDistinct
      (c.run operations).registry.organizationsCreated) :
    (((c.foundings operations).map Founding.entry).map Prod.fst).Nodup := by
  have counted := (registry_run c operations).1
  rw [List.map_map]
  refine List.pairwise_map.mpr (List.pairwise_iff_getElem.mpr fun i j hi hj before same => ?_)
  obtain ⟨m, first, named⟩ := foundings_numbered (List.getElem?_eq_getElem hi)
  obtain ⟨n, second, named'⟩ := foundings_numbered (List.getElem?_eq_getElem hj)
  have shared : Identifier.organization m = Identifier.organization n :=
    named.symm.trans (same.trans named')
  have drawn : ∀ {l : Word 32} {k : Nat}, l.toNat = c.registry.organizationsCreated.toNat + k + 1 →
      k < (c.foundings operations).length →
      l ≤ (c.run operations).registry.organizationsCreated := by
    intro l k place inside
    rw [Word.le_def]
    omega
  have equal := congrArg Word.toNat
    (distinct m n (by omega) (drawn first hi) (by omega) (drawn second hj) shared)
  omega

/-- Each organization that was founded in a run is stored as it was founded, as long as no two
numbers share an identifier. -/
theorem held_of_founding {c : Council} {operations : List Operation}
    (distinct : Identifier.OrganizationsDistinct
      (c.run operations).registry.organizationsCreated)
    {f : Founding} (founded : f ∈ c.foundings operations) :
    (c.run operations).registry.organizations.find? f.id =
      some (.ofExecutors f.executors f.voting) := by
  rw [(registry_run c operations).2]
  exact OrderedMap.find?_foldl_insert_of_mem _ (foundings_nodup distinct)
    (List.mem_map_of_mem founded)

/-- What is stored in a run without organizations at first was founded in it. -/
theorem founding_of_contains {chain : Chain} {limits : Limits} {operations : List Operation}
    {id : String}
    (stored : ((empty chain limits).run operations).registry.organizations.contains id = true) :
    ∃ f ∈ (empty chain limits).foundings operations, f.id = id := by
  rw [(registry_run _ operations).2, OrderedMap.contains_foldl_insert] at stored
  rcases stored with before | founded
  · cases before
  · simpa [Founding.entry] using founded

/-- Why an operation that asks for an organization is refused. -/
inductive RefusesFounding (c : Council) : Operation → Refusal → Prop
  /-- The request for a voting system is not granted. -/
  | denied (executors : List String) {request : SystemRequest} {fault : SystemFault}
    (ungranted : request.grant = .error fault) :
    RefusesFounding c (.createOrganizationFrom executors request) (.invalidVotingSystem fault)
  /-- The voting system is not acceptable. -/
  | invalid {operation : Operation} {executors : List String} {voting : VotingSystem}
    {fault : SystemFault} (founds : operation.Founds executors voting)
    (invalid : voting.validate = .error fault) :
    RefusesFounding c operation (.invalidVotingSystem fault)
  /-- There are more executors than allowed. -/
  | crowded {operation : Operation} {executors : List String} {voting : VotingSystem}
    (founds : operation.Founds executors voting) (valid : voting.validate = .ok ())
    (many : c.limits.maxExecutors.toNat <
      (Organization.ofExecutors executors voting).executors.length) :
    RefusesFounding c operation (.tooManyExecutors
      (Organization.ofExecutors executors voting).executors.length c.limits.maxExecutors.toNat)
  /-- The last number is drawn. -/
  | exhausted {operation : Operation} {executors : List String} {voting : VotingSystem}
    (founds : operation.Founds executors voting) (valid : voting.validate = .ok ())
    (few : (Organization.ofExecutors executors voting).executors.length ≤
      c.limits.maxExecutors.toNat)
    (full : c.registry.organizationsCreated.toNat = Word.greatest 32) :
    RefusesFounding c operation .organizationsExhausted

section Refusals

variable {executors : List String} {voting : VotingSystem}

/-- An operation that asks for an organization is carried out by registering it. -/
theorem perform_of_founds (c : Council) (founds : operation.Founds executors voting) :
    c.perform operation = c.answer (createOrganization executors voting) .identifier := by
  cases founds with
  | given => rfl
  | granted _ grant =>
    simp only [perform, answer, createOrganizationFrom, grant]
    rfl

/-- No organization is registered once the last number is drawn. -/
theorem perform_exhausted (founds : operation.Founds executors voting)
    (valid : voting.validate = .ok ())
    (few : (Organization.ofExecutors executors voting).executors.length ≤
      c.limits.maxExecutors.toNat)
    (full : c.registry.organizationsCreated.toNat = Word.greatest 32) :
    c.perform operation = (.error .organizationsExhausted, c) := by
  have last : c.registry.organizationsCreated.succ? = none := Word.succ?_eq_none_iff.mpr full
  have refused : c.registry.register c.limits executors voting =
      (.error .organizationsExhausted, c.registry) := by
    simp only [Registry.register, valid, Except.mapError, Step.check_ok_bind,
      Limits.checkExecutors, if_neg (Nat.not_lt.mpr few), Step.get_bind,
      Registry.nextOrganization, last, Step.check_error_bind]
  have step : c.createOrganization executors voting = (.error .organizationsExhausted, c) := by
    rw [createOrganization, Step.get_bind]
    exact Step.within_of_eq refused
  rw [perform_of_founds c founds]
  exact answer_of_eq step

/-- An organization is not registered when one of the checks refuses it. -/
theorem refusesFounding_of_register {r : Registry} {refusal : Refusal}
    (founds : operation.Founds executors voting)
    (refused : c.registry.register c.limits executors voting = (.error refusal, r)) :
    c.RefusesFounding operation refusal := by
  -- The checks stand in the order of the code, each with the passed ones before it.
  rcases Step.check_bind_eq_error refused with invalid | ⟨_, valid, refused⟩
  · cases validity : voting.validate with
    | ok _ =>
      rw [validity] at invalid
      cases invalid
    | error fault =>
      rw [validity] at invalid
      cases invalid
      exact .invalid founds validity
  have valid := voting.yields_validate.of_eq_ok valid
  rcases Step.check_bind_eq_error refused with crowded | ⟨_, few, refused⟩
  · unfold Limits.checkExecutors at crowded
    split at crowded
    · next many =>
      cases crowded
      exact .crowded founds valid many
    · cases crowded
  have few := (c.limits.yields_checkExecutors _).of_eq_ok few
  rw [Step.get_bind] at refused
  rcases Step.check_bind_eq_error refused with unnumbered | ⟨number, next, refused⟩
  · unfold Registry.nextOrganization at unnumbered
    split at unnumbered
    · cases unnumbered
    · next last =>
      cases unnumbered
      exact .exhausted founds valid few (Word.succ?_eq_none_iff.mp last)
  · cases refused

/-- Registering an organization is refused for its voting system, for its executors or for want
of numbers, and then changes nothing. -/
theorem refusesFounding_of_founds (founds : operation.Founds executors voting)
    {refusal : Refusal} (refused : c.perform operation = (.error refusal, after)) :
    c.RefusesFounding operation refusal ∧ after = c := by
  rw [perform_of_founds c founds] at refused
  have cause := refused_of_answer refused
  obtain ⟨-, same⟩ := (c.allOrNothing_createOrganization founds).of_error cause
  rw [createOrganization, Step.get_bind] at cause
  obtain ⟨_, refused⟩ := Step.error_of_within cause
  exact ⟨refusesFounding_of_register founds refused, same⟩

/-- An operation that asks for an organization is refused for one of these reasons, and then
changes nothing. -/
theorem refusesFounding_of_asks (asks : operation.asksForOrganization = true) {refusal : Refusal}
    (refused : c.perform operation = (.error refusal, after)) :
    c.RefusesFounding operation refusal ∧ after = c := by
  cases operation with
  | createOrganization executors voting =>
    exact refusesFounding_of_founds (.given executors voting) refused
  | createOrganizationFrom executors request =>
    cases grant : request.grant with
    | error fault =>
      simp only [perform, answer, createOrganizationFrom, grant] at refused
      cases refused
      exact ⟨.denied executors grant, rfl⟩
    | ok voting => exact refusesFounding_of_founds (.granted executors grant) refused
  | _ => cases asks

end Refusals

/-- An organization is answered exactly when it is stored. -/
theorem organization_eq_ok_iff {id : String} {details : Organization} :
    c.organization id = .ok details ↔ c.registry.organizations.find? id = some details :=
  ⟨(c.registry.yields_organization id).of_eq_ok, organization_held⟩

/-- What a run has stored is still stored, and unchanged, in every longer run, as long as no two
numbers share an identifier. -/
theorem organization_of_longer {chain : Chain} {limits : Limits}
    {earlier operations : List Operation}
    (distinct : Identifier.OrganizationsDistinct
      ((empty chain limits).run operations).registry.organizationsCreated)
    (longer : earlier <+: operations) {id : String} {details : Organization}
    (stored : ((empty chain limits).run earlier).organization id = .ok details) :
    ((empty chain limits).run operations).organization id = .ok details := by
  obtain ⟨later, rfl⟩ := longer
  rw [organization_eq_ok_iff] at stored ⊢
  have present : ((empty chain limits).run earlier).registry.organizations.contains id = true := by
    rw [OrderedMap.contains, stored]
    rfl
  obtain ⟨f, founded, rfl⟩ := founding_of_contains present
  have fewer : ((empty chain limits).run earlier).registry.organizationsCreated ≤
      ((empty chain limits).run (earlier ++ later)).registry.organizationsCreated := by
    rw [run_append, Word.le_def, (registry_run _ later).1]
    exact Nat.le_add_right _ _
  have before := held_of_founding (distinct.mono fewer) founded
  have after : f ∈ (empty chain limits).foundings (earlier ++ later) := by
    rw [foundings_append]
    exact List.mem_append_left _ founded
  rw [held_of_founding distinct after, ← before, stored]

/-- Take any run without organizations at first, on any chain and under any limits, and suppose
that no two of the numbers it draws share an identifier. Its organizations are as many as it asked
for with success, and as many are numbered. They are numbered in order, each is answered with the
executors and the voting system it was founded with, and what is stored at some time is stored
unchanged ever after. An organization is refused for reasons that leave the council, its counter
included, as it was; and a council that has drawn the last number refuses every further one. -/
theorem organizations_append_only (chain : Chain) (limits : Limits) (operations : List Operation)
    (distinct : Identifier.OrganizationsDistinct
      ((empty chain limits).run operations).registry.organizationsCreated) :
    let start := empty chain limits
    let foundings := start.foundings operations
    let after := start.run operations
    let successes := (start.history operations).countP Event.founds
    (foundings.length = successes ∧ after.registry.organizationsCreated.toNat = successes ∧
      after.registry.organizations.size = successes) ∧
    (∀ k f, foundings[k]? = some f →
      ∃ number : Word 32, number.toNat = k + 1 ∧ f.id = Identifier.organization number) ∧
    (∀ f ∈ foundings, ∃ details, after.organization f.id = .ok details ∧
      details.Lists f.executors ∧ details.voting = f.voting) ∧
    (∀ earlier, earlier <+: operations → ∀ id details,
      (start.run earlier).organization id = .ok details → after.organization id = .ok details) ∧
    (∀ (c after : Council) operation refusal, operation.asksForOrganization = true →
      c.perform operation = (.error refusal, after) →
        c.RefusesFounding operation refusal ∧ after = c) ∧
    (∀ (c : Council) operation executors voting, operation.Founds executors voting →
      voting.validate = .ok () →
      (Organization.ofExecutors executors voting).executors.length ≤ c.limits.maxExecutors.toNat →
      c.registry.organizationsCreated.toNat = Word.greatest 32 →
        c.perform operation = (.error .organizationsExhausted, c)) := by
  intro start foundings after successes
  have counted : foundings.length = successes := (countP_founds start operations).symm
  obtain ⟨created, stored⟩ := registry_run start operations
  have size : after.registry.organizations.size = foundings.length := by
    rw [stored, OrderedMap.size_foldl_insert _ (foundings_nodup distinct) fun _ _ => rfl,
      List.length_map]
    exact Nat.zero_add _
  refine ⟨⟨counted, ?_, size.trans counted⟩, fun k f founded => ?_, fun f founded => ?_,
    fun earlier longer id details => organization_of_longer distinct longer,
    fun c after operation refusal asks => refusesFounding_of_asks asks,
    fun c operation executors voting founds => perform_exhausted founds⟩
  · rw [created, ← counted]
    exact Nat.zero_add _
  · obtain ⟨number, place, named⟩ := foundings_numbered founded
    refine ⟨number, ?_, named⟩
    rw [place]
    exact congrArg (· + 1) (Nat.zero_add k)
  · exact ⟨_, organization_eq_ok_iff.mpr (held_of_founding distinct founded),
      Organization.lists_ofExecutors f.executors f.voting, rfl⟩

/-- A run in which a founding is refused between two that succeed. -/
def refusedBetween : List Operation :=
  [.createOrganization ["bob", "anna", "bob"] (.coin ⟨10, ⟨1, 50, 33⟩, .simple⟩),
    .createOrganization ["carl"] (.coin ⟨10, ⟨1, 101, 33⟩, .simple⟩),
    .createOrganization [] (.sealed ⟨5, 5, ⟨1, 50, 33⟩⟩), .advance 3]

/-- A council in which the last number is drawn. -/
def allNumbered : Council :=
  ⟨{ Registry.empty with organizationsCreated := 4294967295 }, .genesis, .standard⟩

/-- The run founds two organizations, the first of them with two executors, while a quorum above one
hundred is refused. The council that has drawn the last number refuses the first founding, too. -/
theorem refusedBetween_founds_two :
    let start := empty .genesis .standard
    let voting : VotingSystem := .coin ⟨10, ⟨1, 50, 33⟩, .simple⟩
    ((start.foundings refusedBetween).map Founding.id =
        [Identifier.organization 1, Identifier.organization 2] ∧
      (start.run refusedBetween).registry.organizations.size = 2) ∧
    (∃ details, (start.run refusedBetween).organization (Identifier.organization 1) = .ok details ∧
      details.Lists ["bob", "anna", "bob"] ∧ details.voting = voting) ∧
    start.RefusesFounding (.createOrganization ["carl"] (.coin ⟨10, ⟨1, 101, 33⟩, .simple⟩))
      (.invalidVotingSystem (.thresholds (.quorumTooHigh 101))) ∧
    allNumbered.perform (.createOrganization ["bob", "anna", "bob"] voting) =
      (.error .organizationsExhausted, allNumbered) := by
  intro start voting
  have numbered : (start.run refusedBetween).registry.organizationsCreated = 2 := by decide +kernel
  have named : (start.foundings refusedBetween).map Founding.id =
      [Identifier.organization 1, Identifier.organization 2] := by decide +kernel
  have first : ⟨Identifier.organization 1, ["bob", "anna", "bob"], voting⟩ ∈
      start.foundings refusedBetween := List.mem_of_getElem? (i := 0) rfl
  obtain ⟨⟨counted, -, size⟩, -, held, -, refused, exhausted⟩ :=
    organizations_append_only .genesis .standard refusedBetween
      (numbered.symm ▸ organizationsDistinct_two)
  have two : (start.foundings refusedBetween).length = 2 := by
    rw [← List.length_map Founding.id, named]
    rfl
  have answered := held _ first
  exact ⟨⟨named, (size.trans counted.symm).trans two⟩, answered, (refused start start _ _ rfl rfl).1,
    exhausted _ _ _ _ (.given _ _) (by decide) (by decide) (by decide)⟩

end Council

end OrgGovernance
