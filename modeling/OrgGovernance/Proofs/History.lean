import OrgGovernance.Proofs.Transition

/-!
# Histories of runs

A run leaves a history of events: what was asked, in which council, and what was
replied. What a proposal went through is read off the history alone, from the
operations and their replies.

Seen from one identifier an operation does little: the proposal stays, it is
opened where there was none, or a decision is recorded on it. All other
operations can only remove it. The history tells which. What is claimed of every
stored proposal of a run therefore has to survive decisions and the passing of
time, and nothing else.
-/

namespace OrgGovernance

/-- The proposal that an operation asks to close. -/
def Operation.closing? : Operation → Option String
  | .tryClose id _ _ => some id
  | .close id => some id
  | _ => none

/-- An operation with the council that it was asked of and the reply. -/
structure Event where
  /-- The council before the operation. -/
  before : Council
  /-- The operation. -/
  operation : Operation
  /-- The reply. -/
  reply : Except Refusal Reply

namespace Event

/-- Whether a proposal was opened. -/
def opens (e : Event) : Bool :=
  match e.reply, e.operation with
  | .ok _, .createProposal _ _ => true
  | _, _ => false

/-- Whether a proposal was removed or vetoed. -/
def drops (e : Event) : Bool :=
  match e.reply, e.operation with
  | .ok _, .removeProposal _ => true
  | .ok _, .vetoProposal _ _ => true
  | _, _ => false

/-- The reason reported for closing a proposal, whether or not its call was dispatched. -/
def reason? (e : Event) : Option CloseReason :=
  match e.reply, e.operation.closing? with
  | .ok (.outcome (.closed reason)), some _ => some reason
  | .error refusal, some _ => refusal.closed?
  | _, _ => none

/-- Whether a proposal was closed. -/
def closes (e : Event) : Bool := e.reason?.isSome

/-- The organization and the call for which a proposal of this identifier was opened. -/
def opening? (id : String) (e : Event) : Option (String × Bytes) :=
  match e.reply, e.operation with
  | .ok (.identifier given), .createProposal organization call =>
    if given = id then some (organization, call) else none
  | _, _ => none

/-- The decision of a voter that was taken on the proposal under an identifier. -/
def taken? (id voter : String) (e : Event) : Option Decision :=
  match e.reply, e.operation with
  | .ok _, .submitDecision target name decision =>
    if target = id ∧ name = voter then some decision else none
  | _, _ => none

end Event

/-- The organization and the call of the latest opening of an identifier, among events
listed latest first. -/
def latestOpening (id : String) (past : List Event) : Option (String × Bytes) :=
  past.findSome? (Event.opening? id)

/-- The decisions of a voter that were taken on the proposal under an identifier since it was last
opened, in order, among events listed latest first. -/
def decisionsOn (id voter : String) (past : List Event) : List Decision :=
  ((past.takeWhile fun e => (e.opening? id).isNone).filterMap (Event.taken? id voter)).reverse

/-- No decision was taken on a proposal that has just been opened. -/
theorem decisionsOn_cons_of_opening {id : String} {e : Event} {opening : String × Bytes}
    (opened : e.opening? id = some opening) (voter : String) (past : List Event) :
    decisionsOn id voter (e :: past) = [] := by
  simp [decisionsOn, opened]

/-- The decision that was taken last comes last. -/
theorem decisionsOn_cons_of_unopened {id : String} {e : Event} (unopened : e.opening? id = none)
    (voter : String) (past : List Event) :
    decisionsOn id voter (e :: past) =
      decisionsOn id voter past ++ (e.taken? id voter).toList := by
  cases taken : e.taken? id voter <;> simp [decisionsOn, unopened, taken]

namespace Event

/-- The calls that the chain is to record for an event after an earlier past: the call of an
executor, or that for which the closed proposal was last opened. -/
def dispatches (past : List Event) (e : Event) : List (Option DispatchedCall) :=
  match e.reply, e.operation with
  | .ok _, .applyAs _ organization call => [some ⟨organization, call, e.before.chain.height⟩]
  | .ok (.outcome (.closed _)), operation =>
    operation.closing?.toList.map fun id =>
      (latestOpening id past).map fun opening =>
        ⟨opening.1, opening.2, e.before.chain.height⟩
  | _, _ => []

end Event

/-- The calls that the chain is to record over a past, oldest first. -/
def dispatchesOver : List Event → List (Option DispatchedCall)
  | [] => []
  | e :: earlier => dispatchesOver earlier ++ e.dispatches earlier

namespace Council

/-- The events of a run, oldest first. -/
def history (c : Council) : List Operation → List Event
  | [] => []
  | operation :: later =>
    ⟨c, operation, (c.perform operation).1⟩ :: history (c.perform operation).2 later

/-- The events of a run, latest first. -/
def past (c : Council) (operations : List Operation) : List Event :=
  (c.history operations).reverse

/-- The events of a run go on from where its first part ends. -/
theorem history_append (c : Council) (first later : List Operation) :
    c.history (first ++ later) = c.history first ++ (c.run first).history later := by
  induction first generalizing c with
  | nil => rfl
  | cons operation rest ih =>
    simp only [List.cons_append, history, ih]
    rfl

/-- The last operation of a run is asked of the council that the earlier ones lead to. -/
theorem history_concat (c : Council) (operations : List Operation) (operation : Operation) :
    c.history (operations ++ [operation]) = c.history operations ++
      [⟨c.run operations, operation, ((c.run operations).perform operation).1⟩] :=
  c.history_append operations [operation]

/-- An event of a run is replied to as its operation is. -/
theorem reply_of_mem_history {c : Council} {operations : List Operation} {e : Event}
    (member : e ∈ c.history operations) : e.reply = (e.before.perform e.operation).1 := by
  induction operations generalizing c with
  | nil => cases member
  | cons first later ih =>
    rcases List.mem_cons.mp member with rfl | after
    · rfl
    · exact ih after

/-- What is read off the events of a run gains what is read off the last one. -/
theorem filterMap_history_concat {α : Type} (f : Event → Option α) (c : Council)
    (operations : List Operation) (operation : Operation) :
    (c.history (operations ++ [operation])).filterMap f = (c.history operations).filterMap f ++
      (f ⟨c.run operations, operation, ((c.run operations).perform operation).1⟩).toList := by
  rw [history_concat, List.filterMap_append]
  rfl

/-- The last operation of a run is the latest event. -/
theorem past_concat (c : Council) (operations : List Operation) (operation : Operation) :
    c.past (operations ++ [operation]) =
      ⟨c.run operations, operation, ((c.run operations).perform operation).1⟩ ::
        c.past operations := by
  simp only [past, history_concat, List.reverse_append, List.reverse_cons, List.reverse_nil,
    List.nil_append, List.cons_append]

/-- Every proposal is stored under its own identifier. -/
def Keyed (c : Council) : Prop := ∀ id p, c.registry.proposals.find? id = some p → p.id = id

/-- What an event does to the proposal under an identifier. -/
inductive Affects (c : Council) (id : String) (e : Event) (after : Council) : Prop
  /-- None is opened and no decision is taken on it; the proposal stays or goes. -/
  | spared (unopened : e.opening? id = none) (untaken : ∀ voter, e.taken? id voter = none)
    (stays : ∀ p, after.registry.proposals.find? id = some p →
      c.registry.proposals.find? id = some p)
  /-- It is opened at the current height where none was stored. -/
  | opened {owner : String} {call : Bytes} {details : Organization}
    (asked : e.operation = .createProposal owner call)
    (opens : e.opening? id = some (owner, call))
    (organization : c.registry.organizations.find? owner = some details)
    (named : Identifier.proposal owner call c.registry.nextNonce = id)
    (free : c.registry.proposals.find? id = none)
    (stays : after.registry.proposals.find? id =
      some (.opened owner call details.voting c.chain.height c.registry.nextNonce))
  /-- A decision of a voter is taken on it within its window. -/
  | decided {voter : String} {decision : Decision} {p : Proposal} {tally : Tally}
    (asked : e.operation = .submitDecision id voter decision)
    (unopened : e.opening? id = none)
    (takes : ∀ name, e.taken? id name = if voter = name then some decision else none)
    (held : c.registry.proposals.find? id = some p)
    (inside : p.tally.checkPhase decision p.createdOn c.chain.height = .ok ())
    (records : Tally.Records voter p.tally decision tally)
    (stays : after.registry.proposals.find? id = some { p with tally })

/-- The ways in which a proposal is stored under an identifier after an operation. -/
inductive Leaves (c : Council) (id : String) : Operation → Proposal → Prop
  /-- The proposal is stored as it was before. -/
  | kept {operation : Operation} {p : Proposal} (held : c.registry.proposals.find? id = some p) :
    Leaves c id operation p
  /-- The proposal is opened at the current height where none was stored. -/
  | opened {owner : String} {call : Bytes} {details : Organization}
    (organization : c.registry.organizations.find? owner = some details)
    (named : Identifier.proposal owner call c.registry.nextNonce = id)
    (free : c.registry.proposals.find? id = none) :
    Leaves c id (.createProposal owner call)
      (.opened owner call details.voting c.chain.height c.registry.nextNonce)
  /-- A decision is recorded on the proposal within its window. -/
  | decided {voter : String} {decision : Decision} {p : Proposal} {tally : Tally}
    (held : c.registry.proposals.find? id = some p)
    (inside : p.tally.checkPhase decision p.createdOn c.chain.height = .ok ())
    (records : Tally.Records voter p.tally decision tally) :
    Leaves c id (.submitDecision id voter decision) { p with tally }

variable {c after : Council} {operation : Operation} {reply : Except Refusal Reply}

/-- A transition affects the proposal under every identifier in one of the three ways. -/
theorem Performs.affects (t : c.Performs operation reply after) (keyed : c.Keyed) (id : String) :
    c.Affects id ⟨c, operation, reply⟩ after := by
  cases t with
  | founded founds valid few next =>
    cases founds <;> exact .spared rfl (fun _ => rfl) fun _ stored => stored
  | @opened owner call details organization free =>
    by_cases named : Identifier.proposal owner call c.registry.nextNonce = id
    · have opens : (Event.mk c (.createProposal owner call)
          (.ok (.identifier (Identifier.proposal owner call c.registry.nextNonce)))).opening? id =
            some (owner, call) := by simp only [Event.opening?, if_pos named]
      exact .opened rfl opens organization named (named ▸ free)
        ((OrderedMap.find?_insert _ _ _ _).trans (if_pos named.symm))
    · refine .spared ?_ (fun _ => rfl) fun p stored => ?_
      · simp only [Event.opening?, if_neg named]
      · rcases Registry.held_of_put stored with ⟨same, _⟩ | ⟨_, kept⟩
        · exact absurd same.symm named
        · exact kept
  | @decided target voter decision p tally held routed inside admitted records =>
    -- The proposal is put back under its own identifier, which is the one it was found under.
    have named : p.id = target := keyed target p held
    by_cases same : target = id
    · subst same
      refine .decided rfl rfl (fun name => ?_) held inside records ?_
      · simp only [Event.taken?, true_and]
      · exact (OrderedMap.find?_insert _ _ _ _).trans (if_pos named.symm)
    · refine .spared rfl (fun name => ?_) fun q stored => ?_
      · simp only [Event.taken?, same, false_and, if_false]
      · rcases Registry.held_of_put stored with ⟨equal, _⟩ | ⟨_, kept⟩
        · exact absurd (equal.trans named).symm same
        · exact kept
  | removed held => exact .spared rfl (fun _ => rfl) fun _ => Registry.held_of_remove
  | waited closes held routed early =>
    cases closes <;> exact .spared rfl (fun _ => rfl) fun _ stored => stored
  | concluded closes held routed due accepting =>
    cases closes <;> exact .spared rfl (fun _ => rfl) fun _ => Registry.held_of_remove
  | rejected closes held routed due rejecting =>
    exact .spared rfl (fun _ => rfl) fun _ => Registry.held_of_remove
  | vetoed held owner executor => exact .spared rfl (fun _ => rfl) fun _ => Registry.held_of_remove
  | _ => exact .spared rfl (fun _ => rfl) fun _ stored => stored

/-- A transition leaves every stored proposal in one of the three ways. -/
theorem Performs.leaves (t : c.Performs operation reply after) (keyed : c.Keyed) {id : String}
    {p : Proposal} (held : after.registry.proposals.find? id = some p) :
    c.Leaves id operation p := by
  cases t.affects keyed id with
  | spared _ _ stays => exact .kept (stays p held)
  | opened asked _ organization named free stays =>
    obtain rfl : operation = _ := asked
    obtain rfl := Option.some.inj (stays.symm.trans held)
    exact .opened organization named free
  | decided asked _ _ stored inside records stays =>
    obtain rfl : operation = _ := asked
    obtain rfl := Option.some.inj (stays.symm.trans held)
    exact .decided stored inside records

/-- A transition keeps proposals under their own identifiers. -/
theorem Performs.keyed (t : c.Performs operation reply after) (keyed : c.Keyed) :
    after.Keyed := by
  intro id p held
  cases t.leaves keyed held with
  | kept stored => exact keyed id p stored
  | opened organization named free => exact named
  | decided stored inside records =>
    have same := keyed id _ stored
    exact same

/-- A run keeps proposals under their own identifiers. -/
theorem Keyed.run (h : c.Keyed) (operations : List Operation) : (c.run operations).Keyed := by
  induction operations using List.reverseRecOn with
  | nil => exact h
  | append_singleton earlier operation ih =>
    rw [run_concat]
    exact (performs_perform _ operation).keyed ih

/-- Without proposals every one is under its own identifier. -/
theorem keyed_empty (chain : Chain) (limits : Limits) : (empty chain limits).Keyed :=
  fun _ _ held => nomatch held

end Council

/-- A property of proposals at a height that every operation of a council preserves. -/
structure Proposal.Lasting (P : Height → Proposal → Prop) : Prop where
  /-- The property survives the passing of time. -/
  later : ∀ {earlier now : Height} {p : Proposal}, earlier ≤ now → P earlier p → P now p
  /-- A proposal has the property when it is opened. -/
  opened : ∀ (owner : String) (call : Bytes) (voting : VotingSystem) (now : Height)
    (number : Word 64), P now (.opened owner call voting now number)
  /-- The property survives a decision that is taken within its window. -/
  decided : ∀ {now : Height} {p : Proposal} {voter : String} {decision : Decision}
    {tally : Tally}, P now p → p.tally.checkPhase decision p.createdOn now = .ok () →
      Tally.Records voter p.tally decision tally → P now { p with tally }

/-- A lasting property holds of every proposal that a run without proposals at first has stored. -/
theorem Proposal.Lasting.stored {P : Height → Proposal → Prop} (h : Lasting P) (chain : Chain)
    (limits : Limits) (operations : List Operation) {id : String} {p : Proposal}
    (held : ((Council.empty chain limits).run operations).registry.proposals.find? id = some p) :
    P ((Council.empty chain limits).run operations).chain.height p := by
  induction operations using List.reverseRecOn generalizing id p with
  | nil => cases held
  | append_singleton earlier operation ih =>
    rw [Council.run_concat] at held ⊢
    have t := ((Council.empty chain limits).run earlier).performs_perform operation
    -- The property is shown at the old height first, and the height only grows.
    refine h.later t.grows.2.1 ?_
    cases t.leaves ((Council.keyed_empty chain limits).run earlier) held with
    | kept stored => exact ih stored
    | opened organization named free => exact h.opened _ _ _ _ _
    | decided stored inside records => exact h.decided (ih stored) inside records

/-- The tag of a proposal agrees with the system of its tally. -/
theorem Proposal.lasting_routed : Lasting fun _ p => p.tally.systemId = p.voting where
  later _ h := h
  opened _ _ voting _ _ := congrArg VotingSystem.id (Tally.freshTally_system voting)
  decided h _ records := (congrArg VotingSystem.id records.system).trans h

end OrgGovernance
