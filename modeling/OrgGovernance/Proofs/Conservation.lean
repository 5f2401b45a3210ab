import OrgGovernance.Proofs.History

/-!
# Conservation of proposals

Every proposal that was opened is stored, closed, removed or vetoed, and the
chain records one call for each closing that it accepts: the call for which the
closed proposal was opened. One transition moves the number of proposals and the
recorded calls by what its event says, and a run adds these up.
-/

namespace OrgGovernance

/-- The latest event comes before all others. -/
theorem latestOpening_cons (id : String) (e : Event) (past : List Event) :
    latestOpening id (e :: past) = (e.opening? id).or (latestOpening id past) := by
  simp only [latestOpening, List.findSome?_cons]
  cases e.opening? id <;> rfl

/-- The reason that an event reports agrees with the standing evaluated just before, at the
height and against the supply at which the proposal was closed. -/
def Event.Justified (e : Event) : Prop :=
  ∀ reason, e.reason? = some reason → ∃ id now supply standing,
    e.before.Closes e.operation id now supply ∧
    e.before.evaluate id now supply = .ok standing ∧
    (reason = .passed ↔ standing.passing = true) ∧
    (reason = .expired ↔ standing.passing = false ∧ standing.expired = true)

namespace Council

variable {c after : Council} {operation : Operation} {reply : Except Refusal Reply}
  {past : List Event}

/-- An operation that asks to close a proposal names it. -/
theorem Closes.closing? {id : String} {now : Height} {supply : Balance}
    (h : c.Closes operation id now supply) : operation.closing? = some id := by
  cases h <;> rfl

/-- Every stored proposal is stored under its own identifier, which was last opened for its
organization and call. -/
def Traced (c : Council) (past : List Event) : Prop :=
  ∀ id p, c.registry.proposals.find? id = some p →
    p.id = id ∧ latestOpening id past = some (p.organization, p.call)

/-- Proposals stay traced through an event that opens none and changes none of their
identifiers, organizations and calls. -/
theorem Traced.keep (h : c.Traced past) {e : Event} (quiet : ∀ id, e.opening? id = none)
    (kept : ∀ id p, after.registry.proposals.find? id = some p →
      ∃ q, c.registry.proposals.find? id = some q ∧
        p.id = q.id ∧ p.organization = q.organization ∧ p.call = q.call) :
    after.Traced (e :: past) := by
  intro id p held
  obtain ⟨q, heldBefore, named, organization, call⟩ := kept id p held
  rw [latestOpening_cons, quiet, Option.none_or, named, organization, call]
  exact h id q heldBefore

/-- Proposals stay traced through the removal of one. -/
theorem Traced.remove (h : c.Traced past) {e : Event} (quiet : ∀ id, e.opening? id = none)
    {id : String} (same : after.registry = c.registry.remove id) : after.Traced (e :: past) := by
  refine h.keep quiet fun other p held => ?_
  rw [same] at held
  exact ⟨p, Registry.held_of_remove held, rfl, rfl, rfl⟩

/-- A transition keeps proposals traced. -/
theorem Performs.traced (t : c.Performs operation reply after) (h : c.Traced past) :
    after.Traced (⟨c, operation, reply⟩ :: past) := by
  have same : ∀ id p, c.registry.proposals.find? id = some p →
      ∃ q, c.registry.proposals.find? id = some q ∧
        p.id = q.id ∧ p.organization = q.organization ∧ p.call = q.call :=
    fun id p held => ⟨p, held, rfl, rfl, rfl⟩
  cases t with
  | founded founds valid few next =>
    refine h.keep (fun _ => ?_) same
    cases founds <;> rfl
  | @opened id call details owner free =>
    intro other p held
    rw [latestOpening_cons]
    rcases Registry.held_of_put held with ⟨equal, rfl⟩ | ⟨apart, stored⟩
    · have named : Identifier.proposal id call c.registry.nextNonce = other := equal.symm
      refine ⟨named, ?_⟩
      simp only [Event.opening?, named, if_true, Option.some_or, Proposal.opened]
    · have unnamed : Identifier.proposal id call c.registry.nextNonce ≠ other := Ne.symm apart
      simp only [Event.opening?, if_neg unnamed, Option.none_or]
      exact h other p stored
  | removed held => exact h.remove (fun _ => rfl) rfl
  | @decided id voter decision p tally held routed inside admitted records =>
    refine h.keep (fun _ => rfl) fun other q stored => ?_
    rcases Registry.held_of_put stored with ⟨equal, rfl⟩ | ⟨_, kept⟩
    · have found : c.registry.proposals.find? other = some p := by
        rw [equal, (h id p held).1, held]
      exact ⟨p, found, rfl, rfl, rfl⟩
    · exact ⟨q, kept, rfl, rfl, rfl⟩
  | waited closes held routed early =>
    refine h.keep (fun _ => ?_) same
    cases closes <;> rfl
  | concluded closes held routed due accepting =>
    refine h.remove (fun _ => ?_) rfl
    cases closes <;> rfl
  | rejected closes held routed due rejecting => exact h.remove (fun _ => rfl) rfl
  | vetoed held owner executor => exact h.remove (fun _ => rfl) rfl
  | _ => exact h.keep (fun _ => rfl) same

/-- A plain refusal reports no proposal closed. -/
theorem reason?_refused {refusal : Refusal} (plain : refusal.closed? = none) :
    (Event.mk c operation (.error refusal)).reason? = none := by
  unfold Event.reason?
  cases operation.closing? with
  | none => rfl
  | some id => exact plain

/-- A transition moves the number of proposals by what its event opens, closes and drops. -/
theorem Performs.moves_size (t : c.Performs operation reply after) (h : c.Traced past) :
    after.registry.proposals.size +
        (if (Event.mk c operation reply).closes = true then 1 else 0) +
        (if (Event.mk c operation reply).drops = true then 1 else 0) =
      c.registry.proposals.size +
        (if (Event.mk c operation reply).opens = true then 1 else 0) := by
  cases t with
  | refused _ plain =>
    simp only [Event.closes, reason?_refused plain, Option.isSome_none]
    rfl
  | founded founds valid few next => cases founds <;> rfl
  | @opened id call details owner free =>
    have absent : c.registry.proposals.contains
        (Identifier.proposal id call c.registry.nextNonce) = false := by
      simp only [OrderedMap.contains, free, Option.isSome_none]
    have added := c.registry.proposals.size_insert
      (Identifier.proposal id call c.registry.nextNonce)
      (.opened id call details.voting c.chain.height c.registry.nextNonce)
    simp only [absent, Bool.false_eq_true, if_false] at added
    exact added
  | removed held => exact OrderedMap.size_erase held
  | @decided id voter decision p tally held routed inside admitted records =>
    -- Storing the proposal again adds none, because it is traced to the identifier it is under.
    have present : c.registry.proposals.contains p.id = true := by
      simp only [OrderedMap.contains, (h id p held).1, held, Option.isSome_some]
    have replaced := c.registry.proposals.size_insert p.id { p with tally }
    rw [if_pos present] at replaced
    exact replaced
  | waited closes held routed early => cases closes <;> rfl
  | concluded closes held routed due accepting =>
    have erased := OrderedMap.size_erase held
    cases closes <;> exact erased
  | rejected closes held routed due rejecting =>
    have erased := OrderedMap.size_erase held
    cases closes <;> exact erased
  | vetoed held owner executor => exact OrderedMap.size_erase held
  | _ => rfl

/-- A transition records on the chain what its event dispatches. -/
theorem Performs.records_dispatches (t : c.Performs operation reply after)
    (h : c.Traced past) :
    after.chain.dispatched.map some =
      c.chain.dispatched.map some ++ (Event.mk c operation reply).dispatches past := by
  have silent : c.chain.dispatched.map some = c.chain.dispatched.map some ++ [] :=
    (List.append_nil _).symm
  cases t with
  | founded founds valid few next => cases founds <;> exact silent
  | applied owner executor accepting => exact List.map_append
  | waited closes held routed early => cases closes <;> exact silent
  | @concluded _ id now supply p reason closes held routed due accepting =>
    have dispatched : (Event.mk c operation (.ok (.outcome (.closed reason)))).dispatches past =
        [some ⟨p.organization, p.call, c.chain.height⟩] := by
      have opening := (h id p held).2
      cases closes <;> simp only [Event.dispatches, Operation.closing?, Option.toList_some,
        List.map_cons, List.map_nil, opening, Option.map_some]
    rw [dispatched]
    exact List.map_append
  | _ => exact silent

/-- A closing is justified by the standing for which it is due. -/
theorem Closes.justified {id : String} {now : Height} {supply : Balance} {p : Proposal}
    {given : CloseReason} (closes : c.Closes operation id now supply)
    (held : c.registry.proposals.find? id = some p) (routed : p.tally.systemId = p.voting)
    (due : (p.standing now supply).closeReason? = some given)
    (reported : (Event.mk c operation reply).reason? = some given) :
    (Event.mk c operation reply).Justified := by
  intro reason h
  obtain rfl : given = reason := Option.some.inj (reported.symm.trans h)
  refine ⟨id, now, supply, _, closes, evaluate_held now supply held routed, ?_⟩
  rcases Evaluation.closeReason?_eq_some_iff.mp due with ⟨rfl, passing⟩ | ⟨rfl, idle, expired⟩
  · simp [passing]
  · simp [idle, expired]

/-- The reason that a transition reports is justified. -/
theorem Performs.justified (t : c.Performs operation reply after) :
    (Event.mk c operation reply).Justified := by
  cases t with
  | refused _ plain =>
    intro reason h
    rw [reason?_refused plain] at h
    cases h
  | founded founds valid few next => cases founds <;> exact fun _ h => nomatch h
  | waited closes held routed early => cases closes <;> exact fun _ h => nomatch h
  | concluded closes held routed due accepting =>
    refine closes.justified held routed due ?_
    simp only [Event.reason?, closes.closing?]
  | rejected closes held routed due rejecting =>
    refine closes.justified held routed due ?_
    simp only [Event.reason?, closes.closing?, Refusal.closed?]
  | _ => exact fun _ h => nomatch h

/-- Proposals stay traced along a run that starts without any. -/
theorem traced_run (chain : Chain) (limits : Limits) (operations : List Operation) :
    ((empty chain limits).run operations).Traced ((empty chain limits).past operations) := by
  induction operations using List.reverseRecOn with
  | nil => exact fun _ _ held => nomatch held
  | append_singleton earlier operation ih =>
    rw [run_concat, past_concat]
    exact (performs_perform _ operation).traced ih

/-- Along every run that starts without proposals, the stored proposals with those that were
closed, removed or vetoed are as many as were opened. -/
theorem size_run (chain : Chain) (limits : Limits) (operations : List Operation) :
    ((empty chain limits).run operations).registry.proposals.size +
        ((empty chain limits).past operations).countP Event.closes +
        ((empty chain limits).past operations).countP Event.drops =
      ((empty chain limits).past operations).countP Event.opens := by
  induction operations using List.reverseRecOn with
  | nil => rfl
  | append_singleton earlier operation ih =>
    have moved := (performs_perform ((empty chain limits).run earlier) operation).moves_size
      (traced_run chain limits earlier)
    rw [run_concat, past_concat, List.countP_cons, List.countP_cons, List.countP_cons]
    omega

/-- The chain records over a run what its events dispatch. -/
theorem dispatched_run (chain : Chain) (limits : Limits) (operations : List Operation) :
    ((empty chain limits).run operations).chain.dispatched.map some =
      chain.dispatched.map some ++ dispatchesOver ((empty chain limits).past operations) := by
  induction operations using List.reverseRecOn with
  | nil => exact (List.append_nil _).symm
  | append_singleton earlier operation ih =>
    rw [run_concat, past_concat, (performs_perform _ operation).records_dispatches
      (traced_run chain limits earlier), ih, dispatchesOver, List.append_assoc]

/-- The reasons reported over a run are justified. -/
theorem justified_run (c : Council) (operations : List Operation) :
    ∀ e ∈ c.past operations, e.Justified := by
  induction operations using List.reverseRecOn with
  | nil => exact fun _ h => nomatch h
  | append_singleton earlier operation ih =>
    rw [past_concat]
    intro e h
    rcases List.mem_cons.mp h with rfl | h
    · exact (performs_perform _ operation).justified
    · exact ih e h

/-- Over every run that starts without organizations and proposals, on any chain and under any
limits, the stored proposals are those opened less those closed, removed and vetoed; the chain
records the calls of executors and, for each closing that is dispatched, the call for which the
proposal was last opened, in order and at the height of the moment, and nothing else; and each
closing reports the reason evaluated just before. -/
theorem run_conserves_proposals (chain : Chain) (limits : Limits)
    (operations : List Operation) :
    ((empty chain limits).run operations).registry.proposals.size +
          ((empty chain limits).past operations).countP Event.closes +
          ((empty chain limits).past operations).countP Event.drops =
        ((empty chain limits).past operations).countP Event.opens ∧
      ((empty chain limits).run operations).chain.dispatched.map some =
        chain.dispatched.map some ++ dispatchesOver ((empty chain limits).past operations) ∧
      ∀ e ∈ (empty chain limits).past operations, e.Justified :=
  ⟨size_run chain limits operations, dispatched_run chain limits operations,
    justified_run _ operations⟩

end Council

end OrgGovernance
