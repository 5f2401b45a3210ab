import OrgGovernance.Decision

/-!
# All or nothing

A step is all or nothing when it either answers or is refused with the state left
as it was. A step that is refused after a change is not: what it has changed stays
changed. An operation is therefore all or nothing when everything that can refuse
it comes before its first change, and this is how it is shown: a check that is put
before a step that is all or nothing makes another such step.
-/

namespace OrgGovernance

/-- The reason for which a refusal reports a proposal closed. -/
def Refusal.closed? : Refusal → Option CloseReason
  | .dispatchFailed _ _ closed => closed
  | _ => none

/-- A result is a value with a property or a refusal that reports no proposal closed. -/
def Yields {α : Type} (x : Except Refusal α) (P : α → Prop) : Prop :=
  match x with
  | .ok a => P a
  | .error refusal => refusal.closed? = none

/-- What a first result yields is handed to the second one. -/
theorem Yields.bind {α β : Type} {x : Except Refusal α} {f : α → Except Refusal β}
    {P : α → Prop} {Q : β → Prop} (hx : Yields x P) (hf : ∀ a, P a → Yields (f a) Q) :
    Yields (x >>= f) Q := by
  cases x with
  | error refusal => exact hx
  | ok a => exact hf a hx

/-- A value that is yielded has the property. -/
theorem Yields.of_eq_ok {α : Type} {x : Except Refusal α} {P : α → Prop} {a : α}
    (h : Yields x P) (yielded : x = .ok a) : P a := by
  rw [yielded] at h
  exact h

namespace Step

variable {ε σ α β : Type}

/-- A step that looks at the state first goes on with it. -/
@[simp] theorem get_bind (f : σ → Step ε σ α) (s : σ) : (get >>= f) s = f s s := rfl

/-- A change of the state is always answered. -/
@[simp] theorem modify_run (f : σ → σ) (s : σ) :
    (modify f : Step ε σ Unit) s = (.ok (), f s) := rfl

/-- What follows a check that is passed goes on from the same state. -/
@[simp] theorem check_ok_bind (a : α) (f : α → Step ε σ β) (s : σ) :
    (liftM (Except.ok a : Except ε α) >>= f) s = f a s := rfl

/-- Nothing follows a check that is failed. -/
@[simp] theorem check_error_bind (e : ε) (f : α → Step ε σ β) (s : σ) :
    (liftM (Except.error e : Except ε α) >>= f) s = (.error e, s) := rfl

/-- Two checks in a row are one check. -/
theorem check_bind_bind {γ : Type} (check : Except ε α) (next : α → Except ε β)
    (f : β → Step ε σ γ) :
    (liftM (check >>= next) >>= f : Step ε σ γ) = liftM check >>= fun a => liftM (next a) >>= f := by
  cases check <;> rfl

/-- A step that follows an answer starts from the state that was left with it. -/
theorem bind_of_ok {x : Step ε σ α} {s mid : σ} {a : α} (first : x s = (.ok a, mid))
    (f : α → Step ε σ β) : (x >>= f) s = f a mid := by
  change ExceptT.bindCont f (x s).1 (x s).2 = f a mid
  rw [first]
  rfl

/-- Nothing follows a step that gives a cause, and the state is left as that step left it. -/
theorem bind_of_error {x : Step ε σ α} {s mid : σ} {e : ε} (first : x s = (.error e, mid))
    (f : α → Step ε σ β) : (x >>= f) s = (.error e, mid) := by
  change ExceptT.bindCont f (x s).1 (x s).2 = (.error e, mid)
  rw [first]
  rfl

/-- A check and what follows it give a cause in the check, or after it is passed. -/
theorem check_bind_eq_error {check : Except ε α} {f : α → Step ε σ β} {s after : σ} {e : ε}
    (refused : (liftM check >>= f) s = (.error e, after)) :
    check = .error e ∨ ∃ a, check = .ok a ∧ f a s = (.error e, after) := by
  cases check with
  | error given =>
    cases refused
    exact .inl rfl
  | ok a => exact .inr ⟨a, rfl, refused⟩

/-- A step on a part of a state answers on the whole what it answers on the part, and the part is
replaced by what it has left. -/
theorem within_of_eq {τ : Type} {part : τ → σ} {replace : τ → σ → τ} {x : Step ε σ α} {t : τ}
    {result : Except ε α} {left : σ} (outcome : x (part t) = (result, left)) :
    Step.within part replace x t = (result, replace t left) := by
  unfold Step.within
  rw [outcome]

/-- A step on a part of a state gives the cause that it gives on the whole. -/
theorem error_of_within {τ : Type} {part : τ → σ} {replace : τ → σ → τ} {x : Step ε σ α}
    {t after : τ} {e : ε} (refused : Step.within part replace x t = (.error e, after)) :
    ∃ left, x (part t) = (.error e, left) := by
  have cause : (Step.within part replace x t).1 = .error e := by rw [refused]
  exact ⟨_, Prod.ext cause rfl⟩

end Step

/-- From a state a step answers, and what it answers and the state after have the property, or it
is refused, reports no proposal closed and leaves the state as it was. -/
def AllOrNothing {σ α : Type} (x : Step Refusal σ α) (s : σ) (P : α → σ → Prop) : Prop :=
  match x s with
  | (.ok a, after) => P a after
  | (.error refusal, after) => refusal.closed? = none ∧ after = s

namespace AllOrNothing

variable {σ τ α β : Type} {x : Step Refusal σ α} {s after : σ} {P : α → σ → Prop}

/-- What is answered, and the state after, have the property. -/
theorem of_ok {a : α} (h : AllOrNothing x s P) (answered : x s = (.ok a, after)) : P a after := by
  unfold AllOrNothing at h
  rw [answered] at h
  exact h

/-- A refusal reports no proposal closed and leaves the state. -/
theorem of_error {refusal : Refusal} (h : AllOrNothing x s P)
    (refused : x s = (.error refusal, after)) : refusal.closed? = none ∧ after = s := by
  unfold AllOrNothing at h
  rw [refused] at h
  exact h

/-- A property that follows from the one known holds as well. -/
theorem mono {Q : α → σ → Prop} (h : AllOrNothing x s P) (weaker : ∀ a after, P a after → Q a after) :
    AllOrNothing x s Q := by
  unfold AllOrNothing
  cases carried : x s with
  | mk result after =>
    cases result with
    | error refusal => exact h.of_error carried
    | ok a => exact weaker a after (h.of_ok carried)

/-- The result alone is a value with the property or reports no proposal closed. -/
theorem yields (h : AllOrNothing x s P) : Yields (x s).1 fun a => P a (x s).2 := by
  unfold Yields
  cases result : (x s).1 with
  | error refusal => exact (h.of_error (Prod.ext result rfl)).1
  | ok a => exact h.of_ok (Prod.ext result rfl)

/-- A step may look at the state first. -/
theorem after_get {f : σ → Step Refusal σ α} (h : AllOrNothing (f s) s P) :
    AllOrNothing (get >>= f) s P := h

/-- A check may go before a step that is all or nothing. -/
theorem after_check {check : Except Refusal α} {f : α → Step Refusal σ β} {R : α → Prop}
    {Q : β → σ → Prop} (checks : Yields check R) (hf : ∀ a, R a → AllOrNothing (f a) s Q) :
    AllOrNothing (liftM check >>= f) s Q := by
  cases check with
  | ok a => exact hf a checks
  | error refusal => exact ⟨checks, rfl⟩

/-- A step that is never refused may follow one that is all or nothing. -/
theorem before_answer {f : α → Step Refusal σ β} {Q : β → σ → Prop} (h : AllOrNothing x s P)
    (hf : ∀ a mid, P a mid → ∃ b last, f a mid = (.ok b, last) ∧ Q b last) :
    AllOrNothing (x >>= f) s Q := by
  unfold AllOrNothing
  cases first : x s with
  | mk result mid =>
    cases result with
    | error refusal =>
      rw [Step.bind_of_error first]
      exact h.of_error first
    | ok a =>
      obtain ⟨b, last, answers, holds⟩ := hf a mid (h.of_ok first)
      rw [Step.bind_of_ok first, answers]
      exact holds

/-- A step on a part of a state that is all or nothing is so on the whole. -/
theorem within {part : τ → σ} {replace : τ → σ → τ} {t : τ} {Q : α → τ → Prop}
    (h : AllOrNothing x (part t) fun a after => Q a (replace t after))
    (same : replace t (part t) = t) : AllOrNothing (Step.within part replace x) t Q := by
  unfold AllOrNothing Step.within
  cases carried : x (part t) with
  | mk result after =>
    cases result with
    | error refusal =>
      obtain ⟨plain, rfl⟩ := h.of_error carried
      exact ⟨plain, same⟩
    | ok a => exact h.of_ok carried

end AllOrNothing

end OrgGovernance
