import OrgGovernance.Console
import OrgGovernance.Proofs.Transition

/-!
# What one run comes to

A command asks for an operation of the council, or for none. A run carries it out
on the loaded state, and what it reports and leaves on the disk is one of a few
outcomes, in which the state that is saved is always that of the council after
the command, in memory.
-/

namespace OrgGovernance

/-- The operation that a command asks for, if its texts can be read and it asks for one. -/
def Command.operation? : Command → Option Operation
  | .createOrganization executors voting parameters =>
    some (.createOrganizationFrom executors ⟨voting, .ofList parameters⟩)
  | .applyAs caller organization call =>
    (Hexadecimal.decodeMarked call).toOption.map (.applyAs caller organization)
  | .createProposal organization call =>
    (Hexadecimal.decodeMarked call).toOption.map (.createProposal organization)
  | .vote proposal voter power against =>
    some (.submitDecision proposal voter (.vote ⟨!against, power⟩))
  | .commit proposal voter hash =>
    (Digest.ofText hash).toOption.map fun digest =>
      .submitDecision proposal voter (.commit digest)
  | .reveal proposal voter power salt against =>
    some (.submitDecision proposal voter (.reveal ⟨power, !against, salt⟩))
  | .close proposal => some (.close proposal)
  | .veto proposal caller => some (.vetoProposal caller proposal)
  | .advance blocks => some (.advance blocks)
  | .mint currency amount => if currency.toNat = 0 then none else some (.mint currency amount)
  | .showOrganization _ => none
  | .listProposals _ => none
  | .commitment .. => none

namespace Council

/-- Whether a command succeeds: its operation is not refused, or the organization it asks for
is registered. A command whose texts cannot be read fails. -/
def grants (c : Council) : Command → Bool
  | .showOrganization id => (c.organization id).isOk
  | .listProposals id => (c.organization id).isOk
  | .commitment .. => true
  | command => command.operation?.any fun operation => (c.perform operation).1.isOk

/-- The council after a command in memory. A command that fails leaves it as it is, except that
closing takes its proposal away when the chain rejects the call. -/
def obey (c : Council) (command : Command) : Council :=
  match command.operation? with
  | none => c
  | some operation =>
    match c.perform operation with
    | (.ok _, after) => after
    | (.error refusal, _) =>
      match command, refusal.closed? with
      | .close id, some _ => { c with registry := c.registry.remove id }
      | _, _ => c

variable {c after : Council} {command : Command} {operation : Operation}

/-- A command without an operation leaves the council as it is. -/
theorem obey_idle (idle : command.operation? = none) : c.obey command = c := by
  simp only [obey, idle]

/-- A command whose operation succeeds leaves the council after the operation. -/
theorem obey_of_ok {reply : Reply} (asks : command.operation? = some operation)
    (performed : c.perform operation = (.ok reply, after)) : c.obey command = after := by
  simp only [obey, asks, performed]

/-- A command other than closing whose operation is refused leaves the council as it is. -/
theorem obey_of_refused {refusal : Refusal} (asks : command.operation? = some operation)
    (refused : c.perform operation = (.error refusal, after))
    (other : ∀ id, command ≠ .close id) : c.obey command = c := by
  simp only [obey, asks, refused]
  split
  · next id _ _ => exact absurd rfl (other id)
  · rfl

/-- A refusal to close reports the proposal closed, which is then gone, or nothing changes. -/
theorem close_refused {id : String} {refusal : Refusal}
    (refused : c.close id = (.error refusal, after)) :
    (refusal.closed? = none ∧ after = c) ∨
      ∃ reason, refusal.closed? = some reason ∧
        after = { c with registry := c.registry.remove id } := by
  have t := c.performs_close id
  rw [answer, refused] at t
  cases t with
  | refused _ plain => exact .inl ⟨plain, rfl⟩
  | rejected closes held routed due rejecting =>
    cases closes with
    | current held => exact .inr ⟨_, rfl, rfl⟩

/-- Closing leaves in memory the council after the attempt, whatever came of it. -/
theorem obey_close (c : Council) (id : String) : c.obey (.close id) = (c.close id).2 := by
  cases closed : c.close id with
  | mk result after =>
    have performed : c.perform (.close id) = (result.map .outcome, after) := answer_of_eq closed
    cases result with
    | ok outcome => exact obey_of_ok rfl performed
    | error refusal =>
      rcases close_refused closed with ⟨plain, rfl⟩ | ⟨reason, gone, rfl⟩
      · simp only [obey, Command.operation?, performed, Except.map, plain]
      · simp only [obey, Command.operation?, performed, Except.map, gone]

end Council

namespace Console

/-- What a command comes down to, beside the operation it asks for and whether it succeeds. -/
inductive Role (command : Command) : Prop
  /-- It prints a text. -/
  | prints {text : String} (comes : task command = .ok (.print text))
    (idle : command.operation? = none) (granted : ∀ c : Council, c.grants command = true)
  /-- Its texts cannot be read. -/
  | unreadable {complaint : Complaint} (comes : task command = .error complaint)
    (idle : command.operation? = none) (denied : ∀ c : Council, c.grants command = false)
  /-- It looks at the council. -/
  | looks {view : Council → Except Refusal String} (comes : task command = .ok (.look view))
    (idle : command.operation? = none)
    (granted : ∀ c : Council, c.grants command = (view c).isOk)
  /-- It carries out an operation other than closing. -/
  | acts {operation : Operation} {announce : Reply → String}
    (comes : task command = .ok (.act operation announce))
    (asks : command.operation? = some operation) (other : ∀ id, command ≠ .close id)
    (granted : ∀ c : Council, c.grants command = (c.perform operation).1.isOk)
  /-- It closes a proposal. -/
  | closes {id : String} (comes : task command = .ok (.close id)) (same : command = .close id)

/-- A command that reads a text of its own acts when the text can be read. -/
theorem role_of_reading {α : Type} {command : Command} {reading : Except Complaint α}
    {operation : α → Operation} {announce : Reply → String}
    (comes : task command = reading.map fun a => .act (operation a) announce)
    (asks : command.operation? = reading.toOption.map operation)
    (other : ∀ id, command ≠ .close id)
    (granted : ∀ c : Council, c.grants command =
      command.operation?.any fun operation => (c.perform operation).1.isOk) :
    Role command := by
  cases reading with
  | error complaint => exact .unreadable comes asks fun c => by rw [granted, asks]; rfl
  | ok a => exact .acts comes asks other fun c => by rw [granted, asks]; rfl

/-- The call of a hexadecimal text is that of its bytes. -/
theorem toOption_callOf (text : String) :
    (callOf text).toOption = (Hexadecimal.decodeMarked text).toOption := by
  unfold callOf
  cases Hexadecimal.decodeMarked text <;> rfl

/-- Every command has one of the roles. -/
theorem role (command : Command) : Role command := by
  cases command with
  | createOrganization executors voting parameters => exact .acts rfl rfl nofun fun _ => rfl
  | showOrganization id =>
    refine .looks rfl rfl fun c => ?_
    simp only [Council.grants]
    cases c.organization id <;> rfl
  | applyAs caller organization call =>
    have asks : (Command.applyAs caller organization call).operation? =
        (callOf call).toOption.map (.applyAs caller organization) := by
      rw [toOption_callOf, Command.operation?]
    have comes : task (.applyAs caller organization call) = (callOf call).map fun bytes =>
        .act (.applyAs caller organization bytes) fun _ => done "Call dispatched" := by
      rw [task]
      cases callOf call <;> rfl
    exact role_of_reading comes asks nofun fun _ => rfl
  | createProposal organization call =>
    have asks : (Command.createProposal organization call).operation? =
        (callOf call).toOption.map (.createProposal organization) := by
      rw [toOption_callOf, Command.operation?]
    have comes : task (.createProposal organization call) = (callOf call).map fun bytes =>
        .act (.createProposal organization bytes) (created "proposal") := by
      rw [task]
      cases callOf call <;> rfl
    exact role_of_reading comes asks nofun fun _ => rfl
  | listProposals organization =>
    refine .looks rfl rfl fun c => ?_
    simp only [Council.grants, Council.proposalsOf]
    cases c.organization organization <;> rfl
  | vote proposal voter power against => exact .acts rfl rfl nofun fun _ => rfl
  | commit proposal voter hash =>
    have asks : (Command.commit proposal voter hash).operation? =
        ((Digest.ofText hash).mapError Complaint.badCommitment).toOption.map fun digest =>
          .submitDecision proposal voter (.commit digest) := by
      rw [Command.operation?]
      cases Digest.ofText hash <;> rfl
    have comes : task (.commit proposal voter hash) =
        ((Digest.ofText hash).mapError Complaint.badCommitment).map fun digest =>
          .act (.submitDecision proposal voter (.commit digest))
            fun _ => done "Commitment recorded" := by
      rw [task]
      cases Digest.ofText hash <;> rfl
    exact role_of_reading comes asks nofun fun _ => rfl
  | reveal proposal voter power salt against => exact .acts rfl rfl nofun fun _ => rfl
  | close proposal => exact .closes rfl rfl
  | veto proposal caller => exact .acts rfl rfl nofun fun _ => rfl
  | advance blocks => exact .acts rfl rfl nofun fun _ => rfl
  | mint currency amount =>
    by_cases reserved : currency.toNat = 0
    · have idle : (Command.mint currency amount).operation? = none := if_pos reserved
      have comes : task (.mint currency amount) = .error .reservedCurrency := if_pos reserved
      exact .unreadable comes idle fun c => by simp only [Council.grants, idle, Option.any_none]
    · have asks : (Command.mint currency amount).operation? = some (.mint currency amount) :=
        if_neg reserved
      have comes : task (.mint currency amount) =
          .ok (.act (.mint currency amount) (supplyLine currency)) := if_neg reserved
      exact .acts comes asks nofun fun c => by simp only [Council.grants, asks, Option.any_some]
  | commitment power salt against => exact .prints rfl rfl fun _ => rfl

/-- What a run on a state at a path comes to: its report and the disk after it. -/
inductive Executes (limits : Limits) (path : String) (d : Disk) (command : Command) :
    Report → Disk → Prop
  /-- A text is printed, and no file is looked at. -/
  | printed {text : String} (idle : command.operation? = none)
    (granted : ∀ c : Council, c.grants command = true) :
    Executes limits path d command (.success text) d
  /-- The state cannot be loaded. -/
  | unloadable {fault : StateFault} (faulty : NodeState.load d path = .error fault) :
    Executes limits path d command (.failure "" (.state fault)) d
  /-- The command fails and nothing is saved. -/
  | denied {s : NodeState} {complaint : Complaint} (loads : NodeState.load d path = .ok s)
    (unmoved : (s.council limits).obey command = s.council limits)
    (denied : (s.council limits).grants command = false) :
    Executes limits path d command (.failure "" complaint) d
  /-- The state after the command cannot be saved. -/
  | unsaved {s : NodeState} {output : String} {fault : StateFault}
    (loads : NodeState.load d path = .ok s)
    (faulty : ((s.council limits).obey command).state.save d path = .error fault) :
    Executes limits path d command (.failure output (.state fault)) d
  /-- The command succeeds and the state after it is saved. -/
  | saved {s : NodeState} {output : String} {after : Disk} (loads : NodeState.load d path = .ok s)
    (granted : (s.council limits).grants command = true)
    (saves : ((s.council limits).obey command).state.save d path = .ok after) :
    Executes limits path d command (.success output) after
  /-- A proposal is not closed, or its call is rejected, and the state is saved all the same. -/
  | unclosed {s : NodeState} {id : String} {refusal : Refusal} {after : Disk}
    (loads : NodeState.load d path = .ok s) (closes : command = .close id)
    (refused : ((s.council limits).close id).1 = .error refusal)
    (denied : (s.council limits).grants command = false)
    (saves : ((s.council limits).obey command).state.save d path = .ok after) :
    Executes limits path d command (.failure "" (.refused refusal)) after

section Execute

variable {limits : Limits} {path : String} {d : Disk} {command : Command} {s : NodeState}

/-- A command that prints no text needs the state, and is of interest once it is loaded. -/
theorem executes_of_loads (quiet : ∀ text, task command ≠ .ok (.print text))
    (h : ∀ s, NodeState.load d path = .ok s → Executes limits path d command
      (execute limits path d command).1 (execute limits path d command).2) :
    Executes limits path d command (execute limits path d command).1
      (execute limits path d command).2 := by
  cases loads : NodeState.load d path with
  | ok s => exact h s loads
  | error fault =>
    have run : execute limits path d command = (.failure "" (.state fault), d) := by
      unfold execute
      split
      · next text prints => exact absurd prints (quiet text)
      · simp only [loads]
    rw [run]
    exact .unloadable loads

/-- A command that prints no text is carried out on the loaded state. -/
theorem execute_loaded {work : Task} (comes : task command = .ok work)
    (quiet : ∀ text, work ≠ .print text) (loads : NodeState.load d path = .ok s) :
    execute limits path d command = carryOut (s.council limits) d path work := by
  unfold execute
  split
  · next text prints => exact absurd (Except.ok.inj (comes.symm.trans prints)) (quiet text)
  · simp only [loads, comes]

/-- Saving the council after a command that succeeds is one of the outcomes. -/
theorem executes_saved {after : Council} (loads : NodeState.load d path = .ok s)
    (granted : (s.council limits).grants command = true)
    (obeyed : (s.council limits).obey command = after) (output : String) :
    Executes limits path d command (saved after d path output).1 (saved after d path output).2 := by
  subst obeyed
  unfold saved
  cases saves : ((s.council limits).obey command).state.save d path with
  | ok kept => exact .saved loads granted saves
  | error fault => exact .unsaved loads saves

/-- Closing a proposal comes to one of the outcomes. -/
theorem executes_close {id : String} (loads : NodeState.load d path = .ok s) :
    Executes limits path d (.close id) (carryOut (s.council limits) d path (.close id)).1
      (carryOut (s.council limits) d path (.close id)).2 := by
  have obeyed := (s.council limits).obey_close id
  cases closed : (s.council limits).close id with
  | mk result after =>
    rw [closed] at obeyed
    simp only [carryOut, closed]
    cases saves : after.state.save d path with
    | error fault => exact .unsaved loads (obeyed ▸ saves)
    | ok kept =>
      have granted : (s.council limits).grants (.close id) = (result.map Reply.outcome).isOk := by
        simp only [Council.grants, Command.operation?, Option.any_some, Council.perform,
          Council.answer, closed]
      cases result with
      | error refusal =>
        exact .unclosed loads rfl (congrArg Prod.fst closed) granted (obeyed ▸ saves)
      | ok outcome => exact .saved loads granted (obeyed ▸ saves)

/-- Executing a command comes to one of the outcomes. -/
theorem executes_execute (limits : Limits) (path : String) (d : Disk) (command : Command) :
    Executes limits path d command (execute limits path d command).1
      (execute limits path d command).2 := by
  cases role command with
  | @prints text comes idle granted =>
    have run : execute limits path d command = (.success text, d) := by
      simp only [execute, comes]
    rw [run]
    exact .printed idle granted
  | @unreadable complaint comes idle denied =>
    refine executes_of_loads (by simp [comes]) fun s loads => ?_
    have run : execute limits path d command = (.failure "" complaint, d) := by
      simp only [execute, comes, loads]
    rw [run]
    exact .denied loads (Council.obey_idle idle) (denied _)
  | @looks view comes idle granted =>
    refine executes_of_loads (by simp [comes]) fun s loads => ?_
    have success := granted (s.council limits)
    rw [execute_loaded comes nofun loads]
    cases seen : view (s.council limits) with
    | error refusal =>
      rw [seen] at success
      simp only [carryOut, seen]
      exact .denied loads (Council.obey_idle idle) success
    | ok output =>
      rw [seen] at success
      simp only [carryOut, seen]
      exact executes_saved loads success (Council.obey_idle idle) output
  | @acts operation announce comes asks other granted =>
    refine executes_of_loads (by simp [comes]) fun s loads => ?_
    have success := granted (s.council limits)
    rw [execute_loaded comes nofun loads]
    cases performed : (s.council limits).perform operation with
    | mk result after =>
      rw [performed] at success
      cases result with
      | error refusal =>
        simp only [carryOut, performed]
        exact .denied loads (Council.obey_of_refused asks performed other) success
      | ok reply =>
        simp only [carryOut, performed]
        exact executes_saved loads success (Council.obey_of_ok asks performed) (announce reply)
  | closes comes same =>
    subst same
    refine executes_of_loads (by simp [comes]) fun s loads => ?_
    rw [execute_loaded comes nofun loads]
    exact executes_close loads

end Execute

end Console

end OrgGovernance
