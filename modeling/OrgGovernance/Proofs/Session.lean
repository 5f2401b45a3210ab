import OrgGovernance.Proofs.Disk
import OrgGovernance.Proofs.JsonForm
import OrgGovernance.Proofs.Run

/-!
# Runs of the program and the session in memory

A sequence of runs on one state file does what a session in memory does that
loads the state once and never saves it: after every run the file holds the state
that the session has come to, or has not been touched yet. Saving loses nothing,
for a state is read back from its text, and one save replaces all earlier ones.

A run that fails leaves every file as it was, except for attempts to close, which
are saved before anyone looks at what came of them. When the chain has rejected
the call, the saved state is the one without the proposal. In every other case it
is the loaded state, so that the file keeps its meaning but not its bytes, and a
file that was missing is made.
-/

namespace OrgGovernance

namespace NodeState

/-- The state after a line of arguments, in memory. A line that is no command changes nothing. -/
def obey (s : NodeState) (limits : Limits) (line : List String) : NodeState :=
  match CommandLine.read line with
  | .error _ => s
  | .ok i => ((s.council limits).obey i.command).state

/-- The state after lines of arguments, in memory and in order. -/
def session (s : NodeState) (limits : Limits) (lines : List (List String)) : NodeState :=
  lines.foldl (fun s line => s.obey limits line) s

variable {d now after : Disk} {path : String} {s s' : NodeState}

/-- A state is saved exactly where its text is written. -/
theorem save_eq_ok_iff :
    s.save d path = .ok after ↔ d.write? path (JsonForm.writePretty s) = some after := by
  unfold save
  cases d.write? path (JsonForm.writePretty s) <;> simp

/-- A state that has been saved is loaded again. -/
theorem load_of_save (saves : s.save d path = .ok after) : load after path = .ok s := by
  simp only [load, Disk.read?_of_write? (save_eq_ok_iff.mp saves), JsonForm.read?_writePretty]

/-- Of two states saved at one path the later counts. -/
theorem save_again (saves : s.save d path = .ok after) : s'.save after path = s'.save d path := by
  simp only [save, Disk.write?_again (save_eq_ok_iff.mp saves)]

/-- A state can be saved where any text can be written. -/
theorem exists_save (writable : d.Writable path) (s : NodeState) :
    ∃ after, s.save d path = .ok after := by
  obtain ⟨after, written⟩ := writable (JsonForm.writePretty s)
  exact ⟨after, save_eq_ok_iff.mpr written⟩

/-- A disk keeps a state: it is the disk of before, from which the state is loaded, or that disk
with the state saved to it. -/
def KeptOn (s : NodeState) (d : Disk) (path : String) (now : Disk) : Prop :=
  (now = d ∧ load d path = .ok s) ∨ s.save d path = .ok now

namespace KeptOn

/-- The state that a disk keeps is loaded. -/
theorem load (kept : s.KeptOn d path now) : load now path = .ok s := by
  rcases kept with ⟨rfl, loads⟩ | saves
  · exact loads
  · exact load_of_save saves

/-- A state is saved as if nothing had been saved before. -/
theorem save (kept : s.KeptOn d path now) (s' : NodeState) : s'.save now path = s'.save d path := by
  rcases kept with ⟨rfl, _⟩ | saves
  · rfl
  · exact save_again saves

end KeptOn

end NodeState

namespace Console

/-- A line of arguments works on a path under limits: when it is a command, these are the limits
and the path of its settings, and saving a state there leaves the settings as they are. -/
def WorksOn (d : Disk) (limits : Limits) (path : String) (line : List String) : Prop :=
  ∀ i, CommandLine.read line = .ok i →
    (Settings.load d i.config).limits = limits ∧
      statePath (Settings.load d i.config) i = path ∧
      ∀ (s : NodeState) after, s.save d path = .ok after →
        Settings.load after i.config = Settings.load d i.config

/-- Saving a state leaves the settings as they are when their file is another one. -/
theorem settings_load_elsewhere {d after : Disk} {path : String} {config? : Option String}
    {s : NodeState} (elsewhere : ∀ config, config? = some config → d.Elsewhere path config)
    (saves : s.save d path = .ok after) :
    Settings.load after config? = Settings.load d config? := by
  cases config? with
  | none => rfl
  | some config =>
    have same := Disk.read?_elsewhere (NodeState.save_eq_ok_iff.mp saves) (elsewhere config rfl)
    simp only [Settings.load, Option.bind_some, same]

/-- A command works on the path of its settings under their limits when its settings and its
state do not share a file. -/
theorem worksOn_of_elsewhere {d : Disk} {line : List String} {i : Invocation}
    (reads : CommandLine.read line = .ok i)
    (elsewhere : ∀ config, i.config = some config →
      d.Elsewhere (statePath (Settings.load d i.config) i) config) :
    WorksOn d (Settings.load d i.config).limits (statePath (Settings.load d i.config) i) line := by
  intro i' reads'
  obtain rfl : i = i' := Except.ok.inj (reads.symm.trans reads')
  exact ⟨rfl, rfl, fun s after saves => settings_load_elsewhere elsewhere saves⟩

/-- The disk after runs on lines of arguments. -/
def runAll (d : Disk) (lines : List (List String)) : Disk :=
  lines.foldl (fun d line => (run d line).2) d

variable {d now : Disk} {path : String} {limits : Limits} {s : NodeState}

/-- A run keeps the state after its line, and succeeds exactly when its command does in memory. -/
theorem keptOn_run {line : List String} (kept : s.KeptOn d path now)
    (writable : d.Writable path) (works : WorksOn d limits path line) :
    (s.obey limits line).KeptOn d path (run now line).2 ∧
      ∀ i, CommandLine.read line = .ok i →
        ((run now line).1.code = 0 ↔ (s.council limits).grants i.command = true) := by
  unfold run NodeState.obey
  cases reads : CommandLine.read line with
  | error how => exact ⟨kept, nofun⟩
  | ok i =>
    obtain ⟨sameLimits, samePath, fixed⟩ := works i reads
    -- The disk differs from the first one by a save at the path, if at all.
    have settings : Settings.load now i.config = Settings.load d i.config := by
      rcases kept with ⟨rfl, _⟩ | saves
      · rfl
      · exact fixed s now saves
    have t := executes_execute limits path now i.command
    simp only [settings, sameLimits, samePath, Except.ok.injEq, forall_eq']
    have same : ∀ s', NodeState.load now path = .ok s' → s' = s := fun s' loads =>
      Except.ok.inj (loads.symm.trans kept.load)
    generalize execute limits path now i.command = answer at t ⊢
    obtain ⟨report, after⟩ := answer
    cases t with
    | printed idle granted =>
      rw [Council.obey_idle idle]
      exact ⟨kept, by simp [granted]⟩
    | unloadable faulty => exact nomatch kept.load.symm.trans faulty
    | denied loads unmoved denied =>
      obtain rfl := same _ loads
      rw [unmoved]
      exact ⟨kept, by simp [denied]⟩
    | unsaved loads faulty =>
      obtain rfl := same _ loads
      obtain ⟨after, saves⟩ := NodeState.exists_save writable _
      exact nomatch saves.symm.trans ((kept.save _).symm.trans faulty)
    | saved loads granted saves =>
      obtain rfl := same _ loads
      exact ⟨.inr ((kept.save _).symm.trans saves), by simp [granted]⟩
    | unclosed loads closes refused denied saves =>
      obtain rfl := same _ loads
      exact ⟨.inr ((kept.save _).symm.trans saves), by simp [denied]⟩

/-- Runs keep the state after their lines. -/
theorem keptOn_runAll {lines : List (List String)} (kept : s.KeptOn d path now)
    (writable : d.Writable path) (works : ∀ line ∈ lines, WorksOn d limits path line) :
    (s.session limits lines).KeptOn d path (runAll now lines) := by
  induction lines generalizing s now with
  | nil => exact kept
  | cons line lines ih =>
    obtain ⟨first, later⟩ := List.forall_mem_cons.mp works
    exact ih (keptOn_run kept writable first).1 later

/-- Runs on one file that is missing or holds a state, with the settings fixed, do what a session
in memory does: afterwards the file holds the state that the session has come to, and every run
of a command succeeds exactly when the command succeeds on the state of the session. -/
theorem runs_refine_session {lines : List (List String)} (loads : NodeState.load d path = .ok s)
    (writable : d.Writable path) (works : ∀ line ∈ lines, WorksOn d limits path line) :
    NodeState.load (runAll d lines) path = .ok (s.session limits lines) ∧
      ∀ front line back i, lines = front ++ line :: back → CommandLine.read line = .ok i →
        ((run (runAll d front) line).1.code = 0 ↔
          ((s.session limits front).council limits).grants i.command = true) := by
  have untouched : s.KeptOn d path d := .inl ⟨rfl, loads⟩
  refine ⟨(keptOn_runAll untouched writable works).load, ?_⟩
  rintro front line back i rfl reads
  obtain ⟨before, others⟩ := List.forall_mem_append.mp works
  have kept := keptOn_runAll untouched writable before
  exact (keptOn_run kept writable (others line List.mem_cons_self)).2 i reads

/-- A node whose chain rejects calls, with a proposal whose voting window has ended. -/
def rejecting : NodeState where
  registry := { Registry.empty with
    proposals := .ofList
      [("late", ⟨"late", "o", [2], .coin, 0, .coin (.fresh ⟨0, ⟨1, 50, 33⟩, .simple⟩)⟩)] }
  chain := { Chain.genesis with height := 1, failDispatches := true }

/-- Lines that close the late proposal and another one, and advance the chain. -/
def rejectingLines : List (List String) := [["close", "late"], ["close", "x"], ["advance", "2"]]

/-- Each of these lines is a command without options for the files of the node. -/
theorem read_rejectingLines : ∀ line ∈ rejectingLines,
    ∃ command, CommandLine.read line = .ok ⟨none, none, command⟩ := by
  have late : CommandLine.read ["close", "late"] = .ok ⟨none, none, .close "late"⟩ := by
    decide +kernel
  have other : CommandLine.read ["close", "x"] = .ok ⟨none, none, .close "x"⟩ := by
    decide +kernel
  have advance : CommandLine.read ["advance", "2"] = .ok ⟨none, none, .advance 2⟩ := by
    decide +kernel
  exact List.forall_mem_cons.mpr ⟨⟨_, late⟩, List.forall_mem_cons.mpr
    ⟨⟨_, other⟩, List.forall_mem_singleton.mpr ⟨_, advance⟩⟩⟩

/-- The place of the state file in a directory. -/
def statePlace : Disk.Place := ⟨false, 0, ["dorg-state.json".toList], false⟩

/-- A file can be written at the standard path of an empty directory. -/
theorem admits_empty : (Disk.ofList []).Admits "dorg-state.json" statePlace := by
  constructor <;> decide +kernel

/-- A directory that holds the state of the rejecting node holds a state without the late proposal
at the later height once the lines have run. -/
theorem rejecting_runs_refine :
    ∃ d, rejecting.save (Disk.ofList []) "dorg-state.json" = .ok d ∧
      NodeState.load (runAll d rejectingLines) "dorg-state.json" =
        .ok ⟨.empty, { Chain.genesis with height := 3, failDispatches := true }⟩ := by
  obtain ⟨d, saves⟩ := NodeState.exists_save (Disk.writable_iff.mpr ⟨_, admits_empty⟩) rejecting
  have writable : d.Writable "dorg-state.json" := by
    obtain ⟨p, admits, rfl⟩ := Disk.write?_eq_some_iff.mp (NodeState.save_eq_ok_iff.mp saves)
    exact Disk.writable_iff.mpr ⟨p, admits.again _⟩
  have works : ∀ line ∈ rejectingLines, WorksOn d .standard "dorg-state.json" line := by
    intro line member
    obtain ⟨command, reads⟩ := read_rejectingLines line member
    exact worksOn_of_elsewhere reads nofun
  have refined := runs_refine_session (NodeState.load_of_save saves) writable works
  exact ⟨d, saves, refined.1.trans (by decide +kernel)⟩

/-- What a failing attempt to close saves: the loaded state without the proposal when the refusal
reports it closed, and the loaded state otherwise. -/
inductive SavesRefused (s : NodeState) (id : String) (d : Disk) (path : String) :
    Refusal → Disk → Prop
  /-- The proposal is gone. -/
  | gone {refusal : Refusal} {reason : CloseReason} {after : Disk}
    (closed : refusal.closed? = some reason)
    (saves : { s with registry := s.registry.remove id }.save d path = .ok after) :
    SavesRefused s id d path refusal after
  /-- Nothing has changed. -/
  | unmoved {refusal : Refusal} {after : Disk} (plain : refusal.closed? = none)
    (saves : s.save d path = .ok after) : SavesRefused s id d path refusal after

/-- A refused attempt to close saves the state without the proposal or the loaded one. -/
theorem savesRefused_of_unclosed {limits : Limits} {s : NodeState} {id : String} {d after : Disk}
    {path : String} {refusal : Refusal}
    (refused : ((s.council limits).close id).1 = .error refusal)
    (saves : ((s.council limits).obey (.close id)).state.save d path = .ok after) :
    SavesRefused s id d path refusal after := by
  have closed : (s.council limits).close id =
      (.error refusal, (s.council limits).obey (.close id)) := by
    rw [Council.obey_close]
    exact Prod.ext refused rfl
  rcases Council.close_refused closed with ⟨plain, same⟩ | ⟨reason, gone, same⟩
  · rw [same] at saves
    exact .unmoved plain saves
  · rw [same] at saves
    exact .gone gone saves

/-- A run that fails leaves the disk as it is, or it is a refused attempt to close. Then it saves
the loaded state to the state file, without the proposal when the refusal reports it closed, and
every other file stands as before. -/
theorem failed_run_saves_refused_closing {d : Disk} {line : List String}
    (fails : (run d line).1.code ≠ 0) :
    (run d line).2 = d ∨
      ∃ i id s refusal, CommandLine.read line = .ok i ∧ i.command = .close id ∧
        (run d line).1 = .failure "" (.refused refusal) ∧
        NodeState.load d (statePath (Settings.load d i.config) i) = .ok s ∧
        SavesRefused s id d (statePath (Settings.load d i.config) i) refusal (run d line).2 ∧
        ∀ other, d.Elsewhere (statePath (Settings.load d i.config) i) other →
          (run d line).2.read? other = d.read? other := by
  unfold run at fails ⊢
  cases reads : CommandLine.read line with
  | error how => exact .inl rfl
  | ok i =>
    simp only [reads] at fails ⊢
    have t := executes_execute (Settings.load d i.config).limits
      (statePath (Settings.load d i.config) i) d i.command
    generalize execute (Settings.load d i.config).limits
      (statePath (Settings.load d i.config) i) d i.command = answer at t fails ⊢
    obtain ⟨report, after⟩ := answer
    cases t with
    | printed idle granted => exact absurd rfl fails
    | unloadable faulty => exact .inl rfl
    | denied loads unmoved denied => exact .inl rfl
    | unsaved loads faulty => exact .inl rfl
    | saved loads granted saves => exact absurd rfl fails
    | @unclosed s id refusal after loads closes refused denied saves =>
      have written := NodeState.save_eq_ok_iff.mp saves
      rw [closes] at saves
      exact .inr ⟨i, id, s, refusal, rfl, closes, rfl, loads,
        savesRefused_of_unclosed refused saves,
        fun other elsewhere => Disk.read?_elsewhere written elsewhere⟩

/-- An attempt to close an unknown proposal fails in an empty directory and saves the state of a
node that has never run. -/
theorem unknown_close_saves_fresh_state :
    (run (Disk.ofList []) ["close", "x"]).1.code ≠ 0 ∧
      NodeState.fresh.save (Disk.ofList []) "dorg-state.json" =
        .ok (run (Disk.ofList []) ["close", "x"]).2 := by
  have fails : (run (Disk.ofList []) ["close", "x"]).1.code ≠ 0 := by decide +kernel
  have changed : (run (Disk.ofList []) ["close", "x"]).2 ≠ Disk.ofList [] := by decide +kernel
  have reads : CommandLine.read ["close", "x"] = .ok ⟨none, none, .close "x"⟩ := by decide +kernel
  have reports : (run (Disk.ofList []) ["close", "x"]).1 =
      .failure "" (.refused (.proposalNotFound "x")) := by decide +kernel
  refine ⟨fails, ?_⟩
  rcases failed_run_saves_refused_closing fails with same | ⟨i, id, s, refusal, rest⟩
  · exact absurd same changed
  · obtain ⟨reads', _, reports', loads, saves, _⟩ := rest
    obtain rfl := Except.ok.inj (reads.symm.trans reads')
    obtain rfl : s = NodeState.fresh := Except.ok.inj (loads.symm.trans (by decide +kernel))
    cases reports.symm.trans reports'
    cases saves with
    | gone closed _ => cases closed
    | unmoved _ saves => exact saves

/-- A run that fails because a proposal is unknown makes the state file that was missing. -/
theorem unknown_close_makes_state_file :
    (run (Disk.ofList []) ["close", "x"]).1 = .failure "" (.refused (.proposalNotFound "x")) ∧
      (Disk.ofList []).read? "dorg-state.json" = none ∧
      (run (Disk.ofList []) ["close", "x"]).2.read? "dorg-state.json" ≠ none := by
  decide +kernel

end Console

end OrgGovernance
