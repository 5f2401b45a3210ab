import OrgGovernance.Proofs.AllOrNothing
import OrgGovernance.Proofs.OrderedMap
import OrgGovernance.Tally
import Mathlib.Data.List.Induction

/-!
# Recording decisions

A tally takes a decision in one of four ways: a ballot is cast under coin or
conviction voting, and a commitment is stored or a ballot revealed under sealed
voting. All else is refused, and because a tally refuses a decision before it
changes anything, it is left as it was. Submissions are recorded one after the
other.
-/

namespace OrgGovernance

/-- The ways in which a tally takes a decision of a voter. -/
inductive Tally.Records (voter : String) : Tally → Decision → Tally → Prop
  /-- A ballot takes the place of the voter's earlier one. -/
  | coin (t : CoinTally) (ballot : Ballot) :
    Records voter (.coin t) (.vote ballot) (.coin (t.cast voter ballot))
  /-- A stake takes the place of the voter's earlier one. -/
  | conviction (t : ConvictionTally) (ballot : Ballot) :
    Records voter (.conviction t) (.vote ballot) (.conviction (t.cast voter ballot))
  /-- A commitment is stored, unless the voter has revealed. -/
  | committed (t : SealedTally) (digest : Digest)
    (hidden : ∀ ballot, t.entries.find? voter ≠ some (.revealed ballot)) :
    Records voter (.sealed t) (.commit digest)
      (.sealed { t with entries := t.entries.insert voter (.committed digest) })
  /-- The ballot that the voter has committed to is revealed. -/
  | revealed (t : SealedTally) (ballot : HiddenBallot)
    (held : t.entries.find? voter = some (.committed ballot.commitment)) :
    Records voter (.sealed t) (.reveal ballot)
      (.sealed { t with
        totals := t.totals.add ballot.inSupport ballot.power
        entries := t.entries.insert voter (.revealed ballot) })

/-- A commitment is stored for a voter who has not revealed, and for no other. -/
theorem SealedTally.commit_eq (t : SealedTally) (voter : String) (digest : Digest) :
    t.commit voter digest =
      match t.entries.find? voter with
      | some (.revealed _) => (.error (.alreadyRevealed voter), t)
      | _ => (.ok (), { t with entries := t.entries.insert voter (.committed digest) }) := by
  unfold commit
  rw [Step.get_bind]
  rcases t.entries.find? voter with _ | ⟨held⟩ | shown <;> rfl

/-- A ballot is counted and replaces its commitment; of a voter who holds none, or another one, it
is refused. -/
theorem SealedTally.reveal_eq (t : SealedTally) (voter : String) (ballot : HiddenBallot) :
    t.reveal voter ballot =
      match t.entries.find? voter with
      | some (.committed digest) =>
        if ballot.commitment = digest then
          (.ok (), { t with
            totals := t.totals.add ballot.inSupport ballot.power
            entries := t.entries.insert voter (.revealed ballot) })
        else (.error (.revealMismatch voter), t)
      | _ => (.error (.noCommitFound voter), t) := by
  unfold reveal
  rw [Step.get_bind]
  rcases t.entries.find? voter with _ | ⟨held⟩ | shown
  · rfl
  · by_cases fits : ballot.commitment = held
    · simp only [if_pos fits]
      rfl
    · simp only [if_neg fits]
      rfl
  · rfl

namespace Tally

/-- A tally takes a decision in one of the four ways, or it is refused and stays as it is. -/
theorem allOrNothing_record (t : Tally) (voter : String) (decision : Decision) :
    AllOrNothing (record voter decision) t fun _ after => Records voter t decision after := by
  unfold AllOrNothing
  cases t with
  | coin t =>
    cases decision with
    | vote ballot =>
      rw [record, CoinTally.record, Step.modify_run]
      exact .coin t ballot
    | commit digest => exact ⟨rfl, rfl⟩
    | reveal ballot => exact ⟨rfl, rfl⟩
  | conviction t =>
    cases decision with
    | vote ballot =>
      rw [record, ConvictionTally.record, Step.modify_run]
      exact .conviction t ballot
    | commit digest => exact ⟨rfl, rfl⟩
    | reveal ballot => exact ⟨rfl, rfl⟩
  | sealed t =>
    cases decision with
    | vote ballot => exact ⟨rfl, rfl⟩
    | commit digest =>
      simp only [record, SealedTally.record, SealedTally.commit_eq]
      cases held : t.entries.find? voter with
      | none => exact .committed t digest (by simp [held])
      | some entry =>
        cases entry with
        | committed earlier => exact .committed t digest (by simp [held])
        | revealed ballot => exact ⟨rfl, rfl⟩
    | reveal ballot =>
      simp only [record, SealedTally.record, SealedTally.reveal_eq]
      cases held : t.entries.find? voter with
      | none => exact ⟨rfl, rfl⟩
      | some entry =>
        cases entry with
        | revealed earlier => exact ⟨rfl, rfl⟩
        | committed digest =>
          by_cases fits : ballot.commitment = digest
          · simp only [if_pos fits]
            exact .revealed t ballot (fits ▸ held)
          · simp only [if_neg fits]
            exact ⟨rfl, rfl⟩

/-- A tally answers a decision, and is left as another tally, exactly when it takes the decision. -/
theorem record_eq_ok_iff {t after : Tally} {voter : String} {decision : Decision} :
    t.record voter decision = (.ok (), after) ↔ Records voter t decision after := by
  refine ⟨(t.allOrNothing_record voter decision).of_ok, fun records => ?_⟩
  cases records with
  | coin t ballot => rfl
  | conviction t ballot => rfl
  | committed t digest hidden =>
    simp only [record, SealedTally.record, SealedTally.commit_eq]
    rcases held : t.entries.find? voter with _ | ⟨earlier⟩ | shown
    · rfl
    · rfl
    · exact absurd held (hidden shown)
  | revealed t ballot held =>
    simp only [record, SealedTally.record, SealedTally.reveal_eq, held, if_pos]
    rfl

/-- A tally that refuses a decision stays as it is. -/
theorem eq_of_refused {t after : Tally} {voter : String} {decision : Decision} {refusal : Refusal}
    (refused : t.record voter decision = (.error refusal, after)) : after = t :=
  ((t.allOrNothing_record voter decision).of_error refused).2

/-- A decision never changes the voting system or its parameters. -/
theorem Records.system {voter : String} {t after : Tally} {decision : Decision}
    (h : Records voter t decision after) : after.system = t.system := by
  cases h <;> rfl

end Tally

/-- A decision with the voter who submits it. -/
structure Submission where
  /-- The voter. -/
  voter : String
  /-- The decision. -/
  decision : Decision

/-- The ballot that a submission casts for a voter, if it casts one. -/
def Submission.voteOf? (voter : String) (s : Submission) : Option Ballot :=
  match s.decision with
  | .vote ballot => if s.voter = voter then some ballot else none
  | _ => none

/-- The last ballot that a voter casts among submissions. -/
def latestVote (voter : String) (submissions : List Submission) : Option Ballot :=
  (submissions.filterMap (Submission.voteOf? voter)).getLast?

/-- The last submission counts before the earlier ones. -/
theorem latestVote_concat (voter : String) (submissions : List Submission) (s : Submission) :
    latestVote voter (submissions ++ [s]) =
      (s.voteOf? voter).or (latestVote voter submissions) := by
  cases h : s.voteOf? voter <;> simp [latestVote, List.filterMap_append, h]

namespace Tally

/-- The stored ballots of the voters; sealed voting stores none. -/
def ballots : Tally → OrderedMap String Ballot
  | .coin t => t.votes
  | .conviction t => t.convictions
  | .sealed _ => .empty

/-- The tally after a submission, whether it is taken or refused. -/
def submit (t : Tally) (s : Submission) : Tally := (t.record s.voter s.decision).2

/-- The tally after submissions in order. -/
def submitAll (t : Tally) (submissions : List Submission) : Tally := submissions.foldl submit t

/-- A submission is recorded or leaves the tally as it is. -/
theorem submit_cases (t : Tally) (s : Submission) :
    t.submit s = t ∨ Records s.voter t s.decision (t.submit s) := by
  unfold submit
  cases recorded : t.record s.voter s.decision with
  | mk result after =>
    cases result with
    | error refusal => exact .inl (eq_of_refused recorded)
    | ok done => exact .inr (record_eq_ok_iff.mp recorded)

/-- A submission that a tally takes is recorded. -/
theorem submit_eq {t after : Tally} {s : Submission} (h : Records s.voter t s.decision after) :
    t.submit s = after := by
  unfold submit
  rw [record_eq_ok_iff.mpr h]

/-- Submissions in order end with the last of them. -/
theorem submitAll_concat (t : Tally) (submissions : List Submission) (s : Submission) :
    t.submitAll (submissions ++ [s]) = (t.submitAll submissions).submit s := by
  simp only [submitAll, List.foldl_append, List.foldl_cons, List.foldl_nil]

/-- A new tally is of the system that it is made for. -/
theorem freshTally_system (system : VotingSystem) : system.freshTally.system = system := by
  cases system <;> rfl

/-- A submission never changes the voting system or its parameters. -/
theorem submit_system (t : Tally) (s : Submission) : (t.submit s).system = t.system := by
  rcases t.submit_cases s with h | h
  · rw [h]
  · exact h.system

/-- Submissions never change the voting system or its parameters. -/
theorem submitAll_system (t : Tally) (submissions : List Submission) :
    (t.submitAll submissions).system = t.system := by
  induction submissions using List.reverseRecOn with
  | nil => rfl
  | append_singleton earlier s ih => rw [submitAll_concat, submit_system, ih]

/-- The tally after any submissions is of the system that it began with. -/
theorem systemId_submitAll (system : VotingSystem) (submissions : List Submission) :
    (system.freshTally.submitAll submissions).systemId = system.id := by
  rw [systemId, submitAll_system, freshTally_system]

/-- Casting a ballot sets the ballot of its voter alone. -/
theorem find?_insert_vote (votes : OrderedMap String Ballot) (name voter : String)
    (ballot : Ballot) :
    (votes.insert name ballot).find? voter =
      (Submission.voteOf? voter ⟨name, .vote ballot⟩).or (votes.find? voter) := by
  rw [OrderedMap.find?_insert]
  by_cases hn : name = voter
  · simp [Submission.voteOf?, hn]
  · simp [Submission.voteOf?, hn, Ne.symm hn]

/-- Under coin and conviction voting a submission sets the ballot that it casts and no other. -/
theorem ballots_submit {t : Tally} (h : t.systemId ≠ .sealed) (s : Submission) (voter : String) :
    (t.submit s).ballots.find? voter = (s.voteOf? voter).or (t.ballots.find? voter) := by
  obtain ⟨name, decision⟩ := s
  cases t with
  | coin t =>
    cases decision with
    | vote ballot => exact find?_insert_vote t.votes name voter ballot
    | commit digest => rfl
    | reveal ballot => rfl
  | conviction t =>
    cases decision with
    | vote ballot => exact find?_insert_vote t.convictions name voter ballot
    | commit digest => rfl
    | reveal ballot => rfl
  | sealed t => exact absurd rfl h

/-- Under coin and conviction voting the stored ballots are the latest ones of the voters. -/
theorem ballots_submitAll {system : VotingSystem} (h : system.id ≠ .sealed)
    (submissions : List Submission) (voter : String) :
    (system.freshTally.submitAll submissions).ballots.find? voter =
      latestVote voter submissions := by
  induction submissions using List.reverseRecOn with
  | nil => cases system <;> rfl
  | append_singleton earlier s ih =>
    have hid := (systemId_submitAll system earlier).trans_ne h
    rw [submitAll_concat, ballots_submit hid, ih, latestVote_concat]

end Tally

end OrgGovernance
