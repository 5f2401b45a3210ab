import OrgGovernance.Proofs.StoredPower

/-!
# The progress of voters under sealed voting

Under sealed voting a decision is answered by the entry of its voter alone, and
it changes no other entry. How far a voter comes, and what the voter is told,
follows from the voter's own decisions in their order. The totals follow from
the entries: a reveal adds its power to one side and is never taken back, so
that they move by what the stored power moves, held at the largest balance.

The totals of a tally under sealed voting are the clipped sums of the power that
its entries reveal, after every submission and also beyond the largest balance:
nothing is ever taken back. A voter has one entry, which counts on one side at
most. What is revealed stays, and it is the ballot behind the last commitment
that the voter had given before.

Voters under sealed voting do not get in each other's way. As long as everyone's
own decisions come in the same order, it does not matter how those of different
voters are interleaved: every voter is told the same, and the tally ends with
the same entries and totals, even where a total is held at the largest balance.
-/

namespace OrgGovernance

/-- The digest that a decision commits to, if it commits to one. -/
def Decision.commitment? : Decision → Option Digest
  | .commit digest => some digest
  | _ => none

/-- The last commitment among decisions in order. -/
def latestCommitment (decisions : List Decision) : Option Digest :=
  (decisions.filterMap Decision.commitment?).getLast?

/-- The last decision counts before the earlier ones. -/
theorem latestCommitment_concat (earlier : List Decision) (decision : Decision) :
    latestCommitment (earlier ++ [decision]) =
      decision.commitment?.or (latestCommitment earlier) := by
  cases h : decision.commitment? <;> simp [latestCommitment, List.filterMap_append, h]

namespace SealedEntry

/-- The entry of a voter after a decision, or the refusal of the decision. -/
def next (voter : String) (entry : Option SealedEntry) : Decision → Except Refusal SealedEntry
  | .commit digest =>
    match entry with
    | some (.revealed _) => .error (.alreadyRevealed voter)
    | _ => .ok (.committed digest)
  | .reveal ballot =>
    match entry with
    | some (.committed digest) =>
      if ballot.commitment = digest then .ok (.revealed ballot) else .error (.revealMismatch voter)
    | _ => .error (.noCommitFound voter)
  | .vote _ => .error (.decisionMismatch ⟨.sealed, .vote⟩)

/-- The entry of a voter after a decision, which leaves it as it is when refused. -/
def follow (voter : String) (entry : Option SealedEntry) (decision : Decision) :
    Option SealedEntry :=
  match next voter entry decision with
  | .ok after => some after
  | .error _ => entry

/-- The answers to the decisions of a voter in order. -/
def answers (voter : String) : Option SealedEntry → List Decision → List (Except Refusal Unit)
  | _, [] => []
  | entry, decision :: later =>
    (next voter entry decision).map (fun _ => ()) ::
      answers voter (follow voter entry decision) later

/-- The totals with the power of an entry, which counts once it is revealed. -/
def addTo (totals : Totals) : SealedEntry → Totals
  | .committed _ => totals
  | .revealed ballot => totals.add ballot.inSupport ballot.power

/-- An entry adds its power to the totals, held at the largest balance. -/
theorem toNat_side_addTo (totals : Totals) (entry : SealedEntry) (side : Bool) :
    ((entry.addTo totals).side side).toNat =
      min ((totals.side side).toNat + entry.powerOn side) (Word.greatest 128) := by
  cases entry with
  | committed digest => exact (Nat.min_eq_left (totals.side side).toNat_le_greatest).symm
  | revealed ballot => exact totals.toNat_side_add ⟨ballot.inSupport, ballot.power⟩ side

variable {voter : String}

/-- A voter who holds the commitment to a ballot reveals it. -/
theorem next_reveal (voter : String) (ballot : HiddenBallot) :
    next voter (some (.committed ballot.commitment)) (.reveal ballot) = .ok (.revealed ballot) :=
  if_pos rfl

/-- A voter who has revealed is refused every decision. -/
theorem next_revealed (voter : String) (ballot : HiddenBallot) (decision : Decision) :
    ∃ refusal, next voter (some (.revealed ballot)) decision = .error refusal := by
  cases decision <;> exact ⟨_, rfl⟩

/-- A decision is taken only from a voter whose power does not count yet. -/
theorem powerOn_of_next {entry : Option SealedEntry} {decision : Decision} {after : SealedEntry}
    (taken : next voter entry decision = .ok after) (side : Bool) :
    (entry.map (powerOn side)).getD 0 = 0 := by
  cases entry with
  | none => rfl
  | some before =>
    cases before with
    | committed digest => rfl
    | revealed ballot =>
      obtain ⟨refusal, refused⟩ := next_revealed voter ballot decision
      cases taken.symm.trans refused

/-- A reveal is final. -/
@[simp] theorem follow_revealed (ballot : HiddenBallot) (decision : Decision) :
    follow voter (some (.revealed ballot)) decision = some (.revealed ballot) := by
  cases decision <;> rfl

/-- A reveal stays final through all further decisions. -/
theorem foldl_follow_revealed (ballot : HiddenBallot) (decisions : List Decision) :
    decisions.foldl (follow voter) (some (.revealed ballot)) = some (.revealed ballot) := by
  induction decisions with
  | nil => rfl
  | cons decision later ih => rw [List.foldl_cons, follow_revealed, ih]

/-- A voter has revealed a ballot after a decision only if it was revealed before, or the decision
reveals it and the entry was the commitment to it. -/
theorem before_of_follow_revealed {entry : Option SealedEntry} {decision : Decision}
    {ballot : HiddenBallot} (after : follow voter entry decision = some (.revealed ballot)) :
    entry = some (.revealed ballot) ∨
      decision = .reveal ballot ∧ entry = some (.committed ballot.commitment) := by
  cases decision with
  | vote given => exact .inl after
  | commit digest =>
    rcases entry with _ | ⟨held⟩ | shown
    · cases after
    · cases after
    · exact .inl after
  | reveal given =>
    rcases entry with _ | ⟨held⟩ | shown
    · cases after
    · by_cases fits : given.commitment = held
      · have taken : follow voter (some (.committed held)) (.reveal given) =
            some (.revealed given) := by simp only [follow, next, if_pos fits]
        obtain rfl : given = ballot := by
          simpa only [Option.some.injEq, SealedEntry.revealed.injEq] using taken.symm.trans after
        exact .inr ⟨rfl, by rw [fits]⟩
      · simp only [follow, next, if_neg fits] at after
        cases after
    · exact .inl after

/-- From no entry on, a voter holds the last commitment given, unless one of the ballots given was
revealed. -/
theorem latestCommitment_foldl_follow (voter : String) (decisions : List Decision) :
    decisions.foldl (follow voter) none = (latestCommitment decisions).map .committed ∨
      ∃ ballot, .reveal ballot ∈ decisions ∧
        decisions.foldl (follow voter) none = some (.revealed ballot) := by
  induction decisions using List.reverseRecOn with
  | nil => exact .inl rfl
  | append_singleton earlier decision ih =>
    rw [List.foldl_concat, latestCommitment_concat]
    rcases ih with hidden | ⟨ballot, given, shown⟩
    · rw [hidden]
      cases decision with
      | vote given => exact .inl rfl
      | commit digest =>
        refine .inl ?_
        cases latestCommitment earlier <;> rfl
      | reveal ballot =>
        cases held : latestCommitment earlier with
        | none => exact .inl rfl
        | some digest =>
          by_cases fits : ballot.commitment = digest
          · refine .inr ⟨ballot, List.mem_append_right _ (List.mem_singleton.mpr rfl), ?_⟩
            simp only [Option.map_some, follow, next, if_pos fits]
          · refine .inl ?_
            simp only [Option.map_some, follow, next, if_neg fits, Decision.commitment?,
              Option.none_or]
    · rw [shown, follow_revealed]
      exact .inr ⟨ballot, List.mem_append_left _ given, rfl⟩

end SealedEntry

namespace SealedTally

/-- The tally with the entry of a voter set and its power counted. -/
def set (t : SealedTally) (voter : String) (entry : SealedEntry) : SealedTally :=
  { t with totals := entry.addTo t.totals, entries := t.entries.insert voter entry }

/-- The tally after a submission, by the entry of its voter. -/
def take (t : SealedTally) (s : Submission) : SealedTally :=
  match SealedEntry.next s.voter (t.entries.find? s.voter) s.decision with
  | .ok entry => t.set s.voter entry
  | .error _ => t

/-- A decision is recorded by setting the next entry of its voter, or refused as that is. -/
theorem record_eq_next (t : SealedTally) (voter : String) (decision : Decision) :
    t.record voter decision =
      match SealedEntry.next voter (t.entries.find? voter) decision with
      | .ok entry => (.ok (), t.set voter entry)
      | .error refusal => (.error refusal, t) := by
  cases decision with
  | vote ballot => rfl
  | commit digest =>
    rw [record, commit_eq]
    rcases t.entries.find? voter with _ | ⟨held⟩ | shown <;> rfl
  | reveal ballot =>
    rw [record, reveal_eq]
    rcases t.entries.find? voter with _ | ⟨held⟩ | shown
    · rfl
    · by_cases fits : ballot.commitment = held
      · simp only [SealedEntry.next, if_pos fits]
        rfl
      · simp only [SealedEntry.next, if_neg fits]
    · rfl

/-- A submission sets the entry of its voter alone. -/
theorem find?_take (t : SealedTally) (s : Submission) (voter : String) :
    (t.take s).entries.find? voter =
      if s.voter = voter then SealedEntry.follow voter (t.entries.find? voter) s.decision
      else t.entries.find? voter := by
  unfold take SealedEntry.follow
  by_cases own : s.voter = voter
  · rw [if_pos own, own]
    cases SealedEntry.next voter (t.entries.find? voter) s.decision with
    | error refusal => rfl
    | ok entry => exact (OrderedMap.find?_insert _ _ _ _).trans (if_pos rfl)
  · rw [if_neg own]
    cases SealedEntry.next s.voter (t.entries.find? s.voter) s.decision with
    | error refusal => rfl
    | ok entry => exact (OrderedMap.find?_insert _ _ _ _).trans (if_neg (Ne.symm own))

/-- The revealed power that the entries hold on a side. -/
def revealedPower (t : SealedTally) (side : Bool) : Nat := t.entries.total (SealedEntry.powerOn side)

/-- A submission never lowers the revealed power, and it moves the total of a side by as much. -/
theorem take_counts (t : SealedTally) (s : Submission) (side : Bool) :
    t.revealedPower side ≤ (t.take s).revealedPower side ∧
      ((t.take s).totals.side side).toNat =
        min ((t.totals.side side).toNat + ((t.take s).revealedPower side - t.revealedPower side))
          (Word.greatest 128) := by
  unfold take
  cases taken : SealedEntry.next s.voter (t.entries.find? s.voter) s.decision with
  | error refusal =>
    have fits := (t.totals.side side).toNat_le_greatest
    refine ⟨Nat.le_refl _, ?_⟩
    rw [Nat.sub_self, Nat.add_zero]
    exact (Nat.min_eq_left fits).symm
  | ok entry =>
    have moved : (t.set s.voter entry).revealedPower side =
        t.revealedPower side + entry.powerOn side := by
      have sum := t.entries.total_insert s.voter entry (SealedEntry.powerOn side)
      rwa [SealedEntry.powerOn_of_next taken, Nat.add_zero] at sum
    have counted := entry.toNat_side_addTo t.totals side
    rw [moved, Nat.add_sub_cancel_left]
    exact ⟨Nat.le_add_right _ _, counted⟩

end SealedTally

/-- The decisions of a voter among submissions, in order. -/
def decisionsOf (voter : String) (submissions : List Submission) : List Decision :=
  (submissions.filter fun s => s.voter = voter).map Submission.decision

/-- The first submission comes first among the decisions of its voter, and not among others. -/
theorem decisionsOf_cons (voter : String) (s : Submission) (later : List Submission) :
    decisionsOf voter (s :: later) =
      if s.voter = voter then s.decision :: decisionsOf voter later
      else decisionsOf voter later := by
  by_cases own : s.voter = voter <;> simp [decisionsOf, own]

namespace SealedTally

/-- The tally after submissions in order, each by the entry of its voter. -/
def takeAll (t : SealedTally) (submissions : List Submission) : SealedTally :=
  submissions.foldl take t

/-- Submissions in order end with the last of them. -/
theorem takeAll_concat (t : SealedTally) (submissions : List Submission) (s : Submission) :
    t.takeAll (submissions ++ [s]) = (t.takeAll submissions).take s := List.foldl_concat ..

/-- The entry of a voter after submissions follows the voter's own decisions. -/
theorem find?_takeAll (t : SealedTally) (submissions : List Submission) (voter : String) :
    (t.takeAll submissions).entries.find? voter =
      (decisionsOf voter submissions).foldl (SealedEntry.follow voter) (t.entries.find? voter) := by
  induction submissions generalizing t with
  | nil => rfl
  | cons s later ih =>
    have first : t.takeAll (s :: later) = (t.take s).takeAll later := rfl
    rw [first, ih, find?_take, decisionsOf_cons]
    by_cases own : s.voter = voter
    · rw [if_pos own, if_pos own, List.foldl_cons]
    · rw [if_neg own, if_neg own]

/-- Submissions never lower the revealed power, and they move the total of a side by as much. -/
theorem takeAll_counts (t : SealedTally) (submissions : List Submission) (side : Bool) :
    t.revealedPower side ≤ (t.takeAll submissions).revealedPower side ∧
      ((t.takeAll submissions).totals.side side).toNat =
        min ((t.totals.side side).toNat +
          ((t.takeAll submissions).revealedPower side - t.revealedPower side))
          (Word.greatest 128) := by
  induction submissions using List.reverseRecOn with
  | nil =>
    have fits := (t.totals.side side).toNat_le_greatest
    refine ⟨Nat.le_refl _, ?_⟩
    rw [takeAll, List.foldl_nil, Nat.sub_self, Nat.add_zero]
    exact (Nat.min_eq_left fits).symm
  | append_singleton earlier s ih =>
    obtain ⟨grown, counted⟩ := (t.takeAll earlier).take_counts s side
    obtain ⟨grown', counted'⟩ := ih
    rw [takeAll_concat]
    omega

/-- Submissions never change the parameters. -/
theorem takeAll_parameters (t : SealedTally) (submissions : List Submission) :
    (t.takeAll submissions).parameters = t.parameters := by
  induction submissions using List.reverseRecOn with
  | nil => rfl
  | append_singleton earlier s ih =>
    rw [takeAll_concat, take]
    split
    · exact ih
    · exact ih

end SealedTally

namespace Tally

/-- What a submission is answered. -/
def answer (t : Tally) (s : Submission) : Except Refusal Unit := (t.record s.voter s.decision).1

/-- The answers that a voter is given over submissions in order. -/
def answersTo (voter : String) : Tally → List Submission → List (Except Refusal Unit)
  | _, [] => []
  | t, s :: later =>
    if s.voter = voter then t.answer s :: answersTo voter (t.submit s) later
    else answersTo voter (t.submit s) later

/-- Under sealed voting a submission is taken by the entry of its voter. -/
theorem submit_sealed (t : SealedTally) (s : Submission) :
    (Tally.sealed t).submit s = .sealed (t.take s) := by
  simp only [submit, record, SealedTally.record_eq_next, SealedTally.take]
  cases SealedEntry.next s.voter (t.entries.find? s.voter) s.decision <;> rfl

/-- A tally under sealed voting takes a decision by setting the next entry of the voter. -/
theorem Records.eq_take {voter : String} {t : SealedTally} {decision : Decision} {after : Tally}
    (records : Records voter (.sealed t) decision after) :
    after = .sealed (t.take ⟨voter, decision⟩) := by
  rw [← submit_sealed]
  exact (submit_eq (s := ⟨voter, decision⟩) records).symm

/-- A tally takes no decision of a voter who has revealed. -/
theorem Records.unrevealed {voter : String} {t : SealedTally} {decision : Decision} {after : Tally}
    (records : Records voter (.sealed t) decision after) (ballot : HiddenBallot) :
    t.entries.find? voter ≠ some (.revealed ballot) := by
  intro shown
  cases records with
  | committed _ digest hidden => exact hidden ballot shown
  | revealed _ given held => cases held.symm.trans shown

/-- Under sealed voting submissions are taken each by the entry of its voter. -/
theorem submitAll_sealed (t : SealedTally) (submissions : List Submission) :
    (Tally.sealed t).submitAll submissions = .sealed (t.takeAll submissions) := by
  induction submissions generalizing t with
  | nil => rfl
  | cons s later ih =>
    have first : (Tally.sealed t).submitAll (s :: later) =
        ((Tally.sealed t).submit s).submitAll later := rfl
    rw [first, submit_sealed, ih]
    rfl

/-- Under sealed voting a submission is answered by the entry of its voter. -/
theorem answer_sealed (t : SealedTally) (s : Submission) :
    (Tally.sealed t).answer s =
      (SealedEntry.next s.voter (t.entries.find? s.voter) s.decision).map fun _ => () := by
  simp only [answer, record, SealedTally.record_eq_next]
  cases SealedEntry.next s.voter (t.entries.find? s.voter) s.decision <;> rfl

/-- Under sealed voting the answers to a voter follow from the voter's own decisions. -/
theorem answersTo_sealed (t : SealedTally) (submissions : List Submission) (voter : String) :
    (Tally.sealed t).answersTo voter submissions =
      SealedEntry.answers voter (t.entries.find? voter) (decisionsOf voter submissions) := by
  induction submissions generalizing t with
  | nil => rfl
  | cons s later ih =>
    have own := t.find?_take s voter
    rw [answersTo, submit_sealed, ih, decisionsOf_cons]
    by_cases same : s.voter = voter
    · rw [if_pos same] at own
      rw [if_pos same, if_pos same, own, answer_sealed, same]
      rfl
    · rw [if_neg same] at own
      rw [if_neg same, if_neg same, own]

end Tally

/-- An entry has power on one side at most. -/
theorem SealedEntry.powerOn_one_side (entry : SealedEntry) :
    entry.powerOn true = 0 ∨ entry.powerOn false = 0 := by
  cases entry with
  | committed digest => exact .inl rfl
  | revealed ballot =>
    cases side : ballot.inSupport with
    | true => exact .inr (by simp [powerOn, Ballot.powerOn, side])
    | false => exact .inl (by simp [powerOn, Ballot.powerOn, side])

namespace SealedTally

/-- From no entries on, the totals are the clipped sums of the revealed power. -/
theorem totals_takeAll_fresh (parameters : SealedParameters) (submissions : List Submission)
    (side : Bool) :
    (((fresh parameters).takeAll submissions).totals.side side).toNat =
      min (((fresh parameters).takeAll submissions).revealedPower side) (Word.greatest 128) := by
  have counted := ((fresh parameters).takeAll_counts submissions side).2
  have unrevealed : (fresh parameters).revealedPower side = 0 := rfl
  have unsupported : ((fresh parameters).totals.side side).toNat = 0 := by cases side <;> rfl
  rwa [unrevealed, unsupported, Nat.zero_add, Nat.sub_zero] at counted

/-- A voter without an entry at first who holds a commitment holds the last one given. -/
theorem latestCommitment_of_committed {parameters : SealedParameters}
    {submissions : List Submission} {voter : String} {digest : Digest}
    (held : ((fresh parameters).takeAll submissions).entries.find? voter =
      some (.committed digest)) :
    latestCommitment (decisionsOf voter submissions) = some digest := by
  rw [find?_takeAll] at held
  rcases SealedEntry.latestCommitment_foldl_follow voter (decisionsOf voter submissions)
    with hidden | ⟨ballot, _, shown⟩
  · obtain ⟨last, latest, same⟩ := Option.map_eq_some_iff.mp (hidden.symm.trans held)
    rw [latest, SealedEntry.committed.inj same]
  · cases shown.symm.trans held

/-- What a voter has revealed was revealed by a submission that found the commitment to it. -/
theorem exists_reveal {parameters : SealedParameters} {submissions : List Submission}
    {voter : String} {ballot : HiddenBallot}
    (shown : ((fresh parameters).takeAll submissions).entries.find? voter =
      some (.revealed ballot)) :
    ∃ earlier later, submissions = earlier ++ ⟨voter, .reveal ballot⟩ :: later ∧
      ((fresh parameters).takeAll earlier).entries.find? voter =
        some (.committed ballot.commitment) := by
  induction submissions using List.reverseRecOn with
  | nil => cases shown
  | append_singleton first s ih =>
    have extend : ((fresh parameters).takeAll first).entries.find? voter =
        some (.revealed ballot) → ∃ earlier later,
          first ++ [s] = earlier ++ ⟨voter, .reveal ballot⟩ :: later ∧
            ((fresh parameters).takeAll earlier).entries.find? voter =
              some (.committed ballot.commitment) := by
      intro before
      obtain ⟨earlier, later, split, held⟩ := ih before
      exact ⟨earlier, later ++ [s], by rw [split, List.append_assoc, List.cons_append], held⟩
    rw [takeAll_concat, find?_take] at shown
    by_cases own : s.voter = voter
    · rw [if_pos own] at shown
      rcases SealedEntry.before_of_follow_revealed shown with before | ⟨reveals, held⟩
      · exact extend before
      · have same : s = ⟨voter, .reveal ballot⟩ := by rw [← own, ← reveals]
        exact ⟨first, [], by rw [same], held⟩
    · rw [if_neg own] at shown
      exact extend shown

/-- A voter who has revealed is left with the ballot by all further submissions. -/
theorem find?_takeAll_revealed {t : SealedTally} {voter : String} {ballot : HiddenBallot}
    (shown : t.entries.find? voter = some (.revealed ballot)) (later : List Submission) :
    (t.takeAll later).entries.find? voter = some (.revealed ballot) := by
  rw [find?_takeAll, shown, SealedEntry.foldl_follow_revealed]

end SealedTally

namespace Tally

/-- A voter who holds the commitment to a ballot is let reveal it. -/
theorem answer_reveal {t : SealedTally} {voter : String} {ballot : HiddenBallot}
    (held : t.entries.find? voter = some (.committed ballot.commitment)) :
    (Tally.sealed t).answer ⟨voter, .reveal ballot⟩ = .ok () := by
  rw [answer_sealed, held, SealedEntry.next_reveal]
  rfl

/-- A refused submission leaves a tally as it is. -/
theorem submit_of_refused {t : Tally} {s : Submission} {refusal : Refusal}
    (refused : t.answer s = .error refusal) : t.submit s = t :=
  eq_of_refused (Prod.ext refused rfl)

/-- Under sealed voting, after any submissions from a new tally: the totals are the clipped sums of
the power that the entries reveal on either side; every voter is listed once and counts on one side
at most; what a voter has revealed stays through all further submissions, and it was revealed by a
submission that was taken, whose ballot is the one behind the last commitment of the voter before
it; and a submission that is refused leaves the tally as it is. -/
theorem revealed_power_counts_once (parameters : SealedParameters)
    (submissions : List Submission) :
    let fresh := (VotingSystem.sealed parameters).freshTally
    ∃ t, fresh.submitAll submissions = .sealed t ∧
      (∀ side, (t.totals.side side).toNat = min (t.revealedPower side) (Word.greatest 128)) ∧
      t.entries.keys.Nodup ∧
      (∀ voter entry, t.entries.find? voter = some entry →
        entry.powerOn true = 0 ∨ entry.powerOn false = 0) ∧
      (∀ voter ballot, t.entries.find? voter = some (.revealed ballot) →
        (∀ later, ∃ u, (Tally.sealed t).submitAll later = .sealed u ∧
          u.entries.find? voter = some (.revealed ballot)) ∧
        ∃ earlier later, submissions = earlier ++ ⟨voter, .reveal ballot⟩ :: later ∧
          (fresh.submitAll earlier).answer ⟨voter, .reveal ballot⟩ = .ok () ∧
          latestCommitment (decisionsOf voter earlier) = some ballot.commitment) ∧
      ∀ s refusal, (Tally.sealed t).answer s = .error refusal →
        (Tally.sealed t).submit s = .sealed t := by
  intro fresh
  refine ⟨(SealedTally.fresh parameters).takeAll submissions, submitAll_sealed _ _,
    SealedTally.totals_takeAll_fresh parameters submissions, OrderedMap.nodup_keys _,
    fun _ entry _ => entry.powerOn_one_side, fun voter ballot shown => ⟨fun later => ?_, ?_⟩,
    fun s refusal refused => submit_of_refused refused⟩
  · exact ⟨_, submitAll_sealed _ later, SealedTally.find?_takeAll_revealed shown later⟩
  · obtain ⟨earlier, later, split, held⟩ := SealedTally.exists_reveal shown
    have before : fresh.submitAll earlier =
        .sealed ((SealedTally.fresh parameters).takeAll earlier) := submitAll_sealed _ earlier
    refine ⟨earlier, later, split, ?_, SealedTally.latestCommitment_of_committed held⟩
    rw [before]
    exact answer_reveal held

end Tally

/-- The decisions of each voter alone determine the entries. -/
theorem SealedTally.entries_takeAll_eq (t : SealedTally) {first second : List Submission}
    (same : ∀ voter, decisionsOf voter first = decisionsOf voter second) :
    (t.takeAll first).entries = (t.takeAll second).entries := by
  refine OrderedMap.ext_find? fun voter => ?_
  rw [find?_takeAll, find?_takeAll, same voter]

/-- A tally is determined by its parameters, entries and totals. -/
theorem SealedTally.eq_of_parts {t u : SealedTally} (parameters : t.parameters = u.parameters)
    (entries : t.entries = u.entries) (totals : t.totals = u.totals) : t = u := by
  cases t
  cases u
  cases parameters
  cases entries
  cases totals
  rfl

/-- Submissions that lead to the same entries lead to the same tally: the totals have moved by the
power that the entries gained. -/
theorem SealedTally.takeAll_eq_of_entries {t : SealedTally} {first second : List Submission}
    (same : (t.takeAll first).entries = (t.takeAll second).entries) :
    t.takeAll first = t.takeAll second := by
  have parameters := (t.takeAll_parameters first).trans (t.takeAll_parameters second).symm
  have totals : (t.takeAll first).totals = (t.takeAll second).totals := by
    refine Totals.eq_of_sides fun side => ?_
    have power : (t.takeAll first).revealedPower side = (t.takeAll second).revealedPower side :=
      congrArg (OrderedMap.total · (SealedEntry.powerOn side)) same
    rw [(t.takeAll_counts first side).2, (t.takeAll_counts second side).2, power]
  exact eq_of_parts parameters same totals

/-- From any tally under sealed voting, two interleavings of the same decisions of each voter lead
to the same tally, and they give every voter the same answers. -/
theorem Tally.interleavings_agree (t : SealedTally) {first second : List Submission}
    (same : ∀ voter, decisionsOf voter first = decisionsOf voter second) :
    (Tally.sealed t).submitAll first = (Tally.sealed t).submitAll second ∧
      ∀ voter, (Tally.sealed t).answersTo voter first =
        (Tally.sealed t).answersTo voter second := by
  refine ⟨?_, fun voter => ?_⟩
  · have entries := t.entries_takeAll_eq same
    rw [submitAll_sealed, submitAll_sealed, SealedTally.takeAll_eq_of_entries entries]
  · rw [answersTo_sealed, answersTo_sealed, same voter]

/-- Two voters who together reveal more than the largest balance, and whose open vote and second
reveal are refused, may come in either order. -/
theorem Tally.overfull_reveals_interleave :
    let most : Balance := Word.clip 128 (2 ^ 128)
    let anna : HiddenBallot := ⟨most, true, 1⟩
    let bert : HiddenBallot := ⟨9, true, 2⟩
    let first : List Submission := [⟨"anna", .commit anna.commitment⟩, ⟨"anna", .reveal anna⟩,
      ⟨"bert", .commit bert.commitment⟩, ⟨"bert", .vote ⟨true, 9⟩⟩, ⟨"bert", .reveal bert⟩,
      ⟨"anna", .reveal anna⟩]
    let second : List Submission := [⟨"bert", .commit bert.commitment⟩,
      ⟨"anna", .commit anna.commitment⟩, ⟨"bert", .vote ⟨true, 9⟩⟩, ⟨"bert", .reveal bert⟩,
      ⟨"anna", .reveal anna⟩, ⟨"anna", .reveal anna⟩]
    let fresh := SealedTally.fresh ⟨5, 5, ⟨1, 50, 33⟩⟩
    (∀ voter, decisionsOf voter first = decisionsOf voter second) ∧
      ((Tally.sealed fresh).submitAll first).totals = ⟨most, 0⟩ ∧
      (Tally.sealed fresh).submitAll first = (Tally.sealed fresh).submitAll second ∧
      ∀ voter, (Tally.sealed fresh).answersTo voter first =
        (Tally.sealed fresh).answersTo voter second := by
  intro most anna bert first second fresh
  have same : ∀ voter, decisionsOf voter first = decisionsOf voter second := by
    intro voter
    by_cases ha : "anna" = voter
    · rw [← ha]
      rfl
    · by_cases hb : "bert" = voter
      · rw [← hb]
        rfl
      · simp [decisionsOf, first, second, ha, hb]
  have overfull : ((Tally.sealed fresh).submitAll first).totals = ⟨most, 0⟩ := by decide +kernel
  exact ⟨same, overfull, interleavings_agree fresh same⟩

end OrgGovernance
