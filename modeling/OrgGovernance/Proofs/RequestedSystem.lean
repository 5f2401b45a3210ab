import OrgGovernance.Council
import OrgGovernance.Proofs.OrderedMap
import OrgGovernance.Proofs.SystemParameters

/-!
# Requested voting systems

A request is granted exactly when its name is known, all its keys and no others
are there, every text spells a value and the values are within their bounds. The
system that is granted has the values that are spelled, and a default where a key
may be absent. A voting system with its parameters written out is granted as it is.
-/

namespace OrgGovernance

open ParameterValue

namespace SystemRequest

variable {r : SystemRequest} {key : String}

/-- A request gives a value under a key: its text spells the value, or the key is absent and the
value is the default. -/
inductive Gives (r : SystemRequest) (key : String) (value : ParameterValue) : Prop
  /-- The key is there. -/
  | written {text : String} (there : r.parameters.find? key = some text)
    (spelled : value.SpelledBy text)
  /-- The key is absent. -/
  | absent (missing : r.parameters.find? key = none) (byDefault : default? key = some value)

/-- A request asks for a voting system: it bears the name, has no key beside those of the system and
gives the value of each parameter. -/
structure Asks (r : SystemRequest) (s : VotingSystem) : Prop where
  /-- The name is that of the system. -/
  named : r.tag = s.id.name
  /-- Every key is one of the system's. -/
  known : ∀ key ∈ r.parameters.keys, key ∈ s.id.parameterKeys
  /-- Each parameter has the value that is given. -/
  given : ∀ e ∈ s.parameters, r.Gives e.1 e.2

/-- A request for a system of one kind can be granted. -/
structure Acceptable (r : SystemRequest) (id : SystemId) : Prop where
  /-- The name is that of the system. -/
  named : r.tag = id.name
  /-- Every key is one of the system's. -/
  known : ∀ key ∈ r.parameters.keys, key ∈ id.parameterKeys
  /-- Every key of the system is there, but that of the counting and that of the decay. -/
  complete : ∀ key ∈ id.parameterKeys, key ≠ "vote_counting_strategy" → key ≠ "decay" →
    key ∈ r.parameters.keys
  /-- Every text spells a number of the width, but that of the counting. -/
  numeric : ∀ key text, r.parameters.find? key = some text → key ≠ "vote_counting_strategy" →
    ∃ n, Decimal.Spells text n ∧ n < Nat.pow 2 (width key)
  /-- The counting is named. -/
  counting : ∀ text, r.parameters.find? "vote_counting_strategy" = some text →
    text ∈ ["Simple", "simple", "Quadratic", "quadratic"]
  /-- The currency is not the reserved one. -/
  currency : ∀ text, r.parameters.find? "voting_currency" = some text → ¬Decimal.Spells text 0
  /-- Both percentages are at most one hundred. -/
  percentages : ∀ key ∈ ["min_quorum", "min_participation"], ∀ text n,
    r.parameters.find? key = some text → Decimal.Spells text n → n ≤ 100

/-- Two steps end well exactly when the first one does and the second one does after it. -/
theorem bind_eq_ok_iff {α β : Type} {x : Except SystemFault α} {f : α → Except SystemFault β}
    {b : β} : (x >>= f) = .ok b ↔ ∃ a, x = .ok a ∧ f a = .ok b := by
  cases x with
  | error fault => exact iff_of_false nofun (fun ⟨_, ended, _⟩ => nomatch ended)
  | ok a => exact ⟨fun ended => ⟨a, rfl, ended⟩, fun ⟨_, rfl, ended⟩ => ended⟩

/-- A voting system is read from its own name alone. -/
theorem ofName_eq_ok_iff {text : String} {id : SystemId} :
    SystemId.ofName text = .ok id ↔ text = id.name := by
  constructor
  · intro read
    unfold SystemId.ofName at read
    split at read
    · next found =>
      have named := List.find?_some found
      cases read
      exact (of_decide_eq_true named).symm
    · cases read
  · rintro rfl
    cases id <;> decide

/-- No key is refused exactly when all are the system's. -/
theorem checkKeys_eq_ok_iff {id : SystemId} : r.checkKeys id = .ok () ↔
    ∀ key ∈ r.parameters.keys, key ∈ id.parameterKeys := by
  unfold checkKeys
  split
  · next key foreign =>
    have member := List.mem_of_find?_eq_some foreign
    have unknown := List.find?_some foreign
    refine iff_of_false nofun fun known => ?_
    simp [known key member] at unknown
  · next none =>
    refine iff_of_true rfl fun key member => ?_
    simpa using List.find?_eq_none.mp none key member

/-- A number is read under a key exactly when its text spells it. -/
theorem optional_eq_ok_some_iff {bits : Nat} {w : Word bits} : r.optional bits key = .ok (some w) ↔
    ∃ text, r.parameters.find? key = some text ∧ Decimal.Spells text w.toNat := by
  unfold optional
  cases r.parameters.find? key with
  | none => simp
  | some text =>
    simp only [Option.some.injEq, exists_eq_left', ← Decimal.unsigned?_trimmed_eq_some_iff]
    cases Decimal.unsigned? bits (BlankText.trimmed text) <;> simp

/-- No number is read without a fault exactly when the key is absent. -/
theorem optional_eq_ok_none_iff {bits : Nat} : r.optional bits key = .ok none ↔
    r.parameters.find? key = none := by
  unfold optional
  cases r.parameters.find? key with
  | none => exact iff_of_true rfl rfl
  | some text =>
    refine iff_of_false (fun read => ?_) nofun
    dsimp only at read
    split at read
    · cases read
    · cases read

/-- A value without a default is given exactly when its text is there. -/
theorem gives_iff_of_needed {value : ParameterValue} (needed : default? key = none) :
    r.Gives key value ↔ ∃ text, r.parameters.find? key = some text ∧ value.SpelledBy text := by
  constructor
  · intro gives
    cases gives with
    | written there spelled => exact ⟨_, there, spelled⟩
    | absent missing byDefault => cases needed.symm.trans byDefault
  · rintro ⟨text, there, spelled⟩
    exact .written there spelled

/-- A number is read under a key that has to be there exactly when it is given. -/
theorem required_eq_ok_iff {bits : Nat} {w : Word bits} (needed : default? key = none) :
    r.required bits key = .ok w ↔ r.Gives key (.number w.toNat) := by
  rw [gives_iff_of_needed needed]
  show _ ↔ ∃ text, r.parameters.find? key = some text ∧ Decimal.Spells text w.toNat
  rw [← optional_eq_ok_some_iff, required, bind_eq_ok_iff]
  constructor
  · rintro ⟨read, ended, kept⟩
    cases read with
    | none => cases kept
    | some n =>
      cases kept
      exact ended
  · intro ended
    exact ⟨some w, ended, rfl⟩

/-- The number under the key of the decay is the one that is given. -/
theorem decay_eq_ok_iff {w : Word 32} :
    (∃ read, r.optional 32 "decay" = .ok read ∧ read.getD 0 = w) ↔
      r.Gives "decay" (.number w.toNat) := by
  constructor
  · rintro ⟨read, ended, rfl⟩
    cases read with
    | none => exact .absent (optional_eq_ok_none_iff.mp ended) rfl
    | some n =>
      obtain ⟨text, there, spelled⟩ := optional_eq_ok_some_iff.mp ended
      exact .written there spelled
  · intro gives
    cases gives with
    | written there spelled =>
      exact ⟨some w, optional_eq_ok_some_iff.mpr ⟨_, there, spelled⟩, rfl⟩
    | absent missing byDefault =>
      refine ⟨none, optional_eq_ok_none_iff.mpr missing, Word.ext ?_⟩
      exact ParameterValue.number.inj (Option.some.inj byDefault)

/-- The counting that is read is the one that is given. -/
theorem counting_eq_ok_iff {c : Counting} :
    r.counting = .ok c ↔ r.Gives "vote_counting_strategy" (.counting c) := by
  unfold SystemRequest.counting
  constructor
  · intro read
    split at read
    · next text there =>
      unfold Counting.ofName at read
      split at read
      · next found =>
        cases read
        exact .written there (Counting.ofName?_eq_some_iff.mp found)
      · cases read
    · next missing =>
      cases read
      exact .absent missing rfl
  · intro gives
    cases gives with
    | written there spelled =>
      rw [there]
      show Counting.ofName _ = _
      rw [Counting.ofName, Counting.ofName?_eq_some_iff.mpr spelled]
    | absent missing byDefault =>
      rw [missing]
      exact congrArg Except.ok (ParameterValue.counting.inj (Option.some.inj byDefault))

/-- The thresholds that are read are those that are given. -/
theorem thresholds_eq_ok_iff {t : Thresholds} :
    r.thresholds = .ok t ↔ ∀ e ∈ t.parameters, r.Gives e.1 e.2 := by
  simp only [SystemRequest.thresholds, bind_eq_ok_iff]
  constructor
  · rintro ⟨currency, first, minQuorum, second, minParticipation, third, kept⟩
    cases kept
    exact Thresholds.forall_parameters.mpr ⟨(required_eq_ok_iff (by decide)).mp first,
      (required_eq_ok_iff (by decide)).mp second, (required_eq_ok_iff (by decide)).mp third⟩
  · intro given
    obtain ⟨currency, minQuorum, minParticipation⟩ := Thresholds.forall_parameters.mp given
    exact ⟨t.currency, (required_eq_ok_iff (by decide)).mpr currency,
      t.minQuorum, (required_eq_ok_iff (by decide)).mpr minQuorum,
      t.minParticipation, (required_eq_ok_iff (by decide)).mpr minParticipation, rfl⟩

/-- With its counting read, the system that is read is the one of the kind whose parameters are
given. -/
theorem system_eq_ok_iff {id : SystemId} {c : Counting} {s : VotingSystem}
    (counted : r.counting = .ok c) :
    r.system id c = .ok s ↔ s.id = id ∧ ∀ e ∈ s.parameters, r.Gives e.1 e.2 := by
  constructor
  · intro read
    cases id with
    | coin =>
      simp only [SystemRequest.system, bind_eq_ok_iff] at read
      obtain ⟨lifetime, first, thresholds, second, kept⟩ := read
      cases kept
      exact ⟨rfl, VotingSystem.forall_parameters_coin.mpr
        ⟨(required_eq_ok_iff (by decide)).mp first, thresholds_eq_ok_iff.mp second,
          counting_eq_ok_iff.mp counted⟩⟩
    | conviction =>
      simp only [SystemRequest.system, bind_eq_ok_iff] at read
      obtain ⟨lifetime, first, thresholds, second, decay, third, kept⟩ := read
      cases kept
      exact ⟨rfl, VotingSystem.forall_parameters_conviction.mpr
        ⟨(required_eq_ok_iff (by decide)).mp first, thresholds_eq_ok_iff.mp second,
          decay_eq_ok_iff.mp ⟨decay, third, rfl⟩⟩⟩
    | «sealed» =>
      simp only [SystemRequest.system, bind_eq_ok_iff] at read
      obtain ⟨commitDuration, first, revealDuration, second, thresholds, third, kept⟩ := read
      cases kept
      exact ⟨rfl, VotingSystem.forall_parameters_sealed.mpr
        ⟨(required_eq_ok_iff (by decide)).mp first, (required_eq_ok_iff (by decide)).mp second,
          thresholds_eq_ok_iff.mp third⟩⟩
  · rintro ⟨rfl, given⟩
    cases s with
    | coin p =>
      obtain ⟨lifetime, thresholds, counting⟩ := VotingSystem.forall_parameters_coin.mp given
      cases counted.symm.trans (counting_eq_ok_iff.mpr counting)
      simp only [SystemRequest.system, VotingSystem.id, bind_eq_ok_iff]
      exact ⟨p.lifetime, (required_eq_ok_iff (by decide)).mpr lifetime,
        p.thresholds, thresholds_eq_ok_iff.mpr thresholds, rfl⟩
    | conviction p =>
      obtain ⟨lifetime, thresholds, decay⟩ := VotingSystem.forall_parameters_conviction.mp given
      obtain ⟨read, ended, same⟩ := decay_eq_ok_iff.mpr decay
      simp only [SystemRequest.system, VotingSystem.id, bind_eq_ok_iff]
      refine ⟨p.lifetime, (required_eq_ok_iff (by decide)).mpr lifetime,
        p.thresholds, thresholds_eq_ok_iff.mpr thresholds, read, ended, ?_⟩
      rw [same]
      rfl
    | «sealed» p =>
      obtain ⟨commitDuration, revealDuration, thresholds⟩ :=
        VotingSystem.forall_parameters_sealed.mp given
      simp only [SystemRequest.system, VotingSystem.id, bind_eq_ok_iff]
      exact ⟨p.commitDuration, (required_eq_ok_iff (by decide)).mpr commitDuration,
        p.revealDuration, (required_eq_ok_iff (by decide)).mpr revealDuration,
        p.thresholds, thresholds_eq_ok_iff.mpr thresholds, rfl⟩

section

variable {id : SystemId} {s : VotingSystem} {text : String}

/-- A key with a text is one of the keys. -/
theorem mem_keys_of_find? (there : r.parameters.find? key = some text) :
    key ∈ r.parameters.keys :=
  OrderedMap.mem_keys_iff.mpr (Option.isSome_of_eq_some there)

/-- A request that asks for a voting system gives a fitting value under each of its keys. -/
theorem Asks.exists_given (asks : r.Asks s) (member : key ∈ s.id.parameterKeys) :
    ∃ value, value.Fits key ∧ r.Gives key value := by
  rw [← s.keys_parameters] at member
  obtain ⟨⟨_, value⟩, parameter, rfl⟩ := List.mem_map.mp member
  exact ⟨value, s.parameters_fit _ parameter, asks.given _ parameter⟩

/-- Each text of a request that asks for a voting system spells a value that fits its key. -/
theorem Asks.exists_spelled (asks : r.Asks s) (there : r.parameters.find? key = some text) :
    ∃ value : ParameterValue, value.Fits key ∧ value.SpelledBy text := by
  obtain ⟨value, fits, gives⟩ := asks.exists_given (asks.known key (mem_keys_of_find? there))
  cases gives with
  | written there' spelled =>
    cases there.symm.trans there'
    exact ⟨value, fits, spelled⟩
  | absent missing byDefault => cases there.symm.trans missing

/-- A text under the key of the counting names one. -/
theorem Asks.exists_named (asks : r.Asks s)
    (there : r.parameters.find? "vote_counting_strategy" = some text) :
    ∃ c : Counting, text ∈ c.names := by
  obtain ⟨value, fits, spelled⟩ := asks.exists_spelled there
  cases value with
  | number n => exact absurd rfl fits.1
  | counting c => exact ⟨c, spelled⟩

/-- A counting is read of every request that asks for a voting system. -/
theorem Asks.exists_counting (asks : r.Asks s) : ∃ c, r.counting = .ok c := by
  cases there : r.parameters.find? "vote_counting_strategy" with
  | none => exact ⟨.simple, counting_eq_ok_iff.mpr (.absent there rfl)⟩
  | some text =>
    obtain ⟨c, named⟩ := asks.exists_named there
    exact ⟨c, counting_eq_ok_iff.mpr (.written there named)⟩

/-- A voting system is granted exactly when the request asks for it and it is accepted. -/
theorem grant_eq_ok_iff : r.grant = .ok s ↔ r.Asks s ∧ s.validate = .ok () := by
  simp only [grant, bind_eq_ok_iff]
  constructor
  · rintro ⟨id, named, _, known, c, counted, system, read, _, valid, kept⟩
    cases kept
    obtain ⟨rfl, given⟩ := (system_eq_ok_iff counted).mp read
    exact ⟨⟨ofName_eq_ok_iff.mp named, checkKeys_eq_ok_iff.mp known, given⟩, valid⟩
  · rintro ⟨asks, valid⟩
    obtain ⟨c, counted⟩ := asks.exists_counting
    exact ⟨s.id, ofName_eq_ok_iff.mpr asks.named, (), checkKeys_eq_ok_iff.mpr asks.known, c,
      counted, s, (system_eq_ok_iff counted).mpr ⟨rfl, asks.given⟩, (), valid, rfl⟩

/-- The number that a request gives under a key of the thresholds is spelled there. -/
theorem Asks.spells_threshold (asks : r.Asks s) {n : Nat}
    (member : (key, .number n) ∈ s.thresholds.parameters) (needed : default? key = none)
    (there : r.parameters.find? key = some text) : Decimal.Spells text n := by
  have gives : r.Gives key (.number n) :=
    asks.given _ (VotingSystem.mem_parameters_of_thresholds member)
  obtain ⟨text', there', spelled⟩ := (gives_iff_of_needed needed).mp gives
  cases there.symm.trans there'
  exact spelled

/-- A request that asks for an accepted voting system is acceptable. -/
theorem Asks.acceptable (asks : r.Asks s) (valid : s.validate = .ok ()) : r.Acceptable s.id := by
  obtain ⟨nonzero, quorum, participation⟩ :=
    Thresholds.check_eq_ok_iff.mp (VotingSystem.validate_eq_ok_iff.mp valid)
  refine ⟨asks.named, asks.known, ?_, ?_, ?_, ?_, ?_⟩
  · intro key member counting decay
    obtain ⟨value, -, gives⟩ := asks.exists_given member
    cases gives with
    | written there spelled => exact mem_keys_of_find? there
    | absent missing byDefault =>
      rcases key_of_default? byDefault with rfl | rfl
      · exact absurd rfl counting
      · exact absurd rfl decay
  · intro key text there other
    obtain ⟨value, fits, spelled⟩ := asks.exists_spelled there
    cases value with
    | number n => exact ⟨n, spelled, fits.2⟩
    | counting c => exact absurd fits other
  · intro text there
    exact Counting.exists_mem_names_iff.mp (asks.exists_named there)
  · intro text there zero
    have spelled := asks.spells_threshold List.mem_cons_self (by decide) there
    exact nonzero (spelled.unique zero)
  · intro key percentage text n there spelled
    rcases List.mem_pair.mp percentage with rfl | rfl
    · have given := asks.spells_threshold (.tail _ (.head _)) (by decide) there
      exact spelled.unique given ▸ quorum
    · have given := asks.spells_threshold (.tail _ (.tail _ (.head _))) (by decide) there
      exact spelled.unique given ▸ participation

/-- An acceptable request gives a number of the width under each key but that of the counting. -/
theorem Acceptable.exists_number (acceptable : r.Acceptable id) {bits : Nat}
    (member : key ∈ id.parameterKeys) (other : key ≠ "vote_counting_strategy")
    (wide : width key = bits) : ∃ w : Word bits, r.Gives key (.number w.toNat) := by
  cases there : r.parameters.find? key with
  | some text =>
    obtain ⟨n, spells, small⟩ := acceptable.numeric key text there other
    exact ⟨⟨n, wide ▸ small⟩, .written there spells⟩
  | none =>
    by_cases decay : key = "decay"
    · subst decay
      exact ⟨⟨0, Nat.two_pow_pos bits⟩, .absent there rfl⟩
    · have present := OrderedMap.mem_keys_iff.mp (acceptable.complete key member other decay)
      rw [OrderedMap.contains, there] at present
      cases present

/-- An acceptable request gives a counting. -/
theorem Acceptable.exists_counting (acceptable : r.Acceptable id) :
    ∃ c, r.Gives "vote_counting_strategy" (.counting c) := by
  cases there : r.parameters.find? "vote_counting_strategy" with
  | none => exact ⟨.simple, .absent there rfl⟩
  | some text =>
    obtain ⟨c, named⟩ := Counting.exists_mem_names_iff.mpr (acceptable.counting text there)
    exact ⟨c, .written there named⟩

/-- An acceptable request gives thresholds that are accepted. -/
theorem Acceptable.exists_thresholds (acceptable : r.Acceptable id) :
    ∃ t : Thresholds, t.check = .ok () ∧ ∀ e ∈ t.parameters, r.Gives e.1 e.2 := by
  obtain ⟨currency, first⟩ : ∃ w : Word 32, r.Gives "voting_currency" (.number w.toNat) :=
    acceptable.exists_number (by cases id <;> decide) (by decide) (by decide)
  obtain ⟨minQuorum, second⟩ : ∃ w : Word 32, r.Gives "min_quorum" (.number w.toNat) :=
    acceptable.exists_number (by cases id <;> decide) (by decide) (by decide)
  obtain ⟨minParticipation, third⟩ :
      ∃ w : Word 32, r.Gives "min_participation" (.number w.toNat) :=
    acceptable.exists_number (by cases id <;> decide) (by decide) (by decide)
  obtain ⟨_, currencyThere, currencySpelled⟩ := (gives_iff_of_needed (by decide)).mp first
  obtain ⟨_, quorumThere, quorumSpelled⟩ := (gives_iff_of_needed (by decide)).mp second
  obtain ⟨_, participationThere, participationSpelled⟩ :=
    (gives_iff_of_needed (by decide)).mp third
  refine ⟨⟨currency, minQuorum, minParticipation⟩,
    Thresholds.check_eq_ok_iff.mpr ⟨?_, ?_, ?_⟩,
    Thresholds.forall_parameters.mpr ⟨first, second, third⟩⟩
  · intro zero
    exact acceptable.currency _ currencyThere (zero ▸ currencySpelled)
  · exact acceptable.percentages _ (by decide) _ _ quorumThere quorumSpelled
  · exact acceptable.percentages _ (by decide) _ _ participationThere participationSpelled

/-- An acceptable request asks for an accepted voting system of its kind. -/
theorem Acceptable.exists_asked (acceptable : r.Acceptable id) :
    ∃ s, r.Asks s ∧ s.validate = .ok () := by
  obtain ⟨t, accepted, thresholds⟩ := acceptable.exists_thresholds
  have valid : ∀ s : VotingSystem, s.thresholds = t → s.validate = .ok () := fun s same =>
    VotingSystem.validate_eq_ok_iff.mpr (same ▸ accepted)
  cases id with
  | coin =>
    obtain ⟨lifetime, first⟩ : ∃ w : Height, r.Gives "ttl" (.number w.toNat) :=
      acceptable.exists_number (by decide) (by decide) (by decide)
    obtain ⟨counting, second⟩ := acceptable.exists_counting
    exact ⟨.coin ⟨lifetime, t, counting⟩, ⟨acceptable.named, acceptable.known,
      VotingSystem.forall_parameters_coin.mpr ⟨first, thresholds, second⟩⟩, valid _ rfl⟩
  | conviction =>
    obtain ⟨lifetime, first⟩ : ∃ w : Height, r.Gives "ttl" (.number w.toNat) :=
      acceptable.exists_number (by decide) (by decide) (by decide)
    obtain ⟨decay, second⟩ : ∃ w : Word 32, r.Gives "decay" (.number w.toNat) :=
      acceptable.exists_number (by decide) (by decide) (by decide)
    exact ⟨.conviction ⟨lifetime, t, decay⟩, ⟨acceptable.named, acceptable.known,
      VotingSystem.forall_parameters_conviction.mpr ⟨first, thresholds, second⟩⟩, valid _ rfl⟩
  | «sealed» =>
    obtain ⟨commitDuration, first⟩ : ∃ w : Height, r.Gives "commit_duration" (.number w.toNat) :=
      acceptable.exists_number (by decide) (by decide) (by decide)
    obtain ⟨revealDuration, second⟩ : ∃ w : Height, r.Gives "reveal_duration" (.number w.toNat) :=
      acceptable.exists_number (by decide) (by decide) (by decide)
    exact ⟨.sealed ⟨commitDuration, revealDuration, t⟩, ⟨acceptable.named, acceptable.known,
      VotingSystem.forall_parameters_sealed.mpr ⟨first, second, thresholds⟩⟩, valid _ rfl⟩

/-- A voting system with its parameters written out is asked for. -/
theorem asks_request (s : VotingSystem) : s.request.Asks s := by
  have keys : (s.parameters.map fun e => (e.1, e.2.text)).map Prod.fst = s.id.parameterKeys := by
    rw [List.map_map]
    exact s.keys_parameters
  refine ⟨rfl, ?_, ?_⟩
  · intro key member
    have listed := OrderedMap.contains_ofList.mp (OrderedMap.mem_keys_iff.mp member)
    rwa [keys] at listed
  · intro e parameter
    have distinct := VotingSystem.nodup_parameterKeys s.id
    rw [← keys] at distinct
    exact .written (OrderedMap.find?_foldl_insert_of_mem _ distinct
      (List.mem_map.mpr ⟨e, parameter, rfl⟩)) e.2.spelledBy_text

/-- A request is granted exactly when it is acceptable, and then the system is the one that it asks
for. All other requests are refused with a fault of theirs, and nothing is registered. An accepted
voting system is granted when its parameters are written out. -/
theorem granted_iff_acceptable (r : SystemRequest) (s : VotingSystem) :
    ((∃ granted, r.grant = .ok granted) ↔ ∃ id, r.Acceptable id) ∧
      (r.grant = .ok s ↔ r.Asks s ∧ s.validate = .ok ()) ∧
      ((¬∃ id, r.Acceptable id) → ∃ fault, r.grant = .error fault ∧
        ∀ (c : Council) (executors : List String),
          c.createOrganizationFrom executors r = (.error (.invalidVotingSystem fault), c)) ∧
      (s.validate = .ok () → s.request.grant = .ok s) := by
  have granted : (∃ granted, r.grant = .ok granted) ↔ ∃ id, r.Acceptable id := by
    constructor
    · rintro ⟨system, granted⟩
      obtain ⟨asks, valid⟩ := grant_eq_ok_iff.mp granted
      exact ⟨system.id, asks.acceptable valid⟩
    · rintro ⟨id, acceptable⟩
      obtain ⟨system, asks, valid⟩ := acceptable.exists_asked
      exact ⟨system, grant_eq_ok_iff.mpr ⟨asks, valid⟩⟩
  refine ⟨granted, grant_eq_ok_iff, ?_, fun valid => grant_eq_ok_iff.mpr ⟨asks_request s, valid⟩⟩
  intro refused
  cases ended : r.grant with
  | ok system => exact absurd (granted.mp ⟨system, ended⟩) refused
  | error fault =>
    refine ⟨fault, rfl, fun c executors => ?_⟩
    rw [Council.createOrganizationFrom, ended]
    rfl

end

end SystemRequest

end OrgGovernance
