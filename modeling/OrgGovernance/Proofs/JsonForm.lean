import OrgGovernance.JsonForm
import OrgGovernance.Proofs.DigestText
import OrgGovernance.Proofs.Json.Value
import OrgGovernance.Proofs.OrderedMap

/-!
# Stored values are read back

A kind of values is faithful when every written form is legible and is read as
the value it was written for. Faithfulness passes from the fields of a record to
the record, from the contents of a choice to the choice and from keys and values
to lists and maps. The text of a faithful value gives the value back, with or
without layout, and so the text of a state gives the state.
-/

namespace OrgGovernance.JsonForm

/-- Values whose written form is legible and is read as the value again. -/
class Faithful (α : Type) [JsonForm α] : Prop where
  /-- The written form is legible. -/
  legible (a : α) : (toJson a).Legible
  /-- The written form is read as the value. -/
  ofJson?_toJson (a : α) : ofJson? (toJson a) = some a

/-- Keys that may stand between quotes and are read as the key again. -/
class Key.Faithful (κ : Type) [Key κ] : Prop where
  /-- The written key may stand between quotes. -/
  quotable (k : κ) : Json.Quotable (toKey k)
  /-- The written key is read as the key. -/
  ofKey?_toKey (k : κ) : ofKey? (toKey k) = some k

export Faithful (legible ofJson?_toJson)

attribute [simp] Faithful.legible Faithful.ofJson?_toJson

section Text

variable {α : Type} [JsonForm α] [Faithful α]

/-- A value is read back from its compact text. -/
theorem read?_write (a : α) : read? (write a) = some a := by
  rw [read?, write, (legible a).parse?_compact, Option.bind_eq_bind, Option.bind_some,
    ofJson?_toJson]

/-- A value is read back from its text with layout. -/
theorem read?_writePretty (a : α) : read? (writePretty a) = some a := by
  rw [read?, writePretty, (legible a).parse?_pretty, Option.bind_eq_bind, Option.bind_some,
    ofJson?_toJson]

end Text

/-- Items are read from their written forms when each of them is. -/
theorem mapM_map_eq_some {α β : Type} {write : α → β} {read : β → Option α} {items : List α}
    (h : ∀ a ∈ items, read (write a) = some a) : (items.map write).mapM read = some items := by
  induction items with
  | nil => rfl
  | cons a items ih =>
    obtain ⟨first, later⟩ := List.forall_mem_cons.mp h
    rw [List.map_cons, List.mapM_cons, first, ih later]
    rfl

/-- A record of legible fields is legible. -/
theorem legible_record {fields : List (String × Json)} (h : ∀ field ∈ fields, field.2.Legible) :
    (record fields).Legible := by
  refine .object ?_ ?_
  · intro m member
    obtain ⟨field, _, rfl⟩ := List.mem_map.mp member
    exact Json.quotable_escape field.1
  · intro m member
    obtain ⟨field, given, rfl⟩ := List.mem_map.mp member
    exact h field given

/-- The fields of a record are read back under their names. -/
theorem fields?_record {fields : List (String × Json)}
    (distinct : (fields.map Prod.fst).Nodup) :
    fields? (fields.map Prod.fst) (record fields) = some fields := by
  have named : (fields.map fun field => (Json.escape field.1, field.2)).mapM (fun m =>
      (Json.unescape? m.1).map fun key => (key, m.2)) = some fields :=
    mapM_map_eq_some fun field _ => by rw [Json.unescape?_escape, Option.map_some]
  have known : fields.filter (fun field => (fields.map Prod.fst).contains field.1) = fields :=
    List.filter_eq_self.mpr fun field member => by
      simpa using ⟨field.2, member⟩
  simp only [record, fields?, named, Option.bind_eq_bind, Option.bind_some, known, if_pos distinct]

/-- What is made of the fields of a record is read back from the record. -/
theorem read_record {α : Type} {names : List String} {fields : List (String × Json)}
    {read : List (String × Json) → Option α} {a : α} (named : fields.map Prod.fst = names)
    (distinct : names.Nodup) (h : read fields = some a) :
    (fields? names (record fields) >>= read) = some a := by
  subst named
  rw [fields?_record distinct, Option.bind_eq_bind, Option.bind_some, h]

/-- The content of a case is read back under its name. -/
@[simp] theorem contentCase?_chosen (name : String) (content : Json) :
    contentCase? (chosen name content) = some (name, content) := by
  simp [contentCase?, chosen, record, case?, Json.unescape?_escape]

/-- The name of a case that carries nothing is read back. -/
@[simp] theorem bareCase?_ofText (name : String) : bareCase? (Json.ofText name) = some name := by
  simp [bareCase?, Json.ofText, case?, Json.unescape?_escape]

/-- The name of a case is looked for among the names of all cases. -/
@[simp] theorem ofNames_ofText {α : Type} (cases : List α) (name : α → String) (given : String) :
    ofNames cases name (Json.ofText given) = cases.find? fun case => name case = given := by
  rw [ofNames, bareCase?_ofText, Option.bind_eq_bind, Option.bind_some]

/-- A choice whose content is legible is legible. -/
theorem legible_chosen {name : String} {content : Json} (h : content.Legible) :
    (chosen name content).Legible :=
  legible_record (by simpa using h)

/-- The hexadecimal string of a call is legible. -/
@[simp] theorem legible_ofBytes (bytes : Bytes) : (ofBytes bytes).Legible :=
  .string (Json.quotable_escape _)

/-- A call is read back from its hexadecimal string. -/
@[simp] theorem bytes?_ofBytes (bytes : Bytes) : bytes? (ofBytes bytes) = some bytes := by
  simp [bytes?, ofBytes, Hexadecimal.decodeMarked_encode, Except.toOption]

instance : Faithful Bool where
  legible b := .bool b
  ofJson?_toJson _ := rfl

instance : Faithful String where
  legible text := .string (Json.quotable_escape text)
  ofJson?_toJson text := Json.text?_ofText text

instance {bits : Nat} : Faithful (Word bits) where
  legible n := .number n.toNat
  ofJson?_toJson n := by
    simp [toJson, ofJson?, Decimal.canonical?_toDigits]

instance : Faithful Digest where
  legible d := .string (Json.quotable_escape d.text)
  ofJson?_toJson d := by
    simp [toJson, ofJson?, Digest.ofText_text, Except.toOption]

instance {α : Type} [JsonForm α] [Faithful α] : Faithful (List α) where
  legible values := .array fun e member => by
    obtain ⟨a, _, rfl⟩ := List.mem_map.mp member
    exact legible a
  ofJson?_toJson values := mapM_map_eq_some fun a _ => ofJson?_toJson a

instance : Key.Faithful String where
  quotable := Json.quotable_escape
  ofKey?_toKey := Json.unescape?_escape

instance {bits : Nat} : Key.Faithful (Word bits) where
  quotable n := Json.quotable_toDigits n.toNat
  ofKey?_toKey n := by
    simp [Key.ofKey?, Key.toKey, Decimal.canonical?_toDigits]

instance {κ ν : Type} [Ord κ] [Std.TransOrd κ] [Std.LawfulEqOrd κ] [Key κ] [JsonForm ν]
    [Key.Faithful κ] [Faithful ν] : Faithful (OrderedMap κ ν) where
  legible m := by
    refine .object ?_ ?_
    · intro member given
      obtain ⟨e, _, rfl⟩ := List.mem_map.mp given
      exact Key.Faithful.quotable e.1
    · intro member given
      obtain ⟨e, _, rfl⟩ := List.mem_map.mp given
      exact legible e.2
  ofJson?_toJson m := by
    have entries : (m.entries.map fun e => (Key.toKey e.1, toJson e.2)).mapM (fun member => do
        let key ← Key.ofKey? member.1
        let value ← ofJson? member.2
        return (key, value)) = some m.entries :=
      mapM_map_eq_some fun e _ => by simp [Key.Faithful.ofKey?_toKey]
    have whole : some (OrderedMap.ofList m.entries) = some m :=
      congrArg some (OrderedMap.ofList_entries m)
    exact Option.bind_eq_some_iff.mpr ⟨m.entries, entries, whole⟩

instance : Faithful SystemId where
  legible id := .string (Json.quotable_escape id.name)
  ofJson?_toJson id := (ofNames_ofText _ _ _).trans (by cases id <;> decide)

instance : Faithful Counting where
  legible counting := .string (Json.quotable_escape counting.name)
  ofJson?_toJson counting := (ofNames_ofText _ _ _).trans (by cases counting <;> decide)

instance : Faithful CoinParameters where
  legible p := legible_record (by simp [thresholdFields])
  ofJson?_toJson p := read_record rfl (by decide)
    (by simp [thresholds?, thresholdFields, required, optional, List.lookup_cons])

instance : Faithful ConvictionParameters where
  legible p := legible_record (by simp [thresholdFields])
  ofJson?_toJson p := read_record rfl (by decide)
    (by simp [thresholds?, thresholdFields, required, optional, List.lookup_cons])

instance : Faithful SealedParameters where
  legible p := legible_record (by simp [thresholdFields])
  ofJson?_toJson p := read_record rfl (by decide)
    (by simp [thresholds?, thresholdFields, required, List.lookup_cons])

instance : Faithful VotingSystem where
  legible
    | .coin p => legible_chosen (legible p)
    | .conviction p => legible_chosen (legible p)
    | .sealed p => legible_chosen (legible p)
  ofJson?_toJson system := by
    -- Only the form of the choice itself is unfolded, not those of what it carries.
    delta instVotingSystem
    cases system <;> simp only [contentCase?_chosen, ofJson?_toJson, Option.map_some]

instance : Faithful Ballot where
  legible b := legible_record (by simp)
  ofJson?_toJson b := read_record rfl (by decide) (by simp [required, List.lookup_cons])

instance : Faithful HiddenBallot where
  legible b := legible_record (by simp)
  ofJson?_toJson b := read_record rfl (by decide) (by simp [required, List.lookup_cons])

instance : Faithful SealedEntry where
  legible
    | .committed digest => legible_chosen (legible digest)
    | .revealed ballot => legible_chosen (legible ballot)
  ofJson?_toJson entry := by
    delta instSealedEntry
    cases entry <;> simp only [contentCase?_chosen, ofJson?_toJson, Option.map_some]

instance : Faithful CoinTally where
  legible t := legible_record (by simp)
  ofJson?_toJson t := read_record rfl (by decide) (by simp [totals?, required, List.lookup_cons])

instance : Faithful ConvictionTally where
  legible t := legible_record (by simp)
  ofJson?_toJson t := read_record rfl (by decide) (by simp [totals?, required, List.lookup_cons])

instance : Faithful SealedTally where
  legible t := legible_record (by simp)
  ofJson?_toJson t := read_record rfl (by decide) (by simp [totals?, required, List.lookup_cons])

instance : Faithful Tally where
  legible
    | .coin t => legible_chosen (legible t)
    | .conviction t => legible_chosen (legible t)
    | .sealed t => legible_chosen (legible t)
  ofJson?_toJson tally := by
    delta instTally
    cases tally <;> simp only [contentCase?_chosen, ofJson?_toJson, Option.map_some]

instance : Faithful Organization where
  legible o := legible_record (by simp)
  ofJson?_toJson o := read_record rfl (by decide) (by simp [required, List.lookup_cons])

instance : Faithful Proposal where
  legible p := legible_record (by simp)
  ofJson?_toJson p := read_record rfl (by decide)
    (by simp [required, requiredBytes, List.lookup_cons])

instance : Faithful Registry where
  legible r := legible_record (by simp)
  ofJson?_toJson r := read_record rfl (by decide) (by simp [required, List.lookup_cons])

instance : Faithful DispatchedCall where
  legible d := legible_record (by simp)
  ofJson?_toJson d := read_record rfl (by decide)
    (by simp [required, requiredBytes, List.lookup_cons])

instance : Faithful Chain where
  legible c := legible_record (by simp)
  ofJson?_toJson c := read_record rfl (by decide) (by simp [required, optional, List.lookup_cons])

instance : Faithful NodeState where
  legible s := legible_record (by simp)
  ofJson?_toJson s := read_record rfl (by decide) (by simp [required, List.lookup_cons])

/-- The text of a state, with or without layout, is read as the state. -/
theorem state_text_gives_state (s : NodeState) :
    read? (write s) = some s ∧ read? (writePretty s) = some s :=
  ⟨read?_write s, read?_writePretty s⟩

end OrgGovernance.JsonForm
