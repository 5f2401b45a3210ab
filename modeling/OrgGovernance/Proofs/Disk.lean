import OrgGovernance.Disk
import OrgGovernance.Proofs.OrderedMap

/-!
# What a write changes

A file is written where its directory exists and no directory stands, so a write
makes and removes no directory. Every path therefore leads where it led before,
the written text is read back, and what stands elsewhere is not touched. Where one
text can be written, every other one can be, before and after.
-/

namespace OrgGovernance.Disk

variable {d after : Disk} {path text : String} {p q : Place}

/-- A file can be written at a path, which leads to this place. -/
structure Admits (d : Disk) (path : String) (p : Place) : Prop where
  /-- The path leads to the place. -/
  leads : d.place? path = some p
  /-- The disk can be written. -/
  writable : d.readOnly = false
  /-- The path can name a file. -/
  undotted : p.directoryOnly = false
  /-- The last name can be that of a file. -/
  nameable : p.isNameable = true
  /-- No directory stands at the place. -/
  free : d.lookup p ≠ some .directory
  /-- The directory around the place exists. -/
  inside : d.lookup p.parent = some .directory

/-- A text is written exactly where a file can be, and then it stands there. -/
theorem write?_eq_some_iff :
    d.write? path text = some after ↔ ∃ p, d.Admits path p ∧ after = d.put p (.file text) := by
  unfold write?
  cases leads : d.place? path with
  | none =>
    refine ⟨nofun, ?_⟩
    rintro ⟨p, admits, _⟩
    exact nomatch leads.symm.trans admits.leads
  | some p =>
    simp only [Option.bind_eq_bind, Option.bind_some]
    split
    · next refused =>
      refine ⟨nofun, ?_⟩
      rintro ⟨p', admits, _⟩
      obtain rfl : p = p' := Option.some.inj (leads.symm.trans admits.leads)
      simp [admits.writable, admits.undotted, admits.nameable, admits.free, admits.inside]
        at refused
    · next granted =>
      simp only [Bool.or_eq_true, decide_eq_true_eq, Bool.not_eq_true', not_or, ne_eq,
        Decidable.not_not, Bool.not_eq_true, Bool.not_eq_false] at granted
      obtain ⟨⟨⟨⟨writable, undotted⟩, nameable⟩, free⟩, inside⟩ := granted
      constructor
      · intro h
        cases h
        exact ⟨p, ⟨leads, writable, undotted, nameable, free, inside⟩, rfl⟩
      · rintro ⟨p', admits, rfl⟩
        obtain rfl : p = p' := Option.some.inj (leads.symm.trans admits.leads)
        rfl

/-- The working directory and those above it are no places for files. -/
theorem Place.names_ne_nil (nameable : p.isNameable = true) : p.names ≠ [] := by
  intro none
  simp [isNameable, none] at nameable

/-- What stands at a place of another standard form is not touched. -/
theorem lookup_put_of_ne (entry : DiskEntry) (apart : q.standard ≠ p.standard) :
    (d.put p entry).lookup q = d.lookup q := by
  simp only [lookup, put, OrderedMap.find?_insert, if_neg apart]

/-- A file stands where it is put. -/
theorem lookup_put (nameable : p.isNameable = true) (undotted : p.directoryOnly = false) :
    (d.put p (.file text)).lookup p = some (.file text) := by
  simp [lookup, put, OrderedMap.find?_insert, Place.names_ne_nil nameable, undotted]

/-- A directory stands at a place without names and where the disk or every system has one. -/
theorem lookup_eq_directory_iff : d.lookup q = some .directory ↔
    q.names = [] ∨ (d.entries.find? q.standard).or (standing? q.standard) = some .directory := by
  unfold lookup
  by_cases root : q.names = []
  · simp [root]
  · simp only [root, if_false, false_or]
    cases (d.entries.find? q.standard).or (standing? q.standard) with
    | none => simp
    | some entry =>
      cases entry with
      | directory => simp
      | file text => cases q.directoryOnly <;> simp

/-- A file that is put where no directory stands makes and removes no directory. -/
theorem lookup_put_eq_directory_iff (free : d.lookup p ≠ some .directory) :
    (d.put p (.file text)).lookup q = some .directory ↔ d.lookup q = some .directory := by
  rw [lookup_eq_directory_iff, lookup_eq_directory_iff]
  refine or_congr_right ?_
  by_cases same : q.standard = p.standard
  · have before := mt (lookup_eq_directory_iff.mpr ∘ .inr) free
    simp [put, OrderedMap.find?_insert, same, before]
  · simp only [put, OrderedMap.find?_insert, if_neg same]

/-- Paths lead to the same places on disks with the same directories. -/
theorem place?_congr (same : ∀ q, after.lookup q = some .directory ↔ d.lookup q = some .directory)
    (path : String) : after.place? path = d.place? path := by
  have steps : after.step? = d.step? := by
    funext q piece
    simp only [step?, same]
  simp only [place?, steps]

namespace Admits

/-- Every path leads where it led before a file was put at a place for it. -/
theorem place?_put (admits : d.Admits path p) (text other : String) :
    (d.put p (.file text)).place? other = d.place? other :=
  place?_congr (fun _ => lookup_put_eq_directory_iff admits.free) other

/-- A file can be put again where one has been put. -/
theorem again (admits : d.Admits path p) (text : String) :
    (d.put p (.file text)).Admits path p where
  leads := (admits.place?_put text path).trans admits.leads
  writable := admits.writable
  undotted := admits.undotted
  nameable := admits.nameable
  free h := admits.free ((lookup_put_eq_directory_iff admits.free).mp h)
  inside := (lookup_put_eq_directory_iff admits.free).mpr admits.inside

end Admits

/-- Two paths do not lead to one file. -/
def Elsewhere (d : Disk) (path other : String) : Prop :=
  ∀ p q, d.place? path = some p → d.place? other = some q → q.standard ≠ p.standard

/-- Any text can be written at a path. -/
def Writable (d : Disk) (path : String) : Prop := ∀ text, ∃ after, d.write? path text = some after

/-- Any text can be written exactly where a file can be. -/
theorem writable_iff : d.Writable path ↔ ∃ p, d.Admits path p := by
  constructor
  · intro writable
    obtain ⟨after, written⟩ := writable ""
    obtain ⟨p, admits, _⟩ := write?_eq_some_iff.mp written
    exact ⟨p, admits⟩
  · rintro ⟨p, admits⟩ text
    exact ⟨_, write?_eq_some_iff.mpr ⟨p, admits, rfl⟩⟩

/-- The text that is written is read at the path. -/
theorem read?_of_write? (written : d.write? path text = some after) :
    after.read? path = some (.file text) := by
  obtain ⟨p, admits, rfl⟩ := write?_eq_some_iff.mp written
  rw [read?, (admits.again text).leads, Option.bind_some,
    lookup_put admits.nameable admits.undotted]

/-- What a path that leads elsewhere is read as does not change. -/
theorem read?_elsewhere (written : d.write? path text = some after) {other : String}
    (elsewhere : d.Elsewhere path other) : after.read? other = d.read? other := by
  obtain ⟨p, admits, rfl⟩ := write?_eq_some_iff.mp written
  rw [read?, read?, admits.place?_put]
  cases leads : d.place? other with
  | none => rfl
  | some q => exact lookup_put_of_ne _ (elsewhere p q admits.leads leads)

/-- Of two texts written at one path the later counts. -/
theorem write?_again (written : d.write? path text = some after) (later : String) :
    after.write? path later = d.write? path later := by
  obtain ⟨p, admits, rfl⟩ := write?_eq_some_iff.mp written
  have once : d.write? path later = some (d.put p (.file later)) :=
    write?_eq_some_iff.mpr ⟨p, admits, rfl⟩
  have twice : (d.put p (.file text)).write? path later =
      some ((d.put p (.file text)).put p (.file later)) :=
    write?_eq_some_iff.mpr ⟨p, admits.again text, rfl⟩
  rw [once, twice]
  simp only [put, OrderedMap.insert_insert]

end OrgGovernance.Disk
