/-!
# Finite maps in key order

A map is the list of its entries in strictly increasing order of their keys, so
that two maps with the same entries are equal and a listing needs no sorting.
Each operation is described by what it does to lookups.
-/

namespace OrgGovernance

/-- A finite map, listed in strictly increasing order of its keys. -/
@[ext]
structure OrderedMap (κ : Type) [Ord κ] (ν : Type) where
  /-- The entries in the order of their keys. -/
  entries : List (κ × ν)
  /-- Every key is smaller than all later ones. -/
  increasing : entries.Pairwise fun a b => compare a.1 b.1 = .lt
  deriving DecidableEq

namespace OrderedMap

variable {κ ν : Type} [Ord κ]

/-- The map without entries. -/
def empty : OrderedMap κ ν := ⟨[], .nil⟩

instance : EmptyCollection (OrderedMap κ ν) := ⟨empty⟩

instance : Inhabited (OrderedMap κ ν) := ⟨empty⟩

/-- The number of entries. -/
def size (m : OrderedMap κ ν) : Nat := m.entries.length

/-- The keys in order. -/
def keys (m : OrderedMap κ ν) : List κ := m.entries.map Prod.fst

/-- The values in the order of their keys. -/
def values (m : OrderedMap κ ν) : List ν := m.entries.map Prod.snd

/-- The entries with one value set, at the place of its key. -/
def insertIn (k : κ) (v : ν) : List (κ × ν) → List (κ × ν)
  | [] => [(k, v)]
  | e :: rest =>
    match compare k e.1 with
    | .lt => (k, v) :: e :: rest
    | .eq => (k, v) :: rest
    | .gt => e :: insertIn k v rest

/-- The value beside a key in a list of entries. -/
def findIn [DecidableEq κ] (k : κ) : List (κ × ν) → Option ν
  | [] => none
  | e :: rest => if k = e.1 then some e.2 else findIn k rest

/-- The entries without those of a key. -/
def eraseIn [DecidableEq κ] (k : κ) (es : List (κ × ν)) : List (κ × ν) :=
  es.filter fun e => k ≠ e.1

/-- The value stored under a key. -/
def find? [DecidableEq κ] (m : OrderedMap κ ν) (k : κ) : Option ν := findIn k m.entries

/-- Whether a key is present. -/
def contains [DecidableEq κ] (m : OrderedMap κ ν) (k : κ) : Bool := (m.find? k).isSome

/-- The map without one key. -/
def erase [DecidableEq κ] (m : OrderedMap κ ν) (k : κ) : OrderedMap κ ν :=
  ⟨eraseIn k m.entries, m.increasing.filter _⟩

/-- Every entry of an insertion is the new one or was there before. -/
theorem mem_insertIn {k : κ} {v : ν} {es : List (κ × ν)} {e : κ × ν}
    (h : e ∈ insertIn k v es) : e = (k, v) ∨ e ∈ es := by
  induction es with
  | nil => simpa [insertIn] using h
  | cons a rest ih =>
    unfold insertIn at h
    split at h
    · simpa using h
    · rcases List.mem_cons.mp h with h | h
      · exact .inl h
      · exact .inr (List.mem_cons_of_mem _ h)
    · rcases List.mem_cons.mp h with h | h
      · exact .inr (h ▸ List.mem_cons_self)
      · exact (ih h).imp_right (List.mem_cons_of_mem _)

/-- Insertion keeps the entries in increasing order. -/
theorem insertIn_increasing [Std.TransOrd κ] [Std.LawfulEqOrd κ] (k : κ) (v : ν)
    {es : List (κ × ν)} (h : es.Pairwise fun a b => compare a.1 b.1 = .lt) :
    (insertIn k v es).Pairwise fun a b => compare a.1 b.1 = .lt := by
  induction es with
  | nil => simp [insertIn]
  | cons a rest ih =>
    obtain ⟨first, later⟩ := List.pairwise_cons.mp h
    unfold insertIn
    split
    · next c =>
      refine List.pairwise_cons.mpr ⟨fun b hb => ?_, h⟩
      rcases List.mem_cons.mp hb with rfl | hb
      · exact c
      · exact Std.TransCmp.lt_trans c (first b hb)
    · next c =>
      have same : k = a.1 := Std.LawfulEqOrd.eq_of_compare c
      exact List.pairwise_cons.mpr ⟨fun b hb => same ▸ first b hb, later⟩
    · next c =>
      refine List.pairwise_cons.mpr ⟨fun b hb => ?_, ih later⟩
      rcases mem_insertIn hb with rfl | hb
      · exact Std.OrientedCmp.lt_of_gt c
      · exact first b hb

/-- The map with one value set. -/
def insert [Std.TransOrd κ] [Std.LawfulEqOrd κ] (m : OrderedMap κ ν) (k : κ) (v : ν) :
    OrderedMap κ ν :=
  ⟨insertIn k v m.entries, insertIn_increasing k v m.increasing⟩

/-- The map of a list of pairs; of two pairs with one key the later counts. -/
def ofList [Std.TransOrd κ] [Std.LawfulEqOrd κ] (pairs : List (κ × ν)) : OrderedMap κ ν :=
  pairs.foldl (fun m e => m.insert e.1 e.2) empty

variable [DecidableEq κ]

/-- A lookup in entries with one value set. -/
theorem findIn_insertIn [Std.TransOrd κ] [Std.LawfulEqOrd κ] (k k' : κ) (v : ν)
    (es : List (κ × ν)) :
    findIn k' (insertIn k v es) = if k' = k then some v else findIn k' es := by
  induction es with
  | nil => rfl
  | cons a rest ih =>
    unfold insertIn
    split
    · rfl
    · next c =>
      have same : k = a.1 := Std.LawfulEqOrd.eq_of_compare c
      simp only [findIn, same]
      split <;> rfl
    · next c =>
      simp only [findIn, ih]
      by_cases h : k' = a.1
      · have : a.1 ≠ k := by
          rintro rfl
          simp [Std.ReflCmp.compare_self] at c
        simp [h, this]
      · simp [h]

/-- After an insertion the new value is found under its key and nothing else changes. -/
theorem find?_insert [Std.TransOrd κ] [Std.LawfulEqOrd κ] (m : OrderedMap κ ν) (k k' : κ)
    (v : ν) : (m.insert k v).find? k' = if k' = k then some v else m.find? k' :=
  findIn_insertIn k k' v m.entries

omit [Ord κ] in
/-- A lookup in entries without those of a key. -/
theorem findIn_eraseIn (k k' : κ) (es : List (κ × ν)) :
    findIn k' (eraseIn k es) = if k' = k then none else findIn k' es := by
  induction es with
  | nil => simp [eraseIn, findIn]
  | cons a rest ih =>
    simp only [eraseIn] at ih
    by_cases ha : k = a.1
    · simp only [eraseIn, List.filter_cons, ha, ne_eq, not_true_eq_false, decide_false,
        Bool.false_eq_true, if_false, findIn]
      rw [ha] at ih
      simp only [ne_eq] at ih
      rw [ih]
      split <;> rfl
    · simp only [eraseIn, List.filter_cons, ha, ne_eq, not_false_eq_true, decide_true, if_true,
        findIn]
      simp only [ne_eq] at ih
      rw [ih]
      by_cases h : k' = a.1
      · have : a.1 ≠ k := Ne.symm ha
        simp [h, this]
      · simp [h]

/-- After an erasure nothing is found under the key and nothing else changes. -/
theorem find?_erase (m : OrderedMap κ ν) (k k' : κ) :
    (m.erase k).find? k' = if k' = k then none else m.find? k' :=
  findIn_eraseIn k k' m.entries

/-- Nothing is found in the empty map. -/
@[simp] theorem find?_empty (k : κ) : (empty : OrderedMap κ ν).find? k = none := rfl

end OrderedMap

end OrgGovernance
