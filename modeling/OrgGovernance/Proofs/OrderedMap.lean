import OrgGovernance.OrderedMap
import Mathlib.Algebra.Order.BigOperators.Group.List
import Mathlib.Algebra.Order.Ring.Nat
import Mathlib.Data.List.Perm.Basic
import Mathlib.Tactic.Common

/-!
# Entries, sums and sizes of ordered maps

A map is determined by its lookups, and each operation moves a sum over its
values by what it stores and what it takes away. The size of a map is the sum
of ones, so that insertion and erasure count as special cases.
-/

namespace OrgGovernance.OrderedMap

variable {κ ν : Type} [Ord κ]

/-- The sum of a measure over the values of a map. -/
def total (m : OrderedMap κ ν) (measure : ν → Nat) : Nat := (m.values.map measure).sum

/-- The empty map has no power, size or other total. -/
@[simp] theorem total_empty (measure : ν → Nat) : (empty : OrderedMap κ ν).total measure = 0 := rfl

/-- The empty map has no entries. -/
@[simp] theorem size_empty : (empty : OrderedMap κ ν).size = 0 := rfl

/-- The size of a map is the sum of ones over its values. -/
theorem size_eq_total (m : OrderedMap κ ν) : m.size = m.total fun _ => 1 := by
  simp [size, total, values, Function.comp_def]

/-- The totals of two measures add up to the total of their sum. -/
theorem total_add (m : OrderedMap κ ν) (first second : ν → Nat) :
    (m.total fun v => first v + second v) = m.total first + m.total second :=
  List.sum_map_add

/-- Keys that are texts are listed in increasing order. -/
theorem keys_increasing (m : OrderedMap String ν) : m.keys.Pairwise (· < ·) :=
  List.pairwise_map.mpr (m.increasing.imp compareOfLessAndEq_eq_lt.mp)

section Listing

variable [Std.TransOrd κ]

/-- A key above all others is set behind them. -/
theorem insertIn_of_above {k : κ} (v : ν) {es : List (κ × ν)}
    (h : ∀ e ∈ es, compare e.1 k = .lt) : insertIn k v es = es ++ [(k, v)] := by
  induction es with
  | nil => rfl
  | cons e rest ih =>
    obtain ⟨first, later⟩ := List.forall_mem_cons.mp h
    have above : compare k e.1 = .gt := Std.OrientedCmp.gt_of_lt first
    rw [insertIn, above]
    simp only [ih later, List.cons_append]

/-- Entries in increasing order above those of a map are set behind them. -/
theorem entries_foldl_insert [Std.LawfulEqOrd κ] {m : OrderedMap κ ν} {es : List (κ × ν)}
    (h : (m.entries ++ es).Pairwise fun a b => compare a.1 b.1 = .lt) :
    (es.foldl (fun m e => m.insert e.1 e.2) m).entries = m.entries ++ es := by
  induction es generalizing m with
  | nil => exact (List.append_nil _).symm
  | cons e rest ih =>
    have above : ∀ a ∈ m.entries, compare a.1 e.1 = .lt := fun a member =>
      (List.pairwise_append.mp h).2.2 a member e List.mem_cons_self
    have set : (m.insert e.1 e.2).entries = m.entries ++ [e] := insertIn_of_above e.2 above
    rw [List.append_cons, ← set] at h
    rw [List.foldl_cons, ih h, set, List.append_assoc, List.singleton_append]

/-- A map is the map of its entries. -/
theorem ofList_entries [Std.LawfulEqOrd κ] (m : OrderedMap κ ν) : ofList m.entries = m :=
  OrderedMap.ext (entries_foldl_insert (m := empty) m.increasing)

end Listing

variable [DecidableEq κ]

omit [Ord κ] in
/-- What is found beside a key is an entry of the list. -/
theorem mem_of_findIn {k : κ} {v : ν} {es : List (κ × ν)} (h : findIn k es = some v) :
    (k, v) ∈ es := by
  induction es with
  | nil => simp [findIn] at h
  | cons e rest ih =>
    by_cases hk : k = e.1
    · have hv : e.2 = v := by simpa [findIn, hk] using h
      rw [hk, ← hv]
      exact List.mem_cons_self
    · exact List.mem_cons_of_mem _ (ih (by simpa [findIn, hk] using h))

section Ordered

variable [Std.TransOrd κ]

/-- A key below every key of a list is not found in it. -/
theorem findIn_of_below {k : κ} {es : List (κ × ν)} (h : ∀ e ∈ es, compare k e.1 = .lt) :
    findIn k es = none := by
  cases hf : findIn k es with
  | none => rfl
  | some v =>
    have hlt := h _ (mem_of_findIn hf)
    simp [Std.ReflCmp.compare_self] at hlt

/-- In increasing entries every entry is found beside its key. -/
theorem findIn_of_mem {k : κ} {v : ν} {es : List (κ × ν)}
    (ho : es.Pairwise fun a b => compare a.1 b.1 = .lt) (h : (k, v) ∈ es) :
    findIn k es = some v := by
  induction es with
  | nil => simp at h
  | cons e rest ih =>
    obtain ⟨hfirst, hrest⟩ := List.pairwise_cons.mp ho
    rcases List.mem_cons.mp h with rfl | hmem
    · simp [findIn]
    · have hne : k ≠ e.1 := by
        rintro rfl
        have hlt := hfirst _ hmem
        simp [Std.ReflCmp.compare_self] at hlt
      simpa [findIn, hne] using ih hrest hmem

/-- The entries of a map are what its lookups find. -/
theorem mem_entries_iff {m : OrderedMap κ ν} {k : κ} {v : ν} :
    (k, v) ∈ m.entries ↔ m.find? k = some v :=
  ⟨findIn_of_mem m.increasing, mem_of_findIn⟩

/-- The values of a map are what its lookups find. -/
theorem mem_values_iff {m : OrderedMap κ ν} {v : ν} : v ∈ m.values ↔ ∃ k, m.find? k = some v := by
  rw [values, List.mem_map]
  constructor
  · rintro ⟨⟨k, v⟩, entry, rfl⟩
    exact ⟨k, mem_entries_iff.mp entry⟩
  · rintro ⟨k, found⟩
    exact ⟨(k, v), mem_entries_iff.mpr found, rfl⟩

/-- Values that are measured by at most a bound total at most the bound for each entry. -/
theorem total_le_size_mul {m : OrderedMap κ ν} {measure : ν → Nat} {bound : Nat}
    (light : ∀ k v, m.find? k = some v → measure v ≤ bound) : m.total measure ≤ m.size * bound := by
  have each : ∀ x ∈ m.values.map measure, x ≤ bound := by
    intro x member
    obtain ⟨v, value, rfl⟩ := List.mem_map.mp member
    obtain ⟨k, found⟩ := mem_values_iff.mp value
    exact light k v found
  calc m.total measure ≤ (m.values.map measure).length • bound :=
        List.sum_le_card_nsmul _ _ each
    _ = m.size * bound := by rw [List.length_map, values, List.length_map, Nat.nsmul_eq_mul, size]

omit [DecidableEq κ] in
/-- Every key of a map is listed once. -/
theorem nodup_keys (m : OrderedMap κ ν) : m.keys.Nodup := by
  refine List.pairwise_map.mpr (m.increasing.imp ?_)
  intro a b below same
  simp [same, Std.ReflCmp.compare_self] at below

/-- Maps with the same lookups are equal. -/
theorem ext_find? {m m' : OrderedMap κ ν} (h : ∀ k, m.find? k = m'.find? k) : m = m' := by
  have hmem : ∀ e, e ∈ m.entries ↔ e ∈ m'.entries := by
    rintro ⟨k, v⟩
    rw [mem_entries_iff, mem_entries_iff, h]
  have hne : ∀ es : List (κ × ν), (es.Pairwise fun a b => compare a.1 b.1 = .lt) → es.Nodup := by
    intro es ho
    refine ho.imp ?_
    rintro a b hab rfl
    simp [Std.ReflCmp.compare_self] at hab
  have hperm : m.entries.Perm m'.entries :=
    (List.perm_ext_iff_of_nodup (hne _ m.increasing) (hne _ m'.increasing)).mpr hmem
  refine OrderedMap.ext (hperm.eq_of_pairwise ?_ m.increasing m'.increasing)
  intro a b _ _ hab hba
  have hflip := Std.OrientedCmp.gt_of_lt hab
  rw [hba] at hflip
  cases hflip

/-- Erasing a key takes the measure of its value from a sum over increasing entries. -/
theorem sum_eraseIn (measure : ν → Nat) (k : κ) {es : List (κ × ν)}
    (ho : es.Pairwise fun a b => compare a.1 b.1 = .lt) :
    ((eraseIn k es).map fun e => measure e.2).sum + ((findIn k es).map measure).getD 0 =
      (es.map fun e => measure e.2).sum := by
  induction es with
  | nil => rfl
  | cons e rest ih =>
    obtain ⟨hfirst, hrest⟩ := List.pairwise_cons.mp ho
    by_cases hk : k = e.1
    · have hnone : findIn k rest = none := findIn_of_below (by rw [hk]; exact hfirst)
      have htail := ih hrest
      rw [hnone] at htail
      simp only [eraseIn, List.filter_cons, hk, findIn, if_true, Option.map_some,
        Option.getD_some, List.map_cons, List.sum_cons] at htail ⊢
      simp only [ne_eq, not_true_eq_false, decide_false, Bool.false_eq_true, if_false,
        Option.map_none, Option.getD_none] at htail ⊢
      omega
    · have htail := ih hrest
      simp only [eraseIn, List.filter_cons, hk, findIn, if_false, ne_eq, not_false_eq_true,
        decide_true, if_true, List.map_cons, List.sum_cons] at htail ⊢
      omega

variable [Std.LawfulEqOrd κ]

/-- Setting a key moves a sum over increasing entries from the replaced value to the new one. -/
theorem sum_insertIn (measure : ν → Nat) (k : κ) (v : ν) {es : List (κ × ν)}
    (ho : es.Pairwise fun a b => compare a.1 b.1 = .lt) :
    ((insertIn k v es).map fun e => measure e.2).sum + ((findIn k es).map measure).getD 0 =
      (es.map fun e => measure e.2).sum + measure v := by
  induction es with
  | nil => simp [insertIn, findIn]
  | cons e rest ih =>
    obtain ⟨hfirst, hrest⟩ := List.pairwise_cons.mp ho
    cases hc : compare k e.1 with
    | lt =>
      have hbelow : findIn k (e :: rest) = none := by
        refine findIn_of_below fun b hb => ?_
        rcases List.mem_cons.mp hb with rfl | hb
        · exact hc
        · exact Std.TransCmp.lt_trans hc (hfirst b hb)
      simp only [hbelow, insertIn, hc, List.map_cons, List.sum_cons, Option.map_none,
        Option.getD_none]
      omega
    | eq =>
      have hk : k = e.1 := Std.LawfulEqOrd.eq_of_compare hc
      simp only [insertIn, findIn, hk, if_true, List.map_cons, List.sum_cons,
        Option.map_some, Option.getD_some]
      simp only [Std.ReflCmp.compare_self, List.map_cons, List.sum_cons]
      omega
    | gt =>
      have hk : k ≠ e.1 := by
        rintro rfl
        simp [Std.ReflCmp.compare_self] at hc
      have htail := ih hrest
      simp only [insertIn, hc, findIn, hk, if_false, List.map_cons, List.sum_cons]
      omega

omit [Std.LawfulEqOrd κ] in
/-- The keys of a map are those under which something is found. -/
theorem mem_keys_iff {m : OrderedMap κ ν} {k : κ} : k ∈ m.keys ↔ m.contains k = true := by
  rw [contains, Option.isSome_iff_exists, keys, List.mem_map]
  constructor
  · rintro ⟨⟨k', v⟩, entry, rfl⟩
    exact ⟨v, mem_entries_iff.mp entry⟩
  · rintro ⟨v, found⟩
    exact ⟨(k, v), mem_entries_iff.mpr found, rfl⟩

/-- Setting a key makes it present, and keeps all others as they were. -/
theorem contains_insert (m : OrderedMap κ ν) (k k' : κ) (v : ν) :
    (m.insert k v).contains k' = true ↔ k' = k ∨ m.contains k' = true := by
  rw [contains, contains, find?_insert]
  by_cases same : k' = k <;> simp [same]

/-- The keys after a list of pairs is set are those of before and those of the list. -/
theorem contains_foldl_insert (m : OrderedMap κ ν) {pairs : List (κ × ν)} {k : κ} :
    (pairs.foldl (fun m e => m.insert e.1 e.2) m).contains k = true ↔
      m.contains k = true ∨ k ∈ pairs.map Prod.fst := by
  induction pairs generalizing m with
  | nil => simp
  | cons e rest ih =>
    rw [List.foldl_cons, ih, contains_insert, List.map_cons, List.mem_cons, or_assoc,
      or_left_comm]

/-- The keys of the map of a list of pairs are those of the list. -/
theorem contains_ofList {pairs : List (κ × ν)} {k : κ} :
    (ofList pairs).contains k = true ↔ k ∈ pairs.map Prod.fst :=
  (contains_foldl_insert empty).trans (or_iff_right Bool.false_ne_true)

/-- Setting a list of pairs leaves what is found under all other keys. -/
theorem find?_foldl_insert_of_not_mem (m : OrderedMap κ ν) {pairs : List (κ × ν)} {k : κ}
    (absent : k ∉ pairs.map Prod.fst) :
    (pairs.foldl (fun m e => m.insert e.1 e.2) m).find? k = m.find? k := by
  induction pairs generalizing m with
  | nil => rfl
  | cons e rest ih =>
    rw [List.map_cons, List.mem_cons, not_or] at absent
    obtain ⟨other, later⟩ := absent
    rw [List.foldl_cons, ih _ later, find?_insert, if_neg other]

/-- After a list of pairs with different keys is set, each of its values is found. -/
theorem find?_foldl_insert_of_mem (m : OrderedMap κ ν) {pairs : List (κ × ν)} {k : κ} {v : ν}
    (distinct : (pairs.map Prod.fst).Nodup) (member : (k, v) ∈ pairs) :
    (pairs.foldl (fun m e => m.insert e.1 e.2) m).find? k = some v := by
  induction pairs generalizing m with
  | nil => cases member
  | cons e rest ih =>
    obtain ⟨once, later⟩ := List.nodup_cons.mp distinct
    rw [List.foldl_cons]
    rcases List.mem_cons.mp member with rfl | behind
    · rw [find?_foldl_insert_of_not_mem _ once, find?_insert, if_pos rfl]
    · exact ih _ later behind

/-- Of two values set under one key the later counts. -/
theorem insert_insert (m : OrderedMap κ ν) (k : κ) (v v' : ν) :
    (m.insert k v).insert k v' = m.insert k v' := by
  refine ext_find? fun other => ?_
  simp only [find?_insert]
  split <;> rfl

/-- The map in which a key has a value or none. -/
def assign (m : OrderedMap κ ν) (k : κ) : Option ν → OrderedMap κ ν
  | some v => m.insert k v
  | none => m.erase k

/-- What is assigned is found under its key, and nothing else changes. -/
theorem find?_assign (m : OrderedMap κ ν) (k k' : κ) (v : Option ν) :
    (m.assign k v).find? k' = if k' = k then v else m.find? k' := by
  cases v with
  | none => exact m.find?_erase k k'
  | some v => exact m.find?_insert k k' v

/-- Assigning what is found changes nothing. -/
theorem assign_find? (m : OrderedMap κ ν) (k : κ) : m.assign k (m.find? k) = m := by
  refine ext_find? fun other => ?_
  rw [find?_assign]
  split
  · next same => rw [same]
  · rfl

/-- Assignments to different keys can change places. -/
theorem assign_comm (m : OrderedMap κ ν) {k k' : κ} (apart : k ≠ k') (v v' : Option ν) :
    (m.assign k v).assign k' v' = (m.assign k' v').assign k v := by
  refine ext_find? fun other => ?_
  simp only [find?_assign]
  by_cases first : other = k
  · rw [if_neg (first.trans_ne apart), if_pos first, if_pos first]
  · rw [if_neg first, if_neg first]

/-- Setting a key moves a total from the replaced value to the new one. -/
theorem total_insert (m : OrderedMap κ ν) (k : κ) (v : ν) (measure : ν → Nat) :
    (m.insert k v).total measure + ((m.find? k).map measure).getD 0 =
      m.total measure + measure v := by
  have h := sum_insertIn measure k v m.increasing
  simpa only [total, values, List.map_map, Function.comp_def, find?, insert] using h

/-- Setting a key adds an entry exactly when the key was absent. -/
theorem size_insert (m : OrderedMap κ ν) (k : κ) (v : ν) :
    (m.insert k v).size = if m.contains k then m.size else m.size + 1 := by
  have h := total_insert m k v fun _ => 1
  rw [← size_eq_total, ← size_eq_total] at h
  cases hf : m.find? k with
  | none => simpa [contains, hf] using h
  | some old => simpa [contains, hf] using h

/-- Setting a list of pairs with different and new keys adds an entry for each. -/
theorem size_foldl_insert (m : OrderedMap κ ν) {pairs : List (κ × ν)}
    (distinct : (pairs.map Prod.fst).Nodup)
    (fresh : ∀ k ∈ pairs.map Prod.fst, m.contains k = false) :
    (pairs.foldl (fun m e => m.insert e.1 e.2) m).size = m.size + pairs.length := by
  induction pairs generalizing m with
  | nil => rfl
  | cons e rest ih =>
    obtain ⟨once, later⟩ := List.nodup_cons.mp distinct
    obtain ⟨first, others⟩ := List.forall_mem_cons.mp fresh
    have fresh' : ∀ k ∈ rest.map Prod.fst, (m.insert e.1 e.2).contains k = false := by
      intro k member
      rw [← Bool.not_eq_true, contains_insert, not_or, Bool.not_eq_true]
      exact ⟨fun same => once (same ▸ member), others k member⟩
    rw [List.foldl_cons, ih _ later fresh', size_insert, first, if_neg Bool.false_ne_true,
      List.length_cons, Nat.add_assoc, Nat.add_comm 1]

end Ordered

/-- Erasing a key takes the measure of its value from a total. -/
theorem total_erase [Std.TransOrd κ] (m : OrderedMap κ ν) (k : κ) (measure : ν → Nat) :
    (m.erase k).total measure + ((m.find? k).map measure).getD 0 = m.total measure := by
  have h := sum_eraseIn measure k m.increasing
  simpa only [total, values, List.map_map, Function.comp_def, find?, erase] using h

/-- The measure of what is found under a key is part of the total. -/
theorem found_le_total [Std.TransOrd κ] (m : OrderedMap κ ν) (k : κ) (measure : ν → Nat) :
    ((m.find? k).map measure).getD 0 ≤ m.total measure := by
  have h := m.total_erase k measure
  omega

/-- Erasing a key that is present takes away one entry. -/
theorem size_erase [Std.TransOrd κ] {m : OrderedMap κ ν} {k : κ} {v : ν}
    (h : m.find? k = some v) : (m.erase k).size + 1 = m.size := by
  have ht := total_erase m k fun _ => 1
  rw [← size_eq_total, ← size_eq_total, h] at ht
  exact ht

end OrgGovernance.OrderedMap
