import Mathlib.Data.List.Induction
import Mathlib.Data.List.Sort
import Mathlib.Data.String.Basic
import StackVM.Record

/-! # Fields after an insertion

Setting a field changes what is found under its name and nothing else. In a sorted record it either
keeps all names or adds the new one at its place, so a list of fields with different names is
collected to the same record in whatever order it is written. Of fields with the same name the last
one is kept.
-/

namespace StackVM.Record

variable {α : Type} {r : Record α} {name : String} {value : α}

theorem get?_insert (r : Record α) (name other : String) (value : α) :
    (r.insert name value).get? other = if name = other then some value else r.get? other := by
  induction r with
  | nil => rfl
  | cons f r ih =>
    by_cases before : name < f.1
    · rw [insert, if_pos before, get?]
    · by_cases same : name = f.1
      · rw [insert, if_neg before, if_pos same, get?, get?, ← same]
        split_ifs <;> rfl
      · rw [insert, if_neg before, if_neg same, get?, get?, ih]
        split_ifs with here there
        · exact absurd (there.trans here.symm) same
        · rfl
        · rfl
        · rfl

theorem mem_of_get? (found : r.get? name = some value) : (name, value) ∈ r := by
  induction r with
  | nil => cases found
  | cons f r ih =>
    rw [get?] at found
    split_ifs at found with here
    · cases found
      exact here ▸ List.mem_cons_self
    · exact List.mem_cons_of_mem f (ih found)

theorem names_cons (f : String × α) (r : Record α) : names (f :: r) = f.1 :: names r := rfl

private theorem lt_of_mem_names {f : String × α} (sorted : Sorted (f :: r))
    (member : name ∈ names r) :
    f.1 < name := by
  obtain ⟨g, present, rfl⟩ := List.mem_map.mp member
  exact List.rel_of_pairwise_cons sorted present

/-- Setting a field that exists keeps the names. -/
theorem names_insert_of_mem (sorted : r.Sorted) (present : name ∈ r.names) :
    (r.insert name value).names = r.names := by
  induction r with
  | nil => exact absurd present List.not_mem_nil
  | cons f r ih =>
    rcases List.mem_cons.mp present with here | later
    · rw [insert, if_neg (by rw [here]; exact lt_irrefl _), if_pos here, names_cons, names_cons, here]
    · have less := lt_of_mem_names sorted later
      rw [insert, if_neg (lt_asymm less), if_neg less.ne', names_cons, names_cons,
        ih (List.Pairwise.of_cons sorted) later]

/-- Setting a field that does not exist adds its name at one place. -/
theorem names_insert_of_not_mem (value : α) (absent : name ∉ r.names) :
    ∃ before after, r.names = before ++ after ∧
      (r.insert name value).names = before ++ name :: after := by
  induction r with
  | nil => exact ⟨[], [], rfl, rfl⟩
  | cons f r ih =>
    rw [names_cons, List.mem_cons, not_or] at absent
    by_cases less : name < f.1
    · refine ⟨[], names (f :: r), rfl, ?_⟩
      rw [insert, if_pos less]
      rfl
    · obtain ⟨before, after, old, new⟩ := ih absent.2
      refine ⟨f.1 :: before, after, ?_, ?_⟩
      · rw [names_cons, old]
        rfl
      · rw [insert, if_neg less, if_neg absent.1, names_cons, new]
        rfl

theorem mem_insert {f : String × α} (member : f ∈ r.insert name value) :
    f = (name, value) ∨ f ∈ r := by
  induction r with
  | nil => exact .inl (List.mem_singleton.mp member)
  | cons g r ih =>
    unfold insert at member
    split_ifs at member with less same
    · exact List.mem_cons.mp member
    · exact (List.mem_cons.mp member).imp_right (List.mem_cons_of_mem g)
    · rcases List.mem_cons.mp member with here | later
      · exact .inr (here ▸ List.mem_cons_self)
      · exact (ih later).imp_right (List.mem_cons_of_mem g)

theorem sorted_insert (sorted : r.Sorted) (name : String) (value : α) :
    (r.insert name value).Sorted := by
  induction r with
  | nil => exact List.pairwise_singleton _ _
  | cons g r ih =>
    obtain ⟨first, following⟩ := List.pairwise_cons.mp sorted
    unfold insert
    split_ifs with less same
    · refine List.pairwise_cons.mpr ⟨fun f member => ?_, sorted⟩
      rcases List.mem_cons.mp member with rfl | later
      · exact less
      · exact less.trans (first f later)
    · exact List.pairwise_cons.mpr ⟨fun f member => same ▸ first f member, following⟩
    · refine List.pairwise_cons.mpr ⟨fun f member => ?_, ih following⟩
      rcases mem_insert member with rfl | later
      · exact lt_of_le_of_ne (not_lt.mp less) (Ne.symm same)
      · exact first f later

section Collecting

private theorem perm_insert (absent : name ∉ r.names) :
    (r.insert name value).Perm ((name, value) :: r) := by
  induction r with
  | nil => exact .refl _
  | cons g r ih =>
    rw [names_cons, List.mem_cons, not_or] at absent
    unfold insert
    split_ifs with less same
    · exact .refl _
    · exact absurd same absent.1
    · exact ((ih absent.2).cons g).trans (.swap _ _ r)

private theorem foldl_insert_perm {fields : List (String × α)} (sorted : r.Sorted)
    (distinct : (names (fields ++ r)).Nodup) :
    Sorted (fields.foldl (fun r f => r.insert f.1 f.2) r) ∧
      (fields.foldl (fun r f => r.insert f.1 f.2) r).Perm (fields ++ r) := by
  induction fields generalizing r with
  | nil => exact ⟨sorted, .refl r⟩
  | cons f fields ih =>
    have new : f.1 ∉ names (fields ++ r) := (List.nodup_cons.mp distinct).1
    have absent : f.1 ∉ r.names := by
      intro present
      exact new (List.map_subset _ (List.subset_append_right fields r) present)
    have moved : (fields ++ r.insert f.1 f.2).Perm (f :: (fields ++ r)) :=
      ((perm_insert absent).append_left fields).trans List.perm_middle
    obtain ⟨ordered, same⟩ := ih (sorted_insert sorted f.1 f.2)
      ((moved.map Prod.fst).nodup_iff.mpr distinct)
    exact ⟨ordered, same.trans moved⟩

/-- The fields of a sorted record, written in any order, are collected to that record. -/
theorem ofList_of_perm {fields : List (String × α)} (sorted : r.Sorted) (same : fields.Perm r) :
    ofList fields = r := by
  have distinct : (names (fields ++ [])).Nodup := by
    rw [List.append_nil, names, (same.map Prod.fst).nodup_iff]
    exact (List.pairwise_map.mpr sorted).imp fun less => less.ne
  obtain ⟨ordered, collected⟩ := foldl_insert_perm List.Pairwise.nil distinct
  rw [List.append_nil] at collected
  exact (collected.trans same).eq_of_pairwise
    (fun f g _ _ less more => absurd more (lt_asymm less)) ordered sorted

/-- Collecting the fields of a record gives the record. -/
theorem ofList_of_sorted (sorted : r.Sorted) : ofList r = r := ofList_of_perm sorted (.refl r)

end Collecting

section LastField

variable {fields : List (String × α)}

theorem ofList_concat (fields : List (String × α)) (f : String × α) :
    ofList (fields ++ [f]) = (ofList fields).insert f.1 f.2 :=
  List.foldl_append

theorem sorted_ofList (fields : List (String × α)) : (ofList fields).Sorted := by
  induction fields using List.reverseRecOn with
  | nil => exact List.Pairwise.nil
  | append_singleton fields f ih =>
    rw [ofList_concat]
    exact sorted_insert ih f.1 f.2

private theorem mem_names_iff_get? : name ∈ r.names ↔ r.get? name ≠ none := by
  induction r with
  | nil => simp [names, get?]
  | cons f r ih =>
    rw [names_cons, List.mem_cons, get?, ih]
    split_ifs with here
    · simp [here]
    · simp [Ne.symm here]

/-- A list is collected to a record of the same names. -/
theorem mem_names_ofList : name ∈ (ofList fields).names ↔ ∃ f ∈ fields, f.1 = name := by
  induction fields using List.reverseRecOn with
  | nil => simp [ofList, names]
  | append_singleton fields f ih =>
    rw [mem_names_iff_get?] at ih
    rw [ofList_concat, mem_names_iff_get?, get?_insert]
    simp only [List.mem_append, List.mem_singleton, or_and_right, exists_or, exists_eq_left, ← ih]
    split_ifs with here
    · simp [here]
    · simp [here]

/-- The last field of a name is found under it. -/
theorem get?_ofList_of_last {i : Nat} (found : fields[i]? = some (name, value))
    (last : ∀ j f, i < j → fields[j]? = some f → f.1 ≠ name) :
    (ofList fields).get? name = some value := by
  induction fields using List.reverseRecOn with
  | nil => cases found
  | append_singleton fields f ih =>
    rw [ofList_concat, get?_insert]
    rcases Nat.lt_or_ge i fields.length with within | beyond
    · have other : f.1 ≠ name := last fields.length f within List.getElem?_concat_length
      rw [if_neg other]
      refine ih (List.getElem?_append_left within ▸ found) fun j g later present => ?_
      have inside : j < fields.length := (List.getElem?_eq_some_iff.mp present).1
      exact last j g later (List.getElem?_append_left inside ▸ present)
    · rw [List.getElem?_append_right beyond, List.getElem?_singleton] at found
      split_ifs at found
      cases found
      rw [if_pos rfl]

end LastField

end StackVM.Record
