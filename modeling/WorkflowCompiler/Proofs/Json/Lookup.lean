import Mathlib.Data.List.Nodup
import WorkflowCompiler.Json.Value

/-!
Looking members up. What is found under a key is what was put in last under it, so members with
different keys are found again in whatever order they were put in.
-/
namespace WorkflowCompiler.Json.Members

theorem get?_cons (m : String × Value) (members : Members) (key : String) :
    get? (m :: members) key = if m.1 = key then some m.2 else get? members key := by
  by_cases same : m.1 = key
  · simp [get?, same]
  · simp [get?, same]

theorem contains_eq_isSome (members : Members) (key : String) :
    members.contains key = (members.get? key).isSome := by
  rw [contains, get?, Option.isSome_map, List.isSome_find?]

theorem mem_keys_iff {members : Members} {key : String} :
    key ∈ members.map (·.1) ↔ (members.get? key).isSome = true := by
  rw [← contains_eq_isSome, contains, List.any_eq_true, List.mem_map]
  simp only [beq_iff_eq]

theorem get?_of_mem {members : Members} (distinct : (members.map (·.1)).Nodup) {key : String}
    {v : Value} (h : (key, v) ∈ members) : members.get? key = some v := by
  induction members with
  | nil => cases h
  | cons m members ih =>
    obtain ⟨fresh, distinct⟩ := List.nodup_cons.mp distinct
    rw [get?_cons]
    rcases List.mem_cons.mp h with rfl | h
    · exact if_pos rfl
    · have apart : m.1 ≠ key := fun same => fresh (List.mem_map.mpr ⟨_, h, same.symm⟩)
      rw [if_neg apart, ih distinct h]

theorem get?_insert (members : Members) (key other : String) (v : Value) :
    (members.insert key v).get? other = if key = other then some v else members.get? other := by
  induction members with
  | nil => exact get?_cons (key, v) [] other
  | cons first rest ih =>
    obtain ⟨k, w⟩ := first
    rw [insert]
    split
    · next same =>
      rw [beq_iff_eq] at same
      subst same
      simp only [get?_cons]
      split <;> rfl
    split
    · rw [get?_cons]
    · next different _ =>
      rw [get?_cons, ih, get?_cons]
      have apart : key ≠ k := fun same => different (beq_iff_eq.mpr same)
      by_cases here : k = other
      · rw [if_pos here, if_pos here, if_neg fun same => apart (same.trans here.symm)]
      · rw [if_neg here, if_neg here]

/-- Entries with different keys are found, and other keys lead to what was there before. -/
theorem get?_foldl_insert {entries : Members} (distinct : (entries.map (·.1)).Nodup)
    (members : Members) (key : String) :
    get? (entries.foldl (fun members entry => members.insert entry.1 entry.2) members) key =
      (get? entries key).or (members.get? key) := by
  induction entries generalizing members with
  | nil => rfl
  | cons entry entries ih =>
    obtain ⟨fresh, distinct⟩ := List.nodup_cons.mp distinct
    rw [List.foldl_cons, ih distinct, get?_insert, get?_cons]
    by_cases same : entry.1 = key
    · have absent : get? entries key = none := by
        rw [get?, Option.map_eq_none_iff, List.find?_eq_none]
        intro m hm found
        have there : m.1 = entry.1 := (beq_iff_eq.mp found).trans same.symm
        exact fresh (List.mem_map.mpr ⟨m, hm, there⟩)
      rw [if_pos same, if_pos same, absent]
      rfl
    · rw [if_neg same, if_neg same]

theorem get?_ofList {entries : Members} (distinct : (entries.map (·.1)).Nodup) (key : String) :
    (ofList entries).get? key = get? entries key := by
  rw [ofList, get?_foldl_insert distinct]
  exact Option.or_none

end WorkflowCompiler.Json.Members
