import Mathlib.Data.List.Induction
import Mathlib.Data.List.Nodup
import WorkflowCompiler.Workflow.Checks

/-!
Where ids stand again in a list. A collection of ids is told by how often an id must have been
there before it is collected: not at all for the list without repetitions, once for the ids that
are repeated. Main result: either collection has exactly the ids that come often enough, each
once, in the order in which they became due.
-/
namespace WorkflowCompiler.Workflow

/-- At this place of the list the id stands, and `n` times before it. -/
def Occurs (n : Nat) (ids : List String) (id : String) (place : Nat) : Prop :=
  ids[place]? = some id ∧ (ids.take place).count id = n

/-- What stands before what was due before it, with `n` of its kind going before. -/
def InOrder (n : Nat) (ids found : List String) : Prop :=
  found.Pairwise fun a b => ∀ i j, Occurs n ids a i → Occurs n ids b j → i < j

/-- The ids that come more than `n` times, in the order of the places where they do so first. -/
structure Lists (n : Nat) (ids found : List String) : Prop where
  exactly : ∀ id, id ∈ found ↔ n < ids.count id
  ordered : InOrder n ids found

variable {n place : Nat} {ids found : List String} {id next : String}

theorem Occurs.lt_length (h : Occurs n ids id place) : place < ids.length :=
  (List.getElem?_eq_some_iff.mp h.1).1

theorem Occurs.lt_count (h : Occurs n ids id place) : n < ids.count id := by
  obtain ⟨inside, here⟩ := List.getElem?_eq_some_iff.mp h.1
  have upTo : (ids.take (place + 1)).count id = n + 1 := by
    rw [List.take_succ_eq_append_getElem inside, List.count_append, h.2, here]
    simp
  have := (List.take_sublist (place + 1) ids).count_le id
  omega

/-- One more element at the end is at its own place what it is, and changes no place before. -/
theorem occurs_concat : Occurs n (ids ++ [next]) id place ↔
    Occurs n ids id place ∨ place = ids.length ∧ id = next ∧ ids.count id = n := by
  unfold Occurs
  rcases Nat.lt_trichotomy place ids.length with inside | rfl | outside
  · rw [List.getElem?_append_left inside, List.take_append_of_le_length (Nat.le_of_lt inside)]
    simp [Nat.ne_of_lt inside]
  · simp [eq_comm]
  · rw [List.getElem?_eq_none (by simp; omega), List.getElem?_eq_none (Nat.le_of_lt outside)]
    simp [Nat.ne_of_gt outside]

theorem exists_occurs (h : n < ids.count id) : ∃ place, Occurs n ids id place := by
  induction ids using List.reverseRecOn with
  | nil => simp at h
  | append_singleton ids next ih =>
    simp only [occurs_concat]
    by_cases old : n < ids.count id
    · obtain ⟨place, here⟩ := ih old
      exact ⟨place, .inl here⟩
    · rw [List.count_append, List.count_singleton] at h
      split at h
      · next same => exact ⟨_, .inr ⟨rfl, (beq_iff_eq.mp same).symm, by omega⟩⟩
      · omega

theorem Lists.nodup (h : Lists n ids found) : found.Nodup := by
  refine List.Pairwise.imp_of_mem (fun {a b} ha _ before same => ?_) h.ordered
  obtain ⟨place, here⟩ := exists_occurs ((h.exactly a).mp ha)
  exact absurd (before place place here (same ▸ here)) (Nat.lt_irrefl _)

theorem lists_nil (n : Nat) : Lists n [] [] :=
  ⟨by simp, List.Pairwise.nil⟩

/-- An element that is not due now leaves the collection as it is. -/
theorem Lists.concat_kept (h : Lists n ids found) (other : ids.count next ≠ n) :
    Lists n (ids ++ [next]) found where
  exactly := by
    intro id
    rw [h.exactly, List.count_append, List.count_singleton]
    split
    · next same =>
      obtain rfl := beq_iff_eq.mp same
      omega
    · rfl
  ordered := by
    have old : ∀ {id place}, Occurs n (ids ++ [next]) id place → Occurs n ids id place := by
      intro id place here
      rcases occurs_concat.mp here with here | ⟨_, rfl, due⟩
      · exact here
      · exact absurd due other
    exact h.ordered.imp fun before i j hi hj => before i j (old hi) (old hj)

/-- An element that is due now comes last in the collection. -/
theorem Lists.concat_due (h : Lists n ids found) (due : ids.count next = n) :
    Lists n (ids ++ [next]) (found ++ [next]) where
  exactly := by
    intro id
    rw [List.mem_append, List.mem_singleton, h.exactly, List.count_append, List.count_singleton]
    by_cases same : next = id
    · subst same
      simp [due]
    · simp [same, Ne.symm same]
  ordered := by
    have apart : ∀ id ∈ found, id ≠ next := by
      rintro id hid rfl
      have := (h.exactly id).mp hid
      omega
    have old : ∀ {id place}, id ∈ found → Occurs n (ids ++ [next]) id place →
        Occurs n ids id place := by
      intro id place hid here
      exact (occurs_concat.mp here).resolve_right fun now => apart id hid now.2.1
    refine List.pairwise_append.mpr ⟨?_, List.pairwise_singleton _ _, ?_⟩
    · exact h.ordered.imp_of_mem fun ha hb before i j hi hj => before i j (old ha hi) (old hb hj)
    · rintro a ha b hb i j hi hj
      obtain rfl := List.mem_singleton.mp hb
      rcases occurs_concat.mp hj with hj | ⟨rfl, _⟩
      · exact absurd hj.lt_count (due ▸ Nat.lt_irrefl _)
      · exact (old ha hi).lt_length

theorem firstOccurrences_concat (ids : List String) (next : String) :
    firstOccurrences (ids ++ [next]) =
      if next ∈ firstOccurrences ids then firstOccurrences ids
      else firstOccurrences ids ++ [next] := by
  rw [firstOccurrences, List.foldl_append]
  rfl

/-- What is kept are the ids that come at all, each where it comes first. -/
theorem lists_firstOccurrences (ids : List String) : Lists 0 ids (firstOccurrences ids) := by
  induction ids using List.reverseRecOn with
  | nil => exact lists_nil 0
  | append_singleton ids next ih =>
    have kept : next ∈ firstOccurrences ids ↔ 0 < ids.count next := ih.exactly next
    rw [firstOccurrences_concat]
    split
    · next known => exact ih.concat_kept (Nat.ne_of_gt (kept.mp known))
    · next fresh => exact ih.concat_due (Nat.eq_zero_of_not_pos (mt kept.mpr fresh))

/-- After some ids exactly these have been seen, and those that came again are collected. -/
theorem foldl_noteId (ids : List String) : ∃ seen repeated,
    ids.foldl noteId ([], []) = (seen, repeated) ∧ (∀ id, id ∈ seen ↔ id ∈ ids) ∧
      Lists 1 ids repeated := by
  induction ids using List.reverseRecOn with
  | nil => exact ⟨[], [], rfl, by simp, lists_nil 1⟩
  | append_singleton ids next ih =>
    obtain ⟨seen, repeated, state, same, collected⟩ := ih
    have here : next ∈ seen ↔ 0 < ids.count next := (same next).trans List.count_pos_iff.symm
    have again : next ∈ repeated ↔ 1 < ids.count next := collected.exactly next
    rw [List.foldl_append, state, List.foldl_cons, List.foldl_nil, noteId, ite_not]
    simp only [here, again]
    split
    · next known =>
      have listed : ∀ id, id ∈ seen ↔ id ∈ ids ++ [next] := by
        intro id
        rw [same, List.mem_append, List.mem_singleton]
        refine (or_iff_left_of_imp ?_).symm
        rintro rfl
        exact List.count_pos_iff.mp known
      split
      · exact ⟨_, _, rfl, listed, collected.concat_kept (by omega)⟩
      · exact ⟨_, _, rfl, listed, collected.concat_due (by omega)⟩
    · next fresh =>
      refine ⟨_, _, rfl, fun id => ?_, collected.concat_kept (by omega)⟩
      rw [List.mem_cons, same, List.mem_append, List.mem_singleton, or_comm]

/-- What is noted are the ids that come twice, each where it comes the second time. -/
theorem lists_repeatedIds (ids : List String) : Lists 1 ids (repeatedIds ids) := by
  obtain ⟨_, _, state, _, collected⟩ := foldl_noteId ids
  rwa [repeatedIds, state]

theorem mem_firstOccurrences : id ∈ firstOccurrences ids ↔ id ∈ ids :=
  ((lists_firstOccurrences ids).exactly id).trans List.count_pos_iff

theorem firstOccurrences_eq_nil_iff : firstOccurrences ids = [] ↔ ids = [] := by
  simp only [List.eq_nil_iff_forall_not_mem, mem_firstOccurrences]

theorem mem_repeatedIds : id ∈ repeatedIds ids ↔ 2 ≤ ids.count id :=
  (lists_repeatedIds ids).exactly id

theorem repeatedIds_eq_nil_iff : repeatedIds ids = [] ↔ ids.Nodup := by
  simp only [List.eq_nil_iff_forall_not_mem, mem_repeatedIds, List.nodup_iff_count_le_one,
    Nat.not_le, Nat.lt_succ_iff]

/-- Ids may be dropped before or after repetitions are. -/
theorem firstOccurrences_filter (p : String → Bool) (ids : List String) :
    firstOccurrences (ids.filter p) = (firstOccurrences ids).filter p := by
  induction ids using List.reverseRecOn with
  | nil => rfl
  | append_singleton ids next ih =>
    rw [List.filter_append, firstOccurrences_concat]
    cases keep : p next with
    | false =>
      rw [List.filter_cons_of_neg (by simp [keep]), List.filter_nil, List.append_nil, ih]
      split
      · rfl
      · simp [keep]
    | true =>
      rw [List.filter_cons_of_pos keep, List.filter_nil, firstOccurrences_concat, ih]
      simp only [List.mem_filter, keep, and_true]
      split
      · rfl
      · simp [keep]

end WorkflowCompiler.Workflow
