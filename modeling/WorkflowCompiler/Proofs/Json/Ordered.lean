import Mathlib.Data.String.Basic
import WorkflowCompiler.Proofs.Success
import WorkflowCompiler.Json.Reader

/-!
Objects whose keys increase. Putting members in keeps them that way, so every value that is read
from a text is ordered throughout, in whatever order and how often the text names its keys.
-/
namespace WorkflowCompiler.Json

namespace Members

theorem mem_of_mem_insert {key : String} {v : Value} {members : Members} {m : String × Value}
    (h : m ∈ members.insert key v) : m = (key, v) ∨ m ∈ members := by
  induction members with
  | nil => exact Or.inl (List.mem_singleton.mp h)
  | cons first rest ih =>
    obtain ⟨k, w⟩ := first
    rw [insert] at h
    split at h
    · rcases List.mem_cons.mp h with rfl | h
      · exact Or.inl rfl
      · exact Or.inr (List.mem_cons_of_mem _ h)
    split at h
    · exact List.mem_cons.mp h
    · rcases List.mem_cons.mp h with rfl | h
      · exact Or.inr List.mem_cons_self
      · exact (ih h).imp_right (List.mem_cons_of_mem _)

theorem Sorted.insert {members : Members} (h : members.Sorted) (key : String) (v : Value) :
    (members.insert key v).Sorted := by
  induction members with
  | nil => exact List.pairwise_singleton _ _
  | cons first rest ih =>
    obtain ⟨k, w⟩ := first
    obtain ⟨before, sorted⟩ := List.pairwise_cons.mp h
    rw [Members.insert]
    split
    · next same =>
      rw [beq_iff_eq] at same
      exact List.pairwise_cons.mpr ⟨fun m hm => same ▸ before m hm, sorted⟩
    next different =>
    split
    · next less =>
      refine List.pairwise_cons.mpr ⟨fun m hm => ?_, h⟩
      rcases List.mem_cons.mp hm with rfl | hm
      · exact less
      · exact lt_trans less (before m hm)
    · next notLess =>
      refine List.pairwise_cons.mpr ⟨fun m hm => ?_, ih sorted⟩
      rcases mem_of_mem_insert hm with rfl | hm
      · exact lt_of_le_of_ne (not_lt.mp notLess) fun same => different (beq_iff_eq.mpr same.symm)
      · exact before m hm

/-- Members put in one after another are sorted, and none comes from elsewhere. -/
theorem foldl_insert_spec (entries : List (String × Value)) {members : Members}
    (sorted : members.Sorted) :
    Sorted (entries.foldl (fun members entry => members.insert entry.1 entry.2) members) ∧
      ∀ m ∈ entries.foldl (fun members entry => members.insert entry.1 entry.2) members,
        m ∈ members ∨ m ∈ entries := by
  induction entries generalizing members with
  | nil => exact ⟨sorted, fun m hm => Or.inl hm⟩
  | cons entry entries ih =>
    obtain ⟨sorted', origin⟩ := ih (sorted.insert entry.1 entry.2)
    refine ⟨sorted', fun m hm => ?_⟩
    rcases origin m hm with hm | hm
    · rcases mem_of_mem_insert hm with rfl | hm
      · exact Or.inr List.mem_cons_self
      · exact Or.inl hm
    · exact Or.inr (List.mem_cons_of_mem _ hm)

theorem ofList_spec (entries : List (String × Value)) :
    (ofList entries).Sorted ∧ ∀ m ∈ ofList entries, m ∈ entries := by
  obtain ⟨sorted, origin⟩ := foldl_insert_spec entries List.Pairwise.nil
  exact ⟨sorted, fun m hm => (origin m hm).resolve_left List.not_mem_nil⟩

/-- A member whose key is greater than all others is put in at the end. -/
theorem insert_of_forall_lt {members : Members} {key : String} (v : Value)
    (greatest : ∀ m ∈ members, m.1 < key) : members.insert key v = members ++ [(key, v)] := by
  induction members with
  | nil => rfl
  | cons first rest ih =>
    obtain ⟨k, w⟩ := first
    have greater : k < key := greatest (k, w) List.mem_cons_self
    have different : (key == k) = false := beq_eq_false_iff_ne.mpr (ne_of_gt greater)
    rw [insert, if_neg (by simp [different]), if_neg (not_lt_of_gt greater),
      ih fun m hm => greatest m (List.mem_cons_of_mem _ hm), List.cons_append]

/-- Sorted members are put in one behind the other. -/
theorem foldl_insert_of_sorted {members entries : Members} (sorted : (members ++ entries).Sorted) :
    entries.foldl (fun members entry => members.insert entry.1 entry.2) members =
      members ++ entries := by
  induction entries generalizing members with
  | nil => simp
  | cons entry entries ih =>
    obtain ⟨_, _, below⟩ := List.pairwise_append.mp sorted
    have last := insert_of_forall_lt entry.2 fun m hm => below m hm entry List.mem_cons_self
    rw [List.append_cons] at sorted
    rw [List.foldl_cons, last, ih sorted, ← List.append_cons]

theorem ofList_of_sorted {members : Members} (sorted : members.Sorted) :
    ofList members = members :=
  foldl_insert_of_sorted ((List.nil_append members).symm ▸ sorted)

theorem Sorted.nodup {members : Members} (h : members.Sorted) : (members.map (·.1)).Nodup :=
  List.pairwise_map.mpr (h.imp fun less => ne_of_lt less)

end Members

/-- Values in which the members of every object are sorted. -/
inductive Ordered : Value → Prop
  | null : Ordered .null
  | flag (b : Bool) : Ordered (.flag b)
  | number (n : Number) : Ordered (.number n)
  | text (s : String) : Ordered (.text s)
  | list {items : List Value} : (∀ v ∈ items, Ordered v) → Ordered (.list items)
  | object {members : Members} : members.Sorted → (∀ m ∈ members, Ordered m.2) →
      Ordered (.object members)

theorem Ordered.of_list {items : List Value} (h : Ordered (.list items)) :
    ∀ v ∈ items, Ordered v := by
  cases h with
  | list all => exact all

theorem Ordered.of_object {members : Members} (h : Ordered (.object members)) :
    members.Sorted ∧ ∀ m ∈ members, Ordered m.2 := by
  cases h with
  | object sorted all => exact ⟨sorted, all⟩

theorem unexpected_ne_ok {α : Type} {cs : List Char} {a : α} :
    unexpected cs ≠ (.ok a : Reading α) := by
  cases cs <;> exact fun h => by cases h

section Yields

variable {α : Type} {property : α → Prop}

/-- Whatever a reader gives has a property. -/
def Yields (property : α → Prop) (reader : List Char → Reading (Before α)) : Prop :=
  ∀ cs a rest, reader cs = .ok (a, rest) → property a

theorem moreItems_yields {item : List Char → Reading (Before α)} (each : Yields property item)
    {fuel : Nat} {kept : List α} (hkept : ∀ v ∈ kept, property v) :
    Yields (fun found => ∀ v ∈ found, property v) (moreItems item fuel kept) := by
  induction fuel generalizing kept with
  | zero =>
    intro cs found rest read
    cases read
  | succ fuel ih =>
    intro cs found rest read
    rw [moreItems, bind_eq_ok_iff] at read
    obtain ⟨⟨v, others⟩, hv, read⟩ := read
    have hkept' : ∀ w ∈ v :: kept, property w :=
      List.forall_mem_cons.mpr ⟨each cs v others hv, hkept⟩
    dsimp only at read
    split at read
    · exact ih hkept' _ found rest read
    · cases read
      exact fun w hw => hkept' w (List.mem_reverse.mp hw)
    · exact absurd read unexpected_ne_ok

theorem items_yields {item : List Char → Reading (Before α)} (each : Yields property item) :
    Yields (fun found => ∀ v ∈ found, property v) (items item) := by
  intro cs found rest read
  unfold items at read
  split at read
  · cases read
    simp
  · exact moreItems_yields each (by simp) cs found rest read

theorem member_yields {item : String → List Char → Reading (Before α)}
    (each : ∀ key, Yields property (item key)) :
    Yields (fun m => property m.2) (member item) := by
  intro cs m rest read
  unfold member at read
  split at read
  · rw [bind_eq_ok_iff] at read
    obtain ⟨⟨key, others⟩, _, read⟩ := read
    dsimp only at read
    split at read
    · rw [bind_eq_ok_iff] at read
      obtain ⟨⟨v, others⟩, hv, read⟩ := read
      cases read
      exact each key _ v _ hv
    · exact absurd read unexpected_ne_ok
  · exact absurd read unexpected_ne_ok

theorem moreMembers_yields {item : String → List Char → Reading (Before α)}
    (each : ∀ key, Yields property (item key)) {fuel : Nat} {kept : List (String × α)}
    (hkept : ∀ m ∈ kept, property m.2) :
    Yields (fun found => ∀ m ∈ found, property m.2) (moreMembers item fuel kept) := by
  induction fuel generalizing kept with
  | zero =>
    intro cs found rest read
    cases read
  | succ fuel ih =>
    intro cs found rest read
    rw [moreMembers, bind_eq_ok_iff] at read
    obtain ⟨⟨m, others⟩, hm, read⟩ := read
    have hkept' : ∀ n ∈ m :: kept, property n.2 :=
      List.forall_mem_cons.mpr ⟨member_yields each cs m others hm, hkept⟩
    dsimp only at read
    split at read
    · exact ih hkept' _ found rest read
    · cases read
      exact fun n hn => hkept' n (List.mem_reverse.mp hn)
    · exact absurd read unexpected_ne_ok

theorem members_yields {item : String → List Char → Reading (Before α)}
    (each : ∀ key, Yields property (item key)) :
    Yields (fun found => ∀ m ∈ found, property m.2) (members item) := by
  intro cs found rest read
  unfold members at read
  split at read
  · cases read
    simp
  · exact moreMembers_yields each (by simp) cs found rest read

end Yields

theorem word_yields {letters : List Char} {v : Value} (h : Ordered v) :
    Yields Ordered (word letters v) := by
  intro cs found rest read
  unfold word at read
  split at read
  · cases read
    exact h
  · exact absurd read unexpected_ne_ok

theorem valueWith_yields {nested : Option (List Char → Reading (Before Value))}
    (inner : ∀ reader ∈ nested, Yields Ordered reader) : Yields Ordered (valueWith nested) := by
  intro cs v rest read
  unfold valueWith at read
  split at read
  · rw [bind_eq_ok_iff] at read
    obtain ⟨⟨s, others⟩, _, read⟩ := read
    cases read
    exact .text s
  · split at read
    · cases read
    · next reader =>
      rw [bind_eq_ok_iff] at read
      obtain ⟨⟨found, others⟩, hfound, read⟩ := read
      cases read
      exact .list (items_yields (inner reader rfl) _ found rest hfound)
  · split at read
    · cases read
    · next reader =>
      rw [bind_eq_ok_iff] at read
      obtain ⟨⟨found, others⟩, hfound, read⟩ := read
      cases read
      obtain ⟨sorted, mem⟩ := Members.ofList_spec found
      have each := members_yields (fun _ => inner reader rfl) _ found rest hfound
      exact .object sorted fun m hm => each m (mem m hm)
  · exact word_yields .null _ v rest read
  · exact word_yields (.flag true) _ v rest read
  · exact word_yields (.flag false) _ v rest read
  · rw [bind_eq_ok_iff] at read
    obtain ⟨⟨n, others⟩, _, read⟩ := read
    cases read
    exact .number n

theorem value_yields (depth : Nat) : Yields Ordered (value depth) := by
  induction depth with
  | zero => exact valueWith_yields (by simp)
  | succ depth ih => exact valueWith_yields fun reader h => Option.some.inj h ▸ ih

/-- Every value that a text writes is ordered. -/
theorem ordered_of_parse {s : String} {v : Value} (h : Value.parse s = .ok v) : Ordered v := by
  rw [Value.parse, mapError_eq_ok_iff, whole, bind_eq_ok_iff] at h
  obtain ⟨⟨w, rest⟩, hw, h⟩ := h
  dsimp only at h
  split at h
  · cases h
    exact value_yields depthLimit s.toList v rest hw
  · exact absurd h unexpected_ne_ok

end WorkflowCompiler.Json
