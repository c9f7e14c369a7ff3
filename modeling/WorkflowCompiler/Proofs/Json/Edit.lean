import Mathlib.Data.List.Sort
import WorkflowCompiler.Proofs.Json.Lookup
import WorkflowCompiler.Proofs.Json.Ordered

/-!
Edits of objects. Sorted members are known by what is found under each key, so an edit is
described by its effect on lookups, and two ways to make an object are compared key by key.
-/
namespace WorkflowCompiler.Json

namespace Value

def isNull : Value → Bool
  | .null => true
  | _ => false

theorem isNull_eq_false_iff {v : Value} : v.isNull = false ↔ v ≠ .null := by
  cases v <;> simp [isNull]

def mapText (f : String → String) : Value → Value
  | .text s => .text (f s)
  | v => v

def mapItems (f : Value → Value) : Value → Value
  | .list items => .list (items.map f)
  | v => v

def mapMembers (f : Members → Members) : Value → Value
  | .object members => .object (f members)
  | v => v

end Value

namespace Members

/-- Puts a value under a key that has none. -/
def fill (members : Members) (key : String) (v : Value) : Members :=
  if members.contains key then members else members.insert key v

def alter (members : Members) (key : String) (f : Value → Value) : Members :=
  members.map fun m => if m.1 = key then (m.1, f m.2) else m

def dropNulls (members : Members) (keys : List String) : Members :=
  members.filter fun m => !(decide (m.1 ∈ keys) && m.2.isNull)

section Lookup

variable {members others : Members} {key other : String} {v : Value}

theorem mem_of_get? (h : members.get? key = some v) : (key, v) ∈ members := by
  obtain ⟨m, found, rfl⟩ := Option.map_eq_some_iff.mp h
  have same : m.1 = key := by simpa using List.find?_some found
  rw [← same]
  exact List.mem_of_find?_eq_some found

theorem get?_eq_none_iff : members.get? key = none ↔ key ∉ members.map (·.1) := by
  rw [mem_keys_iff, Bool.not_eq_true, Option.isSome_eq_false_iff, Option.isNone_iff_eq_none]

theorem get?_append : (members ++ others).get? key = (members.get? key).or (others.get? key) := by
  rw [get?, List.find?_append, Option.map_or]
  rfl

theorem get?_filter (distinct : (members.map (·.1)).Nodup) (keep : String × Value → Bool) :
    get? (members.filter keep) key = (members.get? key).filter fun v => keep (key, v) := by
  induction members with
  | nil => rfl
  | cons m members ih =>
    obtain ⟨fresh, distinct⟩ := List.nodup_cons.mp distinct
    rw [List.filter_cons, get?_cons]
    by_cases same : m.1 = key
    · subst same
      have absent : get? members m.1 = none := get?_eq_none_iff.mpr fresh
      rw [if_pos rfl, Option.filter_some]
      by_cases kept : keep m = true
      · rw [if_pos kept, if_pos kept, get?_cons, if_pos rfl]
      · rw [if_neg kept, if_neg kept, ih distinct, absent]
        rfl
    · rw [if_neg same, ← ih distinct]
      split
      · rw [get?_cons, if_neg same]
      · rfl

/-- What is found under keys that are kept. -/
theorem get?_filter_of_kept (distinct : (members.map (·.1)).Nodup)
    {keep : String × Value → Bool} (kept : ∀ v, keep (key, v) = true) :
    get? (members.filter keep) key = members.get? key := by
  rw [get?_filter distinct]
  cases members.get? key with
  | none => rfl
  | some v => exact (Option.filter_some ..).trans (if_pos (kept v))

/-- Sorted members are the same if the same is found under each key. -/
theorem Sorted.ext (h : members.Sorted) (h' : others.Sorted)
    (same : ∀ key, members.get? key = others.get? key) : members = others := by
  have : Std.Irrefl fun a b : String × Value => a.1 < b.1 := ⟨fun a => lt_irrefl a.1⟩
  have : Std.Asymm fun a b : String × Value => a.1 < b.1 := ⟨fun a b => lt_asymm⟩
  refine List.Pairwise.eq_of_mem_iff h h' fun m => ?_
  obtain ⟨key, v⟩ := m
  constructor
  · intro hm
    exact mem_of_get? ((same key).symm.trans (get?_of_mem h.nodup hm))
  · intro hm
    exact mem_of_get? ((same key).trans (get?_of_mem h'.nodup hm))

theorem get?_fill : (members.fill key v).get? other =
    if key = other then some ((members.get? key).getD v) else members.get? other := by
  rw [fill, contains_eq_isSome]
  cases found : members.get? key with
  | none =>
    simp only [Option.isSome_none, Bool.false_eq_true, if_false, get?_insert, Option.getD_none]
  | some w =>
    simp only [Option.isSome_some, if_true, Option.getD_some]
    split
    · next same => rw [← same, found]
    · rfl

theorem get?_alter (f : Value → Value) : (members.alter key f).get? other =
    if key = other then (members.get? other).map f else members.get? other := by
  induction members with
  | nil =>
    change none = if key = other then none else none
    rw [ite_self]
  | cons m members ih =>
    change get? ((if m.1 = key then (m.1, f m.2) else m) :: alter members key f) other = _
    rw [get?_cons, get?_cons, ih]
    by_cases here : m.1 = key
    · subst here
      rw [if_pos rfl]
      split <;> rfl
    · rw [if_neg here]
      by_cases there : m.1 = other
      · subst there
        rw [if_pos rfl, if_pos rfl, if_neg (Ne.symm here)]
      · rw [if_neg there, if_neg there]

/-- What is present is what is no null. -/
theorem present?_eq_filter : members.present? key = (members.get? key).filter (!·.isNull) := by
  rw [present?]
  cases members.get? key with
  | none => rfl
  | some v => cases v <;> rfl

theorem present?_ne_null : members.present? key ≠ some .null := by
  rw [present?_eq_filter]
  intro null
  exact absurd (Option.filter_eq_some_iff.mp null).2 (by decide)

theorem present?_of_ne_null (full : members.get? key ≠ some .null) :
    members.present? key = members.get? key := by
  rw [present?_eq_filter]
  cases there : members.get? key with
  | none => rfl
  | some v =>
    have : v.isNull = false := Value.isNull_eq_false_iff.mpr fun null => full (by rw [there, null])
    exact Option.filter_some_pos (by rw [this]; rfl)

theorem get?_dropNulls (sorted : members.Sorted) (keys : List String) :
    (members.dropNulls keys).get? key =
      if key ∈ keys then members.present? key else members.get? key := by
  rw [dropNulls, get?_filter sorted.nodup]
  split
  · next listed => simp only [listed, decide_true, Bool.true_and, present?_eq_filter]
  · next unlisted => cases members.get? key <;> simp [unlisted, Option.filter_some]

theorem get?_erase (sorted : members.Sorted) :
    (members.erase key).get? other = if key = other then none else members.get? other := by
  rw [erase, get?_filter sorted.nodup]
  split
  · next same => cases members.get? other <;> simp [same, Option.filter_some]
  · next apart => cases members.get? other <;> simp [Ne.symm apart, Option.filter_some]

theorem get?_extend {updates : Members} (distinct : (updates.map (·.1)).Nodup) :
    (members.extend updates).get? key = (updates.get? key).or (members.get? key) :=
  get?_foldl_insert distinct members key

theorem Sorted.extend (h : members.Sorted) (updates : Members) : (members.extend updates).Sorted :=
  (foldl_insert_spec updates h).1

/-- To put the same members in twice is to put them in once. -/
theorem extend_extend (sorted : members.Sorted) {updates : Members}
    (distinct : (updates.map (·.1)).Nodup) :
    (members.extend updates).extend updates = members.extend updates := by
  have once := sorted.extend updates
  refine (once.extend updates).ext once fun key => ?_
  rw [get?_extend distinct, get?_extend distinct]
  cases get? updates key <;> rfl

theorem Sorted.filter (h : members.Sorted) (keep : String × Value → Bool) :
    Sorted (members.filter keep) :=
  List.Pairwise.filter keep h

theorem Sorted.fill (h : members.Sorted) (key : String) (v : Value) :
    (members.fill key v).Sorted := by
  unfold Members.fill
  split
  · exact h
  · exact h.insert key v

theorem Sorted.alter (h : members.Sorted) (key : String) (f : Value → Value) :
    (members.alter key f).Sorted := by
  have keys : ∀ m : String × Value, (if m.1 = key then (m.1, f m.2) else m).1 = m.1 := by
    intro m
    split <;> rfl
  refine List.pairwise_map.mpr (h.imp fun {a b} less => ?_)
  rw [keys a, keys b]
  exact less

theorem Sorted.dropNulls (h : members.Sorted) (keys : List String) :
    (members.dropNulls keys).Sorted :=
  h.filter _

theorem Sorted.erase (h : members.Sorted) (key : String) : (members.erase key).Sorted :=
  h.filter _

end Lookup

section Fields

variable {own : List (String × Option Value)} {extra : Members} {key : String}

def present (own : List (String × Option Value)) : Members :=
  own.filterMap fun m => m.2.map (m.1, ·)

theorem mem_present {m : String × Value} : m ∈ present own ↔ (m.1, some m.2) ∈ own := by
  rw [present, List.mem_filterMap]
  constructor
  · rintro ⟨entry, hentry, made⟩
    obtain ⟨v, there, rfl⟩ := Option.map_eq_some_iff.mp made
    rwa [← there]
  · intro h
    exact ⟨_, h, rfl⟩

theorem nodup_present (distinct : (own.map (·.1)).Nodup) : ((present own).map (·.1)).Nodup := by
  refine List.pairwise_map.mpr (List.pairwise_filterMap.mpr ?_)
  refine (List.pairwise_map.mp distinct).imp fun {a b} apart m hm n hn => ?_
  obtain ⟨_, _, rfl⟩ := Option.map_eq_some_iff.mp hm
  obtain ⟨_, _, rfl⟩ := Option.map_eq_some_iff.mp hn
  exact apart

theorem get?_present (distinct : (own.map (·.1)).Nodup) {entry : String × Option Value}
    (h : entry ∈ own) : (present own).get? entry.1 = entry.2 := by
  cases there : entry.2 with
  | some v =>
    refine get?_of_mem (nodup_present distinct) (mem_present.mpr ?_)
    rwa [← there]
  | none =>
    refine get?_eq_none_iff.mpr fun hkey => ?_
    obtain ⟨m, hm, same⟩ := List.mem_map.mp hkey
    have := List.inj_on_of_nodup_map distinct (mem_present.mp hm) h same
    rw [← this] at there
    cases there

theorem get?_present_of_not_mem (h : key ∉ own.map (·.1)) : (present own).get? key = none := by
  refine get?_eq_none_iff.mpr fun hkey => ?_
  obtain ⟨m, hm, rfl⟩ := List.mem_map.mp hkey
  exact h (List.mem_map_of_mem (mem_present.mp hm))

/-- Fields and further members are found again where all keys differ. -/
theorem get?_ofList_present (distinct : (own.map (·.1)).Nodup)
    (distinctExtra : (extra.map (·.1)).Nodup) (apart : ∀ m ∈ extra, m.1 ∉ own.map (·.1)) :
    (∀ entry ∈ own, (ofList (present own ++ extra)).get? entry.1 = entry.2) ∧
    ∀ key, key ∉ own.map (·.1) → (ofList (present own ++ extra)).get? key = extra.get? key := by
  have all : ((present own ++ extra).map (·.1)).Nodup := by
    rw [List.map_append, List.nodup_append]
    refine ⟨nodup_present distinct, distinctExtra, ?_⟩
    rintro key hkey other hother rfl
    obtain ⟨m, hm, rfl⟩ := List.mem_map.mp hother
    obtain ⟨n, hn, same⟩ := List.mem_map.mp hkey
    exact apart m hm (same ▸ List.mem_map_of_mem (f := (·.1)) (mem_present.mp hn))
  constructor
  · intro entry hentry
    have absent : extra.get? entry.1 = none := by
      refine get?_eq_none_iff.mpr fun hkey => ?_
      obtain ⟨m, hm, same⟩ := List.mem_map.mp hkey
      exact apart m hm (same ▸ List.mem_map_of_mem hentry)
    rw [get?_ofList all, get?_append, get?_present distinct hentry, absent, Option.or_none]
  · intro key hkey
    rw [get?_ofList all, get?_append, get?_present_of_not_mem hkey, Option.none_or]

end Fields

end Members

end WorkflowCompiler.Json
