import Mathlib.Data.List.Nodup
import WorkflowCompiler.Proofs.Json.RoundTrip
import WorkflowCompiler.Json.Form

/-!
Reading by a form. A form that asks nothing special of a value reads it back from its text; a
record reads back its members whenever their forms do, and gives them sorted.
-/
namespace WorkflowCompiler.Json

namespace Form

theorem takes_ofAccept {accept : Value → Except Mismatch Value} {depth : Nat} {v w : Value}
    (portable : Portable depth v) (accepted : accept v = .ok w) :
    Takes ((ofAccept accept).read depth) (write compact v) w := by
  intro rest ends
  change readThenAccept accept depth _ = _
  simp only [readThenAccept, value_compact portable rest ends, bind, Except.bind, accepted]

theorem takes_any {depth : Nat} {v : Value} (portable : Portable depth v) :
    Takes (any.read depth) (write compact v) v :=
  takes_ofAccept portable rfl

theorem takes_text (depth : Nat) (s : String) :
    Takes (text.read depth) (write compact (.text s)) (.text s) :=
  takes_ofAccept (.text s) rfl

/-- An object whose members all have one form is read back as it is. -/
theorem takes_map {item : Form} {depth : Nat} {members : Members} (sorted : members.Sorted)
    (each : ∀ m ∈ members, Takes (item.read depth) (write compact m.2) m.2) :
    Takes ((map item).read (depth + 1)) (write compact (.object members)) (.object members) := by
  intro rest _
  have read : Json.members (fun _ => item.read depth)
      (writeMembers compact members ++ '\x7d' :: rest) = .ok (members, rest) := by
    rw [members_compact each rest]
    simp
  have spelled : write compact (.object members) ++ rest =
      '\x7b' :: (writeMembers compact members ++ '\x7d' :: rest) := by
    simp [write]
  rw [spelled]
  unfold map
  dsimp only
  rw [skipGaps_cons (by decide)]
  simp only [read, bind, Except.bind, Members.ofList_of_sorted sorted]

end Form

/-- No field is given twice where keys differ. -/
theorem Record.find?_repeated (r : Record) {members : Members}
    (distinct : (members.map (·.1)).Nodup) :
    (r.fields.find? fun f => 1 < members.countP (·.1 == f.name)) = none := by
  rw [List.find?_eq_none]
  intro f _ again
  have once : members.countP (·.1 == f.name) = (members.map (·.1)).count f.name := by
    rw [List.count, List.countP_map]
    rfl
  have atMost := List.nodup_iff_count_le_one.mp distinct f.name
  rw [once, decide_eq_true_eq] at again
  omega

/-- A record is read from the text of its members, in whatever order these are written. -/
theorem Record.takes_form {r : Record} {depth : Nat} {members : Members}
    (fields : ∀ m ∈ members, ∃ f, r.field? m.1 = some f ∧
      Takes (f.form.read depth) (write compact m.2) m.2)
    (distinct : (members.map (·.1)).Nodup)
    (complete : r.missing? (Members.ofList members) = none) :
    Takes (r.form.read (depth + 1)) (write compact (.object members))
      (.object (Members.ofList members)) := by
  intro rest _
  have read : ∀ item : String → List Char → Reading (Before (Option Value)),
      (∀ m ∈ members, Takes (item m.1) (write compact m.2) (some m.2)) →
      Json.members item (writeMembers compact members ++ '\x7d' :: rest) =
        .ok (members.map fun m => (m.1, some m.2), rest) :=
    fun _ each => members_compact each rest
  have known : (members.map fun m => (m.1, some m.2)).filterMap (fun m => m.2.map (m.1, ·)) =
      members := by
    simp [List.filterMap_map]
  have spelled : write compact (.object members) ++ rest =
      '\x7b' :: (writeMembers compact members ++ '\x7d' :: rest) := by
    simp [write]
  rw [spelled]
  unfold form
  dsimp only
  rw [skipGaps_cons (by decide)]
  change r.readMembers depth _ = _
  rw [readMembers, read]
  · simp only [bind, Except.bind, known, find?_repeated r distinct, complete]
    rfl
  · intro m hm rest ends
    obtain ⟨f, found, takes⟩ := fields m hm
    simp only [found, takes rest ends, bind, Except.bind]

end WorkflowCompiler.Json
