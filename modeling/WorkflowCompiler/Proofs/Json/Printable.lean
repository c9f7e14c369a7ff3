import WorkflowCompiler.Proofs.Json.Numeral
import WorkflowCompiler.Proofs.Json.Text
import WorkflowCompiler.Proofs.Text.Unbroken

/-!
Written values can be printed. Whatever the texts in a value, no control character gets out, so
the text of a value never spans lines.
-/
namespace WorkflowCompiler

namespace Decimal

theorem allPrintable_digitsOf (n : Nat) : AllPrintable (digitsOf n) := by
  intro c hc
  have digit := isDigit_of_mem_digitsOf hc
  simp only [Char.isDigit, Bool.and_eq_true, decide_eq_true_eq, UInt32.le_iff_toNat_le] at digit
  exact Nat.le_trans (by decide) digit.1

theorem allPrintable_significant (x : Scaled) : AllPrintable x.significant.1 := by
  rw [Scaled.significant]
  split
  · exact by decide
  · refine (allPrintable_digitsOf x.coefficient).of_subset fun c hc => ?_
    rw [List.mem_reverse] at hc
    exact List.mem_reverse.mp ((List.dropWhile_sublist _).subset hc)

variable {digits : List Char}

theorem allPrintable_positional (h : AllPrintable digits) (leading : Int) :
    AllPrintable (positional digits leading) := by
  have zeros : ∀ n, AllPrintable (List.replicate n '0') :=
    fun n => allPrintable_replicate (by decide)
  have fraction : ∀ n, AllPrintable (if digits.drop n = [] then ['0'] else digits.drop n) := by
    intro n
    split
    · exact by decide
    · exact h.of_subset (List.drop_subset n digits)
  rw [positional]
  split
  · exact allPrintable_append.mpr ⟨allPrintable_cons.mpr ⟨by decide,
      allPrintable_cons.mpr ⟨by decide, zeros _⟩⟩, h⟩
  · exact allPrintable_append.mpr ⟨allPrintable_append.mpr
      ⟨h.of_subset (List.take_subset _ _), zeros _⟩, allPrintable_cons.mpr ⟨by decide, fraction _⟩⟩

theorem allPrintable_exponential (plus : Bool) (h : AllPrintable digits) (leading : Int) :
    AllPrintable (exponential plus digits leading) := by
  have fraction : AllPrintable (if digits.drop 1 = [] then [] else '.' :: digits.drop 1) := by
    split
    · exact allPrintable_nil
    · exact allPrintable_cons.mpr ⟨by decide, h.of_subset (List.drop_subset 1 digits)⟩
  have sign : AllPrintable (if leading < 0 then ['-'] else if plus then ['+'] else []) := by
    split
    · exact by decide
    · split <;> exact by decide
  rw [exponential]
  simp only [allPrintable_append, allPrintable_cons]
  exact ⟨⟨⟨h.of_subset (List.take_subset _ _), fraction⟩, by decide, sign⟩,
    allPrintable_digitsOf _⟩

theorem allPrintable_write (layout : Layout) (x : Binary64) : AllPrintable (x.write layout) := by
  have digits := allPrintable_significant x.magnitude.shortest
  have body : AllPrintable (if layout.inFull x.magnitude.shortest.significant.2
      then positional x.magnitude.shortest.significant.1 x.magnitude.shortest.significant.2
      else exponential layout.plus x.magnitude.shortest.significant.1
        x.magnitude.shortest.significant.2) := by
    split
    · exact allPrintable_positional digits _
    · exact allPrintable_exponential _ digits _
  rw [Binary64.write]
  split
  · exact allPrintable_cons.mpr ⟨by decide, body⟩
  · exact body

end Decimal

namespace Json

theorem allPrintable_writeText (s : String) : AllPrintable (writeText s) := by
  have body : AllPrintable (s.toList.flatMap escaped) := by
    intro d hd
    obtain ⟨c, _, hc⟩ := List.mem_flatMap.mp hd
    exact printable_escaped hc
  rw [writeText]
  simp only [allPrintable_cons, allPrintable_append]
  exact ⟨⟨by decide, body⟩, by decide⟩

theorem allPrintable_integer (n : Int) : AllPrintable (toString n).toList := by
  rw [toList_toString_int, allPrintable_append]
  refine ⟨?_, Decimal.allPrintable_digitsOf _⟩
  split <;> exact by decide

theorem allPrintable_number (layout : Decimal.Layout) (n : Number) :
    AllPrintable (n.write layout) := by
  cases n with
  | integer n => exact allPrintable_integer n
  | double x => exact Decimal.allPrintable_write layout x

structure Spelling.Printable (s : Spelling) : Prop where
  null : AllPrintable s.null
  yes : AllPrintable s.yes
  no : AllPrintable s.no
  comma : AllPrintable s.comma
  colon : AllPrintable s.colon
  text : ∀ t, AllPrintable (s.text t)

section Write

variable {s : Spelling}

mutual

/-- The text of a value can be printed. -/
theorem Spelling.Printable.write (h : s.Printable) (v : Value) :
    AllPrintable (Json.write s v) := by
  cases v with
  | null => exact h.null
  | flag b =>
    cases b with
    | false => exact h.no
    | true => exact h.yes
  | number n => exact allPrintable_number s.double n
  | text t => exact h.text t
  | list items =>
    rw [Json.write]
    simp only [allPrintable_cons, allPrintable_append]
    exact ⟨⟨by decide, h.writeItems items⟩, by decide⟩
  | object members =>
    rw [Json.write]
    simp only [allPrintable_cons, allPrintable_append]
    exact ⟨⟨by decide, h.writeMembers members⟩, by decide⟩
termination_by structural v

theorem Spelling.Printable.writeItems (h : s.Printable) (items : List Value) :
    AllPrintable (Json.writeItems s items) := by
  match items with
  | [] => exact allPrintable_nil
  | [v] => exact h.write v
  | v :: w :: rest =>
    rw [Json.writeItems]
    simp only [allPrintable_append]
    exact ⟨⟨h.write v, h.comma⟩, h.writeItems (w :: rest)⟩
termination_by structural items

theorem Spelling.Printable.writeMember (h : s.Printable) (m : String × Value) :
    AllPrintable (Json.writeMember s m) := by
  match m with
  | (key, v) =>
    rw [Json.writeMember]
    simp only [allPrintable_append]
    exact ⟨⟨h.text key, h.colon⟩, h.write v⟩
termination_by structural m

theorem Spelling.Printable.writeMembers (h : s.Printable) (members : List (String × Value)) :
    AllPrintable (Json.writeMembers s members) := by
  match members with
  | [] => exact allPrintable_nil
  | [m] => exact h.writeMember m
  | m :: n :: rest =>
    rw [Json.writeMembers]
    simp only [allPrintable_append]
    exact ⟨⟨h.writeMember m, h.comma⟩, h.writeMembers (n :: rest)⟩
termination_by structural members

end

end Write

end Json

end WorkflowCompiler
