import WorkflowCompiler.Proofs.Text.Unbroken
import WorkflowCompiler.Proofs.Workflow.Load

/-!
What is known of a specification once it has been accepted: it is settled, so its task ids are
well formed, its dependencies are expressions over them and its start date is canonical. None of
these can hold a line break.
-/
namespace WorkflowCompiler.Workflow

theorem settled_of_load {files : Files.Tree} {path : String} {loaded : Loaded}
    (accepted : load files path = .ok loaded) : Settled loaded.spec loaded.graph := by
  simp only [load, loadText, bind_eq_ok_iff, mapError_eq_ok_iff] at accepted
  obtain ⟨text, _, document, _, accepted⟩ := accepted
  obtain ⟨decoded, start, _, started, passes, hdoc⟩ := loadDocument_eq_ok_iff.mp accepted
  have settled := settled_of_validate started passes
  rcases readDoc_eq_ok_iff.mp hdoc with ⟨_, same⟩ | ⟨_, text, _, _, same⟩
  · rwa [same]
  · rw [same]
    exact settled.withDocText _

/-- Words of an expression do not break the line, and what is between them does not either. -/
theorem Dependency.Lexes.unbroken {cs : List Char} {ts : List Dependency.Token}
    (h : Dependency.Lexes cs ts) : Unbroken cs := by
  induction h with
  | nil => exact unbroken_nil
  | blank hc _ ih => exact unbroken_cons.mpr ⟨hc.2, ih⟩
  | opening _ ih => exact unbroken_cons.mpr ⟨by decide, ih⟩
  | closing _ ih => exact unbroken_cons.mpr ⟨by decide, ih⟩
  | comma _ ih => exact unbroken_cons.mpr ⟨by decide, ih⟩
  | before _ ih => exact unbroken_cons.mpr ⟨by decide, unbroken_cons.mpr ⟨by decide, ih⟩⟩
  | after _ ih => exact unbroken_cons.mpr ⟨by decide, unbroken_cons.mpr ⟨by decide, ih⟩⟩
  | id _ all _ _ ih =>
    refine unbroken_append.mpr ⟨⟨fun feed => ?_, fun carriage => ?_⟩, ih⟩
    · exact Dependency.ne_of_isIdCharacter (all _ feed) (by decide) rfl
    · exact Dependency.ne_of_isIdCharacter (all _ carriage) (by decide) rfl

theorem printable_of_isAsciiLetter {c : Char} (h : Text.isAsciiLetter c = true) :
    Printable c := by
  simp only [Text.isAsciiLetter, Bool.or_eq_true, Bool.and_eq_true, decide_eq_true_eq,
    Char.le_def, UInt32.le_iff_toNat_le] at h
  rcases h with ⟨low, _⟩ | ⟨low, _⟩
  · exact Nat.le_trans (by decide) low
  · exact Nat.le_trans (by decide) low

theorem printable_of_isAsciiDigit {c : Char} (h : Text.isAsciiDigit c = true) :
    Printable c := by
  have := StartDate.toNat_of_isAsciiDigit h
  rw [Printable]
  omega

def IsWordCharacter (c : Char) : Prop :=
  Text.isAsciiLetter c = true ∨ Text.isAsciiDigit c = true ∨ c = '_'

theorem TaskId.isWordCharacter {id : String} (h : TaskId id) :
    ∀ c ∈ id.toList, IsWordCharacter c := by
  obtain ⟨first, middle, last, hid, letter, inner, ending⟩ := h
  rw [hid]
  intro c hc
  rcases List.mem_cons.mp hc with rfl | hc
  · exact .inl letter
  rcases List.mem_append.mp hc with hc | hc
  · exact inner c hc
  · rw [List.mem_singleton.mp hc]
    exact ending.imp_right .inl

theorem TaskId.ne_nil {id : String} (h : TaskId id) : id.toList ≠ [] := by
  obtain ⟨first, middle, last, hid, _⟩ := h
  rw [hid]
  exact List.cons_ne_nil _ _

theorem IsWordCharacter.printable {c : Char} (h : IsWordCharacter c) : Printable c := by
  rcases h with letter | digit | rfl
  · exact printable_of_isAsciiLetter letter
  · exact printable_of_isAsciiDigit digit
  · decide

/-- Such characters belong to ids, so they are no white space. -/
theorem IsWordCharacter.isIdCharacter {c : Char} (h : IsWordCharacter c) :
    Dependency.isIdCharacter c = true := by
  have ascii : (Text.isAsciiLetter c || Text.isAsciiDigit c) = true →
      Dependency.isIdCharacter c = true := by
    intro hc
    rw [Dependency.isIdCharacter, Text.isAlphanumeric_of_ascii hc, Bool.true_or]
  rcases h with letter | digit | rfl
  · exact ascii (by rw [letter, Bool.true_or])
  · exact ascii (by rw [digit, Bool.or_true])
  · decide

theorem TaskId.printable {id : String} (h : TaskId id) : AllPrintable id.toList :=
  fun c hc => (h.isWordCharacter c hc).printable

/-- A canonical start date is digits, commas and spaces. -/
theorem StartDate.printable_write (numbers : List Nat) : AllPrintable (write numbers) := by
  induction numbers with
  | nil => exact allPrintable_nil
  | cons n numbers ih =>
    have digits : AllPrintable (Decimal.digitsOf n) :=
      fun c hc => printable_of_isAsciiDigit (isAsciiDigit_of_mem_digitsOf c hc)
    cases numbers with
    | nil =>
      have alone : write [n] = Decimal.digitsOf n := List.intercalate_singleton
      rwa [alone]
    | cons m numbers =>
      rw [write_cons_cons, allPrintable_append, allPrintable_cons, allPrintable_cons]
      exact ⟨digits, by decide, by decide, ih⟩

namespace Settled

variable {spec : Spec} {graph : Dependency.Graph}

theorem sound (h : Settled spec graph) : Sound (spec.tasks.map (·.id)) spec.dependencies :=
  (validate_eq_ok_iff.mp h.passes).2.1

theorem taskId (h : Settled spec graph) : ∀ task ∈ spec.tasks, TaskId task.id :=
  fun _ htask => h.sound.wellNamed _ (List.mem_map_of_mem htask)

theorem unbroken_id (h : Settled spec graph) : ∀ task ∈ spec.tasks, Unbroken task.id.toList :=
  fun task htask => (h.taskId task htask).printable.unbroken

theorem unbroken_dependency (h : Settled spec graph) :
    ∀ expression ∈ spec.dependencies, Unbroken expression.toList := by
  intro expression he
  obtain ⟨_, hts, _⟩ := h.sound.declared expression he
  exact hts.unbroken

theorem unbroken_startDate (h : Settled spec graph) : Unbroken spec.startDate.toList := by
  obtain ⟨numbers, _, same⟩ := StartDate.normalize_eq_ok_iff.mp h.startDate
  rw [same, String.toList_ofList]
  exact (StartDate.printable_write numbers).unbroken

end Settled

end WorkflowCompiler.Workflow
