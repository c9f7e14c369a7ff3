import WorkflowCompiler.Proofs.Script.Wired

/-!
Dependencies as lines of code. A deployable script has a line of its own for each dependency: four
spaces and the text of the expression. An accepted expression holds ASCII ids, brackets, commas,
whole operators and white space. So its line is code in the block of the workflow exactly if it
begins with no white space and has none but spaces and tabs.
-/
namespace WorkflowCompiler.Workflow.Dependency

/-- Code of ASCII ids, brackets, commas, whole operators and white space of some kind. -/
inductive Code (blank : Char → Prop) : List Char → Prop
  | nil : Code blank []
  | word {c : Char} {rest : List Char} : IsWordCharacter c → Code blank rest →
      Code blank (c :: rest)
  | mark {c : Char} {rest : List Char} : c = '[' ∨ c = ']' ∨ c = ',' → Code blank rest →
      Code blank (c :: rest)
  | blank {c : Char} {rest : List Char} : blank c → Code blank rest → Code blank (c :: rest)
  | before {rest : List Char} : Code blank rest → Code blank ('>' :: '>' :: rest)
  | after {rest : List Char} : Code blank rest → Code blank ('<' :: '<' :: rest)

/-- A line that is indented by exactly four spaces and goes on with code; it has no white space
but spaces and tabs. -/
def IndentedCode (line : List Char) : Prop :=
  ∃ c rest, line = ' ' :: ' ' :: ' ' :: ' ' :: c :: rest ∧ Text.isBlank c = false ∧
    Code (fun c => c = ' ' ∨ c = '\t') (c :: rest)

section Code

variable {blank other : Char → Prop} {cs : List Char} {ts : List Token}

theorem Code.append_word {word : List Char} (all : ∀ c ∈ word, IsWordCharacter c)
    (h : Code blank cs) : Code blank (word ++ cs) := by
  induction word with
  | nil => exact h
  | cons c word ih =>
    exact .word (all c List.mem_cons_self) (ih fun d hd => all d (List.mem_cons_of_mem c hd))

/-- A text with ASCII ids is code whose white space stays within the line. -/
theorem Lexes.code (h : Lexes cs ts)
    (ascii : ∀ name ∈ names ts, ∀ c ∈ name.toList, IsWordCharacter c) : Code IsInlineBlank cs := by
  simp only [mem_names] at ascii
  induction h with
  | nil => exact .nil
  | blank blank _ ih => exact .blank blank (ih ascii)
  | opening _ ih =>
    exact .mark (.inl rfl) (ih fun name hname => ascii name (List.mem_cons_of_mem _ hname))
  | closing _ ih =>
    exact .mark (.inr (.inl rfl)) (ih fun name hname => ascii name (List.mem_cons_of_mem _ hname))
  | comma _ ih =>
    exact .mark (.inr (.inr rfl)) (ih fun name hname => ascii name (List.mem_cons_of_mem _ hname))
  | before _ ih => exact .before (ih fun name hname => ascii name (List.mem_cons_of_mem _ hname))
  | after _ ih => exact .after (ih fun name hname => ascii name (List.mem_cons_of_mem _ hname))
  | @id name _ _ _ _ _ _ ih =>
    refine .append_word ?_ (ih fun name hname => ascii name (List.mem_cons_of_mem _ hname))
    simpa using ascii (String.ofList name) List.mem_cons_self

theorem Code.forall_blank (h : Code blank cs) : ∀ c ∈ cs, Text.isBlank c = true → blank c := by
  induction h with
  | nil => exact List.forall_mem_nil _
  | word word _ ih =>
    refine List.forall_mem_cons.mpr ⟨fun hc => ?_, ih⟩
    rw [isBlank_eq_false_of_isIdCharacter word.isIdCharacter] at hc
    cases hc
  | mark mark _ ih =>
    refine List.forall_mem_cons.mpr ⟨fun hc => ?_, ih⟩
    rcases mark with rfl | rfl | rfl <;> exact absurd hc (by decide)
  | blank here _ ih => exact List.forall_mem_cons.mpr ⟨fun _ => here, ih⟩
  | before _ ih =>
    simp only [List.forall_mem_cons]
    exact ⟨fun hc => absurd hc (by decide), fun hc => absurd hc (by decide), ih⟩
  | after _ ih =>
    simp only [List.forall_mem_cons]
    exact ⟨fun hc => absurd hc (by decide), fun hc => absurd hc (by decide), ih⟩

/-- Code has every kind of white space that its own white space is of. -/
theorem Code.of_forall_blank (h : Code blank cs) (white : ∀ c, blank c → Text.isBlank c = true)
    (all : ∀ c ∈ cs, Text.isBlank c = true → other c) : Code other cs := by
  induction h with
  | nil => exact .nil
  | word word _ ih => exact .word word (ih (List.forall_mem_cons.mp all).2)
  | mark mark _ ih => exact .mark mark (ih (List.forall_mem_cons.mp all).2)
  | blank here _ ih =>
    obtain ⟨first, rest⟩ := List.forall_mem_cons.mp all
    exact .blank (first (white _ here)) (ih rest)
  | before _ ih =>
    simp only [List.forall_mem_cons] at all
    exact .before (ih all.2.2)
  | after _ ih =>
    simp only [List.forall_mem_cons] at all
    exact .after (ih all.2.2)

theorem indentedCode_iff {expression : String} (h : Code IsInlineBlank expression.toList)
    (nonempty : expression.toList ≠ []) : IndentedCode ("    " ++ expression).toList ↔
      (∀ c ∈ expression.toList.head?, Text.isBlank c = false) ∧
        ∀ c ∈ expression.toList, Text.isBlank c = true → c = ' ' ∨ c = '\t' := by
  have same : Code (fun c => c = ' ' ∨ c = '\t') expression.toList ↔
      ∀ c ∈ expression.toList, Text.isBlank c = true → c = ' ' ∨ c = '\t' :=
    ⟨Code.forall_blank, h.of_forall_blank fun c hc => hc.1⟩
  rw [← same]
  obtain ⟨c, rest, hcs⟩ := List.exists_cons_of_ne_nil nonempty
  have line : ("    " ++ expression).toList = ' ' :: ' ' :: ' ' :: ' ' :: c :: rest := by
    rw [String.toList_append, hcs]
    rfl
  rw [IndentedCode, line, hcs]
  simp

end Code

end WorkflowCompiler.Workflow.Dependency

namespace WorkflowCompiler.Script

open Workflow (Spec Settled)
open Workflow.Dependency (Code IndentedCode IsInlineBlank Lexes Token indentedCode_iff)

/-- A deployable script ends with the lines of its wiring. -/
theorem exists_linesOf_deployable {files : Files.Tree} {spec : Spec}
    {graph : Workflow.Dependency.Graph} {subset : List String} {a : Artifact}
    (settled : Settled spec graph) (assembled : assemble files spec .deployable subset = .ok a) :
    ∃ above, linesOf a.source = above ++ (wiringLines spec).map String.toList ++ [[]] := by
  obtain ⟨tasks, compiled, head, last, made⟩ := assembled_of_assemble assembled
  obtain rfl : spec.tasks = tasks := Except.ok.inj made.selects
  obtain ⟨fragments, rfl, compiles⟩ := exists_fragments made.compiles
  have wired : ending spec .deployable (compiled.filterMap id) =
      .ok (telemetry ++ ofLines (wiringLines spec)) :=
    bind_eq_ok_iff.mpr ⟨_, wiring_eq spec, rfl⟩
  obtain rfl := Except.ok.inj (made.ending.symm.trans wired)
  obtain ⟨pieces, each⟩ := exists_forall₂_iff.mpr (exists_lined settled made.heading compiles)
  have lined : Lined a.source.toList (pieces.flatten ++ (wiringLines spec).map String.toList) := by
    have whole : Lined (String.join ([prelude, helpers, head] ++
        (compiled.filterMap id).map (·.code) ++ [telemetry])).toList pieces.flatten := by
      rw [String.toList_join, List.flatMap_def]
      exact .flatten (List.forall₂_map_left_iff.mpr each)
    have joined := whole.append (lined_join (unbroken_wiringLines settled))
    rw [made.source, join_wiring, List.append_cons, String.toList_join, List.flatMap_append,
      ← String.toList_join, List.flatMap_singleton]
    exact joined
  exact ⟨pieces.flatten, lined.splitAtEach⟩

/-- Each dependency of an accepted specification has a line of its own in a deployable script,
between the heading of the wiring and the edges of the tasks. The line is four spaces and the
expression, which is code apart from the kinds of its white space: a line that is indented like
its neighbours and has none but spaces and tabs exactly if the expression begins with none and has
none but these. -/
theorem dependency_lines_indented_iff {files : Files.Tree} {path : String}
    {loaded : Workflow.Loaded} (accepted : Workflow.load files path = .ok loaded) :
    (∀ files subset a, assemble files loaded.spec .deployable subset = .ok a →
      ∃ above, linesOf a.source = above ++ (wiringHeading.map String.toList ++
        loaded.spec.dependencies.map (fun expression => ("    " ++ expression).toList) ++
        (loaded.spec.tasks.flatMap fun task => statusEdges task.id).map String.toList) ++ [[]]) ∧
    ∀ expression ∈ loaded.spec.dependencies, (∃ t ts, Lexes expression.toList (t :: ts)) →
      Code IsInlineBlank expression.toList ∧
      (IndentedCode ("    " ++ expression).toList ↔
        (∀ c ∈ expression.toList.head?, Text.isBlank c = false) ∧
          ∀ c ∈ expression.toList, Text.isBlank c = true → c = ' ' ∨ c = '\t') := by
  have settled := Workflow.settled_of_load accepted
  constructor
  · intro files subset a assembled
    obtain ⟨above, lines⟩ := exists_linesOf_deployable settled assembled
    refine ⟨above, lines.trans ?_⟩
    simp only [wiringLines, List.map_append, List.map_map, Function.comp_def]
  · rintro expression he ⟨t, ts, lexes⟩
    obtain ⟨us, lexes', _, declared⟩ := settled.sound.declared expression he
    have ascii : ∀ name ∈ Workflow.Dependency.names us,
        ∀ c ∈ name.toList, Workflow.IsWordCharacter c := by
      intro name hname
      have known := declared name (Workflow.Dependency.mem_names.mp hname)
      exact (settled.sound.wellNamed name known).isWordCharacter
    have nonempty : expression.toList ≠ [] := by
      intro empty
      rw [empty] at lexes
      cases lexes.unique .nil
    have code := lexes'.code ascii
    exact ⟨code, indentedCode_iff code nonempty⟩

/-- A tab inside a group does no harm. -/
theorem dependency_lines_indented_iff_tab :
    ∃ loaded, Workflow.load (Workflow.besideQueries ["ab", "cd"] ["ab >> [cd,\t]"]) "/w" =
      .ok loaded ∧ loaded.spec.dependencies = ["ab >> [cd,\t]"] ∧
      IndentedCode "    ab >> [cd,\t]".toList := by
  have ran : (Workflow.loadDocument (Workflow.besideQueries ["ab", "cd"] ["ab >> [cd,\t]"]) "/w" "/"
      (Workflow.queries ["ab", "cd"] ["ab >> [cd,\t]"])).toOption.map (·.spec.dependencies) =
      some ["ab >> [cd,\t]"] := by decide +kernel
  obtain ⟨loaded, accepted, dependencies⟩ := Option.map_eq_some_iff.mp ran
  rw [toOption_eq_some_iff, ← Workflow.load_besideQueries] at accepted
  have read : Workflow.Dependency.tokens "ab >> [cd,\t]".toList =
      .ok [.id "ab", .operator .before, .opening, .id "cd", .comma, .closing] := by cbv
  obtain ⟨_, indented⟩ := (dependency_lines_indented_iff accepted).2 "ab >> [cd,\t]"
    (by simp [dependencies]) ⟨_, _, Workflow.Dependency.lexes_of_tokens read⟩
  refine ⟨loaded, accepted, dependencies, indented.mpr ⟨?_, ?_⟩⟩
  · intro c hc
    obtain rfl : 'a' = c := Option.some.inj hc
    rfl
  · simp only [String.reduceToList, List.forall_mem_cons]
    simp [Text.isBlank]

/-- An expression that begins with a space is accepted, and its line is indented more than its
neighbours. -/
theorem leading_space_is_spliced :
    let files := Workflow.besideQueries ["ab", "cd"] [" ab >> cd"]
    ∃ loaded a, Workflow.load files "/w" = .ok loaded ∧
      assemble files loaded.spec .deployable [] = .ok a ∧
      " ab >> cd" ∈ loaded.spec.dependencies ∧ "     ab >> cd".toList ∈ linesOf a.source ∧
      ¬ IndentedCode "     ab >> cd".toList := by
  intro files
  have ran : (do
      let loaded ← (Workflow.loadDocument files "/w" "/"
        (Workflow.queries ["ab", "cd"] [" ab >> cd"])).toOption
      let _ ← (assemble files loaded.spec .deployable []).toOption
      some loaded.spec.dependencies) = some [" ab >> cd"] := by decide +kernel
  simp only [Option.bind_eq_bind, Option.bind_eq_some_iff, toOption_eq_some_iff,
    Option.some.injEq] at ran
  obtain ⟨loaded, accepted, a, assembled, dependencies⟩ := ran
  rw [← Workflow.load_besideQueries] at accepted
  have present : " ab >> cd" ∈ loaded.spec.dependencies := by simp [dependencies]
  refine ⟨loaded, a, accepted, assembled, present, ?_, ?_⟩
  · obtain ⟨above, lines⟩ :=
      exists_linesOf_deployable (Workflow.settled_of_load accepted) assembled
    have wired : "    " ++ " ab >> cd" ∈ wiringLines loaded.spec :=
      List.mem_append_left _ (List.mem_append_right _ (List.mem_map_of_mem present))
    rw [lines]
    exact List.mem_append_left _ (List.mem_append_right _ (List.mem_map_of_mem wired))
  · rintro ⟨c, rest, line, nonblank, _⟩
    simp only [String.reduceToList, List.cons.injEq, true_and] at line
    rw [← line.1] at nonblank
    exact absurd nonblank (by decide)

end WorkflowCompiler.Script
