import WorkflowCompiler.Proofs.Script.Heads

/-!
Where the code of a query is. The code of a query begins with a line that names the query, and this
line is nowhere before it: not in the fixed lines, not in the header and not in the code of another
task.
-/
namespace WorkflowCompiler.Script

open Json (Value Members)
open Workflow (Spec Task Kind Settled TaskId QueryParameters)

def linesOf (source : String) : List (List Char) :=
  Text.splitAtEach (· == '\n') source.toList

def below (head source : String) : List (List Char) :=
  ((linesOf source).dropWhile (· != head.toList)).tail

/-- The line that the code of a query begins with. -/
def headOf : Mode → String → String
  | .standalone, id => "def " ++ id ++ "():"
  | .deployable, id => "    " ++ id ++ " = PythonOperator("

/-- A line that no code of a task begins with. -/
def Aside : Mode → List Char → Prop
  | .standalone, line => line.head? ≠ some 'd'
  | .deployable, line => line.getLast? ≠ some '('

section Lines

variable {mode : Mode} {values : Members} {line : List Hole} {l : List Char} {id : String}

theorem toList_headOf_standalone (id : String) :
    (headOf .standalone id).toList = 'd' :: 'e' :: 'f' :: ' ' :: (id.toList ++ ['(', ')', ':']) := by
  simp [headOf, String.toList_append]

theorem toList_headOf_deployable (id : String) : (headOf .deployable id).toList =
    "    ".toList ++ (id.toList ++ " = PythonOperator(".toList) := by
  simp only [headOf, String.toList_append, List.append_assoc]

theorem headOf_injective {other : String} (h : (headOf mode id).toList = (headOf mode other).toList) :
    id = other := by
  cases mode with
  | standalone =>
    simp only [toList_headOf_standalone, List.cons.injEq, true_and] at h
    exact String.toList_inj.mp (List.append_cancel_right h)
  | deployable =>
    simp only [toList_headOf_deployable] at h
    exact String.toList_inj.mp (List.append_cancel_right (List.append_cancel_left h))

theorem Aside.ne_headOf (h : Aside mode l) : l ≠ (headOf mode id).toList := by
  rintro rfl
  cases mode with
  | standalone =>
    rw [toList_headOf_standalone] at h
    exact h rfl
  | deployable =>
    rw [toList_headOf_deployable, ← List.append_assoc] at h
    exact h (List.getLast?_append_of_ne_nil _ (by simp))

theorem fillAll_append_eq_ok_iff {init others : List Hole} :
    fillAll values (init ++ others) = .ok l ↔
      ∃ a b, fillAll values init = .ok a ∧ fillAll values others = .ok b ∧ l = a ++ b := by
  induction init generalizing l with
  | nil => simp [fillAll_nil]
  | cons hole init ih =>
    simp only [List.cons_append, fillAll_cons_eq_ok_iff, ih]
    constructor
    · rintro ⟨a, _, ha, ⟨b, c, hb, hc, rfl⟩, rfl⟩
      exact ⟨a ++ b, c, ⟨a, b, ha, hb, rfl⟩, hc, (List.append_assoc a b c).symm⟩
    · rintro ⟨_, c, ⟨a, b, ha, hb, rfl⟩, hc, rfl⟩
      exact ⟨a, b ++ c, ha, ⟨b, c, hb, hc, rfl⟩, List.append_assoc a b c⟩

theorem fillAll_text (s : String) : fillAll values [.text s] = .ok s.toList := by
  rw [fillAll_cons_eq_ok_iff]
  exact ⟨s.toList, [], rfl, rfl, (List.append_nil _).symm⟩

theorem Sideline.aside (h : Sideline mode line) (filled : fillAll values line = .ok l) :
    Aside mode l := by
  cases h with
  | blank =>
    cases (fillAll_text _).symm.trans filled
    cases mode <;> simp [Aside]
  | begins other =>
    obtain ⟨a, b, ha, _, rfl⟩ := fillAll_cons_eq_ok_iff.mp filled
    cases ha
    simpa [Aside] using other
  | ends nonempty other =>
    obtain ⟨a, b, _, hb, rfl⟩ := fillAll_append_eq_ok_iff.mp filled
    cases (fillAll_text _).symm.trans hb
    rwa [Aside, String.toList_ofList, List.getLast?_append_of_ne_nil _ nonempty]
  | quoted =>
    obtain ⟨a, b, ha, hb, rfl⟩ := fillAll_append_eq_ok_iff.mp filled
    cases (fillAll_text _).symm.trans hb
    obtain ⟨c, d, _, hd, rfl⟩ := fillAll_append_eq_ok_iff.mp ha
    obtain ⟨e, f, he, hf, rfl⟩ := fillAll_cons_eq_ok_iff.mp hd
    cases hf
    obtain ⟨v, _, quoted⟩ := bind_eq_ok_iff.mp he
    cases quoted
    have quote : (Json.writeText (String.ofList (shown v))).getLast? = some '"' :=
      List.getLast?_append_of_ne_nil _ (List.cons_ne_nil _ _)
    simp [Aside, quote]

theorem fillAll_named (named : values.get? "task_id" = some (.text id)) (before after : String) :
    fillAll values [.text before, .raw "task_id", .text after] =
      .ok (before.toList ++ (id.toList ++ after.toList)) := by
  have raw : (Hole.raw "task_id").fill values = .ok id.toList := by
    simp only [Hole.fill, lookUp, named]
    rfl
  exact fillAll_cons_eq_ok_iff.mpr ⟨_, _, rfl,
    fillAll_cons_eq_ok_iff.mpr ⟨_, _, raw, fillAll_text after, rfl⟩, rfl⟩

/-- The first line names the task. -/
theorem id_of_mem_heads (named : values.get? "task_id" = some (.text id)) (h : line ∈ heads mode)
    {other : String} (filled : fillAll values line = .ok (headOf mode other).toList) :
    id = other := by
  cases mode with
  | standalone =>
    rw [List.mem_singleton.mp h, fillAll_named named, Except.ok.injEq] at filled
    have same : (headOf .standalone id).toList = (headOf .standalone other).toList := by
      rw [← filled]
      simp only [headOf, String.toList_append, List.append_assoc]
    exact headOf_injective same
  | deployable =>
    rcases List.mem_pair.mp h with rfl | rfl
    · rw [fillAll_named named, Except.ok.injEq] at filled
      have same : (headOf .deployable id).toList = (headOf .deployable other).toList :=
        filled ▸ toList_headOf_deployable id
      exact headOf_injective same
    · rw [fillAll_named named, Except.ok.injEq, toList_headOf_deployable] at filled
      -- the names of the operators differ in the tenth character from the end
      have tenth := congrArg (·.reverse[9]?) filled
      simp only [List.reverse_append] at tenth
      simp at tenth

theorem not_mem_lines_of_neutral {lines : List String}
    (neutral : ∀ line ∈ lines, Neutral line.toList) (wellNamed : TaskId id) :
    (headOf mode id).toList ∉ lines.map String.toList := by
  intro hhead
  obtain ⟨line, hline, same⟩ := List.mem_map.mp hhead
  have h := neutral line hline
  rw [same] at h
  cases mode with
  | deployable =>
    rw [toList_headOf_deployable, ← List.append_assoc] at h
    exact h.noNode (List.getLast?_append_of_ne_nil _ (by simp))
  | standalone =>
    rw [toList_headOf_standalone] at h
    obtain ⟨first, middle, last, hid, letter, _⟩ := wellNamed
    have ends : ('d' :: 'e' :: 'f' :: ' ' :: (id.toList ++ ['(', ')', ':'])).reverse.take 3 =
        [':', ')', '('] := by simp
    have fourth := h.noProcedure ends
    rw [hid] at fourth
    cases Option.some.inj fourth
    exact Workflow.underscore_not_letter_or_digit (.inl letter)

theorem Part.mem_lines {part : Part} {lines : List (List Char)}
    (once : ∀ item list body, part ≠ .each item list body) (h : part.lines values = .ok lines) :
    ∀ l ∈ lines, ∃ line ∈ cutLines part.body, fillAll values line = .ok l := by
  cases part with
  | holes body => exact exists_mem_of_forall₂ (mapM_eq_ok_iff.mp h)
  | whenSet name body =>
    obtain ⟨v, _, h⟩ := bind_eq_ok_iff.mp h
    split at h
    · exact exists_mem_of_forall₂ (mapM_eq_ok_iff.mp h)
    · cases h
      exact List.forall_mem_nil _
  | each item list body => exact absurd rfl (once item list body)

/-- Each line of a template without loops is one that its holes were cut into. -/
theorem Template.mem_lines {t : Template} {lines : List (List Char)}
    (once : ∀ part ∈ t.parts, ∀ item list body, part ≠ .each item list body)
    (h : t.lines values = .ok lines) :
    ∀ l ∈ lines, ∃ part ∈ t.parts, ∃ line ∈ cutLines part.body, fillAll values line = .ok l := by
  obtain ⟨pieces, cut, h⟩ := bind_eq_ok_iff.mp h
  cases h
  intro l hl
  obtain ⟨piece, hpiece, hl⟩ := List.mem_flatten.mp hl
  obtain ⟨part, hpart, hcut⟩ := exists_mem_of_forall₂ (mapM_eq_ok_iff.mp cut) piece hpiece
  exact ⟨part, hpart, Part.mem_lines (once part hpart) hcut l hl⟩

theorem not_mem_lines_header {lines : List (List Char)}
    (h : Templates.deployHeader.lines values = .ok lines) :
    (headOf .deployable id).toList ∉ lines := by
  intro hhead
  obtain ⟨part, hpart, line, hline, filled⟩ :=
    Template.mem_lines (by simp [Templates.deployHeader]) h _ hhead
  rcases line_header part hpart line hline with rfl | sideline
  · rw [fillAll_text, Except.ok.injEq, toList_headOf_deployable] at filled
    exact absurd (congrArg List.head? filled) (by simp)
  · exact (sideline.aside filled).ne_headOf rfl

end Lines

section Contributions

variable {files : Files.Tree} {ctx : Context} {mode : Mode} {task : Task} {f? : Option Fragment}
  {lines : List (List Char)} {id : String}

theorem once_of_templateFor {kind : Kind} {t : Template} (h : templateFor mode kind = some t) :
    ∀ part ∈ t.parts, ∀ item list body, part ≠ .each item list body := by
  rintro _ hpart item list body rfl
  exact forTask_of_templateFor h _ hpart

theorem lines_of_render {kind : Kind} {t : Template} {values : Members} {code : String}
    (ht : templateFor mode kind = some t) (named : values.get? "task_id" = some (.text id))
    (whole : Unbroken id.toList) (rendered : t.render values = .ok code)
    (lined : Lined code.toList lines) : t.lines values = .ok lines := by
  obtain ⟨cut, hcut, linedCut⟩ := Template.render_lined (tidy_templates t (mem_all_of_templateFor ht))
    (fun part hpart => rawsUnbroken_of_forTask named whole (forTask_of_templateFor ht part hpart))
    rendered
  rw [hcut, linedCut.unique lined]

/-- The code of another task has no line that this one's begins with. -/
theorem Contributes.not_mem_lines (h : Contributes files ctx mode task f? lines)
    (whole : Unbroken task.id.toList) (other : task.id ≠ id) : (headOf mode id).toList ∉ lines := by
  cases h with
  | nothing => exact List.not_mem_nil
  | code ht compiled _ lined =>
    obtain ⟨values, rendered, named, _⟩ := compiled.code
    intro hhead
    obtain ⟨part, hpart, line, hline, filled⟩ := Template.mem_lines (once_of_templateFor ht)
      (lines_of_render ht named whole rendered lined) _ hhead
    rcases line_of_templateFor ht part hpart line hline with opens | sideline
    · exact other (id_of_mem_heads named opens filled)
    · exact (sideline.aside filled).ne_headOf rfl

/-- The lines of a task stand in a row, and what is before them belongs to others. -/
theorem exists_append_of_mem {related : Task → List (List Char) → Prop} {head : List Char}
    {tasks : List Task} {pieces : List (List (List Char))} (h : List.Forall₂ related tasks pieces)
    (hmem : task ∈ tasks)
    (others : ∀ t ∈ tasks, t ≠ task → ∀ piece, related t piece → head ∉ piece) :
    ∃ before piece after, pieces.flatten = before ++ (piece ++ after) ∧ related task piece ∧
      head ∉ before := by
  induction h with
  | nil => cases hmem
  | @cons t piece tasks pieces first _ ih =>
    by_cases same : t = task
    · exact ⟨[], piece, pieces.flatten, rfl, same ▸ first, List.not_mem_nil⟩
    · obtain ⟨here, others⟩ := List.forall_mem_cons.mp others
      obtain ⟨before, own, after, split, hown, fresh⟩ :=
        ih ((List.mem_cons.mp hmem).resolve_left (Ne.symm same)) others
      refine ⟨piece ++ before, own, after, ?_, hown, ?_⟩
      · rw [List.flatten_cons, split, List.append_assoc]
      · exact fun hhead => (List.mem_append.mp hhead).elim (here same piece first) fresh

end Contributions

section Scripts

variable {files : Files.Tree} {spec : Spec} {graph : Workflow.Dependency.Graph} {mode : Mode}
  {subset : List String} {a : Artifact} {tasks : List Task} {compiled : List (Option Fragment)}
  {head last : String} {task : Task}

theorem below_of_lined {before rest : List (List Char)} {source : String}
    (lined : Lined source.toList (before ++ head.toList :: rest)) (fresh : head.toList ∉ before) :
    below head source = rest ++ [[]] := by
  have passed : ∀ line ∈ before, (line != head.toList) = true := by
    intro line hline
    rw [bne_iff_ne]
    rintro rfl
    exact fresh hline
  rw [below, linesOf, lined.splitAtEach, List.append_assoc, List.dropWhile_append_of_pos passed,
    List.cons_append, List.dropWhile_cons_of_neg (by simp), List.tail_cons]

/-- Below the first line of a task's code is the rest of the code. -/
theorem Assembled.exists_below (settled : Settled spec graph)
    (h : Assembled files spec mode subset a tasks compiled head last) (htask : task ∈ tasks) :
    ∃ f? lines, compileTask (.ofSpec spec) files mode task = .ok f? ∧
      Contributes files (.ofSpec spec) mode task f? lines ∧
      ∀ rest, lines = (headOf mode task.id).toList :: rest →
        ∃ more, below (headOf mode task.id) a.source = rest ++ more := by
  have known := mem_of_selectTasks h.selects
  have wellNamed := settled.taskId task (known task htask)
  obtain ⟨headLines, pieces, lastLines, lined, linedHead, headHeight, contributed, _⟩ :=
    h.exists_lines settled
  have others : ∀ t ∈ tasks, t ≠ task → ∀ piece, (∃ f?,
      compileTask (.ofSpec spec) files mode t = .ok f? ∧
      Contributes files (.ofSpec spec) mode t f? piece) →
      (headOf mode task.id).toList ∉ piece := by
    rintro t ht other piece ⟨f?, _, contributes⟩
    refine contributes.not_mem_lines (settled.unbroken_id t (known t ht)) fun same => other ?_
    exact List.inj_on_of_nodup_map settled.sound.distinct (known t ht) (known task htask) same
  obtain ⟨before, lines, after, split, ⟨f?, made, contributes⟩, fresh⟩ :=
    exists_append_of_mem contributed htask others
  refine ⟨f?, lines, made, contributes, ?_⟩
  rintro rest rfl
  have noHeader : (headOf mode task.id).toList ∉ headLines := by
    cases mode with
    | standalone =>
      rw [List.length_eq_zero_iff.mp headHeight]
      exact List.not_mem_nil
    | deployable =>
      obtain ⟨values, cut, hcut, _, linedCut⟩ := exists_lines_header settled h.heading
      rw [linedHead.unique linedCut]
      exact not_mem_lines_header hcut
  have earlier : (headOf mode task.id).toList ∉ preludeLines.map String.toList ++
      (helpersLines.map String.toList ++ (headLines ++ before)) := by
    simp only [List.mem_append, not_or]
    exact ⟨not_mem_lines_of_neutral neutral_prelude wellNamed,
      not_mem_lines_of_neutral neutral_helpers wellNamed, noHeader, fresh⟩
  rw [split] at lined
  have whole : Lined a.source.toList ((preludeLines.map String.toList ++
      (helpersLines.map String.toList ++ (headLines ++ before))) ++
      (headOf mode task.id).toList :: (rest ++ (after ++ lastLines))) := by
    simpa only [List.append_assoc, List.cons_append] using lined
  exact ⟨after ++ lastLines ++ [[]], by rw [below_of_lined whole earlier, List.append_assoc rest]⟩

end Scripts

end WorkflowCompiler.Script
