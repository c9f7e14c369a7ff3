import WorkflowCompiler.Proofs.Json.Lookup
import WorkflowCompiler.Proofs.Script.Located

/-!
What templates are rendered to. A template can be rendered wherever it is given a value for every
name it uses. The entry point and the wiring consist of fixed lines and of lines for the items of
their lists, and the code of a task begins with a line that names the task.
-/
namespace WorkflowCompiler.Script

open Json (Value Members)
open Workflow (Spec Task Kind)

def Hole.name? : Hole → Option String
  | .text _ => none
  | .raw name => some name
  | .quoted name => some name
  | .literal name => some name

/-- The names whose values a part uses, except for the one that a loop gives to its items. -/
def Part.names : Part → List String
  | .holes body => body.filterMap Hole.name?
  | .whenSet name body => name :: body.filterMap Hole.name?
  | .each item list body => list :: (body.filterMap Hole.name?).filter (· ≠ item)

def Template.names (t : Template) : List String :=
  t.parts.flatMap Part.names

section Rendering

variable {values : Members} {hole : Hole} {body : List Hole} {part : Part} {t : Template}

theorem exists_lookUp {name : String} (known : name ∈ values.map (·.1)) :
    ∃ v, lookUp values name = .ok v := by
  obtain ⟨v, found⟩ := Option.isSome_iff_exists.mp (Members.mem_keys_iff.mp known)
  exact ⟨v, lookUp_eq_ok_iff.mpr found⟩

theorem Hole.exists_fill (known : ∀ name ∈ hole.name?, name ∈ values.map (·.1)) :
    ∃ cs, hole.fill values = .ok cs := by
  cases hole with
  | text s => exact ⟨_, rfl⟩
  | raw name =>
    obtain ⟨v, found⟩ := exists_lookUp (known name rfl)
    exact ⟨_, bind_eq_ok_iff.mpr ⟨v, found, rfl⟩⟩
  | quoted name =>
    obtain ⟨v, found⟩ := exists_lookUp (known name rfl)
    exact ⟨_, bind_eq_ok_iff.mpr ⟨v, found, rfl⟩⟩
  | literal name =>
    obtain ⟨v, found⟩ := exists_lookUp (known name rfl)
    exact ⟨_, bind_eq_ok_iff.mpr ⟨v, found, rfl⟩⟩

theorem exists_fillAll (known : ∀ name ∈ body.filterMap Hole.name?, name ∈ values.map (·.1)) :
    ∃ cs, fillAll values body = .ok cs := by
  induction body with
  | nil => exact ⟨[], fillAll_nil⟩
  | cons hole body ih =>
    have here : ∀ name ∈ hole.name?, name ∈ values.map (·.1) := fun name hname =>
      known name (List.mem_filterMap.mpr ⟨hole, List.mem_cons_self, hname⟩)
    have later : ∀ name ∈ body.filterMap Hole.name?, name ∈ values.map (·.1) := by
      intro name hname
      obtain ⟨other, hother, own⟩ := List.mem_filterMap.mp hname
      exact known name (List.mem_filterMap.mpr ⟨other, List.mem_cons_of_mem hole hother, own⟩)
    obtain ⟨a, ha⟩ := Hole.exists_fill here
    obtain ⟨b, hb⟩ := ih later
    exact ⟨a ++ b, fillAll_cons_eq_ok_iff.mpr ⟨a, b, ha, hb, rfl⟩⟩

theorem Part.exists_fill (once : ∀ item list body, part ≠ .each item list body)
    (known : ∀ name ∈ part.names, name ∈ values.map (·.1)) :
    ∃ cs, part.fill values = .ok cs := by
  cases part with
  | holes body => exact exists_fillAll known
  | whenSet name body =>
    obtain ⟨here, inside⟩ := List.forall_mem_cons.mp known
    obtain ⟨v, found⟩ := exists_lookUp here
    obtain ⟨cs, filled⟩ := exists_fillAll inside
    simp only [Part.fill, found, bind, Except.bind]
    split
    · exact ⟨cs, filled⟩
    · exact ⟨[], rfl⟩
  | each item list body => exact absurd rfl (once item list body)

/-- A template without loops can be rendered once each of its names has a value. -/
theorem Template.exists_render {keys : List String} (same : values.map (·.1) = keys)
    (known : ∀ name ∈ t.names, name ∈ keys)
    (once : ∀ part ∈ t.parts, ∀ item list body, part ≠ .each item list body) :
    ∃ s, t.render values = .ok s := by
  have each : ∀ part ∈ t.parts, ∃ cs, part.fill values = .ok cs := fun part hpart =>
    Part.exists_fill (once part hpart) fun name hname =>
      same ▸ known name (List.mem_flatMap.mpr ⟨part, hpart, hname⟩)
  obtain ⟨texts, filled⟩ := exists_forall₂_iff.mpr each
  exact ⟨_, Template.render_eq_ok_iff.mpr ⟨texts, mapM_eq_ok_iff.mpr filled, rfl⟩⟩

end Rendering

def ofLines (lines : List String) : String :=
  String.join (lines.map (· ++ "\n"))

theorem toList_ofLines (lines : List String) :
    (ofLines lines).toList = lines.flatMap fun line => line.toList ++ ['\n'] := by
  rw [ofLines, String.toList_join, List.flatMap_map]
  simp only [String.toList_append, String.reduceToList]

theorem ofLines_append (lines others : List String) :
    ofLines (lines ++ others) = ofLines lines ++ ofLines others := by
  apply String.toList_inj.mp
  simp only [toList_ofLines, String.toList_append, List.flatMap_append]

theorem exists_lined_code {files : Files.Tree} {ctx : Context} {mode : Mode} {task : Task}
    {f : Fragment} (whole : Unbroken task.id.toList)
    (h : compileTask ctx files mode task = .ok (some f)) : ∃ lines, Lined f.code.toList lines := by
  obtain ⟨lines, contributes⟩ := contributes_of_compileTask whole h
  exact ⟨lines, contributes.lined⟩

/-- What is a line of one of several texts that end with their lines is a line of all together. -/
theorem mem_linesOf_join {texts : List String}
    (lined : ∀ text ∈ texts, ∃ lines, Lined text.toList lines) {text : String} (htext : text ∈ texts)
    {line : List Char} (hline : line ∈ linesOf text) : line ∈ linesOf (String.join texts) := by
  obtain ⟨pieces, each⟩ := exists_forall₂_iff.mpr lined
  have whole : Lined (String.join texts).toList pieces.flatten := by
    rw [String.toList_join, List.flatMap_def]
    exact .flatten (List.forall₂_map_left_iff.mpr each)
  obtain ⟨piece, hpiece, own⟩ := exists_mem_of_forall₂ each.flip text htext
  rw [linesOf, own.splitAtEach] at hline
  rw [linesOf, whole.splitAtEach]
  refine List.mem_append.mpr ((List.mem_append.mp hline).imp_left fun h => ?_)
  exact List.mem_flatten.mpr ⟨piece, hpiece, h⟩

section Openings

variable {mode : Mode} {kind : Kind} {t : Template} {values : Members} {id s : String}

def openingLine : Mode → Kind → String → String
  | .deployable, .launchMachine, id => "    " ++ id ++ " = ComputeInstanceOperator("
  | mode, _, id => headOf mode id

/-- In a deployable script the code of a task begins with the assignment of a node. -/
theorem exists_openingLine_deployable (kind : Kind) (id : String) :
    ∃ operator : String, openingLine .deployable kind id = "    " ++ id ++ " = " ++ operator := by
  cases kind with
  | launchMachine => exact ⟨"ComputeInstanceOperator(", by simp [openingLine, String.append_assoc]⟩
  | query | copyTable | createTable =>
    exact ⟨"PythonOperator(", by simp [openingLine, headOf, String.append_assoc]⟩

/-- A code begins with the line that names the task and goes on with what its holes below are
filled to. -/
theorem Template.exists_opening {before after : String} {body : List Hole} {parts : List Part}
    (begins : t.parts = .holes (.text before :: .raw "task_id" :: .text after :: body) :: parts)
    (named : values.get? "task_id" = some (.text id)) (rendered : t.render values = .ok s) :
    ∃ filling rest, fillAll values body = .ok filling ∧
      s.toList = before.toList ++ (id.toList ++ (after.toList ++ (filling ++ rest))) := by
  obtain ⟨texts, filled, rfl⟩ := Template.render_eq_ok_iff.mp rendered
  rw [begins, mapM_eq_ok_iff, List.forall₂_cons_left_iff] at filled
  obtain ⟨first, others, opening, _, rfl⟩ := filled
  have split : fillAll values ([.text before, .raw "task_id", .text after] ++ body) = .ok first :=
    opening
  obtain ⟨a, b, ha, hb, rfl⟩ := fillAll_append_eq_ok_iff.mp split
  rw [fillAll_named named, Except.ok.injEq] at ha
  refine ⟨b, others.flatten, hb, ?_⟩
  rw [String.toList_ofList, List.flatten_cons, ← ha]
  simp only [List.append_assoc]

theorem opening_of_render (ht : templateFor mode kind = some t)
    (named : values.get? "task_id" = some (.text id)) (rendered : t.render values = .ok s) :
    ∃ rest, s.toList = (openingLine mode kind id).toList ++ '\n' :: rest := by
  cases mode
  all_goals
    cases kind <;> cases ht
  all_goals
    obtain ⟨filling, rest, _, begins⟩ := Template.exists_opening rfl named rendered
    refine ⟨filling ++ rest, ?_⟩
    rw [begins]
    simp [openingLine, headOf]

theorem unbroken_openingLine (mode : Mode) (kind : Kind) (whole : Unbroken id.toList) :
    Unbroken (openingLine mode kind id).toList := by
  have around : ∀ before after : String, Unbroken before.toList → Unbroken after.toList →
      Unbroken (before ++ id ++ after).toList := by
    intro before after hbefore hafter
    rw [String.toList_append, String.toList_append]
    exact unbroken_append.mpr ⟨unbroken_append.mpr ⟨hbefore, whole⟩, hafter⟩
  cases mode
  all_goals
    cases kind <;> exact around _ _ (by decide) (by decide)

/-- The code of a task begins with the line for its kind. -/
theorem Compiled.openingLine_mem {files : Files.Tree} {ctx : Context} {task : Task} {f : Fragment}
    (h : Compiled files ctx mode task t f) (ht : templateFor mode task.kind = some t)
    (whole : Unbroken task.id.toList) :
    (openingLine mode task.kind task.id).toList ∈ linesOf f.code := by
  obtain ⟨values, rendered, named, _⟩ := h.code
  obtain ⟨rest, begins⟩ := opening_of_render ht named rendered
  have unbroken := unbroken_openingLine mode task.kind whole
  rw [linesOf, begins, Text.splitAtEach_append_cons unbroken.ne_lineFeed rfl]
  exact List.mem_cons_self

end Openings

section Loops

variable {values : Members}

theorem fillAll_texts (texts : List String) :
    fillAll values (texts.map .text) = .ok (texts.flatMap String.toList) := by
  induction texts with
  | nil => rfl
  | cons s texts ih =>
    exact fillAll_cons_eq_ok_iff.mpr ⟨s.toList, _, rfl, ih, List.flatMap_cons⟩

/-- Fixed lines are what they are. -/
theorem fillAll_lines (lines : List String) :
    fillAll values ((lines.map (· ++ "\n")).map .text) = .ok (ofLines lines).toList := by
  rw [fillAll_texts, ofLines, String.toList_join]

/-- A loop over texts whose body makes lines of each makes the lines of all. -/
theorem fill_each {item list : String} {body : List Hole} {texts : List String}
    {lines : String → List String} (found : values.get? list = some (.texts texts))
    (each : ∀ s, fillAll ((item, .text s) :: values) body = .ok (ofLines (lines s)).toList) :
    (Part.each item list body).fill values = .ok (ofLines (texts.flatMap lines)).toList := by
  have all : (texts.map Value.text).mapM (fun v => fillAll ((item, v) :: values) body) =
      .ok (texts.map fun s => (ofLines (lines s)).toList) := by
    rw [mapM_eq_ok_iff, List.forall₂_map_left_iff, List.forall₂_map_right_iff]
    exact List.forall₂_same.mpr fun s _ => each s
  have joined : (texts.map fun s => (ofLines (lines s)).toList).flatten =
      (ofLines (texts.flatMap lines)).toList := by
    simp only [toList_ofLines, ← List.flatMap_def, List.flatMap_assoc]
  simp only [Part.fill, lookUp_eq_ok_iff.mpr found, bind, Except.bind, Value.texts, itemsOf?, all,
    joined]

end Loops

def callLine (procedure : String) : String :=
  "    " ++ procedure ++ "()"

/-- The entry point is its fixed lines and one call for each procedure. -/
theorem entryPoint_eq (procedures : List String) :
    entryPoint procedures = .ok (ofLines (entryPointLines ++ procedures.map callLine)) := by
  have parts : Templates.localMain.parts = [
      .holes ((entryPointLines.map (· ++ "\n")).map .text),
      .each "procedure" "procedures" [.text "    ", .raw "procedure", .text "()\n"]] := by
    simp [Templates.localMain, entryPointLines]
  have calls : (Part.each "procedure" "procedures"
        [.text "    ", .raw "procedure", .text "()\n"]).fill
      [("procedures", .texts procedures)] = .ok (ofLines (procedures.map callLine)).toList := by
    rw [List.map_eq_flatMap]
    refine fill_each rfl fun procedure => ?_
    simp [fillAll, Hole.fill, lookUp, Members.get?, shown, bind, Except.bind, pure, Except.pure,
      toList_ofLines, callLine]
  have filled : Templates.localMain.parts.mapM (·.fill [("procedures", .texts procedures)]) =
      .ok [(ofLines entryPointLines).toList, (ofLines (procedures.map callLine)).toList] := by
    rw [parts, mapM_eq_ok_iff]
    exact .cons (fillAll_lines _) (.cons calls .nil)
  refine Template.render_eq_ok_iff.mpr ⟨_, filled, ?_⟩
  rw [ofLines_append]
  simp [← String.toList_append]

/-- The lines that wire a task to the status nodes. -/
def statusEdges (id : String) : List String := [
  "    " ++ id ++ " << notify_after_config",
  "    " ++ id ++ " >> notify_success",
  "    " ++ id ++ " >> notify_failed"]

/-- The lines of the wiring: the fixed ones, the dependencies as they are, and three for each
task. -/
def wiringLines (spec : Spec) : List String :=
  wiringHeading ++ spec.dependencies.map ("    " ++ ·) ++
    spec.tasks.flatMap fun task => statusEdges task.id

/-- The wiring is its fixed lines, the dependencies as they are and three edges for each task. -/
theorem wiring_eq (spec : Spec) : wiring spec = .ok (ofLines (wiringLines spec)) := by
  have parts : Templates.wiring.parts = [
      .holes ((wiringHeading.map (· ++ "\n")).map .text),
      .each "line" "dependency_lines" [.text "    ", .raw "line", .text "\n"],
      .each "task_id" "task_ids" [
        .text "    ", .raw "task_id", .text " << notify_after_config\n",
        .text "    ", .raw "task_id", .text " >> notify_success\n",
        .text "    ", .raw "task_id", .text " >> notify_failed\n"]] := by
    simp [Templates.wiring, wiringHeading]
  generalize hvalues : ([("dependency_lines", .texts spec.dependencies),
    ("task_ids", .texts (spec.tasks.map (·.id)))] : Members) = values
  have dependencies : (Part.each "line" "dependency_lines"
        [.text "    ", .raw "line", .text "\n"]).fill values =
      .ok (ofLines (spec.dependencies.flatMap fun line => ["    " ++ line])).toList := by
    refine fill_each (by rw [← hvalues]; rfl) fun line => ?_
    simp [fillAll, Hole.fill, lookUp, Members.get?, shown, bind, Except.bind, pure, Except.pure,
      toList_ofLines]
  have edges : (Part.each "task_id" "task_ids" [
        .text "    ", .raw "task_id", .text " << notify_after_config\n",
        .text "    ", .raw "task_id", .text " >> notify_success\n",
        .text "    ", .raw "task_id", .text " >> notify_failed\n"]).fill values =
      .ok (ofLines ((spec.tasks.map (·.id)).flatMap statusEdges)).toList := by
    refine fill_each (by rw [← hvalues]; rfl) fun id => ?_
    simp [fillAll, Hole.fill, lookUp, Members.get?, shown, bind, Except.bind, pure, Except.pure,
      toList_ofLines, statusEdges]
  have filled : Templates.wiring.parts.mapM (·.fill values) = .ok [(ofLines wiringHeading).toList,
      (ofLines (spec.dependencies.flatMap fun line => ["    " ++ line])).toList,
      (ofLines ((spec.tasks.map (·.id)).flatMap statusEdges)).toList] := by
    rw [parts, mapM_eq_ok_iff]
    exact .cons (fillAll_lines _) (.cons dependencies (.cons edges .nil))
  rw [wiring, hvalues]
  refine Template.render_eq_ok_iff.mpr ⟨_, filled, ?_⟩
  rw [wiringLines, ofLines_append, ofLines_append, List.map_eq_flatMap, List.flatMap_map]
  simp [← String.toList_append, String.append_assoc]

end WorkflowCompiler.Script
