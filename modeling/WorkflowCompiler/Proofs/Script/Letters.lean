import WorkflowCompiler.Proofs.Script.Lines
import WorkflowCompiler.Script.Helpers
import WorkflowCompiler.Script.Prelude
import WorkflowCompiler.Script.Telemetry
import WorkflowCompiler.Script.Templates

/-!
The fixed texts of scripts letter by letter. What the templates and the fixed lines say is a finite
matter, but the characters of a text take long to compute. So each text is unified once with the
text of a list of characters; every other fact about the templates is a check that runs on these
lists, together with a lemma that says what the check is good for.
-/
namespace WorkflowCompiler.Script

/-- A stretch of fixed text letter by letter, or a hole. -/
inductive Piece
  | letters (cs : List Char)
  | raw (name : String)
  | quoted (name : String)
  | literal (name : String)
  deriving DecidableEq

def Piece.hole : Piece → Hole
  | .letters cs => .text (String.ofList cs)
  | .raw name => .raw name
  | .quoted name => .quoted name
  | .literal name => .literal name

/-- The relation that `Piece.hole` computes, in a form that finds the piece for a hole. -/
inductive Spells : Hole → Piece → Prop
  | letters {cs : List Char} : Spells (.text (String.ofList cs)) (.letters cs)
  | raw {name : String} : Spells (.raw name) (.raw name)
  | quoted {name : String} : Spells (.quoted name) (.quoted name)
  | literal {name : String} : Spells (.literal name) (.literal name)

theorem Spells.eq_hole {hole : Hole} {piece : Piece} (h : Spells hole piece) : hole = piece.hole := by
  cases h <;> rfl

theorem eq_map_of_spells {body : List Hole} {pieces : List Piece}
    (h : List.Forall₂ Spells body pieces) : body = pieces.map Piece.hole := by
  rw [← List.forall₂_eq_eq_eq, List.forall₂_map_right_iff]
  exact h.imp fun _ _ => Spells.eq_hole

section Cut

def Piece.ending? : Piece → Option (List Char)
  | .letters cs => if cs.getLast? = some '\n' then some cs.dropLast else none
  | _ => none

/-- The pieces of each line, as `cutLines` gives its holes. -/
def cutPieces : List Piece → List (List Piece)
  | [] => []
  | piece :: rest =>
    match piece.ending? with
    | some last => [.letters last] :: cutPieces rest
    | none => match cutPieces rest with
      | [] => [[piece]]
      | line :: lines => (piece :: line) :: lines

theorem Piece.ending?_hole (piece : Piece) : piece.hole.ending? = piece.ending? := by
  cases piece with
  | letters cs => rw [Piece.hole, Hole.ending?, Piece.ending?, String.toList_ofList]
  | raw | quoted | literal => rfl

theorem cutLines_map (pieces : List Piece) :
    cutLines (pieces.map Piece.hole) = (cutPieces pieces).map (·.map Piece.hole) := by
  induction pieces with
  | nil => rfl
  | cons piece rest ih =>
    rw [List.map_cons, cutLines, cutPieces, piece.ending?_hole, ih]
    cases piece.ending? with
    | some last => rfl
    | none => cases cutPieces rest <;> rfl

end Cut

section Templates

/-- The bodies of the parts of all templates. The lists of letters come from unification. -/
def spelling : { bodies : List (List (List Piece)) // List.Forall₂
    (fun t => List.Forall₂ (fun part => List.Forall₂ Spells part.body) t.parts)
    Templates.all bodies } := by
  apply Subtype.mk
  repeat first
    | exact .nil
    | apply List.Forall₂.cons
    | exact .letters
    | exact .raw
    | exact .quoted
    | exact .literal

def piecesOf (t : Template) : List (List Piece) :=
  (((Templates.all.map (·.name)).zip spelling.1).lookup t.name).getD []

theorem lookup_of_forall₂ {related : Template → List (List Piece) → Prop} {ts : List Template}
    {bodies : List (List (List Piece))} (h : List.Forall₂ related ts bodies)
    (distinct : (ts.map (·.name)).Nodup) : ∀ t ∈ ts, ∃ pieces,
      ((ts.map (·.name)).zip bodies).lookup t.name = some pieces ∧ related t pieces := by
  induction h with
  | nil => exact List.forall_mem_nil _
  | @cons first pieces ts bodies here _ ih =>
    rw [List.map_cons, List.nodup_cons] at distinct
    refine List.forall_mem_cons.mpr ⟨⟨pieces, by simp, here⟩, fun t ht => ?_⟩
    have other : (t.name == first.name) = false :=
      beq_eq_false_iff_ne.mpr fun same => distinct.1 (same ▸ List.mem_map_of_mem ht)
    simpa [List.lookup_cons, other] using ih distinct.2 t ht

theorem map_body_eq {t : Template} (ht : t ∈ Templates.all) :
    t.parts.map Part.body = (piecesOf t).map (·.map Piece.hole) := by
  have distinct : (Templates.all.map (·.name)).Nodup := by decide +kernel
  obtain ⟨pieces, found, spelled⟩ := lookup_of_forall₂ spelling.2 distinct t ht
  rw [piecesOf, found, Option.getD_some, ← List.forall₂_eq_eq_eq, List.forall₂_map_left_iff,
    List.forall₂_map_right_iff]
  exact spelled.imp fun _ _ => eq_map_of_spells

theorem forall_body {t : Template} (ht : t ∈ Templates.all) {property : List Hole → Prop}
    (h : ∀ pieces ∈ piecesOf t, property (pieces.map Piece.hole)) :
    ∀ part ∈ t.parts, property part.body := by
  intro part hpart
  have hbody : part.body ∈ t.parts.map Part.body := List.mem_map_of_mem hpart
  rw [map_body_eq ht] at hbody
  obtain ⟨pieces, known, same⟩ := List.mem_map.mp hbody
  exact same ▸ h pieces known

theorem flatMap_body {t : Template} (ht : t ∈ Templates.all) :
    t.parts.flatMap Part.body = (piecesOf t).flatten.map Piece.hole := by
  rw [List.flatMap_def, map_body_eq ht, List.map_flatten]

/-- What a check of pieces is good for holds of the lines of a template if each of them passes. -/
theorem forall_line {t : Template} (ht : t ∈ Templates.all) {property : List Hole → Prop}
    {check : List Piece → Bool} (sound : ∀ line, check line = true → property (line.map Piece.hole))
    (checked : ((piecesOf t).all fun pieces => (cutPieces pieces).all check) = true) :
    ∀ part ∈ t.parts, ∀ line ∈ cutLines part.body, property line := by
  refine @forall_body t ht (fun body => ∀ line ∈ cutLines body, property line) fun pieces known => ?_
  rw [cutLines_map, List.forall_mem_map]
  have passed := List.all_eq_true.mp checked pieces known
  exact fun line hline => sound line (List.all_eq_true.mp passed line hline)

end Templates

def entryPointLines : List String := [
  "if __name__ == \"__main__\":",
  "",
  "    root = logging.getLogger()",
  "    root.setLevel(logging.INFO)",
  "",
  "    handler = logging.StreamHandler(sys.stdout)",
  "    handler.setLevel(logging.DEBUG)",
  "    handler.setFormatter(logging.Formatter(\"%(asctime)s - %(name)s - %(levelname)s - %(message)s\"))",
  "    root.addHandler(handler)",
  "",
  "    warnings.filterwarnings(\"ignore\", \"Your application has authenticated using end user credentials\")",
  ""]

def wiringHeading : List String := [
  "",
  "    # Task dependencies",
  "    #",
  "    notify_start >> initialize >> notify_after_config",
  "    initialize >> notify_deactivated"]

inductive FixedText
  | prelude
  | helpers
  | telemetry
  | entryPoint
  | wiringHeading

namespace FixedText

def lines : FixedText → List String
  | prelude => preludeLines
  | helpers => helpersLines
  | telemetry => telemetryLines
  | entryPoint => entryPointLines
  | wiringHeading => Script.wiringHeading

set_option maxRecDepth 20000 in
def spelling (text : FixedText) : { letters : List (List Char) //
    List.Forall₂ (fun line cs => line = String.ofList cs) text.lines letters } := by
  cases text
  all_goals
    apply Subtype.mk
    repeat first
      | exact .nil
      | apply List.Forall₂.cons
      | exact rfl

def letters (text : FixedText) : List (List Char) := text.spelling.1

theorem toList_lines (text : FixedText) : text.lines.map String.toList = text.letters := by
  rw [← List.forall₂_eq_eq_eq, List.forall₂_map_left_iff]
  exact text.spelling.2.imp fun line cs same => by rw [same, String.toList_ofList]

theorem forall_line (text : FixedText) {property : List Char → Prop}
    (h : ∀ cs ∈ text.letters, property cs) : ∀ line ∈ text.lines, property line.toList := by
  rwa [← toList_lines, List.forall_mem_map] at h

end FixedText

end WorkflowCompiler.Script
