import Mathlib.Algebra.GroupWithZero.Nat
import WorkflowCompiler.Proofs.Json.Printable
import WorkflowCompiler.Proofs.Success
import WorkflowCompiler.Proofs.Text.Blank
import WorkflowCompiler.Script.Template

/-!
The lines of a rendered template. Its fixed texts break lines at their ends only, so the holes
between two line feeds make up one line, whatever they are filled with. Quoted and literal holes
are printable by themselves; of the raw ones it has to be known that they do not break the line.
-/
namespace WorkflowCompiler.Script

open Json (Value Members)

/-- A text that consists of whole lines, none of which holds a line break. -/
structure Lined (cs : List Char) (lines : List (List Char)) : Prop where
  text : cs = lines.flatMap (· ++ ['\n'])
  unbroken : ∀ line ∈ lines, Unbroken line

namespace Lined

variable {cs ds : List Char} {lines others : List (List Char)}

theorem nil : Lined [] [] := ⟨rfl, List.forall_mem_nil _⟩

theorem append (h : Lined cs lines) (h' : Lined ds others) : Lined (cs ++ ds) (lines ++ others) where
  text := by rw [h.text, h'.text, List.flatMap_append]
  unbroken := List.forall_mem_append.mpr ⟨h.unbroken, h'.unbroken⟩

theorem cons {line : List Char} (whole : Unbroken line) (h : Lined cs lines) :
    Lined (line ++ '\n' :: cs) (line :: lines) where
  text := by
    rw [List.flatMap_cons, ← h.text, List.append_assoc]
    rfl
  unbroken := List.forall_mem_cons.mpr ⟨whole, h.unbroken⟩

/-- What is put before the first line belongs to it. -/
theorem prepend {line : List Char} (whole : Unbroken cs) (h : Lined ds (line :: lines)) :
    Lined (cs ++ ds) ((cs ++ line) :: lines) where
  text := by
    rw [h.text]
    simp only [List.flatMap_cons, List.append_assoc]
  unbroken := by
    obtain ⟨first, rest⟩ := List.forall_mem_cons.mp h.unbroken
    exact List.forall_mem_cons.mpr ⟨unbroken_append.mpr ⟨whole, first⟩, rest⟩

theorem flatten {texts : List (List Char)} {pieces : List (List (List Char))}
    (h : List.Forall₂ Lined texts pieces) : Lined texts.flatten pieces.flatten := by
  induction h with
  | nil => exact .nil
  | cons first _ ih => exact first.append ih

theorem count_lineFeeds (h : Lined cs lines) : cs.count '\n' = lines.length := by
  rw [h.text]
  have whole := h.unbroken
  clear h
  induction lines with
  | nil => rfl
  | cons line lines ih =>
    obtain ⟨first, rest⟩ := List.forall_mem_cons.mp whole
    rw [List.flatMap_cons, List.count_append, List.count_append, ih rest,
      List.count_eq_zero.mpr first.1, List.length_cons, List.count_singleton_self]
    omega

theorem not_mem_carriageReturn (h : Lined cs lines) : '\r' ∉ cs := by
  rw [h.text, List.mem_flatMap]
  rintro ⟨line, hline, hr⟩
  rcases List.mem_append.mp hr with hr | hr
  · exact (h.unbroken line hline).2 hr
  · exact absurd hr (by decide)

/-- Splitting at line feeds gives the lines back, and then the pieces of what follows them. -/
theorem splitAtEach_append (h : Lined cs lines) (ds : List Char) :
    Text.splitAtEach (· == '\n') (cs ++ ds) = lines ++ Text.splitAtEach (· == '\n') ds := by
  rw [h.text]
  have whole := h.unbroken
  clear h
  induction lines with
  | nil => rfl
  | cons line lines ih =>
    obtain ⟨first, rest⟩ := List.forall_mem_cons.mp whole
    rw [List.flatMap_cons, List.append_assoc, List.append_assoc, List.singleton_append,
      Text.splitAtEach_append_cons first.ne_lineFeed rfl, ih rest, List.cons_append]

/-- There is nothing after the last line. -/
theorem splitAtEach (h : Lined cs lines) :
    Text.splitAtEach (· == '\n') cs = lines ++ [[]] := by
  have pieces := h.splitAtEach_append []
  rwa [List.append_nil] at pieces

theorem unique (h : Lined cs lines) (h' : Lined cs others) : lines = others :=
  List.append_cancel_right (h.splitAtEach.symm.trans h'.splitAtEach)

end Lined

/-- What a fixed text that ends a line has before the line feed. -/
def Hole.ending? : Hole → Option (List Char)
  | .text s => if s.toList.getLast? = some '\n' then some s.toList.dropLast else none
  | _ => none

/-- The holes of each line, with the line feed taken off the last of them. -/
def cutLines : List Hole → List (List Hole)
  | [] => []
  | hole :: rest =>
    match hole.ending? with
    | some last => [.text (String.ofList last)] :: cutLines rest
    | none => match cutLines rest with
      | [] => [[hole]]
      | line :: lines => (hole :: line) :: lines

/-- Fixed texts break lines at their ends only, and the last one does. -/
inductive Tidy : List Hole → Prop
  | nil : Tidy []
  | feed {cs : List Char} {rest : List Hole} : cs.getLast? = some '\n' → Unbroken cs.dropLast →
      Tidy rest → Tidy (.text (String.ofList cs) :: rest)
  | text {cs : List Char} {next : Hole} {rest : List Hole} : Unbroken cs → Tidy (next :: rest) →
      Tidy (.text (String.ofList cs) :: next :: rest)
  | raw {name : String} {next : Hole} {rest : List Hole} : Tidy (next :: rest) →
      Tidy (.raw name :: next :: rest)
  | quoted {name : String} {next : Hole} {rest : List Hole} : Tidy (next :: rest) →
      Tidy (.quoted name :: next :: rest)
  | literal {name : String} {next : Hole} {rest : List Hole} : Tidy (next :: rest) →
      Tidy (.literal name :: next :: rest)

theorem Tidy.tail {hole : Hole} {rest : List Hole} (h : Tidy (hole :: rest)) : Tidy rest := by
  cases h with
  | feed _ _ rest => exact rest
  | text _ rest => exact rest
  | raw rest => exact rest
  | quoted rest => exact rest
  | literal rest => exact rest

def RawsUnbroken (values : Members) (body : List Hole) : Prop :=
  ∀ name v, .raw name ∈ body → values.get? name = some v → Unbroken (shown v)

theorem lookUp_eq_ok_iff {values : Members} {name : String} {v : Value} :
    lookUp values name = .ok v ↔ values.get? name = some v := by
  rw [lookUp]
  split
  · next found => rw [found, Except.ok.injEq, Option.some.injEq]
  · next absent => simp [absent]

theorem python_printable : python.Printable where
  null := by decide
  yes := by decide
  no := by decide
  comma := by decide
  colon := by decide
  text := Json.allPrintable_writeText

section Bodies

variable {values : Members} {hole : Hole} {body : List Hole} {cs : List Char}

theorem fillAll_nil : fillAll values [] = .ok [] := rfl

theorem fillAll_cons_eq_ok_iff : fillAll values (hole :: body) = .ok cs ↔
    ∃ a b, hole.fill values = .ok a ∧ fillAll values body = .ok b ∧ cs = a ++ b := by
  simp only [fillAll, bind_eq_ok_iff, List.mapM_cons, Except.ok.injEq]
  constructor
  · rintro ⟨_, ⟨a, ha, filled, hfilled, rest⟩, rfl⟩
    cases rest
    exact ⟨a, filled.flatten, ha, ⟨filled, hfilled, rfl⟩, rfl⟩
  · rintro ⟨a, _, ha, ⟨filled, hfilled, rfl⟩, rfl⟩
    exact ⟨a :: filled, ⟨a, ha, filled, hfilled, rfl⟩, rfl⟩

theorem cutLines_ne_nil (hole : Hole) (body : List Hole) : cutLines (hole :: body) ≠ [] := by
  rw [cutLines]
  split
  · exact List.cons_ne_nil _ _
  · split <;> exact List.cons_ne_nil _ _

/-- A hole that does not end a line stays inside the line that follows. -/
theorem lined_cons {next : Hole} {a b : List Char} (inside : hole.ending? = none)
    (filled : hole.fill values = .ok a) (whole : Unbroken a)
    (h : ∃ lines, List.Forall₂ (fun line l => fillAll values line = .ok l)
      (cutLines (next :: body)) lines ∧ Lined b lines) :
    ∃ lines, List.Forall₂ (fun line l => fillAll values line = .ok l)
      (cutLines (hole :: next :: body)) lines ∧ Lined (a ++ b) lines := by
  obtain ⟨lines, later, lined⟩ := h
  rw [cutLines, inside]
  cases cut : cutLines (next :: body) with
  | nil => exact absurd cut (cutLines_ne_nil next body)
  | cons line others =>
    rw [cut] at later
    obtain ⟨l, ls, hl, hls, rfl⟩ := List.forall₂_cons_left_iff.mp later
    exact ⟨(a ++ l) :: ls, .cons (fillAll_cons_eq_ok_iff.mpr ⟨a, l, filled, hl, rfl⟩) hls,
      lined.prepend whole⟩

theorem RawsUnbroken.tail (safe : RawsUnbroken values (hole :: body)) : RawsUnbroken values body :=
  fun name v hname => safe name v (List.mem_cons_of_mem _ hname)

/-- What a body is filled to consists of the lines that its holes were cut into. -/
theorem fillAll_lined (h : Tidy body) (safe : RawsUnbroken values body)
    (filled : fillAll values body = .ok cs) :
    ∃ lines, (cutLines body).mapM (fillAll values) = .ok lines ∧ Lined cs lines := by
  simp only [mapM_eq_ok_iff]
  induction h generalizing cs with
  | nil =>
    cases filled
    exact ⟨[], .nil, .nil⟩
  | @feed fixed rest ends whole _ ih =>
    obtain ⟨a, b, ha, hb, rfl⟩ := fillAll_cons_eq_ok_iff.mp filled
    cases ha
    obtain ⟨lines, later, lined⟩ := ih safe.tail hb
    have ending : (Hole.text (String.ofList fixed)).ending? = some fixed.dropLast := by
      rw [Hole.ending?, String.toList_ofList, if_pos ends]
    have here : fillAll values [.text (String.ofList fixed.dropLast)] = .ok fixed.dropLast :=
      fillAll_cons_eq_ok_iff.mpr ⟨_, [], rfl, rfl, by rw [String.toList_ofList, List.append_nil]⟩
    rw [cutLines, ending]
    refine ⟨fixed.dropLast :: lines, .cons here later, ?_⟩
    rw [String.toList_ofList, ← List.dropLast_append_getLast? '\n' ends, List.append_assoc,
      List.dropLast_concat]
    exact lined.cons whole
  | @text fixed next rest whole _ ih =>
    obtain ⟨a, b, ha, hb, rfl⟩ := fillAll_cons_eq_ok_iff.mp filled
    cases ha
    have inside : (Hole.text (String.ofList fixed)).ending? = none := by
      rw [Hole.ending?, String.toList_ofList, if_neg]
      exact fun ends => whole.1 (List.mem_of_getLast? ends)
    exact lined_cons inside rfl (by rwa [String.toList_ofList]) (ih safe.tail hb)
  | @raw name next rest _ ih =>
    obtain ⟨a, b, ha, hb, rfl⟩ := fillAll_cons_eq_ok_iff.mp filled
    obtain ⟨v, found, shown⟩ := bind_eq_ok_iff.mp ha
    cases shown
    exact lined_cons rfl ha (safe name v List.mem_cons_self (lookUp_eq_ok_iff.mp found))
      (ih safe.tail hb)
  | @quoted name next rest _ ih =>
    obtain ⟨a, b, ha, hb, rfl⟩ := fillAll_cons_eq_ok_iff.mp filled
    obtain ⟨v, _, quoted⟩ := bind_eq_ok_iff.mp ha
    cases quoted
    exact lined_cons rfl ha ((Json.allPrintable_writeText _).unbroken)
      (ih safe.tail hb)
  | @literal name next rest _ ih =>
    obtain ⟨a, b, ha, hb, rfl⟩ := fillAll_cons_eq_ok_iff.mp filled
    obtain ⟨v, _, written⟩ := bind_eq_ok_iff.mp ha
    cases written
    exact lined_cons rfl ha ((python_printable.write v).unbroken) (ih safe.tail hb)

end Bodies

def Part.lines (values : Members) : Part → Except String (List (List Char))
  | .holes body => (cutLines body).mapM (fillAll values)
  | .whenSet name body => do
    if isSet (← lookUp values name) then (cutLines body).mapM (fillAll values) else .ok []
  | .each item list body => do
    match itemsOf? (← lookUp values list) with
    | some items =>
      .ok (← items.mapM fun v => (cutLines body).mapM (fillAll ((item, v) :: values))).flatten
    | none => .error (list ++ " is no list")

def Template.lines (t : Template) (values : Members) : Except String (List (List Char)) := do
  .ok (← t.parts.mapM (·.lines values)).flatten

def Part.height (values : Members) : Part → Nat
  | .holes body => (cutLines body).length
  | .whenSet name body => if (values.get? name).any isSet then (cutLines body).length else 0
  | .each _ list body =>
    (((values.get? list).bind itemsOf?).getD []).length * (cutLines body).length

def Template.height (t : Template) (values : Members) : Nat :=
  (t.parts.map (·.height values)).sum

def Part.body : Part → List Hole
  | .holes body => body
  | .whenSet _ body => body
  | .each _ _ body => body

/-- No raw hole of a part breaks a line; those of a loop have the item's name besides. -/
def Part.RawsUnbroken (values : Members) : Part → Prop
  | .holes body => Script.RawsUnbroken values body
  | .whenSet _ body => Script.RawsUnbroken values body
  | .each item list body => ∀ items, (values.get? list).bind itemsOf? = some items →
      ∀ v ∈ items, Script.RawsUnbroken ((item, v) :: values) body

section Parts

variable {values : Members} {part : Part} {cs : List Char} {lines : List (List Char)}

theorem Part.fill_lined (fixed : Tidy part.body) (safe : part.RawsUnbroken values)
    (h : part.fill values = .ok cs) :
    ∃ lines, part.lines values = .ok lines ∧ Lined cs lines := by
  cases part with
  | holes body => exact fillAll_lined fixed safe h
  | whenSet name body =>
    obtain ⟨v, found, h⟩ := bind_eq_ok_iff.mp h
    simp only [Part.lines, found, bind, Except.bind]
    split at h
    · next set =>
      rw [if_pos set]
      exact fillAll_lined fixed safe h
    · next unset =>
      cases h
      exact ⟨[], if_neg unset, .nil⟩
  | each item list body =>
    obtain ⟨v, found, h⟩ := bind_eq_ok_iff.mp h
    cases known : itemsOf? v with
    | none =>
      rw [known] at h
      cases h
    | some items =>
      rw [known] at h
      obtain ⟨texts, filled, h⟩ := bind_eq_ok_iff.mp h
      cases h
      have safeItem : ∀ v ∈ items, Script.RawsUnbroken ((item, v) :: values) body := by
        refine safe items ?_
        rw [lookUp_eq_ok_iff.mp found]
        exact known
      obtain ⟨pieces, cut, lined⟩ := exists_forall₂_of_forall₂ (mapM_eq_ok_iff.mp filled)
        fun v hv cs hcs => fillAll_lined fixed (safeItem v hv) hcs
      have all : items.mapM (fun v => (cutLines body).mapM (fillAll ((item, v) :: values))) =
        .ok pieces := mapM_eq_ok_iff.mpr cut
      refine ⟨pieces.flatten, bind_eq_ok_iff.mpr ⟨v, found, ?_⟩, .flatten lined⟩
      rw [known]
      exact bind_eq_ok_iff.mpr ⟨pieces, all, rfl⟩

/-- Pieces of one length, one for each item. -/
theorem length_flatten_of_forall₂ {α β : Type} {related : α → List β → Prop} {n : Nat}
    {items : List α} {pieces : List (List β)} (h : List.Forall₂ related items pieces)
    (each : ∀ item piece, related item piece → piece.length = n) :
    pieces.flatten.length = items.length * n := by
  induction h with
  | nil => simp
  | cons first _ ih =>
    rw [List.flatten_cons, List.length_append, ih, each _ _ first, List.length_cons,
      Nat.succ_mul, Nat.add_comm]

theorem Part.length_lines (h : part.lines values = .ok lines) :
    lines.length = part.height values := by
  cases part with
  | holes body => exact (mapM_eq_ok_iff.mp h).length_eq.symm
  | whenSet name body =>
    obtain ⟨v, found, h⟩ := bind_eq_ok_iff.mp h
    rw [Part.height, lookUp_eq_ok_iff.mp found, Option.any_some]
    split at h
    · next set =>
      rw [if_pos set]
      exact (mapM_eq_ok_iff.mp h).length_eq.symm
    · next unset =>
      cases h
      exact (if_neg unset).symm
  | each item list body =>
    obtain ⟨v, found, h⟩ := bind_eq_ok_iff.mp h
    rw [Part.height, lookUp_eq_ok_iff.mp found, Option.bind_some]
    split at h
    · next items known =>
      obtain ⟨filled, hfilled, h⟩ := bind_eq_ok_iff.mp h
      cases h
      rw [known, Option.getD_some]
      exact length_flatten_of_forall₂ (mapM_eq_ok_iff.mp hfilled)
        fun v ls hls => (mapM_eq_ok_iff.mp hls).length_eq.symm
    · cases h

end Parts

section Templates

variable {t : Template} {values : Members} {s : String} {lines : List (List Char)}

theorem Template.render_eq_ok_iff : t.render values = .ok s ↔
    ∃ texts, t.parts.mapM (·.fill values) = .ok texts ∧ s = String.ofList texts.flatten := by
  rw [Template.render]
  cases t.parts.mapM (·.fill values) with
  | ok texts => simp [eq_comm]
  | error detail => simp

/-- What a template is rendered to consists of its lines. -/
theorem Template.render_lined (fixed : ∀ part ∈ t.parts, Tidy part.body)
    (safe : ∀ part ∈ t.parts, part.RawsUnbroken values) (h : t.render values = .ok s) :
    ∃ lines, t.lines values = .ok lines ∧ Lined s.toList lines := by
  obtain ⟨texts, filled, rfl⟩ := Template.render_eq_ok_iff.mp h
  obtain ⟨pieces, cut, lined⟩ := exists_forall₂_of_forall₂ (mapM_eq_ok_iff.mp filled)
    fun part hpart cs hcs => Part.fill_lined (fixed part hpart) (safe part hpart) hcs
  refine ⟨pieces.flatten, ?_, ?_⟩
  · rw [Template.lines, mapM_eq_ok_iff.mpr cut]
    rfl
  · rw [String.toList_ofList]
    exact .flatten lined

theorem Template.length_lines (h : t.lines values = .ok lines) :
    lines.length = t.height values := by
  obtain ⟨pieces, cut, h⟩ := bind_eq_ok_iff.mp h
  cases h
  rw [Template.height]
  replace cut := mapM_eq_ok_iff.mp cut
  generalize t.parts = parts at cut ⊢
  clear h
  induction cut with
  | nil => rfl
  | cons first _ ih =>
    rw [List.flatten_cons, List.length_append, ih, List.map_cons, List.sum_cons,
      Part.length_lines first]

end Templates

end WorkflowCompiler.Script
