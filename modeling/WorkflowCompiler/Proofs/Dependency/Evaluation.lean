import Mathlib.Data.Set.Basic
import WorkflowCompiler.Proofs.Dependency.Mentioned

/-!
How the orchestration engine evaluates an expression. To the engine the text is a statement: its
operators group to the left, each gives its right side and adds the edges between all members of
both sides, and none is defined between two lists. A text with edges is read as one statement at
most, and evaluating it adds exactly these edges, unless an operator stands between two lists.
-/
namespace WorkflowCompiler.Workflow.Dependency

inductive Side
  | task (name : String)
  | list (names : List String)
  deriving DecidableEq

namespace Side

def members : Side → List String
  | task name => [name]
  | list names => names

def IsList : Side → Prop
  | task _ => False
  | list _ => True

/-- The tokens of a side. A list may be empty; if it is not, one comma may follow its last
member. -/
inductive Spelled : Side → List Token → Prop
  | task (name : String) : Spelled (.task name) [.id name]
  | list (names : List String) :
      Spelled (.list names) (.opening :: (commaSeparated names ++ [.closing]))
  | listWithComma {names : List String} : names ≠ [] →
      Spelled (.list names) (.opening :: (commaSeparated names ++ [.comma, .closing]))

end Side

structure Clash where
  left : List String
  right : List String

def Operator.between (left right : List String) : Operator → Set Edge
  | before => {edge | edge.1 ∈ left ∧ edge.2 ∈ right}
  | after => {edge | edge.1 ∈ right ∧ edge.2 ∈ left}

/-- What an operator adds; at least one side has to be a single task. -/
def Operator.add (o : Operator) : Side → Side → Except Clash (Set Edge)
  | .list left, .list right => .error ⟨left, right⟩
  | left, right => .ok (o.between left.members right.members)

/-- Statements of the engine. The left side of an operator is the statement before it. -/
inductive Statement
  | side (s : Side)
  | apply (left : Statement) (o : Operator) (right : Side)

namespace Statement

/-- The value of a statement and the edges that it adds. -/
def evaluate : Statement → Except Clash (Side × Set Edge)
  | side s => .ok (s, ∅)
  | apply left o right => do
    let (value, added) ← left.evaluate
    .ok (right, added ∪ (← o.add value right))

inductive Spelled : Statement → List Token → Prop
  | side {s : Side} {ts : List Token} : s.Spelled ts → Spelled (.side s) ts
  | apply {left : Statement} {o : Operator} {right : Side} {us vs : List Token} :
      Spelled left us → right.Spelled vs →
      Spelled (.apply left o right) (us ++ .operator o :: vs)

def last : Statement → Side
  | side s => s
  | apply _ _ right => right

/-- An operator has lists on both sides. -/
def Clashes : Statement → Prop
  | side _ => False
  | apply left _ right => left.Clashes ∨ left.last.IsList ∧ right.IsList

/-- The edges of all operators, also of those that are not defined. -/
def edges : Statement → Set Edge
  | side _ => ∅
  | apply left o right => left.edges ∪ o.between left.last.members right.members

end Statement

/-- What the engine makes of a text. There is nothing to evaluate in one without tokens. -/
inductive Runs (text : String) : Except Clash (Set Edge) → Prop
  | blank : Lexes text.toList [] → Runs text (.ok ∅)
  | statement {ts : List Token} {s : Statement} : Lexes text.toList ts → s.Spelled ts →
      Runs text (s.evaluate.map (·.2))

/-- An operator stands between a closing and an opening bracket. -/
def GroupsMeet (ts : List Token) : Prop :=
  ∃ o, [.closing, .operator o, .opening] <:+: ts

namespace Side

variable {s s' : Side} {ts : List Token}

theorem Spelled.ne_operator (h : s.Spelled ts) (o : Operator) : .operator o ∉ ts := by
  have within : ∀ names, Token.operator o ∉ commaSeparated names := by
    intro names hmem
    induction names with
    | nil => cases hmem
    | cons name names ih =>
      by_cases last : names = []
      · subst last
        cases List.mem_singleton.mp hmem
      · rw [commaSeparated_cons last] at hmem
        simp only [List.mem_cons, reduceCtorEq, false_or] at hmem
        exact ih hmem
  cases h with
  | task name => simp
  | list names => simp [within names]
  | listWithComma _ => simp [within]

theorem Spelled.names (h : s.Spelled ts) : Dependency.names ts = s.members := by
  cases h with
  | task name => rfl
  | list names =>
    change Dependency.names (commaSeparated names ++ _) = names
    rw [names_append, names_commaSeparated]
    exact List.append_nil names
  | @listWithComma names _ =>
    change Dependency.names (commaSeparated names ++ _) = names
    rw [names_append, names_commaSeparated]
    exact List.append_nil names

theorem Spelled.head_eq_opening_iff (h : s.Spelled ts) : ts.head? = some .opening ↔ s.IsList := by
  cases h <;> simp [IsList]

theorem Spelled.getLast_eq_closing_iff (h : s.Spelled ts) :
    ts.getLast? = some .closing ↔ s.IsList := by
  cases h <;> simp [IsList, List.getLast?_cons, List.getLast?_append]

theorem Spelled.ne_nil (h : s.Spelled ts) : ts ≠ [] := by
  cases h <;> simp

theorem Spelled.unique (h : s.Spelled ts) (h' : s'.Spelled ts) : s = s' := by
  have members : s.members = s'.members := h.names.symm.trans h'.names
  have kinds : s.IsList ↔ s'.IsList := h.head_eq_opening_iff.symm.trans h'.head_eq_opening_iff
  cases s with
  | task name =>
    cases s' with
    | task name' => exact congrArg Side.task (List.singleton_inj.mp members)
    | list names' => exact (kinds.mpr trivial).elim
  | list names =>
    cases s' with
    | task name' => exact (kinds.mp trivial).elim
    | list names' => exact congrArg Side.list members

/-- An operand of the grammar is a side of the engine. -/
theorem exists_spelled {ids : List String} (h : Operand ids ts) :
    ∃ s : Side, s.Spelled ts ∧ s.members = ids := by
  cases h with
  | single name => exact ⟨.task name, .task name, rfl⟩
  | group _ => exact ⟨.list ids, .list ids, rfl⟩
  | groupWithComma nonempty => exact ⟨.list ids, .listWithComma nonempty, rfl⟩

end Side

/-- An operator is defined unless both sides are lists. -/
theorem Operator.add_eq (o : Operator) (left right : Side) :
    (¬ (left.IsList ∧ right.IsList) →
      o.add left right = .ok (o.between left.members right.members)) ∧
    (left.IsList ∧ right.IsList → ∃ clash, o.add left right = .error clash) := by
  cases left with
  | task name => exact ⟨fun _ => rfl, fun h => h.1.elim⟩
  | list names =>
    cases right with
    | task name => exact ⟨fun _ => rfl, fun h => h.2.elim⟩
    | list others => exact ⟨fun h => absurd ⟨trivial, trivial⟩ h, fun _ => ⟨_, rfl⟩⟩

/-- Where an operator of a text with a last operator can stand. -/
theorem operator_of_append_eq {front back us vs : List Token} {o o' : Operator}
    (none : ∀ p, Token.operator p ∉ vs)
    (h : front ++ .operator o' :: back = us ++ .operator o :: vs) :
    (front = us ∧ o' = o ∧ back = vs) ∨ ∃ more, us = front ++ .operator o' :: more ∧
      back = more ++ .operator o :: vs := by
  rcases List.append_eq_append_iff.mp h with ⟨w, hus, hw⟩ | ⟨w, hfront, hw⟩
  · cases w with
    | nil =>
      cases hw
      exact .inl ⟨by simpa using hus.symm, rfl, rfl⟩
    | cons t w =>
      cases hw
      exact .inr ⟨w, hus, rfl⟩
  · cases w with
    | nil =>
      cases hw
      exact .inl ⟨by simpa using hfront, rfl, rfl⟩
    | cons t w =>
      cases hw
      exact absurd (List.mem_append_right w List.mem_cons_self) (none o')

namespace Statement

variable {s s' : Statement} {ts : List Token}

/-- A statement has one last operator, so its tokens tell how it has been put together. -/
theorem Spelled.unique (h : s.Spelled ts) (h' : s'.Spelled ts) : s = s' := by
  induction h generalizing s' with
  | side spelled =>
    cases h' with
    | side spelled' => rw [spelled.unique spelled']
    | @apply _ o => exact absurd (by simp) (spelled.ne_operator o)
  | @apply left o right us vs _ spelled ih =>
    generalize whole : us ++ Token.operator o :: vs = ts at h'
    cases h' with
    | side spelled' => exact absurd (by simp [← whole]) (spelled'.ne_operator o)
    | @apply _ o' _ _ _ leftSpelled' spelled' =>
      rcases operator_of_append_eq spelled'.ne_operator whole with ⟨rfl, rfl, rfl⟩ | ⟨more, _, rfl⟩
      · rw [ih leftSpelled', spelled.unique spelled']
      · exact absurd (by simp) (spelled.ne_operator o')

/-- The engine fails exactly where two lists clash. -/
theorem evaluate_eq (s : Statement) :
    (¬ s.Clashes → s.evaluate = .ok (s.last, s.edges)) ∧
      (s.Clashes → ∃ clash, s.evaluate = .error clash) := by
  induction s with
  | side s => exact ⟨fun _ => rfl, False.elim⟩
  | apply left o right ih =>
    obtain ⟨defined, undefined⟩ := ih
    by_cases before : left.Clashes
    · obtain ⟨clash, failed⟩ := undefined before
      have failed : (apply left o right).evaluate = .error clash := by
        simp only [evaluate, failed, bind, Except.bind]
      exact ⟨fun h => absurd (.inl before) h, fun _ => ⟨clash, failed⟩⟩
    · obtain ⟨added, clashed⟩ := o.add_eq left.last right
      rw [Clashes, or_iff_right before]
      simp only [evaluate, defined before, bind, Except.bind]
      refine ⟨fun h => ?_, fun h => ?_⟩
      · rw [added h]
        rfl
      · obtain ⟨clash, failed⟩ := clashed h
        exact ⟨clash, by rw [failed]⟩

theorem Spelled.ne_nil (h : s.Spelled ts) : ts ≠ [] := by
  cases h with
  | side spelled => exact spelled.ne_nil
  | apply _ _ => simp

theorem Spelled.getLast_eq_closing_iff (h : s.Spelled ts) :
    ts.getLast? = some .closing ↔ s.last.IsList := by
  cases h with
  | side spelled => exact spelled.getLast_eq_closing_iff
  | @apply left o right us vs _ spelled =>
    have ends : (us ++ .operator o :: vs).getLast? = vs.getLast? := by
      rw [List.append_cons, List.getLast?_append_of_ne_nil _ spelled.ne_nil]
    rw [ends, spelled.getLast_eq_closing_iff]
    rfl

/-- Lists clash where groups meet in the text. -/
theorem Spelled.clashes_iff (h : s.Spelled ts) : s.Clashes ↔ GroupsMeet ts := by
  induction h with
  | side spelled =>
    refine iff_of_false id fun ⟨o, infixed⟩ => spelled.ne_operator o ?_
    exact infixed.subset (by simp)
  | @apply left o right us vs leftSpelled spelled ih =>
    rw [Clashes, ih, ← leftSpelled.getLast_eq_closing_iff, ← spelled.head_eq_opening_iff]
    constructor
    · rintro (⟨p, infixed⟩ | ⟨closing, opening⟩)
      · exact ⟨p, infixed.trans (List.prefix_append us _).isInfix⟩
      · obtain ⟨front, rfl⟩ := List.getLast?_eq_some_iff.mp closing
        obtain ⟨back, rfl⟩ := List.head?_eq_some_iff.mp opening
        exact ⟨o, front, back, by simp⟩
    · rintro ⟨p, front, back, h⟩
      have whole : (front ++ [.closing]) ++ .operator p :: (.opening :: back) =
          us ++ .operator o :: vs := by simpa using h
      rcases operator_of_append_eq spelled.ne_operator whole with
        ⟨rfl, rfl, rfl⟩ | ⟨more, rfl, hback⟩
      · exact .inr (by simp)
      · cases more with
        | nil => cases hback
        | cons t more =>
          cases hback
          exact .inl ⟨p, front, more, by simp⟩

/-- The operators of a chain go on with any statement that ends with its left operand. -/
theorem exists_spelled_of_links {rest : List (Operator × List String)} {us vs : List Token}
    (links : Links rest vs) (h : s.Spelled us) : ∃ whole : Statement, whole.Spelled (us ++ vs) ∧
      ∀ edge, edge ∈ whole.edges ↔ edge ∈ s.edges ∨ edge ∈ edgesFrom s.last.members rest := by
  induction links generalizing s us with
  | nil => exact ⟨s, by simpa using h, fun edge => by simp [edgesFrom]⟩
  | @cons o ids rest ws vs operand _ ih =>
    obtain ⟨right, spelled, rfl⟩ := Side.exists_spelled operand
    obtain ⟨whole, hwhole, hedges⟩ := ih (h.apply spelled)
    refine ⟨whole, by simpa using hwhole, fun edge => ?_⟩
    have added : edge ∈ o.between s.last.members right.members ↔
        edge ∈ o.edges s.last.members right.members := by
      obtain ⟨a, b⟩ := edge
      cases o <;> simp [Operator.between, Operator.edges, and_comm]
    rw [hedges, edges, edgesFrom, Set.mem_union, List.mem_append, added, or_assoc]
    rfl

/-- A chain is read as a statement with the same edges. -/
theorem exists_spelled {c : Chain} (h : Written c ts) :
    ∃ s : Statement, s.Spelled ts ∧ ∀ edge, edge ∈ s.edges ↔ edge ∈ c.products := by
  obtain ⟨operand, links⟩ := h
  obtain ⟨first, spelled, rfl⟩ := Side.exists_spelled operand
  obtain ⟨s, hs, hedges⟩ := exists_spelled_of_links links (.side spelled)
  refine ⟨s, hs, fun edge => ?_⟩
  rw [hedges, ← edgesFrom_eq, edges, Set.mem_empty_iff_false, false_or]
  rfl

end Statement

theorem Runs.unique {text : String} {x y : Except Clash (Set Edge)} (h : Runs text x)
    (h' : Runs text y) : x = y := by
  cases h with
  | blank lexes =>
    cases h' with
    | blank _ => rfl
    | statement lexes' spelled =>
      exact absurd (lexes'.unique lexes) spelled.ne_nil
  | statement lexes spelled =>
    cases h' with
    | blank lexes' => exact absurd (lexes.unique lexes') spelled.ne_nil
    | statement lexes' spelled' =>
      obtain rfl := lexes.unique lexes'
      rw [spelled.unique spelled']

/-- What an expression with edges is to the engine: nothing at all, or a statement with the same
edges. -/
theorem exists_reading {expression : String} {es : List Edge} (h : Denotes expression es) :
    (Lexes expression.toList [] ∧ es = []) ∨ ∃ ts, ∃ s : Statement,
      Lexes expression.toList ts ∧ s.Spelled ts ∧ s.edges = {edge | edge ∈ es} := by
  obtain ⟨ts, lexes, ⟨rfl, rfl⟩ | ⟨c, written, rfl⟩⟩ := h
  · exact .inl ⟨lexes, rfl⟩
  · obtain ⟨s, spelled, same⟩ := Statement.exists_spelled written
    exact .inr ⟨ts, s, lexes, spelled, Set.ext same⟩

/-- Wherever no operator of an accepted expression stands between two groups, evaluating its text
succeeds and adds exactly its edges, each in its direction; wherever one does, evaluating the text
fails. -/
theorem evaluation_adds_exactly_edges {expression : String} {es : List Edge}
    (accepted : edges expression = .ok es) :
    ∃ ts, Lexes expression.toList ts ∧
      (¬ GroupsMeet ts → ∀ outcome, Runs expression outcome ↔ outcome = .ok {edge | edge ∈ es}) ∧
      (GroupsMeet ts → ∃ clash, ∀ outcome, Runs expression outcome ↔ outcome = .error clash) := by
  have only : ∀ {x : Except Clash (Set Edge)}, Runs expression x →
      ∀ outcome, Runs expression outcome ↔ outcome = x :=
    fun h outcome => ⟨fun h' => h'.unique h, fun same => same ▸ h⟩
  rcases exists_reading (edges_eq_ok_iff.mp accepted) with
    ⟨blank, rfl⟩ | ⟨ts, s, lexes, spelled, same⟩
  · refine ⟨[], blank, fun _ => ?_, fun ⟨o, infixed⟩ => by simp at infixed⟩
    simpa using only (.blank blank)
  · obtain ⟨defined, undefined⟩ := s.evaluate_eq
    have run := Runs.statement lexes spelled
    refine ⟨ts, lexes, fun apart => only ?_, fun meet => ?_⟩
    · rwa [defined (mt spelled.clashes_iff.mp apart), same] at run
    · obtain ⟨clash, failed⟩ := undefined (spelled.clashes_iff.mpr meet)
      rw [failed] at run
      exact ⟨clash, only run⟩

/-- A chain in both directions, with groups between single tasks and a comma before a bracket. -/
theorem evaluation_adds_exactly_edges_chain :
    edges "ab >> [cd, ef,] << gh" =
      .ok [("ab", "cd"), ("ab", "ef"), ("gh", "cd"), ("gh", "ef")] ∧
    ∀ outcome, Runs "ab >> [cd, ef,] << gh" outcome ↔
      outcome = .ok {edge | edge ∈ [("ab", "cd"), ("ab", "ef"), ("gh", "cd"), ("gh", "ef")]} := by
  have accepted : edges "ab >> [cd, ef,] << gh" =
      .ok [("ab", "cd"), ("ab", "ef"), ("gh", "cd"), ("gh", "ef")] := by cbv
  obtain ⟨ts, lexes, apart, _⟩ := evaluation_adds_exactly_edges accepted
  have read : tokens "ab >> [cd, ef,] << gh".toList = .ok [.id "ab", .operator .before, .opening,
      .id "cd", .comma, .id "ef", .comma, .closing, .operator .after, .id "gh"] := by cbv
  obtain rfl := lexes.unique (lexes_of_tokens read)
  refine ⟨accepted, apart ?_⟩
  rintro ⟨o, infixed⟩
  cases o <;> exact absurd infixed (by decide)

/-- Two groups beside an operator: accepted with an edge for each pair, and the engine fails. -/
theorem evaluation_of_groups_fails :
    edges "[ab, cd] >> [ef]" = .ok [("ab", "ef"), ("cd", "ef")] ∧
    Runs "[ab, cd] >> [ef]" (.error ⟨["ab", "cd"], ["ef"]⟩) ∧
    ¬ Runs "[ab, cd] >> [ef]" (.ok {edge | edge ∈ [("ab", "ef"), ("cd", "ef")]}) := by
  have read : tokens "[ab, cd] >> [ef]".toList = .ok ([.opening, .id "ab", .comma, .id "cd",
      .closing] ++ .operator .before :: [.opening, .id "ef", .closing]) := by cbv
  have failed : Runs "[ab, cd] >> [ef]" (.error ⟨["ab", "cd"], ["ef"]⟩) :=
    .statement (lexes_of_tokens read)
      (.apply (.side (.list ["ab", "cd"])) (.list ["ef"]))
  refine ⟨by cbv, failed, fun succeeded => ?_⟩
  cases failed.unique succeeded

end WorkflowCompiler.Workflow.Dependency
