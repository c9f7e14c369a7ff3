import Mathlib.Logic.Relation
import WorkflowCompiler.Proofs.Dependency.Graph

/-!
Dealing out the same edges to other expressions. A chain can be cut at an operand or dealt out by
the members of one; expressions can change places and be said again. Each such step, and so any
number of them in either direction, leaves alone whether all expressions stand for edges and which
edges these are together.
-/
namespace WorkflowCompiler.Workflow.Dependency

/-- A chain taken in two parts: cut at an operand, which both parts keep, or with the members of
one operand dealt out to them. -/
inductive Chain.Parts : Chain → Chain → Chain → Prop
  | cut (first mid : List String) (o : Operator) (front back : List (Operator × List String)) :
      Parts ⟨first, front ++ (o, mid) :: back⟩ ⟨first, front ++ [(o, mid)]⟩ ⟨mid, back⟩
  | dealFirst (one others : List String) (rest : List (Operator × List String)) :
      Parts ⟨one ++ others, rest⟩ ⟨one, rest⟩ ⟨others, rest⟩
  | dealLater (first one others : List String) (o : Operator)
      (front back : List (Operator × List String)) :
      Parts ⟨first, front ++ (o, one ++ others) :: back⟩
        ⟨first, front ++ (o, one) :: back⟩ ⟨first, front ++ (o, others) :: back⟩

/-- A step to expressions that say the same: in another order, with one of them said again, or
with the first said in two parts. -/
inductive Regroups : List String → List String → Prop
  | permuted {xs ys : List String} : xs.Perm ys → Regroups xs ys
  | repeated {x : String} {xs : List String} : x ∈ xs → Regroups xs (x :: xs)
  | parted {x y z : String} {xs : List String} {c d d' : Chain} :
      parse x = .ok (some c) → parse y = .ok (some d) → parse z = .ok (some d') →
      c.Parts d d' → Regroups (x :: xs) (y :: z :: xs)

/-- Every expression stands for edges. -/
def Accepted (expressions : List String) : Prop :=
  ∀ expression ∈ expressions, ∃ es, edges expression = .ok es

/-- Either all of both stand for edges or not, and together for the same. -/
structure SaysTheSame (xs ys : List String) : Prop where
  accepted : Accepted xs ↔ Accepted ys
  dependsOn : ∀ a b, DependsOn xs a b ↔ DependsOn ys a b

variable {x a b : String} {xs ys zs left right others : List String} {e : Edge} {es : List Edge}
  {o : Operator} {rest : List (Operator × List String)} {c d d' : Chain}

theorem edgesFrom_append (o : Operator) (first mid : List String)
    (front back : List (Operator × List String)) :
    edgesFrom first (front ++ (o, mid) :: back) =
      edgesFrom first (front ++ [(o, mid)]) ++ edgesFrom mid back := by
  induction front generalizing first with
  | nil => simp [edgesFrom]
  | cons link front ih => simp [edgesFrom, ih]

theorem Operator.mem_edges_append_right :
    e ∈ o.edges left (right ++ others) ↔ e ∈ o.edges left right ∨ e ∈ o.edges left others := by
  simp only [Operator.edges, List.mem_flatMap, List.map_append, List.mem_append, and_or_left,
    exists_or]

theorem mem_edgesFrom_append_left : e ∈ edgesFrom (left ++ others) rest ↔
    e ∈ edgesFrom left rest ∨ e ∈ edgesFrom others rest := by
  cases rest with
  | nil => simp [edgesFrom]
  | cons link rest =>
    simp only [edgesFrom, Operator.edges, List.flatMap_append, List.mem_append]
    exact or_or_distrib_right

/-- The edges of a chain are those of its parts. -/
theorem Chain.Parts.mem_edges (h : c.Parts d d') : e ∈ c.edges ↔ e ∈ d.edges ∨ e ∈ d'.edges := by
  cases h with
  | cut first mid o front back =>
    rw [Chain.edges, edgesFrom_append, List.mem_append]
    rfl
  | dealFirst one others rest => exact mem_edgesFrom_append_left
  | dealLater first one others o front back =>
    simp only [Chain.edges]
    induction front generalizing first with
    | nil =>
      simp only [List.nil_append, edgesFrom, List.mem_append, Operator.mem_edges_append_right,
        mem_edgesFrom_append_left]
      exact or_or_or_comm
    | cons link front ih =>
      simp only [List.cons_append, edgesFrom, List.mem_append, ih]
      exact or_or_distrib_left

theorem denotes_of_parse (h : parse x = .ok (some c)) : Denotes x c.edges := by
  obtain ⟨ts, lexes, written⟩ := parse_eq_some_iff.mp h
  exact ⟨ts, lexes, .inr ⟨c, written, c.edges_eq_products⟩⟩

theorem accepted_cons (h : Denotes x es) : Accepted (x :: xs) ↔ Accepted xs := by
  rw [Accepted, List.forall_mem_cons]
  exact and_iff_right ⟨es, edges_eq_ok_iff.mpr h⟩

theorem dependsOn_cons (h : Denotes x es) :
    DependsOn (x :: xs) a b ↔ (a, b) ∈ es ∨ DependsOn xs a b := by
  have own : (∃ fs, Denotes x fs ∧ (a, b) ∈ fs) ↔ (a, b) ∈ es :=
    ⟨fun ⟨_, h', edge⟩ => h'.unique h ▸ edge, fun edge => ⟨es, h, edge⟩⟩
  simp only [DependsOn, List.mem_cons, or_and_right, exists_or, exists_eq_left, own]

theorem SaysTheSame.refl (xs : List String) : SaysTheSame xs xs :=
  ⟨Iff.rfl, fun _ _ => Iff.rfl⟩

theorem SaysTheSame.symm (h : SaysTheSame xs ys) : SaysTheSame ys xs :=
  ⟨h.accepted.symm, fun a b => (h.dependsOn a b).symm⟩

theorem SaysTheSame.trans (h : SaysTheSame xs ys) (h' : SaysTheSame ys zs) : SaysTheSame xs zs :=
  ⟨h.accepted.trans h'.accepted, fun a b => (h.dependsOn a b).trans (h'.dependsOn a b)⟩

/-- Only which expressions there are matters, not their order and number. -/
theorem saysTheSame_of_mem_iff (h : ∀ x, x ∈ xs ↔ x ∈ ys) : SaysTheSame xs ys where
  accepted := by simp only [Accepted, h]
  dependsOn := by simp only [DependsOn, h, implies_true]

theorem Regroups.saysTheSame (h : Regroups xs ys) : SaysTheSame xs ys := by
  cases h with
  | permuted order => exact saysTheSame_of_mem_iff fun x => order.mem_iff
  | repeated again =>
    refine saysTheSame_of_mem_iff fun x => ?_
    rw [List.mem_cons]
    exact (or_iff_right_of_imp fun same => same ▸ again).symm
  | parted whole one two parts =>
    have whole := denotes_of_parse whole
    have one := denotes_of_parse one
    have two := denotes_of_parse two
    refine ⟨?_, fun a b => ?_⟩
    · rw [accepted_cons whole, accepted_cons one, accepted_cons two]
    · rw [dependsOn_cons whole, dependsOn_cons one, dependsOn_cons two, parts.mem_edges, or_assoc]

/-- However often expressions are regrouped, in one direction or the other. -/
theorem saysTheSame_of_regrouped (h : Relation.EqvGen Regroups xs ys) : SaysTheSame xs ys := by
  induction h with
  | rel xs ys step => exact step.saysTheSame
  | refl xs => exact .refl xs
  | symm xs ys _ ih => exact ih.symm
  | trans xs ys zs _ _ ih ih' => exact ih.trans ih'

end WorkflowCompiler.Workflow.Dependency
