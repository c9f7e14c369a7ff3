import Mathlib.Data.List.Chain
import Mathlib.Data.List.Perm.Subperm
import Mathlib.Logic.Relation
import WorkflowCompiler.Proofs.Dependency.Graph
import WorkflowCompiler.Proofs.Dependency.Mentioned
import WorkflowCompiler.Proofs.Text.Separator

/-!
The search for a cycle. The path of a visit is always a walk without repetitions, so a target on
it closes a cycle without further repetitions. A visited node that is no longer on the path is
safe: no endless walk starts from it, since all its targets were found to be safe before it was
left. The search therefore ends without a cycle exactly if there is none.
-/
namespace WorkflowCompiler.Workflow.Dependency

/-- A walk from a node back to itself that meets no node twice in between. -/
def IsSimpleCycle (linked : String → String → Prop) (path : List String) : Prop :=
  ∃ start inner, path = start :: inner ++ [start] ∧ (start :: inner).Nodup ∧
    path.IsChain linked

namespace Graph

/-- An edge leads from one node to the other. -/
def Linked (g : Graph) (a b : String) : Prop := (a, b) ∈ g.edges

/-- Every walk that starts here ends. -/
def Safe (g : Graph) (id : String) : Prop := Acc (fun b a => g.Linked a b) id

def Explored (g : Graph) (path visited : List String) : Prop :=
  ∀ v ∈ visited, v ∈ path ∨ g.Safe v

/-- The nodes of a path and the one after them make a walk through the graph without
repetitions. -/
structure Leads (g : Graph) (path : List String) (id : String) : Prop where
  walk : (path ++ [id]).IsChain g.Linked
  distinct : (path ++ [id]).Nodup
  within : ∀ v ∈ path ++ [id], v ∈ g.ids

/-- What an outcome says after some nodes have been searched from. -/
def Outcome.Holds (g : Graph) (path through : List String) : Outcome → Prop
  | .cycle found => IsSimpleCycle g.Linked found
  | .clear visited => (∀ v ∈ through, g.Safe v) ∧ g.Explored path visited

theorem Safe.not_transGen {g : Graph} {a : String} (h : g.Safe a) :
    ¬ Relation.TransGen g.Linked a a := by
  induction h with
  | intro a _ ih =>
    intro loop
    obtain ⟨b, hab, hba⟩ := Relation.TransGen.head'_iff.mp loop
    exact ih b hab (Relation.TransGen.tail' hba hab)

theorem transGen_of_isChain {linked : String → String → Prop} {a b : String}
    {inner : List String} (h : (a :: inner ++ [b]).IsChain linked) :
    Relation.TransGen linked a b := by
  induction inner generalizing a with
  | nil => exact .single (List.isChain_cons_cons.mp h).1
  | cons c inner ih =>
    have step := List.isChain_cons_cons.mp h
    exact .head step.1 (ih step.2)

/-- A cycle leads back to where it starts. -/
theorem transGen_of_isSimpleCycle {linked : String → String → Prop} {path : List String}
    (h : IsSimpleCycle linked path) : ∃ a, Relation.TransGen linked a a := by
  obtain ⟨start, inner, rfl, _, walk⟩ := h
  exact ⟨start, transGen_of_isChain walk⟩

theorem Leads.of_mem {g : Graph} {id : String} (h : id ∈ g.ids) : g.Leads [] id := by
  refine ⟨List.isChain_singleton id, by simp, fun v hv => ?_⟩
  rw [List.nil_append, List.mem_singleton] at hv
  exact hv ▸ h

/-- A path goes on over an edge to a node that is not on it. -/
theorem Leads.snoc {g : Graph} (wellFormed : g.WellFormed) {path : List String}
    {id next : String} (h : g.Leads path id) (edge : g.Linked id next)
    (new : next ∉ path ++ [id]) : g.Leads (path ++ [id]) next := by
  refine ⟨?_, ?_, ?_⟩
  · rw [List.append_assoc, List.singleton_append, List.isChain_append_cons_cons]
    exact ⟨h.walk, edge, List.isChain_singleton next⟩
  · rw [← List.concat_eq_append]
    exact h.distinct.concat new
  · intro v hv
    rcases List.mem_append.mp hv with hv | hv
    · exact h.within v hv
    · rw [List.mem_singleton.mp hv]
      exact (mem_ids_of_mem_edges wellFormed edge).2

/-- The rest of a path from one of its nodes begins with that node. -/
theorem dropWhile_of_mem {next : String} {path : List String} (h : next ∈ path) :
    ∃ inner, path.dropWhile (· != next) = next :: inner := by
  induction path with
  | nil => cases h
  | cons v path ih =>
    by_cases same : v = next
    · exact ⟨path, by simp [same]⟩
    · rw [List.dropWhile_cons_of_pos (by simpa using same)]
      exact ih ((List.mem_cons.mp h).resolve_left (Ne.symm same))

/-- An edge back to a node of the path closes a cycle. -/
theorem Leads.isSimpleCycle {g : Graph} {path : List String} {id next : String}
    (h : g.Leads path id) (edge : g.Linked id next) (back : next ∈ path ++ [id]) :
    IsSimpleCycle g.Linked ((path ++ [id]).dropWhile (· != next) ++ [next]) := by
  obtain ⟨inner, hinner⟩ := dropWhile_of_mem back
  have suffix : (path ++ [id]).dropWhile (· != next) <:+ path ++ [id] := List.dropWhile_suffix _
  refine ⟨next, inner, by rw [hinner], hinner ▸ h.distinct.sublist suffix.sublist, ?_⟩
  rw [List.isChain_append]
  refine ⟨h.walk.suffix suffix, List.isChain_singleton next, ?_⟩
  intro last hlast first hfirst
  have isNext : next = first := by simpa using hfirst
  have isId : last = id := by
    obtain ⟨front, hfront⟩ := suffix
    have whole : (path ++ [id]).getLast? = some id := by simp
    rw [← hfront, List.getLast?_append, Option.mem_def.mp hlast] at whole
    exact Option.some.inj whole
  rw [isId, ← isNext]
  exact edge

theorem Outcome.Holds.cons {g : Graph} {path through : List String} {id : String}
    {outcome : Outcome} (h : outcome.Holds g path through) (safe : g.Safe id) :
    outcome.Holds g path (id :: through) := by
  cases outcome with
  | cycle found => exact h
  | clear visited =>
    refine ⟨fun v hv => ?_, h.2⟩
    rcases List.mem_cons.mp hv with rfl | hv
    · exact safe
    · exact h.1 v hv

/-- What every single search keeps, searching from one node after another keeps. -/
theorem searchEach_holds {g : Graph} {search : List String → String → Outcome}
    {path visited ids : List String} (explored : g.Explored path visited)
    (step : ∀ visited, g.Explored path visited → ∀ id ∈ ids,
      (search visited id).Holds g path [id]) :
    (searchEach search visited ids).Holds g path ids := by
  induction ids generalizing visited with
  | nil => exact ⟨fun v hv => (List.not_mem_nil hv).elim, explored⟩
  | cons id ids ih =>
    have first := step visited explored id List.mem_cons_self
    rw [searchEach]
    cases found : search visited id with
    | cycle path' =>
      rw [found] at first
      exact first
    | clear visited' =>
      rw [found] at first
      have rest := ih first.2 fun visited hvisited other hother =>
        step visited hvisited other (List.mem_cons_of_mem id hother)
      exact rest.cons (first.1 id List.mem_cons_self)

/-- A path has at most as many nodes as the graph, so a visit with fuel for the nodes that are
not on it never runs out. -/
theorem Leads.length_lt {g : Graph} {path : List String} {id : String} (h : g.Leads path id) :
    path.length < g.nodes.length := by
  have : (path ++ [id]).length ≤ g.ids.length :=
    (h.distinct.subperm h.within).length_le
  simpa [ids, Nat.succ_le_iff] using this

theorem visit_holds {g : Graph} (wellFormed : g.WellFormed) {fuel : Nat}
    {path visited : List String} {id : String} (leads : g.Leads path id)
    (enough : g.nodes.length ≤ fuel + path.length) (explored : g.Explored path visited) :
    (g.visit fuel path visited id).Holds g path [id] := by
  induction fuel generalizing path visited id with
  | zero =>
    have := leads.length_lt
    omega
  | succ fuel ih =>
    have start : g.Explored (path ++ [id]) (id :: visited) := by
      intro v hv
      rcases List.mem_cons.mp hv with rfl | hv
      · exact Or.inl (by simp)
      · exact (explored v hv).imp_left (List.mem_append_left _)
    have all : (g.visit (fuel + 1) path visited id).Holds g (path ++ [id]) (g.targets id) := by
      rw [visit]
      refine searchEach_holds start fun visited explored next hnext => ?_
      have edge : g.Linked id next := wellFormed.mem_targets.mp hnext
      split
      · next back => exact leads.isSimpleCycle edge back
      · next new =>
        split
        · next seen =>
          refine ⟨fun v hv => ?_, explored⟩
          rw [List.mem_singleton.mp hv]
          exact (explored next seen).resolve_left new
        · exact ih (leads.snoc wellFormed edge new) (by simp; omega) explored
    cases found : g.visit (fuel + 1) path visited id with
    | cycle path' =>
      rw [found] at all
      exact all
    | clear visited' =>
      rw [found] at all
      -- the node is left now: all its targets are safe, and so it is itself
      have safe : g.Safe id := by
        refine Acc.intro id fun next edge => ?_
        exact all.1 next (wellFormed.mem_targets.mpr edge)
      refine ⟨fun v hv => List.mem_singleton.mp hv ▸ safe, fun v hv => ?_⟩
      rcases all.2 v hv with onPath | h
      · rcases List.mem_append.mp onPath with onPath | same
        · exact Or.inl onPath
        · exact Or.inr (List.mem_singleton.mp same ▸ safe)
      · exact Or.inr h

theorem search_holds {g : Graph} (wellFormed : g.WellFormed) {fuel : Nat}
    (enough : g.nodes.length ≤ fuel) : (g.search fuel).Holds g [] g.ids := by
  refine searchEach_holds (fun v hv => (List.not_mem_nil hv).elim) fun visited explored id hid => ?_
  split
  · next seen =>
    refine ⟨fun v hv => ?_, explored⟩
    rw [List.mem_singleton.mp hv]
    exact (explored id seen).resolve_left List.not_mem_nil
  · exact visit_holds wellFormed (.of_mem hid) enough explored

theorem searchEach_congr {search search' : List String → String → Outcome}
    {visited ids : List String}
    (same : ∀ visited, ∀ id ∈ ids, search visited id = search' visited id) :
    searchEach search visited ids = searchEach search' visited ids := by
  induction ids generalizing visited with
  | nil => rfl
  | cons id ids ih =>
    rw [searchEach, searchEach, same visited id List.mem_cons_self]
    cases search' visited id with
    | cycle path => rfl
    | clear visited =>
      exact ih fun visited other h => same visited other (List.mem_cons_of_mem id h)

/-- Beyond the nodes that are not on the path, fuel makes no difference. -/
theorem visit_fuel {g : Graph} (wellFormed : g.WellFormed) {fuel fuel' : Nat}
    {path visited : List String} {id : String} (leads : g.Leads path id)
    (enough : g.nodes.length ≤ fuel + path.length)
    (enough' : g.nodes.length ≤ fuel' + path.length) :
    g.visit fuel path visited id = g.visit fuel' path visited id := by
  have short := leads.length_lt
  induction fuel generalizing fuel' path visited id with
  | zero => omega
  | succ fuel ih =>
    obtain ⟨fuel', rfl⟩ : ∃ k, fuel' = k + 1 := ⟨fuel' - 1, by omega⟩
    rw [visit, visit]
    refine searchEach_congr fun visited next hnext => ?_
    split
    · rfl
    · next new =>
      have onward := leads.snoc wellFormed (wellFormed.mem_targets.mp hnext) new
      split
      · rfl
      · exact ih onward (by simp; omega) (by simp; omega) onward.length_lt

/-- The search gives the same outcome with every fuel that allows a path through all nodes. -/
theorem search_fuel {g : Graph} (wellFormed : g.WellFormed) {fuel fuel' : Nat}
    (enough : g.nodes.length ≤ fuel) (enough' : g.nodes.length ≤ fuel') :
    g.search fuel = g.search fuel' := by
  refine searchEach_congr fun visited id hid => ?_
  split
  · rfl
  · exact visit_fuel wellFormed (.of_mem hid) enough enough'

theorem cycle?_eq_some {g : Graph} (wellFormed : g.WellFormed) {path : List String}
    (h : g.cycle? = some path) : IsSimpleCycle g.Linked path := by
  have holds := search_holds wellFormed (Nat.le_succ g.nodes.length)
  unfold cycle? at h
  cases found : g.search (g.nodes.length + 1) with
  | cycle path' =>
    rw [found] at h holds
    exact Option.some.inj h ▸ holds
  | clear visited =>
    rw [found] at h
    cases h

/-- Nothing is found exactly if no walk leads from a node back to it. -/
theorem cycle?_eq_none_iff {g : Graph} (wellFormed : g.WellFormed) :
    g.cycle? = none ↔ ∀ a, ¬ Relation.TransGen g.Linked a a := by
  constructor
  · intro h a loop
    have holds := search_holds wellFormed (Nat.le_succ g.nodes.length)
    unfold cycle? at h
    cases found : g.search (g.nodes.length + 1) with
    | cycle path' =>
      rw [found] at h
      cases h
    | clear visited =>
      rw [found] at holds
      obtain ⟨b, edge, _⟩ := Relation.TransGen.head'_iff.mp loop
      exact (holds.1 a (mem_ids_of_mem_edges wellFormed edge).1).not_transGen loop
  · intro acyclic
    cases h : g.cycle? with
    | none => rfl
    | some path =>
      obtain ⟨a, loop⟩ := transGen_of_isSimpleCycle (cycle?_eq_some wellFormed h)
      exact absurd loop (acyclic a)

theorem validate_eq_ok_iff {g : Graph} : g.validate = .ok () ↔ g.cycle? = none := by
  unfold validate
  cases g.cycle? <;> simp

theorem validate_eq_error {g : Graph} {rejection : Rejection}
    (h : g.validate = .error rejection) :
    ∃ path, rejection = .cycle path ∧ g.cycle? = some path := by
  unfold validate at h
  cases found : g.cycle? with
  | none => rw [found] at h; cases h
  | some path => rw [found] at h; cases h; exact ⟨path, rfl, rfl⟩

theorem exists_linked_of_isChain {linked : String → String → Prop} {a b : String}
    {inner : List String} (h : (a :: inner ++ [b]).IsChain linked) :
    ∀ v ∈ a :: inner, ∃ w, linked v w := by
  induction inner generalizing a with
  | nil =>
    intro v hv
    rw [List.mem_singleton.mp hv]
    exact ⟨b, (List.isChain_cons_cons.mp h).1⟩
  | cons c inner ih =>
    have step := List.isChain_cons_cons.mp h
    intro v hv
    rcases List.mem_cons.mp hv with rfl | hv
    · exact ⟨c, step.1⟩
    · exact ih step.2 v hv

/-- The nodes of a cycle come back from the text that lists them: ids hold no white space. -/
theorem splitAtText_cycle {expressions : List String} {path : List String}
    (h : IsSimpleCycle (DependsOn expressions) path) :
    Text.splitAtText " -> " (String.intercalate " -> " path) = path := by
  obtain ⟨start, inner, rfl, _, walk⟩ := h
  refine Text.splitAtText_intercalate (c := ' ') rfl (by simp) fun v hv => ?_
  have hv : v ∈ start :: inner := by
    rcases List.mem_append.mp hv with hv | hv
    · exact hv
    · exact List.mem_singleton.mp hv ▸ List.mem_cons_self
  obtain ⟨w, expression, _, es, hes, edge⟩ := exists_linked_of_isChain walk v hv
  intro space
  have := hes.isIdCharacter (hes.mem_mentioned edge).1 ' ' space
  exact absurd this (by decide)

/-- The graph of expressions that all have a meaning is refused exactly if a walk along their
edges leads from an id back to it. The search takes no more fuel than there are nodes. What it
reports is such a walk without repetitions, and its ids can be read off the message. -/
theorem validate_refuses_exactly_cycles (expressions : List String)
    (meaningful : ∀ expression ∈ expressions, ∃ es, Dependency.edges expression = .ok es) :
    ∃ g, ofExpressions expressions = .ok g ∧
      (∀ a b, (a, b) ∈ g.edges ↔ DependsOn expressions a b) ∧
      (∀ fuel, g.nodes.length ≤ fuel → g.search fuel = g.search (g.nodes.length + 1)) ∧
      (g.validate = .ok () ↔ ∀ a, ¬ Relation.TransGen (DependsOn expressions) a a) ∧
      (∀ rejection, g.validate = .error rejection → ∃ path text, rejection = .cycle path ∧
        rejection.message = "circular dependency detected: " ++ text ∧
        Text.splitAtText " -> " text = path ∧
        IsSimpleCycle (fun a b => (a, b) ∈ g.edges) path) := by
  obtain ⟨g, hg⟩ := exists_ofExpressions_iff.mpr fun expression h =>
    (meaningful expression h).imp fun _ => edges_eq_ok_iff.mp
  obtain ⟨wellFormed, hedges⟩ := ofExpressions_spec hg
  have same : g.Linked = DependsOn expressions := funext₂ fun a b => propext (hedges a b)
  refine ⟨g, hg, hedges, fun fuel enough => search_fuel wellFormed enough (Nat.le_succ _), ?_, ?_⟩
  · rw [validate_eq_ok_iff, cycle?_eq_none_iff wellFormed, same]
  · intro rejection h
    obtain ⟨path, rfl, found⟩ := validate_eq_error h
    have cycle := cycle?_eq_some wellFormed found
    exact ⟨path, _, rfl, rfl, splitAtText_cycle (same ▸ cycle), cycle⟩

/-- A walk around three tasks, the last edge in another expression. -/
theorem validate_refuses_exactly_cycles_triangle :
    (∀ expression ∈ ["a >> b >> c", "c >> a"], ∃ es, Dependency.edges expression = .ok es) ∧
    ∃ g, ofExpressions ["a >> b >> c", "c >> a"] = .ok g ∧
      g.validate = .error (.cycle ["a", "b", "c", "a"]) ∧
      ∃ a, Relation.TransGen (DependsOn ["a >> b >> c", "c >> a"]) a a := by
  have first : Dependency.edges "a >> b >> c" = .ok [("a", "b"), ("b", "c")] := by cbv
  have second : Dependency.edges "c >> a" = .ok [("c", "a")] := by cbv
  have meaningful : ∀ expression ∈ ["a >> b >> c", "c >> a"],
      ∃ es, Dependency.edges expression = .ok es := by
    simp only [List.mem_cons, List.not_mem_nil, or_false]
    rintro expression (rfl | rfl)
    · exact ⟨_, first⟩
    · exact ⟨_, second⟩
  obtain ⟨g, built, _, _, accepted, _⟩ :=
    validate_refuses_exactly_cycles ["a >> b >> c", "c >> a"] meaningful
  have refused : g.validate = .error (.cycle ["a", "b", "c", "a"]) := by
    have : ofExpressions ["a >> b >> c", "c >> a"] =
        .ok ⟨[("a", ["b"]), ("b", ["c"]), ("c", ["a"])]⟩ :=
      ofExpressions_eq_ok_iff.mpr
        ⟨_, .cons (edges_eq_ok_iff.mp first) (.cons (edges_eq_ok_iff.mp second) .nil), rfl⟩
    cases this.symm.trans built
    have found : cycle? ⟨[("a", ["b"]), ("b", ["c"]), ("c", ["a"])]⟩ =
        some ["a", "b", "c", "a"] := by decide
    rw [validate, found]
  refine ⟨meaningful, g, built, refused, ?_⟩
  by_contra acyclic
  have := accepted.mpr fun a loop => acyclic ⟨a, loop⟩
  rw [refused] at this
  cases this

end Graph

end WorkflowCompiler.Workflow.Dependency
