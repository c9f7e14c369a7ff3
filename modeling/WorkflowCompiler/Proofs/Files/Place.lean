import Mathlib.Data.List.Infix
import WorkflowCompiler.Files.Tree
import WorkflowCompiler.Proofs.Success
import WorkflowCompiler.Proofs.Text.Blank

/-!
Where a path lies. A single name lies directly in the directory that it is seen from, so what is
written under it is written there and nowhere else. What a write does not reach and a removal does
not cover stays as it is, and what has been written is read back.
-/
namespace WorkflowCompiler.Files

/-- A path that is one ordinary name: no root, no further directory, none of the dots. -/
structure IsName (path : String) : Prop where
  nonempty : path ≠ ""
  ordinary : path ≠ "."
  inside : path ≠ ".."
  single : '/' ∉ path.toList

/-- Without a slash there is one piece. -/
theorem piecesFrom_of_notMem {cs : List Char} (single : '/' ∉ cs) (before piece : List Char) :
    piecesFrom before piece cs = [(piece.reverse ++ cs, before.reverse ++ cs)] := by
  induction cs generalizing before piece with
  | nil => simp [piecesFrom]
  | cons c cs ih =>
    have notHere : c ≠ '/' := fun same => single (same ▸ List.mem_cons_self)
    have notLater : '/' ∉ cs := fun later => single (List.mem_cons_of_mem c later)
    rw [piecesFrom, if_neg notHere, ih notLater]
    simp

namespace IsName

variable {name : String}

theorem not_isAbsolute (h : IsName name) : isAbsolute name = false := by
  refine Bool.eq_false_iff.mpr fun rooted => h.single ?_
  rw [isAbsolute, beq_iff_eq] at rooted
  exact List.mem_of_head? rooted

theorem splitAt_eq (h : IsName name) : Text.splitAt '/' name = [name] := by
  have whole : ∀ c ∈ name.toList, (c == '/') = false :=
    fun c hc => beq_eq_false_iff_ne.mpr fun same => h.single (same ▸ hc)
  rw [Text.splitAt, Text.splitAtEach_of_all_neg whole, List.map_singleton, String.ofList_toList]

theorem join_eq (h : IsName name) {directory : String} (named : directory ≠ "")
    (open' : directory.toList.getLast? ≠ some '/') :
    join directory name = directory ++ "/" ++ name := by
  rw [join, h.not_isAbsolute, if_neg Bool.false_ne_true, if_neg (not_or.mpr ⟨named, open'⟩)]

theorem toList_ne_nil (h : IsName name) : name.toList ≠ [] :=
  fun empty => h.nonempty (String.toList_eq_nil_iff.mp empty)

theorem ancestors_eq (h : IsName name) : ancestors name = [name] := by
  have undotted : name.toList ≠ ['.'] := fun dot => h.ordinary (String.toList_inj.mp dot)
  simp [ancestors, h.not_isAbsolute, piecesFrom_of_notMem h.single, h.toList_ne_nil,
    undotted]

/-- No directory is named before a single name. -/
theorem parent?_eq (h : IsName name) : parent? name = some "" := by
  have notRoot : name ≠ "/" := fun root => h.single (by simp [root])
  simp [parent?, h.ancestors_eq, notRoot]

end IsName

/-- The node or the missing name at the end of a walk. -/
def Tree.Target.location : Tree.Target → Location
  | .present location _ => location
  | .absent location => location

def Tree.Target.node? : Tree.Target → Option Node
  | .present _ node => some node
  | .absent _ => none

namespace Tree

variable {tree after : Tree} {location other : Location} {node : Node}

/-- Nodes that are kept are found as before. -/
theorem find?_filter_of_kept {nodes : List (Location × Node)} {keep : Location × Node → Bool}
    (kept : ∀ n : Location × Node, n.1 = other → keep n = true) :
    (nodes.filter keep).find? (·.1 == other) = nodes.find? (·.1 == other) := by
  rw [List.find?_filter]
  refine congrArg (List.find? · nodes) (funext fun n => ?_)
  by_cases found : n.1 = other
  · simp [kept n found, found]
  · simp [found]

theorem node?_set (below : location ≠ []) :
    (tree.set location node).node? other =
      if other = location then some node else tree.node? other := by
  unfold node? set
  by_cases root : other = []
  · rw [if_pos root, if_pos root, if_neg (root ▸ below.symm)]
  · rw [if_neg root, if_neg root, List.find?_cons]
    by_cases same : other = location
    · simp [same]
    · have elsewhere : (location == other) = false := beq_eq_false_iff_ne.mpr (Ne.symm same)
      rw [if_neg same, elsewhere, find?_filter_of_kept fun n found => by simpa [found] using same]

theorem node?_removeBelow (below : location ≠ []) :
    (tree.removeBelow location).node? other =
      if location <+: other then none else tree.node? other := by
  unfold node? removeBelow
  by_cases root : other = []
  · rw [if_pos root, if_pos root, if_neg fun covered => below (List.prefix_nil.mp (root ▸ covered))]
  · rw [if_neg root, if_neg root]
    by_cases covered : location <+: other
    · rw [if_pos covered, Option.map_eq_none_iff, List.find?_eq_none]
      intro n inside found
      rw [beq_iff_eq] at found
      rw [List.mem_filter, found, List.isPrefixOf_iff_prefix.mpr covered] at inside
      exact Bool.false_ne_true inside.2
    · have outside : location.isPrefixOf other = false :=
        Bool.eq_false_iff.mpr fun h => covered (List.isPrefixOf_iff_prefix.mp h)
      rw [if_neg covered, find?_filter_of_kept fun n found => by rw [found, outside]; rfl]

/-- A walk along a single name that is short enough ends in its directory. -/
theorem walk_name {name : String} (named : IsName name) :
    tree.walk location .directory [name] =
      if nameLimit < name.utf8ByteSize then .error .nameTooLong
      else match tree.node? (location ++ [name]) with
        | some node => .ok (.present (location ++ [name]) node)
        | none => .ok (.absent (location ++ [name])) := by
  rw [walk, if_neg (not_or.mpr ⟨named.nonempty, named.ordinary⟩), if_neg named.inside]
  split
  · rfl
  · dsimp only
    cases tree.node? (location ++ [name]) with
    | none => rfl
    | some node => simp only [walk]

theorem location_of_walk_name {name : String} (named : IsName name) {target : Target}
    (walked : tree.walk location .directory [name] = .ok target) :
    target.location = location ++ [name] := by
  rw [walk_name named] at walked
  split at walked
  · cases walked
  · split at walked <;> cases walked <;> rfl

/-- A single name is looked for in the working directory. -/
theorem location_of_locate_name {name : String} (named : IsName name) {target : Target}
    (found : tree.locate name = .ok target) :
    target.location = tree.workingDirectory ++ [name] := by
  rw [locate, named.not_isAbsolute, named.splitAt_eq, if_neg named.nonempty] at found
  split at found
  · cases found
  split at found
  · cases found
  exact location_of_walk_name named found

/-- A piece of a path that a walk looks up in its directory. -/
def IsStep (piece : String) : Prop :=
  ¬ (piece = "" ∨ piece = ".") ∧ piece ≠ ".." ∧ piece.utf8ByteSize ≤ nameLimit

/-- How a walk that starts in a directory comes to its end. -/
inductive Walks (tree : Tree) : Location → List String → Target → Prop
  | here {start : Location} : Walks tree start [] (.present start .directory)
  | stay {start : Location} {piece : String} {rest : List String} {target : Target} :
      piece = "" ∨ piece = "." → Walks tree start rest target →
      Walks tree start (piece :: rest) target
  | up {start : Location} {rest : List String} {target : Target} :
      Walks tree start.dropLast rest target → Walks tree start (".." :: rest) target
  | down {start : Location} {piece : String} {rest : List String} {target : Target} :
      IsStep piece → tree.node? (start ++ [piece]) = some .directory →
      Walks tree (start ++ [piece]) rest target → Walks tree start (piece :: rest) target
  | file {start : Location} {piece : String} {content : ByteArray} {executable : Bool} :
      IsStep piece → tree.node? (start ++ [piece]) = some (.file content executable) →
      Walks tree start [piece] (.present (start ++ [piece]) (.file content executable))
  | missing {start : Location} {piece : String} {rest : List String} :
      IsStep piece → tree.node? (start ++ [piece]) = none → rest.all (· == "") = true →
      Walks tree start (piece :: rest) (.absent (start ++ [piece]))

section Walks

variable {start : Location} {pieces : List String} {target : Target}

theorem walk_present {piece : String} (step : IsStep piece)
    (found : tree.node? (start ++ [piece]) = some node) (rest : List String) :
    tree.walk start .directory (piece :: rest) = tree.walk (start ++ [piece]) node rest := by
  obtain ⟨moves, notUp, short⟩ := step
  rw [walk, if_neg moves, if_neg notUp, if_neg (Nat.not_lt.mpr short)]
  simp only [found]

theorem walk_absent {piece : String} (step : IsStep piece)
    (found : tree.node? (start ++ [piece]) = none) (rest : List String) :
    tree.walk start .directory (piece :: rest) =
      if rest.all (· == "") then .ok (.absent (start ++ [piece])) else .error .notFound := by
  obtain ⟨moves, notUp, short⟩ := step
  rw [walk, if_neg moves, if_neg notUp, if_neg (Nat.not_lt.mpr short)]
  simp only [found]

theorem Walks.walk_eq (h : Walks tree start pieces target) :
    tree.walk start .directory pieces = .ok target := by
  induction h with
  | here => rw [walk]
  | stay stays _ ih => rwa [walk, if_pos stays]
  | up _ ih => rwa [walk, if_neg (by decide), if_pos rfl]
  | down step found _ ih => rwa [walk_present step found]
  | file step found => rw [walk_present step found, walk]
  | missing step found ends => rw [walk_absent step found, if_pos ends]

theorem walks_of_walk (h : tree.walk start .directory pieces = .ok target) :
    Walks tree start pieces target := by
  induction pieces generalizing start with
  | nil =>
    rw [walk] at h
    cases h
    exact .here
  | cons piece rest ih =>
    by_cases stays : piece = "" ∨ piece = "."
    · rw [walk, if_pos stays] at h
      exact .stay stays (ih h)
    by_cases up : piece = ".."
    · rw [walk, if_neg stays, if_pos up] at h
      exact up ▸ .up (ih h)
    by_cases long : nameLimit < piece.utf8ByteSize
    · rw [walk, if_neg stays, if_neg up, if_pos long] at h
      cases h
    have step : IsStep piece := ⟨stays, up, Nat.not_lt.mp long⟩
    cases found : tree.node? (start ++ [piece]) with
    | none =>
      rw [walk_absent step found] at h
      split at h
      · next ends =>
        cases h
        exact .missing step found ends
      · cases h
    | some node =>
      rw [walk_present step found] at h
      cases node with
      | directory => exact .down step found (ih h)
      | file content executable =>
        cases rest with
        | nil =>
          rw [walk] at h
          cases h
          exact .file step found
        | cons =>
          rw [walk] at h
          cases h

/-- A walk that ends in no directory ends in a file once there is one: the directories that it
passes are other nodes than the one at its end. A missing name counts only if no directory is asked
for, that is, if the last piece is not empty. -/
theorem Walks.set (content : ByteArray) (executable : Bool) (h : Walks tree start pieces target)
    (leaf : target.node? ≠ some .directory)
    (named : target.node? = none → pieces.getLast? ≠ some "") :
    tree.node? target.location = target.node? ∧
      Walks (tree.set target.location (.file content executable)) start pieces
        (.present target.location (.file content executable)) := by
  have further : ∀ {piece : String} {rest : List String} {target : Target},
      (target.node? = none → (piece :: rest).getLast? ≠ some "") →
        target.node? = none → rest.getLast? ≠ some "" := fun named none last =>
    named none (by rw [List.getLast?_cons, last]; rfl)
  induction h with
  | here => exact absurd rfl leaf
  | stay stays _ ih =>
    obtain ⟨here, again⟩ := ih leaf (further named)
    exact ⟨here, .stay stays again⟩
  | up _ ih =>
    obtain ⟨here, again⟩ := ih leaf (further named)
    exact ⟨here, .up again⟩
  | @down start piece rest target step found _ ih =>
    obtain ⟨here, again⟩ := ih leaf (further named)
    have below : target.location ≠ [] := by
      intro root
      rw [root] at here
      exact leaf here.symm
    have passed : start ++ [piece] ≠ target.location := by
      intro same
      rw [← same, found] at here
      exact leaf here.symm
    refine ⟨here, .down step ?_ again⟩
    rw [node?_set below, if_neg passed, found]
  | file step found =>
    refine ⟨found, .file step ?_⟩
    rw [Target.location, node?_set (by simp), if_pos rfl]
  | @missing start piece rest step none ends =>
    have last : rest = [] := by
      by_contra more
      have empty := List.all_eq_true.mp ends _ (List.getLast_mem more)
      exact further named rfl (by rw [List.getLast?_eq_some_getLast more, eq_of_beq empty])
    subst last
    refine ⟨none, .file step ?_⟩
    rw [Target.location, node?_set (by simp), if_pos rfl]

end Walks

theorem locate_set {path : String} {target : Target} (content : ByteArray) (executable : Bool)
    (found : tree.locate path = .ok target) (leaf : target.node? ≠ some .directory)
    (named : target.node? = none → path.toList.getLast? ≠ some '/') :
    (tree.set target.location (.file content executable)).locate path =
      .ok (.present target.location (.file content executable)) := by
  unfold locate at found ⊢
  by_cases nul : path.toList.contains '\x00' = true
  · rw [if_pos nul] at found
    cases found
  rw [if_neg nul] at found ⊢
  by_cases empty : path = ""
  · rw [if_pos empty] at found
    cases found
  rw [if_neg empty] at found ⊢
  by_cases long : pathLimit ≤ path.utf8ByteSize
  · rw [if_pos long] at found
    cases found
  rw [if_neg long] at found ⊢
  refine ((walks_of_walk found).set content executable leaf fun missing last =>
    named missing ?_).2.walk_eq
  rw [Text.splitAt, List.getLast?_map, Option.map_eq_some_iff] at last
  obtain ⟨piece, last, blank⟩ := last
  rw [String.ofList_eq_empty_iff.mp blank] at last
  rcases Text.getLast?_of_splitAtEach last with none | ⟨c, ends, separates⟩
  · exact absurd (String.toList_eq_nil_iff.mp none) empty
  · rw [Option.mem_def.mp ends, eq_of_beq separates]

/-- A write makes the node at the end of its path, which is no directory and is not named as one, a
file with the content and changes no other. -/
theorem exists_set_of_write {path : String} {content : ByteArray}
    (written : tree.write path content = .ok after) :
    ∃ target executable, tree.locate path = .ok target ∧ target.node? ≠ some .directory ∧
      (target.node? = none → path.toList.getLast? ≠ some '/') ∧
      after = tree.set target.location (.file content executable) := by
  unfold write at written
  dsimp only at written
  split at written
  · next location _ executable found =>
    cases written
    exact ⟨_, executable, found, by simp [Target.node?], by simp [Target.node?], rfl⟩
  · cases written
  · next location found =>
    split at written
    · cases written
    · next open' =>
      cases written
      rw [Bool.not_eq_true, beq_eq_false_iff_ne] at open'
      exact ⟨_, false, found, by simp [Target.node?], fun _ => open', rfl⟩
  · split at written <;> cases written
  · cases written

/-- What is written under a path is read under it. -/
theorem readBytes_of_write {path : String} {content : ByteArray}
    (written : tree.write path content = .ok after) : after.readBytes path = .ok content := by
  obtain ⟨target, executable, found, leaf, named, rfl⟩ := exists_set_of_write written
  rw [readBytes, locate_set content executable found leaf named]
  rfl

end Tree

end WorkflowCompiler.Files
