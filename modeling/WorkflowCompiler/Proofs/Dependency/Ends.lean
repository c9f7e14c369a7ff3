import WorkflowCompiler.Proofs.Dependency.Mentioned

/-!
The ends of edges against the ids that an expression mentions. An operator makes an end of every
member of the operands beside it, since no operand is empty. Main result: what is mentioned are the
ids among the tokens, the ends of edges are mentioned, and from two operands on nothing else is.
-/
namespace WorkflowCompiler.Workflow.Dependency

def ends (es : List Edge) : List String :=
  es.flatMap fun e => [e.1, e.2]

variable {id : String} {left right : List String}

theorem mem_ends {es : List Edge} : id ∈ ends es ↔ ∃ e ∈ es, id = e.1 ∨ id = e.2 := by
  simp [ends, List.mem_flatMap]

theorem ends_append (es fs : List Edge) : ends (es ++ fs) = ends es ++ ends fs :=
  List.flatMap_append

theorem Operand.ids_ne_nil {ids : List String} {ts : List Token} (h : Operand ids ts) :
    ids ≠ [] := by
  cases h with
  | single name => exact List.cons_ne_nil name []
  | group nonempty => exact nonempty
  | groupWithComma nonempty => exact nonempty

theorem Links.ids_ne_nil {rest : List (Operator × List String)} {ts : List Token}
    (h : Links rest ts) : ∀ link ∈ rest, link.2 ≠ [] := by
  induction h with
  | nil => exact fun _ absent => (List.not_mem_nil absent).elim
  | cons first _ ih => exact List.forall_mem_cons.mpr ⟨first.ids_ne_nil, ih⟩

/-- An operator joins every member of one side to every member of the other. -/
theorem Operator.exists_edge (o : Operator) {l r : String} (hl : l ∈ left) (hr : r ∈ right) :
    ∃ e ∈ o.edges left right, (l = e.1 ∨ l = e.2) ∧ (r = e.1 ∨ r = e.2) := by
  cases o with
  | before =>
    have edge : (l, r) ∈ Operator.before.edges left right :=
      List.mem_flatMap.mpr ⟨l, hl, List.mem_map.mpr ⟨r, hr, rfl⟩⟩
    exact ⟨(l, r), edge, .inl rfl, .inr rfl⟩
  | after =>
    have edge : (r, l) ∈ Operator.after.edges left right :=
      List.mem_flatMap.mpr ⟨l, hl, List.mem_map.mpr ⟨r, hr, rfl⟩⟩
    exact ⟨(r, l), edge, .inr rfl, .inl rfl⟩

theorem Operator.mem_ends_edges (o : Operator) (hleft : left ≠ []) (hright : right ≠ [])
    (h : id ∈ left ∨ id ∈ right) : id ∈ ends (o.edges left right) := by
  rcases h with h | h
  · obtain ⟨r, hr⟩ := List.exists_mem_of_ne_nil right hright
    obtain ⟨e, he, isEnd, _⟩ := o.exists_edge h hr
    exact mem_ends.mpr ⟨e, he, isEnd⟩
  · obtain ⟨l, hl⟩ := List.exists_mem_of_ne_nil left hleft
    obtain ⟨e, he, _, isEnd⟩ := o.exists_edge hl h
    exact mem_ends.mpr ⟨e, he, isEnd⟩

/-- Where operators follow an operand, the members of all operands are ends of edges. -/
theorem mem_ends_edgesFrom {rest : List (Operator × List String)} (hleft : left ≠ [])
    (filled : ∀ link ∈ rest, link.2 ≠ []) (linked : rest ≠ [])
    (h : id ∈ (left :: rest.map (·.2)).flatten) : id ∈ ends (edgesFrom left rest) := by
  induction rest generalizing left with
  | nil => exact absurd rfl linked
  | cons link rest ih =>
    obtain ⟨o, right⟩ := link
    obtain ⟨hright, filled⟩ := List.forall_mem_cons.mp filled
    rw [edgesFrom, ends_append, List.mem_append]
    simp only [List.map_cons, List.flatten_cons, List.mem_append] at h
    rcases h with h | h | h
    · exact .inl (o.mem_ends_edges hleft hright (.inl h))
    · exact .inl (o.mem_ends_edges hleft hright (.inr h))
    · have more : rest ≠ [] := by
        rintro rfl
        cases h
      refine .inr (ih hright filled more ?_)
      rw [List.flatten_cons]
      exact List.mem_append_right right h

theorem Written.mem_ends {c : Chain} {ts : List Token} (h : Written c ts)
    (two : 2 ≤ c.operands.length) (hid : id ∈ c.operands.flatten) : id ∈ ends c.products := by
  cases h with
  | mk first links =>
    rename_i operand rest us vs
    rw [← edgesFrom_eq]
    refine mem_ends_edgesFrom first.ids_ne_nil links.ids_ne_nil ?_ hid
    rintro rfl
    exact absurd two (by simp [Chain.operands])

theorem Denotes.mentioned_of_mem_ends {expression : String} {es : List Edge}
    (h : Denotes expression es) (hid : id ∈ ends es) : id ∈ mentioned expression := by
  obtain ⟨⟨a, b⟩, edge, same⟩ := mem_ends.mp hid
  obtain ⟨ha, hb⟩ := h.mem_mentioned edge
  rcases same with rfl | rfl
  · exact ha
  · exact hb

/-- In an expression that stands for edges, what is found by blotting out operators and cutting at
white space are the ids among its tokens, one for one. So every end of an edge is mentioned, and
whatever is mentioned by two operands or more is an end of an edge. -/
theorem mentioned_agrees_with_tokens (expression : String) (es : List Edge)
    (accepted : edges expression = .ok es) :
    ∃ ts, tokens expression.toList = .ok ts ∧ mentioned expression = names ts ∧
      (∀ id ∈ ends es, id ∈ mentioned expression) ∧
      (∀ c, parse expression = .ok (some c) → 2 ≤ c.operands.length →
        ∀ id ∈ mentioned expression, id ∈ ends es) := by
  have means : Denotes expression es := edges_eq_ok_iff.mp accepted
  have ⟨ts, lexes, _⟩ := means
  refine ⟨ts, tokens_of_lexes lexes, mentioned_eq_names lexes,
    fun id hid => means.mentioned_of_mem_ends hid, ?_⟩
  intro c parsed two id hid
  obtain ⟨us, lexes', written⟩ := parse_eq_some_iff.mp parsed
  obtain rfl : es = c.products := means.unique ⟨us, lexes', .inr ⟨c, written, rfl⟩⟩
  rw [mentioned_eq_names lexes', written.names] at hid
  exact written.mem_ends two hid

/-- Ids beside operators, brackets and commas without white space, one of them mentioned twice,
and a wide space. -/
theorem mentioned_agrees_with_tokens_crowded :
    let expression := "a>>[b_1,\u2003c ,]<<a"
    let es := [("a", "b_1"), ("a", "c"), ("a", "b_1"), ("a", "c")]
    edges expression = .ok es ∧ mentioned expression = ["a", "b_1", "c", "a"] ∧
      (∀ id ∈ ends es, id ∈ mentioned expression) ∧
      ∀ id ∈ mentioned expression, id ∈ ends es := by
  intro expression es
  let ts : List Token := [.id "a", .operator .before, .opening, .id "b_1", .comma, .id "c",
    .comma, .closing, .operator .after, .id "a"]
  have split : tokens expression.toList = .ok ts := toOption_eq_some_iff.mp (by decide +kernel)
  have written : Written ⟨["a"], [(.before, ["b_1", "c"]), (.after, ["a"])]⟩ ts :=
    .mk (.single "a") (.cons (.groupWithComma (List.cons_ne_nil _ _)) (.cons (.single "a") .nil))
  have accepted : edges expression = .ok es :=
    edges_eq_ok_iff.mpr ⟨ts, lexes_of_tokens split, .inr ⟨_, written, by decide⟩⟩
  have parsed := parse_eq_some_iff.mpr ⟨ts, lexes_of_tokens split, written⟩
  obtain ⟨_, same, found, within, all⟩ := mentioned_agrees_with_tokens expression es accepted
  obtain rfl := Except.ok.inj (split.symm.trans same)
  exact ⟨accepted, found, within, all _ parsed (by decide)⟩

end WorkflowCompiler.Workflow.Dependency
