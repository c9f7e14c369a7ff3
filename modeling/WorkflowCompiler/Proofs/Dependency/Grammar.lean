import Mathlib.Data.List.ProdSigma
import WorkflowCompiler.Proofs.Dependency.Lexeme

/-!
The grammar of dependency expressions and what they mean. The grammar is given as relations
between chains and tokens; the parser finds a chain exactly where the grammar has one, and the
edges it gives are the products of neighbouring operands. A flaw that names a place names the
place of a token that is there.
-/
namespace WorkflowCompiler.Workflow.Dependency

def commaSeparated (ids : List String) : List Token :=
  (ids.map Token.id).intersperse .comma

/-- The tokens of an operand: an id, or at least one id in brackets, where one comma may follow
the last. -/
inductive Operand : List String → List Token → Prop
  | single (name : String) : Operand [name] [.id name]
  | group {ids : List String} :
      ids ≠ [] → Operand ids (.opening :: (commaSeparated ids ++ [.closing]))
  | groupWithComma {ids : List String} :
      ids ≠ [] → Operand ids (.opening :: (commaSeparated ids ++ [.comma, .closing]))

/-- The tokens of the operators after an operand, each with its right operand. -/
inductive Links : List (Operator × List String) → List Token → Prop
  | nil : Links [] []
  | cons {o : Operator} {ids : List String} {rest : List (Operator × List String)}
      {us vs : List Token} :
      Operand ids us → Links rest vs → Links ((o, ids) :: rest) (.operator o :: (us ++ vs))

/-- The tokens of a chain. -/
inductive Written : Chain → List Token → Prop
  | mk {first : List String} {rest : List (Operator × List String)} {us vs : List Token} :
      Operand first us → Links rest vs → Written ⟨first, rest⟩ (us ++ vs)

namespace Chain

def operands (c : Chain) : List (List String) :=
  c.first :: c.rest.map (·.2)

/-- What a chain means: operator by operator, the product of the operands beside it. -/
def products (c : Chain) : List Edge :=
  (c.operands.zip c.rest).flatMap fun (left, o, right) =>
    match o with
    | .before => left.product right
    | .after => (left.product right).map Prod.swap

end Chain

/-- The meaning of a text: no edges where it has no tokens, else those of the chain it writes. -/
def Denotes (expression : String) (es : List Edge) : Prop :=
  ∃ ts, Lexes expression.toList ts ∧
    (ts = [] ∧ es = [] ∨ ∃ c, Written c ts ∧ es = c.products)

theorem commaSeparated_cons {name : String} {ids : List String} (h : ids ≠ []) :
    commaSeparated (name :: ids) = .id name :: .comma :: commaSeparated ids := by
  obtain ⟨m, ms, rfl⟩ := List.exists_cons_of_ne_nil h
  rfl

/-- Only an id can begin ids between commas. -/
theorem commaSeparated_head {ids : List String} (h : ids ≠ []) :
    ∃ name ts, commaSeparated ids = .id name :: ts := by
  obtain ⟨name, rest, rfl⟩ := List.exists_cons_of_ne_nil h
  by_cases more : rest = []
  · exact ⟨name, [], by rw [more]; rfl⟩
  · exact ⟨name, _, commaSeparated_cons more⟩

/-- What a list is read from: its ids and the closing bracket, with or without a last comma. -/
theorem tokens_of_group {kept ids : List String} {ts rest : List Token}
    (h : group kept ts = .ok (ids, rest)) : ∃ more, more ≠ [] ∧ ids = kept ++ more ∧
      (ts = commaSeparated more ++ .closing :: rest ∨
        ts = commaSeparated more ++ .comma :: .closing :: rest) := by
  fun_induction group kept ts with
  | case1 kept name rest =>
    cases h
    exact ⟨[name], by simp, rfl, Or.inr rfl⟩
  | case2 kept name rest _ ih =>
    obtain ⟨more, nonempty, rfl, hts⟩ := ih h
    refine ⟨name :: more, by simp, by simp, ?_⟩
    rw [commaSeparated_cons nonempty]
    rcases hts with rfl | rfl
    · exact Or.inl rfl
    · exact Or.inr rfl
  | case3 kept name rest =>
    cases h
    exact ⟨[name], by simp, rfl, Or.inl rfl⟩
  | case4 => cases h
  | case5 => cases h

/-- A comma before a further id goes on with the list. -/
theorem group_comma_id {kept : List String} {name next : String} {us : List Token} :
    group kept (.id name :: .comma :: .id next :: us) =
      group (kept ++ [name]) (.id next :: us) := by
  conv_lhs => rw [group.eq_def]

theorem group_commaSeparated {kept more : List String} {ts rest : List Token}
    (nonempty : more ≠ []) (h : ts = commaSeparated more ++ .closing :: rest ∨
      ts = commaSeparated more ++ .comma :: .closing :: rest) :
    group kept ts = .ok (kept ++ more, rest) := by
  induction more generalizing kept ts with
  | nil => exact absurd rfl nonempty
  | cons name more ih =>
    by_cases last : more = []
    · subst last
      rcases h with rfl | rfl <;> simp [commaSeparated, group]
    · obtain ⟨next, others, hnext⟩ := commaSeparated_head last
      rw [commaSeparated_cons last] at h
      rw [List.append_cons kept name more]
      rcases h with rfl | rfl
      · have := @ih (kept ++ [name]) _ last (Or.inl rfl)
        rw [hnext] at this ⊢
        exact group_comma_id.trans this
      · have := @ih (kept ++ [name]) _ last (Or.inr rfl)
        rw [hnext] at this ⊢
        exact group_comma_id.trans this

/-- An operand is read exactly from its tokens, whatever follows them. -/
theorem operand_eq_ok_iff {place : Nat} {ids : List String} {ts rest : List Token} :
    operand place ts = .ok (ids, rest) ↔ ∃ us, Operand ids us ∧ ts = us ++ rest := by
  constructor
  · intro h
    unfold operand at h
    split at h
    · next name others =>
      cases h
      exact ⟨[.id name], .single name, rfl⟩
    · next others =>
      obtain ⟨more, nonempty, rfl, hts⟩ := tokens_of_group h
      rcases hts with rfl | rfl
      · exact ⟨_, .group nonempty, by simp⟩
      · exact ⟨_, .groupWithComma nonempty, by simp⟩
    · cases h
    · cases h
  · rintro ⟨us, hus, rfl⟩
    cases hus with
    | single name => rfl
    | group nonempty =>
      have : group [] (commaSeparated ids ++ .closing :: rest) = .ok ([] ++ ids, rest) :=
        group_commaSeparated nonempty (Or.inl rfl)
      simpa [operand] using this
    | groupWithComma nonempty =>
      have : group [] (commaSeparated ids ++ .comma :: .closing :: rest) = .ok ([] ++ ids, rest) :=
        group_commaSeparated nonempty (Or.inr rfl)
      simpa [operand] using this

theorem Operand.ne_nil {ids : List String} {ts : List Token} (h : Operand ids ts) : ts ≠ [] := by
  cases h <;> simp

theorem links_eq_ok_iff {total : Nat} {ls : List (Operator × List String)} {ts : List Token} :
    links total ts = .ok ls ↔ Links ls ts := by
  constructor
  · intro h
    fun_induction links total ts generalizing ls with
    | case1 => cases h; exact .nil
    | case2 => cases h
    | case3 o rest ids rest' read ih =>
      obtain ⟨ms, hms, hls⟩ := bind_eq_ok_iff.mp h
      cases hls
      obtain ⟨us, hus, rfl⟩ := operand_eq_ok_iff.mp read
      exact .cons hus (ih hms)
    | case4 => cases h
  · intro h
    induction h with
    | nil => rw [links]
    | cons first _ ih =>
      rename_i o ids rest us vs _
      have read : operand (total - (us ++ vs).length + 1) (us ++ vs) = .ok (ids, vs) :=
        operand_eq_ok_iff.mpr ⟨us, first, rfl⟩
      rw [links]
      split
      · next flaw failed => rw [read] at failed; cases failed
      · next ids' rest' found =>
        rw [read] at found
        cases found
        rw [ih]
        rfl

theorem chain?_eq_ok_iff {ts : List Token} {found : Option Chain} :
    chain? ts = .ok found ↔ ts = [] ∧ found = none ∨ ∃ c, Written c ts ∧ found = some c := by
  constructor
  · intro h
    unfold chain? at h
    split at h
    · cases h
      exact Or.inl ⟨rfl, rfl⟩
    · obtain ⟨⟨first, rest⟩, read, h⟩ := bind_eq_ok_iff.mp h
      obtain ⟨ls, hls, h⟩ := bind_eq_ok_iff.mp h
      cases h
      obtain ⟨us, hus, rfl⟩ := operand_eq_ok_iff.mp read
      exact Or.inr ⟨⟨first, ls⟩, .mk hus (links_eq_ok_iff.mp hls), rfl⟩
  · rintro (⟨rfl, rfl⟩ | ⟨c, ⟨hus, hvs⟩, rfl⟩)
    · rfl
    · rename_i first ls us vs
      have read : operand 1 (us ++ vs) = .ok (first, vs) :=
        operand_eq_ok_iff.mpr ⟨us, hus, rfl⟩
      unfold chain?
      split
      · next empty => rw [empty] at read; cases read
      · rw [bind_eq_ok_iff]
        refine ⟨_, read, ?_⟩
        rw [bind_eq_ok_iff]
        exact ⟨ls, links_eq_ok_iff.mpr hvs, rfl⟩

theorem parse_eq_ok_iff {expression : String} {found : Option Chain} :
    parse expression = .ok found ↔ ∃ ts, Lexes expression.toList ts ∧
      (ts = [] ∧ found = none ∨ ∃ c, Written c ts ∧ found = some c) := by
  rw [parse, bind_eq_ok_iff]
  simp only [tokens_eq_ok_iff, chain?_eq_ok_iff]

theorem parse_eq_some_iff {expression : String} {c : Chain} :
    parse expression = .ok (some c) ↔ ∃ ts, Lexes expression.toList ts ∧ Written c ts := by
  simp only [parse_eq_ok_iff, reduceCtorEq, and_false, false_or, Option.some.injEq,
    exists_eq_right']

/-- What a flaw found among tokens says about them. A place counts them from one. -/
def Flaw.AppliesTo (ts : List Token) : Flaw → Prop
  | .operatorExpected place =>
    ∃ t, 0 < place ∧ ts[place - 1]? = some t ∧ ∀ o, t ≠ .operator o
  | .operandExpected place =>
    ∃ t, 0 < place ∧ ts[place - 1]? = some t ∧ t ≠ .opening ∧ ∀ name, t ≠ .id name
  | .operandMissing => ∃ front o, ts = front ++ [.operator o]
  | .groupMemberExpected => .opening ∈ ts
  | .groupUnterminated => .opening ∈ ts
  | _ => False

theorem group_flaw {kept : List String} {ts : List Token} {flaw : Flaw}
    (h : group kept ts = .error flaw) :
    flaw = .groupMemberExpected ∨ flaw = .groupUnterminated := by
  fun_induction group kept ts with
  | case1 => cases h
  | case2 _ _ _ _ ih => exact ih h
  | case3 => cases h
  | case4 => cases h; exact Or.inr rfl
  | case5 => cases h; exact Or.inl rfl

/-- An operand is missing only at the end, where the last token is an operator. -/
theorem operand_flaw {front ts : List Token} {flaw : Flaw}
    (after : ts = [] → ∃ before o, front = before ++ [.operator o])
    (h : operand (front.length + 1) ts = .error flaw) : flaw.AppliesTo (front ++ ts) := by
  unfold operand at h
  split at h
  · cases h
  · rcases group_flaw h with rfl | rfl
    · simp [Flaw.AppliesTo]
    · simp [Flaw.AppliesTo]
  · cases h
    simpa [Flaw.AppliesTo] using after rfl
  · next ts notId notOpening notEmpty =>
    cases h
    obtain ⟨t, rest, rfl⟩ := List.exists_cons_of_ne_nil notEmpty
    refine ⟨t, by simp, by simp, ?_, ?_⟩
    · rintro rfl
      exact notOpening rest rfl
    · rintro name rfl
      exact notId name rest rfl

theorem links_flaw {total : Nat} {front ts : List Token} {flaw : Flaw}
    (all : total = (front ++ ts).length) (h : links total ts = .error flaw) :
    flaw.AppliesTo (front ++ ts) := by
  fun_induction links total ts generalizing front with
  | case1 => cases h
  | case2 o rest failed read =>
    cases h
    have place : total - rest.length + 1 = (front ++ [Token.operator o]).length + 1 := by
      simp only [List.length_append, List.length_cons, List.length_nil] at all ⊢
      omega
    rw [place] at read
    rw [List.append_cons]
    exact operand_flaw (fun _ => ⟨front, o, rfl⟩) read
  | case3 o rest ids rest' read ih =>
    obtain ⟨us, _, rfl⟩ := operand_eq_ok_iff.mp read
    have whole : front ++ .operator o :: (us ++ rest') =
        (front ++ .operator o :: us) ++ rest' := by simp
    rw [whole] at all ⊢
    rcases bind_eq_error_iff.mp h with h | ⟨_, _, h⟩
    · exact ih all h
    · cases h
  | case4 t rest notOperator =>
    cases h
    have place : total - (t :: rest).length = front.length := by
      rw [all, List.length_append]
      omega
    rw [place]
    exact ⟨t, by simp, by simp, notOperator⟩

/-- Whatever is wrong with tokens, the flaw that is reported is one of them. -/
theorem chain?_flaw {ts : List Token} {flaw : Flaw} (h : chain? ts = .error flaw) :
    flaw.AppliesTo ts := by
  unfold chain? at h
  split at h
  · cases h
  · next nonempty =>
    rcases bind_eq_error_iff.mp h with h | ⟨⟨first, rest⟩, read, h⟩
    · exact @operand_flaw [] ts flaw (fun h => absurd h nonempty) h
    · obtain ⟨us, _, rfl⟩ := operand_eq_ok_iff.mp read
      rcases bind_eq_error_iff.mp h with h | ⟨_, _, h⟩
      · exact links_flaw rfl h
      · cases h

theorem Operator.edges_after (left right : List String) :
    Operator.after.edges left right = (left.product right).map Prod.swap := by
  simp [Operator.edges, List.product, List.map_flatMap, Function.comp_def]

theorem edgesFrom_eq {left : List String} {rest : List (Operator × List String)} :
    edgesFrom left rest = Chain.products ⟨left, rest⟩ := by
  induction rest generalizing left with
  | nil => rfl
  | cons link rest ih =>
    obtain ⟨o, right⟩ := link
    rw [edgesFrom, ih]
    cases o with
    | before => rfl
    | after => rw [Operator.edges_after]; rfl

theorem Chain.edges_eq_products (c : Chain) : c.edges = c.products :=
  edgesFrom_eq

/-- The edges of an expression are what it means, and it has none where it means nothing. -/
theorem edges_eq_ok_iff {expression : String} {es : List Edge} :
    edges expression = .ok es ↔ Denotes expression es := by
  constructor
  · intro h
    unfold edges at h
    split at h
    · cases h
    · next found =>
      cases h
      obtain ⟨ts, hts, ⟨rfl, -⟩ | ⟨c, _, absurd⟩⟩ := parse_eq_ok_iff.mp found
      · exact ⟨[], hts, Or.inl ⟨rfl, rfl⟩⟩
      · cases absurd
    · next c found =>
      cases h
      obtain ⟨ts, hts, ⟨_, absurd⟩ | ⟨c', hc, same⟩⟩ := parse_eq_ok_iff.mp found
      · cases absurd
      · cases same
        exact ⟨ts, hts, Or.inr ⟨c, hc, c.edges_eq_products⟩⟩
  · rintro ⟨ts, hts, ⟨rfl, rfl⟩ | ⟨c, hc, rfl⟩⟩
    · have : parse expression = .ok none := parse_eq_ok_iff.mpr ⟨[], hts, Or.inl ⟨rfl, rfl⟩⟩
      rw [edges, this]
    · have : parse expression = .ok (some c) :=
        parse_eq_ok_iff.mpr ⟨ts, hts, Or.inr ⟨c, hc, rfl⟩⟩
      rw [edges, this]
      exact congrArg Except.ok c.edges_eq_products

theorem edges_eq_error {expression : String} {rejection : Rejection}
    (h : edges expression = .error rejection) :
    ∃ reason, rejection = .malformedDependency expression reason := by
  unfold edges at h
  split at h
  · cases h
    exact ⟨_, rfl⟩
  · cases h
  · cases h

theorem Denotes.unique {expression : String} {es fs : List Edge} (h : Denotes expression es)
    (h' : Denotes expression fs) : es = fs :=
  Except.ok.inj ((edges_eq_ok_iff.mpr h).symm.trans (edges_eq_ok_iff.mpr h'))

/-- An expression is accepted exactly if all its characters belong there and its tokens, of which
it has one list, are none at all or an alternation of operands and operators. Its edges are then
the products of neighbouring operands. Any other text is refused as it stands, and a flaw among
tokens points at one of them. -/
theorem edges_exactly_grammatical (expression : String) :
    ((∃ es, edges expression = .ok es) ↔
      Admissible expression.toList ∧
        ∃ ts, Lexes expression.toList ts ∧ (ts = [] ∨ ∃ c, Written c ts)) ∧
    (Admissible expression.toList → ∃! ts, Lexes expression.toList ts) ∧
    (∀ es, edges expression = .ok es ↔ ∃ ts, Lexes expression.toList ts ∧
      (ts = [] ∧ es = [] ∨ ∃ c, Written c ts ∧ es = c.products)) ∧
    (¬ (∃ es, edges expression = .ok es) →
      ∃ reason, edges expression = .error (.malformedDependency expression reason)) ∧
    (∀ place ts ids rest, operand place ts = .ok (ids, rest) →
      ∃ read, read ≠ [] ∧ ts = read ++ rest) ∧
    (∀ ts flaw, Lexes expression.toList ts → chain? ts = .error flaw → flaw.AppliesTo ts) := by
  refine ⟨?_, admissible_iff_existsUnique_lexes.mp, fun _ => edges_eq_ok_iff, ?_, ?_,
    fun _ _ _ => chain?_flaw⟩
  · constructor
    · rintro ⟨es, hes⟩
      obtain ⟨ts, hts, ⟨empty, _⟩ | ⟨c, hc, _⟩⟩ := edges_eq_ok_iff.mp hes
      · exact ⟨hts.admissible, ts, hts, Or.inl empty⟩
      · exact ⟨hts.admissible, ts, hts, Or.inr ⟨c, hc⟩⟩
    · rintro ⟨_, ts, hts, empty | ⟨c, hc⟩⟩
      · exact ⟨[], edges_eq_ok_iff.mpr ⟨ts, hts, Or.inl ⟨empty, rfl⟩⟩⟩
      · exact ⟨c.products, edges_eq_ok_iff.mpr ⟨ts, hts, Or.inr ⟨c, hc, rfl⟩⟩⟩
  · intro refused
    cases h : edges expression with
    | ok es => exact absurd ⟨es, h⟩ refused
    | error rejection =>
      obtain ⟨reason, rfl⟩ := edges_eq_error h
      exact ⟨reason, rfl⟩
  · intro place ts ids rest h
    obtain ⟨read, hread, rfl⟩ := operand_eq_ok_iff.mp h
    exact ⟨read, hread.ne_nil, rfl⟩

end WorkflowCompiler.Workflow.Dependency
