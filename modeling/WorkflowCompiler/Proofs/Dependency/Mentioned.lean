import WorkflowCompiler.Proofs.Dependency.Grammar

/-!
Three ways to find the ids in an expression. Blotting out operators and cutting at white space
gives the ids among the tokens, in their order, wherever there are tokens, and so do the longest
runs of id characters; in a chain these are the members of its operands, and the ends of its edges
are among them.
-/
namespace WorkflowCompiler.Workflow.Dependency

def names (ts : List Token) : List String :=
  ts.filterMap fun
    | .id name => some name
    | _ => none

theorem mem_names {ts : List Token} {name : String} : name ∈ names ts ↔ .id name ∈ ts := by
  simp only [names, List.mem_filterMap]
  constructor
  · rintro ⟨t, ht, h⟩
    cases t with
    | id other => cases h; exact ht
    | operator o => cases h
    | opening => cases h
    | closing => cases h
    | comma => cases h
  · intro h
    exact ⟨.id name, h, rfl⟩

theorem withoutOperators_cons {c : Char} {cs : List Char} (h : c ≠ '>') (h' : c ≠ '<') :
    withoutOperators (c :: cs) =
      (if c = '[' ∨ c = ']' ∨ c = ',' then ' ' else c) :: withoutOperators cs := by
  rw [withoutOperators]
  · rintro rest rfl _
    exact h rfl
  · rintro rest rfl _
    exact h' rfl

theorem withoutOperators_id_append {name rest : List Char}
    (all : ∀ c ∈ name, isIdCharacter c = true) :
    withoutOperators (name ++ rest) = name ++ withoutOperators rest := by
  induction name with
  | nil => rfl
  | cons c name ih =>
    have hc := all c List.mem_cons_self
    have apart : ∀ d, isIdCharacter d = false → c ≠ d := fun d hd => ne_of_isIdCharacter hc hd
    rw [List.cons_append, withoutOperators_cons (apart '>' (by decide)) (apart '<' (by decide)),
      ih fun d hd => all d (List.mem_cons_of_mem c hd)]
    simp [apart '[' (by decide), apart ']' (by decide), apart ',' (by decide)]

theorem withoutOperators_cons_blank {c : Char} (h : IsInlineBlank c) (cs : List Char) :
    withoutOperators (c :: cs) = c :: withoutOperators cs := by
  have apart : ∀ d, Text.isBlank d = false → c ≠ d := by
    rintro d hd rfl
    rw [h.1] at hd
    cases hd
  rw [withoutOperators_cons (apart '>' (by decide)) (apart '<' (by decide))]
  simp [apart '[' (by decide), apart ']' (by decide), apart ',' (by decide)]

/-- What follows an id is blotted out or white space. -/
theorem Lexes.blank_after_id {rest : List Char} {ts : List Token} (h : Lexes rest ts)
    (stop : ∀ c ∈ rest.head?, isIdCharacter c = false) :
    ∀ c ∈ (withoutOperators rest).head?, Text.isBlank c = true := by
  cases h with
  | nil => simp [withoutOperators]
  | blank blank _ =>
    rw [withoutOperators_cons_blank blank]
    simp [blank.1]
  | opening => simp [withoutOperators, Text.isBlank]
  | closing => simp [withoutOperators, Text.isBlank]
  | comma => simp [withoutOperators, Text.isBlank]
  | before => simp [withoutOperators, Text.isBlank]
  | after => simp [withoutOperators, Text.isBlank]
  | id nonempty all _ _ =>
    rename_i name rest ts
    obtain ⟨c, more, rfl⟩ := List.exists_cons_of_ne_nil nonempty
    have := stop c (by simp)
    rw [all c List.mem_cons_self] at this
    cases this

/-- The two ways to find ids agree. -/
theorem Lexes.wordsOf_withoutOperators {cs : List Char} {ts : List Token} (h : Lexes cs ts) :
    (Text.wordsOf (withoutOperators cs)).map String.ofList = names ts := by
  have space : Text.isBlank ' ' = true := by decide
  induction h with
  | nil => rfl
  | blank blank _ ih =>
    rw [withoutOperators_cons_blank blank, Text.wordsOf_cons_blank blank.1]
    exact ih
  | opening _ ih =>
    rw [withoutOperators_cons (by decide) (by decide), if_pos (by decide),
      Text.wordsOf_cons_blank space]
    exact ih
  | closing _ ih =>
    rw [withoutOperators_cons (by decide) (by decide), if_pos (by decide),
      Text.wordsOf_cons_blank space]
    exact ih
  | comma _ ih =>
    rw [withoutOperators_cons (by decide) (by decide), if_pos (by decide),
      Text.wordsOf_cons_blank space]
    exact ih
  | before _ ih =>
    rw [withoutOperators, Text.wordsOf_cons_blank space]
    exact ih
  | after _ ih =>
    rw [withoutOperators, Text.wordsOf_cons_blank space]
    exact ih
  | id nonempty all stop rest ih =>
    rw [withoutOperators_id_append all, Text.wordsOf_append_of_word nonempty
      (fun c hc => isBlank_eq_false_of_isIdCharacter (all c hc)) (rest.blank_after_id stop),
      List.map_cons, ih]
    rfl

theorem mentioned_eq_names {expression : String} {ts : List Token}
    (h : Lexes expression.toList ts) : mentioned expression = names ts :=
  h.wordsOf_withoutOperators

/-- The longest runs of id characters are the ids among the tokens. -/
theorem Lexes.runsOf_eq_names {cs : List Char} {ts : List Token} (h : Lexes cs ts) :
    (Text.runsOf (!isIdCharacter ·) cs).map String.ofList = names ts := by
  induction h with
  | nil => rfl
  | @blank c _ _ blank _ ih =>
    have separator : (!isIdCharacter c) = true := by
      rw [Bool.not_eq_true', Bool.eq_false_iff]
      intro hc
      exact absurd (isBlank_eq_false_of_isIdCharacter hc) (by simp [blank.1])
    rw [Text.runsOf_cons_of_pos separator]
    exact ih
  | opening _ ih =>
    rw [Text.runsOf_cons_of_pos (by decide)]
    exact ih
  | closing _ ih =>
    rw [Text.runsOf_cons_of_pos (by decide)]
    exact ih
  | comma _ ih =>
    rw [Text.runsOf_cons_of_pos (by decide)]
    exact ih
  | before _ ih =>
    rw [Text.runsOf_cons_of_pos (by decide), Text.runsOf_cons_of_pos (by decide)]
    exact ih
  | after _ ih =>
    rw [Text.runsOf_cons_of_pos (by decide), Text.runsOf_cons_of_pos (by decide)]
    exact ih
  | id nonempty all stop _ ih =>
    rw [Text.runsOf_append nonempty (fun c hc => by simp [all c hc])
      (fun c hc => by simp [stop c hc]), List.map_cons, ih]
    rfl

theorem Lexes.isIdCharacter_of_mem_names {cs : List Char} {ts : List Token} (h : Lexes cs ts)
    {name : String} (hname : name ∈ names ts) : ∀ c ∈ name.toList, isIdCharacter c = true := by
  rw [mem_names] at hname
  induction h with
  | nil => cases hname
  | blank _ _ ih => exact ih hname
  | opening _ ih => exact ih (by simpa using hname)
  | closing _ ih => exact ih (by simpa using hname)
  | comma _ ih => exact ih (by simpa using hname)
  | before _ ih => exact ih (by simpa using hname)
  | after _ ih => exact ih (by simpa using hname)
  | id _ all _ _ ih =>
    rcases List.mem_cons.mp hname with same | hname
    · cases same
      simpa using all
    · exact ih hname

theorem names_append (ts us : List Token) : names (ts ++ us) = names ts ++ names us :=
  List.filterMap_append

theorem names_commaSeparated (ids : List String) : names (commaSeparated ids) = ids := by
  induction ids with
  | nil => rfl
  | cons name ids ih =>
    by_cases last : ids = []
    · rw [last]
      rfl
    · rw [commaSeparated_cons last]
      exact congrArg (name :: ·) ih

theorem Operand.names {ids : List String} {ts : List Token} (h : Operand ids ts) :
    Dependency.names ts = ids := by
  cases h with
  | single name => rfl
  | group _ =>
    change Dependency.names (commaSeparated ids ++ _) = ids
    rw [names_append, names_commaSeparated]
    exact List.append_nil ids
  | groupWithComma _ =>
    change Dependency.names (commaSeparated ids ++ _) = ids
    rw [names_append, names_commaSeparated]
    exact List.append_nil ids

theorem Links.names {rest : List (Operator × List String)} {ts : List Token}
    (h : Links rest ts) : Dependency.names ts = (rest.map (·.2)).flatten := by
  induction h with
  | nil => rfl
  | cons first _ ih =>
    rename_i o ids rest us vs _
    change Dependency.names (us ++ vs) = _
    rw [names_append, first.names, ih]
    rfl

/-- The ids among the tokens of a chain are the members of its operands, one after another. -/
theorem Written.names {c : Chain} {ts : List Token} (h : Written c ts) :
    Dependency.names ts = c.operands.flatten := by
  obtain ⟨first, rest⟩ := h
  rw [names_append, first.names, rest.names]
  rfl

theorem Chain.mem_operands_of_mem_products {c : Chain} {a b : String}
    (h : (a, b) ∈ c.products) : a ∈ c.operands.flatten ∧ b ∈ c.operands.flatten := by
  obtain ⟨⟨left, o, right⟩, hlink, hedge⟩ := List.mem_flatMap.mp h
  obtain ⟨hleft, hright⟩ := List.of_mem_zip hlink
  have hoperand : right ∈ c.operands := List.mem_cons_of_mem _ (List.mem_map_of_mem hright)
  cases o with
  | before =>
    have := List.mem_product.mp hedge
    exact ⟨List.mem_flatten.mpr ⟨left, hleft, this.1⟩,
      List.mem_flatten.mpr ⟨right, hoperand, this.2⟩⟩
  | after =>
    obtain ⟨⟨l, r⟩, hpair, same⟩ := List.mem_map.mp hedge
    cases same
    have := List.mem_product.mp hpair
    exact ⟨List.mem_flatten.mpr ⟨right, hoperand, this.2⟩,
      List.mem_flatten.mpr ⟨left, hleft, this.1⟩⟩

/-- The ends of an edge are ids that the expression mentions. -/
theorem Denotes.mem_mentioned {expression : String} {es : List Edge}
    (h : Denotes expression es) {a b : String} (edge : (a, b) ∈ es) :
    a ∈ mentioned expression ∧ b ∈ mentioned expression := by
  obtain ⟨ts, hts, ⟨_, rfl⟩ | ⟨c, hc, rfl⟩⟩ := h
  · cases edge
  · rw [mentioned_eq_names hts, hc.names]
    exact c.mem_operands_of_mem_products edge

theorem Denotes.isIdCharacter {expression : String} {es : List Edge}
    (h : Denotes expression es) {name : String} (hname : name ∈ mentioned expression) :
    ∀ c ∈ name.toList, Dependency.isIdCharacter c = true := by
  obtain ⟨ts, hts, _⟩ := h
  rw [mentioned_eq_names hts] at hname
  exact hts.isIdCharacter_of_mem_names hname

end WorkflowCompiler.Workflow.Dependency
