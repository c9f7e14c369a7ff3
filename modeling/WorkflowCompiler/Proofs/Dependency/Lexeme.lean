import WorkflowCompiler.Proofs.Success
import WorkflowCompiler.Proofs.Text.Blank
import WorkflowCompiler.Workflow.Dependency.Expression

/-!
The words of dependency expressions. `Lexes` says what tokens a text is cut into without saying
how they are found; the tokenizer finds these tokens whenever there are any, and fails exactly on
the texts that hold something else than id characters, brackets, commas, white space within the
line and whole operators.
-/
namespace WorkflowCompiler.Workflow.Dependency

/-- White space that does not break the line. -/
def IsInlineBlank (c : Char) : Prop :=
  Text.isBlank c = true ∧ c ≠ '\n' ∧ c ≠ '\r'

/-- A character that may stand in an expression by itself. -/
def IsPlain (c : Char) : Prop :=
  isIdCharacter c = true ∨ c = '[' ∨ c = ']' ∨ c = ',' ∨ IsInlineBlank c

/-- Texts in which angles come in pairs and every other character is plain. -/
inductive Admissible : List Char → Prop
  | nil : Admissible []
  | plain {c : Char} {rest : List Char} : IsPlain c → Admissible rest → Admissible (c :: rest)
  | before {rest : List Char} : Admissible rest → Admissible ('>' :: '>' :: rest)
  | after {rest : List Char} : Admissible rest → Admissible ('<' :: '<' :: rest)

/-- The tokens that a text is cut into. An id goes on as far as id characters do. -/
inductive Lexes : List Char → List Token → Prop
  | nil : Lexes [] []
  | blank {c : Char} {rest : List Char} {ts : List Token} :
      IsInlineBlank c → Lexes rest ts → Lexes (c :: rest) ts
  | opening {rest : List Char} {ts : List Token} :
      Lexes rest ts → Lexes ('[' :: rest) (.opening :: ts)
  | closing {rest : List Char} {ts : List Token} :
      Lexes rest ts → Lexes (']' :: rest) (.closing :: ts)
  | comma {rest : List Char} {ts : List Token} :
      Lexes rest ts → Lexes (',' :: rest) (.comma :: ts)
  | before {rest : List Char} {ts : List Token} :
      Lexes rest ts → Lexes ('>' :: '>' :: rest) (.operator .before :: ts)
  | after {rest : List Char} {ts : List Token} :
      Lexes rest ts → Lexes ('<' :: '<' :: rest) (.operator .after :: ts)
  | id {name rest : List Char} {ts : List Token} :
      name ≠ [] → (∀ c ∈ name, isIdCharacter c = true) →
      (∀ c ∈ rest.head?, isIdCharacter c = false) →
      Lexes rest ts → Lexes (name ++ rest) (.id (String.ofList name) :: ts)

theorem isIdCharacter_of_mem_takeWhile {cs : List Char} :
    ∀ c ∈ cs.takeWhile isIdCharacter, isIdCharacter c = true :=
  List.all_eq_true.mp List.all_takeWhile

theorem isIdCharacter_head_dropWhile {cs : List Char} :
    ∀ c ∈ (cs.dropWhile isIdCharacter).head?, isIdCharacter c = false := by
  intro c hc
  have := List.head?_dropWhile_not isIdCharacter cs
  rw [Option.mem_def.mp hc] at this
  exact this

/-- The tokenizer only finds what is there. -/
theorem lexes_of_tokens {cs : List Char} {ts : List Token} (h : tokens cs = .ok ts) :
    Lexes cs ts := by
  fun_induction tokens cs generalizing ts with
  | case1 => cases h; exact .nil
  | case2 => cases h
  | case3 c rest line blank ih => exact .blank ⟨blank, not_or.mp line⟩ (ih h)
  | case4 rest _ _ ih =>
    obtain ⟨us, hus, hts⟩ := bind_eq_ok_iff.mp h
    cases hts
    exact .opening (ih hus)
  | case5 rest _ _ _ ih =>
    obtain ⟨us, hus, hts⟩ := bind_eq_ok_iff.mp h
    cases hts
    exact .closing (ih hus)
  | case6 rest _ _ _ _ ih =>
    obtain ⟨us, hus, hts⟩ := bind_eq_ok_iff.mp h
    cases hts
    exact .comma (ih hus)
  | case7 => cases h
  | case8 c rest _ _ _ _ _ angle ih =>
    obtain ⟨us, hus, hts⟩ := bind_eq_ok_iff.mp h
    cases hts
    rcases angle with rfl | rfl
    · exact .before (ih hus)
    · exact .after (ih hus)
  | case9 => cases h
  | case10 c rest _ _ _ _ _ _ hc name =>
    rename_i ih
    obtain ⟨us, hus, hts⟩ := bind_eq_ok_iff.mp h
    cases hts
    have front : ∀ d ∈ c :: rest.takeWhile isIdCharacter, isIdCharacter d = true := by
      intro d hd
      rcases List.mem_cons.mp hd with rfl | hd
      · exact hc
      · exact isIdCharacter_of_mem_takeWhile d hd
    have := Lexes.id (List.cons_ne_nil _ _) front isIdCharacter_head_dropWhile (ih hus)
    rwa [List.cons_append, List.takeWhile_append_dropWhile] at this
  | case11 => cases h

theorem ne_of_isIdCharacter {c d : Char} (hc : isIdCharacter c = true)
    (hd : isIdCharacter d = false) : c ≠ d := by
  rintro rfl
  rw [hc] at hd
  cases hd

theorem isBlank_eq_false_of_isIdCharacter {c : Char} (h : isIdCharacter c = true) :
    Text.isBlank c = false := by
  by_contra blank
  have blank : Text.isBlank c = true := by simpa using blank
  have letter : c = '_' := by
    simpa [isIdCharacter, Text.isAlphanumeric_eq_false_of_isBlank blank] using h
  subst letter
  exact absurd blank (by decide)

/-- An id at the front of a text is read whole. -/
theorem tokens_id_append {name rest : List Char} {ts : List Token} (nonempty : name ≠ [])
    (all : ∀ c ∈ name, isIdCharacter c = true)
    (stop : ∀ c ∈ rest.head?, isIdCharacter c = false) (h : tokens rest = .ok ts) :
    tokens (name ++ rest) = .ok (.id (String.ofList name) :: ts) := by
  obtain ⟨c, more, rfl⟩ := List.exists_cons_of_ne_nil nonempty
  have hc : isIdCharacter c = true := all c List.mem_cons_self
  have front : (more ++ rest).takeWhile isIdCharacter = more := by
    rw [List.takeWhile_append_of_pos fun d hd => all d (List.mem_cons_of_mem c hd)]
    cases rest with
    | nil => simp
    | cons d rest => simp [stop d (by simp)]
  have back : (more ++ rest).dropWhile isIdCharacter = rest := by
    rw [List.dropWhile_append_of_pos fun d hd => all d (List.mem_cons_of_mem c hd)]
    cases rest with
    | nil => simp
    | cons d rest => simp [stop d (by simp)]
  have apart : ∀ d, isIdCharacter d = false → c ≠ d := fun d hd => ne_of_isIdCharacter hc hd
  rw [List.cons_append, tokens.eq_def]
  simp [apart '\n' (by decide), apart '\r' (by decide), isBlank_eq_false_of_isIdCharacter hc,
    apart '[' (by decide), apart ']' (by decide), apart ',' (by decide), apart '>' (by decide),
    apart '<' (by decide), hc, front, back, h, bind, Except.bind]

/-- The tokenizer finds whatever tokens there are. -/
theorem tokens_of_lexes {cs : List Char} {ts : List Token} (h : Lexes cs ts) :
    tokens cs = .ok ts := by
  induction h with
  | nil => rw [tokens.eq_def]
  | blank blank _ ih =>
    rw [tokens.eq_def]
    simp [blank.1, blank.2.1, blank.2.2, ih]
  | opening _ ih => rw [tokens.eq_def]; simp [ih, bind, Except.bind, Text.isBlank]
  | closing _ ih => rw [tokens.eq_def]; simp [ih, bind, Except.bind, Text.isBlank]
  | comma _ ih => rw [tokens.eq_def]; simp [ih, bind, Except.bind, Text.isBlank]
  | before _ ih => rw [tokens.eq_def]; simp [ih, bind, Except.bind, Text.isBlank]
  | after _ ih => rw [tokens.eq_def]; simp [ih, bind, Except.bind, Text.isBlank]
  | id nonempty all stop _ ih => exact tokens_id_append nonempty all stop ih

theorem tokens_eq_ok_iff {cs : List Char} {ts : List Token} :
    tokens cs = .ok ts ↔ Lexes cs ts :=
  ⟨lexes_of_tokens, tokens_of_lexes⟩

theorem Lexes.unique {cs : List Char} {ts us : List Token} (h : Lexes cs ts)
    (h' : Lexes cs us) : ts = us :=
  Except.ok.inj ((tokens_of_lexes h).symm.trans (tokens_of_lexes h'))

/-- What is neither white space nor belongs to ids, brackets and operators is in no expression. -/
theorem Lexes.not_mem {cs : List Char} {ts : List Token} {d : Char} (h : Lexes cs ts)
    (visible : Text.isBlank d = false) (foreign : isIdCharacter d = false)
    (other : d ∉ ['[', ']', ',', '>', '<']) : d ∉ cs := by
  simp only [List.mem_cons, List.not_mem_nil, or_false, not_or] at other
  induction h with
  | nil => exact List.not_mem_nil
  | blank blank _ ih =>
    intro hd
    rcases List.mem_cons.mp hd with rfl | hd
    · exact absurd (blank.1.symm.trans visible) (by decide)
    · exact ih hd
  | opening _ ih => simpa [other] using ih
  | closing _ ih => simpa [other] using ih
  | comma _ ih => simpa [other] using ih
  | before _ ih => simpa [other] using ih
  | after _ ih => simpa [other] using ih
  | id _ all _ _ ih =>
    intro hd
    rcases List.mem_append.mp hd with hd | hd
    · exact ne_of_isIdCharacter (all _ hd) foreign rfl
    · exact ih hd

/-- Nothing in an expression begins a comment. -/
theorem Lexes.not_mem_hash {cs : List Char} {ts : List Token} (h : Lexes cs ts) : '#' ∉ cs :=
  h.not_mem (by decide) (by decide) (by decide)

/-- Nothing in an expression assigns. -/
theorem Lexes.not_mem_equals {cs : List Char} {ts : List Token} (h : Lexes cs ts) : '=' ∉ cs :=
  h.not_mem (by decide) (by decide) (by decide)

theorem Admissible.append_id {name rest : List Char}
    (all : ∀ c ∈ name, isIdCharacter c = true) (h : Admissible rest) :
    Admissible (name ++ rest) := by
  induction name with
  | nil => exact h
  | cons c more ih =>
    exact .plain (Or.inl (all c List.mem_cons_self))
      (ih fun d hd => all d (List.mem_cons_of_mem c hd))

theorem Lexes.admissible {cs : List Char} {ts : List Token} (h : Lexes cs ts) :
    Admissible cs := by
  induction h with
  | nil => exact .nil
  | blank blank _ ih => exact .plain (by simp [IsPlain, blank]) ih
  | opening _ ih => exact .plain (by simp [IsPlain]) ih
  | closing _ ih => exact .plain (by simp [IsPlain]) ih
  | comma _ ih => exact .plain (by simp [IsPlain]) ih
  | before _ ih => exact .before ih
  | after _ ih => exact .after ih
  | id _ all _ _ ih => exact ih.append_id all

/-- An id character before a text that has tokens either begins the first of them or makes an
id of its own. -/
theorem Lexes.cons_id {c : Char} {rest : List Char} {ts : List Token}
    (hc : isIdCharacter c = true) (h : Lexes rest ts) : ∃ us, Lexes (c :: rest) us := by
  have alone : ∀ d ∈ [c], isIdCharacter d = true := by simpa using hc
  cases rest with
  | nil => exact ⟨_, .id (List.cons_ne_nil c []) alone (by simp) h⟩
  | cons d rest =>
    by_cases hd : isIdCharacter d = true
    · generalize same : d :: rest = cs at h
      cases h with
      | id nonempty all stop h =>
        rename_i name rest' ts
        have all' : ∀ e ∈ c :: name, isIdCharacter e = true := by
          intro e he
          rcases List.mem_cons.mp he with rfl | he
          · exact hc
          · exact all e he
        rw [← List.cons_append]
        exact ⟨_, .id (List.cons_ne_nil c name) all' stop h⟩
      | nil => cases same
      | blank blank _ =>
        cases same
        rw [IsInlineBlank, isBlank_eq_false_of_isIdCharacter hd] at blank
        cases blank.1
      | opening => cases same; exact absurd hd (by decide)
      | closing => cases same; exact absurd hd (by decide)
      | comma => cases same; exact absurd hd (by decide)
      | before => cases same; exact absurd hd (by decide)
      | after => cases same; exact absurd hd (by decide)
    · exact ⟨_, .id (List.cons_ne_nil c []) alone (by simpa using hd) h⟩

theorem Admissible.exists_lexes {cs : List Char} (h : Admissible cs) : ∃ ts, Lexes cs ts := by
  induction h with
  | nil => exact ⟨[], .nil⟩
  | plain hc _ ih =>
    obtain ⟨ts, hts⟩ := ih
    rcases hc with hc | rfl | rfl | rfl | hc
    · exact hts.cons_id hc
    · exact ⟨_, hts.opening⟩
    · exact ⟨_, hts.closing⟩
    · exact ⟨_, hts.comma⟩
    · exact ⟨_, .blank hc hts⟩
  | before _ ih => exact ih.elim fun ts hts => ⟨_, hts.before⟩
  | after _ ih => exact ih.elim fun ts hts => ⟨_, hts.after⟩

/-- Exactly the admissible texts have tokens, and each has one list of them. -/
theorem admissible_iff_existsUnique_lexes {cs : List Char} :
    Admissible cs ↔ ∃! ts, Lexes cs ts := by
  constructor
  · intro h
    obtain ⟨ts, hts⟩ := h.exists_lexes
    exact ⟨ts, hts, fun us hus => hus.unique hts⟩
  · rintro ⟨ts, hts, _⟩
    exact hts.admissible

end WorkflowCompiler.Workflow.Dependency
