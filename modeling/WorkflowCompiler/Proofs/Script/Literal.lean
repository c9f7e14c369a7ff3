import WorkflowCompiler.Proofs.Json.Numeral
import WorkflowCompiler.Proofs.Json.Ordered
import WorkflowCompiler.Proofs.Script.QuotedText
import WorkflowCompiler.Script.Literal

/-!
Literals evaluate to the values they were made from, wherever they are put: the reader stops
where the literal stops. The proof goes along the value; what it needs of the text behind a
literal is that it does not go on with it.
-/
namespace WorkflowCompiler.Script

open Json (Value Number Members Ordered escaped printable_escaped write writeItems writeMember
  writeMembers)

inductive Integral : Value → Prop
  | null : Integral .null
  | flag (b : Bool) : Integral (.flag b)
  | integer (n : Int) : Integral (.number (.integer n))
  | text (s : String) : Integral (.text s)
  | list {items : List Value} : (∀ v ∈ items, Integral v) → Integral (.list items)
  | object {members : Members} : (∀ m ∈ members, Integral m.2) → Integral (.object members)

theorem integral_texts (texts : List String) : Integral (.texts texts) :=
  .list (List.forall_mem_map.mpr fun s _ => .text s)

/-- The text is at its end, or a delimiter or a line break comes next. -/
def Delimited (rest : List Char) : Prop :=
  ∀ c ∈ rest.head?, c ∈ [')', ',', ']', '\x7d', '\n', '\r']

theorem Delimited.cons {c : Char} {rest : List Char}
    (h : c ∈ [')', ',', ']', '\x7d', '\n', '\r']) : Delimited (c :: rest) := by
  rintro _ ⟨⟩
  exact h

/-- A character that goes on neither with a name nor with a number nor with a quoted text. -/
structure Stop (c : Char) : Prop where
  token : endsToken [c] = true
  numeral : Json.isDigit c = false ∧ c ≠ '.' ∧ c ≠ 'e' ∧ c ≠ 'E'
  quote : c ≠ '"'

theorem Delimited.stop {rest : List Char} (h : Delimited rest) : ∀ c ∈ rest.head?, Stop c := by
  intro c hc
  have delimiter := h c hc
  simp only [List.mem_cons, List.not_mem_nil, or_false] at delimiter
  rcases delimiter with rfl | rfl | rfl | rfl | rfl | rfl <;>
    exact ⟨by decide, by decide, by decide⟩

theorem Delimited.endsToken {rest : List Char} (h : Delimited rest) : endsToken rest = true := by
  cases rest with
  | nil => rfl
  | cons c rest => exact (h.stop c rfl).token

theorem readConstant_append {name : String} {v : Value} (h : (name, v) ∈ constants)
    {rest : List Char} (ends : endsToken rest = true) :
    readConstant (name.toList ++ rest) = some (v, rest) := by
  simp only [constants, List.mem_cons, Prod.mk.injEq, List.not_mem_nil, or_false] at h
  rcases h with ⟨rfl, rfl⟩ | ⟨rfl, rfl⟩ | ⟨rfl, rfl⟩ <;>
    simp [readConstant, constants, List.isPrefixOf?, ends]

theorem readConstant_eq_none {c : Char} {rest : List Char} (h : c ∉ ['N', 'T', 'F']) :
    readConstant (c :: rest) = none := by
  simp only [List.mem_cons, List.not_mem_nil, or_false, not_or] at h
  simp [readConstant, constants, List.isPrefixOf?, Ne.symm h.1, Ne.symm h.2.1, Ne.symm h.2.2]

theorem readNumber_toString (n : Int) {rest : List Char} (ends : Delimited rest) :
    readNumber ((toString n).toList ++ rest) = some (.number (.integer n), rest) := by
  have numeral := Json.numeral_toString n fun c hc => (ends.stop c hc).numeral
  have value : (if decide (n < 0) = true then -(n.natAbs : Int) else n.natAbs) = n := by
    by_cases negative : n < 0
    · simp only [negative, decide_true, if_true]
      omega
    · simp only [negative, decide_false, Bool.false_eq_true, if_false]
      omega
  simp only [readNumber, numeral, Except.toOption, bind, Option.bind, ends.endsToken, if_true,
    numberOf?, Json.ofDigits_digitsOf, value]

/-- A minus or a digit is none of the characters that other literals begin with or that stand
between literals. -/
theorem not_mem_of_numeric {c : Char} (h : c = '-' ∨ c.isDigit = true) :
    c ∉ ['"', '[', '\x7b', 'N', 'T', 'F', ']', '\x7d', ' ', '\n', '\r', '\t'] := by
  intro hc
  simp only [List.mem_cons, List.not_mem_nil, or_false] at hc
  rcases hc with rfl | rfl | rfl | rfl | rfl | rfl | rfl | rfl | rfl | rfl | rfl | rfl <;>
    exact absurd h (by decide)

/-- A literal begins neither with white space nor with what closes a list or a dictionary. -/
theorem write_head {v : Value} (h : Integral v) : ∃ c cs, write python v = c :: cs ∧
    c ∉ [']', '\x7d', ' ', '\n', '\r', '\t'] := by
  cases h with
  | null => exact ⟨'N', _, rfl, by decide⟩
  | flag b =>
    cases b with
    | false => exact ⟨'F', _, rfl, by decide⟩
    | true => exact ⟨'T', _, rfl, by decide⟩
  | integer n =>
    obtain ⟨c, cs, htext, numeric⟩ := Json.toString_head n
    refine ⟨c, cs, htext, fun hc => not_mem_of_numeric numeric ?_⟩
    exact List.mem_append_right ['"', '[', '\x7b', 'N', 'T', 'F'] hc
  | text s => exact ⟨'"', _, rfl, by decide⟩
  | list => exact ⟨'[', _, rfl, by decide⟩
  | object => exact ⟨'\x7b', _, rfl, by decide⟩

/-- There is no white space to skip before a literal. -/
theorem skipGaps_write {v : Value} (h : Integral v) (rest : List Char) :
    Json.skipGaps (write python v ++ rest) = write python v ++ rest := by
  obtain ⟨c, cs, hv, opens⟩ := write_head h
  have gaps : ∀ c, Json.isGap c = true → c ∈ [']', '\x7d', ' ', '\n', '\r', '\t'] := by
    intro c hc
    simp only [Json.isGap, Bool.or_eq_true, beq_iff_eq] at hc
    rcases hc with ((rfl | rfl) | rfl) | rfl <;> decide
  rw [hv]
  exact List.dropWhile_cons_of_neg fun gap => opens (gaps c gap)

theorem writeItems_cons_cons (v w : Value) (items : List Value) :
    writeItems python (v :: w :: items) =
      write python v ++ ',' :: ' ' :: writeItems python (w :: items) := by
  rw [writeItems, List.append_assoc]
  rfl

theorem writeMember_eq (key : String) (v : Value) : writeMember python (key, v) =
    '"' :: (key.toList.flatMap escaped ++ '"' :: ':' :: ' ' :: write python v) := by
  rw [writeMember, List.append_assoc]
  simp [python, Json.writeText]

theorem writeMembers_cons_cons (m n : String × Value) (members : Members) :
    writeMembers python (m :: n :: members) =
      writeMember python m ++ ',' :: ' ' :: writeMembers python (n :: members) := by
  rw [writeMembers, List.append_assoc]
  rfl

theorem skipGaps_writeItems {items : List Value} (integral : ∀ v ∈ items, Integral v)
    (rest : List Char) : Json.skipGaps (writeItems python items ++ ']' :: rest) =
      writeItems python items ++ ']' :: rest := by
  rcases items with _ | ⟨v, _ | ⟨w, items⟩⟩
  · rfl
  · exact skipGaps_write (integral v List.mem_cons_self) _
  · rw [writeItems_cons_cons, List.append_assoc]
    exact skipGaps_write (integral v List.mem_cons_self) _

theorem skipGaps_writeMembers (members : Members) (rest : List Char) :
    Json.skipGaps (writeMembers python members ++ '\x7d' :: rest) =
      writeMembers python members ++ '\x7d' :: rest := by
  rcases members with _ | ⟨⟨key, v⟩, _ | ⟨n, members⟩⟩
  · rfl
  · rw [writeMembers, writeMember_eq]
    rfl
  · rw [writeMembers_cons_cons, writeMember_eq]
    rfl

/-- A value is read back from its literal wherever that stands. -/
def ReadsBack (v : Value) : Prop :=
  ∀ fuel rest, (write python v).length ≤ fuel → Delimited rest →
    readValue fuel (write python v ++ rest) = some (v, rest)

theorem readItems_write {items : List Value} (integral : ∀ v ∈ items, Integral v)
    (each : ∀ v ∈ items, ReadsBack v) {fuel : Nat} {rest : List Char}
    (enough : (writeItems python items).length < fuel) :
    readItems fuel (writeItems python items ++ ']' :: rest) = some (items, rest) := by
  induction items generalizing fuel with
  | nil =>
    obtain ⟨fuel, rfl⟩ := Nat.exists_eq_succ_of_ne_zero (Nat.ne_zero_of_lt enough)
    rw [writeItems, List.nil_append, readItems]
  | cons v items ih =>
    obtain ⟨fuel, rfl⟩ := Nat.exists_eq_succ_of_ne_zero (Nat.ne_zero_of_lt enough)
    obtain ⟨c, cs, hv, opens⟩ := write_head (integral v List.mem_cons_self)
    have notClosed : ∀ others tail, write python v ++ others = ']' :: tail → False := by
      intro others tail same
      rw [hv] at same
      exact opens ((List.cons.inj same).1 ▸ List.mem_cons_self)
    -- a comma follows every item but the last
    cases items with
    | nil =>
      have read : readValue fuel (write python v ++ ']' :: rest) = some (v, ']' :: rest) :=
        each v List.mem_cons_self fuel _ (Nat.le_of_lt_succ enough) (.cons (by decide))
      rw [writeItems, readItems, read]
      · rfl
      · exact notClosed _
    | cons w items =>
      rw [writeItems_cons_cons] at enough ⊢
      simp only [List.length_append, List.length_cons] at enough
      have read := each v List.mem_cons_self fuel
        (',' :: ' ' :: (writeItems python (w :: items) ++ ']' :: rest)) (by omega)
        (.cons (by decide))
      have others := ih (fun x hx => integral x (List.mem_cons_of_mem v hx))
        (fun x hx => each x (List.mem_cons_of_mem v hx)) (by omega : _ < fuel)
      rw [List.append_assoc, List.cons_append, List.cons_append, readItems, read]
      · -- the space after the comma is skipped
        change (readItems fuel (Json.skipGaps
          (writeItems python (w :: items) ++ ']' :: rest))).bind _ = _
        rw [skipGaps_writeItems fun x hx => integral x (List.mem_cons_of_mem v hx), others]
        rfl
      · exact notClosed _

theorem assign_of_notMem {members : Members} {key : String} (v : Value)
    (fresh : key ∉ members.map (·.1)) : assign members key v = members ++ [(key, v)] := by
  have absent : members.contains key = false := by
    rw [Members.contains, List.any_eq_false]
    intro m hm same
    exact fresh (beq_iff_eq.mp same ▸ List.mem_map_of_mem hm)
  rw [assign, absent, if_neg Bool.false_ne_true]

theorem readMember_write {key : String} {v : Value} (integral : Integral v) (back : ReadsBack v)
    {fuel : Nat} {rest : List Char} (enough : (writeMember python (key, v)).length ≤ fuel)
    (ends : Delimited rest) :
    readMember fuel (writeMember python (key, v) ++ rest) = some ((key, v), rest) := by
  rw [writeMember_eq] at enough ⊢
  simp only [List.length_cons, List.length_append] at enough
  obtain ⟨fuel, rfl⟩ : ∃ k, fuel = k + 1 := ⟨fuel - 1, by omega⟩
  have text : readText (key.toList.flatMap escaped ++ '"' :: ':' :: ' ' ::
      (write python v ++ rest)) = some (String.ofList key.toList, _) :=
    readText_escaped key.toList (by rintro _ ⟨⟩; decide)
  have value := back fuel rest (by omega) ends
  simp only [List.cons_append, List.append_assoc]
  rw [readMember, text, String.ofList_toList]
  change (readValue fuel (Json.skipGaps (write python v ++ rest))).bind _ = _
  rw [skipGaps_write integral, value]
  rfl

theorem readMembers_write {members kept : Members} (integral : ∀ m ∈ members, Integral m.2)
    (each : ∀ m ∈ members, ReadsBack m.2) (distinct : ((kept ++ members).map (·.1)).Nodup)
    {fuel : Nat} {rest : List Char} (enough : (writeMembers python members).length < fuel) :
    readMembers fuel kept (writeMembers python members ++ '\x7d' :: rest) =
      some (kept ++ members, rest) := by
  induction members generalizing kept fuel with
  | nil =>
    obtain ⟨fuel, rfl⟩ := Nat.exists_eq_succ_of_ne_zero (Nat.ne_zero_of_lt enough)
    rw [writeMembers, List.nil_append, readMembers, List.append_nil]
  | cons m members ih =>
    obtain ⟨fuel, rfl⟩ := Nat.exists_eq_succ_of_ne_zero (Nat.ne_zero_of_lt enough)
    obtain ⟨key, v⟩ := m
    have fresh : key ∉ kept.map (·.1) := by
      rw [List.map_append, List.nodup_append] at distinct
      exact fun old => distinct.2.2 key old key (by simp) rfl
    have member : ∀ others, (writeMember python (key, v)).length ≤ fuel → Delimited others →
        readMember fuel (writeMember python (key, v) ++ others) = some ((key, v), others) :=
      fun _ => readMember_write (integral _ List.mem_cons_self) (each _ List.mem_cons_self)
    have notClosed : ∀ others tail,
        writeMember python (key, v) ++ others = '\x7d' :: tail → False := by
      intro others tail same
      rw [writeMember_eq] at same
      exact absurd (List.cons.inj same).1 (by decide)
    cases members with
    | nil =>
      rw [writeMembers, readMembers,
        member _ (Nat.le_of_lt_succ enough) (.cons (by decide))]
      · change some (assign kept key v, rest) = _
        rw [assign_of_notMem v fresh]
      · exact notClosed _
    | cons n members =>
      rw [writeMembers_cons_cons] at enough ⊢
      simp only [List.length_append, List.length_cons] at enough
      have others := ih (fun x hx => integral x (List.mem_cons_of_mem _ hx))
        (fun x hx => each x (List.mem_cons_of_mem _ hx))
        (by rwa [List.append_cons] at distinct) (by omega : _ < fuel)
      rw [List.append_assoc, List.cons_append, List.cons_append, readMembers,
        member _ (by omega) (.cons (by decide))]
      · change readMembers fuel (assign kept key v) (Json.skipGaps
          (writeMembers python (n :: members) ++ '\x7d' :: rest)) = _
        rw [skipGaps_writeMembers, assign_of_notMem v fresh, others, ← List.append_cons]
      · exact notClosed _

theorem readValue_of_notMem {c : Char} (h : c ∉ ['"', '[', '\x7b']) (fuel : Nat)
    (cs : List Char) :
    readValue (fuel + 1) (c :: cs) = (readConstant (c :: cs)).or (readNumber (c :: cs)) := by
  rw [readValue]
  · rintro _ ⟨⟩
    exact h (by decide)
  · rintro _ ⟨⟩
    exact h (by decide)
  · rintro _ ⟨⟩
    exact h (by decide)

theorem readValue_constant {name : String} {v : Value} (h : (name, v) ∈ constants)
    (fuel : Nat) {rest : List Char} (ends : Delimited rest) :
    readValue (fuel + 1) (name.toList ++ rest) = some (v, rest) := by
  have begins : ∃ c cs, name.toList = c :: cs ∧ c ∉ ['"', '[', '\x7b'] := by
    simp only [constants, List.mem_cons, Prod.mk.injEq, List.not_mem_nil, or_false] at h
    rcases h with ⟨rfl, _⟩ | ⟨rfl, _⟩ | ⟨rfl, _⟩
    · exact ⟨'N', "one".toList, rfl, by decide⟩
    · exact ⟨'T', "rue".toList, rfl, by decide⟩
    · exact ⟨'F', "alse".toList, rfl, by decide⟩
  obtain ⟨c, cs, hname, first⟩ := begins
  have read := readConstant_append h ends.endsToken
  rw [hname, List.cons_append] at read ⊢
  rw [readValue_of_notMem first, read, Option.some_or]

theorem readValue_toString (n : Int) (fuel : Nat) {rest : List Char} (ends : Delimited rest) :
    readValue (fuel + 1) ((toString n).toList ++ rest) = some (.number (.integer n), rest) := by
  obtain ⟨c, cs, htext, numeric⟩ := Json.toString_head n
  have others := not_mem_of_numeric numeric
  have read := readNumber_toString n ends
  rw [htext, List.cons_append] at read ⊢
  rw [readValue_of_notMem (fun h => others (List.mem_append_left _ h)),
    readConstant_eq_none, Option.none_or, read]
  exact fun h => others (List.mem_append_right ['"', '[', '\x7b'] (List.mem_append_left _ h))

theorem readValue_writeText (s : String) (fuel : Nat) {rest : List Char} (ends : Delimited rest) :
    readValue (fuel + 1) (Json.writeText s ++ rest) = some (.text s, rest) := by
  have text := readText_escaped s.toList fun c hc => (ends.stop c hc).quote
  have spelled : Json.writeText s ++ rest = '"' :: (s.toList.flatMap escaped ++ '"' :: rest) := by
    simp [Json.writeText]
  rw [spelled, readValue, text, String.ofList_toList]
  rfl

/-- A literal has a character, so it is never read with no fuel at all. -/
theorem readsBack_of_succ {v : Value} (integral : Integral v)
    (read : ∀ fuel rest, (write python v).length ≤ fuel + 1 → Delimited rest →
      readValue (fuel + 1) (write python v ++ rest) = some (v, rest)) : ReadsBack v := by
  intro fuel rest enough ends
  obtain ⟨c, cs, hv, _⟩ := write_head integral
  have positive : 0 < fuel := by
    rw [hv, List.length_cons] at enough
    omega
  obtain ⟨fuel, rfl⟩ : ∃ k, fuel = k + 1 := ⟨fuel - 1, by omega⟩
  exact read fuel rest enough ends

/-- By induction on the value: its literal is read back before every delimiter, with as much fuel
as it has characters. -/
theorem readsBack {v : Value} (integral : Integral v) (ordered : Ordered v) : ReadsBack v := by
  have integral' := integral
  induction integral with
  | null =>
    exact readsBack_of_succ integral' fun fuel _ _ =>
      readValue_constant (by simp [constants] : ("None", _) ∈ constants) fuel
  | flag b =>
    refine readsBack_of_succ integral' fun fuel _ _ => ?_
    cases b with
    | false => exact readValue_constant (by simp [constants] : ("False", _) ∈ constants) fuel
    | true => exact readValue_constant (by simp [constants] : ("True", _) ∈ constants) fuel
  | integer n => exact readsBack_of_succ integral' fun fuel _ _ => readValue_toString n fuel
  | text s => exact readsBack_of_succ integral' fun fuel _ _ => readValue_writeText s fuel
  | @list items all each =>
    refine readsBack_of_succ integral' fun fuel rest enough ends => ?_
    have spelled : write python (.list items) = '[' :: (writeItems python items ++ [']']) := rfl
    rw [spelled] at enough ⊢
    simp only [List.length_cons, List.length_append, List.length_nil] at enough
    have read : readItems fuel (writeItems python items ++ ']' :: rest) = some (items, rest) :=
      readItems_write all (fun v hv => each v hv (ordered.of_list v hv) (all v hv)) (by omega)
    rw [List.cons_append, List.append_assoc, readValue, List.singleton_append,
      skipGaps_writeItems all, read]
    rfl
  | @object members all each =>
    refine readsBack_of_succ integral' fun fuel rest enough ends => ?_
    obtain ⟨sorted, ordered⟩ := ordered.of_object
    have spelled : write python (.object members) =
        '\x7b' :: (writeMembers python members ++ ['\x7d']) := rfl
    rw [spelled] at enough ⊢
    simp only [List.length_cons, List.length_append, List.length_nil] at enough
    have distinct : (([] ++ members : Members).map (·.1)).Nodup := sorted.nodup
    have read : readMembers fuel [] (writeMembers python members ++ '\x7d' :: rest) =
        some (members, rest) :=
      readMembers_write all (fun m hm => each m hm (ordered m hm) (all m hm)) distinct (by omega)
    rw [List.cons_append, List.append_assoc, readValue, List.singleton_append,
      skipGaps_writeMembers, read]
    rfl

/-- The literal of a value is read back wherever a delimiter, a line break or nothing follows it.
So is the literal of a text: inside its quotes every quote and every backslash is part of an
escape, and it has no control characters. -/
theorem literal_reads_back :
    (∀ v rest, Ordered v → Integral v → Delimited rest →
      readLiteral ((literal v).toList ++ rest) = some (v, rest)) ∧
    ∀ s : String,
      (∀ rest, Delimited rest →
        readLiteral ((textLiteral s).toList ++ rest) = some (.text s, rest)) ∧
      (∃ body, (textLiteral s).toList = '"' :: (body ++ ['"']) ∧ Enclosed body) ∧
      ∀ c ∈ (textLiteral s).toList, 32 ≤ c.toNat := by
  have back : ∀ v rest, Ordered v → Integral v → Delimited rest →
      readLiteral ((literal v).toList ++ rest) = some (v, rest) := by
    intro v rest ordered integral ends
    rw [literal, String.toList_ofList, readLiteral]
    exact readsBack integral ordered _ rest (by simp) ends
  refine ⟨back, fun s => ⟨fun rest => back (.text s) rest (.text s) (.text s), ?_, ?_⟩⟩
  · exact ⟨_, String.toList_ofList, enclosed_flatMap_escaped s.toList⟩
  · intro c hc
    rw [textLiteral, String.toList_ofList, Json.writeText] at hc
    simp only [List.mem_cons, List.mem_append, List.mem_flatMap, List.not_mem_nil, or_false] at hc
    rcases hc with (rfl | ⟨d, _, hd⟩) | rfl
    · decide
    · exact printable_escaped hd
    · decide

/-- An object with a quote in a key and a line break in another, before a closing parenthesis. -/
theorem literal_reads_back_object : ∃ v : Value,
    v = .object [("a\"b", .list [.null, .number (.integer (-7))]), ("c\n", .text "")] ∧
      Ordered v ∧ Integral v ∧ Delimited [')'] ∧
      readLiteral ((literal v).toList ++ [')']) = some (v, [')']) := by
  refine ⟨_, rfl, ?_⟩
  have ordered : Ordered (.object [("a\"b", .list [.null, .number (.integer (-7))]),
      ("c\n", .text "")]) := by
    refine .object (List.pairwise_pair.mpr (by decide)) fun m hm => ?_
    simp only [List.mem_cons, List.not_mem_nil, or_false] at hm
    rcases hm with rfl | rfl
    · exact .list (by simp [Ordered.null, Ordered.number])
    · exact .text ""
  have integral : Integral (.object [("a\"b", .list [.null, .number (.integer (-7))]),
      ("c\n", .text "")]) := by
    refine .object fun m hm => ?_
    simp only [List.mem_cons, List.not_mem_nil, or_false] at hm
    rcases hm with rfl | rfl
    · exact .list (by simp [Integral.null, Integral.integer])
    · exact .text ""
  have ends : Delimited [')'] := .cons (by decide)
  exact ⟨ordered, integral, ends, literal_reads_back.1 _ [')'] ordered integral ends⟩

end WorkflowCompiler.Script
