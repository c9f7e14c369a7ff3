import WorkflowCompiler.Proofs.Json.Numeral
import WorkflowCompiler.Proofs.Json.Ordered
import WorkflowCompiler.Proofs.Json.Text

/-!
Written values are read back. A reader that is given the compact text of a value takes exactly
that text, provided that what follows does not go on with a number; lists and objects are read
back when their items and members are, so the proof goes along the value.
-/
namespace WorkflowCompiler.Json

/-- Values that a document can hold without loss: numbers are integers of 64 bits, the members
of objects are sorted, and at most so many lists and objects lie inside one another. -/
inductive Portable : Nat → Value → Prop
  | null {depth : Nat} : Portable depth .null
  | flag {depth : Nat} (b : Bool) : Portable depth (.flag b)
  | integer {depth : Nat} {n : Int} : Exact n → Portable depth (.number (.integer n))
  | text {depth : Nat} (s : String) : Portable depth (.text s)
  | list {depth : Nat} {items : List Value} : (∀ v ∈ items, Portable depth v) →
      Portable (depth + 1) (.list items)
  | object {depth : Nat} {members : Members} : members.Sorted →
      (∀ m ∈ members, Portable depth m.2) → Portable (depth + 1) (.object members)

/-- The text does not go on with a number. -/
def Ends (rest : List Char) : Prop :=
  ∀ c ∈ rest.head?, isDigit c = false ∧ c ≠ '.' ∧ c ≠ 'e' ∧ c ≠ 'E'

theorem ends_nil : Ends [] := by
  rintro c ⟨⟩

theorem ends_cons {c : Char} {rest : List Char} (h : c ∈ [',', ']', '\x7d']) :
    Ends (c :: rest) := by
  rintro _ ⟨⟩
  simp only [List.mem_cons, List.not_mem_nil, or_false] at h
  rcases h with rfl | rfl | rfl <;> decide

/-- The reader takes the text and gives what it stands for, whatever follows. -/
def Takes {α : Type} (reader : List Char → Reading (Before α)) (text : List Char) (a : α) : Prop :=
  ∀ rest, Ends rest → reader (text ++ rest) = .ok (a, rest)

def Closes (c : Char) : Prop :=
  isGap c = true ∨ c = ']' ∨ c = '\x7d'

/-- The text of a value has a first character, and this neither is white space nor closes a
list or an object. -/
theorem compact_head {depth : Nat} {v : Value} (h : Portable depth v) :
    ∃ c cs, write compact v = c :: cs ∧ ¬ Closes c := by
  cases h with
  | null => exact ⟨'n', _, rfl, by simp [Closes, isGap]⟩
  | flag b =>
    cases b with
    | false => exact ⟨'f', _, rfl, by simp [Closes, isGap]⟩
    | true => exact ⟨'t', _, rfl, by simp [Closes, isGap]⟩
  | integer =>
    rename_i n _
    obtain ⟨c, cs, htext, numeric⟩ := toString_head n
    refine ⟨c, cs, htext, ?_⟩
    rintro (gap | rfl | rfl)
    · simp only [isGap, Bool.or_eq_true, beq_iff_eq] at gap
      rcases gap with ((rfl | rfl) | rfl) | rfl <;> exact absurd numeric (by decide)
    · exact absurd numeric (by decide)
    · exact absurd numeric (by decide)
  | text s => exact ⟨'"', _, rfl, by simp [Closes, isGap]⟩
  | list => exact ⟨'[', _, rfl, by simp [Closes, isGap]⟩
  | object => exact ⟨'\x7b', _, rfl, by simp [Closes, isGap]⟩

theorem skipGaps_cons {c : Char} (h : isGap c = false) (rest : List Char) :
    skipGaps (c :: rest) = c :: rest :=
  List.dropWhile_cons_of_neg (by simp [h])

theorem compact_items_cons_cons (v w : Value) (items : List Value) :
    writeItems compact (v :: w :: items) =
      write compact v ++ ',' :: writeItems compact (w :: items) := by
  rw [writeItems, List.append_assoc]
  rfl

theorem compact_member (key : String) (v : Value) : writeMember compact (key, v) =
    '"' :: (key.toList.flatMap escaped ++ '"' :: ':' :: write compact v) := by
  rw [writeMember, List.append_assoc]
  simp [compact, writeText]

theorem compact_members_cons_cons (m n : String × Value) (members : Members) :
    writeMembers compact (m :: n :: members) =
      writeMember compact m ++ ',' :: writeMembers compact (n :: members) := by
  rw [writeMembers, List.append_assoc]
  rfl

/-- Each item takes a character at least, so the length of the text is fuel enough. -/
theorem length_le_compact_items {depth : Nat} {items : List Value}
    (portable : ∀ v ∈ items, Portable depth v) :
    items.length ≤ (writeItems compact items).length := by
  induction items with
  | nil => exact Nat.le_refl _
  | cons v items ih =>
    obtain ⟨c, cs, hv, _⟩ := compact_head (portable v List.mem_cons_self)
    have others := ih fun w hw => portable w (List.mem_cons_of_mem v hw)
    cases items with
    | nil => simp [writeItems, hv]
    | cons w items =>
      rw [compact_items_cons_cons, hv]
      simp only [List.length_cons, List.length_append] at others ⊢
      omega

theorem length_le_compact_members (members : Members) :
    members.length ≤ (writeMembers compact members).length := by
  induction members with
  | nil => exact Nat.le_refl _
  | cons m members ih =>
    obtain ⟨key, v⟩ := m
    cases members with
    | nil => simp [writeMembers, compact_member]
    | cons n members =>
      rw [compact_members_cons_cons, compact_member]
      simp only [List.length_cons, List.length_append] at ih ⊢
      omega

section Items

variable {item : List Char → Reading (Before Value)} {items : List Value}

/-- Items after the first are read one by one; a comma follows each but the last. -/
theorem moreItems_compact (rest : List Char) (nonempty : items ≠ [])
    (each : ∀ v ∈ items, Takes item (write compact v) v) {fuel : Nat} (kept : List Value)
    (enough : items.length ≤ fuel) :
    moreItems item fuel kept (writeItems compact items ++ ']' :: rest) =
      .ok (kept.reverse ++ items, rest) := by
  induction items generalizing kept fuel with
  | nil => exact absurd rfl nonempty
  | cons v items ih =>
    obtain ⟨fuel, rfl⟩ : ∃ k, fuel = k + 1 := ⟨fuel - 1, by simp at enough; omega⟩
    have first := each v List.mem_cons_self
    cases items with
    | nil =>
      rw [writeItems, moreItems, first (']' :: rest) (ends_cons (by decide))]
      simp only [bind, Except.bind, skipGaps_cons (by decide : isGap ']' = false),
        List.reverse_cons]
    | cons w items =>
      have others := ih (List.cons_ne_nil w items)
        (fun x hx => each x (List.mem_cons_of_mem v hx)) (v :: kept)
        (Nat.le_of_succ_le_succ enough)
      rw [compact_items_cons_cons, List.append_assoc, List.cons_append, moreItems,
        first (',' :: (writeItems compact (w :: items) ++ ']' :: rest)) (ends_cons (by decide))]
      simp only [bind, Except.bind, skipGaps_cons (by decide : isGap ',' = false), others]
      simp

/-- The items of a list, up to and with the closing bracket. -/
theorem items_compact {depth : Nat} (portable : ∀ v ∈ items, Portable depth v)
    (each : ∀ v ∈ items, Takes item (write compact v) v) (rest : List Char) :
    Json.items item (writeItems compact items ++ ']' :: rest) = .ok (items, rest) := by
  cases items with
  | nil => rfl
  | cons v others =>
    have enough : (v :: others).length ≤ (writeItems compact (v :: others) ++ ']' :: rest).length :=
      (length_le_compact_items portable).trans (by simp)
    have read := moreItems_compact rest (List.cons_ne_nil v others) each [] enough
    obtain ⟨c, cs, hv, opens⟩ := compact_head (portable v List.mem_cons_self)
    have begins : ∃ tail, writeItems compact (v :: others) ++ ']' :: rest = c :: tail := by
      cases others with
      | nil => exact ⟨_, by rw [writeItems, hv, List.cons_append]⟩
      | cons w others => exact ⟨_, by rw [compact_items_cons_cons, hv]; rfl⟩
    obtain ⟨tail, htail⟩ := begins
    have noGap : isGap c = false := by
      simpa using fun gap => opens (Or.inl gap)
    rw [htail] at read ⊢
    unfold Json.items
    rw [skipGaps_cons noGap]
    split
    · next same => exact absurd (Or.inr (Or.inl (List.cons.inj same).1)) opens
    · exact read

end Items

section Members

variable {α : Type} {item : String → List Char → Reading (Before α)} {found : String × Value → α}
  {members : Members}

theorem member_compact {m : String × Value}
    (takes : Takes (item m.1) (write compact m.2) (found m)) :
    Takes (member item) (writeMember compact m) (m.1, found m) := by
  intro rest ends
  obtain ⟨key, v⟩ := m
  have text := textBody_flatMap_escaped [] key.toList (':' :: (write compact v ++ rest))
  rw [List.reverse_nil, List.nil_append, String.ofList_toList] at text
  rw [compact_member]
  simp only [List.cons_append, List.append_assoc]
  unfold member
  rw [skipGaps_cons (by decide)]
  simp only [text, bind, Except.bind, skipGaps_cons (by decide : isGap ':' = false),
    takes rest ends]

theorem moreMembers_compact (rest : List Char) (nonempty : members ≠ [])
    (each : ∀ m ∈ members, Takes (item m.1) (write compact m.2) (found m)) {fuel : Nat}
    (kept : List (String × α)) (enough : members.length ≤ fuel) :
    moreMembers item fuel kept (writeMembers compact members ++ '\x7d' :: rest) =
      .ok (kept.reverse ++ members.map fun m => (m.1, found m), rest) := by
  induction members generalizing kept fuel with
  | nil => exact absurd rfl nonempty
  | cons m members ih =>
    obtain ⟨fuel, rfl⟩ : ∃ k, fuel = k + 1 := ⟨fuel - 1, by simp at enough; omega⟩
    have first := member_compact (each m List.mem_cons_self)
    cases members with
    | nil =>
      rw [writeMembers, moreMembers, first ('\x7d' :: rest) (ends_cons (by decide))]
      simp only [bind, Except.bind, skipGaps_cons (by decide : isGap '\x7d' = false),
        List.reverse_cons, List.map_cons, List.map_nil]
    | cons n members =>
      have others := ih (List.cons_ne_nil n members)
        (fun x hx => each x (List.mem_cons_of_mem m hx)) ((m.1, found m) :: kept)
        (Nat.le_of_succ_le_succ enough)
      rw [compact_members_cons_cons, List.append_assoc, List.cons_append, moreMembers,
        first (',' :: (writeMembers compact (n :: members) ++ '\x7d' :: rest))
          (ends_cons (by decide))]
      simp only [bind, Except.bind, skipGaps_cons (by decide : isGap ',' = false), others]
      simp

/-- The members of an object, up to and with the closing brace. -/
theorem members_compact
    (each : ∀ m ∈ members, Takes (item m.1) (write compact m.2) (found m)) (rest : List Char) :
    Json.members item (writeMembers compact members ++ '\x7d' :: rest) =
      .ok (members.map fun m => (m.1, found m), rest) := by
  cases members with
  | nil => rfl
  | cons m others =>
    have enough : (m :: others).length ≤
        (writeMembers compact (m :: others) ++ '\x7d' :: rest).length :=
      (length_le_compact_members (m :: others)).trans (by simp)
    have read := moreMembers_compact rest (List.cons_ne_nil m others) each [] enough
    have begins : ∃ tail, writeMembers compact (m :: others) ++ '\x7d' :: rest = '"' :: tail := by
      obtain ⟨key, v⟩ := m
      cases others with
      | nil => exact ⟨_, by rw [writeMembers, compact_member, List.cons_append]⟩
      | cons n others => exact ⟨_, by rw [compact_members_cons_cons, compact_member]; rfl⟩
    obtain ⟨tail, htail⟩ := begins
    rw [htail] at read ⊢
    exact read

end Members

/-- What a value is read as does not depend on how deep others may lie in it, if none does. -/
theorem value_of_valueWith {cs : List Char} {r : Reading (Before Value)}
    (h : ∀ nested, valueWith nested cs = r) (depth : Nat) : value depth cs = r := by
  cases depth with
  | zero => exact h none
  | succ depth => exact h (some (value depth))

theorem valueWith_numeric {c : Char} (numeric : c = '-' ∨ c.isDigit = true)
    (nested : Option (List Char → Reading (Before Value))) (rest : List Char) :
    valueWith nested (c :: rest) = (do
      let (n, rest) ← number (c :: rest)
      .ok (.number n, rest)) := by
  have noGap : isGap c = false := by
    rw [Bool.eq_false_iff]
    intro gap
    simp only [isGap, Bool.or_eq_true, beq_iff_eq] at gap
    rcases gap with ((rfl | rfl) | rfl) | rfl <;> exact absurd numeric (by decide)
  have apart : ∀ d, ¬ (d = '-' ∨ d.isDigit = true) → c ≠ d := by
    rintro d other rfl
    exact other numeric
  unfold valueWith
  rw [skipGaps_cons noGap]
  split
  · next same => exact absurd (List.cons.inj same).1 (apart '"' (by decide))
  · next same => exact absurd (List.cons.inj same).1 (apart '[' (by decide))
  · next same => exact absurd (List.cons.inj same).1 (apart '\x7b' (by decide))
  · next same => exact absurd (List.cons.inj same).1 (apart 'n' (by decide))
  · next same => exact absurd (List.cons.inj same).1 (apart 't' (by decide))
  · next same => exact absurd (List.cons.inj same).1 (apart 'f' (by decide))
  · rfl

/-- A value is read back from its compact text by a reader that goes deep enough. -/
theorem value_compact {depth : Nat} {v : Value} (h : Portable depth v) :
    Takes (value depth) (write compact v) v := by
  induction h with
  | null => exact fun rest _ => value_of_valueWith (fun _ => rfl) _
  | flag b =>
    cases b with
    | false => exact fun rest _ => value_of_valueWith (fun _ => rfl) _
    | true => exact fun rest _ => value_of_valueWith (fun _ => rfl) _
  | integer exact =>
    rename_i n
    intro rest ends
    obtain ⟨c, cs, htext, numeric⟩ := toString_head n
    have read := number_toString exact ends
    change value _ ((toString n).toList ++ rest) = _
    rw [htext, List.cons_append] at read ⊢
    refine value_of_valueWith (fun nested => ?_) _
    rw [valueWith_numeric numeric, read]
    rfl
  | text s =>
    intro rest _
    have text := textBody_flatMap_escaped [] s.toList rest
    rw [List.reverse_nil, List.nil_append, String.ofList_toList] at text
    have spelled : write compact (.text s) ++ rest =
        '"' :: (s.toList.flatMap escaped ++ '"' :: rest) := by
      simp [write, compact, writeText]
    refine value_of_valueWith (fun nested => ?_) _
    rw [spelled, valueWith, skipGaps_cons (by decide)]
    simp only [text, bind, Except.bind]
  | list portable each =>
    rename_i depth items
    intro rest _
    have read := items_compact portable each rest
    have spelled : write compact (.list items) ++ rest =
        '[' :: (writeItems compact items ++ ']' :: rest) := by
      simp [write]
    rw [spelled, value, valueWith, skipGaps_cons (by decide)]
    simp only [read, bind, Except.bind]
  | object sorted portable each =>
    rename_i depth members
    intro rest _
    have read : Json.members (fun _ => value depth)
        (writeMembers compact members ++ '\x7d' :: rest) = .ok (members, rest) := by
      rw [members_compact each rest]
      simp
    have spelled : write compact (.object members) ++ rest =
        '\x7b' :: (writeMembers compact members ++ '\x7d' :: rest) := by
      simp [write]
    rw [spelled, value, valueWith, skipGaps_cons (by decide)]
    simp only [read, bind, Except.bind, Members.ofList_of_sorted sorted]

/-- What takes the whole text of a document gives what the document stands for. -/
theorem whole_of_takes {α : Type} {reader : List Char → Reading (Before α)} {text : List Char}
    {a : α} (h : Takes reader text a) : whole (reader text) = .ok a := by
  have read := h [] ends_nil
  rw [List.append_nil] at read
  rw [read]
  rfl

theorem parse_toText {v : Value} (h : Portable depthLimit v) : Value.parse v.toText = .ok v := by
  rw [Value.parse, Value.toText, String.toList_ofList, whole_of_takes (value_compact h)]
  rfl

end WorkflowCompiler.Json
