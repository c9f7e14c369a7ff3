import WorkflowCompiler.Proofs.Decimal.Digits
import WorkflowCompiler.Proofs.Publish.Consent
import WorkflowCompiler.Proofs.Text.Blank
import WorkflowCompiler.Proofs.Text.Utf8
import WorkflowCompiler.Publish.Terminal

/-!
Answers at a terminal. Its input is a text, an answer is a line of it, and a question goes on to
the next line as long as it does not accept one. Main result: a choice of a profile is settled by
the first line that is the number of a profile on the screen, the question after it by the first
later line that says yes or no, each line is taken once and in its order, each refused line is
met with one complaint and the question again, and where the lines end the questions do.
-/
namespace WorkflowCompiler.Publish.Terminal

open Dialogue

/-- The lines of a text, each with the line feed that ends it; only the last may lack one. -/
inductive LinesOf : List Char → List (List Char) → Prop
  | nothing : LinesOf [] []
  | unended {line : List Char} : '\n' ∉ line → line ≠ [] → LinesOf line [line]
  | ended {line rest : List Char} {lines : List (List Char)} : '\n' ∉ line →
      LinesOf rest lines → LinesOf (line ++ '\n' :: rest) ((line ++ ['\n']) :: lines)

/-- So many lines are refused before the first that is accepted, and the lines after that are
left; or all of them are refused. -/
inductive Settles {α : Type} (accepts : List Char → α → Prop) :
    List (List Char) → Nat → Option α → List (List Char) → Prop
  | accepted {line : List Char} {a : α} {left : List (List Char)} : accepts line a →
      Settles accepts (line :: left) 0 (some a) left
  | refused {line : List Char} {lines left : List (List Char)} {n : Nat} {result : Option α} :
      (∀ a, ¬ accepts line a) → Settles accepts lines n result left →
      Settles accepts (line :: lines) (n + 1) result left
  | exhausted : Settles accepts [] 0 none []

/-- Between white space the line has a number of 64 bits in decimal digits, after a plus sign or
not, and it is the number of the profile in the list, counted from one. -/
def Selects (sorted : List String) (line : List Char) (profile : String) : Prop :=
  ∃ sign digits n, Text.trimmed line = sign ++ digits ∧ (sign = [] ∨ sign = ['+']) ∧
    Decimal.Spells digits n ∧ n < Nat.pow 2 64 ∧
    1 ≤ n ∧ n ≤ sorted.length ∧ sorted[n - 1]? = some profile

/-- Between white space the line says yes or no, in small or capital letters. -/
def Says (line : List Char) (verdict : Bool) : Prop :=
  (Text.trimmed line).map Char.toLower ∈
    (if verdict then ["y", "yes"] else ["n", "no"]).map String.toList

section Lines

variable {text line rest : List Char} {lines : List (List Char)}

theorem LinesOf.flatten_eq (h : LinesOf text lines) : lines.flatten = text := by
  induction h with
  | nothing => rfl
  | unended => simp
  | ended _ _ ih => simp [ih]

theorem LinesOf.tail (h : LinesOf text (line :: lines)) : LinesOf lines.flatten lines := by
  cases h with
  | unended => exact .nothing
  | ended _ rest => exact rest.flatten_eq.symm ▸ rest

/-- Every text has lines: the first line feed ends the first of them. -/
theorem exists_linesOf (text : List Char) : ∃ lines, LinesOf text lines := by
  induction measured : text.length using Nat.strongRecOn generalizing text with
  | ind length ih =>
    by_cases feed : '\n' ∈ text
    · obtain ⟨line, rest, rfl, noFeed⟩ := List.eq_append_cons_of_mem feed
      have shorter : rest.length < length := by
        rw [← measured, List.length_append, List.length_cons]
        omega
      obtain ⟨lines, hlines⟩ := ih _ shorter rest rfl
      exact ⟨_, .ended noFeed hlines⟩
    · by_cases empty : text = []
      · exact ⟨[], empty ▸ .nothing⟩
      · exact ⟨[text], .unended feed empty⟩

/-- What stands before a line feed is a line with it. -/
theorem rawLines_append_feed {piece rest : List UInt8} (noFeed : 10 ∉ piece) :
    rawLines (piece ++ 10 :: rest) = (piece ++ [10]) :: rawLines rest := by
  induction piece with
  | nil => rfl
  | cons byte piece ih =>
    rw [List.mem_cons, not_or] at noFeed
    have step : rawLines (byte :: (piece ++ 10 :: rest)) =
        lineOnto byte (rawLines (piece ++ 10 :: rest)) := rfl
    rw [List.cons_append, step, ih noFeed.2]
    exact if_neg (Ne.symm noFeed.1)

theorem rawLines_of_not_mem {piece : List UInt8} (noFeed : 10 ∉ piece) (nonempty : piece ≠ []) :
    rawLines piece = [piece] := by
  induction piece with
  | nil => exact absurd rfl nonempty
  | cons byte piece ih =>
    rw [List.mem_cons, not_or] at noFeed
    have step : rawLines (byte :: piece) = lineOnto byte (rawLines piece) := rfl
    rw [step]
    cases piece with
    | nil => exact if_neg (Ne.symm noFeed.1)
    | cons next piece =>
      rw [ih noFeed.2 (List.cons_ne_nil _ _)]
      exact if_neg (Ne.symm noFeed.1)

theorem not_mem_encode (noFeed : '\n' ∉ line) :
    (10 : UInt8) ∉ line.flatMap String.utf8EncodeChar := by
  intro inside
  obtain ⟨c, hc, byte⟩ := List.mem_flatMap.mp inside
  exact noFeed (Text.eq_lineFeed_of_mem_utf8EncodeChar byte ▸ hc)

/-- The lines of the bytes are the bytes of the lines. -/
theorem LinesOf.rawLines_eq (h : LinesOf text lines) :
    rawLines (Text.encodeUtf8 (String.ofList text)) =
      lines.map fun line => Text.encodeUtf8 (String.ofList line) := by
  simp only [Text.encodeUtf8_ofList]
  have feed : String.utf8EncodeChar '\n' = [10] := by decide
  induction h with
  | nothing => rfl
  | @unended line noFeed nonempty =>
    refine rawLines_of_not_mem (not_mem_encode noFeed) fun none => ?_
    obtain ⟨c, hc⟩ := List.exists_mem_of_ne_nil line nonempty
    exact String.utf8EncodeChar_ne_nil (List.flatMap_eq_nil_iff.mp none c hc)
  | ended noFeed _ ih =>
    rw [List.flatMap_append, List.flatMap_cons, feed, List.singleton_append,
      rawLines_append_feed (not_mem_encode noFeed), ih, List.map_cons, List.flatMap_append]
    simp [feed]

def saying (line : List Char) : String :=
  String.ofList (Text.dropEndWhile (fun c => c = '\r' || c = '\n') line)

theorem LinesOf.console_eq (h : LinesOf text lines) :
    console (Text.encodeUtf8 (String.ofList text)) = .answering (lines.map saying) := by
  rw [console, h.rawLines_eq, Console.answering, List.map_map, List.map_map]
  refine congrArg (Console.mk · none none) (List.map_congr_left fun line _ => ?_)
  simp only [Function.comp_apply, replyOf, Text.decodeUtf8?_encodeUtf8, String.toList_ofList,
    saying]

/-- The end of a line is white space. -/
theorem trimmed_saying (line : List Char) :
    Text.trimmed (saying line).toList = Text.trimmed line := by
  have cut : ∀ c ∈ line.rtakeWhile (fun c => c = '\r' || c = '\n'), Text.isBlank c = true := by
    intro c hc
    have ends := List.mem_rtakeWhile_imp hc
    simp only [Bool.or_eq_true, decide_eq_true_eq] at ends
    rcases ends with rfl | rfl <;> decide
  rw [saying, String.toList_ofList, Text.dropEndWhile_eq, ← Text.trimmed_append_blank cut,
    List.rdropWhile_append_rtakeWhile]

end Lines

section Settling

variable {α : Type} {accepts : List Char → α → Prop} {decide : String → Option α}
  {lines left : List (List Char)} {refused : Nat} {result : Option α}

/-- The lines are settled as the answers in them are decided on. -/
theorem exists_settles (agree : ∀ line a, decide (saying line) = some a ↔ accepts line a)
    (ended : Failure) (lines : List (List Char)) : ∃ refused result left,
      Settles accepts lines refused result left ∧
      (lines.map saying).findIdx (fun answer => (decide answer).isSome) = refused ∧
      outcome decide ended (lines.map saying) =
        (result.elim (.error ended) .ok, left.map saying) := by
  induction lines with
  | nil => exact ⟨0, none, [], .exhausted, rfl, rfl⟩
  | cons line lines ih =>
    simp only [List.map_cons, List.findIdx_cons, outcome, firstDecision]
    cases decided : decide (saying line) with
    | some a =>
      exact ⟨0, some a, lines, .accepted ((agree line a).mp decided), rfl, rfl⟩
    | none =>
      obtain ⟨refused, result, left, settled, count, same⟩ := ih
      refine ⟨refused + 1, result, left, .refused (fun a accepted => ?_) settled, ?_, same⟩
      · cases decided.symm.trans ((agree line a).mpr accepted)
      · simp [count]

/-- The lines that are left are those of the text that is left. -/
theorem Settles.linesOf {text : List Char} (settled : Settles accepts lines refused result left)
    (h : LinesOf text lines) : LinesOf left.flatten left := by
  induction settled generalizing text with
  | accepted => exact h.tail
  | refused _ _ ih => exact ih h.tail
  | exhausted => exact .nothing

end Settling

/-- What follows a plus sign, or all if there is none. -/
def unsigned : List Char → List Char
  | '+' :: rest => rest
  | cs => cs

theorem exists_sign (cs : List Char) :
    ∃ sign, cs = sign ++ unsigned cs ∧ (sign = [] ∨ sign = ['+']) := by
  unfold unsigned
  split
  · exact ⟨['+'], rfl, .inr rfl⟩
  · exact ⟨[], rfl, .inl rfl⟩

/-- A sign is no digit. -/
theorem unsigned_append {sign digits : List Char} {n : Nat} (signed : sign = [] ∨ sign = ['+'])
    (spelled : Decimal.Spells digits n) : unsigned (sign ++ digits) = digits := by
  rcases signed with rfl | rfl
  · rw [List.nil_append, unsigned.eq_2]
    rintro rest rfl
    exact absurd (spelled.digits '+' List.mem_cons_self) (by decide)
  · rfl

theorem natural?_eq_some_iff {bits n : Nat} {s : String} : natural? bits s = some n ↔
    ∃ sign digits, s.toList = sign ++ digits ∧ (sign = [] ∨ sign = ['+']) ∧
      Decimal.Spells digits n ∧ n < Nat.pow 2 bits := by
  have read : natural? bits s = some n ↔
      Decimal.Spells (unsigned s.toList) n ∧ n < Nat.pow 2 bits := by
    change (if unsigned s.toList ≠ [] ∧ (unsigned s.toList).all Char.isDigit then
      let value := (unsigned s.toList).foldl (fun n c => 10 * n + (c.toNat - '0'.toNat)) 0
      if value < Nat.pow 2 bits then some value else none else none) = some n ↔ _
    rw [← Nat.ofDigitChars_eq_foldl]
    extract_lets value
    constructor
    · intro h
      split at h
      · next spelled =>
        split at h
        · next small =>
          have same : value = n := Option.some.inj h
          exact ⟨⟨spelled.1, List.all_eq_true.mp spelled.2, same⟩, same ▸ small⟩
        · cases h
      · cases h
    · rintro ⟨spelled, small⟩
      have same : value = n := spelled.value
      rw [if_pos ⟨spelled.nonempty, List.all_eq_true.mpr spelled.digits⟩, same, if_pos small]
  rw [read]
  constructor
  · intro h
    obtain ⟨sign, split, signed⟩ := exists_sign s.toList
    exact ⟨sign, _, split, signed, h⟩
  · rintro ⟨sign, digits, split, signed, h⟩
    rwa [split, unsigned_append signed h.1]

theorem choice?_eq_some_iff (sorted : List String) (line : List Char) (profile : String) :
    choice? sorted (saying line) = some profile ↔ Selects sorted line profile := by
  have number : ∀ n, natural? 64 (Text.trim (saying line)) = some n ↔
      ∃ sign digits, Text.trimmed line = sign ++ digits ∧ (sign = [] ∨ sign = ['+']) ∧
        Decimal.Spells digits n ∧ n < Nat.pow 2 64 := by
    intro n
    rw [natural?_eq_some_iff, Text.trim, String.toList_ofList, trimmed_saying]
  have chosen : choice? sorted (saying line) = some profile ↔
      ∃ n, natural? 64 (Text.trim (saying line)) = some n ∧ 1 ≤ n ∧ n ≤ sorted.length ∧
        sorted[n - 1]? = some profile := by
    unfold choice?
    constructor
    · intro h
      split at h
      · next n hn =>
        have inside := (List.getElem?_eq_some_iff.mp h).1
        exact ⟨n + 1, hn, by omega, inside, h⟩
      · cases h
    · rintro ⟨_ | n, hn, positive, _, item⟩
      · omega
      · rw [hn]
        exact item
  simp only [chosen, number, Selects]
  constructor
  · rintro ⟨n, ⟨sign, digits, split, signed, spelled, small⟩, listed⟩
    exact ⟨sign, digits, n, split, signed, spelled, small, listed⟩
  · rintro ⟨sign, digits, n, split, signed, spelled, small, listed⟩
    exact ⟨n, ⟨sign, digits, split, signed, spelled, small⟩, listed⟩

theorem yesOrNo?_eq_some_iff (line : List Char) (verdict : Bool) :
    yesOrNo? (saying line) = some verdict ↔ Says line verdict := by
  have word : Text.lowerAscii (Text.trim (saying line)) =
      String.ofList ((Text.trimmed line).map Char.toLower) := by
    rw [Text.lowerAscii, Text.trim, String.toList_ofList, trimmed_saying]
  have among : ∀ (cs : List Char) (words : List String),
      cs ∈ words.map String.toList ↔ String.ofList cs ∈ words := by
    intro cs words
    rw [List.mem_map]
    constructor
    · rintro ⟨word, hword, rfl⟩
      rwa [String.ofList_toList]
    · exact fun h => ⟨_, h, String.toList_ofList⟩
  rw [yesOrNo?_eq, isDecisive, agrees, word, Says, among]
  generalize String.ofList ((Text.trimmed line).map Char.toLower) = said
  have apart : ∀ word ∈ ["n", "no"], word ∉ ["y", "yes"] := by decide
  have decisive : said ∈ ["y", "yes", "n", "no"] ↔ said ∈ ["y", "yes"] ∨ said ∈ ["n", "no"] :=
    List.mem_append (s := ["y", "yes"])
  simp only [decide_eq_true_eq, Option.ite_none_right_eq_some, Option.some.injEq, decisive]
  cases verdict with
  | true =>
    rw [decide_eq_true_eq, if_pos rfl]
    exact ⟨fun h => h.2, fun h => ⟨.inl h, h⟩⟩
  | false =>
    rw [decide_eq_false_iff_not, if_neg Bool.false_ne_true]
    exact ⟨fun h => h.1.resolve_left h.2, fun h => ⟨.inr h, apart said h⟩⟩

/-- Texts are sorted by rearranging them in ascending order. -/
theorem sortedTexts_spec (items : List String) :
    (sortedTexts items).Perm items ∧ (sortedTexts items).Pairwise (· ≤ ·) := by
  refine ⟨List.mergeSort_perm _ _, ?_⟩
  have sorted := @List.pairwise_mergeSort String (fun a b => decide (a ≤ b))
    (fun a b c hab hbc =>
      decide_eq_true (String.le_trans (of_decide_eq_true hab) (of_decide_eq_true hbc)))
    (fun a b => by simpa using String.le_total a b) items
  exact sorted.imp fun h => of_decide_eq_true h

end WorkflowCompiler.Publish.Terminal
