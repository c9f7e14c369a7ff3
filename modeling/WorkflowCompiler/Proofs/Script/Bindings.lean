import WorkflowCompiler.Proofs.Script.Fixed

/-!
Which names a script binds. A script is read line by line. At the margin imports, procedures and
assignments bind names. Below `if`, and below `with` once its heading has come to an end, the
assignments that stand one step to the right do so as well, and the heading itself gives a name to
what it opens. Everything else that is indented belongs to a procedure or goes on with a line
above, and binds nothing for the script.
-/
namespace WorkflowCompiler.Script

/-- What the lines that follow belong to. -/
inductive Place
  | margin
  | procedure
  | heading
  | block
  deriving DecidableEq, Repr

/-- The words that are no names. -/
def reservedWords : List String := [
  "False", "None", "True", "and", "as", "assert", "async", "await", "break", "class", "continue",
  "def", "del", "elif", "else", "except", "finally", "for", "from", "global", "if", "import",
  "in", "is", "lambda", "nonlocal", "not", "or", "pass", "raise", "return", "try", "while",
  "with", "yield"]

def isWordCharacter (c : Char) : Bool :=
  Text.isAsciiLetter c || Text.isAsciiDigit c || c == '_'

def leadingName (cs : List Char) : List String :=
  let word := cs.takeWhile isWordCharacter
  if word = [] ∨ String.ofList word ∈ reservedWords then [] else [String.ofList word]

/-- What an assignment binds. -/
def assigned (cs : List Char) : List String :=
  if [' ', '=', ' '].isPrefixOf (cs.dropWhile isWordCharacter) then leadingName cs else []

/-- What is bound by an import from a module, which is named first. -/
def imported (cs : List Char) : List String :=
  let listed := (cs.dropWhile (· ≠ ' ')).drop " import ".length
  (Text.splitAtEach (· == ',') listed).flatMap fun item => leadingName (item.dropWhile (· == ' '))

/-- What is bound by the heading of a block on its last line, which ends in a colon. -/
def opened? (cs : List Char) : Option (List String) :=
  match cs.reverse with
  | ':' :: before =>
    let word := (before.takeWhile isWordCharacter).reverse
    some (if [' ', 's', 'a', ' '].isPrefixOf (before.dropWhile isWordCharacter) then
      leadingName word else [])
  | _ => none

/-- Where a line at the margin leads, and what it binds. -/
def readStatement (cs : List Char) : Place × List String :=
  if ['d', 'e', 'f', ' '].isPrefixOf cs then (.procedure, leadingName (cs.drop 4))
  else if ['i', 'm', 'p', 'o', 'r', 't', ' '].isPrefixOf cs then (.margin, leadingName (cs.drop 7))
  else if ['f', 'r', 'o', 'm', ' '].isPrefixOf cs then (.margin, imported (cs.drop 5))
  else if ['w', 'i', 't', 'h', ' '].isPrefixOf cs then (.heading, [])
  else if ['i', 'f', ' '].isPrefixOf cs then (.block, [])
  else (.margin, assigned cs)

def readIndented (place : Place) (cs : List Char) : Place × List String :=
  match place with
  | .block =>
    (.block, if [' ', ' ', ' ', ' '].isPrefixOf cs then assigned (cs.drop 4) else [])
  | .heading =>
    match opened? cs with
    | some names => (.block, names)
    | none => (.heading, [])
  | place => (place, [])

/-- Where a line leads, and what it binds. -/
def readLine (place : Place) (cs : List Char) : Place × List String :=
  match cs.head? with
  | none => (place, [])
  | some c => if c = ' ' then readIndented place cs else readStatement cs

def placeAfter (place : Place) (lines : List (List Char)) : Place :=
  lines.foldl (fun place line => (readLine place line).1) place

def bindings : Place → List (List Char) → List (String × List Char)
  | _, [] => []
  | place, line :: lines =>
    (readLine place line).2.map (·, line) ++ bindings (readLine place line).1 lines

section Words

variable {first word rest : List Char}

/-- Three characters after the first word tell whether it is assigned. -/
theorem assigned_append (more : List Char)
    (long : 3 ≤ (first.dropWhile isWordCharacter).length) :
    assigned (first ++ more) = assigned first := by
  have ends : first.dropWhile isWordCharacter ≠ [] := List.ne_nil_of_length_pos (by omega)
  have dropped : (first ++ more).dropWhile isWordCharacter =
      first.dropWhile isWordCharacter ++ more := by
    rw [List.dropWhile_append, if_neg (by simpa using ends)]
  have taken : (first ++ more).takeWhile isWordCharacter = first.takeWhile isWordCharacter := by
    have same := List.takeWhile_append_dropWhile (p := isWordCharacter) (l := first ++ more)
    rw [dropped, ← List.append_assoc] at same
    have same := List.append_cancel_right same
    exact List.append_cancel_right (same.trans List.takeWhile_append_dropWhile.symm)
  obtain ⟨a, b, c, tail, split⟩ : ∃ a b c tail,
      first.dropWhile isWordCharacter = a :: b :: c :: tail := by
    match first.dropWhile isWordCharacter, long with
    | a :: b :: c :: tail, _ => exact ⟨a, b, c, tail, rfl⟩
  rw [assigned, assigned, leadingName, leadingName, taken, dropped, split]
  rfl

theorem takeWhile_word (all : ∀ c ∈ word, isWordCharacter c = true)
    (stop : ∀ c ∈ rest.head?, isWordCharacter c = false) :
    (word ++ rest).takeWhile isWordCharacter = word := by
  rw [List.takeWhile_append_of_pos all]
  cases rest with
  | nil => simp
  | cons c rest => rw [List.takeWhile_cons_of_neg (by simp [stop c rfl]), List.append_nil]

theorem dropWhile_word (all : ∀ c ∈ word, isWordCharacter c = true)
    (stop : ∀ c ∈ rest.head?, isWordCharacter c = false) :
    (word ++ rest).dropWhile isWordCharacter = rest := by
  rw [List.dropWhile_append_of_pos all]
  cases rest with
  | nil => rfl
  | cons c rest => rw [List.dropWhile_cons_of_neg (by simp [stop c rfl])]

/-- The name that a text begins with ends at the first character that is none of a word. -/
theorem leadingName_word (all : ∀ c ∈ word, isWordCharacter c = true)
    (stop : ∀ c ∈ rest.head?, isWordCharacter c = false) :
    leadingName (word ++ rest) = leadingName word := by
  have alone : word.takeWhile isWordCharacter = word := List.takeWhile_eq_self_iff.mpr all
  rw [leadingName, leadingName, takeWhile_word all stop, alone]

theorem assigned_word (all : ∀ c ∈ word, isWordCharacter c = true)
    (stop : ∀ c ∈ rest.head?, isWordCharacter c = false) :
    assigned (word ++ rest) =
      if [' ', '=', ' '].isPrefixOf rest then leadingName word else [] := by
  rw [assigned, dropWhile_word all stop, leadingName_word all stop]

theorem assigned_of_not_mem (absent : '=' ∉ word) : assigned word = [] := by
  rw [assigned, if_neg]
  intro sign
  obtain ⟨rest, same⟩ := List.isPrefixOf_iff_prefix.mp sign
  refine absent ((List.dropWhile_sublist isWordCharacter).mem ?_)
  rw [← same]
  simp

end Words
section Reading

variable {place next last : Place} {line : List Char} {lines others : List (List Char)}

theorem placeAfter_append (place : Place) (lines others : List (List Char)) :
    placeAfter place (lines ++ others) = placeAfter (placeAfter place lines) others :=
  List.foldl_append

theorem bindings_append (place : Place) (lines others : List (List Char)) :
    bindings place (lines ++ others) =
      bindings place lines ++ bindings (placeAfter place lines) others := by
  induction lines generalizing place with
  | nil => rfl
  | cons line lines ih =>
    rw [List.cons_append, bindings, bindings, ih, List.append_assoc]
    rfl

/-- Lines that lead back to their place and bind nothing. -/
def Idle (place : Place) (line : List Char) : Prop := readLine place line = (place, [])

instance (place : Place) (line : List Char) : Decidable (Idle place line) :=
  inferInstanceAs (Decidable (readLine place line = (place, [])))

theorem placeAfter_of_idle (idle : ∀ line ∈ lines, Idle place line) :
    placeAfter place lines = place := by
  induction lines with
  | nil => rfl
  | cons line lines ih =>
    obtain ⟨first, rest⟩ := List.forall_mem_cons.mp idle
    rw [placeAfter, List.foldl_cons, first]
    exact ih rest

theorem bindings_of_idle (idle : ∀ line ∈ lines, Idle place line) : bindings place lines = [] := by
  induction lines with
  | nil => rfl
  | cons line lines ih =>
    obtain ⟨first, rest⟩ := List.forall_mem_cons.mp idle
    rw [bindings, first, ih rest]
    rfl

/-- An assignment at the margin whose first word is followed by three characters at least. -/
theorem readLine_margin_append {first more : List Char} {names : List String}
    (begins : first.head? = some '_') (long : 3 ≤ (first.dropWhile isWordCharacter).length)
    (binds : assigned first = names) : readLine .margin (first ++ more) = (.margin, names) := by
  obtain ⟨rest, rfl⟩ := List.head?_eq_some_iff.mp begins
  rw [← binds, ← assigned_append more long]
  rfl

/-- What stands one step to the right in a block. -/
theorem readLine_block_indented (cs : List Char) :
    readLine .block (' ' :: ' ' :: ' ' :: ' ' :: cs) = (.block, assigned cs) := rfl

theorem readLine_block_append {first more : List Char} {names : List String}
    (long : 3 ≤ (first.dropWhile isWordCharacter).length) (binds : assigned first = names) :
    readLine .block ((' ' :: ' ' :: ' ' :: ' ' :: first) ++ more) = (.block, names) := by
  rw [← binds, ← assigned_append more long]
  rfl

theorem idle_indented {cs : List Char} (absent : '=' ∉ cs) :
    Idle .block (' ' :: ' ' :: ' ' :: ' ' :: cs) := by
  rw [Idle, readLine_block_indented, assigned_of_not_mem absent]

end Reading

/-- Lines that lead from one place to another and bind these names, in this order. -/
structure Reads (place : Place) (lines : List (List Char)) (names : List String) (last : Place) :
    Prop where
  leads : placeAfter place lines = last
  binds : (bindings place lines).map (·.1) = names

namespace Reads

variable {place next last : Place} {names more : List String} {line : List Char}
  {lines others : List (List Char)}

theorem nil : Reads place [] [] place := ⟨rfl, rfl⟩

theorem cons (first : readLine place line = (next, names)) (rest : Reads next lines more last) :
    Reads place (line :: lines) (names ++ more) last where
  leads := by
    rw [placeAfter, List.foldl_cons, first]
    exact rest.leads
  binds := by
    rw [bindings, first, List.map_append, rest.binds, List.map_map]
    simp [Function.comp_def]

theorem append (first : Reads place lines names next) (rest : Reads next others more last) :
    Reads place (lines ++ others) (names ++ more) last where
  leads := by rw [placeAfter_append, first.leads, rest.leads]
  binds := by rw [bindings_append, List.map_append, first.binds, first.leads, rest.binds]

end Reads

def preludeNames : List String := [
  "datetime", "logging", "sys", "os", "json", "base64", "uuid", "time", "warnings", "bigquery",
  "firestore", "exceptions", "service_account"]

def helperNames : List String := [
  "_CREDENTIALS_VARIABLE", "_CONFIG_COLLECTION", "_STATUS_COLLECTION", "_CONTEXT_COLLECTION",
  "_LOG_DATASET", "_credentials_info", "_set_task_status", "process_bigquery_record",
  "get_firestore_data", "set_firestore_data", "initialize", "log_to_gbq", "execute_gbq",
  "execute_bq_copy_table", "execute_bq_create_table"]

/-- The names of the status nodes, in the order in which they are assigned. -/
def statusNames : List String := ["notify_start", "initialize", "notify_after_config",
  "notify_failed", "notify_success", "notify_deactivated"]

instance (place last : Place) (lines : List (List Char)) (names : List String) :
    Decidable (Reads place lines names last) :=
  decidable_of_iff (placeAfter place lines = last ∧ (bindings place lines).map (·.1) = names)
    ⟨fun h => ⟨h.1, h.2⟩, fun h => ⟨h.leads, h.binds⟩⟩

theorem FixedText.reads (text : FixedText) {place last : Place} {names : List String}
    (h : Reads place text.letters names last) :
    Reads place (text.lines.map String.toList) names last := by
  rwa [text.toList_lines]

theorem reads_prelude : Reads .margin (preludeLines.map String.toList) preludeNames .margin :=
  FixedText.prelude.reads (by decide +kernel)

theorem reads_helpers : Reads .margin (helpersLines.map String.toList) helperNames .procedure :=
  FixedText.helpers.reads (by decide +kernel)

theorem reads_telemetry : Reads .block (telemetryLines.map String.toList) statusNames .block :=
  FixedText.telemetry.reads (by decide +kernel)

end WorkflowCompiler.Script
