/-!
White space, and the operations on text that depend on it: trimming, and cutting into words or
at separators.
-/
namespace WorkflowCompiler.Text

/-- The characters with the Unicode property `White_Space`. -/
def isBlank (c : Char) : Bool :=
  let n := c.toNat
  (9 ≤ n && n ≤ 13) || n == 0x20 || n == 0x85 || n == 0xA0 || n == 0x1680 ||
  (0x2000 ≤ n && n ≤ 0x200A) || n == 0x2028 || n == 0x2029 || n == 0x202F || n == 0x205F ||
  n == 0x3000

def dropEndWhile (p : Char → Bool) (cs : List Char) : List Char :=
  (cs.reverse.dropWhile p).reverse

def trimmed (cs : List Char) : List Char :=
  dropEndWhile isBlank (cs.dropWhile isBlank)

/-- The pieces between the separating characters: one more than there are separators. -/
def splitAtEach (p : Char → Bool) (cs : List Char) : List (List Char) :=
  cs.foldr (fun c pieces =>
    if p c then [] :: pieces
    else match pieces with
      | [] => [[c]]
      | piece :: rest => (c :: piece) :: rest) [[]]

def wordsOf (cs : List Char) : List (List Char) :=
  (splitAtEach isBlank cs).filter (· ≠ [])

theorem splitAtEach_nil (p : Char → Bool) : splitAtEach p [] = [[]] := rfl

theorem splitAtEach_ne_nil (p : Char → Bool) (cs : List Char) : splitAtEach p cs ≠ [] := by
  cases cs with
  | nil => simp [splitAtEach]
  | cons c rest =>
    simp only [splitAtEach, List.foldr_cons]
    split
    · simp
    · split <;> simp

theorem splitAtEach_cons_of_pos {p : Char → Bool} {c : Char} (h : p c) (cs : List Char) :
    splitAtEach p (c :: cs) = [] :: splitAtEach p cs := by
  simp [splitAtEach, h]

def trim (s : String) : String :=
  String.ofList (trimmed s.toList)

def isBlankText (s : String) : Bool :=
  s.toList.all isBlank

def splitAt (separator : Char) (s : String) : List String :=
  (splitAtEach (· == separator) s.toList).map String.ofList

def replaceEach (c : Char) (replacement : List Char) (cs : List Char) : List Char :=
  cs.flatMap fun d => if d == c then replacement else [d]

def lowerAscii (s : String) : String :=
  String.ofList (s.toList.map Char.toLower)

end WorkflowCompiler.Text
