/-!
Reading bytes as UTF-8. A byte sequence falls into pieces: each is either the encoding of one
character or a longest run of bytes that begins such an encoding and cannot go on. Tolerant
reading puts the replacement character where a piece stands for no character.
-/
namespace WorkflowCompiler.Text

/-- What the first byte of an encoding announces. -/
structure Lead where
  /-- How many bytes follow. -/
  following : Nat
  /-- The least value the second byte may have. -/
  low : Nat
  /-- The greatest value the second byte may have. -/
  high : Nat
  /-- The part of the code point that the first byte carries. -/
  bits : Nat

/-- The encodings that begin with a byte; overlong forms, surrogates and code points above
U+10FFFF are excluded by the bounds on the second byte. -/
def Lead.ofByte? (byte : UInt8) : Option Lead :=
  let n := byte.toNat
  if n < 0x80 then some ⟨0, 0x80, 0xBF, n⟩
  else if 0xC2 ≤ n ∧ n ≤ 0xDF then some ⟨1, 0x80, 0xBF, n - 0xC0⟩
  else if n = 0xE0 then some ⟨2, 0xA0, 0xBF, 0⟩
  else if n = 0xED then some ⟨2, 0x80, 0x9F, 0xD⟩
  else if 0xE1 ≤ n ∧ n ≤ 0xEF then some ⟨2, 0x80, 0xBF, n - 0xE0⟩
  else if n = 0xF0 then some ⟨3, 0x90, 0xBF, 0⟩
  else if 0xF1 ≤ n ∧ n ≤ 0xF3 then some ⟨3, 0x80, 0xBF, n - 0xF0⟩
  else if n = 0xF4 then some ⟨3, 0x80, 0x8F, 4⟩
  else none

/-- Takes the bytes that follow, as far as they fit; gives the code point when all were there. -/
def follow : (count low high bits : Nat) → List UInt8 → Option Nat × List UInt8
  | 0, _, _, bits, rest => (some bits, rest)
  | _ + 1, _, _, _, [] => (none, [])
  | count + 1, low, high, bits, byte :: rest =>
    if low ≤ byte.toNat ∧ byte.toNat ≤ high then
      follow count 0x80 0xBF (bits * 64 + (byte.toNat - 0x80)) rest
    else (none, byte :: rest)

theorem length_follow_le (count low high bits : Nat) (bytes : List UInt8) :
    (follow count low high bits bytes).2.length ≤ bytes.length := by
  fun_induction follow count low high bits bytes with
  | case1 => simp
  | case2 => simp
  | case3 _ _ _ _ _ _ _ ih => simp only [List.length_cons]; omega
  | case4 => simp

/-- The pieces of a byte sequence, `none` for those that encode no character. -/
def utf8Pieces : List UInt8 → List (Option Char)
  | [] => []
  | byte :: rest =>
    match Lead.ofByte? byte with
    | none => none :: utf8Pieces rest
    | some lead =>
      let taken := follow lead.following lead.low lead.high lead.bits rest
      taken.1.map Char.ofNat :: utf8Pieces taken.2
termination_by bytes => bytes.length
decreasing_by
  · simp
  · have := length_follow_le lead.following lead.low lead.high lead.bits rest
    simp only [List.length_cons]
    omega

/-- Tolerant reading: the replacement character stands for what is no character. -/
def decodeTolerantly (bytes : List UInt8) : String :=
  String.ofList ((utf8Pieces bytes).map (·.getD '\uFFFD'))

def encodeUtf8 (s : String) : List UInt8 :=
  s.toUTF8.toList

def decodeUtf8? (bytes : List UInt8) : Option String :=
  String.fromUTF8? ⟨bytes.toArray⟩

end WorkflowCompiler.Text
