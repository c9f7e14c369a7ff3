import Mathlib.Logic.Basic
import WorkflowCompiler.Text.Utf8

/-!
Strict UTF-8: the bytes of a text are read back as the text, and no other bytes are read as it.
-/
namespace WorkflowCompiler.Text

theorem fromUTF8?_eq_some_iff {bytes : ByteArray} {text : String} :
    String.fromUTF8? bytes = some text ↔ bytes = text.toUTF8 := by
  unfold String.fromUTF8?
  split
  · next valid =>
    rw [Option.some.injEq]
    constructor
    · rintro rfl
      rfl
    · rintro rfl
      rfl
  · next invalid =>
    refine iff_of_false (by simp) ?_
    rintro rfl
    exact invalid text.isValidUTF8

/-- The loop has the bytes from `i` on still to take; those before are kept in reverse. -/
theorem toList_loop (bytes : ByteArray) (i : Nat) (kept : List UInt8) :
    ByteArray.toList.loop bytes i kept = kept.reverse ++ bytes.data.toList.drop i := by
  induction i, kept using ByteArray.toList.loop.induct bytes with
  | case1 i kept more ih =>
    have inside : i < bytes.data.toList.length := by simpa using more
    have byte : bytes.get! i = bytes.data.toList[i] := by
      rw [Array.getElem_toList]
      exact getElem!_pos bytes.data i (by simpa using more)
    rw [ByteArray.toList.loop, if_pos more, ih, List.drop_eq_getElem_cons inside, byte]
    simp
  | case2 i kept done =>
    have outside : bytes.data.toList.length ≤ i := by simpa using done
    rw [ByteArray.toList.loop, if_neg done, List.drop_eq_nil_of_le outside, List.append_nil]

theorem toList_byteArray (bytes : ByteArray) : bytes.toList = bytes.data.toList := by
  rw [ByteArray.toList, toList_loop]
  rfl

theorem decodeUtf8?_toList (bytes : ByteArray) :
    decodeUtf8? bytes.toList = String.fromUTF8? bytes := by
  rw [decodeUtf8?, toList_byteArray, Array.toArray_toList]

theorem decodeUtf8?_encodeUtf8 (s : String) : decodeUtf8? (encodeUtf8 s) = some s := by
  rw [encodeUtf8, decodeUtf8?_toList, fromUTF8?_eq_some_iff]

theorem encodeUtf8_ofList (cs : List Char) :
    encodeUtf8 (String.ofList cs) = cs.flatMap String.utf8EncodeChar := by
  rw [encodeUtf8, String.toUTF8_eq_toByteArray, String.toByteArray_ofList, toList_byteArray]
  simp [List.utf8Encode]

/-- The byte of a line feed stands for a line feed only. -/
theorem eq_lineFeed_of_mem_utf8EncodeChar {c : Char} (h : 10 ∈ String.utf8EncodeChar c) :
    c = '\n' := by
  have small : ∀ n : Nat, (10 : UInt8) = UInt8.ofNat n ↔ n % 256 = 10 := by
    intro n
    rw [← UInt8.toNat_inj, UInt8.toNat_ofNat']
    exact eq_comm
  -- The bytes of longer characters are all greater.
  have code : c.val.toNat = 10 := by
    dsimp only [String.utf8EncodeChar] at h
    repeat' split at h
    all_goals
      simp only [List.mem_cons, List.not_mem_nil, or_false, small] at h
      omega
  exact Char.ext (UInt32.toNat_inj.mp code)

end WorkflowCompiler.Text
