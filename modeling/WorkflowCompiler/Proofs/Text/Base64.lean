import WorkflowCompiler.Text.Base64

/-!
Base64 loses nothing: what was written is read back, whatever is left over after the last three
bytes.
-/
namespace WorkflowCompiler.Text.Base64

/-- Padding is no digit. -/
theorem digit_ne_padding : ∀ n, n < 64 → digit n ≠ '=' := by decide

theorem ofNat_eq {n : Nat} {byte : UInt8} (h : n = byte.toNat) : UInt8.ofNat n = byte := by
  rw [h, UInt8.ofNat_toNat]

/-- The four groups of six bits that three bytes fall into, as the digits for them are read, and
the bytes that they make up. -/
structure Sextets (a b c : UInt8) (p q r s : Nat) : Prop where
  first : digitValue? (digit p) = some p
  second : digitValue? (digit q) = some q
  third : digitValue? (digit r) = some r
  fourth : digitValue? (digit s) = some s
  thirdDigit : digit r ≠ '='
  fourthDigit : digit s ≠ '='
  firstByte : UInt8.ofNat (p * 4 + q / 16) = a
  secondByte : UInt8.ofNat (q % 16 * 16 + r / 4) = b
  thirdByte : UInt8.ofNat (r % 4 * 64 + s) = c

theorem sextets (a b c : UInt8) : Sextets a b c (a.toNat / 4) (a.toNat % 4 * 16 + b.toNat / 16)
    (b.toNat % 16 * 4 + c.toNat / 64) (c.toNat % 64) := by
  have ha := a.toNat_lt
  have hb := b.toNat_lt
  have hc := c.toNat_lt
  constructor
  case thirdDigit | fourthDigit => exact digit_ne_padding _ (by omega)
  case firstByte | secondByte | thirdByte => exact ofNat_eq (by omega)
  all_goals exact digitValue?_digit _ (by omega)

/-- The bytes that are left over are those of three with zeros after them. -/
theorem decode_encode (bytes : List UInt8) : decode (encode bytes) = some bytes := by
  fun_induction encode bytes with
  | case1 => rfl
  | case2 a =>
    have h := sextets a 0 0
    have noBits : a.toNat % 4 * 16 % 16 = 0 := by omega
    simp only [UInt8.toNat_zero, Nat.zero_div, Nat.add_zero] at h
    simp only [decode, h.first, h.second, noBits, Option.bind_eq_bind, Option.bind_some,
      and_self, if_true, h.firstByte]
  | case3 a b =>
    have h := sextets a b 0
    have noBits : b.toNat % 16 * 4 % 4 = 0 := by omega
    simp only [UInt8.toNat_zero, Nat.zero_div, Nat.add_zero] at h
    simp only [decode, h.first, h.second, h.third, noBits, Option.bind_eq_bind,
      Option.bind_some, and_self, if_true, h.thirdDigit, if_false, h.firstByte, h.secondByte]
  | case4 a b c rest ih =>
    have h := sextets a b c
    simp only [decode, h.first, h.second, h.third, h.fourth, h.fourthDigit, ih,
      Option.bind_eq_bind, Option.bind_some, and_false, if_false, h.firstByte, h.secondByte,
      h.thirdByte]

end WorkflowCompiler.Text.Base64
