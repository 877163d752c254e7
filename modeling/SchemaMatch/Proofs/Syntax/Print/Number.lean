import Mathlib.Algebra.Group.Nat.Defs
import SchemaMatch.Syntax.Escape
import SchemaMatch.Syntax.Printer

/-!
# Printed numbers

A number that is printed reads as the number that it was. Printed digits are digits, and there are
no more of them than the number needs.
-/

namespace SchemaMatch.Syntax

def upperDigit (n : Nat) : Char := (Nat.digitChar n).toUpper

theorem isHexDigit_upperDigit {n : Nat} (small : n < 16) : isHexDigit (upperDigit n) = true := by
  have all : ∀ n < 16, isHexDigit (upperDigit n) = true := by decide
  exact all n small

theorem hexValue_upperDigit {n : Nat} (small : n < 16) :
    Unicode.hexValue.digit (upperDigit n) = n := by
  have all : ∀ n < 16, Unicode.hexValue.digit (upperDigit n) = n := by decide
  exact all n small

theorem map_toUpper_toDigits (n : Nat) :
    (Nat.toDigits 16 n).map Char.toUpper =
      if n < 16 then [upperDigit n]
      else (Nat.toDigits 16 (n / 16)).map Char.toUpper ++ [upperDigit (n % 16)] := by
  rw [Nat.toDigits_eq_if (by decide)]
  split
  · rfl
  · rw [List.map_append]
    rfl

theorem hexValue_append (digits : List Char) (c : Char) :
    Unicode.hexValue (digits ++ [c]) = 16 * Unicode.hexValue digits + Unicode.hexValue.digit c := by
  rw [Unicode.hexValue, List.foldl_append]
  rfl

theorem hexValue_map_toUpper (n : Nat) :
    Unicode.hexValue ((Nat.toDigits 16 n).map Char.toUpper) = n := by
  induction n using Nat.strongRecOn with
  | ind n ih =>
    rw [map_toUpper_toDigits]
    split
    · rename_i small
      have last := hexValue_upperDigit small
      simp only [Unicode.hexValue, List.foldl_cons, List.foldl_nil, last, Nat.mul_zero, Nat.zero_add]
    · rename_i great
      rw [hexValue_append, ih (n / 16) (by omega), hexValue_upperDigit (Nat.mod_lt n (by decide))]
      exact Nat.div_add_mod n 16

theorem isHexDigit_of_mem_map_toUpper {n : Nat} {c : Char}
    (member : c ∈ (Nat.toDigits 16 n).map Char.toUpper) : isHexDigit c = true := by
  induction n using Nat.strongRecOn with
  | ind n ih =>
    rw [map_toUpper_toDigits] at member
    split at member
    · rename_i small
      cases List.mem_singleton.1 member
      exact isHexDigit_upperDigit small
    · rename_i great
      rcases List.mem_append.1 member with member | member
      · exact ih (n / 16) (by omega) member
      · cases List.mem_singleton.1 member
        exact isHexDigit_upperDigit (Nat.mod_lt n (by decide))

theorem hexValue_replicate_append (count : Nat) (digits : List Char) :
    Unicode.hexValue (List.replicate count '0' ++ digits) = Unicode.hexValue digits := by
  induction count with
  | zero => rfl
  | succ count ih => exact ih

theorem hexValue_hexText (width n : Nat) : Unicode.hexValue (hexText width n) = n := by
  rw [hexText, hexValue_replicate_append, hexValue_map_toUpper]

theorem isHexDigit_of_mem_hexText {width n : Nat} {c : Char} (member : c ∈ hexText width n) :
    isHexDigit c = true := by
  rcases List.mem_append.1 member with member | member
  · rw [List.eq_of_mem_replicate member]
    rfl
  · exact isHexDigit_of_mem_map_toUpper member

theorem hexText_ne_nil (width n : Nat) : hexText width n ≠ [] := by
  intro empty
  have digits := (List.append_eq_nil_iff.1 empty).2
  exact Nat.toDigits_ne_nil (List.map_eq_nil_iff.1 digits)

/-- A number below a power of sixteen prints in as many digits. -/
theorem length_hexText {width n : Nat} (some : 0 < width) (small : n < 16 ^ width) :
    (hexText width n).length = width := by
  have few := (Nat.length_toDigits_le_iff (by decide) some).2 small
  simp only [hexText, List.length_append, List.length_replicate, List.length_map]
  omega

theorem hexValue_digit_lt (c : Char) : Unicode.hexValue.digit c < 16 := by
  rw [Unicode.hexValue.digit]
  split
  · rename_i digit
    have bound : c.toNat ≤ 57 := (Char.isDigit_iff_toNat.1 digit).2
    omega
  · split
    · rename_i upper
      have bound : c.toNat ≤ 70 := upper.2
      omega
    · split
      · rename_i lower
        have bound : c.toNat ≤ 102 := lower.2
        omega
      · decide

/-- Hexadecimal digits name a number below the power of sixteen with their number. -/
theorem hexValue_lt (digits : List Char) : Unicode.hexValue digits < 16 ^ digits.length := by
  have grows (value : Nat) : digits.foldl (fun value c => 16 * value + Unicode.hexValue.digit c)
      value < 16 ^ digits.length * (value + 1) := by
    induction digits generalizing value with
    | nil => exact Nat.lt_of_lt_of_eq (Nat.lt_succ_self value) (Nat.one_mul _).symm
    | cons c rest ih =>
      have digit := hexValue_digit_lt c
      have next : 16 * value + Unicode.hexValue.digit c + 1 ≤ 16 * (value + 1) := by omega
      refine Nat.lt_of_lt_of_le (ih _) ?_
      rw [List.length_cons, Nat.pow_succ, Nat.mul_assoc]
      exact Nat.mul_le_mul_left _ next
  exact Nat.lt_of_lt_of_eq (grows 0) (Nat.mul_one _)

theorem isDigit_of_mem_decimalText {n : Nat} {c : Char} (member : c ∈ decimalText n) :
    c.isDigit = true :=
  Nat.isDigit_of_mem_toDigits (by decide) (by decide) member

theorem decimalText_ne_nil (n : Nat) : decimalText n ≠ [] := Nat.toDigits_ne_nil

theorem foldl_decimalText (n : Nat) :
    (decimalText n).foldl (fun value c => 10 * value + (c.toNat - 48)) 0 = n :=
  Nat.ofDigitChars_ten_toDigits

end SchemaMatch.Syntax
