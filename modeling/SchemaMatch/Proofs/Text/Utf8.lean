import SchemaMatch.Text.Utf8

/-!
# Encoded text decodes

The bytes of a text are those of its characters, one after another. Each character has an encoding
whose first byte tells how many follow, so a text is found again in its bytes. The main statement is
`ofUtf8?_utf8`.
-/

namespace SchemaMatch.Text

/-- The bytes of an array, read from an offset on behind those that have been read. -/
theorem toList_loop (bytes : ByteArray) (i : Nat) (taken : List UInt8) :
    ByteArray.toList.loop bytes i taken = taken.reverse ++ bytes.data.toList.drop i := by
  fun_induction ByteArray.toList.loop bytes i taken with
  | case1 i taken below ih =>
    have within : i < bytes.data.toList.length := by simpa using below
    rw [ih, List.drop_eq_getElem_cons within]
    simp [ByteArray.get!, below]
  | case2 i taken beyond =>
    rw [List.drop_eq_nil_of_le (by simpa using beyond), List.append_nil]

theorem utf8_eq_flatMap (text : String) : utf8 text = text.toList.flatMap String.utf8EncodeChar := by
  have encoded : text.toUTF8 = (text.toList.flatMap String.utf8EncodeChar).toByteArray := by
    conv => lhs; rw [← String.ofList_toList (s := text)]
    rfl
  rw [utf8, encoded, ByteArray.toList, toList_loop, List.data_toByteArray]
  rfl

namespace Utf8

/-! ### The first byte of a character -/

theorem lead?_one {k : Nat} (small : k < 128) :
    lead? (UInt8.ofNat k) = some (0, 0x80, 0xBF, k) := by
  have all : ∀ k < 128, lead? (UInt8.ofNat k) = some (0, 0x80, 0xBF, k) := by decide +kernel
  exact all k small

theorem lead?_two {k : Nat} (large : 2 ≤ k) (small : k < 32) :
    lead? (UInt8.ofNat (k + 192)) = some (1, 0x80, 0xBF, k) := by
  have all : ∀ k < 30, lead? (UInt8.ofNat (k + 2 + 192)) = some (1, 0x80, 0xBF, k + 2) := by
    decide +kernel
  obtain ⟨k, rfl⟩ : ∃ less, k = less + 2 := ⟨k - 2, by omega⟩
  exact all k (by omega)

/-- Three bytes are for no number that two would do for, and for no surrogate. -/
theorem lead?_three {k : Nat} (small : k < 16) :
    lead? (UInt8.ofNat (k + 224)) =
      some (2, if k = 0 then 0xA0 else 0x80, if k = 13 then 0x9F else 0xBF, k) := by
  have all : ∀ k < 16, lead? (UInt8.ofNat (k + 224)) =
      some (2, if k = 0 then 0xA0 else 0x80, if k = 13 then 0x9F else 0xBF, k) := by
    decide +kernel
  exact all k small

/-- Four bytes are for no number that three would do for, and for none beyond the last one. -/
theorem lead?_four {k : Nat} (small : k < 5) :
    lead? (UInt8.ofNat (k + 240)) =
      some (3, if k = 0 then 0x90 else 0x80, if k = 4 then 0x8F else 0xBF, k) := by
  have all : ∀ k < 5, lead? (UInt8.ofNat (k + 240)) =
      some (3, if k = 0 then 0x90 else 0x80, if k = 4 then 0x8F else 0xBF, k) := by
    decide +kernel
  exact all k small

/-! ### The bytes after it -/

/-- A byte within the range is taken, and leaves the usual range for the next one. -/
theorem takeTail_within (value count k : Nat) (lo hi : UInt8) (rest : List UInt8) (small : k < 64)
    (above : lo.toNat ≤ k + 128) (below : k + 128 ≤ hi.toNat) :
    takeTail value (count + 1) lo hi (UInt8.ofNat (k + 128) :: rest) =
      takeTail (64 * value + k) count 0x80 0xBF rest := by
  have number : (UInt8.ofNat (k + 128)).toNat = k + 128 :=
    UInt8.toNat_ofNat_of_lt' (by show k + 128 < 256; omega)
  have within : (decide (lo ≤ UInt8.ofNat (k + 128)) && decide (UInt8.ofNat (k + 128) ≤ hi)) =
      true := by
    simp only [UInt8.le_iff_toNat_le, number, above, below, decide_true, Bool.and_self]
  rw [takeTail, if_pos within, number, Nat.add_sub_cancel]

theorem takeTail_usual (value count k : Nat) (rest : List UInt8) (small : k < 64) :
    takeTail value (count + 1) 0x80 0xBF (UInt8.ofNat (k + 128) :: rest) =
      takeTail (64 * value + k) count 0x80 0xBF rest :=
  takeTail_within value count k _ _ rest small (Nat.le_add_left _ _)
    (by show k + 128 ≤ 191; omega)

/-! ### Characters -/

/-- The numbers of characters leave out the surrogates. -/
theorem code_bounds (c : Char) : c.toNat < 0xD800 ∨ 0xDFFF < c.toNat ∧ c.toNat < 0x110000 := c.valid

/-- The bytes of a character begin with one after which the character is found. -/
theorem exists_first (c : Char) (rest : List UInt8) :
    ∃ byte others, String.utf8EncodeChar c = byte :: others ∧
      first byte (others ++ rest) = (some c, rest) := by
  have bounds := code_bounds c
  have found : Char.ofNat c.toNat = c := Char.ofNat_toNat c
  have code : c.val.toNat = c.toNat := rfl
  simp only [String.utf8EncodeChar, code]
  generalize c.toNat = n at bounds found
  by_cases one : n ≤ 127
  · refine ⟨_, _, if_pos one, ?_⟩
    rw [first, lead?_one (by omega)]
    simp only [takeTail, found, List.nil_append]
  rw [if_neg one]
  by_cases two : n ≤ 2047
  · refine ⟨_, _, if_pos two, ?_⟩
    have value : 64 * (n / 64 % 32) + n % 64 = n := by omega
    rw [first, lead?_two (by omega) (by omega)]
    simp only [List.cons_append, List.nil_append]
    rw [takeTail_usual _ _ _ _ (by omega), takeTail, value, found]
  rw [if_neg two]
  by_cases three : n ≤ 65535
  · refine ⟨_, _, if_pos three, ?_⟩
    have value : 64 * (64 * (n / 4096 % 16) + n / 64 % 64) + n % 64 = n := by omega
    rw [first, lead?_three (by omega)]
    simp only [List.cons_append, List.nil_append]
    rw [takeTail_within _ _ _ _ _ _ (by omega), takeTail_usual _ _ _ _ (by omega), takeTail, value,
      found]
    · split
      · show 160 ≤ n / 64 % 64 + 128
        omega
      · exact Nat.le_add_left _ _
    · split
      · show n / 64 % 64 + 128 ≤ 159
        omega
      · show n / 64 % 64 + 128 ≤ 191
        omega
  · refine ⟨_, _, if_neg three, ?_⟩
    have value : 64 * (64 * (64 * (n / 262144 % 8) + n / 4096 % 64) + n / 64 % 64) + n % 64 = n := by
      omega
    rw [first, lead?_four (by omega)]
    simp only [List.cons_append, List.nil_append]
    rw [takeTail_within _ _ _ _ _ _ (by omega), takeTail_usual _ _ _ _ (by omega),
      takeTail_usual _ _ _ _ (by omega), takeTail, value, found]
    · split
      · show 144 ≤ n / 4096 % 64 + 128
        omega
      · exact Nat.le_add_left _ _
    · split
      · show n / 4096 % 64 + 128 ≤ 143
        omega
      · show n / 4096 % 64 + 128 ≤ 191
        omega

/-- The characters are found in their bytes, with as many steps as there are bytes. -/
theorem decodeFrom_encoded (chars : List Char) (bound : Nat)
    (enough : (chars.flatMap String.utf8EncodeChar).length ≤ bound) :
    decodeFrom bound (chars.flatMap String.utf8EncodeChar) = chars.map some := by
  induction chars generalizing bound with
  | nil => cases bound <;> rfl
  | cons c chars ih =>
    obtain ⟨byte, others, encoded, found⟩ :=
      exists_first c (chars.flatMap String.utf8EncodeChar)
    rw [List.flatMap_cons, encoded, List.cons_append] at enough ⊢
    rw [List.length_cons, List.length_append] at enough
    obtain ⟨bound, rfl⟩ : ∃ less, bound = less + 1 := ⟨bound - 1, by omega⟩
    rw [decodeFrom, found, List.map_cons]
    exact congrArg (some c :: ·) (ih bound (by omega))

end Utf8

theorem ofUtf8?_utf8 (text : String) : ofUtf8? (utf8 text) = some text := by
  rw [ofUtf8?, utf8_eq_flatMap, Utf8.decode, Utf8.decodeFrom_encoded _ _ (Nat.le_refl _)]
  have all (chars : List Char) : (chars.map some).mapM id = some chars := by
    rw [List.mapM_map]
    induction chars with
    | nil => rfl
    | cons c chars ih => simp_all
  rw [all, Option.map_some, String.ofList_toList]

end SchemaMatch.Text
