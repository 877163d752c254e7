import SchemaMatch.Json.Record
import Mathlib.Data.List.Forall2
import Mathlib.Data.List.TakeDrop

/-!
# Values that are written read again

A text reads as a value if it does so before whatever does not go on with a number. Strings, numbers
below 2^64, arrays and objects that are written read as what they were written for.
-/

namespace SchemaMatch.Json

namespace Reader

/-! ### Strings -/

/-- Characters that stand for one inside of a string. -/
inductive Spells (c : Char) : List Char → Prop
  | letter {letter : Char} (means : escape? letter = some c) : Spells c ['\\', letter]
  | code {first second third fourth : Char}
      (means : hexCode? first second third fourth = some c.toNat) :
      Spells c ['\\', 'u', first, second, third, fourth]
  | plain (noQuote : c ≠ '"') (noBackslash : c ≠ '\\') (visible : ¬c.toNat < 0x20) : Spells c [c]

/-- A control character is written with four hexadecimal digits. -/
theorem hexCode?_toDigits {code : Nat} (control : code < 0x20) :
    List.replicate (4 - (Nat.toDigits 16 code).length) '0' ++ Nat.toDigits 16 code =
      ['0', '0', Nat.digitChar (code / 16), Nat.digitChar (code % 16)] ∧
    hexCode? '0' '0' (Nat.digitChar (code / 16)) (Nat.digitChar (code % 16)) = some code := by
  revert code
  decide

theorem spells_escapeChar (c : Char) : Spells c (escapeChar c).toList := by
  unfold escapeChar
  split
  · exact .letter rfl
  · exact .letter rfl
  · exact .letter rfl
  · exact .letter rfl
  · exact .letter rfl
  · exact .letter rfl
  · exact .letter rfl
  · rename_i noQuote noBackslash _ _ _ _ _
    split
    · rename_i control
      obtain ⟨digits, means⟩ := hexCode?_toDigits control
      simp only [digits, String.toList_append, String.toList_ofList]
      exact .code means
    · rename_i visible
      rw [String.toList_singleton]
      exact .plain noQuote noBackslash visible

theorem Spells.stringCodes {c : Char} {chars : List Char} (spells : Spells c chars)
    (rest : List Char) :
    stringCodes (chars ++ rest) =
      (stringCodes rest).map fun (codes, rest) => (c.toNat :: codes, rest) := by
  cases spells with
  | @letter letter means =>
    have notCode : letter ≠ 'u' := by
      rintro rfl
      cases means
    rw [List.cons_append, List.singleton_append, Reader.stringCodes]
    · rw [means]
      cases Reader.stringCodes rest <;> rfl
    · intro _ _ _ _ _ same
      exact absurd same notCode
  | code means =>
    simp only [List.cons_append, List.nil_append]
    rw [Reader.stringCodes, means]
    cases Reader.stringCodes rest <;> rfl
  | plain noQuote noBackslash visible =>
    rw [List.singleton_append, Reader.stringCodes, if_neg visible]
    · cases Reader.stringCodes rest <;> rfl
    · exact noQuote
    · intro _ _ _ _ _ same
      exact absurd same noBackslash
    · intro _ _ same
      exact absurd same noBackslash

def escaped (chars : List Char) : List Char := chars.flatMap fun c => (escapeChar c).toList

theorem toList_quote (text : String) :
    (quote text).toList = '"' :: (escaped text.toList ++ ['"']) := by
  simp only [quote, String.toList_append, String.toList_join, List.flatMap_map, escaped]
  rfl

theorem stringCodes_escaped (chars rest : List Char) :
    stringCodes (escaped chars ++ '"' :: rest) = some (chars.map Char.toNat, rest) := by
  induction chars with
  | nil => rfl
  | cons c chars ih =>
    rw [escaped, List.flatMap_cons, List.append_assoc, (spells_escapeChar c).stringCodes]
    rw [show Reader.stringCodes (List.flatMap _ chars ++ '"' :: rest) = _ from ih]
    rfl

theorem not_isSurrogate (c : Char) : isHigh c.toNat = false ∧ isLow c.toNat = false := by
  have valid : c.toNat < 0xD800 ∨ 0xDFFF < c.toNat ∧ c.toNat < 0x110000 := c.valid
  simp only [isHigh, isLow, Bool.and_eq_false_iff, decide_eq_false_iff_not]
  omega

theorem joinPairs?_map_toNat : (chars : List Char) →
    joinPairs? (chars.map Char.toNat) = some chars
  | [] => rfl
  | [c] => by
    obtain ⟨high, low⟩ := not_isSurrogate c
    simp [joinPairs?, high, low, Char.ofNat_toNat]
  | c :: next :: rest => by
    obtain ⟨high, low⟩ := not_isSurrogate c
    have others := joinPairs?_map_toNat (next :: rest)
    rw [List.map_cons] at others
    simp [joinPairs?, high, low, others, Char.ofNat_toNat]

theorem string_escaped (text : String) (rest : List Char) :
    string (escaped text.toList ++ '"' :: rest) = some (some text, rest) := by
  rw [string, stringCodes_escaped]
  simp only [joinPairs?_map_toNat, Option.bind_eq_bind, Option.bind_some, Option.map_some,
    String.ofList_toList]

/-! ### Numbers -/

def EndsNumber (rest : List Char) : Prop :=
  ∀ c, rest.head? = some c → c.isDigit = false ∧ c ≠ '.' ∧ c ≠ 'e' ∧ c ≠ 'E'

theorem endsNumber_nil : EndsNumber [] := nofun

theorem endsNumber_comma (rest : List Char) : EndsNumber (',' :: rest) := by
  rintro c same
  cases same
  decide

theorem endsNumber_bracket (rest : List Char) : EndsNumber (']' :: rest) := by
  rintro c same
  cases same
  decide

theorem endsNumber_brace (rest : List Char) : EndsNumber ('\x7d' :: rest) := by
  rintro c same
  cases same
  decide

theorem digits_append {front rest : List Char} (all : ∀ c ∈ front, c.isDigit = true)
    (some : front ≠ []) (ends : EndsNumber rest) :
    digits (front ++ rest) = .some (front, rest) := by
  have none : rest.takeWhile Char.isDigit = [] := by
    cases rest with
    | nil => rfl
    | cons c rest => rw [List.takeWhile_cons, (ends c rfl).1]; rfl
  have kept : rest.dropWhile Char.isDigit = rest := by
    cases rest with
    | nil => rfl
    | cons c rest => rw [List.dropWhile_cons, (ends c rfl).1]; rfl
  rw [digits, List.span_eq_takeWhile_dropWhile, List.takeWhile_append_of_pos all,
    List.dropWhile_append_of_pos all, none, kept, List.append_nil]
  cases front with
  | nil => exact absurd rfl some
  | cons c front => rfl

/-- Only zero is written with a zero in front. -/
theorem head?_toDigits {n : Nat} (positive : 0 < n) : (Nat.toDigits 10 n).head? ≠ some '0' := by
  induction n using Nat.strongRecOn with
  | ind n ih =>
    rw [Nat.toDigits_eq_if (by decide)]
    split
    · rename_i small
      have all : ∀ n < 10, 0 < n → [Nat.digitChar n].head? ≠ some '0' := by decide
      exact all n small positive
    · rename_i great
      rw [List.head?_append_of_ne_nil _ Nat.toDigits_ne_nil]
      exact ih (n / 10) (by omega) (by omega)

theorem number_toDigits {n : Nat} (small : n < UInt64.size) {rest : List Char}
    (ends : EndsNumber rest) : number (Nat.toDigits 10 n ++ rest) = some (.nat n, rest) := by
  have all : ∀ c ∈ Nat.toDigits 10 n, c.isDigit = true := fun c member =>
    Nat.isDigit_of_mem_toDigits (by decide) (by decide) member
  have noSign : ((Nat.toDigits 10 n ++ rest).head? == some '-') = false := by
    rw [List.head?_append_of_ne_nil _ Nat.toDigits_ne_nil, beq_eq_false_iff_ne]
    intro sign
    have digit := all '-' (List.mem_of_head? sign)
    revert digit
    decide
  have noZero : ((Nat.toDigits 10 n).head? == some '0' &&
      (Nat.toDigits 10 n).length != 1) = false := by
    rcases Nat.eq_zero_or_pos n with rfl | positive
    · rfl
    · rw [beq_eq_false_iff_ne.2 (head?_toDigits positive), Bool.false_and]
  have noFraction : fraction rest = some (false, rest) := by
    cases rest with
    | nil => rfl
    | cons c rest =>
      rw [fraction]
      intro _ same
      exact (ends c rfl).2.1 (List.cons.inj same).1
  have noExponent : exponent rest = some (false, rest) := by
    cases rest with
    | nil => rfl
    | cons c rest =>
      obtain ⟨_, _, lower, upper⟩ := ends c rfl
      simp only [exponent, beq_eq_false_iff_ne.2 lower, beq_eq_false_iff_ne.2 upper,
        Bool.or_self, Bool.false_eq_true, if_false]
  have same : decimal (Nat.toDigits 10 n) = n := Nat.ofDigitChars_ten_toDigits
  have fits : (Nat.pow 2 64 ≤ n) = False := eq_false (Nat.not_le_of_lt small)
  simp only [number, noSign, Bool.false_eq_true, if_false, digits_append all Nat.toDigits_ne_nil
    ends, Option.bind_eq_bind, Option.bind_some, noZero, noFraction, noExponent, same, fits,
    decide_false, Bool.or_self]

/-! ### Values -/

/-- Characters that begin a value and do not end an array. -/
def Begins (chars : List Char) : Prop :=
  ∃ c rest, chars = c :: rest ∧ c ≠ ']' ∧ ∀ more, skipBlanks (c :: more) = c :: more

/-- Characters read as a value, before whatever does not go on with a number. -/
structure Reads (chars : List Char) (result : Value) : Prop where
  begins : Begins chars
  value : ∀ bound rest, 2 * chars.length ≤ bound → EndsNumber rest →
    Reader.value bound (chars ++ rest) = some (result, rest)

theorem Begins.ne_nil {chars : List Char} (begins : Begins chars) : chars ≠ [] := by
  obtain ⟨c, more, rfl, _⟩ := begins
  exact List.cons_ne_nil c more

theorem value_quote (bound : Nat) (rest : List Char) :
    value (bound + 1) ('"' :: rest) =
      (string rest).map fun (text, rest) => (.string text, rest) := by
  rw [value]
  rfl

theorem value_bracket (bound : Nat) {rest : List Char} (some : Begins rest) :
    value (bound + 1) ('[' :: rest) =
      (items bound rest).map fun (items, rest) => (.array items, rest) := by
  obtain ⟨c, more, rfl, open_, visible⟩ := some
  have skipped : skipBlanks ('[' :: c :: more) = '[' :: c :: more := rfl
  rw [value, skipped]
  simp only [visible]
  split
  · rename_i same
    exact absurd (List.cons.inj same).1 open_
  · rfl

theorem value_brace (bound : Nat) (rest : List Char) :
    value (bound + 1) ('{' :: '"' :: rest) =
      (members bound ('"' :: rest)).map fun (members, rest) => (.object members, rest) := by
  rw [value]
  rfl

/-- A digit is none of the other characters that begin a value, and no blank. -/
theorem ne_of_isDigit {c : Char} (digit : c.isDigit = true) (other : Char)
    (letter : other.isDigit = false := by decide) : c ≠ other := by
  rintro rfl
  rw [digit] at letter
  cases letter

theorem skipBlanks_of_isDigit {c : Char} (digit : c.isDigit = true) (rest : List Char) :
    skipBlanks (c :: rest) = c :: rest := by
  rw [skipBlanks, List.dropWhile_cons, if_neg]
  simp only [beq_eq_false_iff_ne.2 (ne_of_isDigit digit ' '),
    beq_eq_false_iff_ne.2 (ne_of_isDigit digit '\n'),
    beq_eq_false_iff_ne.2 (ne_of_isDigit digit '\t'),
    beq_eq_false_iff_ne.2 (ne_of_isDigit digit '\r'), Bool.or_self, Bool.false_eq_true,
    not_false_iff]

theorem value_of_isDigit {c : Char} (digit : c.isDigit = true) (bound : Nat) (rest : List Char) :
    value (bound + 1) (c :: rest) = number (c :: rest) := by
  rw [value, skipBlanks_of_isDigit digit]
  split
  · rename_i same
    exact absurd (List.cons.inj same).1 (ne_of_isDigit digit _)
  · rename_i same
    exact absurd (List.cons.inj same).1 (ne_of_isDigit digit _)
  · rename_i same
    exact absurd (List.cons.inj same).1 (ne_of_isDigit digit _)
  · rename_i same
    exact absurd (List.cons.inj same).1 (ne_of_isDigit digit _)
  · rename_i same
    exact absurd (List.cons.inj same).1 (ne_of_isDigit digit _)
  · rename_i same
    exact absurd (List.cons.inj same).1 (ne_of_isDigit digit _)
  · rfl

theorem exists_succ_of_enough {chars : List Char} {bound : Nat} (some : chars ≠ [])
    (enough : 2 * chars.length ≤ bound) : ∃ less, bound = less + 1 := by
  have long := List.length_pos_of_ne_nil some
  exact Nat.exists_eq_succ_of_ne_zero (by omega)

theorem reads_toString {n : Nat} (small : n < UInt64.size) :
    Reads (toString n).toList (.nat n) := by
  rw [Nat.toString_eq_repr, Nat.toList_repr]
  obtain ⟨c, more, written⟩ := List.exists_cons_of_ne_nil (Nat.toDigits_ne_nil (b := 10) (n := n))
  have digit : c.isDigit = true :=
    Nat.isDigit_of_mem_toDigits (by decide) (by decide) (written ▸ List.mem_cons_self)
  constructor
  · exact ⟨c, more, written, ne_of_isDigit digit _, skipBlanks_of_isDigit digit⟩
  · intro bound rest enough ends
    obtain ⟨bound, rfl⟩ := exists_succ_of_enough Nat.toDigits_ne_nil enough
    have read := number_toDigits small ends
    rw [written, List.cons_append] at read ⊢
    rw [value_of_isDigit digit, read]

theorem reads_quote (text : String) : Reads (quote text).toList (.string (some text)) where
  begins := ⟨_, _, toList_quote text, by decide, fun _ => rfl⟩
  value := by
    intro bound rest enough _
    rw [toList_quote] at enough ⊢
    obtain ⟨bound, rfl⟩ : ∃ less, bound = less + 1 :=
      Nat.exists_eq_succ_of_ne_zero (by rw [List.length_cons] at enough; omega)
    rw [List.cons_append, List.append_assoc, List.singleton_append, value_quote, string_escaped]
    rfl

theorem items_comma {bound : Nat} {chars more rest : List Char} {item : Value}
    {others : List Value} (first : value bound (chars ++ ',' :: more) = some (item, ',' :: more))
    (later : items bound more = some (others, rest)) :
    items (bound + 1) (chars ++ ',' :: more) = some (item :: others, rest) := by
  rw [items, first]
  have skipped : skipBlanks (',' :: more) = ',' :: more := rfl
  simp only [Option.bind_eq_bind, Option.bind_some, skipped, later]

theorem items_bracket {bound : Nat} {chars rest : List Char} {item : Value}
    (last : value bound (chars ++ ']' :: rest) = some (item, ']' :: rest)) :
    items (bound + 1) (chars ++ ']' :: rest) = some ([item], rest) := by
  rw [items, last]
  rfl

theorem items_intercalate {texts : List (List Char)} {values : List Value}
    (read : List.Forall₂ Reads texts values) (some : texts ≠ []) (rest : List Char) :
    ∀ bound, 2 * (List.intercalate [','] texts).length + 1 ≤ bound →
    items bound (List.intercalate [','] texts ++ ']' :: rest) = .some (values, rest) := by
  induction read with
  | nil => exact absurd rfl some
  | @cons text value texts values first others ih =>
    intro bound enough
    obtain ⟨bound, rfl⟩ : ∃ less, bound = less + 1 := Nat.exists_eq_succ_of_ne_zero (by omega)
    cases others with
    | nil =>
      rw [List.intercalate_singleton] at enough ⊢
      exact items_bracket (first.value bound _ (by omega) (endsNumber_bracket rest))
    | cons next more =>
      have long := List.length_pos_of_ne_nil first.begins.ne_nil
      rw [List.intercalate_cons_cons] at enough ⊢
      simp only [List.length_append, List.length_singleton] at enough
      rw [List.append_assoc, List.append_assoc, List.singleton_append]
      exact items_comma (first.value bound _ (by omega) (endsNumber_comma _))
        (ih (List.cons_ne_nil _ _) bound (by omega))

theorem Begins.append {chars : List Char} (begins : Begins chars) (rest : List Char) :
    Begins (chars ++ rest) := by
  obtain ⟨c, more, rfl, open_, visible⟩ := begins
  exact ⟨c, more ++ rest, rfl, open_, visible⟩

theorem reads_array {texts : List (List Char)} {values : List Value}
    (read : List.Forall₂ Reads texts values) :
    Reads ('[' :: (List.intercalate [','] texts ++ [']'])) (.array values) where
  begins := ⟨_, _, rfl, by decide, fun _ => rfl⟩
  value := by
    intro bound rest enough _
    obtain ⟨bound, rfl⟩ := exists_succ_of_enough (List.cons_ne_nil _ _) enough
    simp only [List.length_cons, List.length_append, List.length_nil] at enough
    rw [List.cons_append, List.append_assoc, List.singleton_append]
    cases read with
    | nil =>
      rw [value]
      rfl
    | @cons text value texts values first others =>
      have begins : Begins (List.intercalate [','] (text :: texts) ++ ']' :: rest) := by
        cases others with
        | nil => exact List.intercalate_singleton ▸ first.begins.append _
        | cons next more =>
          rw [List.intercalate_cons_cons, List.append_assoc, List.append_assoc]
          exact first.begins.append _
      rw [value_bracket bound begins,
        items_intercalate (.cons first others) (List.cons_ne_nil _ _) rest bound (by omega)]
      rfl

theorem toList_arrayText (texts : List String) :
    (arrayText texts).toList =
      '[' :: (List.intercalate [','] (texts.map String.toList) ++ [']']) := by
  simp only [arrayText, String.toList_append, String.toList_intercalate]
  rfl

theorem reads_arrayText {texts : List String} {values : List Value}
    (read : List.Forall₂ (fun text value => Reads text.toList value) texts values) :
    Reads (arrayText texts).toList (.array values) := by
  rw [toList_arrayText]
  exact reads_array (List.forall₂_map_left_iff.2 read)

/-! ### Members -/

def memberChars (name : String) (chars : List Char) : List Char :=
  (quote name).toList ++ ':' :: chars

def ReadsMember (chars : List Char) (member : String × Value) : Prop :=
  ∃ inner, chars = memberChars member.1 inner ∧ Reads inner member.2

theorem memberChars_append (name : String) (chars rest : List Char) :
    memberChars name chars ++ rest =
      '"' :: (escaped name.toList ++ '"' :: ':' :: (chars ++ rest)) := by
  rw [memberChars, toList_quote]
  simp only [List.cons_append, List.append_assoc, List.nil_append]

theorem members_comma {bound : Nat} {chars more rest : List Char} {item : Value}
    {others : List (Option String × Value)} (name : String)
    (first : value bound (chars ++ ',' :: more) = some (item, ',' :: more))
    (later : members bound more = some (others, rest)) :
    members (bound + 1) (memberChars name chars ++ ',' :: more) =
      some ((some name, item) :: others, rest) := by
  have quoted (more : List Char) : skipBlanks ('"' :: more) = '"' :: more := rfl
  have colon (more : List Char) : skipBlanks (':' :: more) = ':' :: more := rfl
  have comma (more : List Char) : skipBlanks (',' :: more) = ',' :: more := rfl
  rw [memberChars_append, members, quoted]
  simp only [string_escaped, Option.bind_eq_bind, Option.bind_some, colon, first, comma, later]

theorem members_brace {bound : Nat} {chars rest : List Char} {item : Value} (name : String)
    (last : value bound (chars ++ '\x7d' :: rest) = some (item, '\x7d' :: rest)) :
    members (bound + 1) (memberChars name chars ++ '\x7d' :: rest) =
      some ([(some name, item)], rest) := by
  have quoted (more : List Char) : skipBlanks ('"' :: more) = '"' :: more := rfl
  have colon (more : List Char) : skipBlanks (':' :: more) = ':' :: more := rfl
  rw [memberChars_append, members, quoted]
  simp only [string_escaped, Option.bind_eq_bind, Option.bind_some, colon, last]
  rfl

theorem members_intercalate {texts : List (List Char)} {values : List (String × Value)}
    (read : List.Forall₂ ReadsMember texts values) (some : texts ≠ []) (rest : List Char) :
    ∀ bound, 2 * (List.intercalate [','] texts).length + 1 ≤ bound →
    members bound (List.intercalate [','] texts ++ '\x7d' :: rest) =
      .some (values.map fun (name, value) => (.some name, value), rest) := by
  induction read with
  | nil => exact absurd rfl some
  | @cons text member texts values first others ih =>
    intro bound enough
    obtain ⟨bound, rfl⟩ : ∃ less, bound = less + 1 := Nat.exists_eq_succ_of_ne_zero (by omega)
    obtain ⟨inner, rfl, reads⟩ := first
    have short : inner.length + 2 ≤ (memberChars member.1 inner).length := by
      rw [memberChars, toList_quote]
      simp only [List.length_append, List.length_cons]
      omega
    cases others with
    | nil =>
      rw [List.intercalate_singleton] at enough ⊢
      rw [members_brace _ (reads.value bound _ (by omega) (endsNumber_brace rest))]
      rfl
    | cons next more =>
      rw [List.intercalate_cons_cons] at enough ⊢
      simp only [List.length_append, List.length_singleton] at enough
      rw [List.append_assoc, List.append_assoc, List.singleton_append]
      exact members_comma _ (reads.value bound _ (by omega) (endsNumber_comma _))
        (ih (List.cons_ne_nil _ _) bound (by omega))

theorem reads_object {texts : List (List Char)} {values : List (String × Value)}
    (read : List.Forall₂ ReadsMember texts values) (some : texts ≠ []) :
    Reads ('\x7b' :: (List.intercalate [','] texts ++ ['\x7d']))
      (.object (values.map fun (name, value) => (.some name, value))) where
  begins := ⟨_, _, rfl, by decide, fun _ => rfl⟩
  value := by
    intro bound rest enough _
    obtain ⟨bound, rfl⟩ := exists_succ_of_enough (List.cons_ne_nil _ _) enough
    simp only [List.length_cons, List.length_append, List.length_nil] at enough
    rw [List.cons_append, List.append_assoc, List.singleton_append]
    have quoted : ∃ more, List.intercalate [','] texts = '"' :: more := by
      cases read with
      | nil => exact absurd rfl some
      | @cons text member texts values first others =>
        obtain ⟨inner, rfl, _⟩ := first
        cases others with
        | nil =>
          rw [List.intercalate_singleton, memberChars, toList_quote]
          exact ⟨_, rfl⟩
        | cons next more =>
          rw [List.intercalate_cons_cons, memberChars, toList_quote]
          exact ⟨_, rfl⟩
    have inside := members_intercalate read some rest bound (by omega)
    obtain ⟨more, begins⟩ := quoted
    rw [begins, List.cons_append] at inside ⊢
    rw [value_brace, inside]
    rfl

theorem toList_objectText (texts : List (String × String)) :
    (objectText texts).toList = '\x7b' ::
      (List.intercalate [','] (texts.map fun text => memberChars text.1 text.2.toList) ++
        ['\x7d']) := by
  have member (text : String × String) :
      (quote text.1 ++ ":" ++ text.2).toList = memberChars text.1 text.2.toList := by
    simp only [String.toList_append, List.append_assoc]
    rfl
  simp only [objectText, String.toList_append, String.toList_intercalate, List.map_map]
  exact congrArg (fun members => '\x7b' :: (List.intercalate [','] members ++ ['\x7d']))
    (List.map_congr_left fun text _ => member text)

theorem reads_objectText {texts : List (String × String)} {values : List (String × Value)}
    (read : List.Forall₂ (fun text value => text.1 = value.1 ∧ Reads text.2.toList value.2)
      texts values) (some : texts ≠ []) :
    Reads (objectText texts).toList
      (.object (values.map fun (name, value) => (.some name, value))) := by
  rw [toList_objectText]
  refine reads_object (List.forall₂_map_left_iff.2 (read.imp ?_)) (by simpa using some)
  rintro ⟨name, text⟩ ⟨_, value⟩ ⟨rfl, reads⟩
  exact ⟨_, rfl, reads⟩

theorem reads_single {text name : String} {value : Value} (reads : Reads text.toList value) :
    Reads (objectText [(name, text)]).toList (.object [(some name, value)]) :=
  have members : List.Forall₂ (fun (text : String × String) (value : String × Value) =>
      text.1 = value.1 ∧ Reads text.2.toList value.2) [(name, text)] [(name, value)] :=
    .cons ⟨rfl, reads⟩ .nil
  reads_objectText members (List.cons_ne_nil _ _)

end Reader

open Reader (Reads)

theorem Value.parse?_of_reads {text : String} {value : Value} (reads : Reads text.toList value) :
    Value.parse? text = some value := by
  have read := reads.value (2 * text.toList.length + 2) [] (by omega) Reader.endsNumber_nil
  rw [List.append_nil] at read
  rw [Value.parse?]
  simp only [read]
  rfl

end SchemaMatch.Json
