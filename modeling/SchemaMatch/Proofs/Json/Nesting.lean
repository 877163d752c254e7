import SchemaMatch.Proofs.Json.Reader

/-!
# How deep a JSON text is nested

The levels of a text are those of its brackets and braces outside of strings. What is written has
levels that add up: an array or an object is one level around what it holds.
-/

namespace SchemaMatch.Json

namespace Nesting

def opens (c : Char) : Bool := c == '[' || c == '\x7b'

def closes (c : Char) : Bool := c == ']' || c == '\x7d'

mutual

def deepest (level : Nat) : List Char → Nat
  | [] => level
  | c :: rest =>
    if c == '"' then deepestInString level rest
    else if opens c then deepest (level + 1) rest
    else if closes c then max level (deepest (level - 1) rest)
    else deepest level rest

/-- The same for characters inside of a string, where no bracket counts and a backslash guards the
character after it. -/
def deepestInString (level : Nat) : List Char → Nat
  | [] => level
  | '\\' :: _ :: rest => deepestInString level rest
  | c :: rest => if c == '"' then deepest level rest else deepestInString level rest

end

mutual

theorem le_deepest (level : Nat) : (chars : List Char) → level ≤ deepest level chars
  | [] => Nat.le_refl _
  | c :: rest => by
    rw [deepest]
    split
    · exact le_deepestInString level rest
    · split
      · exact Nat.le_of_succ_le (le_deepest (level + 1) rest)
      · split
        · exact Nat.le_max_left _ _
        · exact le_deepest level rest

theorem le_deepestInString (level : Nat) : (chars : List Char) →
    level ≤ deepestInString level chars
  | [] => Nat.le_refl _
  | [c] => by
    rw [deepestInString]
    · split <;> exact Nat.le_refl _
    · intro _ _ _ same
      cases same
  | c :: next :: rest => by
    unfold deepestInString
    split
    · exact Nat.le_refl _
    · rename_i same
      cases same
      exact le_deepestInString level rest
    · rename_i same
      cases same
      split
      · exact le_deepest level (next :: rest)
      · exact le_deepestInString level (next :: rest)

end

/-- Outside of strings, characters go to as many levels and return to the level they begin at. -/
def Nests (chars : List Char) (levels : Nat) : Prop :=
  ∀ level rest, deepest level (chars ++ rest) = max (level + levels) (deepest level rest)

theorem Nests.append {front back : List Char} {levels more : Nat} (here : Nests front levels)
    (there : Nests back more) : Nests (front ++ back) (max levels more) := by
  intro level rest
  rw [List.append_assoc, here, there]
  omega

theorem nests_nil : Nests [] 0 := by
  intro level rest
  have above := le_deepest level rest
  rw [List.nil_append]
  omega

/-- A character that is neither a quote nor a bracket is on no level of its own. -/
theorem nests_plain {c : Char} (plain : c ≠ '"' ∧ opens c = false ∧ closes c = false) :
    Nests [c] 0 := by
  obtain ⟨noQuote, noOpening, noClosing⟩ := plain
  intro level rest
  have above := le_deepest level rest
  rw [List.singleton_append, deepest, beq_eq_false_iff_ne.2 noQuote, noOpening, noClosing]
  simp only [Bool.false_eq_true, if_false]
  omega

theorem nests_of_plain {chars : List Char}
    (plain : ∀ c ∈ chars, c ≠ '"' ∧ opens c = false ∧ closes c = false) : Nests chars 0 := by
  induction chars with
  | nil => exact nests_nil
  | cons c chars ih =>
    exact (nests_plain (plain c List.mem_cons_self)).append
      (ih fun other member => plain other (List.mem_cons_of_mem _ member))

/-! ### What is written -/

theorem deepestInString_plain {c : Char} (noQuote : c ≠ '"') (noBackslash : c ≠ '\\')
    (level : Nat) (rest : List Char) :
    deepestInString level (c :: rest) = deepestInString level rest := by
  rw [deepestInString, beq_eq_false_iff_ne.2 noQuote]
  · rfl
  · intro _ _ same
    exact absurd same noBackslash

/-- A hexadecimal digit is neither a quote nor a backslash. -/
theorem plain_of_hexDigit? {c : Char} {value : Nat} (digit : Reader.hexDigit? c = some value) :
    c ≠ '"' ∧ c ≠ '\\' := by
  constructor
  · rintro rfl
    revert digit
    simp [Reader.hexDigit?]
  · rintro rfl
    revert digit
    simp [Reader.hexDigit?]

/-- What stands for a character inside of a string stays inside of it. -/
theorem deepestInString_of_spells {c : Char} {chars : List Char} (spells : Reader.Spells c chars)
    (level : Nat) (rest : List Char) :
    deepestInString level (chars ++ rest) = deepestInString level rest := by
  cases spells with
  | letter means => rfl
  | @code first second third fourth means =>
    simp only [Reader.hexCode?, Option.bind_eq_bind, Option.bind_eq_some_iff] at means
    obtain ⟨_, one, _, two, _, three, _, four, _⟩ := means
    have guarded : deepestInString level
        (['\\', 'u', first, second, third, fourth] ++ rest) =
        deepestInString level (first :: second :: third :: fourth :: rest) := rfl
    rw [guarded]
    obtain ⟨noQuote, noBackslash⟩ := plain_of_hexDigit? one
    rw [deepestInString_plain noQuote noBackslash]
    obtain ⟨noQuote, noBackslash⟩ := plain_of_hexDigit? two
    rw [deepestInString_plain noQuote noBackslash]
    obtain ⟨noQuote, noBackslash⟩ := plain_of_hexDigit? three
    rw [deepestInString_plain noQuote noBackslash]
    obtain ⟨noQuote, noBackslash⟩ := plain_of_hexDigit? four
    rw [deepestInString_plain noQuote noBackslash]
  | plain noQuote noBackslash _ => exact deepestInString_plain noQuote noBackslash level rest

theorem deepestInString_escaped (level : Nat) (chars rest : List Char) :
    deepestInString level (Reader.escaped chars ++ '"' :: rest) = deepest level rest := by
  induction chars with
  | nil => rfl
  | cons c chars ih =>
    rw [Reader.escaped, List.flatMap_cons, List.append_assoc,
      deepestInString_of_spells (Reader.spells_escapeChar c)]
    exact ih

theorem nests_quote (text : String) : Nests (quote text).toList 0 := by
  intro level rest
  have above := le_deepest level rest
  rw [Reader.toList_quote, List.cons_append, List.append_assoc, List.singleton_append]
  have opened (more : List Char) : deepest level ('"' :: more) = deepestInString level more := rfl
  rw [opened, deepestInString_escaped]
  omega

theorem nests_toString (n : Nat) : Nests (toString n).toList 0 := by
  rw [Nat.toString_eq_repr, Nat.toList_repr]
  apply nests_of_plain
  intro c member
  have digit : c.isDigit = true := Nat.isDigit_of_mem_toDigits (by decide) (by decide) member
  refine ⟨Reader.ne_of_isDigit digit _, ?_, ?_⟩
  · rw [opens, beq_eq_false_iff_ne.2 (Reader.ne_of_isDigit digit '['),
      beq_eq_false_iff_ne.2 (Reader.ne_of_isDigit digit '\x7b')]
    rfl
  · rw [closes, beq_eq_false_iff_ne.2 (Reader.ne_of_isDigit digit ']'),
      beq_eq_false_iff_ne.2 (Reader.ne_of_isDigit digit '\x7d')]
    rfl

/-- What stands in brackets or braces is one level deeper. -/
theorem Nests.enclosed {chars : List Char} {levels : Nat} (inside : Nests chars levels)
    {opening closing : Char} (pair : opening = '[' ∧ closing = ']' ∨
      opening = '\x7b' ∧ closing = '\x7d') :
    Nests (opening :: (chars ++ [closing])) (levels + 1) := by
  intro level rest
  have opened : deepest level (opening :: (chars ++ [closing] ++ rest)) =
      deepest (level + 1) (chars ++ closing :: rest) := by
    rw [List.append_assoc, List.singleton_append]
    rcases pair with ⟨rfl, _⟩ | ⟨rfl, _⟩ <;> rfl
  have closed : deepest (level + 1) (closing :: rest) = max (level + 1) (deepest level rest) := by
    rcases pair with ⟨_, rfl⟩ | ⟨_, rfl⟩ <;> rfl
  rw [List.cons_append, opened, inside, closed]
  omega

/-- Parts with commas between them are as deep as the deepest one. -/
theorem nests_intercalate {texts : List (List Char)} {levels : List Nat}
    (each : List.Forall₂ Nests texts levels) :
    Nests (List.intercalate [','] texts) (levels.foldr max 0) := by
  induction each with
  | nil => exact nests_nil
  | @cons text levels texts others first rest ih =>
    cases rest with
    | nil =>
      have whole := first.append nests_nil
      rw [List.append_nil] at whole
      rwa [List.intercalate_singleton]
    | cons next more =>
      have comma : Nests [','] 0 := nests_plain (by decide)
      have whole := (first.append comma).append ih
      rw [Nat.max_zero] at whole
      rwa [List.intercalate_cons_cons]

theorem nests_arrayText {texts : List String} {levels : List Nat}
    (each : List.Forall₂ (fun text levels => Nests text.toList levels) texts levels) :
    Nests (arrayText texts).toList (levels.foldr max 0 + 1) := by
  rw [Reader.toList_arrayText]
  exact (nests_intercalate (List.forall₂_map_left_iff.2 each)).enclosed (.inl ⟨rfl, rfl⟩)

theorem nests_objectText {texts : List (String × String)} {levels : List Nat}
    (each : List.Forall₂ (fun text levels => Nests text.2.toList levels) texts levels) :
    Nests (objectText texts).toList (levels.foldr max 0 + 1) := by
  rw [Reader.toList_objectText]
  refine (nests_intercalate (List.forall₂_map_left_iff.2 (each.imp ?_))).enclosed (.inr ⟨rfl, rfl⟩)
  intro text levels nests
  have colon : Nests [':'] 0 := nests_plain (by decide)
  have whole := (nests_quote text.1).append (colon.append nests)
  rwa [Nat.zero_max, Nat.zero_max] at whole

theorem nests_single {text : String} (name : String) {levels : Nat}
    (nests : Nests text.toList levels) :
    Nests (objectText [(name, text)]).toList (levels + 1) := by
  have member : List.Forall₂ (fun (text : String × String) levels => Nests text.2.toList levels)
      [(name, text)] [levels] := .cons nests .nil
  have whole := nests_objectText member
  rwa [List.foldr_cons, List.foldr_nil, Nat.max_zero] at whole

end Nesting

/-- The number of levels that a text is nested. -/
def nesting (text : String) : Nat := Nesting.deepest 0 text.toList

theorem nesting_of_nests {text : String} {levels : Nat}
    (nests : Nesting.Nests text.toList levels) : nesting text = levels := by
  have whole := nests 0 []
  rw [List.append_nil] at whole
  rw [nesting, whole, Nat.zero_add]
  exact Nat.max_eq_left (Nat.zero_le _)

end SchemaMatch.Json
