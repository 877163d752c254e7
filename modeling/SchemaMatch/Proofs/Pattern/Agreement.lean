import SchemaMatch.Proofs.Pattern.Writing
import SchemaMatch.Proofs.Regex.Successive

/-!
# The ways to match agree

Asking whether there is a match, writing the leftmost match and collecting all matches go by the
same matches, those that follow one another from the start of the input on. The main statement is
`Pattern.matching_agrees`. In bytes, too, a match starts later than the one before it and not before
its end, and is not empty there.
-/

namespace SchemaMatch

namespace Text

theorem byteOffset_lt {text : String} {start stop : Nat} (order : start < stop)
    (inside : stop ≤ (Regex.Subject.ofString text).size) :
    (Regex.Subject.ofString text).byteOffset start <
      (Regex.Subject.ofString text).byteOffset stop := by
  change stop ≤ text.toList.toArray.size at inside
  rw [List.size_toArray] at inside
  rw [byteOffset_ofString, byteOffset_ofString, byteLength_take (Nat.le_of_lt order)]
  apply Nat.lt_add_of_pos_right
  apply Nat.pos_of_ne_zero
  intro none
  have empty := congrArg List.length (eq_nil_of_byteLength_eq_zero none)
  rw [List.length_take, List.length_drop, List.length_nil] at empty
  omega

end Text

/-- A match starts later than another one and not before its end, and is not empty there, in
bytes. -/
def Match.IsAfter (later earlier : Match) : Prop :=
  ∃ first second : Region, earlier.whole? = some first ∧ later.whole? = some second ∧
    first.start < second.start ∧ first.stop ≤ second.start ∧
    ¬(second.start = first.stop ∧ second.stop = first.stop)

namespace Pattern

variable {pattern : Pattern} {input : String}

/-- The record that is made of a match. -/
def recordOf (pattern : Pattern) (m : Match) : Record :=
  (pattern.stencil.inflate m pattern.blank).record

/-- The records of the matches that follow one another. -/
def records (pattern : Pattern) (input : String) : List Record :=
  (pattern.allMatches input).map pattern.recordOf

theorem inflate_eq_recordOf {m : Match} (found : m ∈ pattern.allMatches input) :
    pattern.stencil.inflate m pattern.blank = ⟨pattern.recordOf m, none⟩ := by
  obtain ⟨after, written, _⟩ := inflate_blank (.inr found)
  rw [recordOf, written]

theorem collect_eq {α : Type} (hold : Record → α) (matchList : List Match)
    (found : ∀ m ∈ matchList, m ∈ pattern.allMatches input) (held : List α) :
    pattern.collect hold matchList held =
      (held ++ (matchList.map pattern.recordOf).map hold, none) := by
  induction matchList generalizing held with
  | nil => rw [collect, List.map_nil, List.map_nil, List.append_nil]
  | cons m rest ih =>
    have others := ih (fun m member => found m (List.mem_cons_of_mem _ member))
      (held ++ [hold (pattern.recordOf m)])
    rw [collect, inflate_eq_recordOf (found m List.mem_cons_self)]
    dsimp only
    rw [others, List.append_assoc, List.map_cons, List.map_cons, List.singleton_append]

theorem findAllInto_none {α : Type} (hold : Record → α) (held : List α) :
    pattern.findAllInto hold held input none = ((pattern.records input).map hold, none) :=
  collect_eq hold _ (fun _ member => member) []

theorem findAllInto_some {α : Type} (hold : Record → α) (held : List α) (limit : Nat) :
    pattern.findAllInto hold held input (some limit) =
      (((pattern.records input).take limit).map hold, none) := by
  have collected : pattern.findAllInto hold held input (some limit) = _ :=
    collect_eq hold ((pattern.allMatches input).take limit)
      (fun _ member => List.mem_of_mem_take member) []
  rw [collected, List.nil_append, List.map_take, records]

theorem head?_allMatches (pattern : Pattern) (input : String) :
    (pattern.allMatches input).head? = pattern.match? input := by
  rw [allMatches, match?, Regex.findAll, Regex.find?, List.head?_map, List.head?_map,
    Regex.Term.head?_allMatches]

theorem isMatch_eq_isSome (pattern : Pattern) (input : String) :
    pattern.isMatch input = (pattern.match? input).isSome := by
  rw [isMatch, match?, Option.isSome_map, Regex.isMatch]

theorem find_eq_isMatch {record : Record} (own : record.schema = pattern.stencil.schema)
    (typed : record.IsTyped) : (pattern.find record input).2 = .ok (pattern.isMatch input) := by
  rw [isMatch_eq_isSome]
  unfold find
  cases found : pattern.match? input with
  | none => rfl
  | some m =>
    obtain ⟨after, written, _⟩ := inflate_of_match (.inl found) own typed
    simp only [written, Option.isSome_some]

theorem parse_eq_head? (pattern : Pattern) (input : String) :
    pattern.parse input = .ok (pattern.records input).head? := by
  rw [records, List.head?_map, head?_allMatches]
  unfold parse find
  cases found : pattern.match? input with
  | none => rfl
  | some m =>
    have first := (head?_allMatches pattern input).trans found
    have among := List.mem_of_mem_head? (Option.mem_def.2 first)
    simp only [inflate_eq_recordOf among, Option.map_some]

theorem isMatch_iff_records_ne_nil (pattern : Pattern) (input : String) :
    pattern.isMatch input = true ↔ pattern.records input ≠ [] := by
  rw [isMatch_eq_isSome, ← head?_allMatches, records, ne_eq, List.map_eq_nil_iff]
  cases pattern.allMatches input with
  | nil => simp
  | cons m rest => simp

theorem isMatch_iff (pattern : Pattern) (input : String) :
    pattern.isMatch input = true ↔ ∃ found, pattern.regex.term.IsMatch (.ofString input) found := by
  rw [isMatch_eq_isSome, match?, Option.isSome_map, Regex.find?, Option.isSome_map,
    Regex.Term.isSome_firstMatch?_iff]

/-- Of two matches that follow one another, the later one is after the earlier one in bytes as
well. -/
theorem isAfter_of_mayFollow {earlier later : Nat × Regex.Arrival}
    (matched : pattern.regex.term.IsMatch (.ofString input) later) (less : earlier.1 < later.1)
    (follows : Regex.MayFollow (some earlier.2.position) later) :
    Match.IsAfter ⟨input, pattern.regex.regions (.ofString input) later⟩
      ⟨input, pattern.regex.regions (.ofString input) earlier⟩ := by
  obtain ⟨late, filled⟩ := follows _ rfl
  refine ⟨_, _, rfl, rfl, ?_, ?_, ?_⟩
  · exact Text.byteOffset_lt less matched.inside
  · exact Text.byteOffset_le late
  · rintro ⟨start, stop⟩
    -- Positions with the same offset are the same.
    have same {position : Nat} (beyond : earlier.2.position ≤ position)
        (inside : position ≤ (Regex.Subject.ofString input).size)
        (offset : (Regex.Subject.ofString input).byteOffset position =
          (Regex.Subject.ofString input).byteOffset earlier.2.position) :
        position = earlier.2.position := by
      apply Nat.le_antisymm _ beyond
      apply Nat.le_of_not_lt
      intro further
      exact Nat.ne_of_gt (Text.byteOffset_lt further inside) offset
    exact filled ⟨same late matched.inside start,
      same (Nat.le_trans late matched.le) matched.stop_le stop⟩

/-- All ways to match agree, for every pattern and input. Writing to a record of the pattern's
schema tells whether there is a match, which is so if there is one from any position. The records of
all matches are found without a limit, the first ones up to a limit, and the very first is what is
parsed; what they are put into, and what was there before, does not matter. The matches are all
those that follow one another from the start of the input on, each the leftmost one that may follow;
so they are in order and do not overlap, none is empty at the end of the one before it, and there is
at most one more of them than there are characters. -/
theorem matching_agrees (pattern : Pattern) (input : String) :
    (∀ record : Record, record.schema = pattern.stencil.schema → record.IsTyped →
      (pattern.find record input).2 = .ok (pattern.isMatch input)) ∧
    (pattern.isMatch input = true ↔
      ∃ found, pattern.regex.term.IsMatch (.ofString input) found) ∧
    (pattern.isMatch input = true ↔ pattern.records input ≠ []) ∧
    pattern.parse input = .ok (pattern.records input).head? ∧
    pattern.findAll input none = .ok (pattern.records input) ∧
    (∀ limit, pattern.findAll input (some limit) = .ok ((pattern.records input).take limit)) ∧
    (∀ (α : Type) (hold : Record → α) (held : List α),
      pattern.findAllInto hold held input none = ((pattern.records input).map hold, none) ∧
      ∀ limit, pattern.findAllInto hold held input (some limit) =
        (((pattern.records input).take limit).map hold, none)) ∧
    (∃ founds, pattern.regex.term.Succession (.ofString input) none founds ∧
      pattern.allMatches input =
        founds.map fun found => ⟨input, pattern.regex.regions (.ofString input) found⟩) ∧
    (pattern.allMatches input).Pairwise (fun earlier later => later.IsAfter earlier) ∧
    (pattern.allMatches input).length ≤ input.length + 1 := by
  have succession := Regex.Term.succession_allMatches (.ofString input) pattern.regex.term
  have among : pattern.allMatches input =
      (pattern.regex.term.allMatches (.ofString input)).map fun found =>
        ⟨input, pattern.regex.regions (.ofString input) found⟩ := by
    rw [allMatches, Regex.findAll, List.map_map]
    rfl
  refine ⟨fun record own typed => find_eq_isMatch own typed, isMatch_iff pattern input,
    isMatch_iff_records_ne_nil pattern input, parse_eq_head? pattern input, ?_, ?_, ?_,
    ⟨_, succession, among⟩, ?_, ?_⟩
  · rw [findAll, findAllInto_none, List.map_id]
  · intro limit
    rw [findAll, findAllInto_some, List.map_id]
  · intro α hold held
    exact ⟨findAllInto_none hold held, findAllInto_some hold held⟩
  · rw [among, List.pairwise_map]
    apply succession.pairwise.imp_of_mem
    rintro earlier later _ second ⟨less, follows⟩
    exact isAfter_of_mayFollow (succession.isMatch_of_mem second) less follows
  · have count := succession.length_le
    rw [among, List.length_map, ← String.length_toList, ← List.size_toArray]
    exact count

/-- The pattern of `samplePair` matches twice in a text: writing the leftmost match to `filledPair`
finds it, and of the records the first one is parsed and is all that is left of them under a limit
of one. -/
theorem matching_agrees_samplePair :
    ∃ pattern first others, compile samplePair 0 = .ok pattern ∧
      filledPair.schema = pattern.stencil.schema ∧ filledPair.IsTyped ∧
      (pattern.find filledPair "xa-c a-").2 = .ok true ∧
      pattern.findAll "xa-c a-" none = .ok (first :: others) ∧
      pattern.parse "xa-c a-" = .ok (some first) ∧
      pattern.findAll "xa-c a-" (some 1) = .ok [first] := by
  have matched : (compile samplePair 0).toOption.map (·.isMatch "xa-c a-") = some true := by
    decide +kernel
  have typed : filledPair.IsTyped :=
    ⟨⟨.inl ⟨.optional, rfl⟩, .inl rfl, rfl, trivial⟩, trivial⟩
  cases success : compile samplePair 0 with
  | error error =>
    rw [success] at matched
    cases matched
  | ok pattern =>
    rw [success] at matched
    have isMatch : pattern.isMatch "xa-c a-" = true := Option.some.inj matched
    have own : filledPair.schema = pattern.stencil.schema := (schema_of_compile success).symm
    obtain ⟨finds, _, several, parses, all, limited, _⟩ := matching_agrees pattern "xa-c a-"
    obtain ⟨first, others, records⟩ := List.exists_cons_of_ne_nil (several.1 isMatch)
    have found := finds filledPair own typed
    have one := limited 1
    rw [isMatch] at found
    rw [records] at parses all one
    exact ⟨pattern, first, others, rfl, own, typed, found, all, parses, one⟩

example : (Regex.compile {} "b*").toOption.map (·.findAll "bé") =
    some [[some ⟨0, 1⟩], [some ⟨3, 3⟩]] := by
  decide +kernel

end Pattern

end SchemaMatch
