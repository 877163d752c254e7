import SchemaMatch.Proofs.Pattern.Slices
import SchemaMatch.Proofs.Record.Cut

/-!
# Matching does not fail

The regions of a match are stretches of the input, so writing it to a record of the root schema of a
pattern has no way to fail, and whatever it writes is cut from the input. The main statement is
`Pattern.writes_of_compile`, about every way to match.
-/

namespace SchemaMatch

namespace Pattern

variable {scope : Scope} {root : SchemaId} {pattern : Pattern} {input : String}

theorem schema_of_compile [Regex.SizeMeasure] (success : compile scope root = .ok pattern) :
    pattern.stencil.schema = root := by
  obtain ⟨next, laid⟩ := Scope.laid_of_compile (parts_of_compile success).1
  exact laid.schema_eq

theorem slot_of_compile [Regex.SizeMeasure] (success : compile scope root = .ok pattern) :
    pattern.stencil.slot = 0 := by
  obtain ⟨next, laid⟩ := Scope.laid_of_compile (parts_of_compile success).1
  exact (Stencil.Tiles.slot_eq laid.tiles).1

/-- A match is written to a record of the schema of the pattern, whatever it holds. -/
theorem inflate_of_match {m : Match} {record : Record}
    (found : pattern.match? input = some m ∨ m ∈ pattern.allMatches input)
    (own : record.schema = pattern.stencil.schema) (typed : record.IsTyped) :
    ∃ after, pattern.stencil.inflate m record = ⟨after, none⟩ ∧ after.schema = record.schema ∧
      after.IsTyped ∧ ∀ path content, path ≠ [] → after.at? path = some content →
        (pattern.stencil.Reaches .plain m path → content.IsCut m.input) ∧
          (¬pattern.stencil.Reaches .plain m path → record.at? path = some content) := by
  have marked := isStretch_of_match found
  have described : Accessors.plain.DescribeOwn pattern.stencil := fun _ _ => rfl
  obtain ⟨finished, still, writes⟩ := Inflated.completes_ofStencil described marked own typed
  refine ⟨(pattern.stencil.inflate m record).record, ?_, writes.schema, still,
    fun path content inside held => ⟨fun reached => ?_, fun unreached => ?_⟩⟩
  · exact congrArg (Inflated.mk _) finished
  · exact writes.isCut marked pattern.stencil inside reached held
  · exact (writes.frame pattern.stencil inside unreached).symm.trans held

/-- A match is written to a blank record, which then holds what is cut from the input and no more. -/
theorem inflate_blank {m : Match}
    (found : pattern.match? input = some m ∨ m ∈ pattern.allMatches input) :
    ∃ after, pattern.stencil.inflate m pattern.blank = ⟨after, none⟩ ∧ after.IsCut m.input := by
  obtain ⟨after, written, _, _, holds⟩ :=
    inflate_of_match found rfl (Record.isTyped_blank pattern.stencil.schema)
  refine ⟨after, written, fun path content inside held => ?_⟩
  obtain ⟨reaches, leaves⟩ := holds path content inside held
  by_cases reached : pattern.stencil.Reaches .plain m path
  · exact reaches reached
  · cases path with
    | nil => exact absurd rfl inside
    | cons place rest => cases leaves reached

theorem input_of_match {m : Match}
    (found : pattern.match? input = some m ∨ m ∈ pattern.allMatches input) : m.input = input := by
  obtain ⟨_, _, rfl⟩ := exists_isMatch found
  rfl

theorem exists_collect {α : Type} (hold : Record → α) (matchList : List Match)
    (found : ∀ m ∈ matchList, m ∈ pattern.allMatches input) (held : List α) :
    ∃ records : List Record, (∀ record ∈ records, record.IsCut input) ∧
      pattern.collect hold matchList held = (held ++ records.map hold, none) := by
  induction matchList generalizing held with
  | nil => exact ⟨[], nofun, by rw [collect, List.map_nil, List.append_nil]⟩
  | cons m rest ih =>
    have among := found m List.mem_cons_self
    obtain ⟨record, written, cut⟩ := inflate_blank (.inr among)
    obtain ⟨records, cuts, collected⟩ :=
      ih (fun m member => found m (List.mem_cons_of_mem _ member)) (held ++ [hold record])
    refine ⟨record :: records, fun other member => ?_, ?_⟩
    · rcases List.mem_cons.1 member with rfl | member
      · rwa [← input_of_match (.inr among)]
      · exact cuts other member
    · rw [collect, written]
      dsimp only
      rw [collected, List.append_assoc, List.map_cons, List.singleton_append]

theorem mem_of_mem_limited {limit : Option Nat} {m : Match} {matchList : List Match}
    (member : m ∈ limited limit matchList) : m ∈ matchList := by
  cases limit with
  | none => exact member
  | some limit => exact List.mem_of_mem_take member

theorem exists_findAllInto {α : Type} (pattern : Pattern) (hold : Record → α) (held : List α)
    (input : String) (limit : Option Nat) :
    ∃ records : List Record, (∀ record ∈ records, record.IsCut input) ∧
      pattern.findAllInto hold held input limit = (records.map hold, none) := by
  obtain ⟨records, cuts, collected⟩ := exists_collect hold
    (limited limit (pattern.allMatches input)) (fun m member => mem_of_mem_limited member) []
  exact ⟨records, cuts, collected⟩

/-- A pattern that has been compiled never fails to write. The leftmost match of an input goes to
any record of its schema: what the match reaches there is cut from the input, and everything else
stays as it was. The record that is made of the leftmost match, and those of up to any number of
matches, hold only what is cut from the input, also where they are put into something else. -/
theorem writes_of_compile [Regex.SizeMeasure] (success : compile scope root = .ok pattern)
    (input : String) :
    (∀ record : Record, record.schema = root → record.IsTyped →
      match pattern.match? input with
      | none => pattern.find record input = (record, .ok false)
      | some m => ∃ after : Record, pattern.find record input = (after, .ok true) ∧
          after.schema = root ∧ after.IsTyped ∧
          ∀ path content, path ≠ [] → after.at? path = some content →
            (pattern.stencil.Reaches .plain m path → content.IsCut input) ∧
              (¬pattern.stencil.Reaches .plain m path → record.at? path = some content)) ∧
      (∃ record? : Option Record, pattern.parse input = .ok record? ∧
        ∀ record ∈ record?, record.IsCut input) ∧
      (∀ limit, ∃ records : List Record, pattern.findAll input limit = .ok records ∧
        ∀ record ∈ records, record.IsCut input) ∧
      ∀ {α : Type} (hold : Record → α) (held : List α) (limit : Option Nat),
        ∃ records : List Record, (∀ record ∈ records, record.IsCut input) ∧
          pattern.findAllInto hold held input limit = (records.map hold, none) := by
  have schema := schema_of_compile success
  refine ⟨fun record own typed => ?_, ?_, fun limit => ?_, fun hold held limit =>
    exists_findAllInto pattern hold held input limit⟩
  · cases found : pattern.match? input with
    | none => simp only [find, found]
    | some m =>
      obtain ⟨after, written, same, still, holds⟩ :=
        inflate_of_match (.inl found) (own.trans schema.symm) typed
      rw [input_of_match (.inl found)] at holds
      refine ⟨after, ?_, same.trans own, still, holds⟩
      simp only [find, found, written]
  · cases found : pattern.match? input with
    | none =>
      refine ⟨none, ?_, nofun⟩
      simp only [parse, find, found]
    | some m =>
      obtain ⟨after, written, cut⟩ := inflate_blank (.inl found)
      rw [input_of_match (.inl found)] at cut
      refine ⟨some after, ?_, fun record member => ?_⟩
      · simp only [parse, find, found, written]
      · cases Option.mem_some.1 member
        exact cut
  · obtain ⟨records, cuts, collected⟩ := exists_findAllInto pattern id [] input limit
    refine ⟨records, ?_, cuts⟩
    rw [findAll, collected, List.map_id]

/-- The pattern of `samplePair` is found in a text without an item and written to `filledPair`: what
its word becomes is cut from the text, and what its item holds was there before. -/
theorem writes_of_compile_samplePair :
    ∃ pattern after, compile samplePair 0 = .ok pattern ∧
      pattern.find filledPair "xa-c" = (after, .ok true) ∧ after.IsTyped ∧
      (∀ content, after.at? [⟨0, .scalar .text⟩] = some content → content.IsCut "xa-c") ∧
      (∀ content, after.at? [⟨2, .nested .optional 1⟩, ⟨1, .scalar .bytes⟩] = some content →
        content = .bytes [1]) ∧
      ∃ records, pattern.findAll "xa-c" none = .ok records ∧
        ∀ record ∈ records, record.IsCut "xa-c" := by
  have compiles : Prod.fst <$> samplePair.compile 0 = .ok samplePairStencil := rfl
  have matched : (compile samplePair 0).toOption.map (fun pattern => pattern.match? "xa-c") =
      some (some ⟨"xa-c", [some ⟨1, 3⟩, some ⟨1, 2⟩, some ⟨3, 3⟩, none, none, none]⟩) := by
    decide +kernel
  cases success : compile samplePair 0 with
  | error error =>
    rw [success] at matched
    cases matched
  | ok pattern =>
    rw [success] at matched
    rw [(parts_of_compile success).1] at compiles
    have found : pattern.match? "xa-c" = _ := Option.some.inj matched
    have stencil : pattern.stencil = samplePairStencil := Except.ok.inj compiles
    have typed : filledPair.IsTyped :=
      ⟨⟨.inl ⟨.optional, rfl⟩, .inl rfl, rfl, trivial⟩, trivial⟩
    obtain ⟨first, _, all, _⟩ := writes_of_compile success "xa-c"
    have finds := first filledPair rfl typed
    rw [found] at finds
    obtain ⟨after, finds, _, still, holds⟩ := finds
    rw [stencil] at holds
    refine ⟨pattern, after, rfl, finds, still, fun content held => ?_, fun content held => ?_,
      all none⟩
    · refine (holds _ content (List.cons_ne_nil _ _) held).1 ?_
      simp [samplePairStencil, Stencil.Reaches, FieldsReach, FieldReaches, Match.hasSlot,
        Match.region?, Spot.Meets, Spot.path, Hold.path, Accessors.plain]
    · have kept := (holds _ content (List.cons_ne_nil _ _) held).2 (by
        simp [samplePairStencil, Stencil.Reaches, FieldsReach, FieldReaches, Match.hasSlot,
          Match.region?, Spot.Meets, Spot.path, Hold.path, Accessors.plain, Stencil.slot])
      exact (Option.some.inj kept).symm

end Pattern

end SchemaMatch
