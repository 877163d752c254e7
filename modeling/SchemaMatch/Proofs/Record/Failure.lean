import SchemaMatch.Proofs.Record.Visit

/-!
# Writing that fails

Inflating a match performs its visits up to the first one that fails, whatever the regions of the
match are, and reports the error of that one. A record of another type is not changed. The main
statement is `Stencil.inflate_visits`.
-/

namespace SchemaMatch

namespace Inflated

/-- Writing to a record performs some visits up to the first one that fails. -/
structure Follows (visits : List Visit) (before : Record) (after : Inflated) : Prop where
  error : after.error? = Visit.firstError? visits
  record : after.record = Visit.performAll (Visit.beforeFailure visits) before
  schema : after.record.schema = before.schema
  typed : after.record.IsTyped

section Steps

variable {accessors : Accessors} {m : Match} {before middle : Record}
variable {front back visits : List Visit} {after : Inflated}

theorem Follows.nothing (typed : before.IsTyped) : Follows [] before ⟨before, none⟩ :=
  ⟨rfl, rfl, rfl, typed⟩

theorem Follows.failure (typed : before.IsTyped) (error : MatchError) :
    Follows [.fail error] before ⟨before, some error⟩ :=
  ⟨rfl, rfl, rfl, typed⟩

/-- The one visit writes to a spot. -/
theorem Follows.one {spot : Spot} {content : Content} (typed : before.IsTyped)
    (suits : content.Suits spot.place.type) :
    Follows [.write spot.through spot.place content] before ⟨spot.put content before, none⟩ :=
  ⟨rfl, rfl, Record.schema_put spot content before, typed.put suits⟩

theorem Follows.append (first : Follows front before ⟨middle, none⟩)
    (others : Follows back middle after) : Follows (front ++ back) before after := by
  have none : Visit.firstError? front = none := first.error.symm
  have reached : middle = Visit.performAll (Visit.beforeFailure front) before := first.record
  rw [Visit.beforeFailure_of_none none] at reached
  refine ⟨?_, ?_, others.schema.trans first.schema, others.typed⟩
  · rw [Visit.firstError?_append, none, Option.none_or, others.error]
  · rw [Visit.beforeFailure_append_of_none none, Visit.performAll_append, ← reached, others.record]

theorem Follows.cut {error : MatchError} (first : Follows front before ⟨middle, some error⟩)
    (back : List Visit) : Follows (front ++ back) before ⟨middle, some error⟩ := by
  have failed : Visit.firstError? front = some error := first.error.symm
  refine ⟨?_, ?_, first.schema, first.typed⟩
  · rw [Visit.firstError?_append, failed]
    rfl
  · rw [Visit.beforeFailure_append_of_some failed]
    exact first.record

/-- The visits to a record of another type fail. -/
theorem Follows.own {schema : SchemaId} {owner : String} (typed : before.IsTyped)
    (there : before.schema = schema → Follows visits before after) :
    Follows (ownVisits (before.schema = schema) owner visits) before
      (if before.schema ≠ schema then ⟨before, some (.destinationTypeMismatch owner)⟩
        else after) := by
  by_cases same : before.schema = schema
  · rw [if_neg (not_not_intro same), decide_eq_true same]
    exact there same
  · rw [if_pos same, decide_eq_false same]
    exact .failure typed _

/-- A record that is held is visited where it is, and kept as it has become. -/
theorem Follows.held {spot : Spot} {holder : Holder} {schema : SchemaId} {inner : Inflated}
    (type : spot.place.type = .nested holder schema) (typed : before.IsTyped)
    (inside : Follows visits ((before.descend spot.through).child spot.place schema) inner) :
    Follows ((.enter [] :: visits).map (.within (spot.holds holder schema))) before
      ⟨spot.put inner.record.content before, inner.error?⟩ := by
  have place : (⟨spot.place.dest, holder, schema⟩ : Hold).place = spot.place := by
    rw [Hold.place, ← type]
  have suits := inside.typed.suits_nested holder
  rw [inside.schema, (typed.descend.child type).2, ← type] at suits
  refine ⟨?_, ?_, Record.schema_put _ _ _, typed.put suits⟩
  · rw [Visit.firstError?_within, inside.error]
    rfl
  · have made : Visit.beforeFailure (.enter [] :: visits) =
        .enter [] :: Visit.beforeFailure visits := rfl
    have entered : (Visit.within (spot.holds holder schema) (.enter [])).perform before =
        before.changeAt (spot.holds holder schema) id := by
      rw [Visit.within, List.append_nil, Visit.perform]
    rw [Visit.beforeFailure_within, made, List.map_cons, Visit.performAll_cons, entered,
      Visit.performAll_within, Spot.holds, Record.changeAt_append, Spot.put, inside.record]
    -- the record is the one that the last hold leads to, at the place of the spot
    apply Record.changeAt_congr
    rw [Record.changeAt, Record.changeAt, place]
    rfl

theorem follows_writeScalar {schema : SchemaId} {owner name : String} {slot dest : Nat}
    {representation : Representation} (typed : before.IsTyped) :
    Follows (fieldVisits accessors m (before.schema = accessors.owner schema) schema owner
        (.scalar name slot dest representation)) before
      (writeScalar accessors m schema owner name slot dest representation before) := by
  rw [writeScalar_eq, fieldVisits]
  cases m.region? slot with
  | none => exact .nothing typed
  | some region =>
    apply Follows.own typed
    intro _
    rw [scalarVisits]
    cases Text.slice? m.input region with
    | none => exact .failure typed _
    | some text =>
      dsimp only
      cases stored : stored? representation region text with
      | none => exact .nothing typed
      | some content =>
        apply Follows.one typed
        rw [accessors.type_eq]
        exact suits_of_stored? stored

theorem follows_writePosition {schema : SchemaId} {owner name : String} {slot dest : Nat}
    (typed : before.IsTyped) :
    Follows (fieldVisits accessors m (before.schema = accessors.owner schema) schema owner
        (.position name slot dest)) before
      (writePosition accessors m schema owner name slot dest before) := by
  rw [writePosition_eq, fieldVisits]
  cases m.region? slot with
  | none => exact .nothing typed
  | some region =>
    apply Follows.own typed
    intro _
    apply Follows.one typed
    rw [accessors.type_eq]
    rfl

end Steps

mutual

/-- Writing a match to a record performs the visits up to the first one that fails. -/
theorem follows_ofStencil (accessors : Accessors) (m : Match) : (stencil : Stencil) →
    {record : Record} → record.IsTyped →
    Follows (stencil.visits accessors m (record.schema = accessors.owner stencil.schema)) record
      (ofStencil accessors m stencil record)
  | .mk schema name _ slot fields, record, typed => by
    rw [ofStencil, Stencil.visits]
    split
    · exact follows_ofFields accessors m schema name fields typed
    · exact .nothing typed

theorem follows_ofFields (accessors : Accessors) (m : Match) (schema : SchemaId)
    (owner : String) : (fields : List FieldStencil) → {record : Record} → record.IsTyped →
    Follows (fieldsVisits accessors m (record.schema = accessors.owner schema) schema owner fields)
      record (ofFields accessors m schema owner fields record)
  | [], record, typed => .nothing typed
  | field :: rest, record, typed => by
    have first := follows_ofField accessors m schema owner field typed
    rw [ofFields, fieldsVisits]
    generalize ofField accessors m schema owner field record = done at first
    obtain ⟨middle, error?⟩ := done
    cases error? with
    | some error => exact first.cut _
    | none =>
      have others := follows_ofFields accessors m schema owner rest first.typed
      rw [first.schema] at others
      exact first.append others

theorem follows_ofField (accessors : Accessors) (m : Match) (schema : SchemaId)
    (owner : String) : (field : FieldStencil) → {record : Record} → record.IsTyped →
    Follows (fieldVisits accessors m (record.schema = accessors.owner schema) schema owner field)
      record (ofField accessors m schema owner field record)
  | .separator, record, typed => .nothing typed
  | .scalar name slot dest representation, record, typed => by
    rw [ofField]
    exact follows_writeScalar typed
  | .position name slot dest, record, typed => by
    rw [ofField]
    exact follows_writePosition typed
  | .nested name slot dest holder child, record, typed => by
    rw [ofField_nested_eq, fieldVisits]
    cases m.hasSlot child.slot with
    | false => exact .nothing typed
    | true =>
      apply Follows.own typed
      intro _
      have type := accessors.type_eq schema ⟨dest, .nested holder child.schema⟩
      obtain ⟨held, same⟩ := typed.descend.child type
      have inside := follows_ofStencil accessors m child held
      simp only [same] at inside
      exact Follows.held type typed inside
  | .union name slot dest capability _ variants, record, typed => by
    rw [ofField_union_eq, fieldVisits]
    rcases follows_ofVariants accessors m variants with
      ⟨none, absent⟩ | ⟨variant, visits, inner, some, found, inside⟩
    · rw [none, absent]
      exact .nothing typed
    · rw [some, found]
      obtain ⟨written, error?⟩ := inner
      have failed : error? = Visit.firstError? visits := inside.error
      dsimp only
      rw [← failed]
      cases error? with
      | some error => exact .failure typed error
      | none =>
        have reached : written = _ := inside.record
        rw [Visit.beforeFailure_of_none failed.symm] at reached
        rw [← reached]
        apply Follows.own typed
        intro _
        apply Follows.one typed
        rw [accessors.type_eq]
        exact inside.typed.suits_union capability

theorem follows_ofVariants (accessors : Accessors) (m : Match) : (variants : List Stencil) →
    (ofVariants accessors m variants = none ∧ variantVisits accessors m variants = none) ∨
      ∃ variant visits inner, ofVariants accessors m variants = some inner ∧
        variantVisits accessors m variants = some (variant, visits) ∧
        Follows visits (Record.blank variant) inner
  | [] => .inl ⟨rfl, rfl⟩
  | variant :: rest => by
    rw [ofVariants_cons, variantVisits]
    split
    · exact .inr ⟨_, _, _, rfl, rfl,
        follows_ofStencil accessors m variant (Record.isTyped_blank variant.schema)⟩
    · exact follows_ofVariants accessors m rest

end

end Inflated

/-! ### What is visited -/

section Visits

variable {accessors : Accessors} {m : Match} {own : Bool} {schema : SchemaId} {owner : String}

theorem Visit.IsLeaf.within {holds : List Hold} {visit : Visit} (leaf : visit.IsLeaf) :
    (visit.within holds).IsLeaf := by
  cases visit with
  | write inner place content => exact leaf
  | enter inner => trivial
  | fail error => trivial

/-- An accessor whose field does not hold a record does not end where a record is held. -/
theorem Accessors.isLeaf_write {place : Place} {content : Content}
    (other : ∀ holder inner, place.type ≠ .nested holder inner) :
    (Visit.write (accessors.spot schema place).through (accessors.spot schema place).place
      content).IsLeaf := by
  intro hold same
  have type := accessors.type_eq schema place
  rw [same] at type
  exact other _ _ type.symm

theorem isLeaf_of_mem_ownVisits {visits : List Visit} (leaves : ∀ visit ∈ visits, visit.IsLeaf) :
    ∀ visit ∈ ownVisits own owner visits, visit.IsLeaf := by
  unfold ownVisits
  split
  · exact leaves
  · intro visit member
    rw [List.mem_singleton.1 member]
    trivial

theorem isLeaf_of_mem_scalarVisits {name : String} {dest : Nat} {representation : Representation}
    {region : Region} :
    ∀ visit ∈ scalarVisits m name (accessors.spot schema ⟨dest, .scalar representation⟩)
      representation region, visit.IsLeaf := by
  intro visit member
  unfold scalarVisits at member
  split at member
  · rw [List.mem_singleton.1 member]
    trivial
  · split at member
    · cases member
    · rw [List.mem_singleton.1 member]
      exact accessors.isLeaf_write nofun

mutual

/-- Visits go into records that fields hold, and write to other places. -/
theorem isLeaf_of_mem_visits (accessors : Accessors) (m : Match) (own : Bool) :
    (stencil : Stencil) → ∀ visit ∈ stencil.visits accessors m own, visit.IsLeaf
  | .mk schema name _ slot fields => by
    rw [Stencil.visits]
    split
    · exact isLeaf_of_mem_fieldsVisits accessors m own schema name fields
    · exact nofun

theorem isLeaf_of_mem_fieldsVisits (accessors : Accessors) (m : Match) (own : Bool)
    (schema : SchemaId) (owner : String) : (fields : List FieldStencil) →
    ∀ visit ∈ fieldsVisits accessors m own schema owner fields, visit.IsLeaf
  | [] => nofun
  | field :: rest => by
    intro visit member
    rw [fieldsVisits] at member
    rcases List.mem_append.1 member with here | later
    · exact isLeaf_of_mem_fieldVisits accessors m own schema owner field visit here
    · exact isLeaf_of_mem_fieldsVisits accessors m own schema owner rest visit later

theorem isLeaf_of_mem_fieldVisits (accessors : Accessors) (m : Match) (own : Bool)
    (schema : SchemaId) (owner : String) : (field : FieldStencil) →
    ∀ visit ∈ fieldVisits accessors m own schema owner field, visit.IsLeaf
  | .separator => nofun
  | .scalar name slot dest representation => by
    rw [fieldVisits]
    split
    · exact nofun
    · exact isLeaf_of_mem_ownVisits isLeaf_of_mem_scalarVisits
  | .position name slot dest => by
    rw [fieldVisits]
    split
    · exact nofun
    · apply isLeaf_of_mem_ownVisits
      intro visit member
      rw [List.mem_singleton.1 member]
      exact accessors.isLeaf_write nofun
  | .nested name slot dest holder child => by
    rw [fieldVisits]
    split
    · apply isLeaf_of_mem_ownVisits
      intro visit member
      obtain ⟨inner, among, rfl⟩ := List.mem_map.1 member
      apply Visit.IsLeaf.within
      rcases List.mem_cons.1 among with rfl | among
      · trivial
      · exact isLeaf_of_mem_visits accessors m _ child inner among
    · exact nofun
  | .union name slot dest capability _ variants => by
    rw [fieldVisits]
    split
    · exact nofun
    · split
      · intro visit member
        rw [List.mem_singleton.1 member]
        trivial
      · apply isLeaf_of_mem_ownVisits
        intro visit member
        rw [List.mem_singleton.1 member]
        exact accessors.isLeaf_write nofun

end

theorem exists_error_of_mem_fieldVisits (field : FieldStencil) :
    ∀ visit ∈ fieldVisits accessors m false schema owner field, ∃ error, visit = .fail error := by
  have single {error : MatchError} :
      ∀ visit ∈ [Visit.fail error], ∃ error, visit = .fail error := by
    intro visit member
    exact ⟨error, List.mem_singleton.1 member⟩
  cases field with
  | separator => exact nofun
  | scalar name slot dest representation =>
    rw [fieldVisits]
    split
    · exact nofun
    · exact single
  | position name slot dest =>
    rw [fieldVisits]
    split
    · exact nofun
    · exact single
  | nested name slot dest holder child =>
    rw [fieldVisits]
    split
    · exact single
    · exact nofun
  | union name slot dest capability _ variants =>
    rw [fieldVisits]
    split
    · exact nofun
    · split
      · exact single
      · exact single

theorem beforeFailure_visits_of_other (stencil : Stencil) :
    Visit.beforeFailure (stencil.visits accessors m false) = [] := by
  obtain ⟨schema, name, typeName, slot, fields⟩ := stencil
  rw [Stencil.visits]
  split
  · induction fields with
    | nil => rfl
    | cons field rest ih =>
      rw [fieldsVisits]
      cases first : fieldVisits accessors m false schema name field with
      | nil => exact ih
      | cons visit others =>
        have member : visit ∈ fieldVisits accessors m false schema name field := by
          rw [first]
          exact List.mem_cons_self
        obtain ⟨error, rfl⟩ := exists_error_of_mem_fieldVisits field visit member
        rfl
  · rfl

end Visits

/-- A slice is made of a region that is in order and ends inside of the text. -/
theorem ofRegion?_of_slice? {input text : String} {region : Region}
    (cut : Text.slice? input region = some text) :
    Submatch.ofRegion? region (Text.utf8 input) = some ⟨region, Text.utf8 text⟩ := by
  obtain ⟨stretch, bytes⟩ := Text.slice?_eq_some_iff.1 cut
  rw [bytes]
  apply if_pos
  rw [Bool.and_eq_true, decide_eq_true_iff, decide_eq_true_iff]
  exact ⟨stretch.ordered, stretch.stop.le_length⟩

namespace Stencil

/-- The visits that inflating a match goes through for a record, in order. -/
def plan (accessors : Accessors) (stencil : Stencil) (m : Match) (record : Record) : List Visit :=
  stencil.visits accessors m (record.schema = accessors.owner stencil.schema)

/-- The visits that inflating a match performs on a record: those before the first failure. -/
def done (accessors : Accessors) (stencil : Stencil) (m : Match) (record : Record) : List Visit :=
  Visit.beforeFailure (stencil.plan accessors m record)

theorem isLeaf_of_mem_done {accessors : Accessors} {stencil : Stencil} {m : Match}
    {record : Record} : ∀ visit ∈ stencil.done accessors m record, visit.IsLeaf := by
  intro visit member
  apply isLeaf_of_mem_visits
  exact (List.takeWhile_sublist _).mem member

/-- Whatever the regions of a match are and whatever the accessors reach, inflating it ends with the
error of the first visit that fails, and has performed just the visits before that one. What they do
not touch is left alone, what they write stays unless a later one writes there, and the records that
they make stay. A record of another type than the description is made for is not changed. Every
region of which a slice is stored is in order and inside of the input. -/
theorem inflate_visits (accessors : Accessors) (stencil : Stencil) (m : Match) {record : Record}
    (typed : record.IsTyped) :
    (stencil.inflateBy accessors m record).error? =
      Visit.firstError? (stencil.plan accessors m record) ∧
    (stencil.inflateBy accessors m record).record =
      Visit.performAll (stencil.done accessors m record) record ∧
    (∀ path, path ≠ [] → (∀ visit ∈ stencil.done accessors m record, ¬visit.Touches path) →
      (stencil.inflateBy accessors m record).record.at? path = record.at? path) ∧
    (∀ front holds place content back,
      stencil.done accessors m record = front ++ .write holds place content :: back →
      (∀ later ∈ back, ¬later.Touches (Hold.path holds ++ [place])) →
      (stencil.inflateBy accessors m record).record.at? (Hold.path holds ++ [place]) =
        some content) ∧
    (∀ holds, .enter holds ∈ stencil.done accessors m record →
      ((stencil.inflateBy accessors m record).record.at? (Hold.path holds)).isSome) ∧
    (record.schema ≠ accessors.owner stencil.schema →
      (stencil.inflateBy accessors m record).record = record) ∧
    ∀ region text, Text.slice? m.input region = some text →
      Submatch.ofRegion? region (Text.utf8 m.input) = some ⟨region, Text.utf8 text⟩ := by
  have follows := Inflated.follows_ofStencil accessors m stencil typed
  have reached : (stencil.inflateBy accessors m record).record =
      Visit.performAll (stencil.done accessors m record) record := follows.record
  refine ⟨follows.error, reached, ?_, ?_, ?_, ?_, ?_⟩
  · intro path inside untouched
    rw [reached]
    exact Visit.at?_performAll inside untouched
  · intro front holds place content back split untouched
    rw [reached, split, Visit.performAll_append, Visit.performAll_cons,
      Visit.at?_performAll (by simp) untouched]
    exact Visit.at?_perform_write holds place content
  · intro holds member
    obtain ⟨front, back, split⟩ := List.append_of_mem member
    have leaves : ∀ visit ∈ back, visit.IsLeaf := by
      intro visit later
      have member : visit ∈ stencil.done accessors m record := by
        rw [split]
        exact List.mem_append_right _ (List.mem_cons_of_mem _ later)
      exact isLeaf_of_mem_done visit member
    rw [reached, split, Visit.performAll_append, Visit.performAll_cons]
    exact Visit.isSome_at?_performAll leaves (Visit.isSome_at?_perform_enter holds)
  · intro other
    rw [reached, done, plan, decide_eq_false other, beforeFailure_visits_of_other]
    rfl
  · intro region text cut
    exact ofRegion?_of_slice? cut

/-- A match of `samplePairStencil` in which the region of the item's word is reversed. -/
def reversedWord : Match :=
  ⟨"xa-b", [some ⟨0, 4⟩, some ⟨0, 2⟩, some ⟨3, 4⟩, some ⟨3, 4⟩, some ⟨3, 3⟩, some ⟨4, 3⟩]⟩

/-- The item of a pair. -/
def pairItem : Hold := ⟨2, .optional, 1⟩

/-- The item's word cannot be written. What was written before it stays, in the pair and in its
item, and the item keeps the word that it had. -/
theorem inflate_visits_samplePair :
    (samplePairStencil.inflate reversedWord filledPair).error? =
        some (.unsupportedFieldRepresentation "word" "alloc::vec::Vec<u8>") ∧
      (samplePairStencil.inflate reversedWord filledPair).record =
        Visit.performAll [.write [] ⟨0, .scalar .text⟩ (.text "xa"), .enter [pairItem],
          .write [pairItem] ⟨0, .position⟩ (.position 3)] filledPair ∧
      (samplePairStencil.inflate reversedWord filledPair).record.at?
        [pairItem.place, ⟨0, .position⟩] = some (.position 3) ∧
      (samplePairStencil.inflate reversedWord filledPair).record.at?
        [pairItem.place, ⟨1, .scalar .bytes⟩] = some (.bytes [1]) := by
  have typed : filledPair.IsTyped :=
    ⟨⟨.inl ⟨.optional, rfl⟩, .inl rfl, rfl, trivial⟩, trivial⟩
  have plan : samplePairStencil.plan .plain reversedWord filledPair =
      [.write [] ⟨0, .scalar .text⟩ (.text "xa"), .enter [pairItem],
        .write [pairItem] ⟨0, .position⟩ (.position 3),
        .fail (.unsupportedFieldRepresentation "word" "alloc::vec::Vec<u8>")] := by
    rfl
  obtain ⟨error, record, frame, kept, _, _, _⟩ :=
    inflate_visits .plain samplePairStencil reversedWord typed
  rw [done, plan] at record frame kept
  rw [plan] at error
  refine ⟨error, record, ?_, ?_⟩
  · exact kept [.write [] ⟨0, .scalar .text⟩ (.text "xa"), .enter [pairItem]] [pairItem]
      ⟨0, .position⟩ (.position 3) [] rfl nofun
  · apply frame _ (List.cons_ne_nil _ _)
    simp [Visit.beforeFailure, Visit.error?, Visit.Touches, Hold.path, Hold.place, pairItem]

end Stencil

end SchemaMatch
