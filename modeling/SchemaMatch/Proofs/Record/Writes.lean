import SchemaMatch.Proofs.Compilation.Slots
import SchemaMatch.Proofs.Record.Access
import SchemaMatch.Proofs.Stencil.Records
import SchemaMatch.Proofs.Text.Boundary

/-!
# What inflating writes

The relation `Stencil.Writes` says for each place of a record what it holds after a match has been
written, by the regions of the match, the bytes that they cover and the spots that the accessors of
the fields reach. Fields are written one after another, so that a later one has the last word where
two of them meet. `Stencil.Reaches` says which paths are written to; all others are left alone.

A schema is asked to describe itself, and not to hand out a description that is made for another one.
Inflating a match whose regions are stretches of the input fails only at a schema that does so, and
else writes just this: the main statement is `Stencil.inflate_writes`.
-/

namespace SchemaMatch

open Text (IsBoundary IsStretch covered)

/-- What is stored of a region of a text in a representation. -/
def Representation.Stores (representation : Representation) (input : String) (region : Region)
    (content : Content) : Prop :=
  match representation with
  | .text => ∃ text, Text.utf8 text = covered input region ∧ content = .text text
  | .optionalText => ∃ text, Text.utf8 text = covered input region ∧ content = .text text
  | .bytes => content = .bytes (covered input region)
  | .optionalBytes => content = .bytes (covered input region)
  | .submatch => content = .submatch ⟨region, covered input region⟩
  | .optionalSubmatch => content = .submatch ⟨region, covered input region⟩
  | .ignore => False

/-- The record that a place goes on with: the one that it holds, or a blank one. -/
def Content.resumed (schema : SchemaId) (held : Option Content) : Record :=
  match held with
  | some (.record schema cells) => ⟨schema, cells⟩
  | _ => Record.blank schema

/-- What a place of a record held before and after something has changed at a target, at the end of
some holds. The records on the way are changed where they are. -/
def Hold.Changes (change : Option Content → Option Content → Prop) (target : Place) :
    List Hold → Place → Option Content → Option Content → Prop
  | [], place, before, after => if place = target then change before after else after = before
  | hold :: rest, place, before, after =>
    if place = hold.place then
      ∃ inner : Record, inner.schema = (Content.resumed hold.schema before).schema ∧
        (∀ deeper, Changes change target rest deeper
          ((Content.resumed hold.schema before).get? deeper) (inner.get? deeper)) ∧
        after = some inner.content
    else after = before

namespace Spot

/-- What a place of a record held before and after something has changed at a spot. -/
def Changes (spot : Spot) (change : Option Content → Option Content → Prop) :
    Place → Option Content → Option Content → Prop :=
  Hold.Changes change spot.place spot.through

/-- A path leads to a spot, to something on the way there, or to something inside. -/
def Meets (spot : Spot) (path : List Place) : Prop := path <+: spot.path ∨ spot.path <+: path

end Spot

section Relations

variable (accessors : Accessors) (m : Match)

mutual

/-- What a record was and is before and after a match has been written to it according to a
stencil. -/
def Stencil.Writes : Stencil → Record → Record → Prop
  | .mk schema _ _ slot fields, before, after =>
    after.schema = before.schema ∧ ∀ place,
      if m.hasSlot slot then FieldsWrite schema fields place (before.get? place) (after.get? place)
      else after.get? place = before.get? place

/-- What a place held before and after fields have been written, one after another. -/
def FieldsWrite (schema : SchemaId) :
    List FieldStencil → Place → Option Content → Option Content → Prop
  | [], _, before, after => after = before
  | field :: rest, place, before, after =>
    ∃ middle, FieldWrites schema field place before middle ∧
      FieldsWrite schema rest place middle after

/-- What a place held before and after a field has been written. A record is changed where it is, or
made if there is none. -/
def FieldWrites (schema : SchemaId) :
    FieldStencil → Place → Option Content → Option Content → Prop
  | .separator, _, before, after => after = before
  | .scalar _ slot dest representation, place, before, after =>
    match m.region? slot with
    | some region =>
      if representation = .ignore then after = before
      else
        (accessors.spot schema ⟨dest, .scalar representation⟩).Changes
          (fun _ after => ∃ content, representation.Stores m.input region content ∧
            after = some content) place before after
    | none => after = before
  | .position _ slot dest, place, before, after =>
    match m.region? slot with
    | some region =>
      (accessors.spot schema ⟨dest, .position⟩).Changes
        (fun _ after => after = some (.position region.start)) place before after
    | none => after = before
  | .nested _ _ dest holder child, place, before, after =>
    if m.hasSlot child.slot then
      (accessors.spot schema ⟨dest, .nested holder child.schema⟩).Changes
        (fun before after => ∃ inner, child.Writes (Content.resumed child.schema before) inner ∧
          after = some inner.content) place before after
    else after = before
  | .union _ _ dest capability _ variants, place, before, after =>
    if variants.any (fun variant => m.hasSlot variant.slot) then
      (accessors.spot schema ⟨dest, .union capability⟩).Changes
        (fun _ after => VariantsWrite variants after) place before after
    else after = before

/-- What is held after variants have been written, of which only the first that took part is. It
starts from a blank record, whatever was there. -/
def VariantsWrite : List Stencil → Option Content → Prop
  | [], _ => False
  | variant :: rest, after =>
    if m.hasSlot variant.slot then
      ∃ inner, variant.Writes (Record.blank variant.schema) inner ∧ after = some inner.content
    else VariantsWrite rest after

end

mutual

/-- Whether a match writes to what lies along a path, according to a stencil. -/
def Stencil.Reaches : Stencil → List Place → Prop
  | .mk schema _ _ slot fields, path => m.hasSlot slot = true ∧ FieldsReach schema fields path

/-- Whether one of some fields writes to what lies along a path. -/
def FieldsReach (schema : SchemaId) : List FieldStencil → List Place → Prop
  | [], _ => False
  | field :: rest, path => FieldReaches schema field path ∨ FieldsReach schema rest path

/-- Whether a field writes to what lies along a path: to its own spot or, in a record that it
changes, to what is written to there. A variant is written to as a whole. -/
def FieldReaches (schema : SchemaId) : FieldStencil → List Place → Prop
  | .separator, _ => False
  | .scalar _ slot dest representation, path =>
    m.hasSlot slot = true ∧ representation ≠ .ignore ∧
      (accessors.spot schema ⟨dest, .scalar representation⟩).Meets path
  | .position _ slot dest, path =>
    m.hasSlot slot = true ∧ (accessors.spot schema ⟨dest, .position⟩).Meets path
  | .nested _ _ dest holder child, path =>
    let spot := accessors.spot schema ⟨dest, .nested holder child.schema⟩
    m.hasSlot child.slot = true ∧
      (path <+: spot.path ∨ ∃ deeper, path = spot.path ++ deeper ∧ child.Reaches deeper)
  | .union _ _ dest capability _ variants, path =>
    (accessors.spot schema ⟨dest, .union capability⟩).Meets path ∧
      ∃ variant ∈ variants, m.hasSlot variant.slot = true

end

end Relations

variable {accessors : Accessors} {m : Match}

theorem Stencil.Writes.schema {stencil : Stencil} {before after : Record}
    (writes : stencil.Writes accessors m before after) : after.schema = before.schema := by
  cases stencil
  exact writes.1

/-! ### What is left alone -/

/-- A place that goes on with its record holds along deeper paths what it held there. -/
theorem Content.at?_resumed (schema : SchemaId) (held : Option Content) (next : Place)
    (deeper : List Place) :
    (resumed schema held).at? (next :: deeper) = held.bind (·.at? (next :: deeper)) := by
  cases held with
  | none => rfl
  | some content => cases content <;> rfl

/-- Paths of which one leads on where the other one ends begin alike. -/
theorem head_eq_of_prefix {place target : Place} {rest more : List Place}
    (meets : place :: rest <+: target :: more ∨ target :: more <+: place :: rest) :
    place = target := by
  rcases meets with before | inside
  · exact (List.cons_prefix_cons.1 before).1
  · exact (List.cons_prefix_cons.1 inside).1.symm

/-- What a change does not meet is left alone, also inside of its target as far as the change leaves
that alone. -/
theorem Hold.Changes.frame {change : Option Content → Option Content → Prop} {target place : Place}
    {holds : List Hold} {rest : List Place} {before after : Option Content}
    (changes : Hold.Changes change target holds place before after)
    (apart : ¬place :: rest <+: Hold.path holds ++ [target])
    (spared : ∀ deeper, place :: rest = Hold.path holds ++ [target] ++ deeper →
      ∀ before after, change before after →
        after.bind (·.at? deeper) = before.bind (·.at? deeper)) :
    after.bind (·.at? rest) = before.bind (·.at? rest) := by
  induction holds generalizing place rest before after with
  | nil =>
    rw [Hold.Changes] at changes
    split at changes
    · rename_i here
      subst here
      exact spared rest rfl before after changes
    · rw [changes]
  | cons hold holds ih =>
    rw [Hold.Changes] at changes
    split at changes
    · rename_i here
      subst here
      obtain ⟨inner, _, inside, rfl⟩ := changes
      cases rest with
      | nil => exact absurd (List.prefix_append [hold.place] _) apart
      | cons next deeper =>
        have kept := ih (inside next)
          (fun before => apart (List.cons_prefix_cons.2 ⟨rfl, before⟩))
          fun further split => spared further (by rw [split]; rfl)
        change inner.at? (next :: deeper) = _
        rw [← Content.at?_resumed hold.schema, Record.at?_cons, Record.at?_cons]
        exact kept
    · rw [changes]

theorem Spot.Changes.frame {change : Option Content → Option Content → Prop} {spot : Spot}
    {place : Place} {rest : List Place} {before after : Option Content}
    (changes : spot.Changes change place before after) (unmet : ¬spot.Meets (place :: rest)) :
    after.bind (·.at? rest) = before.bind (·.at? rest) :=
  Hold.Changes.frame changes (fun before => unmet (.inl before)) fun deeper inside =>
    (unmet (.inr ⟨deeper, inside.symm⟩)).elim

mutual

/-- Whatever a match does not reach is left alone. -/
theorem Stencil.Writes.frame : (stencil : Stencil) → {before after : Record} →
    {path : List Place} → stencil.Writes accessors m before after → path ≠ [] →
    ¬stencil.Reaches accessors m path → after.at? path = before.at? path
  | .mk _ _ _ slot fields, before, after, [], _, inside, _ => absurd rfl inside
  | .mk schema _ _ slot fields, before, after, place :: rest, writes, _, unreached => by
    obtain ⟨_, writes⟩ := writes
    have written := writes place
    rw [Record.at?_cons, Record.at?_cons]
    split at written
    · rename_i took
      exact FieldsWrite.frame fields written fun reached => unreached ⟨took, reached⟩
    · rw [written]

theorem FieldsWrite.frame {schema : SchemaId} : (fields : List FieldStencil) → {place : Place} →
    {rest : List Place} → {before after : Option Content} →
    FieldsWrite accessors m schema fields place before after →
    ¬FieldsReach accessors m schema fields (place :: rest) →
    after.bind (·.at? rest) = before.bind (·.at? rest)
  | [], _, _, _, _, writes, _ => by rw [writes]
  | field :: fields, place, rest, before, after, ⟨middle, first, others⟩, unreached => by
    rw [FieldsWrite.frame fields others fun reached => unreached (.inr reached)]
    exact FieldWrites.frame field first fun reached => unreached (.inl reached)

theorem FieldWrites.frame {schema : SchemaId} : (field : FieldStencil) → {place : Place} →
    {rest : List Place} → {before after : Option Content} →
    FieldWrites accessors m schema field place before after →
    ¬FieldReaches accessors m schema field (place :: rest) →
    after.bind (·.at? rest) = before.bind (·.at? rest)
  | .separator, _, _, _, _, writes, _ => by rw [show _ = _ from writes]
  | .scalar _ slot dest representation, place, rest, before, after, writes, unreached => by
    rw [FieldWrites] at writes
    split at writes
    · rename_i region took
      split at writes
      · rw [writes]
      · rename_i stored
        exact writes.frame fun meets =>
          unreached ⟨by rw [Match.hasSlot, took]; rfl, stored, meets⟩
    · rw [writes]
  | .position _ slot dest, place, rest, before, after, writes, unreached => by
    rw [FieldWrites] at writes
    split at writes
    · rename_i region took
      exact writes.frame fun meets =>
        unreached ⟨by rw [Match.hasSlot, took]; rfl, meets⟩
    · rw [writes]
  | .nested _ _ dest holder child, place, rest, before, after, writes, unreached => by
    rw [FieldWrites] at writes
    split at writes
    · rename_i took
      -- the record itself is reached, so only what lies inside of it may have been spared
      apply Hold.Changes.frame writes fun before => unreached ⟨took, .inl before⟩
      intro deeper inside before after ⟨inner, written, done⟩
      subst done
      cases deeper with
      | nil =>
        exact absurd ⟨took, .inl (by rw [inside, List.append_nil]; exact List.prefix_refl _)⟩
          unreached
      | cons next further =>
        have kept := Stencil.Writes.frame child written (List.cons_ne_nil next further)
          fun reached => unreached ⟨took, .inr ⟨_, inside, reached⟩⟩
        rw [Content.at?_resumed] at kept
        exact kept
    · rw [writes]
  | .union _ _ dest capability _ variants, place, rest, before, after, writes, unreached => by
    rw [FieldWrites] at writes
    split at writes
    · rename_i took
      exact writes.frame fun meets => unreached ⟨meets, List.any_eq_true.1 took⟩
    · rw [writes]

end

/-! ### What inflating does -/

/-- The descriptions of the schemas of a stencil, of the root and of all records inside, are made for
the schemas that they describe. Whoever describes a schema is asked for this. -/
def Accessors.DescribeOwn (accessors : Accessors) (stencil : Stencil) : Prop :=
  ∀ part ∈ stencil.records, accessors.owner part.schema = part.schema

/-- A record that took part is refused, since the description of its schema is made for another
one. -/
def Accessors.Refuses (accessors : Accessors) (m : Match) (parts : List Stencil)
    (error : MatchError) : Prop :=
  ∃ part ∈ parts, m.hasSlot part.slot = true ∧ accessors.owner part.schema ≠ part.schema ∧
    error = .destinationTypeMismatch part.name

theorem Accessors.Refuses.mono {parts more : List Stencil} {error : MatchError}
    (refuses : accessors.Refuses m parts error) (sub : ∀ part ∈ parts, part ∈ more) :
    accessors.Refuses m more error := by
  obtain ⟨part, member, took, foreign, message⟩ := refuses
  exact ⟨part, sub part member, took, foreign, message⟩

/-- Writing came to its end, and each place holds what it should; or it ended in one of some errors.
In any case the record is as typed as before. -/
structure Inflated.Results (writes : Place → Option Content → Option Content → Prop)
    (fails : MatchError → Prop) (before : Record) (after : Inflated) : Prop where
  schema : after.record.schema = before.schema
  typed : after.record.IsTyped
  writes : after.error? = none →
    ∀ place, writes place (before.get? place) (after.record.get? place)
  fails : ∀ error, after.error? = some error → fails error

namespace Inflated

theorem changes_changeAt {change : Option Content → Option Content → Prop} {target : Place}
    {content : Content} (holds : List Hold) {record : Record}
    (there : change ((record.descend holds).get? target) (some content)) (place : Place) :
    Hold.Changes change target holds place (record.get? place)
      ((record.changeAt holds (·.set target content)).get? place) := by
  induction holds generalizing record place with
  | nil =>
    rw [Hold.Changes, Record.changeAt, Record.get?_set]
    split
    · rename_i here
      subst here
      exact there
    · rfl
  | cons hold rest ih =>
    rw [Hold.Changes, Record.changeAt, Record.get?_set]
    split
    · rename_i here
      subst here
      exact ⟨_, Record.schema_changeAt rfl, ih there, rfl⟩
    · rfl

section Fields

variable {record : Record} {writes : Place → Option Content → Option Content → Prop}
variable {fails : MatchError → Prop} {schema : SchemaId} {owner name : String} {slot dest : Nat}

theorem Results.nothing (typed : record.IsTyped)
    (leaves : ∀ place, writes place (record.get? place) (record.get? place)) :
    Results writes fails record ⟨record, none⟩ :=
  ⟨rfl, typed, fun _ => leaves, nofun⟩

theorem Results.refused {error : MatchError} (typed : record.IsTyped) (refused : fails error) :
    Results writes fails record ⟨record, some error⟩ := by
  refine ⟨rfl, typed, nofun, ?_⟩
  rintro _ ⟨⟩
  exact refused

/-- One spot is written to. -/
theorem Results.one {spot : Spot} {content : Content} (typed : record.IsTyped)
    (suits : content.Suits spot.place.type)
    (changes : ∀ place, writes place (record.get? place) ((spot.put content record).get? place)) :
    Results writes fails record ⟨spot.put content record, none⟩ :=
  ⟨Record.schema_put spot content record, typed.put suits, fun _ => changes, nofun⟩

theorem suits_of_stored? {representation : Representation} {region : Region} {text : String}
    {content : Content} (stored : stored? representation region text = some content) :
    content.Suits (.scalar representation) := by
  cases representation <;> cases stored
  case text => exact .inl rfl
  case bytes => exact .inl rfl
  case submatch => exact .inl rfl
  case optionalText => exact .inr rfl
  case optionalBytes => exact .inr rfl
  case optionalSubmatch => exact .inr rfl

theorem stores_of_stored? {representation : Representation} {input text : String}
    {region : Region} {content : Content} (bytes : Text.utf8 text = covered input region)
    (stored : stored? representation region text = some content) :
    representation.Stores input region content := by
  cases representation <;> cases stored
  case text => exact ⟨text, bytes, rfl⟩
  case optionalText => exact ⟨text, bytes, rfl⟩
  case bytes => exact congrArg Content.bytes bytes
  case optionalBytes => exact congrArg Content.bytes bytes
  case submatch => exact congrArg (fun bytes => Content.submatch ⟨region, bytes⟩) bytes
  case optionalSubmatch => exact congrArg (fun bytes => Content.submatch ⟨region, bytes⟩) bytes

theorem stored?_eq_none_iff {representation : Representation} {region : Region} {text : String} :
    stored? representation region text = none ↔ representation = .ignore := by
  cases representation <;> simp [stored?]

theorem results_writeScalar {representation : Representation}
    (marked : ∀ slot region, m.region? slot = some region → IsStretch m.input region)
    (typed : record.IsTyped)
    (refused : record.schema ≠ accessors.owner schema → fails (.destinationTypeMismatch owner)) :
    Results (FieldWrites accessors m schema (.scalar name slot dest representation)) fails record
      (writeScalar accessors m schema owner name slot dest representation record) := by
  rw [writeScalar_eq]
  cases took : m.region? slot with
  | none => exact .nothing typed fun place => by simp only [FieldWrites, took]
  | some region =>
    dsimp only
    split
    · rename_i other
      exact .refused typed (refused other)
    · obtain ⟨text, cut⟩ := (marked slot region took).exists_slice?
      obtain ⟨_, bytes⟩ := Text.slice?_eq_some_iff.1 cut
      rw [cut]
      dsimp only
      cases stored : stored? representation region text with
      | none =>
        refine .nothing typed fun place => ?_
        simp only [FieldWrites, took, if_pos (stored?_eq_none_iff.1 stored)]
      | some content =>
        have kept : representation ≠ .ignore := by
          rintro rfl
          cases stored
        refine .one typed ?_ fun place => ?_
        · rw [accessors.type_eq]
          exact suits_of_stored? stored
        · simp only [FieldWrites, took, if_neg kept]
          exact changes_changeAt _ ⟨content, stores_of_stored? bytes stored, rfl⟩ place

theorem results_writePosition (typed : record.IsTyped)
    (refused : record.schema ≠ accessors.owner schema → fails (.destinationTypeMismatch owner)) :
    Results (FieldWrites accessors m schema (.position name slot dest)) fails record
      (writePosition accessors m schema owner name slot dest record) := by
  rw [writePosition_eq]
  cases took : m.region? slot with
  | none => exact .nothing typed fun place => by simp only [FieldWrites, took]
  | some region =>
    dsimp only
    split
    · rename_i other
      exact .refused typed (refused other)
    · refine .one typed ?_ fun place => ?_
      · rw [accessors.type_eq]
        rfl
      · simp only [FieldWrites, took]
        exact changes_changeAt _ rfl place

end Fields

/-- What writing to a record of a schema fails with: the record is refused, or one of its parts. -/
def Fails (accessors : Accessors) (m : Match) (schema : SchemaId) (owner : String)
    (parts : List Stencil) (record : Record) (error : MatchError) : Prop :=
  (record.schema ≠ accessors.owner schema ∧ error = .destinationTypeMismatch owner) ∨
    accessors.Refuses m parts error

/-- A record that a field holds or would hold fails in itself or in one of its parts. -/
theorem Fails.refuses {child : Stencil} {record : Record} {error : MatchError}
    (fails : Fails accessors m child.schema child.name (Stencil.fieldsRecords child.fields) record
      error) (took : m.hasSlot child.slot = true) (own : record.schema = child.schema) :
    accessors.Refuses m child.records error := by
  obtain ⟨schema, name, typeName, slot, fields⟩ := child
  rcases fails with ⟨foreign, rfl⟩ | inside
  · refine ⟨_, Stencil.mem_records_self _, took, fun same => foreign ?_, rfl⟩
    rw [own, same]
  · exact inside.mono fun part member => List.mem_cons_of_mem _ member

mutual

/-- A match whose regions are stretches of the input is written to a record according to a stencil,
or the record is refused or one inside of it. -/
theorem results_ofStencil
    (marked : ∀ slot region, m.region? slot = some region → IsStretch m.input region) :
    (stencil : Stencil) → {record : Record} → record.IsTyped →
    (ofStencil accessors m stencil record).record.IsTyped ∧
      ((ofStencil accessors m stencil record).error? = none →
        stencil.Writes accessors m record (ofStencil accessors m stencil record).record) ∧
      ∀ error, (ofStencil accessors m stencil record).error? = some error →
        m.hasSlot stencil.slot = true ∧
          Fails accessors m stencil.schema stencil.name (Stencil.fieldsRecords stencil.fields)
            record error
  | .mk schema name _ slot fields, record, typed => by
    rw [ofStencil]
    split
    · rename_i took
      have results := results_ofFields marked schema name fields typed
      refine ⟨results.typed, fun finished => ⟨results.schema, fun place => ?_⟩,
        fun error failed => ⟨took, results.fails error failed⟩⟩
      rw [if_pos took]
      exact results.writes finished place
    · rename_i absent
      refine ⟨typed, fun _ => ⟨rfl, fun place => ?_⟩, nofun⟩
      rw [if_neg absent]

theorem results_ofFields
    (marked : ∀ slot region, m.region? slot = some region → IsStretch m.input region)
    (schema : SchemaId) (owner : String) :
    (fields : List FieldStencil) → {record : Record} → record.IsTyped →
    Results (FieldsWrite accessors m schema fields)
      (Fails accessors m schema owner (Stencil.fieldsRecords fields) record) record
      (ofFields accessors m schema owner fields record)
  | [], record, typed => .nothing typed fun _ => rfl
  | field :: rest, record, typed => by
    have first := results_ofField marked schema owner field typed
    rw [ofFields]
    generalize ofField accessors m schema owner field record = done at first
    obtain ⟨after, _ | error⟩ := done
    · have others := results_ofFields marked schema owner rest first.typed
      have same : after.schema = record.schema := first.schema
      refine ⟨others.schema.trans same, others.typed, fun finished place => ?_,
        fun error failed => ?_⟩
      · exact ⟨_, first.writes rfl place, others.writes finished place⟩
      · rcases others.fails error failed with ⟨foreign, message⟩ | inside
        · exact .inl ⟨same ▸ foreign, message⟩
        · exact .inr (inside.mono fun part member => List.mem_append_right _ member)
    · refine ⟨first.schema, first.typed, nofun, fun other failed => ?_⟩
      rcases first.fails other failed with foreign | inside
      · exact .inl foreign
      · exact .inr (inside.mono fun part member => List.mem_append_left _ member)

theorem results_ofField
    (marked : ∀ slot region, m.region? slot = some region → IsStretch m.input region)
    (schema : SchemaId) (owner : String) :
    (field : FieldStencil) → {record : Record} → record.IsTyped →
    Results (FieldWrites accessors m schema field)
      (Fails accessors m schema owner (Stencil.fieldRecords field) record) record
      (ofField accessors m schema owner field record)
  | .separator, record, typed => .nothing typed fun _ => rfl
  | .scalar name slot dest representation, record, typed => by
    rw [ofField]
    exact results_writeScalar marked typed fun foreign => .inl ⟨foreign, rfl⟩
  | .position name slot dest, record, typed => by
    rw [ofField]
    exact results_writePosition typed fun foreign => .inl ⟨foreign, rfl⟩
  | .nested name slot dest holder child, record, typed => by
    rw [ofField_nested_eq]
    cases took : m.hasSlot child.slot with
    | false =>
      refine .nothing typed fun place => ?_
      rw [FieldWrites, if_neg (by rw [took]; exact Bool.false_ne_true)]
    | true =>
      rw [if_neg (by decide)]
      split
      · rename_i foreign
        exact .refused typed (.inl ⟨foreign, rfl⟩)
      · let spot := accessors.spot schema ⟨dest, .nested holder child.schema⟩
        have type : spot.place.type = .nested holder child.schema := accessors.type_eq _ _
        have inside : (record.descend spot.through).IsTyped := typed.descend
        obtain ⟨held, same⟩ := inside.child type
        obtain ⟨still, writes, fails⟩ := results_ofStencil marked child held
        have nested := still.suits_nested holder
        rw [(schema_ofStencil child).trans same, ← type] at nested
        refine ⟨Record.schema_put _ _ _, typed.put nested, fun finished place => ?_,
          fun error failed => .inr ((fails error failed).2.refuses took same)⟩
        rw [FieldWrites, if_pos took]
        exact changes_changeAt _ ⟨_, writes finished, rfl⟩ place
  | .union name slot dest capability _ variants, record, typed => by
    rw [ofField_union_eq]
    have results := results_ofVariants marked variants
    generalize ofVariants accessors m variants = written at results ⊢
    rcases written with _ | ⟨inner, _ | error⟩
    · refine .nothing typed fun place => ?_
      rw [FieldWrites, if_neg (by rw [results]; exact Bool.false_ne_true)]
    · obtain ⟨took, still, writes⟩ := results
      dsimp only
      split
      · rename_i foreign
        exact .refused typed (.inl ⟨foreign, rfl⟩)
      · refine .one typed ?_ fun place => ?_
        · rw [accessors.type_eq]
          exact still.suits_union capability
        · rw [FieldWrites, if_pos took]
          exact changes_changeAt _ writes place
    · exact .refused typed (.inr results)

theorem results_ofVariants
    (marked : ∀ slot region, m.region? slot = some region → IsStretch m.input region) :
    (variants : List Stencil) →
    match ofVariants accessors m variants with
    | none => variants.any (fun variant => m.hasSlot variant.slot) = false
    | some ⟨inner, none⟩ => variants.any (fun variant => m.hasSlot variant.slot) = true ∧
        inner.IsTyped ∧ VariantsWrite accessors m variants (some inner.content)
    | some ⟨_, some error⟩ => accessors.Refuses m (Stencil.variantsRecords variants) error
  | [] => rfl
  | variant :: rest => by
    rw [ofVariants_cons]
    have blank := Record.isTyped_blank variant.schema
    cases took : m.hasSlot variant.slot with
    | false =>
      have others := results_ofVariants marked rest
      simp only [Bool.false_eq_true, if_false, List.any_cons, took, Bool.false_or]
      generalize ofVariants accessors m rest = written at others ⊢
      rcases written with _ | ⟨inner, _ | error⟩
      · exact others
      · obtain ⟨some, still, writes⟩ := others
        refine ⟨some, still, ?_⟩
        rw [VariantsWrite, if_neg (by rw [took]; exact Bool.false_ne_true)]
        exact writes
      · exact others.mono fun part member => List.mem_append_right _ member
    | true =>
      obtain ⟨still, writes, fails⟩ := results_ofStencil marked variant blank
      rw [if_pos rfl]
      generalize ofStencil accessors m variant _ = done at still writes fails
      obtain ⟨inner, _ | error⟩ := done
      · refine ⟨by rw [List.any_cons, took, Bool.true_or], still, ?_⟩
        rw [VariantsWrite, if_pos took]
        exact ⟨_, writes rfl, rfl⟩
      · exact ((fails error rfl).2.refuses took rfl).mono fun part member =>
          List.mem_append_left _ member

end

theorem refuses_ofStencil {stencil : Stencil} {record : Record} {error : MatchError}
    (marked : ∀ slot region, m.region? slot = some region → IsStretch m.input region)
    (own : record.schema = stencil.schema) (typed : record.IsTyped)
    (failed : (ofStencil accessors m stencil record).error? = some error) :
    accessors.Refuses m stencil.records error := by
  obtain ⟨took, fails⟩ := (results_ofStencil marked stencil typed).2.2 error failed
  exact fails.refuses took own

/-- If all descriptions are made for their schemas, writing comes to its end. -/
theorem completes_ofStencil {stencil : Stencil} {record : Record}
    (described : accessors.DescribeOwn stencil)
    (marked : ∀ slot region, m.region? slot = some region → IsStretch m.input region)
    (own : record.schema = stencil.schema) (typed : record.IsTyped) :
    (ofStencil accessors m stencil record).error? = none ∧
      (ofStencil accessors m stencil record).record.IsTyped ∧
      stencil.Writes accessors m record (ofStencil accessors m stencil record).record := by
  obtain ⟨still, writes, _⟩ := results_ofStencil marked stencil typed
  have finished : (ofStencil accessors m stencil record).error? = none := by
    rw [Option.eq_none_iff_forall_not_mem]
    intro error failed
    obtain ⟨part, member, _, foreign, _⟩ := refuses_ofStencil marked own typed failed
    exact foreign (described part member)
  exact ⟨finished, still, writes finished⟩

end Inflated

/-- A match whose regions are stretches of the input is written to any record of the stencil's own
schema, without an error if the descriptions of the schemas are made for them. Each place then holds
what the fields write to it one after another, through whatever accessors, and whatever they do not
reach is left alone, however deep it lies. The only error is that of a record, of the root or inside,
that took part and the description of whose schema is made for another one. -/
theorem Stencil.inflate_writes (accessors : Accessors) (stencil : Stencil) {m : Match}
    {record : Record}
    (marked : ∀ slot region, m.region? slot = some region → IsStretch m.input region)
    (own : record.schema = stencil.schema) (typed : record.IsTyped) :
    (accessors.DescribeOwn stencil → (stencil.inflateBy accessors m record).error? = none) ∧
    (stencil.inflateBy accessors m record).record.IsTyped ∧
    ((stencil.inflateBy accessors m record).error? = none →
      stencil.Writes accessors m record (stencil.inflateBy accessors m record).record ∧
      ∀ path, path ≠ [] → ¬stencil.Reaches accessors m path →
        (stencil.inflateBy accessors m record).record.at? path = record.at? path) ∧
    ∀ error, (stencil.inflateBy accessors m record).error? = some error →
      accessors.Refuses m stencil.records error := by
  obtain ⟨still, writes, _⟩ := Inflated.results_ofStencil marked stencil typed
  refine ⟨fun described => ?_, still, fun finished => ?_, fun error failed => ?_⟩
  · exact (Inflated.completes_ofStencil described marked own typed).1
  · have written := writes finished
    exact ⟨written, fun path inside unreached => written.frame stencil inside unreached⟩
  · exact Inflated.refuses_ofStencil marked own typed failed

theorem Match.isStretch_of_all {m : Match}
    (cuts : m.regions.all (fun region? =>
      region?.all fun region => (Text.slice? m.input region).isSome) = true) :
    ∀ slot region, m.region? slot = some region → IsStretch m.input region := by
  intro slot region took
  have member : some region ∈ m.regions :=
    List.mem_of_getElem? (Option.join_eq_some_iff.1 took)
  obtain ⟨part, cut⟩ := Option.isSome_iff_exists.1 (List.all_eq_true.1 cuts _ member)
  exact (Text.slice?_eq_some_iff.1 cut).1

/-- A match of `samplePairStencil` in which neither of the two words took part. -/
def wordless : Match := ⟨"xa-b", [some ⟨1, 4⟩, none, some ⟨3, 4⟩, some ⟨3, 4⟩, some ⟨3, 3⟩, none]⟩

/-- A pair with an item. -/
def filledPair : Record where
  schema := 0
  cells := [(⟨2, .nested .optional 1⟩, .record 1
    [(⟨1, .scalar .bytes⟩, .bytes [1]), (⟨0, .position⟩, .position 9)])]

/-- The item of `filledPair` is changed where it is: it gets its position and keeps its word. -/
theorem Stencil.inflate_writes_samplePair :
    Accessors.plain.DescribeOwn samplePairStencil ∧
      (samplePairStencil.inflate wordless filledPair).error? = none ∧
      samplePairStencil.Writes .plain wordless filledPair
        (samplePairStencil.inflate wordless filledPair).record ∧
      (samplePairStencil.inflate wordless filledPair).record.at?
        [⟨2, .nested .optional 1⟩, ⟨0, .position⟩] = some (.position 3) ∧
      (samplePairStencil.inflate wordless filledPair).record.at?
        [⟨2, .nested .optional 1⟩, ⟨1, .scalar .bytes⟩] = some (.bytes [1]) := by
  have marked := Match.isStretch_of_all (m := wordless) (by decide +kernel)
  have typed : filledPair.IsTyped :=
    ⟨⟨.inl ⟨.optional, rfl⟩, .inl rfl, rfl, trivial⟩, trivial⟩
  have described : Accessors.plain.DescribeOwn samplePairStencil := fun _ _ => rfl
  have unreached : ¬samplePairStencil.Reaches .plain wordless
      [⟨2, .nested .optional 1⟩, ⟨1, .scalar .bytes⟩] := by
    simp [samplePairStencil, Stencil.Reaches, FieldsReach, FieldReaches, wordless, Match.hasSlot,
      Match.region?, Spot.Meets, Spot.path, Hold.path, Accessors.plain, Stencil.slot]
  obtain ⟨finishes, _, completes, _⟩ :=
    Stencil.inflate_writes .plain samplePairStencil marked rfl typed
  have finished := finishes described
  obtain ⟨writes, frame⟩ := completes finished
  exact ⟨described, finished, writes, rfl, frame _ (List.cons_ne_nil _ _) unreached⟩

/-- A word in an inner record, and a copy of it that is to be written to the same text. -/
def sharedWordStencil : Stencil :=
  .mk 0 "Outer" "Outer" 0 [
    .nested "inner" 1 0 .direct (.mk 1 "Inner" "Inner" 2 [.scalar "word" 3 0 .text]),
    .scalar "copy" 4 1 .text]

/-- Accessors of which that of the copy goes on where that of the inner record ends. -/
def sharedWord : Accessors where
  owner := id
  spot schema place :=
    if schema = 0 ∧ place = ⟨1, .scalar .text⟩ then ⟨[⟨0, .direct, 1⟩], ⟨0, .scalar .text⟩⟩
    else ⟨[], place⟩
  direct schema place hold := by
    split
    · rintro (_ | ⟨_, ⟨⟩⟩)
      rfl
    · exact nofun
  type_eq schema place := by
    split
    · rename_i copy
      rw [copy.2]
    · rfl

def twoWords : Match := ⟨"ab", [some ⟨0, 2⟩, some ⟨0, 1⟩, some ⟨0, 1⟩, some ⟨0, 1⟩, some ⟨1, 2⟩]⟩

/-- The copy is the last that is written to the word of the inner record. -/
example : (sharedWordStencil.inflateBy sharedWord twoWords (.blank 0)).record.at?
    [⟨0, .nested .direct 1⟩, ⟨0, .scalar .text⟩] = some (.text "b") := rfl

/-- Accessors for the description of an inner record that is made for an outer one. -/
def foreignWord : Accessors := { Accessors.plain with owner := fun _ => 0 }

/-- Such a record is refused: its description has to be made for it. -/
example : (sharedWordStencil.inflateBy foreignWord twoWords (.blank 0)).error? =
    some (.destinationTypeMismatch "Inner") := rfl

end SchemaMatch
