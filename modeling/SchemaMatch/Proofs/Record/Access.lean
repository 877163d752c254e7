import SchemaMatch.Proofs.Record.Typed
import SchemaMatch.Record.Inflate

/-!
# What accessors reach

A change at the end of some holds stays inside of the record there. An accessor ends at a spot of the
type that its field declares, and a record keeps its schema while it is written to; so a field is
refused only for the schema of the record, and a variant never. The equations `Inflated.…_eq` say what
inflating does for each field when nothing else is refused.
-/

namespace SchemaMatch

namespace Record

variable {record : Record} {holds : List Hold} {change : Record → Record} {spot : Spot}

/-! ### Changes at the end of some holds -/

theorem setCell_setCell (place : Place) (first second : Content)
    (cells : List (Place × Content)) :
    setCell place second (setCell place first cells) = setCell place second cells := by
  induction cells with
  | nil => simp [setCell]
  | cons cell rest ih => by_cases same : cell.1 = place <;> simp [setCell, same, ih]

theorem set_set (record : Record) (place : Place) (first second : Content) :
    (record.set place first).set place second = record.set place second := by
  simp only [set, setCell_setCell]

theorem get?_set (record : Record) (place other : Place) (content : Content) :
    (record.set place content).get? other =
      if other = place then some content else record.get? other := by
  split
  · rename_i same
    rw [same, get?_set_self]
  · rename_i different
    exact get?_set_of_ne record (Ne.symm different) content

theorem child_set_self (record inner : Record) (place : Place) (schema : SchemaId) :
    (record.set place inner.content).child place schema = inner := by
  rw [child, get?_set_self]
  rfl

theorem changeAt_congr {other : Record → Record}
    (same : change (record.descend holds) = other (record.descend holds)) :
    record.changeAt holds change = record.changeAt holds other := by
  induction holds generalizing record with
  | nil => exact same
  | cons hold rest ih => rw [changeAt, changeAt, ih same]

theorem changeAt_append (holds inner : List Hold) (change : Record → Record) (record : Record) :
    record.changeAt (holds ++ inner) change = record.changeAt holds (·.changeAt inner change) := by
  induction holds generalizing record with
  | nil => rfl
  | cons hold rest ih => rw [List.cons_append, changeAt, changeAt, ih]

theorem changeAt_changeAt (holds : List Hold) (first second : Record → Record) (record : Record) :
    (record.changeAt holds first).changeAt holds second =
      record.changeAt holds fun inner => second (first inner) := by
  induction holds generalizing record with
  | nil => rfl
  | cons hold rest ih => rw [changeAt, changeAt, child_set_self, set_set, ih, changeAt]

theorem schema_changeAt
    (keeps : (change (record.descend holds)).schema = (record.descend holds).schema) :
    (record.changeAt holds change).schema = record.schema := by
  cases holds with
  | nil => exact keeps
  | cons hold rest => rfl

@[simp] theorem schema_put (spot : Spot) (content : Content) (record : Record) :
    (spot.put content record).schema = record.schema :=
  schema_changeAt rfl

/-! ### Typed records -/

theorem IsTyped.held (typed : record.IsTyped) (hold : Hold) :
    (record.child hold.place hold.schema).IsTyped ∧
      (record.child hold.place hold.schema).schema = hold.schema :=
  typed.child rfl

theorem IsTyped.descend (typed : record.IsTyped) : (record.descend holds).IsTyped := by
  induction holds generalizing record with
  | nil => exact typed
  | cons hold rest ih => exact ih (typed.held hold).1

theorem IsTyped.changeAt (typed : record.IsTyped)
    (still : (change (record.descend holds)).IsTyped)
    (keeps : (change (record.descend holds)).schema = (record.descend holds).schema) :
    (record.changeAt holds change).IsTyped := by
  induction holds generalizing record with
  | nil => exact still
  | cons hold rest ih =>
    obtain ⟨inside, own⟩ := typed.held hold
    have kept : (changeAt rest change (record.child hold.place hold.schema)).schema =
        (record.child hold.place hold.schema).schema := schema_changeAt keeps
    have nested := (ih inside still keeps).suits_nested hold.holder
    rw [kept.trans own] at nested
    exact typed.set nested

theorem IsTyped.put {content : Content} (typed : record.IsTyped)
    (suits : content.Suits spot.place.type) : (spot.put content record).IsTyped :=
  typed.changeAt (typed.descend.set suits) rfl

/-! ### What is found along a path -/

/-- What lies deeper in a record that is held lies in the one that holds it. -/
theorem at?_child (record : Record) (place next : Place) (schema : SchemaId)
    (deeper : List Place) :
    (record.child place schema).at? (next :: deeper) = record.at? (place :: next :: deeper) := by
  rw [at?_cons record, child]
  cases record.get? place with
  | none => rfl
  | some content => cases content <;> rfl

theorem at?_changeAt_self (hold : Hold) (holds : List Hold) (change : Record → Record)
    (record : Record) (rest : List Place) :
    (record.changeAt (hold :: holds) change).at? (hold.place :: rest) =
      ((record.child hold.place hold.schema).changeAt holds change).at? rest := by
  rw [changeAt, at?_cons, get?_set_self]
  rfl

theorem at?_changeAt_of_ne {hold : Hold} {place : Place} (different : hold.place ≠ place)
    (holds : List Hold) (change : Record → Record) (record : Record) (rest : List Place) :
    (record.changeAt (hold :: holds) change).at? (place :: rest) = record.at? (place :: rest) := by
  rw [changeAt, at?_cons, at?_cons, get?_set_of_ne record different]

end Record

/-! ### What is not refused -/

namespace Accessors

variable {accessors : Accessors} {schema : SchemaId} {record : Record}

theorem reach?_of_eq (own : record.schema = accessors.owner schema) (place : Place) :
    accessors.reach? schema place record = some (accessors.spot schema place) :=
  if_neg (not_not_intro own)

theorem reach?_of_ne (other : record.schema ≠ accessors.owner schema) (place : Place) :
    accessors.reach? schema place record = none :=
  if_pos other

end Accessors

namespace Inflated

variable {accessors : Accessors} {m : Match} {schema : SchemaId} {owner name : String}
variable {slot dest : Nat} {representation : Representation} {holder : Holder} {child : Stencil}
variable {capability : CapabilityId} {capabilityName : String} {variants : List Stencil}
variable {record : Record}

/-- A text is refused only for a region without a slice: its spot has the type of its field. -/
theorem store?_spot (accessors : Accessors) (schema : SchemaId) (dest : Nat) (input : String)
    (region : Region) (representation : Representation) (record : Record) :
    store? input region representation (accessors.spot schema ⟨dest, .scalar representation⟩)
        record =
      match Text.slice? input region with
      | none => none
      | some text =>
        match stored? representation region text with
        | none => some record
        | some content =>
          some ((accessors.spot schema ⟨dest, .scalar representation⟩).put content record) := by
  have type := accessors.type_eq schema ⟨dest, .scalar representation⟩
  unfold store?
  cases Text.slice? input region with
  | none => rfl
  | some text => cases stored? representation region text <;> exact if_neg (not_not_intro type)

theorem ensure?_spot (accessors : Accessors) (schema : SchemaId) (dest : Nat) (holder : Holder)
    (inner : SchemaId) (record : Record) :
    ensure? holder inner (accessors.spot schema ⟨dest, .nested holder inner⟩) record =
      some ((record.descend (accessors.spot schema ⟨dest, .nested holder inner⟩).through).child
        (accessors.spot schema ⟨dest, .nested holder inner⟩).place inner) := by
  simp only [ensure?, accessors.type_eq, ne_eq, not_true_eq_false, if_false]

theorem assign?_spot (accessors : Accessors) (schema : SchemaId) (dest : Nat)
    (capability : CapabilityId) (variant record : Record) :
    assign? capability variant (accessors.spot schema ⟨dest, .union capability⟩) record =
      some ((accessors.spot schema ⟨dest, .union capability⟩).put variant.content record) := by
  simp only [assign?, accessors.type_eq, ne_eq, not_true_eq_false, if_false]

theorem writeScalar_eq :
    writeScalar accessors m schema owner name slot dest representation record =
      match m.region? slot with
      | none => ⟨record, none⟩
      | some region =>
        if record.schema ≠ accessors.owner schema then
          ⟨record, some (.destinationTypeMismatch owner)⟩
        else
          match Text.slice? m.input region with
          | none =>
            ⟨record, some (.unsupportedFieldRepresentation name (typeName representation))⟩
          | some text =>
            match stored? representation region text with
            | none => ⟨record, none⟩
            | some content =>
              ⟨(accessors.spot schema ⟨dest, .scalar representation⟩).put content record, none⟩ := by
  unfold writeScalar
  cases m.region? slot with
  | none => rfl
  | some region =>
    dsimp only
    by_cases own : record.schema = accessors.owner schema
    · rw [Accessors.reach?_of_eq own, if_neg (not_not_intro own)]
      dsimp only
      rw [store?_spot]
      cases Text.slice? m.input region with
      | none => rfl
      | some text =>
        dsimp only
        cases stored? representation region text <;> rfl
    · rw [Accessors.reach?_of_ne own, if_pos own]

theorem writePosition_eq :
    writePosition accessors m schema owner name slot dest record =
      match m.region? slot with
      | none => ⟨record, none⟩
      | some region =>
        if record.schema ≠ accessors.owner schema then
          ⟨record, some (.destinationTypeMismatch owner)⟩
        else
          ⟨(accessors.spot schema ⟨dest, .position⟩).put (.position region.start) record, none⟩ := by
  unfold writePosition
  cases m.region? slot with
  | none => rfl
  | some region =>
    dsimp only
    by_cases own : record.schema = accessors.owner schema
    · rw [Accessors.reach?_of_eq own, if_neg (not_not_intro own)]
      dsimp only
      rw [accessors.type_eq, if_neg (not_not_intro rfl)]
    · rw [Accessors.reach?_of_ne own, if_pos own]

theorem ofField_nested_eq :
    ofField accessors m schema owner (.nested name slot dest holder child) record =
      if !m.hasSlot child.slot then ⟨record, none⟩
      else if record.schema ≠ accessors.owner schema then
        ⟨record, some (.destinationTypeMismatch owner)⟩
      else
        let spot := accessors.spot schema ⟨dest, .nested holder child.schema⟩
        let inner := ofStencil accessors m child
          ((record.descend spot.through).child spot.place child.schema)
        ⟨spot.put inner.record.content record, inner.error?⟩ := by
  rw [ofField]
  by_cases own : record.schema = accessors.owner schema
  · rw [Accessors.reach?_of_eq own, if_neg (not_not_intro own)]
    dsimp only
    rw [ensure?_spot]
  · rw [Accessors.reach?_of_ne own, if_pos own]

/-- A variant that has been written is refused for the schema of the record that holds it. -/
theorem ofField_union_eq :
    ofField accessors m schema owner
        (.union name slot dest capability capabilityName variants) record =
      match ofVariants accessors m variants with
      | none => ⟨record, none⟩
      | some ⟨_, some error⟩ => ⟨record, some error⟩
      | some ⟨variant, none⟩ =>
        if record.schema ≠ accessors.owner schema then
          ⟨record, some (.destinationTypeMismatch owner)⟩
        else
          ⟨(accessors.spot schema ⟨dest, .union capability⟩).put variant.content record, none⟩ := by
  rw [ofField]
  rcases ofVariants accessors m variants with _ | ⟨variant, _ | error⟩
  · rfl
  · dsimp only
    by_cases own : record.schema = accessors.owner schema
    · rw [Accessors.reach?_of_eq own, if_neg (not_not_intro own)]
      dsimp only
      rw [assign?_spot]
    · rw [Accessors.reach?_of_ne own, if_pos own]
  · rfl

theorem schema_ofField (field : FieldStencil) :
    (ofField accessors m schema owner field record).record.schema = record.schema := by
  cases field with
  | separator => rw [ofField]
  | scalar name slot dest representation =>
    rw [ofField, writeScalar_eq]
    repeat' split
    all_goals first | rfl | exact Record.schema_put _ _ _
  | position name slot dest =>
    rw [ofField, writePosition_eq]
    repeat' split
    all_goals first | rfl | exact Record.schema_put _ _ _
  | nested name slot dest holder child =>
    rw [ofField_nested_eq]
    repeat' split
    all_goals first | rfl | exact Record.schema_put _ _ _
  | union name slot dest capability capabilityName variants =>
    rw [ofField_union_eq]
    repeat' split
    all_goals first | rfl | exact Record.schema_put _ _ _

theorem schema_ofFields (fields : List FieldStencil) :
    (ofFields accessors m schema owner fields record).record.schema = record.schema := by
  induction fields generalizing record with
  | nil => rw [ofFields]
  | cons field rest ih =>
    have first : (ofField accessors m schema owner field record).record.schema = record.schema :=
      schema_ofField field
    rw [ofFields]
    rcases written : ofField accessors m schema owner field record with ⟨after, _ | error⟩
    · rw [written] at first
      exact ih.trans first
    · rw [written] at first
      exact first

theorem schema_ofStencil (stencil : Stencil) :
    (ofStencil accessors m stencil record).record.schema = record.schema := by
  obtain ⟨schema, name, typeName, slot, fields⟩ := stencil
  rw [ofStencil]
  split
  · exact schema_ofFields fields
  · rfl

theorem ofVariants_cons (variant : Stencil) (rest : List Stencil) :
    ofVariants accessors m (variant :: rest) =
      if m.hasSlot variant.slot then
        some (ofStencil accessors m variant (Record.blank variant.schema))
      else ofVariants accessors m rest := by
  -- what its constructor takes is a record of the schema that the blank one was made for
  have own : (ofStencil accessors m variant (Record.blank variant.schema)).record.schema =
      variant.schema := schema_ofStencil variant
  have wrapped : wrap variant (ofStencil accessors m variant (Record.blank variant.schema)) =
      ofStencil accessors m variant (Record.blank variant.schema) := by
    unfold wrap
    split
    · rename_i written
      exact written.symm
    · rename_i written
      rw [written] at own
      rw [written, if_neg (not_not_intro own)]
  rw [ofVariants, wrapped]

end Inflated

end SchemaMatch
