import SchemaMatch.Record.Basic

/-!
# Records of the right types

A destination holds what its type says: a record where it is of a nested type, of just the schema
that the type names. Such records stay so when something of the right type is written to one of
their places. What lies deeper is found by a path of places.
-/

namespace SchemaMatch

namespace Content

mutual

/-- Whether something may be held by a destination of a type. -/
def Suits (type : PlaceType) : Content → Prop
  | .text _ => type = .scalar .text ∨ type = .scalar .optionalText
  | .bytes _ => type = .scalar .bytes ∨ type = .scalar .optionalBytes
  | .submatch _ => type = .scalar .submatch ∨ type = .scalar .optionalSubmatch
  | .position _ => type = .position
  | .record schema cells =>
    ((∃ holder, type = .nested holder schema) ∨ ∃ capability, type = .union capability) ∧
      CellsSuit cells

/-- Whether each destination holds what suits it. -/
def CellsSuit : List (Place × Content) → Prop
  | [] => True
  | (place, content) :: rest => content.Suits place.type ∧ CellsSuit rest

end

/-- What is found along a path of places. -/
def at? : Content → List Place → Option Content
  | content, [] => some content
  | .record _ cells, place :: rest => (Record.cellAt? place cells).bind (·.at? rest)
  | _, _ :: _ => none

end Content

namespace Record

/-- Whether all destinations of a record hold what suits them, also inside the records it holds. -/
def IsTyped (record : Record) : Prop := Content.CellsSuit record.cells

/-- What is found in a record along a path of places. -/
def at? (record : Record) (path : List Place) : Option Content := record.content.at? path

@[simp] theorem schema_set (record : Record) (place : Place) (content : Content) :
    (record.set place content).schema = record.schema := rfl

@[simp] theorem at?_cons (record : Record) (place : Place) (rest : List Place) :
    record.at? (place :: rest) = (record.get? place).bind (·.at? rest) := rfl

theorem isTyped_blank (schema : SchemaId) : (blank schema).IsTyped := trivial

/-- Nothing is found in a record that nothing has been written to. -/
theorem at?_blank (schema : SchemaId) (place : Place) (rest : List Place) :
    (blank schema).at? (place :: rest) = none := rfl

theorem suits_of_cellAt? {cells : List (Place × Content)} {place : Place} {content : Content}
    (typed : Content.CellsSuit cells) (found : cellAt? place cells = some content) :
    content.Suits place.type := by
  induction cells with
  | nil => cases found
  | cons cell rest ih =>
    obtain ⟨other, held⟩ := cell
    obtain ⟨suits, others⟩ := typed
    rw [cellAt?] at found
    split at found
    · rename_i same
      cases found
      exact same ▸ suits
    · exact ih others found

theorem cellsSuit_setCell {cells : List (Place × Content)} {place : Place} {content : Content}
    (typed : Content.CellsSuit cells) (suits : content.Suits place.type) :
    Content.CellsSuit (setCell place content cells) := by
  induction cells with
  | nil => exact ⟨suits, trivial⟩
  | cons cell rest ih =>
    obtain ⟨other, held⟩ := cell
    obtain ⟨first, others⟩ := typed
    rw [setCell]
    split
    · exact ⟨suits, others⟩
    · exact ⟨first, ih others⟩

theorem IsTyped.set {record : Record} {place : Place} {content : Content}
    (typed : record.IsTyped) (suits : content.Suits place.type) :
    (record.set place content).IsTyped :=
  cellsSuit_setCell typed suits

theorem IsTyped.child {record : Record} (typed : record.IsTyped) {place : Place} {holder : Holder}
    {schema : SchemaId} (type : place.type = .nested holder schema) :
    (record.child place schema).IsTyped ∧ (record.child place schema).schema = schema := by
  rw [Record.child]
  split
  · rename_i other cells held
    have suits := suits_of_cellAt? typed held
    rw [type] at suits
    obtain ⟨⟨_, same⟩ | ⟨_, same⟩, inside⟩ := suits
    · cases same
      exact ⟨inside, rfl⟩
    · cases same
  · exact ⟨isTyped_blank schema, rfl⟩

theorem IsTyped.suits_nested {record : Record} (typed : record.IsTyped) (holder : Holder) :
    record.content.Suits (.nested holder record.schema) :=
  ⟨.inl ⟨holder, rfl⟩, typed⟩

theorem IsTyped.suits_union {record : Record} (typed : record.IsTyped) (capability : CapabilityId) :
    record.content.Suits (.union capability) :=
  ⟨.inr ⟨capability, rfl⟩, typed⟩

end Record

end SchemaMatch
