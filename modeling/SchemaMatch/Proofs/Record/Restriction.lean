import SchemaMatch.Record.Basic

/-!
# Records restricted to some places

Restricting a record to some places of each schema leaves out what it holds elsewhere, also in the
records that it holds. Two records that are the same after this hold the same at these places.
-/

namespace SchemaMatch

variable {shared : SchemaId → Place → Bool} {record : Record} {place : Place}

mutual

/-- A content with the records in it restricted to the shared places of their schemas. -/
def Content.restrict (shared : SchemaId → Place → Bool) : Content → Content
  | .text value => .text value
  | .bytes value => .bytes value
  | .submatch value => .submatch value
  | .position offset => .position offset
  | .record schema cells => .record schema (Content.restrictCells shared schema cells)

def Content.restrictCells (shared : SchemaId → Place → Bool) (schema : SchemaId) :
    List (Place × Content) → List (Place × Content)
  | [] => []
  | (place, content) :: rest =>
    if shared schema place then
      (place, content.restrict shared) :: restrictCells shared schema rest
    else restrictCells shared schema rest

end

namespace Record

open Content (restrictCells)

/-- A record that holds only what it held at shared places, restricted. -/
def restrict (shared : SchemaId → Place → Bool) (record : Record) : Record :=
  ⟨record.schema, restrictCells shared record.schema record.cells⟩

@[simp] theorem restrict_content :
    record.content.restrict shared = (record.restrict shared).content := rfl

theorem restrictCells_setCell_of_shared {schema : SchemaId} (kept : shared schema place = true)
    (content : Content) (cells : List (Place × Content)) :
    restrictCells shared schema (setCell place content cells) =
      setCell place (content.restrict shared) (restrictCells shared schema cells) := by
  induction cells with
  | nil => simp only [setCell, restrictCells, kept, if_true]
  | cons cell rest ih =>
    obtain ⟨other, old⟩ := cell
    rw [setCell, restrictCells]
    split
    · rename_i same
      subst same
      simp only [restrictCells, kept, if_true, setCell]
    · rename_i differs
      rw [restrictCells, ih]
      split
      · rw [setCell, if_neg differs]
      · rfl

theorem restrictCells_setCell_of_hidden {schema : SchemaId} (hidden : shared schema place = false)
    (content : Content) (cells : List (Place × Content)) :
    restrictCells shared schema (setCell place content cells) =
      restrictCells shared schema cells := by
  induction cells with
  | nil => simp only [setCell, restrictCells, hidden, Bool.false_eq_true, if_false]
  | cons cell rest ih =>
    obtain ⟨other, old⟩ := cell
    rw [setCell, restrictCells]
    split
    · rename_i same
      subst same
      simp only [restrictCells, hidden, Bool.false_eq_true, if_false]
    · rw [restrictCells, ih]

theorem cellAt?_restrictCells {schema : SchemaId} (kept : shared schema place = true)
    (cells : List (Place × Content)) :
    cellAt? place (restrictCells shared schema cells) =
      (cellAt? place cells).map (Content.restrict shared) := by
  induction cells with
  | nil => rfl
  | cons cell rest ih =>
    obtain ⟨other, old⟩ := cell
    rw [restrictCells, cellAt?]
    split
    · rename_i also
      rw [cellAt?, ih]
      split <;> rfl
    · rename_i hidden
      have differs : other ≠ place := fun same => hidden (same ▸ kept)
      rw [ih, if_neg differs]

theorem restrict_set_of_shared (kept : shared record.schema place = true) (content : Content) :
    (record.set place content).restrict shared =
      (record.restrict shared).set place (content.restrict shared) :=
  congrArg (Record.mk record.schema) (restrictCells_setCell_of_shared kept content record.cells)

theorem restrict_set_of_hidden (hidden : shared record.schema place = false) (content : Content) :
    (record.set place content).restrict shared = record.restrict shared :=
  congrArg (Record.mk record.schema) (restrictCells_setCell_of_hidden hidden content record.cells)

theorem schema_eq_of_restrict_eq {record' : Record}
    (same : record'.restrict shared = record.restrict shared) : record'.schema = record.schema :=
  (Record.mk.inj same).1

theorem restrict_set_congr {record' : Record} {content content' : Content}
    (same : record'.restrict shared = record.restrict shared)
    (held : shared record.schema place = true →
      content'.restrict shared = content.restrict shared) :
    (record'.set place content').restrict shared = (record.set place content).restrict shared := by
  have schema := schema_eq_of_restrict_eq same
  cases kept : shared record.schema place with
  | true =>
    rw [restrict_set_of_shared kept, restrict_set_of_shared (schema ▸ kept), same, held kept]
  | false => rw [restrict_set_of_hidden kept, restrict_set_of_hidden (schema ▸ kept), same]

theorem get?_restrict (kept : shared record.schema place = true) :
    (record.restrict shared).get? place = (record.get? place).map (Content.restrict shared) :=
  cellAt?_restrictCells kept record.cells

theorem child_restrict (kept : shared record.schema place = true) (schema : SchemaId) :
    (record.restrict shared).child place schema = (record.child place schema).restrict shared := by
  rw [child, child, get?_restrict kept]
  cases record.get? place with
  | none => rfl
  | some content => cases content <;> rfl

theorem child_restrict_congr {record' : Record}
    (same : record'.restrict shared = record.restrict shared)
    (kept : shared record.schema place = true) (schema : SchemaId) :
    (record'.child place schema).restrict shared = (record.child place schema).restrict shared := by
  have own := schema_eq_of_restrict_eq same
  rw [← child_restrict kept, ← child_restrict (own ▸ kept), same]

end Record

end SchemaMatch
