import SchemaMatch.Proofs.Compilation.Twins
import SchemaMatch.Proofs.Record.Access
import SchemaMatch.Proofs.Record.Restriction

/-!
# Twins write alike

Matches that have the same regions for paired slots write the same to the places that the stencils
of twins share, as long as neither writing ends in an error. The main statement is
`Twins.writeAlike`.
-/

namespace SchemaMatch

open Compilation

variable {paired : Nat → Nat → Prop} {shared : SchemaId → Place → Bool} {m m' : Match}

/-- Two matches of one text have the same regions for paired slots. -/
structure Match.Alike (paired : Nat → Nat → Prop) (m m' : Match) : Prop where
  input : m'.input = m.input
  region : ∀ ⦃slot slot'⦄, paired slot slot' → m'.region? slot' = m.region? slot

theorem Match.Alike.hasSlot (alike : m.Alike paired m') {slot slot' : Nat}
    (pair : paired slot slot') : m'.hasSlot slot' = m.hasSlot slot := by
  rw [Match.hasSlot, Match.hasSlot, alike.region pair]

namespace Inflated

/-- If neither of two records ended in an error, they are the same at the shared places. -/
def Alike (shared : SchemaId → Place → Bool) (one two : Inflated) : Prop :=
  one.error? = none → two.error? = none →
    two.record.restrict shared = one.record.restrict shared

variable {id : SchemaId} {owner owner' name name' : String} {slot slot' dest : Nat}
variable {representation : Representation} {record record' : Record}

theorem alike_writeScalar (alike : m.Alike paired m') (pair : paired slot slot')
    (same : record'.restrict shared = record.restrict shared) :
    Alike shared (writeScalar .plain m id owner name slot dest representation record)
      (writeScalar .plain m' id owner' name' slot' dest representation record') := by
  intro done done'
  have schema := Record.schema_eq_of_restrict_eq same
  simp only [writeScalar_eq, alike.region pair, alike.input, schema] at done done' ⊢
  cases took : m.region? slot with
  | none => exact same
  | some region =>
    simp only [took] at done done' ⊢
    split at done
    · cases done
    · rename_i own
      simp only [own, if_false] at done' ⊢
      cases sliced : Text.slice? m.input region with
      | none =>
        rw [sliced] at done
        cases done
      | some text =>
        simp only
        cases stored? representation region text with
        | none => exact same
        | some content => exact Record.restrict_set_congr same fun _ => rfl

theorem alike_writePosition (alike : m.Alike paired m') (pair : paired slot slot')
    (same : record'.restrict shared = record.restrict shared) :
    Alike shared (writePosition .plain m id owner name slot dest record)
      (writePosition .plain m' id owner' name' slot' dest record') := by
  intro done done'
  have schema := Record.schema_eq_of_restrict_eq same
  simp only [writePosition_eq, alike.region pair, schema] at done done' ⊢
  cases took : m.region? slot with
  | none => exact same
  | some region =>
    simp only [took] at done done' ⊢
    split at done
    · cases done
    · rename_i own
      simp only [own, if_false] at done' ⊢
      exact Record.restrict_set_congr same fun _ => rfl

/-- A captured field that writes to a place that is not shared leaves the shared places alone. -/
theorem restrict_writeScalar (hidden : shared id ⟨dest, .scalar representation⟩ = false) :
    (writeScalar .plain m id owner name slot dest representation record).record.restrict shared =
      record.restrict shared := by
  rw [writeScalar_eq]
  split
  · rfl
  · split
    · rfl
    · rename_i own
      split
      · rfl
      · split
        · rfl
        · exact Record.restrict_set_of_hidden (by rwa [Decidable.not_not.1 own]) _

theorem restrict_writePosition (hidden : shared id ⟨dest, .position⟩ = false) :
    (writePosition .plain m id owner name slot dest record).record.restrict shared =
      record.restrict shared := by
  rw [writePosition_eq]
  split
  · rfl
  · split
    · rfl
    · rename_i own
      exact Record.restrict_set_of_hidden (by rwa [Decidable.not_not.1 own]) _

/-- Fields that come after others are written unless these end in an error. -/
theorem alike_ofFields {field field' : FieldStencil} {fields fields' : List FieldStencil}
    (first : Alike shared (ofField .plain m id owner field record) (ofField .plain m' id owner' field' record'))
    (rest : ∀ ⦃record record'⦄, record'.restrict shared = record.restrict shared →
      Alike shared (ofFields .plain m id owner fields record) (ofFields .plain m' id owner' fields' record')) :
    Alike shared (ofFields .plain m id owner (field :: fields) record)
      (ofFields .plain m' id owner' (field' :: fields') record') := by
  intro done done'
  simp only [ofFields] at done done' ⊢
  rcases written : ofField .plain m id owner field record with ⟨after, _ | error⟩
  · rcases written' : ofField .plain m' id owner' field' record' with ⟨after', _ | error⟩
    · rw [written, written'] at first
      simp only [written, written'] at done done' ⊢
      exact rest (first rfl rfl) done done'
    · simp only [written'] at done'
      cases done'
  · simp only [written] at done
    cases done

theorem alike_ofField_nested {holder : Holder} {child child' : Stencil}
    (alike : m.Alike paired m') (pair : paired child.slot child'.slot)
    (schema : child'.schema = child.schema)
    (common : shared id ⟨dest, .nested holder child.schema⟩ = true)
    (inside : ∀ ⦃record record'⦄, record'.restrict shared = record.restrict shared →
      Alike shared (ofStencil .plain m child record) (ofStencil .plain m' child' record'))
    (same : record'.restrict shared = record.restrict shared) :
    Alike shared (ofField .plain m id owner (.nested name slot dest holder child) record)
      (ofField .plain m' id owner' (.nested name' slot' dest holder child') record') := by
  intro done done'
  have own := Record.schema_eq_of_restrict_eq same
  simp only [ofField_nested_eq, alike.hasSlot pair, schema, own] at done done' ⊢
  split
  · exact same
  · rename_i took
    simp only [took] at done done'
    split
    · exact same
    · rename_i mine
      simp only [mine, if_false] at done done'
      have kept : shared record.schema ⟨dest, .nested holder child.schema⟩ = true := by
        rwa [Decidable.not_not.1 mine]
      have children := Record.child_restrict_congr same kept child.schema
      refine Record.restrict_set_congr same fun _ => ?_
      rw [Record.restrict_content, Record.restrict_content]
      exact congrArg Record.content (inside children done done')

theorem alike_ofField_union {capability : CapabilityId} {capabilityName capabilityName' : String}
    {variants variants' : List Stencil}
    (inside : Option.Rel (Alike shared) (ofVariants .plain m variants) (ofVariants .plain m' variants'))
    (same : record'.restrict shared = record.restrict shared) :
    Alike shared
      (ofField .plain m id owner (.union name slot dest capability capabilityName variants) record)
      (ofField .plain m' id owner' (.union name' slot' dest capability capabilityName' variants')
        record') := by
  intro done done'
  have own := Record.schema_eq_of_restrict_eq same
  simp only [ofField_union_eq, own] at done done' ⊢
  rcases written : ofVariants .plain m variants with _ | ⟨one, _ | error⟩
  · rcases written' : ofVariants .plain m' variants' with _ | ⟨two, _ | error⟩
    · exact same
    · rw [written, written'] at inside
      cases inside
    · rw [written, written'] at inside
      cases inside
  · rcases written' : ofVariants .plain m' variants' with _ | ⟨two, _ | error⟩
    · rw [written, written'] at inside
      cases inside
    · rw [written, written'] at inside
      cases inside with
      | some held =>
        dsimp only
        split
        · exact same
        · refine Record.restrict_set_congr same fun _ => ?_
          rw [Record.restrict_content, Record.restrict_content, held rfl rfl]
    · simp only [written'] at done'
      cases done'
  · simp only [written] at done
    cases done

end Inflated

open Inflated (ofStencil ofFields ofVariants)

def Compilation.Piece.WriteAlike (shared : SchemaId → Place → Bool) (m m' : Match) :
    Piece → Piece → Prop
  | record stencil _, record stencil' _ => ∀ ⦃record record'⦄,
      record'.restrict shared = record.restrict shared →
      Inflated.Alike shared (ofStencil .plain m stencil record) (ofStencil .plain m' stencil' record')
  | fields id stencils _, fields _ stencils' _ => ∀ ⦃owner owner' record record'⦄,
      record'.restrict shared = record.restrict shared →
      Inflated.Alike shared (ofFields .plain m id owner stencils record)
        (ofFields .plain m' id owner' stencils' record')
  | variants stencils _, variants stencils' _ =>
      Option.Rel (Inflated.Alike shared) (ofVariants .plain m stencils) (ofVariants .plain m' stencils')
  | _, _ => False

theorem Compilation.Twins.writeAlike (alike : m.Alike paired m') {piece piece' : Piece}
    (twins : Twins paired shared piece piece') : piece.WriteAlike shared m m' piece' := by
  induction twins with
  | record pair fields ih =>
    intro record record' same
    simp only [ofStencil, alike.hasSlot pair]
    split
    · exact ih same
    · exact fun _ _ => same
  | noFields => exact fun owner owner' record record' same _ _ => same
  | separator rest ih =>
    intro owner owner' record record' same
    exact Inflated.alike_ofFields (fun _ _ => same) fun _ _ same => ih same
  | scalar pair rest ih =>
    intro owner owner' record record' same
    exact Inflated.alike_ofFields
      (Inflated.alike_writeScalar alike pair same) fun _ _ same => ih same
  | position pair rest ih =>
    intro owner owner' record record' same
    exact Inflated.alike_ofFields
      (Inflated.alike_writePosition alike pair same) fun _ _ same => ih same
  | nested pair common inside rest held others =>
    intro owner owner' record record' same
    obtain ⟨envelopes, schema⟩ := inside.of_record
    exact Inflated.alike_ofFields
      (Inflated.alike_ofField_nested alike envelopes schema common held same)
      fun _ _ same => others same
  | union pair inside rest held others =>
    intro owner owner' record record' same
    exact Inflated.alike_ofFields
      (Inflated.alike_ofField_union held same) fun _ _ same => others same
  | released alone hidden rest ih =>
    intro owner owner' record record' same
    refine Inflated.alike_ofFields (fun _ _ => ?_) fun _ _ same => ih same
    exact same.trans (Inflated.restrict_writeScalar hidden).symm
  | @inserted id name slot' dest stencils stencils' exprs exprs' alone hidden rest ih =>
    intro owner owner' record record' same done done'
    have skips : (Inflated.writePosition .plain m' id owner' name slot' dest record').record.restrict shared =
        record.restrict shared := (Inflated.restrict_writePosition hidden).trans same
    simp only [ofFields, Inflated.ofField] at done' ⊢
    rcases written : Inflated.writePosition .plain m' id owner' name slot' dest record' with ⟨after, _ | error⟩
    · rw [written] at skips
      simp only [written] at done' ⊢
      exact ih skips done done'
    · simp only [written] at done'
      cases done'
  | noVariants => exact .none
  | variant first rest held others =>
    obtain ⟨pair, schema⟩ := first.of_record
    simp only [Piece.WriteAlike, Inflated.ofVariants_cons, alike.hasSlot pair, schema]
    split
    · exact .some (held rfl)
    · exact others

end SchemaMatch
