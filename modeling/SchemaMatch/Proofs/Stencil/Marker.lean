import SchemaMatch.Proofs.Compilation.Revision
import SchemaMatch.Proofs.Record.Writes
import SchemaMatch.Proofs.Stencil.Records

/-!
# Markers

Positions that a revision puts between the fields of a record mark an offset: what the fields before
them cover ends there, and what the fields after them cover begins there. The main statement is
`Stencil.marks_of_fits`.
-/

namespace SchemaMatch

namespace Stencil

variable {scope : Scope} {lookup : Nat → Option Region} {m : Match}
variable {field : Field} {front back declared : List Field}
variable {stencil : FieldStencil} {before after rest : List FieldStencil} {start stop : Nat}

/-! ### Fields one by one -/

theorem fieldsMirror_cons : FieldsMirror scope (field :: declared) (stencil :: rest) ↔
    FieldsMirror scope [field] [stencil] ∧ FieldsMirror scope declared rest := by
  cases stencil <;> simp [FieldsMirror]

theorem fieldsFit_cons : FieldsFit scope lookup (field :: declared) (stencil :: rest) start stop ↔
    ∃ middle, FieldsFit scope lookup [field] [stencil] start middle ∧
      FieldsFit scope lookup declared rest middle stop := by
  cases stencil <;> simp [FieldsFit, and_assoc]

theorem FieldsMirror.of_append {stencils : List FieldStencil}
    (mirrors : FieldsMirror scope (front ++ back) stencils) :
    ∃ before after, stencils = before ++ after ∧ FieldsMirror scope front before ∧
      FieldsMirror scope back after := by
  induction front generalizing stencils with
  | nil => exact ⟨[], stencils, rfl, by simp [FieldsMirror], mirrors⟩
  | cons field front ih =>
    cases stencils with
    | nil => simp [FieldsMirror] at mirrors
    | cons stencil rest =>
      obtain ⟨first, others⟩ := fieldsMirror_cons.1 mirrors
      obtain ⟨before, after, rfl, here, there⟩ := ih others
      exact ⟨stencil :: before, after, rfl, fieldsMirror_cons.2 ⟨first, here⟩, there⟩

theorem FieldsFit.of_append (mirrors : FieldsMirror scope front before)
    (fit : FieldsFit scope lookup (front ++ back) (before ++ after) start stop) :
    ∃ middle, FieldsFit scope lookup front before start middle ∧
      FieldsFit scope lookup back after middle stop := by
  induction front generalizing before start with
  | nil =>
    cases before with
    | nil => exact ⟨start, by simp [FieldsFit], fit⟩
    | cons stencil rest => simp [FieldsMirror] at mirrors
  | cons field front ih =>
    cases before with
    | nil => simp [FieldsMirror] at mirrors
    | cons stencil rest =>
      obtain ⟨inner, first, others⟩ := fieldsFit_cons.1 fit
      obtain ⟨middle, here, there⟩ := ih (fieldsMirror_cons.1 mirrors).2 others
      exact ⟨middle, fieldsFit_cons.2 ⟨inner, first, here⟩, there⟩

end Stencil

theorem FieldsWrite.of_append {accessors : Accessors} {m : Match} {schema : SchemaId}
    {front back : List FieldStencil} {place : Place} {before after : Option Content}
    (writes : FieldsWrite accessors m schema (front ++ back) place before after) :
    ∃ middle, FieldsWrite accessors m schema front place before middle ∧
      FieldsWrite accessors m schema back place middle after := by
  induction front generalizing before with
  | nil => exact ⟨before, rfl, writes⟩
  | cons field front ih =>
    obtain ⟨inner, first, others⟩ := writes
    obtain ⟨middle, here, there⟩ := ih others
    exact ⟨middle, ⟨inner, first, here⟩, there⟩

namespace Stencil

variable {scope : Scope} {lookup : Nat → Option Region} {m : Match} {schema : SchemaId}

/-! ### Records inside a stencil -/

mutual

/-- The envelope of a record is among the slots of every stencil that the record is inside of. -/
theorem mem_labels_of_mem_records {inner : Stencil} : (stencil : Stencil) →
    inner ∈ stencil.records → (inner.slot, inner.name) ∈ stencil.labels
  | mk _ _ _ _ fields, member => by
    rcases List.mem_cons.1 member with rfl | member
    · exact List.mem_cons_self
    · exact List.mem_cons_of_mem _ (mem_fieldLabels_of_mem_fieldsRecords fields member)

theorem mem_fieldLabels_of_mem_fieldsRecords {inner : Stencil} : (fields : List FieldStencil) →
    inner ∈ fieldsRecords fields → (inner.slot, inner.name) ∈ fieldLabels fields
  | [], member => by cases member
  | .separator :: rest, member => mem_fieldLabels_of_mem_fieldsRecords rest member
  | .scalar _ _ _ _ :: rest, member =>
    List.mem_cons_of_mem _ (mem_fieldLabels_of_mem_fieldsRecords rest member)
  | .position _ _ _ :: rest, member =>
    List.mem_cons_of_mem _ (mem_fieldLabels_of_mem_fieldsRecords rest member)
  | .nested _ _ _ _ child :: rest, member => by
    rcases List.mem_append.1 member with member | member
    · exact List.mem_cons_of_mem _
        (List.mem_append_left _ (mem_labels_of_mem_records child member))
    · exact List.mem_cons_of_mem _
        (List.mem_append_right _ (mem_fieldLabels_of_mem_fieldsRecords rest member))
  | .union _ _ _ _ _ variants :: rest, member => by
    rcases List.mem_append.1 member with member | member
    · exact List.mem_cons_of_mem _
        (List.mem_append_left _ (mem_variantLabels_of_mem_variantsRecords variants member))
    · exact List.mem_cons_of_mem _
        (List.mem_append_right _ (mem_fieldLabels_of_mem_fieldsRecords rest member))

theorem mem_variantLabels_of_mem_variantsRecords {inner : Stencil} : (variants : List Stencil) →
    inner ∈ variantsRecords variants → (inner.slot, inner.name) ∈ variantLabels variants
  | [], member => by cases member
  | variant :: rest, member => by
    rcases List.mem_append.1 member with member | member
    · exact List.mem_append_left _ (mem_labels_of_mem_records variant member)
    · exact List.mem_append_right _ (mem_variantLabels_of_mem_variantsRecords rest member)

end

mutual

/-- Regions that fit a stencil fit each record inside it that takes part. -/
theorem Fits.inner {inner : Stencil} {region : Region} (took : lookup inner.slot = some region) :
    (stencil : Stencil) → stencil.Fits scope lookup → inner ∈ stencil.records →
    inner.Fits scope lookup
  | mk schema name typeName slot fields, fits, member => by
    rcases List.mem_cons.1 member with rfl | member
    · exact fits
    · rw [Fits] at fits
      split at fits
      · rw [fits _ (mem_fieldLabels_of_mem_fieldsRecords fields member)] at took
        cases took
      · exact FieldsFit.inner took _ fields fits member

theorem FieldsFit.inner {inner : Stencil} {region : Region}
    (took : lookup inner.slot = some region) {start stop : Nat} : (declared : List Field) →
    (fields : List FieldStencil) → FieldsFit scope lookup declared fields start stop →
    inner ∈ fieldsRecords fields → inner.Fits scope lookup
  | _, [], _, member => by cases member
  | [], _ :: _, fits, _ => by simp [FieldsFit] at fits
  | _ :: declared, .separator :: rest, ⟨_, _, fits⟩, member =>
    FieldsFit.inner took declared rest fits member
  | _ :: declared, .scalar _ _ _ _ :: rest, ⟨_, _, _, fits⟩, member =>
    FieldsFit.inner took declared rest fits member
  | _ :: declared, .position _ _ _ :: rest, ⟨_, fits⟩, member =>
    FieldsFit.inner took declared rest fits member
  | _ :: declared, .nested _ _ _ _ child :: rest, ⟨_, _, _, _, held, fits⟩, member => by
    rcases List.mem_append.1 member with member | member
    · exact Fits.inner took child held member
    · exact FieldsFit.inner took declared rest fits member
  | _ :: declared, .union _ _ _ _ _ variants :: rest, ⟨_, _, _, _, held, fits⟩, member => by
    rcases List.mem_append.1 member with member | member
    · exact VariantsFit.inner took variants held member
    · exact FieldsFit.inner took declared rest fits member

theorem VariantsFit.inner {inner : Stencil} {region : Region}
    (took : lookup inner.slot = some region) : (variants : List Stencil) →
    VariantsFit scope lookup variants → inner ∈ variantsRecords variants →
    inner.Fits scope lookup
  | [], _, member => by cases member
  | variant :: rest, ⟨held, fits⟩, member => by
    rcases List.mem_append.1 member with member | member
    · exact Fits.inner took variant held member
    · exact VariantsFit.inner took rest fits member

end

/-! ### Offsets that are marked -/

/-- The position that a revision puts in. -/
abbrev markerField (marker : String × Nat) : Field := (Edit.inserted marker.1 marker.2).after

theorem eq_of_meets_plain {place other : Place}
    (meets : (Accessors.plain.spot schema place).Meets [other]) : other = place :=
  head_eq_of_prefix meets

theorem not_fieldsReach_position {dest : Nat} : {declared : List Field} →
    (fields : List FieldStencil) → FieldsMirror scope declared fields →
    (∀ field ∈ declared, field.place? ≠ some ⟨dest, .position⟩) →
    ¬FieldsReach .plain m schema fields [⟨dest, .position⟩]
  | _, [], _, _ => fun reached => reached
  | [], _ :: _, mirrors, _ => by simp [FieldsMirror] at mirrors
  | field :: declared, stencil :: rest, mirrors, free => by
    obtain ⟨first, others⟩ := fieldsMirror_cons.1 mirrors
    rintro (reached | reached)
    · cases stencil with
      | separator => cases reached
      | scalar name slot other representation => cases eq_of_meets_plain reached.2.2
      | position name slot other =>
        cases eq_of_meets_plain reached.2
        exact free field List.mem_cons_self (first.1 ▸ rfl)
      | nested name slot other holder child =>
        cases eq_of_meets_plain
          (reached.2.imp_right fun ⟨deeper, split, _⟩ => ⟨deeper, split.symm⟩)
      | union name slot other capability capabilityName variants =>
        cases eq_of_meets_plain reached.1
    · exact not_fieldsReach_position rest others
        (fun other member => free other (List.mem_cons_of_mem _ member)) reached

theorem eq_position_of_mirrors {marker : String × Nat} {stencil : FieldStencil}
    (mirrors : FieldsMirror scope [markerField marker] [stencil]) :
    ∃ slot, stencil = .position marker.1 slot marker.2 := by
  cases stencil <;> simp_all [FieldsMirror, markerField, Edit.after]

/-- Markers hold where they stand, if nothing after them writes to their destinations. -/
theorem holds_of_markers {markers : List (String × Nat)} {back : List Field}
    {stencils : List FieldStencil} {offset stop : Nat}
    (mirrors : FieldsMirror scope (markers.map markerField ++ back) stencils)
    (fit : FieldsFit scope m.region? (markers.map markerField ++ back) stencils offset stop)
    (own : (markers.map Prod.snd).Nodup)
    (free : ∀ dest ∈ markers.map Prod.snd, ∀ field ∈ back, field.place? ≠ some ⟨dest, .position⟩) :
    ∃ between after, stencils = between ++ after ∧
      FieldsFit scope m.region? back after offset stop ∧
      ∀ dest ∈ markers.map Prod.snd, ∀ old new,
        FieldsWrite .plain m schema stencils ⟨dest, .position⟩ old new →
          new = some (.position offset) := by
  induction markers generalizing stencils with
  | nil => exact ⟨[], stencils, rfl, fit, nofun⟩
  | cons marker markers ih =>
    cases stencils with
    | nil => simp [FieldsMirror] at mirrors
    | cons stencil rest =>
      obtain ⟨first, others⟩ := fieldsMirror_cons.1 mirrors
      obtain ⟨slot, rfl⟩ := eq_position_of_mirrors first
      obtain ⟨took, fits⟩ := fit
      obtain ⟨alone, own⟩ := List.nodup_cons.1 own
      obtain ⟨between, after, rfl, later, holds⟩ := ih others fits own fun dest member =>
        free dest (List.mem_cons_of_mem _ member)
      refine ⟨_ :: between, after, rfl, later, fun dest member old new writes => ?_⟩
      obtain ⟨middle, here, more⟩ := writes
      rcases List.mem_cons.1 member with rfl | member
      · have held : middle = some (.position offset) := by
          simpa only [FieldWrites, took, Spot.Changes, Accessors.plain, Hold.Changes, if_true]
            using here
        have unwritten : ∀ field ∈ markers.map markerField ++ back,
            field.place? ≠ some ⟨marker.2, .position⟩ := by
          intro field among same
          rcases List.mem_append.1 among with among | among
          · obtain ⟨other, listed, rfl⟩ := List.mem_map.1 among
            have dest : other.2 = marker.2 := congrArg Place.dest (Option.some.inj same)
            exact alone (dest ▸ List.mem_map_of_mem listed)
          · exact free _ List.mem_cons_self field among same
        have kept := FieldsWrite.frame _ more (not_fieldsReach_position _ others unwritten)
        simpa [Content.at?, held] using kept
      · exact holds dest member middle new more

/-- Some markers stand between the fields of a record that takes part in a match. What the fields
before them cover ends at an offset, what the fields after them cover begins there, and whatever the
match is written to holds the offset at the destination of each marker. -/
def Marks (scope : Scope) (m : Match) (region : Region) (front : List Field) (dests : List Nat)
    (back : List Field) (stencil : Stencil) : Prop :=
  ∃ offset before between after, stencil.fields = before ++ between ++ after ∧
    FieldsFit scope m.region? (front.filter fun field => !field.matchesNothing) before
      region.start offset ∧
    FieldsFit scope m.region? (back.filter fun field => !field.matchesNothing) after
      offset region.stop ∧
    ∀ dest ∈ dests, ∀ old new : Record, stencil.Writes .plain m old new →
      new.get? ⟨dest, .position⟩ = some (.position offset)

end Stencil

theorem Edit.place?_of_after {edit : Edit} {place : Place} (writes : edit.after.place? = some place) :
    edit.place? = some place := by
  cases edit with
  | kept field => exact writes
  | released name fragment type dest => cases writes
  | inserted name dest => exact writes

theorem Stencil.filter_markers (markers : List (String × Nat)) :
    (markers.map markerField).filter (fun field => !field.matchesNothing) =
      markers.map markerField := by
  refine List.filter_eq_self.2 fun field member => ?_
  obtain ⟨marker, _, rfl⟩ := List.mem_map.1 member
  rfl

/-- Markers that a revision puts in have destinations of their own, among themselves and apart from
the fields after them. -/
theorem Scope.IsRevision.free_of_markers {scope revised : Scope} {edits : SchemaId → List Edit}
    (revision : scope.IsRevision edits revised) {id : SchemaId} {front back : List Edit}
    {markers : List (String × Nat)}
    (edited : edits id = front ++ (markers.map fun marker => .inserted marker.1 marker.2) ++ back) :
    (markers.map Prod.snd).Nodup ∧ ∀ dest ∈ markers.map Prod.snd, ∀ field ∈ back.map Edit.after,
      field.place? ≠ some ⟨dest, .position⟩ := by
  have apart := revision.apart id
  rw [edited, List.pairwise_append, List.pairwise_append, List.pairwise_map] at apart
  obtain ⟨⟨_, among, _⟩, _, across⟩ := apart
  constructor
  · refine List.pairwise_map.2 (among.imp fun {one two} apart same => ?_)
    rcases apart with ⟨kept, _⟩ | differ
    · cases kept
    · exact differ ⟨one.2, .position⟩ rfl (by rw [same]; rfl)
  · intro dest member field listed writes
    obtain ⟨marker, here, rfl⟩ := List.mem_map.1 member
    obtain ⟨edit, there, rfl⟩ := List.mem_map.1 listed
    have apart := across _ (List.mem_append_right _ (List.mem_map_of_mem here)) edit there
    rcases apart with ⟨kept, _⟩ | differ
    · cases kept
    · exact differ _ rfl (Edit.place?_of_after writes)

/-- The markers that a revision puts next to one another between the fields of a record mark one
offset. -/
theorem Stencil.marks_of_fits {scope revised : Scope} {edits : SchemaId → List Edit} {m : Match}
    {stencil : Stencil} {region : Region} {front back : List Edit} {markers : List (String × Nat)}
    (revision : scope.IsRevision edits revised)
    (mirrors : stencil.Mirrors revised stencil.schema) (fits : stencil.Fits revised m.region?)
    (took : m.region? stencil.slot = some region)
    (edited : edits stencil.schema =
      front ++ (markers.map fun marker => .inserted marker.1 marker.2) ++ back) :
    stencil.Marks revised m region (front.map Edit.after) (markers.map Prod.snd)
      (back.map Edit.after) := by
  obtain ⟨id, name, typeName, slot, fields⟩ := stencil
  simp only [Stencil.schema, Stencil.slot, Fits] at edited took mirrors fits
  obtain ⟨_, _, _, mirrors⟩ := mirrors
  have declared := revision.after id
  rw [edited, List.map_append, List.map_append, List.map_map, List.append_assoc] at declared
  have marked := filter_markers markers
  rw [declared, List.filter_append, List.filter_append] at mirrors
  simp only [took, declared, List.filter_append] at fits
  obtain ⟨before, rest, rfl, here, there⟩ := mirrors.of_append
  obtain ⟨offset, first, others⟩ := fits.of_append here
  obtain ⟨own, free⟩ := revision.free_of_markers edited
  obtain ⟨between, after, rfl, last, holds⟩ := holds_of_markers (marked ▸ there) (marked ▸ others)
    own fun dest member field among => free dest member field (List.mem_of_mem_filter among)
  refine ⟨offset, before, between, after, (List.append_assoc _ _ _).symm, first, last, ?_⟩
  intro dest member old new writes
  have written := writes.2 ⟨dest, .position⟩
  rw [if_pos (by rw [Match.hasSlot, took]; rfl)] at written
  obtain ⟨middle, _, more⟩ := written.of_append
  exact holds dest member middle _ more

end SchemaMatch
