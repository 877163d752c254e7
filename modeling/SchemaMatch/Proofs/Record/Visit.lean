import SchemaMatch.Proofs.Record.Writes

/-!
# Visits

Inflating a match visits the fields of a record one after another, and those of the records that it
holds in between. A visit writes to one destination, makes the record that a field holds, or fails.
`Stencil.visits` lists the visits in order, for a stencil, its accessors and a match alone: the list
goes on after a failure. Performing visits leaves alone what none of them touches, by
`Visit.at?_performAll`, and keeps the records that were made, by `Visit.isSome_at?_performAll`.
-/

namespace SchemaMatch

/-- What is done for one field. -/
inductive Visit
  /-- Writes to a place of the record at the end of some holds. -/
  | write (holds : List Hold) (place : Place) (content : Content)
  /-- Goes on with the record at the end of some holds, or makes it. -/
  | enter (holds : List Hold)
  | fail (error : MatchError)

namespace Visit

/-- Why a visit fails, if it does. -/
def error? : Visit → Option MatchError
  | fail error => some error
  | _ => none

/-- The record after a visit. A failure changes nothing. -/
def perform : Visit → Record → Record
  | write holds place content, record => record.changeAt holds (·.set place content)
  | enter holds, record => record.changeAt holds id
  | fail _, record => record

/-- The record after some visits. -/
def performAll (visits : List Visit) (record : Record) : Record :=
  visits.foldl (fun record visit => visit.perform record) record

/-- The error of the first visit that fails. -/
def firstError? (visits : List Visit) : Option MatchError := visits.findSome? error?

/-- The visits before the first one that fails. -/
def beforeFailure (visits : List Visit) : List Visit :=
  visits.takeWhile fun visit => visit.error?.isNone

/-- A visit to the record at the end of some holds, as a visit to the one that they start from. -/
def within (outer : List Hold) : Visit → Visit
  | write holds place content => write (outer ++ holds) place content
  | enter holds => enter (outer ++ holds)
  | fail error => fail error

/-- Whether a visit may change what is found along a path: it lies on the way to what is written, or
inside of it. -/
def Touches (path : List Place) : Visit → Prop
  | write holds place _ =>
    path <+: Hold.path holds ++ [place] ∨ Hold.path holds ++ [place] <+: path
  | enter holds => path <+: Hold.path holds
  | fail _ => False

end Visit

/-- The holds that lead to the record of a spot. -/
def Spot.holds (spot : Spot) (holder : Holder) (schema : SchemaId) : List Hold :=
  spot.through ++ [⟨spot.place.dest, holder, schema⟩]

/-- The visits for a captured field of which a region is known. -/
def scalarVisits (m : Match) (name : String) (spot : Spot) (representation : Representation)
    (region : Region) : List Visit :=
  match Text.slice? m.input region with
  | none => [.fail (.unsupportedFieldRepresentation name (Inflated.typeName representation))]
  | some text =>
    match Inflated.stored? representation region text with
    | none => []
    | some content => [.write spot.through spot.place content]

/-- The visits to a record that the description named `owner` is made for; to a record of another
type, the one visit fails. -/
def ownVisits (own : Bool) (owner : String) (visits : List Visit) : List Visit :=
  if own then visits else [.fail (.destinationTypeMismatch owner)]

section Visits

variable (accessors : Accessors) (m : Match)

mutual

/-- The visits of a match to a record, in order, according to a stencil. It is said whether the
description of the stencil's schema is made for the record. -/
def Stencil.visits (own : Bool) : Stencil → List Visit
  | .mk schema name _ slot fields =>
    if m.hasSlot slot then fieldsVisits own schema name fields else []

def fieldsVisits (own : Bool) (schema : SchemaId) (owner : String) : List FieldStencil → List Visit
  | [] => []
  | field :: rest => fieldVisits own schema owner field ++ fieldsVisits own schema owner rest

/-- The visits for a field. A variant is written as a whole, or fails where its first visit does. -/
def fieldVisits (own : Bool) (schema : SchemaId) (owner : String) : FieldStencil → List Visit
  | .separator => []
  | .scalar name slot dest representation =>
    match m.region? slot with
    | none => []
    | some region =>
      ownVisits own owner (scalarVisits m name
        (accessors.spot schema ⟨dest, .scalar representation⟩) representation region)
  | .position _ slot dest =>
    match m.region? slot with
    | none => []
    | some region =>
      let spot := accessors.spot schema ⟨dest, .position⟩
      ownVisits own owner [.write spot.through spot.place (.position region.start)]
  | .nested _ _ dest holder child =>
    if m.hasSlot child.slot then
      let spot := accessors.spot schema ⟨dest, .nested holder child.schema⟩
      ownVisits own owner
        ((.enter [] :: child.visits (child.schema = accessors.owner child.schema)).map
          (.within (spot.holds holder child.schema)))
    else []
  | .union _ _ dest capability _ variants =>
    match variantVisits variants with
    | none => []
    | some (variant, visits) =>
      match Visit.firstError? visits with
      | some error => [.fail error]
      | none =>
        let spot := accessors.spot schema ⟨dest, .union capability⟩
        ownVisits own owner [.write spot.through spot.place
          (Visit.performAll visits (Record.blank variant)).content]

def variantVisits : List Stencil → Option (SchemaId × List Visit)
  | [] => none
  | variant :: rest =>
    if m.hasSlot variant.slot then
      some (variant.schema, variant.visits (variant.schema = accessors.owner variant.schema))
    else variantVisits rest

end

end Visits

/-! ### Changes at the end of some holds -/

namespace Record

theorem at?_changeAt {change : Record → Record} (holds : List Hold) {record : Record}
    {path : List Place} (apart : ¬path <+: Hold.path holds)
    (spared : ∀ rest inner, path = Hold.path holds ++ rest →
      (change inner).at? rest = inner.at? rest) (inside : path ≠ []) :
    (record.changeAt holds change).at? path = record.at? path := by
  induction holds generalizing record path with
  | nil => exact spared path record rfl
  | cons hold holds ih =>
    obtain ⟨place, rest, rfl⟩ := List.exists_cons_of_ne_nil inside
    by_cases same : hold.place = place
    · subst same
      have deeper : rest ≠ [] := by
        rintro rfl
        exact apart (List.prefix_append [hold.place] (Hold.path holds))
      obtain ⟨next, further, rfl⟩ := List.exists_cons_of_ne_nil deeper
      rw [at?_changeAt_self, ← at?_child record hold.place next hold.schema]
      apply ih
      · intro before
        exact apart (List.cons_prefix_cons.2 ⟨rfl, before⟩)
      · intro other inner split
        exact spared other inner (by rw [split]; rfl)
      · exact deeper
    · exact at?_changeAt_of_ne same holds change record rest

/-- What is found at the end of some holds after a change is what the change made of a record. -/
theorem exists_at?_changeAt (change : Record → Record) (holds : List Hold) (record : Record) :
    ∃ inner, ∀ rest, (record.changeAt holds change).at? (Hold.path holds ++ rest) =
      (change inner).at? rest := by
  induction holds generalizing record with
  | nil => exact ⟨record, fun rest => rfl⟩
  | cons hold holds ih =>
    obtain ⟨inner, found⟩ := ih (record.child hold.place hold.schema)
    refine ⟨inner, ?_⟩
    intro rest
    rw [← found rest]
    exact at?_changeAt_self hold holds change record (Hold.path holds ++ rest)

/-- A change that keeps all records that are held keeps them wherever it is made. -/
theorem isSome_at?_changeAt {change : Record → Record}
    (keeps : ∀ inner path, (inner.at? (Hold.path path)).isSome →
      ((change inner).at? (Hold.path path)).isSome) (holds : List Hold) {record : Record}
    {path : List Hold} (there : (record.at? (Hold.path path)).isSome) :
    ((record.changeAt holds change).at? (Hold.path path)).isSome := by
  induction holds generalizing record path with
  | nil => exact keeps record path there
  | cons hold holds ih =>
    cases path with
    | nil => rfl
    | cons next rest =>
      rw [Hold.path, List.map_cons] at there ⊢
      by_cases same : hold.place = next.place
      · rw [← same] at there ⊢
        rw [at?_changeAt_self]
        apply ih
        cases rest with
        | nil => rfl
        | cons further deeper =>
          rw [Hold.path, List.map_cons, at?_child]
          exact there
      · rw [at?_changeAt_of_ne same]
        exact there

end Record

/-! ### Performing visits -/

namespace Visit

variable {record : Record} {path : List Place}

@[simp] theorem performAll_cons (visit : Visit) (visits : List Visit) (record : Record) :
    performAll (visit :: visits) record = performAll visits (visit.perform record) := rfl

theorem performAll_append (front back : List Visit) (record : Record) :
    performAll (front ++ back) record = performAll back (performAll front record) :=
  List.foldl_append

theorem firstError?_append (front back : List Visit) :
    firstError? (front ++ back) = (firstError? front).or (firstError? back) :=
  List.findSome?_append

theorem beforeFailure_append_of_none {front : List Visit} (none : firstError? front = none)
    (back : List Visit) : beforeFailure (front ++ back) = front ++ beforeFailure back := by
  apply List.takeWhile_append_of_pos
  intro visit member
  rw [List.findSome?_eq_none_iff.1 none visit member]
  rfl

theorem beforeFailure_of_none {visits : List Visit} (none : firstError? visits = none) :
    beforeFailure visits = visits := by
  have all := beforeFailure_append_of_none none []
  rwa [show beforeFailure [] = [] from rfl, List.append_nil] at all

theorem beforeFailure_append_of_some {front : List Visit} {error : MatchError}
    (failed : firstError? front = some error) (back : List Visit) :
    beforeFailure (front ++ back) = beforeFailure front := by
  induction front with
  | nil => cases failed
  | cons visit rest ih =>
    rw [firstError?, List.findSome?_cons] at failed
    unfold beforeFailure at ih ⊢
    rw [List.cons_append, List.takeWhile_cons, List.takeWhile_cons]
    cases fails : visit.error? with
    | some other => rfl
    | none =>
      rw [fails] at failed
      rw [ih failed]

theorem at?_perform {visit : Visit} (inside : path ≠ []) (untouched : ¬visit.Touches path) :
    (visit.perform record).at? path = record.at? path := by
  cases visit with
  | fail error => rfl
  | enter holds => exact Record.at?_changeAt holds untouched (fun _ _ _ => rfl) inside
  | write holds place content =>
    have aside : ¬path <+: Hold.path holds := fun before =>
      untouched (.inl (before.trans (List.prefix_append _ _)))
    apply Record.at?_changeAt holds aside _ inside
    rintro rest inner rfl
    cases rest with
    | nil => simp at aside
    | cons next deeper =>
      have different : place ≠ next := by
        rintro rfl
        apply untouched
        right
        exact ⟨deeper, by rw [List.append_assoc]; rfl⟩
      rw [Record.at?_cons, Record.at?_cons, Record.get?_set_of_ne inner different]

theorem at?_performAll {visits : List Visit} (inside : path ≠ [])
    (untouched : ∀ visit ∈ visits, ¬visit.Touches path) :
    (performAll visits record).at? path = record.at? path := by
  induction visits generalizing record with
  | nil => rfl
  | cons visit rest ih =>
    rw [performAll_cons, ih fun other member => untouched other (List.mem_cons_of_mem _ member)]
    exact at?_perform inside (untouched visit List.mem_cons_self)

theorem at?_perform_write (holds : List Hold) (place : Place) (content : Content) :
    ((write holds place content).perform record).at? (Hold.path holds ++ [place]) =
      some content := by
  obtain ⟨inner, found⟩ := Record.exists_at?_changeAt (·.set place content) holds record
  rw [perform, found, Record.at?_cons, Record.get?_set_self]
  rfl

theorem isSome_at?_perform_enter (holds : List Hold) :
    (((enter holds).perform record).at? (Hold.path holds)).isSome := by
  obtain ⟨inner, found⟩ := Record.exists_at?_changeAt id holds record
  rw [perform, ← List.append_nil (Hold.path holds), found]
  rfl

/-- A visit writes to no place where a record is held that fields are visited of. -/
def IsLeaf : Visit → Prop
  | write _ place _ => ∀ hold : Hold, place ≠ hold.place
  | _ => True

theorem isSome_at?_perform {visit : Visit} (leaf : visit.IsLeaf) {holds : List Hold}
    (there : (record.at? (Hold.path holds)).isSome) :
    ((visit.perform record).at? (Hold.path holds)).isSome := by
  cases visit with
  | fail error => exact there
  | enter others => exact Record.isSome_at?_changeAt (fun _ _ found => found) others there
  | write others place content =>
    apply Record.isSome_at?_changeAt _ others there
    intro inner path found
    cases path with
    | nil => rfl
    | cons hold rest =>
      rw [Hold.path, List.map_cons, Record.at?_cons, Record.get?_set_of_ne inner (leaf hold)]
      exact found

theorem isSome_at?_performAll {visits : List Visit} (leaves : ∀ visit ∈ visits, visit.IsLeaf)
    {holds : List Hold} (there : (record.at? (Hold.path holds)).isSome) :
    ((performAll visits record).at? (Hold.path holds)).isSome := by
  induction visits generalizing record with
  | nil => exact there
  | cons visit rest ih =>
    apply ih fun other member => leaves other (List.mem_cons_of_mem _ member)
    exact isSome_at?_perform (leaves visit List.mem_cons_self) there

/-! ### Visits to a record that is held -/

@[simp] theorem error?_within (holds : List Hold) (visit : Visit) :
    (visit.within holds).error? = visit.error? := by
  cases visit <;> rfl

theorem firstError?_within (holds : List Hold) (visits : List Visit) :
    firstError? (visits.map (within holds)) = firstError? visits := by
  rw [firstError?, List.findSome?_map]
  simp only [Function.comp_def, error?_within, firstError?]

theorem beforeFailure_within (holds : List Hold) (visits : List Visit) :
    beforeFailure (visits.map (within holds)) = (beforeFailure visits).map (within holds) := by
  rw [beforeFailure, List.takeWhile_map]
  simp only [Function.comp_def, error?_within, beforeFailure]

theorem perform_within (holds : List Hold) (visit : Visit) (change : Record → Record) :
    (visit.within holds).perform (record.changeAt holds change) =
      record.changeAt holds fun inner => visit.perform (change inner) := by
  cases visit with
  -- a failure makes no record, but those on the way are there once something has been changed
  | fail error => rfl
  | write inner place content =>
    rw [within, perform, Record.changeAt_append, Record.changeAt_changeAt]
    rfl
  | enter inner =>
    rw [within, perform, Record.changeAt_append, Record.changeAt_changeAt]
    rfl

theorem performAll_within (holds : List Hold) (visits : List Visit) (change : Record → Record) :
    performAll (visits.map (within holds)) (record.changeAt holds change) =
      record.changeAt holds fun inner => performAll visits (change inner) := by
  induction visits generalizing change with
  | nil => rfl
  | cons visit rest ih =>
    rw [List.map_cons, performAll_cons, perform_within, ih]
    rfl

end Visit

end SchemaMatch
