import SchemaMatch.Proofs.Compilation.Inversion
import SchemaMatch.Proofs.Compilation.Reach
import SchemaMatch.Proofs.Compilation.Twins
import Mathlib.Data.List.Pairwise

/-!
# Revised schemas

A revision of a family of schemas inserts positions and turns captured texts into separators, at any
places of any schemas. What a revision changes has a destination of its own. A root and its revision
are laid out as twins: the main statement is `Scope.IsRevision.twins`.
-/

namespace SchemaMatch

/-- What a revision does with one field. -/
inductive Edit
  | kept (field : Field)
  /-- A captured text becomes a separator with the same fragment. -/
  | released (name fragment : String) (type : ScalarType) (dest : Nat)
  /-- A position is put in. -/
  | inserted (name : String) (dest : Nat)
  deriving DecidableEq, Repr

namespace Edit

def before? : Edit → Option Field
  | kept field => some field
  | released name fragment type dest => some ⟨name, .scalar fragment type, dest⟩
  | inserted _ _ => none

/-- The field after the revision. -/
def after : Edit → Field
  | kept field => field
  | released _ fragment _ _ => .separator fragment
  | inserted name dest => ⟨name, .position, dest⟩

/-- The destination that is written to before the revision or after it. -/
def place? : Edit → Option Place
  | kept field => field.place?
  | released name fragment type dest => (Field.mk name (.scalar fragment type) dest).place?
  | inserted _ dest => some ⟨dest, .position⟩

def isKept : Edit → Bool
  | kept _ => true
  | _ => false

theorem eq_kept {edit : Edit} {field : Field} (edited : edit.after = field)
    (separates : ∀ fragment, field.kind ≠ .separator fragment) (marks : field.kind ≠ .position) :
    edit = .kept field := by
  subst edited
  cases edit with
  | kept field => rfl
  | released name fragment type dest => exact absurd rfl (separates fragment)
  | inserted name dest => exact absurd rfl marks

/-- Two edits have destinations of their own, unless they both leave things as they are. -/
def Apart (one two : Edit) : Prop :=
  (one.isKept = true ∧ two.isKept = true) ∨ ∀ place ∈ one.place?, place ∉ two.place?

instance (one two : Edit) : Decidable (one.Apart two) :=
  inferInstanceAs (Decidable (_ ∨ _))

instance : Std.Symm Apart where
  symm one two apart := by
    rcases apart with ⟨first, second⟩ | differ
    · exact .inl ⟨second, first⟩
    · exact .inr fun place here there => differ place there here

end Edit

def Family.writes (family : Family) (id : SchemaId) (place : Place) : Bool :=
  (family.schema id).fields.any fun field => field.place? = some place

namespace Scope

/-- The destinations that two versions of a schema both write to. -/
def shares (scope revised : Scope) (id : SchemaId) (place : Place) : Bool :=
  scope.family.writes id place && revised.family.writes id place

/-- One scope revises another: every schema is edited field by field, and capabilities have the same
variants. -/
structure IsRevision (scope : Scope) (edits : SchemaId → List Edit) (revised : Scope) : Prop where
  before : ∀ id, (scope.family.schema id).fields = (edits id).filterMap Edit.before?
  after : ∀ id, (revised.family.schema id).fields = (edits id).map Edit.after
  apart : ∀ id, (edits id).Pairwise Edit.Apart
  variants : ∀ capability,
    revised.registry.variants? capability = scope.registry.variants? capability
  options : revised.options = scope.options

end Scope

/-- An edit keeps to the shared destinations of a schema: kept fields write there, others do not. -/
def Edit.Respects (shared : Place → Bool) (edit : Edit) : Prop :=
  ∀ place ∈ edit.place?, shared place = edit.isKept

section Respects

variable {scope revised : Scope} {edits : SchemaId → List Edit} {id : SchemaId}

theorem Family.writes_iff {family : Family} {place : Place} :
    family.writes id place = true ↔
      ∃ field ∈ (family.schema id).fields, field.place? = some place := by
  simp [Family.writes]

theorem Field.place?_of_nested {field : Field} {marker : String} {holder : Holder}
    (kind : field.kind = .nested marker holder id) :
    field.place? = some ⟨field.dest, .nested holder id⟩ := by
  rw [Field.place?, kind]

theorem Scope.IsRevision.respects (revision : scope.IsRevision edits revised) {edit : Edit}
    (member : edit ∈ edits id) : edit.Respects (scope.shares revised id) := by
  intro place writes
  have alone {other : Edit} (among : other ∈ edits id) (differs : edit ≠ other)
      (changed : edit.isKept = false) (same : other.place? = some place) : False := by
    rcases (revision.apart id).forall member among differs with
      ⟨kept, _⟩ | apart
    · rw [changed] at kept
      cases kept
    · exact apart place writes same
  cases edit with
  | kept field =>
    have before : scope.family.writes id place = true := by
      rw [Family.writes_iff, revision.before]
      exact ⟨field, List.mem_filterMap.2 ⟨_, member, rfl⟩, writes⟩
    have after : revised.family.writes id place = true := by
      rw [Family.writes_iff, revision.after]
      exact ⟨field, List.mem_map.2 ⟨_, member, rfl⟩, writes⟩
    rw [Scope.shares, before, after]
    rfl
  | released name fragment type dest =>
    have after : revised.family.writes id place = false := by
      rw [← Bool.not_eq_true, Family.writes_iff, revision.after]
      rintro ⟨field, listed, same⟩
      obtain ⟨other, among, rfl⟩ := List.mem_map.1 listed
      cases other with
      | released name fragment type dest => cases same
      | kept field => exact alone among (by simp) rfl same
      | inserted name dest => exact alone among (by simp) rfl same
    rw [Scope.shares, after, Bool.and_false]
    rfl
  | inserted name dest =>
    have before : scope.family.writes id place = false := by
      rw [← Bool.not_eq_true, Family.writes_iff, revision.before]
      rintro ⟨field, listed, same⟩
      obtain ⟨other, among, held⟩ := List.mem_filterMap.1 listed
      cases other with
      | inserted name dest => cases held
      | kept field =>
        cases held
        exact alone among (by simp) rfl same
      | released name fragment type dest =>
        cases held
        exact alone among (by simp) rfl same
    rw [Scope.shares, before, Bool.false_and]
    rfl

theorem Scope.IsRevision.variants_eq (revision : scope.IsRevision edits revised)
    {capability : CapabilityId} {entry other : UnionEntry}
    (before : scope.registry.lookup? capability = some entry)
    (after : revised.registry.lookup? capability = some other) :
    other.variants = entry.variants := by
  have same := revision.variants capability
  rw [Registry.variants?, Registry.variants?, before, after] at same
  exact Option.some.inj same

end Respects

namespace Compilation

/-! ### Pairing slots -/

def Separate (one two : Nat × Nat) : Prop := one.1 ≠ two.1 ∧ one.2 ≠ two.2

instance : Std.Symm Separate where
  symm _ _ apart := ⟨apart.1.symm, apart.2.symm⟩

/-- Some slots of one range are paired with some of another, none of them twice. -/
structure Aligned (first next first' next' : Nat) (pairs : List (Nat × Nat)) : Prop where
  le : first ≤ next
  le' : first' ≤ next'
  inside : ∀ pair ∈ pairs, (first ≤ pair.1 ∧ pair.1 < next) ∧ first' ≤ pair.2 ∧ pair.2 < next'
  distinct : pairs.Pairwise Separate

/-- A statement about pairs of slots is true of some pairing of two ranges, whatever is paired
outside of them. -/
def HoldsAcross (first next first' next' : Nat) (statement : (Nat → Nat → Prop) → Prop) : Prop :=
  ∃ pairs, Aligned first next first' next' pairs ∧ ∀ paired : Nat → Nat → Prop,
    (∀ slot slot', (first ≤ slot ∧ slot < next) ∨ (first' ≤ slot' ∧ slot' < next') →
      (paired slot slot' ↔ (slot, slot') ∈ pairs)) → statement paired

namespace HoldsAcross

variable {first middle next first' middle' next' slot slot' : Nat}
variable {statement other : (Nat → Nat → Prop) → Prop}

theorem imp (holds : HoldsAcross first next first' next' statement)
    (implies : ∀ ⦃paired⦄, statement paired → other paired) :
    HoldsAcross first next first' next' other := by
  obtain ⟨pairs, aligned, held⟩ := holds
  exact ⟨pairs, aligned, fun paired agrees => implies (held paired agrees)⟩

/-- What is true across two ranges and across those that follow them. -/
theorem and (front : HoldsAcross first middle first' middle' statement)
    (back : HoldsAcross middle next middle' next' other) :
    HoldsAcross first next first' next' fun paired => statement paired ∧ other paired := by
  obtain ⟨pairs, aligned, held⟩ := front
  obtain ⟨others, along, also⟩ := back
  have begins := aligned.le
  have begins' := aligned.le'
  have ends := along.le
  have ends' := along.le'
  refine ⟨pairs ++ others, ⟨by omega, by omega, fun pair member => ?_, ?_⟩,
    fun paired agrees => ⟨held paired fun slot slot' within => ?_,
      also paired fun slot slot' within => ?_⟩⟩
  · rcases List.mem_append.1 member with member | member
    · have bounds := aligned.inside pair member
      omega
    · have bounds := along.inside pair member
      omega
  · refine List.pairwise_append.2 ⟨aligned.distinct, along.distinct, fun one here two there => ?_⟩
    have low := aligned.inside one here
    have high := along.inside two there
    exact ⟨by omega, by omega⟩
  · rw [agrees slot slot' (by omega), List.mem_append, or_iff_left]
    intro member
    have bounds := along.inside _ member
    dsimp only at bounds
    omega
  · rw [agrees slot slot' (by omega), List.mem_append, or_iff_right]
    intro member
    have bounds := aligned.inside _ member
    dsimp only at bounds
    omega

theorem trivial : HoldsAcross slot slot slot' slot' fun _ => True :=
  ⟨[], ⟨Nat.le_refl _, Nat.le_refl _, nofun, .nil⟩, fun _ _ => True.intro⟩

theorem pair : HoldsAcross slot (slot + 1) slot' (slot' + 1) fun paired => paired slot slot' := by
  refine ⟨[(slot, slot')], ⟨by omega, by omega, fun pair member => ?_,
    List.pairwise_singleton _ _⟩, fun paired agrees => ?_⟩
  · cases List.mem_singleton.1 member
    dsimp only
    omega
  · exact (agrees slot slot' (by omega)).2 List.mem_cons_self

theorem alone_left : HoldsAcross slot (slot + 1) slot' slot' fun paired =>
    ∀ other, ¬paired slot other :=
  ⟨[], ⟨by omega, by omega, nofun, .nil⟩, fun paired agrees other pair =>
    nomatch (agrees slot other (by omega)).1 pair⟩

theorem alone_right : HoldsAcross slot slot slot' (slot' + 1) fun paired =>
    ∀ other, ¬paired other slot' :=
  ⟨[], ⟨by omega, by omega, nofun, .nil⟩, fun paired agrees other pair =>
    nomatch (agrees other slot' (by omega)).1 pair⟩

theorem exists_isPairing (holds : HoldsAcross first next first' next' statement) :
    ∃ paired, IsPairing paired ∧ statement paired := by
  obtain ⟨pairs, aligned, held⟩ := holds
  refine ⟨fun slot slot' => (slot, slot') ∈ pairs, ⟨?_, ?_⟩, held _ fun _ _ _ => Iff.rfl⟩
  · intro slot slot' other here there
    apply Decidable.byContradiction
    intro differs
    have apart := aligned.distinct.forall here there fun same =>
      differs (congrArg Prod.snd same).symm
    exact apart.1 rfl
  · intro slot slot' other here there
    apply Decidable.byContradiction
    intro differs
    have apart := aligned.distinct.forall here there fun same =>
      differs (congrArg Prod.fst same).symm
    exact apart.2 rfl

end HoldsAcross

/-! ### Layouts side by side -/

variable {scope revised : Scope} {edits : SchemaId → List Edit}

/-- Two pieces are twins across two ranges of slots. -/
def TwinsAcross (shared : SchemaId → Place → Bool) (first next first' next' : Nat)
    (piece piece' : Piece) : Prop :=
  HoldsAcross first next first' next' fun paired => Twins paired shared piece piece'

/-- A part of the revision is the twin of what it revises, wherever that is laid out. -/
def Part.RevisionOf (scope : Scope) (shared : SchemaId → Place → Bool) (first' next' : Nat) :
    Part → Prop
  | record id stencil' expr' => ∀ ⦃first next stencil expr⦄,
      Laid scope first (.record id stencil expr) next →
      TwinsAcross shared first next first' next' (.record stencil expr) (.record stencil' expr')
  | fields declared stencils' exprs' => ∀ ⦃id⦄ ⦃edits : List Edit⦄,
      (∀ edit ∈ edits, edit.Respects (shared id)) → edits.map Edit.after = declared →
      ∀ ⦃first next stencils exprs⦄,
      Laid scope first (.fields (edits.filterMap Edit.before?) stencils exprs) next →
      TwinsAcross shared first next first' next' (.fields id stencils exprs)
        (.fields id stencils' exprs')
  | variants schemas stencils' exprs' => ∀ ⦃first next stencils exprs⦄,
      Laid scope first (.variants schemas stencils exprs) next →
      TwinsAcross shared first next first' next' (.variants stencils exprs)
        (.variants stencils' exprs')

/-! ### One lemma for each way to lay out a part of a revision -/

namespace Part.RevisionOf

variable {first' middle' next' slot' : Nat} {id : SchemaId} {field : Field} {rest : List Field}
variable {stencils' : List FieldStencil} {exprs' : List Expr}

/-- The first field of a revised sequence may be looked at with its own edit, given the twins of the
fields that follow. -/
theorem cons {shared : SchemaId → Place → Bool} {later' : List FieldStencil} {after' : List Expr}
    (others : (Part.fields rest later' after').RevisionOf scope shared middle' next')
    (one : ∀ ⦃id edit edits⦄, edit.after = field → edit.Respects (shared id) →
      (∀ ⦃first next stencils exprs⦄,
        Laid scope first (.fields (edits.filterMap Edit.before?) stencils exprs) next →
        TwinsAcross shared first next middle' next' (.fields id stencils exprs)
          (.fields id later' after')) →
      ∀ ⦃first next stencils exprs⦄,
        Laid scope first (.fields ((edit :: edits).filterMap Edit.before?) stencils exprs) next →
        TwinsAcross shared first next first' next' (.fields id stencils exprs)
          (.fields id stencils' exprs')) :
    (Part.fields (field :: rest) stencils' exprs').RevisionOf scope shared first' next' := by
  intro id edits respects edited first next stencils exprs laid
  obtain ⟨edit, edits, rfl, here, there⟩ := List.map_eq_cons_iff.1 edited
  exact one here (respects edit List.mem_cons_self)
    (others (fun edit member => respects edit (List.mem_cons_of_mem _ member)) there) laid

theorem normalize_eq (revision : scope.IsRevision edits revised) {fragment text text' : String}
    (normal : Fragment.normalize scope.options fragment = .ok text)
    (normal' : Fragment.normalize revised.options fragment = .ok text') : text = text' := by
  rw [revision.options, normal] at normal'
  exact Except.ok.inj normal'

theorem record (revision : scope.IsRevision edits revised)
    (fields : (Part.fields (revised.family.schema id).fields stencils' exprs').RevisionOf scope
      (scope.shares revised) (slot' + 1) next') {name typeName : String} :
    (Part.record id (.mk id name typeName slot' stencils')
      (.capture slot' name (.concat exprs'))).RevisionOf scope (scope.shares revised) slot'
        next' := by
  intro slot next stencil expr laid
  cases laid with
  | record origin =>
    rw [revision.before] at origin
    have twins := fields (fun edit member => revision.respects member) (revision.after id).symm
      origin
    exact (HoldsAcross.pair.and twins).imp fun _ ⟨pair, fields⟩ => .record pair fields

theorem noFields {shared : SchemaId → Place → Bool} :
    (Part.fields [] [] []).RevisionOf scope shared slot' slot' := by
  intro id edits respects edited slot next stencils exprs laid
  cases List.map_eq_nil_iff.1 edited
  cases laid
  exact HoldsAcross.trivial.imp fun _ _ => .noFields

theorem skipped {shared : SchemaId → Place → Bool} (skips : field.matchesNothing = true)
    (later : (Part.fields rest stencils' exprs').RevisionOf scope shared slot' next') :
    (Part.fields (field :: rest) stencils' exprs').RevisionOf scope shared slot' next' := by
  refine .cons later fun id edit edits edited respects others slot next stencils exprs laid => ?_
  subst edited
  cases edit with
  | kept field => exact others (laid.of_skipped skips)
  | released name fragment type dest => exact others (laid.of_skipped skips)
  | inserted name dest => cases skips

/-- A separator is kept as it was, or was a captured text. -/
theorem separator (revision : scope.IsRevision edits revised) {fragment text' : String}
    (matched : field.matchesNothing = false) (kind : field.kind = .separator fragment)
    (normal' : Fragment.normalize revised.options fragment = .ok text')
    (later : (Part.fields rest stencils' exprs').RevisionOf scope (scope.shares revised) slot'
      next') :
    (Part.fields (field :: rest) (.separator :: stencils')
      (.fragment text' :: exprs')).RevisionOf scope (scope.shares revised) slot' next' := by
  refine .cons later fun id edit edits edited respects others slot next stencils exprs laid => ?_
  subst edited
  cases edit with
  | kept field =>
    obtain ⟨text, stencils, exprs, normal, rfl, rfl, origin⟩ := laid.of_separator matched kind
    cases normalize_eq revision normal normal'
    exact (others origin).imp fun _ twins => .separator twins
  | released name fragment type dest =>
    cases kind
    obtain ⟨representation, text, stencils, exprs, rfl, normal, rfl, rfl, origin⟩ :=
      laid.of_scalar matched rfl
    cases normalize_eq revision normal normal'
    have hidden := respects _ rfl
    exact (HoldsAcross.alone_left.and (others origin)).imp fun _ ⟨alone, twins⟩ =>
      .released alone hidden twins
  | inserted name dest => cases kind

theorem scalar (revision : scope.IsRevision edits revised) {fragment text' : String}
    {representation : Representation} (matched : field.matchesNothing = false)
    (kind : field.kind = .scalar fragment (.storable representation))
    (normal' : Fragment.normalize revised.options fragment = .ok text')
    (later : (Part.fields rest stencils' exprs').RevisionOf scope (scope.shares revised)
      (slot' + 1) next') :
    (Part.fields (field :: rest)
      (.scalar field.name slot' field.dest representation :: stencils')
      (.capture slot' field.name (.fragment text') :: exprs')).RevisionOf scope
        (scope.shares revised) slot' next' := by
  refine .cons later fun id edit edits edited respects others slot next stencils exprs laid => ?_
  cases Edit.eq_kept edited (by simp [kind]) (by simp [kind])
  obtain ⟨representation, text, stencils, exprs, type, normal, rfl, rfl, origin⟩ :=
    laid.of_scalar matched kind
  cases type
  cases normalize_eq revision normal normal'
  exact (HoldsAcross.pair.and (others origin)).imp fun _ ⟨pair, twins⟩ => .scalar pair twins

/-- A position is kept as it was, or put in. -/
theorem position {shared : SchemaId → Place → Bool} (kind : field.kind = .position)
    (later : (Part.fields rest stencils' exprs').RevisionOf scope shared (slot' + 1) next') :
    (Part.fields (field :: rest) (.position field.name slot' field.dest :: stencils')
      (.capture slot' field.name .empty :: exprs')).RevisionOf scope shared slot' next' := by
  refine .cons later fun id edit edits edited respects others slot next stencils exprs laid => ?_
  subst edited
  cases edit with
  | kept field =>
    obtain ⟨stencils, exprs, rfl, rfl, origin⟩ := laid.of_position kind
    exact (HoldsAcross.pair.and (others origin)).imp fun _ ⟨pair, twins⟩ => .position pair twins
  | released name fragment type dest => cases kind
  | inserted name dest =>
    -- nothing was laid out for it before, so what follows is the twin of all that was there
    have hidden := respects _ rfl
    exact (HoldsAcross.alone_right.and (others laid)).imp fun _ ⟨alone, twins⟩ =>
      .inserted alone hidden twins

theorem nested {shared : SchemaId → Place → Bool} {marker : String} {holder : Holder}
    {schema : SchemaId} {cardinality : Cardinality} {child' : Stencil} {expr' : Expr}
    (kind : field.kind = .nested marker holder schema)
    (means : Cardinality.ofMarker? marker = some cardinality)
    (inside : (Part.record schema child' expr').RevisionOf scope shared (slot' + 1) middle')
    (later : (Part.fields rest stencils' exprs').RevisionOf scope shared middle' next') :
    (Part.fields (field :: rest) (.nested field.name slot' field.dest holder child' :: stencils')
      (.capture slot' field.name (withCardinality cardinality expr') :: exprs')).RevisionOf scope
        shared slot' next' := by
  refine .cons later fun id edit edits edited respects others slot next stencils exprs laid => ?_
  cases Edit.eq_kept edited (by simp [kind]) (by simp [kind])
  obtain ⟨cardinality, child, expr, middle, stencils, exprs, same, inner, rfl, rfl, origin⟩ :=
    laid.of_nested kind
  cases means.symm.trans same
  have common := respects _ (Field.place?_of_nested kind)
  rw [← inner.schema_eq] at common
  exact (HoldsAcross.pair.and ((inside inner).and (others origin))).imp
    fun _ ⟨pair, twins, others⟩ => .nested pair common twins others

theorem union (revision : scope.IsRevision edits revised) {marker capabilityName : String}
    {capability : CapabilityId} {cardinality : Cardinality} {entry' : UnionEntry}
    {variants' : List Stencil} {branches' : List Expr}
    (kind : field.kind = .union marker capability)
    (means : Cardinality.ofMarker? marker = some cardinality)
    (registered' : revised.registry.lookup? capability = some entry')
    (inside : (Part.variants entry'.variants variants' branches').RevisionOf scope
      (scope.shares revised) (slot' + 1) middle')
    (later : (Part.fields rest stencils' exprs').RevisionOf scope (scope.shares revised) middle'
      next') :
    (Part.fields (field :: rest)
      (.union field.name slot' field.dest capability capabilityName variants' :: stencils')
      (.capture slot' field.name (withCardinality cardinality (.alternation branches')) ::
        exprs')).RevisionOf scope (scope.shares revised) slot' next' := by
  refine .cons later fun id edit edits edited respects others slot next stencils exprs laid => ?_
  cases Edit.eq_kept edited (by simp [kind]) (by simp [kind])
  obtain ⟨cardinality, entry, variants, branches, middle, stencils, exprs, same, registered, inner,
    rfl, rfl, origin⟩ := laid.of_union kind
  cases means.symm.trans same
  rw [revision.variants_eq registered registered'] at inside
  exact (HoldsAcross.pair.and ((inside inner).and (others origin))).imp
    fun _ ⟨pair, twins, others⟩ => .union pair twins others

theorem noVariants {shared : SchemaId → Place → Bool} :
    (Part.variants [] [] []).RevisionOf scope shared slot' slot' := by
  intro slot next stencils exprs laid
  cases laid
  exact HoldsAcross.trivial.imp fun _ _ => .noVariants

theorem variant {shared : SchemaId → Place → Bool} {schemas : List SchemaId} {stencil' : Stencil}
    {variants' : List Stencil} {expr' : Expr}
    (inside : (Part.record id stencil' expr').RevisionOf scope shared slot' middle')
    (later : (Part.variants schemas variants' exprs').RevisionOf scope shared middle' next') :
    (Part.variants (id :: schemas) (stencil' :: variants') (expr' :: exprs')).RevisionOf scope
      shared slot' next' := by
  intro slot next stencils exprs laid
  cases laid with
  | variant one more =>
    exact ((inside one).and (later more)).imp fun _ ⟨twin, twins⟩ => .variant twin twins

end Part.RevisionOf

theorem Laid.revisionOf (revision : scope.IsRevision edits revised) {first' next' : Nat}
    {part : Part} (laid : Laid revised first' part next') :
    part.RevisionOf scope (scope.shares revised) first' next' := by
  induction laid with
  | record fields ih => exact .record revision ih
  | noFields => exact .noFields
  | skipped skips rest ih => exact .skipped skips ih
  | separator matched kind normal rest ih => exact .separator revision matched kind normal ih
  | scalar matched kind normal rest ih => exact .scalar revision matched kind normal ih
  | position kind rest ih => exact .position kind ih
  | nested kind means fits inside rest held others => exact .nested kind means held others
  | union kind means registered inside rest held others =>
    exact .union revision kind means registered held others
  | noVariants => exact .noVariants
  | variant first rest held others => exact .variant held others

end Compilation

theorem Scope.IsRevision.twins {scope revised : Scope} {edits : SchemaId → List Edit}
    (revision : scope.IsRevision edits revised) {root : SchemaId} {stencil stencil' : Stencil}
    {expr expr' : Expr} (success : scope.compile root = .ok (stencil, expr))
    (success' : revised.compile root = .ok (stencil', expr')) :
    ∃ paired, Compilation.IsPairing paired ∧ Compilation.Twins paired (scope.shares revised)
      (.record stencil expr) (.record stencil' expr') := by
  obtain ⟨next, laid⟩ := Scope.laid_of_compile success
  obtain ⟨next', laid'⟩ := Scope.laid_of_compile success'
  exact (laid'.revisionOf revision laid).exists_isPairing

end SchemaMatch
