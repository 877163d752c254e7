import SchemaMatch.Proofs.Compilation.Fit
import SchemaMatch.Proofs.Compilation.Offset
import SchemaMatch.Proofs.Compilation.Twins

/-!
# What schemas cover

A schema covers stretches of a text. Its fields cover one stretch after another; a fragment covers
what it matches alone, a field that holds records what one of its schemas covers, and what may be
absent covers an empty stretch as well. There is no slot and no preference in this: the variants of
a union are all the same. The ways of a compiled tree end where the stretches of its schema do. The
main statements are `Laid.endsAsCovered` and, for the fragments in the tree, `Laid.printsAlike`.
-/

namespace SchemaMatch

open Regex (Arrival Subject)

namespace Field

variable {field : Field}

theorem fragment_of_kind {fragment : String} (matched : field.matchesNothing = false)
    (kind : field.kind = .separator fragment ∨ ∃ type, field.kind = .scalar fragment type) :
    field.fragment ≠ "" ∧ fragment = field.fragment := by
  rcases kind with kind | ⟨type, kind⟩ <;>
    simpa [matchesNothing, Field.fragment, kind] using matched

theorem not_matchesNothing_of_fragment (given : field.fragment ≠ "") :
    ¬field.matchesNothing = true := by
  cases kind : field.kind <;> simp_all [matchesNothing, fragment]

theorem marker_ne_of_fragment (given : field.fragment ≠ "") : field.marker ≠ "?" := by
  cases kind : field.kind <;> simp_all [marker, fragment]

end Field

theorem Scope.not_refers_of_fragment {scope : Scope} {field : Field} {schema : SchemaId}
    (given : field.fragment ≠ "") : ¬scope.Refers field schema := by
  cases kind : field.kind <;> simp_all [Refers, Field.fragment]

/-- What covers stretches of a text. -/
inductive Coverer
  | record (schema : SchemaId)
  | field (field : Field)
  /-- Fields, one after another. -/
  | fields (declared : List Field)

/-- A stretch of a subject is covered, from one position up to another. -/
inductive Scope.Covers (scope : Scope) (subject : Subject) : Coverer → Nat → Nat → Prop
  | record {id : SchemaId} {start stop : Nat}
      (fields : Covers scope subject (.fields (scope.family.schema id).fields) start stop) :
      Covers scope subject (.record id) start stop
  | noFields {start : Nat} : Covers scope subject (.fields []) start start
  | cons {field : Field} {declared : List Field} {start middle stop : Nat}
      (first : Covers scope subject (.field field) start middle)
      (rest : Covers scope subject (.fields declared) middle stop) :
      Covers scope subject (.fields (field :: declared)) start stop
  | skipped {field : Field} {start : Nat} (skips : field.matchesNothing = true) :
      Covers scope subject (.field field) start start
  | fragment {field : Field} {text : String} {arrival : Arrival} {start stop : Nat}
      (given : field.fragment ≠ "")
      (normal : Fragment.normalize scope.options field.fragment = .ok text)
      (matched : arrival ∈
        (Expr.fragmentTerm scope.options text).arrivals subject (.initial start))
      (ends : arrival.position = stop) :
      Covers scope subject (.field field) start stop
  | position {field : Field} {start : Nat} (kind : field.kind = .position) :
      Covers scope subject (.field field) start start
  | held {field : Field} {schema : SchemaId} {start stop : Nat}
      (refers : scope.Refers field schema)
      (inside : Covers scope subject (.record schema) start stop) :
      Covers scope subject (.field field) start stop
  | absent {field : Field} {start : Nat} (optional : field.marker = "?") :
      Covers scope subject (.field field) start start

namespace Scope

variable {scope : Scope} {subject : Subject} {start stop : Nat}

theorem covers_record_iff {id : SchemaId} :
    scope.Covers subject (.record id) start stop ↔
      scope.Covers subject (.fields (scope.family.schema id).fields) start stop :=
  ⟨fun | .record fields => fields, .record⟩

theorem covers_nil_iff : scope.Covers subject (.fields []) start stop ↔ stop = start :=
  ⟨fun | .noFields => rfl, fun same => same ▸ .noFields⟩

theorem covers_cons_iff {field : Field} {declared : List Field} :
    scope.Covers subject (.fields (field :: declared)) start stop ↔
      ∃ middle, scope.Covers subject (.field field) start middle ∧
        scope.Covers subject (.fields declared) middle stop :=
  ⟨fun | .cons first rest => ⟨_, first, rest⟩, fun ⟨_, first, rest⟩ => .cons first rest⟩

theorem covers_iff_of_skipped {field : Field} (skips : field.matchesNothing = true) :
    scope.Covers subject (.field field) start stop ↔ stop = start := by
  constructor
  · intro covers
    cases covers with
    | fragment given => exact absurd skips (Field.not_matchesNothing_of_fragment given)
    | held refers => exact absurd refers (not_refers_of_matchesNothing skips)
    | _ => rfl
  · rintro rfl
    exact .skipped skips

theorem covers_iff_of_fragment {field : Field} {text : String} (given : field.fragment ≠ "")
    (normal : Fragment.normalize scope.options field.fragment = .ok text) :
    scope.Covers subject (.field field) start stop ↔
      ∃ arrival ∈ (Expr.fragmentTerm scope.options text).arrivals subject (.initial start),
        arrival.position = stop := by
  constructor
  · intro covers
    cases covers with
    | skipped skips => exact absurd skips (Field.not_matchesNothing_of_fragment given)
    | fragment _ normal' among ends =>
      cases normal.symm.trans normal'
      exact ⟨_, among, ends⟩
    | position kind => simp [Field.fragment, kind] at given
    | held refers => exact absurd refers (not_refers_of_fragment given)
    | absent optional => exact absurd optional (Field.marker_ne_of_fragment given)
  · rintro ⟨arrival, among, ends⟩
    exact .fragment given normal among ends

theorem covers_iff_of_position {field : Field} (kind : field.kind = .position) :
    scope.Covers subject (.field field) start stop ↔ stop = start := by
  constructor
  · intro covers
    cases covers with
    | fragment given => simp [Field.fragment, kind] at given
    | held refers => simp only [Refers, kind] at refers
    | _ => rfl
  · rintro rfl
    exact .position kind

theorem covers_iff_of_holds {field : Field} (role : field.role = .nested ∨ field.role = .union) :
    scope.Covers subject (.field field) start stop ↔
      (∃ schema, scope.Refers field schema ∧ scope.Covers subject (.record schema) start stop) ∨
        field.marker = "?" ∧ stop = start := by
  constructor
  · intro covers
    cases covers with
    | skipped skips => cases kind : field.kind <;> simp_all [Field.matchesNothing, Field.role]
    | fragment given => cases kind : field.kind <;> simp_all [Field.fragment, Field.role]
    | position kind => simp [Field.role, kind] at role
    | held refers inside => exact .inl ⟨_, refers, inside⟩
    | absent optional => exact .inr ⟨optional, rfl⟩
  · rintro (⟨schema, refers, inside⟩ | ⟨optional, rfl⟩)
    · exact .held refers inside
    · exact .absent optional

end Scope

namespace Compilation

open SchemaMatch.Expr (waysAll waysAny)

/-! ### Where ways end -/

/-- One of some ways ends at a position. -/
def EndsAt (ways : List Arrival) (stop : Nat) : Prop :=
  ∃ way ∈ ways, way.position = stop

section Ways

variable {options : Options} {subject : Subject} {start : Arrival} {stop : Nat} {expr : Expr}

theorem exists_endsAt_iff {ways : List Arrival} : (∃ stop, EndsAt ways stop) ↔ ways ≠ [] := by
  constructor
  · rintro ⟨stop, way, member, _⟩
    exact List.ne_nil_of_mem member
  · intro given
    obtain ⟨way, member⟩ := List.exists_mem_of_ne_nil ways given
    exact ⟨way.position, way, member, rfl⟩

theorem endsAt_singleton {way : Arrival} : EndsAt [way] stop ↔ stop = way.position := by
  simp [EndsAt, eq_comm]

theorem endsAt_append {ways others : List Arrival} :
    EndsAt (ways ++ others) stop ↔ EndsAt ways stop ∨ EndsAt others stop := by
  simp only [EndsAt, List.mem_append, or_and_right, exists_or]

theorem endsAt_map {ways : List Arrival} {record : Arrival → Arrival}
    (stays : ∀ way, (record way).position = way.position) :
    EndsAt (ways.map record) stop ↔ EndsAt ways stop := by
  simp only [EndsAt, List.mem_map, exists_exists_and_eq_and, stays]

theorem endsAt_fragment {text : String} :
    EndsAt ((Expr.fragment text).ways options subject start) stop ↔
      ∃ arrival ∈ (Expr.fragmentTerm options text).arrivals subject (.initial start.position),
        arrival.position = stop := by
  rw [Expr.ways]
  exact endsAt_map fun _ => rfl

theorem endsAt_capture {slot : Nat} {name : String} :
    EndsAt ((Expr.capture slot name expr).ways options subject start) stop ↔
      EndsAt (expr.ways options subject start) stop := by
  rw [Expr.ways]
  exact endsAt_map fun _ => rfl

theorem endsAt_withCardinality {cardinality : Cardinality} {marker : String}
    (means : Cardinality.ofMarker? marker = some cardinality) :
    EndsAt ((withCardinality cardinality expr).ways options subject start) stop ↔
      EndsAt (expr.ways options subject start) stop ∨ marker = "?" ∧ stop = start.position := by
  cases cardinality with
  | required =>
    have present : marker ≠ "?" := by
      rintro rfl
      cases means
    rw [withCardinality, or_iff_left fun absent => present absent.1]
  | optional =>
    rw [withCardinality, Expr.ways, endsAt_append, endsAt_singleton,
      and_iff_right (marker_eq_of_optional means)]

theorem endsAt_waysAll_cons {exprs : List Expr} :
    EndsAt (waysAll options subject (expr :: exprs) start) stop ↔
      ∃ middle ∈ expr.ways options subject start,
        EndsAt (waysAll options subject exprs middle) stop := by
  simp only [EndsAt, waysAll, List.mem_flatMap]
  constructor
  · rintro ⟨way, ⟨middle, among, member⟩, ends⟩
    exact ⟨middle, among, way, member, ends⟩
  · rintro ⟨middle, among, way, member, ends⟩
    exact ⟨way, ⟨middle, among, member⟩, ends⟩

end Ways

variable {scope : Scope} {subject : Subject} {slot next : Nat} {part : Part}

/-- The ways of a tree end where some coverer covers from the same start. -/
def CoversLike (scope : Scope) (subject : Subject) (coverer : Coverer) (expr : Expr) : Prop :=
  ∀ start stop, EndsAt (expr.ways scope.options subject start) stop ↔
    scope.Covers subject coverer start.position stop

/-- The ways of the trees of a part end where what it is laid out for covers. -/
def Part.EndsAsCovered (scope : Scope) (subject : Subject) : Part → Prop
  | record id _ expr => CoversLike scope subject (.record id) expr
  | fields declared _ exprs => ∀ start stop,
      EndsAt (waysAll scope.options subject exprs start) stop ↔
        scope.Covers subject (.fields declared) start.position stop
  | variants schemas _ exprs => ∀ start stop,
      EndsAt (waysAny scope.options subject exprs start) stop ↔
        ∃ schema ∈ schemas, scope.Covers subject (.record schema) start.position stop

theorem Part.EndsAsCovered.cons {field : Field} {declared : List Field}
    {stencils stencils' : List FieldStencil} {expr : Expr} {exprs : List Expr}
    (first : CoversLike scope subject (.field field) expr)
    (rest : (Part.fields declared stencils exprs).EndsAsCovered scope subject) :
    (Part.fields (field :: declared) stencils' (expr :: exprs)).EndsAsCovered scope subject := by
  intro start stop
  rw [endsAt_waysAll_cons, Scope.covers_cons_iff]
  constructor
  · rintro ⟨middle, among, ends⟩
    exact ⟨middle.position, (first start middle.position).1 ⟨middle, among, rfl⟩,
      (rest middle stop).1 ends⟩
  · rintro ⟨position, covers, others⟩
    obtain ⟨middle, among, rfl⟩ := (first start position).2 covers
    exact ⟨middle, among, (rest middle stop).2 others⟩

/-- Every way through what is laid out ends where that covers, and there is a way for each stretch
that is covered. -/
theorem Laid.endsAsCovered (subject : Subject) (laid : Laid scope slot part next) :
    part.EndsAsCovered scope subject := by
  induction laid with
  | record fields ih =>
    intro start stop
    rw [endsAt_capture, Scope.covers_record_iff, Expr.ways]
    exact ih start stop
  | noFields =>
    intro start stop
    rw [waysAll, endsAt_singleton, Scope.covers_nil_iff]
  | skipped skips rest ih =>
    intro start stop
    rw [ih start stop]
    simp only [Scope.covers_cons_iff, Scope.covers_iff_of_skipped skips, exists_eq_left]
  | separator matched kind normal rest ih =>
    obtain ⟨given, rfl⟩ := Field.fragment_of_kind matched (.inl kind)
    refine .cons (fun start stop => ?_) ih
    rw [endsAt_fragment, Scope.covers_iff_of_fragment given normal]
  | scalar matched kind normal rest ih =>
    obtain ⟨given, rfl⟩ := Field.fragment_of_kind matched (.inr ⟨_, kind⟩)
    refine .cons (fun start stop => ?_) ih
    rw [endsAt_capture, endsAt_fragment, Scope.covers_iff_of_fragment given normal]
  | position kind rest ih =>
    refine .cons (fun start stop => ?_) ih
    rw [endsAt_capture, Scope.covers_iff_of_position kind]
    exact endsAt_singleton
  | nested kind means fits inside rest held others =>
    refine .cons (fun start stop => ?_) others
    rw [endsAt_capture, endsAt_withCardinality means, held start stop,
      Scope.covers_iff_of_holds (.inl (by rw [Field.role, kind]))]
    simp only [Scope.Refers, Field.marker, kind, exists_eq_left']
  | union kind means registered inside rest held others =>
    refine .cons (fun start stop => ?_) others
    rw [endsAt_capture, endsAt_withCardinality means, Expr.ways, held start stop,
      Scope.covers_iff_of_holds (.inr (by rw [Field.role, kind]))]
    simp only [Scope.Refers, Field.marker, kind, registered, Option.some.injEq, exists_eq_left']
  | noVariants =>
    intro start stop
    simp [waysAny, EndsAt]
  | variant first rest held others =>
    intro start stop
    rw [waysAny, endsAt_append, held start stop, others start stop]
    simp only [List.mem_cons, or_and_right, exists_or, exists_eq_left]

end Compilation

/-! ### What is printed -/

namespace Scope

/-- A text is the normal form of the fragment of a field. -/
def PrintsOwn (scope : Scope) (field : Field) (text : String) : Prop :=
  field.fragment ≠ "" ∧ Fragment.normalize scope.options field.fragment = .ok text

/-- A text is the normal form of a fragment of a schema that a root visits. -/
def Prints (scope : Scope) (root : SchemaId) (text : String) : Prop :=
  ∃ id, scope.Visits root id ∧
    ∃ field ∈ (scope.family.schema id).fields, scope.PrintsOwn field text

/-- A text is the normal form of the fragment of a field, or of one inside the schemas that the
field holds records of. -/
def PrintsWithin (scope : Scope) (field : Field) (text : String) : Prop :=
  scope.PrintsOwn field text ∨ ∃ schema, scope.Refers field schema ∧ scope.Prints schema text

variable {scope : Scope} {root : SchemaId} {field : Field} {text : String}

theorem visits_iff_eq_or {id : SchemaId} :
    scope.Visits root id ↔ id = root ∨ ∃ field ∈ (scope.family.schema root).fields,
      ∃ schema, scope.Refers field schema ∧ scope.Visits schema id := by
  constructor
  · intro visits
    -- A further step is one from the root, or one from inside a field of the root.
    have step {id other : SchemaId} {field : Field}
        (before : id = root ∨ ∃ field ∈ (scope.family.schema root).fields,
          ∃ schema, scope.Refers field schema ∧ scope.Visits schema id)
        (member : field ∈ (scope.family.schema id).fields) (refers : scope.Refers field other) :
        ∃ field ∈ (scope.family.schema root).fields,
          ∃ schema, scope.Refers field schema ∧ scope.Visits schema other := by
      rcases before with rfl | ⟨outer, declared, schema, held, visits⟩
      · exact ⟨field, member, other, refers, .root⟩
      · exact ⟨outer, declared, schema, held, visits.refers member refers⟩
    induction visits with
    | root => exact .inl rfl
    | nested _ member kind ih => exact .inr (step ih member (by simp only [Refers, kind]))
    | variant _ member kind registered listed ih =>
      refine .inr (step ih member ?_)
      simp only [Refers, kind]
      exact ⟨_, registered, listed⟩
  · rintro (rfl | ⟨field, member, schema, refers, visits⟩)
    · exact .root
    · exact (Visits.root.refers member refers).trans visits

theorem prints_iff :
    scope.Prints root text ↔
      ∃ field ∈ (scope.family.schema root).fields, scope.PrintsWithin field text := by
  constructor
  · rintro ⟨id, visits, field, member, own⟩
    rcases visits_iff_eq_or.1 visits with rfl | ⟨outer, declared, schema, refers, further⟩
    · exact ⟨field, member, .inl own⟩
    · exact ⟨outer, declared, .inr ⟨schema, refers, id, further, field, member, own⟩⟩
  · rintro ⟨field, member, own | ⟨schema, refers, id, visits, inner, declared, own⟩⟩
    · exact ⟨root, .root, field, member, own⟩
    · exact ⟨id, (Visits.root.refers member refers).trans visits, inner, declared, own⟩

theorem not_printsWithin_of_skipped (skips : field.matchesNothing = true) :
    ¬scope.PrintsWithin field text := by
  rintro (⟨given, _⟩ | ⟨schema, refers, _⟩)
  · exact Field.not_matchesNothing_of_fragment given skips
  · exact not_refers_of_matchesNothing skips refers

theorem printsWithin_iff_of_fragment {normal : String} (given : field.fragment ≠ "")
    (means : Fragment.normalize scope.options field.fragment = .ok normal) :
    scope.PrintsWithin field text ↔ text = normal := by
  simp [PrintsWithin, PrintsOwn, given, means, not_refers_of_fragment given, eq_comm]

/-- A field without a fragment prints what the schemas that it holds records of print. -/
theorem printsWithin_iff_of_role (role : field.role ≠ .scalar) :
    scope.PrintsWithin field text ↔
      ∃ schema, scope.Refers field schema ∧ scope.Prints schema text := by
  refine or_iff_right ?_
  rintro ⟨given, _⟩
  cases kind : field.kind <;> simp_all [Field.role, Field.fragment]

end Scope

namespace Compilation

variable {scope : Scope} {slot next : Nat} {part : Part}

/-- The fragments of the trees of a part are what its schemas print. -/
def Part.PrintsAlike (scope : Scope) : Part → Prop
  | record id _ expr => ∀ text, text ∈ expr.fragments ↔ scope.Prints id text
  | fields declared _ exprs => ∀ text, text ∈ Expr.fragmentsAll exprs ↔
      ∃ field ∈ declared, scope.PrintsWithin field text
  | variants schemas _ exprs => ∀ text, text ∈ Expr.fragmentsAll exprs ↔
      ∃ schema ∈ schemas, scope.Prints schema text

theorem Part.PrintsAlike.cons {field : Field} {declared : List Field}
    {stencils stencils' : List FieldStencil} {expr : Expr} {exprs : List Expr}
    (first : ∀ text, text ∈ expr.fragments ↔ scope.PrintsWithin field text)
    (rest : (Part.fields declared stencils exprs).PrintsAlike scope) :
    (Part.fields (field :: declared) stencils' (expr :: exprs)).PrintsAlike scope := by
  intro text
  rw [Expr.fragmentsAll_cons, List.mem_append, first text, rest text]
  simp only [List.mem_cons, or_and_right, exists_or, exists_eq_left]

/-- The trees of what is laid out are made of the fragments of the schemas that are visited. -/
theorem Laid.printsAlike (laid : Laid scope slot part next) : part.PrintsAlike scope := by
  induction laid with
  | record fields ih =>
    intro text
    rw [Expr.fragments_capture, Expr.fragments_concat, Scope.prints_iff]
    exact ih text
  | noFields =>
    intro text
    simp
  | skipped skips rest ih =>
    intro text
    rw [ih text]
    simp only [List.mem_cons, or_and_right, exists_or, exists_eq_left,
      Scope.not_printsWithin_of_skipped skips, false_or]
  | separator matched kind normal rest ih =>
    obtain ⟨given, rfl⟩ := Field.fragment_of_kind matched (.inl kind)
    refine .cons (fun text => ?_) ih
    rw [Expr.fragments_fragment, List.mem_singleton,
      Scope.printsWithin_iff_of_fragment given normal]
  | scalar matched kind normal rest ih =>
    obtain ⟨given, rfl⟩ := Field.fragment_of_kind matched (.inr ⟨_, kind⟩)
    refine .cons (fun text => ?_) ih
    rw [Expr.fragments_capture, Expr.fragments_fragment, List.mem_singleton,
      Scope.printsWithin_iff_of_fragment given normal]
  | position kind rest ih =>
    refine .cons (fun text => ?_) ih
    rw [Scope.printsWithin_iff_of_role (by simp [Field.role, kind])]
    simp [Scope.Refers, kind]
  | nested kind means fits inside rest held others =>
    refine .cons (fun text => ?_) others
    rw [Expr.fragments_capture, Expr.fragments_withCardinality, held text,
      Scope.printsWithin_iff_of_role (by simp [Field.role, kind])]
    simp only [Scope.Refers, kind, exists_eq_left']
  | union kind means registered inside rest held others =>
    refine .cons (fun text => ?_) others
    rw [Expr.fragments_capture, Expr.fragments_withCardinality, Expr.fragments_alternation,
      held text, Scope.printsWithin_iff_of_role (by simp [Field.role, kind])]
    simp only [Scope.Refers, kind, registered, Option.some.injEq, exists_eq_left']
  | noVariants =>
    intro text
    simp
  | variant first rest held others =>
    intro text
    rw [Expr.fragmentsAll_cons, List.mem_append, held text, others text]
    simp only [List.mem_cons, or_and_right, exists_or, exists_eq_left]

end Compilation

end SchemaMatch
