import SchemaMatch.Derive.Schema
import SchemaMatch.Proofs.Success
import Mathlib.Data.List.Forall2
import Mathlib.Data.List.ReduceOption

/-!
# Derived schemas

A schema is derived for a record with named fields if the attributes are read and no hidden field
holds a record. Then each field is declared in order, at most once. What is made of a field depends
on what its attributes say that it is, on its type and on its name; `FieldDecl.Declares` has a rule
for each case. The main statement is `Item.deriveSchema_declares`.
-/

namespace SchemaMatch.Derive

/-- How a type holds a record: in a box that may be absent, in something else that may be absent, or
as itself. Only the last names of paths count. -/
inductive TypeShape.Holds : TypeShape → Holder → Prop
  | boxed {outer inner : PathForm} {held : TypeShape} :
      Holds (.path outer "Option" (some (.path inner "Box" (some held)))) .boxed
  | optional {outer : PathForm} {held : TypeShape}
      (unboxed : ∀ inner within, held ≠ .path inner "Box" (some within)) :
      Holds (.path outer "Option" (some held)) .optional
  | direct {type : TypeShape} (present : ∀ outer held, type ≠ .path outer "Option" (some held)) :
      Holds type .direct

theorem TypeShape.lastSegment?_eq_some_iff {type : TypeShape} {name : String}
    {argument : Option TypeShape} :
    type.lastSegment? = some (name, argument) ↔ ∃ form, type = .path form name argument := by
  cases type with
  | path form last held => simp [lastSegment?]
  | bound tokens => simp [lastSegment?]
  | other => simp [lastSegment?]

theorem TypeShape.Holds.unique {type : TypeShape} {first second : Holder} (one : type.Holds first)
    (other : type.Holds second) : first = second := by
  cases one with
  | boxed =>
    cases other with
    | boxed => rfl
    | optional unboxed => exact absurd rfl (unboxed _ _)
    | direct present => exact absurd rfl (present _ _)
  | optional unboxed =>
    cases other with
    | boxed => exact absurd rfl (unboxed _ _)
    | optional => rfl
    | direct present => exact absurd rfl (present _ _)
  | direct present =>
    cases other with
    | boxed => exact absurd rfl (present _ _)
    | optional => exact absurd rfl (present _ _)
    | direct => rfl

/-- The field that a call gives access to. -/
def BuilderCall.field? : BuilderCall → Option String
  | separator _ => none
  | scalar _ _ field => some field
  | position _ field => some field
  | nested _ _ _ field => some field
  | union _ _ field => some field

namespace FieldDecl

/-- The name of a field starts with an underscore. -/
def HasHiddenName (field : FieldDecl) : Prop := ∃ rest, field.name.toList = '_' :: rest

/-- What a field is: what its attributes say, or a position if they do not say it and its type is
`Pos` without a type among its arguments. -/
inductive HasRole (field : FieldDecl) (attributes : FieldAttributes) : FieldRole → Prop
  | declared {role : FieldRole} (said : attributes.role = some role) : HasRole field attributes role
  | inferred {form : PathForm} (unsaid : attributes.role = none)
      (type : field.type = .path form "Pos" none) : HasRole field attributes .position

/-- A hidden field holds a record or a variant, which nothing is made of. -/
def HidesRecord (field : FieldDecl) (attributes : FieldAttributes) : Prop :=
  field.HasHiddenName ∧ ∃ marker, field.HasRole attributes (.nested marker) ∨
    field.HasRole attributes (.union marker)

/-- What is made of a field, if anything is. -/
inductive Declares (field : FieldDecl) (attributes : FieldAttributes) : Option BuilderCall → Prop
  | outside (roleless : ∀ role, ¬field.HasRole attributes role) : Declares field attributes none
  | separator {fragment : String} (hidden : field.HasHiddenName)
      (role : field.HasRole attributes (.scalar fragment)) :
      Declares field attributes (some (.separator fragment))
  | hiddenPosition (hidden : field.HasHiddenName) (role : field.HasRole attributes .position) :
      Declares field attributes none
  | emptyScalar (shown : ¬field.HasHiddenName) (role : field.HasRole attributes (.scalar "")) :
      Declares field attributes none
  | scalar {fragment : String} (shown : ¬field.HasHiddenName)
      (role : field.HasRole attributes (.scalar fragment)) (given : fragment ≠ "") :
      Declares field attributes
        (some (.scalar (attributes.name.getD field.name) fragment field.name))
  | position (shown : ¬field.HasHiddenName) (role : field.HasRole attributes .position) :
      Declares field attributes
        (some (.position (attributes.name.getD field.name) field.name))
  | nested {marker : String} {holder : Holder} (shown : ¬field.HasHiddenName)
      (role : field.HasRole attributes (.nested marker)) (holds : field.type.Holds holder) :
      Declares field attributes
        (some (.nested holder (attributes.name.getD field.name) marker field.name))
  | union {marker : String} (shown : ¬field.HasHiddenName)
      (role : field.HasRole attributes (.union marker)) :
      Declares field attributes
        (some (.union (attributes.name.getD field.name) marker field.name))

variable {field : FieldDecl} {attributes : FieldAttributes}

/-! ### Types, names and roles -/

theorem isPosition_iff {type : TypeShape} :
    isPosition type = true ↔ ∃ form, type = .path form "Pos" none := by
  unfold isPosition
  split
  case h_1 same => simpa using TypeShape.lastSegment?_eq_some_iff.1 same
  case h_2 different =>
    simp only [Bool.false_eq_true, false_iff]
    exact fun typed => different (TypeShape.lastSegment?_eq_some_iff.2 typed)

theorem holds_holder (type : TypeShape) : type.Holds (holder type) := by
  unfold holder
  split
  case h_1 held optional =>
    obtain ⟨outer, rfl⟩ := TypeShape.lastSegment?_eq_some_iff.1 optional
    split
    case h_1 boxed =>
      obtain ⟨inner, rfl⟩ := TypeShape.lastSegment?_eq_some_iff.1 boxed
      exact .boxed
    case h_2 unboxed =>
      exact .optional fun inner within same =>
        unboxed within (TypeShape.lastSegment?_eq_some_iff.2 ⟨inner, same⟩)
  case h_2 present =>
    exact .direct fun outer held same =>
      present held (TypeShape.lastSegment?_eq_some_iff.2 ⟨outer, same⟩)

theorem isHidden_iff : field.isHidden = true ↔ field.HasHiddenName := by
  rw [isHidden, String.startsWith_string_iff]
  constructor
  · rintro ⟨rest, same⟩
    exact ⟨rest, same.symm⟩
  · rintro ⟨rest, same⟩
    exact ⟨rest, same.symm⟩

theorem role?_eq_some_iff {role : FieldRole} :
    field.role? attributes = some role ↔ field.HasRole attributes role := by
  unfold role?
  split
  case h_1 said given =>
    constructor
    · rintro ⟨⟩
      exact .declared given
    · intro has
      cases has with
      | declared same => rw [← given, same]
      | inferred unsaid => rw [unsaid] at given; cases given
  case h_2 unsaid =>
    split
    case isTrue typed =>
      obtain ⟨form, type⟩ := isPosition_iff.1 typed
      constructor
      · rintro ⟨⟩
        exact .inferred unsaid type
      · intro has
        cases has with
        | declared same => rw [unsaid] at same; cases same
        | inferred => rfl
    case isFalse other =>
      simp only [reduceCtorEq, false_iff]
      intro has
      cases has with
      | declared same => rw [unsaid] at same; cases same
      | inferred _ type => exact other (isPosition_iff.2 ⟨_, type⟩)

theorem HasRole.unique {first second : FieldRole} (one : field.HasRole attributes first)
    (other : field.HasRole attributes second) : first = second :=
  Option.some.inj ((role?_eq_some_iff.2 one).symm.trans (role?_eq_some_iff.2 other))

/-! ### One field -/

theorem declares_of_roleless {call : Option BuilderCall}
    (roleless : ∀ role, ¬field.HasRole attributes role) :
    field.Declares attributes call ↔ call = none := by
  constructor
  · intro declares
    cases declares with
    | outside => rfl
    | separator _ role => exact absurd role (roleless _)
    | hiddenPosition => rfl
    | emptyScalar => rfl
    | scalar _ role => exact absurd role (roleless _)
    | position _ role => exact absurd role (roleless _)
    | nested _ role => exact absurd role (roleless _)
    | union _ role => exact absurd role (roleless _)
  · rintro rfl
    exact .outside roleless

theorem declares_of_hidden {role : FieldRole} {call : Option BuilderCall}
    (hidden : field.HasHiddenName) (has : field.HasRole attributes role) :
    field.Declares attributes call ↔ hiddenCall role = .ok call := by
  constructor
  · intro declares
    cases declares with
    | outside roleless => exact absurd has (roleless role)
    | separator _ same => rw [has.unique same, hiddenCall]
    | hiddenPosition _ same => rw [has.unique same, hiddenCall]
    | emptyScalar shown => exact absurd hidden shown
    | scalar shown => exact absurd hidden shown
    | position shown => exact absurd hidden shown
    | nested shown => exact absurd hidden shown
    | union shown => exact absurd hidden shown
  · intro made
    cases role with
    | scalar fragment => cases made; exact .separator hidden has
    | position => cases made; exact .hiddenPosition hidden has
    | nested marker => cases made
    | union marker => cases made

theorem declares_of_shown {role : FieldRole} {call : Option BuilderCall}
    (shown : ¬field.HasHiddenName) (has : field.HasRole attributes role) :
    field.Declares attributes call ↔
      call = field.visibleCall (attributes.name.getD field.name) role := by
  constructor
  · intro declares
    cases declares with
    | outside roleless => exact absurd has (roleless role)
    | separator hidden => exact absurd hidden shown
    | hiddenPosition hidden => exact absurd hidden shown
    | emptyScalar _ same => rw [has.unique same]; rfl
    | scalar _ same given => simp [has.unique same, visibleCall, given]
    | position _ same => rw [has.unique same, visibleCall]
    | nested _ same holds =>
      rw [has.unique same, visibleCall, holds.unique (holds_holder field.type)]
    | union _ same => rw [has.unique same, visibleCall]
  · rintro rfl
    cases role with
    | scalar fragment =>
      by_cases empty : fragment = ""
      · subst empty
        exact .emptyScalar shown has
      · simpa [visibleCall, empty] using Declares.scalar shown has empty
    | position => exact .position shown has
    | nested marker => exact .nested shown has (holds_holder field.type)
    | union marker => exact .union shown has

/-- What is made of a field is made by the rule for it, from what its attributes say. -/
theorem call?_eq_ok_iff {call : Option BuilderCall} :
    field.call? = .ok call ↔ ∃ attributes,
      FieldAttributes.ofAttributes field.attributes = .ok attributes ∧
        field.Declares attributes call := by
  rw [call?, bind_eq_ok_iff]
  refine exists_congr fun attributes => and_congr_right fun _ => ?_
  split
  case h_1 roleless =>
    have outside : ∀ role, ¬field.HasRole attributes role := by
      intro role has
      rw [role?_eq_some_iff.2 has] at roleless
      cases roleless
    rw [declares_of_roleless outside, Except.ok.injEq, eq_comm]
  case h_2 role found =>
    have has := role?_eq_some_iff.1 found
    split
    case isTrue hidden => exact (declares_of_hidden (isHidden_iff.1 hidden) has).symm
    case isFalse shown =>
      rw [declares_of_shown (fun hidden => shown (isHidden_iff.2 hidden)) has, Except.ok.injEq,
        eq_comm]

theorem exists_declares_iff :
    (∃ call, field.Declares attributes call) ↔ ¬field.HidesRecord attributes := by
  constructor
  · rintro ⟨call, declares⟩ ⟨hidden, marker, nested | union⟩
    · cases (declares_of_hidden hidden nested).1 declares
    · cases (declares_of_hidden hidden union).1 declares
  · intro shows
    by_cases roleless : ∀ role, ¬field.HasRole attributes role
    · exact ⟨none, .outside roleless⟩
    · obtain ⟨role, has⟩ := not_forall_not.1 roleless
      by_cases hidden : field.HasHiddenName
      · cases role with
        | scalar fragment => exact ⟨_, .separator hidden has⟩
        | position => exact ⟨_, .hiddenPosition hidden has⟩
        | nested marker => exact absurd ⟨hidden, marker, .inl has⟩ shows
        | union marker => exact absurd ⟨hidden, marker, .inr has⟩ shows
      · exact ⟨_, (declares_of_shown hidden has).2 rfl⟩

theorem exists_call?_iff :
    (∃ call, field.call? = .ok call) ↔ ∃ attributes,
      FieldAttributes.ofAttributes field.attributes = .ok attributes ∧
        ¬field.HidesRecord attributes := by
  simp only [call?_eq_ok_iff, ← exists_declares_iff]
  constructor
  · rintro ⟨call, attributes, read, declares⟩
    exact ⟨attributes, read, call, declares⟩
  · rintro ⟨attributes, read, call, declares⟩
    exact ⟨call, attributes, read, declares⟩

/-- What is made of a field gives access to that field, and only if the field is not hidden. -/
theorem Declares.field?_eq {call : BuilderCall} {name : String}
    (declares : field.Declares attributes (some call)) (reached : call.field? = some name) :
    name = field.name ∧ ¬field.HasHiddenName := by
  cases declares with
  | separator => cases reached
  | scalar shown => exact ⟨(Option.some.inj reached).symm, shown⟩
  | position shown => exact ⟨(Option.some.inj reached).symm, shown⟩
  | nested shown => exact ⟨(Option.some.inj reached).symm, shown⟩
  | union shown => exact ⟨(Option.some.inj reached).symm, shown⟩

/-! ### Fields in order -/

/-- Fields are declared one after the other, and those of which nothing is made are left out. -/
theorem calls_eq_ok_iff {fields : List FieldDecl} {result : List BuilderCall} :
    calls fields = .ok result ↔ ∃ made,
      List.Forall₂ (fun field call => call? field = .ok call) fields made ∧
        result = made.reduceOption := by
  have keeps (call : Option BuilderCall) (made : List (Option BuilderCall)) :
      (call :: made).reduceOption = call.toList ++ made.reduceOption := by
    cases call <;> rfl
  induction fields generalizing result with
  | nil =>
    constructor
    · rintro ⟨⟩
      exact ⟨[], .nil, rfl⟩
    · rintro ⟨made, ⟨⟩, rfl⟩
      rfl
  | cons field rest ih =>
    simp only [calls, bind_eq_ok_iff, Except.ok.injEq]
    constructor
    · rintro ⟨call, first, others, later, rfl⟩
      obtain ⟨made, declared, rfl⟩ := ih.1 later
      exact ⟨call :: made, .cons first declared, (keeps call made).symm⟩
    · rintro ⟨_, declared, rfl⟩
      cases declared with
      | @cons _ call _ made first later =>
        exact ⟨call, first, made.reduceOption, ih.2 ⟨made, later, rfl⟩, (keeps call made).symm⟩

theorem exists_calls_iff {fields : List FieldDecl} :
    (∃ result, calls fields = .ok result) ↔ ∀ field ∈ fields, ∃ call, call? field = .ok call := by
  induction fields with
  | nil => simp [calls]
  | cons field rest ih =>
    rw [List.forall_mem_cons, ← ih]
    simp only [calls, bind_eq_ok_iff, Except.ok.injEq]
    constructor
    · rintro ⟨_, call, first, others, later, -⟩
      exact ⟨⟨call, first⟩, others, later⟩
    · rintro ⟨⟨call, first⟩, others, later⟩
      exact ⟨_, call, first, others, later, rfl⟩

end FieldDecl

/-! ### Declarations -/

namespace Item

variable {item : Item} {fields : List FieldDecl}

theorem deriveSchema_eq_ok_iff {schema : SchemaImpl}
    (body : item.body = .record (.named fields)) :
    item.deriveSchema = .ok schema ↔ ∃ name calls, declaredName item.attributes = .ok name ∧
      FieldDecl.calls fields = .ok calls ∧
        schema = ⟨item.generics, item.selfType, item.conditions, name.getD item.name, calls⟩ := by
  simp only [deriveSchema, body, Body.schemaFields, ok_bind, bind_eq_ok_iff, Except.ok.injEq]
  constructor
  · rintro ⟨name, given, calls, made, rfl⟩
    exact ⟨name, calls, given, made, rfl⟩
  · rintro ⟨name, calls, given, made, rfl⟩
    exact ⟨name, given, calls, made, rfl⟩

/-- A schema is derived for a record with named fields exactly if the attributes of the declaration
and of each field are read and no hidden field holds a record. The schema declares the fields in
their order, each by the rule for it, and what it declares reaches no hidden field. -/
theorem deriveSchema_declares (body : item.body = .record (.named fields)) :
    ((∃ schema, item.deriveSchema = .ok schema) ↔
      (∃ name, declaredName item.attributes = .ok name) ∧
        ∀ field ∈ fields, ∃ attributes,
          FieldAttributes.ofAttributes field.attributes = .ok attributes ∧
            ¬field.HidesRecord attributes) ∧
    ∀ schema, item.deriveSchema = .ok schema →
      (∃ made,
        List.Forall₂ (fun field call => ∃ attributes,
          FieldAttributes.ofAttributes field.attributes = .ok attributes ∧
            FieldDecl.Declares field attributes call) fields made ∧
        schema.calls = made.reduceOption) ∧
      ∀ call ∈ schema.calls, ∀ field ∈ fields, field.HasHiddenName →
        call.field? ≠ some field.name := by
  constructor
  · simp only [deriveSchema_eq_ok_iff body, ← FieldDecl.exists_call?_iff,
      ← FieldDecl.exists_calls_iff]
    constructor
    · rintro ⟨_, name, calls, given, made, rfl⟩
      exact ⟨⟨name, given⟩, calls, made⟩
    · rintro ⟨⟨name, given⟩, calls, made⟩
      exact ⟨_, name, calls, given, made, rfl⟩
  · intro schema derived
    obtain ⟨_, _, -, listed, rfl⟩ := (deriveSchema_eq_ok_iff body).1 derived
    obtain ⟨made, declared, rfl⟩ := FieldDecl.calls_eq_ok_iff.1 listed
    have ruled := declared.imp fun _ _ => FieldDecl.call?_eq_ok_iff.1
    refine ⟨⟨made, ruled, rfl⟩, fun call member field _ hidden reached => ?_⟩
    obtain ⟨index, found⟩ := List.mem_iff_get.1 (List.reduceOption_mem_iff.1 member)
    have within : index < fields.length :=
      Nat.lt_of_lt_of_eq index.isLt ruled.length_eq.symm
    obtain ⟨attributes, -, declares⟩ := ruled.get within index.isLt
    rw [found] at declares
    obtain ⟨same, shown⟩ := declares.field?_eq reached
    exact shown (by rwa [FieldDecl.HasHiddenName, ← same])

/-- A text captured as `words`, a hidden comma, the note after it and a position. -/
def noteFields : List FieldDecl :=
  [⟨[⟨some "restructure",
      .list [.literal ⟨"\"a\"", .string "a"⟩, .punct ',' false, .word "name", .punct '=' false,
        .literal ⟨"\"words\"", .string "words"⟩], []⟩], "text", .path .single "String" none⟩,
    ⟨[⟨some "restructure", .list [.literal ⟨"\",\"", .string ","⟩], []⟩], "_comma", .other⟩,
    ⟨[⟨some "restructure", .list [.word "optional"], []⟩], "next",
      .path .single "Option" (some (.path .single "Box" (some (.path .single "Note" none))))⟩,
    ⟨[], "place", .path .long "Pos" none⟩]

/-- A record of the fields of a note. -/
def noteItem : Item := ⟨[], "Note", [], [], .record (.named noteFields)⟩

theorem calls_noteFields :
    FieldDecl.calls noteFields = .ok
      [.scalar "words" "a" "text", .separator ",", .nested .boxed "next" "?" "next",
        .position "place" "place"] := by
  rw [FieldDecl.calls_eq_ok_iff]
  refine ⟨[some _, some _, some _, some _], .cons ?text (.cons ?comma (.cons ?next
    (.cons ?place .nil))), rfl⟩
  case text =>
    exact FieldDecl.call?_eq_ok_iff.2 ⟨⟨some (.scalar "a"), some "words"⟩, rfl,
      .scalar (by simp [FieldDecl.HasHiddenName]) (.declared rfl) (by decide)⟩
  case comma =>
    exact FieldDecl.call?_eq_ok_iff.2 ⟨⟨some (.scalar ","), none⟩, rfl,
      .separator ⟨_, rfl⟩ (.declared rfl)⟩
  case next =>
    exact FieldDecl.call?_eq_ok_iff.2 ⟨⟨some (.nested "?"), none⟩, rfl,
      .nested (by simp [FieldDecl.HasHiddenName]) (.declared rfl) .boxed⟩
  case place =>
    exact FieldDecl.call?_eq_ok_iff.2 ⟨⟨none, none⟩, rfl,
      .position (by simp [FieldDecl.HasHiddenName]) (.inferred rfl rfl)⟩

/-- A note is declared field by field, and the comma is not reached. -/
theorem deriveSchema_declares_noteItem :
    noteItem.body = .record (.named noteFields) ∧
      ∃ schema, noteItem.deriveSchema = .ok schema ∧
        schema.calls = [.scalar "words" "a" "text", .separator ",",
          .nested .boxed "next" "?" "next", .position "place" "place"] ∧
        ∀ call ∈ schema.calls, call.field? ≠ some "_comma" := by
  have derived : noteItem.deriveSchema = .ok _ :=
    (deriveSchema_eq_ok_iff rfl).2 ⟨none, _, rfl, calls_noteFields, rfl⟩
  have declared := (@deriveSchema_declares noteItem noteFields rfl).2 _ derived
  refine ⟨rfl, _, derived, rfl, fun call member => ?_⟩
  exact declared.2 call member _ (.tail _ (.head _)) ⟨_, rfl⟩

end Item

end SchemaMatch.Derive
