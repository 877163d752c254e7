import SchemaMatch.Proofs.Compilation.Fault
import SchemaMatch.Proofs.Compilation.Reach
import Mathlib.Data.List.Perm.Subperm
import Mathlib.Data.List.Nodup

/-!
# How a compilation ends

A schema compiles exactly if every field that is visited is valid, and fails with its first fault
otherwise. The bound on the length of paths is never felt, so this holds of cyclic families too. The
main statement is `Scope.compile_first_fault`.
-/

namespace SchemaMatch

/-- The cause for which a step fails, if it does. -/
def failure? {ε α : Type} : Except ε α → Option ε
  | .ok _ => none
  | .error cause => some cause

section Failure

variable {ε α β : Type}

@[simp] theorem failure?_ok (value : α) : failure? (.ok value : Except ε α) = none := rfl

@[simp] theorem failure?_pure (value : α) : failure? (pure value : Except ε α) = none := rfl

@[simp] theorem failure?_error (cause : ε) :
    failure? (.error cause : Except ε α) = some cause := rfl

/-- A chain fails where its first step does, or else where the others do. -/
theorem failure?_bind {first : Except ε α} {others : α → Except ε β} {later : Option ε}
    (rest : ∀ value, first = .ok value → failure? (others value) = later) :
    failure? (first >>= others) = (failure? first).or later := by
  cases first with
  | error cause => rfl
  | ok value => exact rest value rfl

/-- A chain whose later steps succeed fails where its first step does. -/
theorem failure?_bind_of_none {first : Except ε α} {others : α → Except ε β}
    (rest : ∀ value, failure? (others value) = none) :
    failure? (first >>= others) = failure? first := by
  rw [failure?_bind fun value _ => rest value, Option.or_none]

theorem failure?_eq_none_iff {step : Except ε α} :
    failure? step = none ↔ ∃ value, step = .ok value := by
  cases step <;> simp

theorem failure?_eq_some_iff {step : Except ε α} {cause : ε} :
    failure? step = some cause ↔ step = .error cause := by
  cases step <;> simp

end Failure

/-! ### What the steps of a compilation find -/

theorem head?_complaint {cause : Prop} [Decidable cause] (error : CompileError) :
    (complaint cause error).head? = if cause then some error else none := by
  unfold complaint
  split <;> rfl

/-- A chain that is refused under a condition fails for that, or else where the rest does. -/
theorem failure?_unless {α β : Type} {refused : Prop} [Decidable refused] {error : CompileError}
    {others : α → Except CompileError β} {rest : Except CompileError β} :
    failure? (if refused then Except.error error >>= others else rest) =
      (complaint refused error).head?.or (failure? rest) := by
  rw [head?_complaint]
  split <;> rfl

namespace Compilation

variable {scope : Scope} {path : List SchemaId} {child : Child} {owner : String}

theorem failure?_fragmentText (name fragment : String) :
    failure? (fragmentText scope owner name fragment) =
      (scope.fragmentComplaints owner name fragment).head? := by
  unfold fragmentText Scope.fragmentComplaints
  cases Fragment.normalize scope.options fragment with
  | ok text => rfl
  | error error => rfl

theorem failure?_cardinality (name marker : String) :
    failure? (cardinality owner name marker) =
      (Scope.markerComplaints owner name marker).head? := by
  unfold cardinality Cardinality.ofMarker? Scope.markerComplaints
  rw [head?_complaint]
  by_cases empty : marker = ""
  · simp [empty]
  · by_cases optional : marker = "?"
    · simp [optional]
    · simp [empty, optional]

/-- A marker that means something means that a part may be absent if it is a question mark. -/
theorem eq_optional_iff {name marker : String} {means : Cardinality}
    (valid : cardinality owner name marker = .ok means) : means = .optional ↔ marker = "?" := by
  unfold cardinality Cardinality.ofMarker? at valid
  by_cases empty : marker = ""
  · simp only [empty] at valid ⊢
    cases valid
    simp
  · by_cases optional : marker = "?"
    · simp only [optional] at valid ⊢
      cases valid
      simp
    · simp [empty, optional] at valid

/-- A field that holds no schema fails for what there is to complain of. -/
theorem failure?_compileField_of_plain {field : Field}
    (nested : field.role ≠ .nested) (union : field.role ≠ .union) (slot : Nat) :
    failure? (compileField scope path child owner field slot) =
      (scope.complaints path owner field).head? := by
  unfold compileField Scope.complaints
  cases kind : field.kind with
  | separator fragment =>
    by_cases empty : fragment = ""
    · simp [compileSeparator, empty]
    · simp only [compileSeparator, String.isEmpty_iff, empty, if_false]
      rw [failure?_bind_of_none fun _ => rfl, failure?_fragmentText]
  | scalar fragment type =>
    by_cases empty : fragment = ""
    · simp [compileScalar, empty]
    · simp only [compileScalar, String.isEmpty_iff, empty, if_false]
      rw [List.head?_append, head?_complaint, ← failure?_fragmentText]
      apply failure?_bind
      intro text _
      cases type.representation? with
      | none => simp
      | some representation => simp
  | position => rfl
  | nested marker holder schema => simp [Field.role, kind] at nested
  | union marker capability => simp [Field.role, kind] at union

/-- A nested field fails for what there is to complain of, or else where its schema does. -/
theorem failure?_compileNested (name marker : String) (holder : Holder) (schema : SchemaId)
    (dest slot : Nat) :
    failure? (compileNested path child owner name marker holder schema dest slot) =
      (scope.complaints path owner ⟨name, .nested marker holder schema, dest⟩).head?.or
        (failure? (child schema (slot + 1))) := by
  unfold compileNested
  simp only [Scope.complaints, List.head?_append, Option.or_assoc, ← failure?_cardinality]
  apply failure?_bind
  intro means valid
  have absent : (means = .optional ∧ ¬ holder.canBeAbsent = true) ↔
      (marker = "?" ∧ holder = .direct) := by
    rw [eq_optional_iff valid]
    cases holder <;> simp [Holder.canBeAbsent]
  rw [failure?_unless, failure?_unless, failure?_bind_of_none fun _ => rfl]
  simp only [head?_complaint, absent]

/-- A union field fails for what there is to complain of, or else where its variants do. -/
theorem failure?_compileUnion (name marker : String) (capability : CapabilityId) (dest slot : Nat) :
    failure? (compileUnion scope child owner name marker capability dest slot) =
      (scope.complaints path owner ⟨name, .union marker capability, dest⟩).head?.or
        ((scope.registry.lookup? capability).bind fun entry =>
          failure? (compileVariants child entry.variants (slot + 1))) := by
  unfold compileUnion
  simp only [Scope.complaints, List.head?_append, Option.or_assoc, ← failure?_cardinality]
  apply failure?_bind
  intro means _
  cases scope.registry.lookup? capability with
  | none => rfl
  | some entry =>
    simp only [Option.bind_some]
    rw [failure?_bind_of_none fun _ => rfl]
    rfl

theorem findsAmong_compileVariants {schemas : List SchemaId}
    (each : ∀ schema ∈ schemas, ∀ slot,
      scope.Finds (.schema path schema) (failure? (child schema slot))) (slot : Nat) :
    scope.FindsAmong (schemas.map (.schema path))
      (failure? (compileVariants child schemas slot)) := by
  induction schemas generalizing slot with
  | nil => exact Scope.findsAmong_nil
  | cons schema rest ih =>
    have here := each schema List.mem_cons_self slot
    have others := ih fun other member => each other (List.mem_cons_of_mem _ member)
    unfold compileVariants
    cases made : child schema slot with
    | error error =>
      rw [made] at here
      exact Scope.findsAmong_of_isFirstFault here _
    | ok compiled =>
      rw [made] at here
      rw [ok_bind, failure?_bind_of_none fun _ => rfl]
      exact Scope.findsAmong_cons here fun _ => others compiled.next

/-- A field is gone through by looking at it and then at the schemas that it holds. -/
theorem finds_compileField {id : SchemaId}
    (each : ∀ schema slot, scope.Finds (.schema (id :: path) schema) (failure? (child schema slot)))
    (field : Field) (slot : Nat) :
    scope.Finds (.field path id field)
      (failure? (compileField scope (id :: path) child (scope.family.schema id).name field
        slot)) := by
  obtain ⟨name, kind, dest⟩ := field
  cases kind with
  | nested marker holder schema =>
    simp only [compileField]
    rw [failure?_compileNested]
    apply Scope.finds_of_parts (.field path id ⟨name, .nested marker holder schema, dest⟩)
    intro _
    exact Scope.findsAmong_single (each schema (slot + 1))
  | union marker capability =>
    simp only [compileField]
    rw [failure?_compileUnion]
    apply Scope.finds_of_parts (.field path id ⟨name, .union marker capability, dest⟩)
    intro _
    simp only [Scope.parts]
    cases scope.registry.lookup? capability with
    | none => exact Scope.findsAmong_nil
    | some entry => exact findsAmong_compileVariants (fun schema _ => each schema) (slot + 1)
  | _ =>
    rw [failure?_compileField_of_plain (by simp [Field.role]) (by simp [Field.role])]
    exact Scope.finds_of_no_parts rfl

theorem findsAmong_compileFields {id : SchemaId} {declared : List Field}
    (each : ∀ schema slot, scope.Finds (.schema (id :: path) schema) (failure? (child schema slot)))
    (slot : Nat) :
    scope.FindsAmong (declared.map (.field path id))
      (failure? (compileFields scope (id :: path) child (scope.family.schema id).name declared
        slot)) := by
  induction declared generalizing slot with
  | nil => exact Scope.findsAmong_nil
  | cons field rest ih =>
    have here := finds_compileField each field slot
    unfold compileFields
    cases made : compileField scope (id :: path) child (scope.family.schema id).name field slot with
    | error error =>
      rw [made] at here
      exact Scope.findsAmong_of_isFirstFault here _
    | ok compiled =>
      rw [made] at here
      obtain ⟨part, next⟩ := compiled
      rw [ok_bind, failure?_bind_of_none]
      · exact Scope.findsAmong_cons here fun _ => ih next
      · intro made
        cases part <;> rfl

/-! ### The bound is not felt -/

/-- Schemas that a compilation is inside of, with as many levels left as it may take. -/
structure IsPath (scope : Scope) (levels : Nat) (path : List SchemaId) : Prop where
  nodup : path.Nodup
  described : ∀ id ∈ path, id < scope.family.schemas.length
  room : maxPath scope ≤ levels + path.length

theorem isPath_nil {levels : Nat} (enough : maxPath scope ≤ levels) : IsPath scope levels [] :=
  ⟨List.nodup_nil, nofun, enough⟩

/-- There is always a level left, because a path has no schema twice. -/
theorem IsPath.levels_pos {levels : Nat} (valid : IsPath scope levels path) : 0 < levels := by
  have within : path ⊆ List.range scope.family.schemas.length := by
    intro id member
    exact List.mem_range.2 (valid.described id member)
  have short := (valid.nodup.subperm within).length_le
  have room := valid.room
  rw [List.length_range] at short
  unfold maxPath at room
  omega

/-- A path goes on to a schema that is not on it, or ends there because the schema has no fields. -/
theorem IsPath.cons {levels : Nat} {id : SchemaId} (valid : IsPath scope (levels + 1) path)
    (fresh : id ∉ path) (described : id < scope.family.schemas.length) :
    IsPath scope levels (id :: path) where
  nodup := List.nodup_cons.2 ⟨fresh, valid.nodup⟩
  described := by
    intro other member
    rcases List.mem_cons.1 member with rfl | member
    · exact described
    · exact valid.described other member
  room := by
    have room := valid.room
    rw [List.length_cons]
    omega

theorem fields_of_undescribed {id : SchemaId} (beyond : scope.family.schemas.length ≤ id) :
    (scope.family.schema id).fields = [] := by
  rw [Family.schema, List.getElem?_eq_none beyond]
  rfl

/-- A schema is gone through by looking at it and then at its fields. -/
theorem finds_compileSchema {levels : Nat} (valid : IsPath scope levels path) (id : SchemaId)
    (slot : Nat) :
    scope.Finds (.schema path id) (failure? (compileSchema scope levels path id slot)) := by
  induction levels generalizing path id slot with
  | zero => exact absurd valid.levels_pos (Nat.lt_irrefl 0)
  | succ levels ih =>
    simp only [compileSchema]
    rw [failure?_unless]
    apply Scope.finds_of_parts (.schema path id)
    intro sound
    by_cases fresh : id ∈ path
    · simp [Scope.fault?, head?_complaint, fresh] at sound
    · simp only [Scope.parts, fresh, if_false]
      rw [failure?_bind_of_none fun _ => rfl]
      by_cases described : id < scope.family.schemas.length
      · exact findsAmong_compileFields (ih (valid.cons fresh described)) (slot + 1)
      · rw [fields_of_undescribed (Nat.le_of_not_lt described)]
        exact Scope.findsAmong_nil

theorem compileSchema_of_isPath {levels further : Nat} (valid : IsPath scope levels path)
    (also : IsPath scope further path) (id : SchemaId) :
    compileSchema scope levels path id = compileSchema scope further path id := by
  induction levels generalizing further path id with
  | zero => exact absurd valid.levels_pos (Nat.lt_irrefl 0)
  | succ levels ih =>
    obtain ⟨further, rfl⟩ := Nat.exists_eq_succ_of_ne_zero also.levels_pos.ne'
    funext slot
    simp only [compileSchema]
    by_cases fresh : id ∈ path
    · simp only [fresh, if_true, error_bind]
    · by_cases described : id < scope.family.schemas.length
      · have same := ih (valid.cons fresh described) (also.cons fresh described)
        rw [funext same]
      · rw [fields_of_undescribed (Nat.le_of_not_lt described)]
        rfl

end Compilation

namespace Scope

/-! ### Valid fields -/

/-- A field is valid inside of some schemas, innermost first. -/
def Accepts (scope : Scope) (path : List SchemaId) (field : Field) : Prop :=
  match field.kind with
  | .separator fragment =>
    fragment = "" ∨ ∃ text, Fragment.normalize scope.options fragment = .ok text
  | .scalar fragment type =>
    fragment = "" ∨ (∃ text, Fragment.normalize scope.options fragment = .ok text) ∧
      ∃ representation, type = .storable representation
  | .position => True
  | .nested marker holder schema =>
    (marker = "" ∨ marker = "?") ∧ (marker = "?" → holder = .optional ∨ holder = .boxed) ∧
      schema ∉ path
  | .union marker capability =>
    (marker = "" ∨ marker = "?") ∧ ∃ entry, scope.registry.lookup? capability = some entry ∧
      ∀ variant ∈ entry.variants, variant ∉ path

/-- The ways from a root to a schema, by the schemas that are gone through before it, innermost
first. -/
inductive Arrives (scope : Scope) (root : SchemaId) : List SchemaId → SchemaId → Prop
  | root : Arrives scope root [] root
  | nested {path : List SchemaId} {id schema : SchemaId} {field : Field} {marker : String}
      {holder : Holder} (arrives : Arrives scope root path id)
      (member : field ∈ (scope.family.schema id).fields)
      (kind : field.kind = .nested marker holder schema) : Arrives scope root (id :: path) schema
  | variant {path : List SchemaId} {id schema : SchemaId} {field : Field} {marker : String}
      {capability : CapabilityId} {entry : UnionEntry} (arrives : Arrives scope root path id)
      (member : field ∈ (scope.family.schema id).fields)
      (kind : field.kind = .union marker capability)
      (registered : scope.registry.lookup? capability = some entry)
      (listed : schema ∈ entry.variants) : Arrives scope root (id :: path) schema

/-- A schema or a field that a compilation of a root comes across, unless it fails before. -/
def IsVisited (scope : Scope) (root : SchemaId) : Site → Prop
  | .schema path id => scope.Arrives root path id ∧ id ∉ path
  | .field path owner field =>
    scope.Arrives root path owner ∧ field ∈ (scope.family.schema owner).fields

variable {scope : Scope} {root : SchemaId}

theorem complaint_eq_nil_iff {cause : Prop} [Decidable cause] (error : CompileError) :
    complaint cause error = [] ↔ ¬cause := by
  unfold complaint
  split <;> simp_all

theorem fragmentComplaints_eq_nil_iff (owner name fragment : String) :
    scope.fragmentComplaints owner name fragment = [] ↔
      ∃ text, Fragment.normalize scope.options fragment = .ok text := by
  unfold fragmentComplaints
  cases Fragment.normalize scope.options fragment with
  | ok text => simp
  | error error => simp

theorem markerComplaints_eq_nil_iff (owner name marker : String) :
    markerComplaints owner name marker = [] ↔ marker = "" ∨ marker = "?" := by
  rw [markerComplaints, complaint_eq_nil_iff]
  tauto

/-- The schemas right inside of a site are at fault if they are on their path. -/
theorem fault?_schema_eq_none_iff {path : List SchemaId} {id : SchemaId} :
    scope.fault? (.schema path id) = none ↔ id ∉ path := by
  rw [fault?, List.head?_eq_none_iff, complaint_eq_nil_iff]

/-- A field is valid if there is no fault at it or at the schemas right inside of it. -/
theorem accepts_iff {path : List SchemaId} {owner : SchemaId} {field : Field} :
    scope.Accepts (owner :: path) field ↔ scope.fault? (.field path owner field) = none ∧
      ∀ part ∈ scope.parts (.field path owner field), scope.fault? part = none := by
  simp only [Accepts, fault?, complaints, parts, List.head?_eq_none_iff]
  cases field.kind with
  | separator fragment =>
    by_cases empty : fragment = ""
    · simp [empty]
    · simp [empty, fragmentComplaints_eq_nil_iff]
  | scalar fragment type =>
    have storable : (∃ representation, type = .storable representation) ↔
        ¬type.representation? = none := by
      cases type <;> simp [ScalarType.representation?]
    by_cases empty : fragment = ""
    · simp [empty]
    · simp [empty, fragmentComplaints_eq_nil_iff, complaint_eq_nil_iff, storable]
  | position => simp
  | nested marker holder schema =>
    have present : (marker = "?" → holder = .optional ∨ holder = .boxed) ↔
        ¬(marker = "?" ∧ holder = .direct) := by
      cases holder <;> simp
    simp only [List.append_eq_nil_iff, markerComplaints_eq_nil_iff, complaint_eq_nil_iff, present,
      List.forall_mem_singleton, List.head?_eq_none_iff]
    tauto
  | union marker capability =>
    simp only [List.append_eq_nil_iff, markerComplaints_eq_nil_iff, complaint_eq_nil_iff]
    cases scope.registry.lookup? capability with
    | none => simp
    | some entry => simp [complaint_eq_nil_iff]

/-- The fields of a faultless schema are faultless. -/
theorem IsFaultless.field {path : List SchemaId} {id : SchemaId} {field : Field}
    (faultless : scope.IsFaultless (.schema path id))
    (member : field ∈ (scope.family.schema id).fields) :
    scope.IsFaultless (.field path id field) := by
  obtain ⟨here, inside⟩ := isFaultless_iff.1 faultless
  have fresh := fault?_schema_eq_none_iff.1 here
  apply inside
  rw [parts, if_neg fresh]
  exact List.mem_map_of_mem member

theorem IsFaultless.of_arrives {path : List SchemaId} {id : SchemaId}
    (faultless : scope.IsFaultless (.schema [] root)) (arrives : scope.Arrives root path id) :
    scope.IsFaultless (.schema path id) := by
  induction arrives with
  | root => exact faultless
  | nested arrives member kind ih =>
    apply (isFaultless_iff.1 (ih.field member)).2
    simp only [parts, kind]
    exact List.mem_singleton_self _
  | variant arrives member kind registered listed ih =>
    apply (isFaultless_iff.1 (ih.field member)).2
    simp only [parts, kind, registered]
    exact List.mem_map_of_mem listed

/-- What is right inside of a site that is visited is visited too, if the fields there are valid. -/
theorem IsVisited.part
    (valid : ∀ path id, scope.Arrives root path id →
      ∀ field ∈ (scope.family.schema id).fields, scope.Accepts (id :: path) field)
    {site part : Site} (visited : scope.IsVisited root site) (inside : part ∈ scope.parts site) :
    scope.IsVisited root part := by
  cases site with
  | schema path id =>
    obtain ⟨arrives, fresh⟩ := visited
    rw [parts, if_neg fresh] at inside
    obtain ⟨field, declared, rfl⟩ := List.mem_map.1 inside
    exact ⟨arrives, declared⟩
  | field path owner field =>
    obtain ⟨arrives, member⟩ := visited
    have sound := (accepts_iff.1 (valid path owner arrives field member)).2 part inside
    cases kind : field.kind with
    | nested marker holder schema =>
      simp only [parts, kind, List.mem_singleton] at inside
      subst inside
      exact ⟨.nested arrives member kind, fault?_schema_eq_none_iff.1 sound⟩
    | union marker capability =>
      simp only [parts, kind] at inside
      cases registered : scope.registry.lookup? capability with
      | none => simp [registered] at inside
      | some entry =>
        simp only [registered] at inside
        obtain ⟨schema, listed, rfl⟩ := List.mem_map.1 inside
        exact ⟨.variant arrives member kind registered listed, fault?_schema_eq_none_iff.1 sound⟩
    | _ => simp [parts, kind] at inside

theorem isFaultless_iff_accepts :
    scope.IsFaultless (.schema [] root) ↔ ∀ path id, scope.Arrives root path id →
      ∀ field ∈ (scope.family.schema id).fields, scope.Accepts (id :: path) field := by
  constructor
  · intro faultless path id arrives field member
    obtain ⟨here, inside⟩ := isFaultless_iff.1 ((faultless.of_arrives arrives).field member)
    rw [accepts_iff]
    exact ⟨here, fun part among => (isFaultless_iff.1 (inside part among)).1⟩
  · intro valid
    apply isFaultless_of_closed (scope.IsVisited root)
    · rintro (⟨path, id⟩ | ⟨path, owner, field⟩) ⟨arrives, here⟩
      · exact fault?_schema_eq_none_iff.2 here
      · exact (accepts_iff.1 (valid path owner arrives field here)).1
    · intro site visited part inside
      exact visited.part valid inside
    · exact ⟨.root, List.not_mem_nil⟩

/-! ### The outcome -/

theorem finds_compile (scope : Scope) (root : SchemaId) :
    scope.Finds (.schema [] root) (failure? (scope.compile root)) := by
  have found := Compilation.finds_compileSchema
    (Compilation.isPath_nil (Nat.le_refl (Compilation.maxPath scope))) root 0
  unfold Scope.compile
  rwa [failure?_bind_of_none fun _ => rfl]

/-- A schema from which a way leads back to a schema on it does not compile, through whatever fields
the way goes. -/
theorem exists_error_of_cycle {path : List SchemaId} {id : SchemaId}
    (arrives : scope.Arrives root path id) (again : id ∈ path) :
    ∃ error, scope.compile root = .error error := by
  cases outcome : scope.compile root with
  | error error => exact ⟨error, rfl⟩
  | ok part =>
    have sound := (finds_compile scope root).eq_none_iff.1 (by rw [outcome]; rfl)
    have faultless := sound.of_arrives arrives
    have fresh := fault?_schema_eq_none_iff.1 (isFaultless_iff.1 faultless).1
    exact absurd again fresh

/-- A schema compiles exactly if every field that is visited from it is valid, and fails with its
first fault in pre-order otherwise. The outcome is the same for every larger bound on the length of
paths, so a compilation of a cyclic family comes to an end as well. -/
theorem compile_first_fault (scope : Scope) (root : SchemaId) :
    ((∃ part, scope.compile root = .ok part) ↔ ∀ path id, scope.Arrives root path id →
      ∀ field ∈ (scope.family.schema id).fields, scope.Accepts (id :: path) field) ∧
    (∀ error, scope.compile root = .error error ↔ scope.IsFirstFault (.schema [] root) error) ∧
    ∀ levels, Compilation.maxPath scope ≤ levels →
      Compilation.compileSchema scope levels [] root =
        Compilation.compileSchema scope (Compilation.maxPath scope) [] root := by
  have found := finds_compile scope root
  refine ⟨?_, ?_, ?_⟩
  · rw [← isFaultless_iff_accepts, ← found.eq_none_iff, failure?_eq_none_iff]
  · intro error
    rw [← found.eq_some_iff, failure?_eq_some_iff]
  · intro levels enough
    exact Compilation.compileSchema_of_isPath (Compilation.isPath_nil enough)
      (Compilation.isPath_nil (Nat.le_refl _)) root

example : Scope.compile ⟨⟨[⟨"Chain", "Chain", [⟨"word", .scalar "a" (.storable .text), 0⟩,
    ⟨"next", .nested "?" .boxed 0, 1⟩]⟩], []⟩, .empty, {}⟩ 0 =
    .error (.recursiveSchema "Chain") := by
  rfl

end Scope

end SchemaMatch
