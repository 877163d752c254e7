import SchemaMatch.Proofs.Compilation.Offset

/-!
# Cycles of schemas

A schema that contains itself does not compile, and the error names a schema of the cycle. A cycle
that a union field closes is found at the variant, and the error names the schema that is there for
the second time. A cycle that a nested field closes is found at the field, and the error names the
schema that the field is of; this is the one that is met twice only if it holds itself. The main
statement is `Scope.recursiveSchema_of_compile`.
-/

namespace SchemaMatch

/-- Where it is found that a field leads back to a schema: at a nested field before its schema is
gone into, and at the schema otherwise. -/
def Site.ofReturn (path : List SchemaId) (owner : SchemaId) (field : Field) (schema : SchemaId) :
    Site :=
  match field.kind with
  | .nested _ _ _ => .field path owner field
  | _ => .schema (owner :: path) schema

namespace Scope

/-- A field of a schema leads back to a schema that a way from the root has gone through. No schema
has been met twice on the way before. -/
structure ClosesCycle (scope : Scope) (root : SchemaId) (path : List SchemaId) (owner : SchemaId)
    (field : Field) (schema : SchemaId) : Prop where
  arrives : scope.Arrives root path owner
  simple : (owner :: path).Nodup
  member : field ∈ (scope.family.schema owner).fields
  refers : scope.Refers field schema
  again : schema ∈ owner :: path

/-- A field closes a cycle, and nothing is at fault before the site where that is found. -/
structure ClosesFirst (scope : Scope) (root : SchemaId) (path : List SchemaId) (owner : SchemaId)
    (field : Field) (schema : SchemaId) : Prop
    extends scope.ClosesCycle root path owner field schema where
  first : ∃ address,
    scope.siteAt? (.schema [] root) address = some (.ofReturn path owner field schema) ∧
    ∀ earlier, Precedes earlier address → ∀ site,
      scope.siteAt? (.schema [] root) earlier = some site → scope.fault? site = none

/-- A site that a compilation comes to when nothing before it is at fault. A schema that is on its
own path has been come to through a union field. -/
def IsEntered (scope : Scope) (root : SchemaId) : Site → Prop
  | .schema path id => scope.Arrives root path id ∧ path.Nodup ∧
      (id ∈ path → ∃ owner rest field, path = owner :: rest ∧ field.role = .union ∧
        scope.ClosesCycle root rest owner field id)
  | .field path owner field => scope.Arrives root path owner ∧ (owner :: path).Nodup ∧
      field ∈ (scope.family.schema owner).fields

variable {scope : Scope} {root : SchemaId} {site : Site}

/-- A compilation goes on from a site without a fault to its parts. -/
theorem IsEntered.part {part : Site} (entered : scope.IsEntered root site)
    (sound : scope.fault? site = none) (inside : part ∈ scope.parts site) :
    scope.IsEntered root part := by
  cases site with
  | schema path id =>
    obtain ⟨arrives, simple, _⟩ := entered
    have fresh := fault?_schema_eq_none_iff.1 sound
    rw [parts, if_neg fresh] at inside
    obtain ⟨field, declared, rfl⟩ := List.mem_map.1 inside
    exact ⟨arrives, List.nodup_cons.2 ⟨fresh, simple⟩, declared⟩
  | field path owner field =>
    obtain ⟨arrives, simple, member⟩ := entered
    cases kind : field.kind with
    | nested marker holder schema =>
      -- A schema that is on the path would have been a fault of the field.
      simp only [fault?, complaints, kind, List.head?_eq_none_iff, List.append_eq_nil_iff,
        complaint_eq_nil_iff] at sound
      simp only [parts, kind, List.mem_singleton] at inside
      subst inside
      exact ⟨.nested arrives member kind, simple, fun again => absurd again sound.2⟩
    | union marker capability =>
      simp only [parts, kind] at inside
      cases registered : scope.registry.lookup? capability with
      | none => simp [registered] at inside
      | some entry =>
        simp only [registered] at inside
        obtain ⟨schema, listed, rfl⟩ := List.mem_map.1 inside
        have refers : scope.Refers field schema := by
          simp only [Refers, kind]
          exact ⟨entry, registered, listed⟩
        refine ⟨.variant arrives member kind registered listed, simple, fun again => ?_⟩
        exact ⟨owner, path, field, rfl, by simp only [Field.role, kind],
          ⟨arrives, simple, member, refers, again⟩⟩
    | _ => simp [parts, kind] at inside

theorem IsEntered.siteAt? {address : List Nat} {inner : Site} (entered : scope.IsEntered root site)
    (found : scope.siteAt? site address = some inner)
    (before : ∀ earlier, Precedes earlier address → ∀ other,
      scope.siteAt? site earlier = some other → scope.fault? other = none) :
    scope.IsEntered root inner := by
  induction address generalizing site with
  | nil =>
    cases found
    exact entered
  | cons index rest ih =>
    obtain ⟨part, among, found⟩ := Option.bind_eq_some_iff.1 found
    have sound : scope.fault? site = none := before [] .nil site rfl
    refine ih (entered.part sound (List.mem_of_getElem? among)) found ?_
    intro earlier precedes other there
    refine before (index :: earlier) (.cons precedes) other ?_
    rw [Scope.siteAt?, among]
    exact there

theorem nested_of_mem_complaints {path : List SchemaId} {owner name : String} {field : Field}
    (complains : .recursiveSchema name ∈ scope.complaints path owner field) :
    ∃ marker holder schema, field.kind = .nested marker holder schema ∧ schema ∈ path ∧
      name = owner := by
  unfold complaints fragmentComplaints markerComplaints complaint at complains
  cases kind : field.kind with
  | nested marker holder schema =>
    refine ⟨marker, holder, schema, rfl, ?_⟩
    simp only [kind, List.mem_append] at complains
    rcases complains with (complains | complains) | complains
    · split at complains <;> simp at complains
    · split at complains <;> simp at complains
    · split at complains
      · rename_i again
        exact ⟨again, by simpa using complains⟩
      · simp at complains
  | _ =>
    simp only [kind] at complains
    grind

theorem IsEntered.closesCycle {name : String} (entered : scope.IsEntered root site)
    (fault : scope.fault? site = some (.recursiveSchema name)) :
    ∃ path owner field schema, site = .ofReturn path owner field schema ∧
      scope.ClosesCycle root path owner field schema ∧
      (field.role = .nested → name = (scope.family.schema owner).name) ∧
      (field.role = .union ∨ schema = owner → name = (scope.family.schema schema).name) := by
  cases site with
  | schema path id =>
    obtain ⟨_, _, returns⟩ := entered
    rw [fault?, head?_complaint] at fault
    split at fault
    · rename_i again
      cases fault
      obtain ⟨owner, rest, field, rfl, union, closes⟩ := returns again
      refine ⟨rest, owner, field, id, ?_, closes, ?_, fun _ => rfl⟩
      · unfold Site.ofReturn
        split
        · rename_i kind
          simp [Field.role, kind] at union
        · rfl
      · intro nested
        rw [union] at nested
        cases nested
    · cases fault
  | field path owner field =>
    obtain ⟨arrives, simple, member⟩ := entered
    obtain ⟨marker, holder, schema, kind, again, rfl⟩ :=
      nested_of_mem_complaints (List.mem_of_head? fault)
    have refers : scope.Refers field schema := by simp only [Refers, kind]
    refine ⟨path, owner, field, schema, ?_, ⟨arrives, simple, member, refers, again⟩,
      fun _ => rfl, ?_⟩
    · simp only [Site.ofReturn, kind]
    · rintro (union | rfl)
      · simp [Field.role, kind] at union
      · rfl

/-- If a compilation fails for a recursion, the first fault in pre-order is that a field leads back
to a schema which the way to it has gone through. The error names that schema if the field is a
union or one of the schema itself. If the field is nested, the error names the schema that the field
is of, whichever schema it leads back to. -/
theorem recursiveSchema_of_compile {name : String}
    (fails : scope.compile root = .error (.recursiveSchema name)) :
    ∃ path owner field schema, scope.ClosesFirst root path owner field schema ∧
      (field.role = .nested → name = (scope.family.schema owner).name) ∧
      (field.role = .union ∨ schema = owner → name = (scope.family.schema schema).name) := by
  have finds := finds_compile scope root
  rw [fails, failure?_error] at finds
  obtain ⟨address, site, found, fault, before⟩ := finds
  have start : scope.IsEntered root (.schema [] root) := ⟨.root, List.nodup_nil, nofun⟩
  obtain ⟨path, owner, field, schema, rfl, closes, names⟩ :=
    (start.siteAt? found before).closesCycle fault
  exact ⟨path, owner, field, schema, ⟨closes, address, found, before⟩, names⟩

/-- A tree has branches, which end in leaves or in trees again. -/
def sampleTree : Scope where
  family := {
    schemas := [
      ⟨"Tree", "Tree", [⟨"stem", .scalar "s" (.storable .text), 0⟩,
        ⟨"branch", .nested "?" .boxed 1, 1⟩]⟩,
      ⟨"Branch", "Branch", [⟨"tip", .union "" 0, 0⟩]⟩,
      ⟨"Leaf", "Leaf", [.separator "l"]⟩]
    capabilities := ["Tip"] }
  registry := ⟨[⟨0, "Tip", [2, 0]⟩]⟩
  options := {}

/-- The error for `sampleTree` names the tree, which is met again as a variant. -/
theorem recursiveSchema_of_compile_sampleTree :
    sampleTree.compile 0 = .error (.recursiveSchema "Tree") ∧
      ∃ path owner field schema, sampleTree.ClosesFirst 0 path owner field schema ∧
        (field.role = .nested → "Tree" = (sampleTree.family.schema owner).name) ∧
        (field.role = .union ∨ schema = owner →
          "Tree" = (sampleTree.family.schema schema).name) := by
  have fails : sampleTree.compile 0 = .error (.recursiveSchema "Tree") := rfl
  exact ⟨fails, recursiveSchema_of_compile fails⟩

/-- Two schemas that may hold each other. -/
def sampleRing : Scope where
  family := {
    schemas := [⟨"Front", "Front", [⟨"back", .nested "?" .optional 1, 0⟩]⟩,
      ⟨"Back", "Back", [⟨"front", .nested "?" .optional 0, 0⟩]⟩]
    capabilities := [] }
  registry := .empty
  options := {}

/-- The schemas of `sampleRing` are gone through in turns. -/
theorem arrives_sampleRing {path : List SchemaId} {id : SchemaId}
    (arrives : sampleRing.Arrives 0 path id) :
    path = [] ∧ id = 0 ∨ path = [0] ∧ id = 1 ∨ ¬(id :: path).Nodup := by
  induction arrives with
  | root => exact .inl ⟨rfl, rfl⟩
  | nested _ member kind ih =>
    rcases ih with ⟨rfl, rfl⟩ | ⟨rfl, rfl⟩ | twice
    · cases List.mem_singleton.1 member
      cases kind
      exact .inr (.inl ⟨rfl, rfl⟩)
    · cases List.mem_singleton.1 member
      cases kind
      exact .inr (.inr (by decide))
    · exact .inr (.inr fun simple => twice (List.nodup_cons.1 simple).2)
  | variant _ _ _ registered => cases registered

/-- The only schema of `sampleRing` that is met twice is the first one, and the error names the
other. -/
theorem recursiveSchema_sampleRing :
    sampleRing.compile 0 = .error (.recursiveSchema "Back") ∧
      ∀ path owner field schema, sampleRing.ClosesCycle 0 path owner field schema →
        (sampleRing.family.schema schema).name = "Front" := by
  refine ⟨rfl, ?_⟩
  rintro path owner field schema ⟨arrives, simple, member, refers, again⟩
  rcases arrives_sampleRing arrives with ⟨rfl, rfl⟩ | ⟨rfl, rfl⟩ | twice
  · cases List.mem_singleton.1 member
    cases refers
    exact absurd again (by decide)
  · cases List.mem_singleton.1 member
    cases refers
    rfl
  · exact absurd simple twice

end Scope

end SchemaMatch
