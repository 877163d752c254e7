import SchemaMatch.Compilation
import Mathlib.Data.List.Lex

/-!
# Faults of schemas

A compilation goes through the sites of a schema in pre-order: the schema itself, then each of its
fields, each followed by the schemas that it holds. What is at fault at a site is said apart from
the compilation, by `Scope.fault?`, and pre-order is an order of addresses. There is at most one
first fault, by `Scope.IsFirstFault.unique`, and it can be looked for part by part:
`Scope.finds_of_parts` and `Scope.findsAmong_cons`.
-/

namespace SchemaMatch

/-! ### Sites and their faults -/

/-- What a compilation comes across, with the schemas that it is inside of, innermost first. -/
inductive Site
  | schema (path : List SchemaId) (id : SchemaId)
  /-- A field of the schema `owner`, which is inside of those of the path. -/
  | field (path : List SchemaId) (owner : SchemaId) (field : Field)

def complaint (cause : Prop) [Decidable cause] (error : CompileError) : List CompileError :=
  if cause then [error] else []

namespace Scope

def fragmentComplaints (scope : Scope) (owner name fragment : String) : List CompileError :=
  match Fragment.normalize scope.options fragment with
  | .ok _ => []
  | .error error => [.patternSyntax owner name fragment error.problem.message]

def markerComplaints (owner name marker : String) : List CompileError :=
  complaint (marker ≠ "" ∧ marker ≠ "?") (.invalidMarker owner name marker)

/-- What there is to complain of in a field of a schema that is named `owner`, in the order of the
checks. Of the schemas that it holds, only that of a nested field is looked at. -/
def complaints (scope : Scope) (path : List SchemaId) (owner : String) (field : Field) :
    List CompileError :=
  match field.kind with
  | .separator fragment =>
    if fragment = "" then [] else scope.fragmentComplaints owner Field.separatorName fragment
  | .scalar fragment type =>
    if fragment = "" then []
    else scope.fragmentComplaints owner field.name fragment ++
      complaint (type.representation? = none) (.unsupportedFieldType owner field.name type.name)
  | .position => []
  | .nested marker holder schema =>
    markerComplaints owner field.name marker ++
      complaint (marker = "?" ∧ holder = .direct) (.misplacedOptionalMarker owner field.name) ++
      complaint (schema ∈ path) (.recursiveSchema owner)
  | .union marker capability =>
    markerComplaints owner field.name marker ++
      complaint (scope.registry.lookup? capability = none)
        (.unregisteredCapability owner field.name (scope.family.capabilityName capability))

/-- What is at fault at a site, apart from the sites inside. -/
def fault? (scope : Scope) : Site → Option CompileError
  | .schema path id =>
    (complaint (id ∈ path) (.recursiveSchema (scope.family.schema id).name)).head?
  | .field path owner field =>
    (scope.complaints (owner :: path) (scope.family.schema owner).name field).head?

/-- The sites right inside of a site, in order. There is nothing inside of a schema that is inside
of itself. -/
def parts (scope : Scope) : Site → List Site
  | .schema path id =>
    if id ∈ path then [] else (scope.family.schema id).fields.map (.field path id)
  | .field path owner field =>
    match field.kind with
    | .nested _ _ schema => [.schema (owner :: path) schema]
    | .union _ capability =>
      match scope.registry.lookup? capability with
      | none => []
      | some entry => entry.variants.map (.schema (owner :: path))
    | _ => []

/-- The site at an address, which tells which part to go on to at each step. -/
def siteAt? (scope : Scope) : Site → List Nat → Option Site
  | site, [] => some site
  | site, index :: rest => (scope.parts site)[index]?.bind (scope.siteAt? · rest)

/-- Addresses are in pre-order: a site comes before what is inside of it, and that before what is
inside of the next site. -/
def Precedes (earlier later : List Nat) : Prop := List.Lex (· < ·) earlier later

/-- There is no fault at a site or inside of it. -/
def IsFaultless (scope : Scope) (site : Site) : Prop :=
  ∀ address inner, scope.siteAt? site address = some inner → scope.fault? inner = none

/-- The first fault at a site or inside of it: there is none at any earlier address. -/
def IsFirstFault (scope : Scope) (site : Site) (error : CompileError) : Prop :=
  ∃ address inner, scope.siteAt? site address = some inner ∧ scope.fault? inner = some error ∧
    ∀ earlier, Precedes earlier address → ∀ before, scope.siteAt? site earlier = some before →
      scope.fault? before = none

section Order

variable {scope : Scope} {site : Site} {error : CompileError}

theorem isFaultless_iff :
    scope.IsFaultless site ↔
      scope.fault? site = none ∧ ∀ part ∈ scope.parts site, scope.IsFaultless part := by
  constructor
  · intro faultless
    refine ⟨faultless [] site rfl, ?_⟩
    intro part member address inner found
    obtain ⟨index, bound, rfl⟩ := List.getElem_of_mem member
    apply faultless (index :: address)
    rw [siteAt?, List.getElem?_eq_getElem bound]
    exact found
  · rintro ⟨here, inside⟩ address inner found
    cases address with
    | nil =>
      cases found
      exact here
    | cons index rest =>
      obtain ⟨part, among, found⟩ := Option.bind_eq_some_iff.1 found
      exact inside part (List.mem_of_getElem? among) rest inner found

theorem isFaultless_of_closed (among : Site → Prop)
    (sound : ∀ site, among site → scope.fault? site = none)
    (closed : ∀ site, among site → ∀ part ∈ scope.parts site, among part) (member : among site) :
    scope.IsFaultless site := by
  intro address
  induction address generalizing site with
  | nil =>
    intro inner found
    cases found
    exact sound site member
  | cons index rest ih =>
    intro inner found
    obtain ⟨part, inside, found⟩ := Option.bind_eq_some_iff.1 found
    exact ih (closed site member part (List.mem_of_getElem? inside)) inner found

theorem isFirstFault_of_fault? (here : scope.fault? site = some error) :
    scope.IsFirstFault site error :=
  ⟨[], site, rfl, here, fun _ earlier => nomatch earlier⟩

theorem isFirstFault_of_part {front back : List Site} {part : Site}
    (here : scope.fault? site = none) (parts : scope.parts site = front ++ part :: back)
    (faultless : ∀ earlier ∈ front, scope.IsFaultless earlier)
    (first : scope.IsFirstFault part error) : scope.IsFirstFault site error := by
  obtain ⟨address, inner, found, fault, before⟩ := first
  refine ⟨front.length :: address, inner, ?_, fault, ?_⟩
  · rw [siteAt?, parts, List.getElem?_append_right (Nat.le_refl _), Nat.sub_self]
    exact found
  · rintro (_ | ⟨index, rest⟩) earlier other found
    · cases found
      exact here
    · obtain ⟨between, among, found⟩ := Option.bind_eq_some_iff.1 found
      rw [parts] at among
      cases earlier with
      | rel less =>
        rw [List.getElem?_append_left less] at among
        exact faultless between (List.mem_of_getElem? among) rest other found
      | cons shorter =>
        rw [List.getElem?_append_right (Nat.le_refl _), Nat.sub_self] at among
        cases among
        exact before rest shorter other found

theorem IsFirstFault.unique {other : CompileError} (first : scope.IsFirstFault site error)
    (second : scope.IsFirstFault site other) : error = other := by
  obtain ⟨address, inner, found, fault, before⟩ := first
  obtain ⟨address', inner', found', fault', before'⟩ := second
  have same : address = address' := by
    apply Std.Trichotomous.trichotomous (r := List.Lex (· < ·))
    · intro earlier
      rw [before' address earlier inner found] at fault
      cases fault
    · intro earlier
      rw [before address' earlier inner' found'] at fault'
      cases fault'
  subst same
  rw [found] at found'
  cases found'
  exact Option.some.inj (fault.symm.trans fault')

theorem IsFaultless.not_isFirstFault (faultless : scope.IsFaultless site) :
    ¬scope.IsFirstFault site error := by
  rintro ⟨address, inner, found, fault, _⟩
  rw [faultless address inner found] at fault
  cases fault

end Order

/-! ### What a compilation finds -/

/-- What is found on going through a site: no fault, or the first one. -/
def Finds (scope : Scope) (site : Site) : Option CompileError → Prop
  | none => scope.IsFaultless site
  | some error => scope.IsFirstFault site error

/-- What is found on going through sites one after another. -/
def FindsAmong (scope : Scope) (sites : List Site) : Option CompileError → Prop
  | none => ∀ site ∈ sites, scope.IsFaultless site
  | some error => ∃ front site back, sites = front ++ site :: back ∧
      (∀ earlier ∈ front, scope.IsFaultless earlier) ∧ scope.IsFirstFault site error

section Finding

variable {scope : Scope} {site : Site}

theorem Finds.eq_none_iff {found : Option CompileError} (finds : scope.Finds site found) :
    found = none ↔ scope.IsFaultless site := by
  cases found with
  | none => exact iff_of_true rfl finds
  | some error => exact iff_of_false nofun fun faultless => faultless.not_isFirstFault finds

theorem Finds.eq_some_iff {found : Option CompileError} {error : CompileError}
    (finds : scope.Finds site found) : found = some error ↔ scope.IsFirstFault site error := by
  constructor
  · rintro rfl
    exact finds
  · intro first
    cases found with
    | none => exact absurd first (IsFaultless.not_isFirstFault finds)
    | some other => rw [IsFirstFault.unique finds first]

theorem finds_of_parts (site : Site) {inside : Option CompileError}
    (parts : scope.fault? site = none → scope.FindsAmong (scope.parts site) inside) :
    scope.Finds site ((scope.fault? site).or inside) := by
  cases here : scope.fault? site with
  | some error => exact isFirstFault_of_fault? here
  | none =>
    have among := parts here
    rw [Option.none_or]
    cases inside with
    | none => exact isFaultless_iff.2 ⟨here, among⟩
    | some error =>
      obtain ⟨front, part, back, split, faultless, first⟩ := among
      exact isFirstFault_of_part here split faultless first

theorem findsAmong_nil : scope.FindsAmong [] none := by
  intro site member
  cases member

theorem finds_of_no_parts (single : scope.parts site = []) :
    scope.Finds site (scope.fault? site) := by
  have among : scope.FindsAmong (scope.parts site) none := by
    rw [single]
    exact findsAmong_nil
  have whole := finds_of_parts site fun _ => among
  rwa [Option.or_none] at whole

theorem findsAmong_of_isFirstFault {error : CompileError} (here : scope.IsFirstFault site error)
    (sites : List Site) : scope.FindsAmong (site :: sites) (some error) :=
  ⟨[], site, sites, rfl, (by intro _ member; cases member), here⟩

theorem findsAmong_cons {sites : List Site} {first others : Option CompileError}
    (here : scope.Finds site first) (rest : first = none → scope.FindsAmong sites others) :
    scope.FindsAmong (site :: sites) (first.or others) := by
  cases first with
  | some error => exact findsAmong_of_isFirstFault here sites
  | none =>
    have later := rest rfl
    rw [Option.none_or]
    cases others with
    | none =>
      intro other member
      rcases List.mem_cons.1 member with rfl | member
      · exact here
      · exact later other member
    | some error =>
      obtain ⟨front, part, back, rfl, faultless, fault⟩ := later
      refine ⟨site :: front, part, back, rfl, ?_, fault⟩
      intro other member
      rcases List.mem_cons.1 member with rfl | member
      · exact here
      · exact faultless other member

theorem findsAmong_single {found : Option CompileError} (here : scope.Finds site found) :
    scope.FindsAmong [site] found := by
  have among := findsAmong_cons here fun _ => findsAmong_nil
  rwa [Option.or_none] at among

end Finding

end Scope

end SchemaMatch
