import SchemaMatch.Proofs.Compilation.Slots
import SchemaMatch.Proofs.Expr.Nodes
import SchemaMatch.Proofs.Union.Registry

/-!
# The trees that the compiler composes

What is laid out from a slot on has its captures numbered from there. Its fragments are in normal
form, only records and choices are optional, and choices are between records. So the tree is sound
if its fragments are self-contained, and choices have branches if the registry is reachable.
-/

namespace SchemaMatch

namespace Compilation

open SchemaMatch.Expr (IsSound HasBranches)

def Part.exprs : Part → List Expr
  | record _ _ expr => [expr]
  | fields _ _ exprs => exprs
  | variants _ _ exprs => exprs

/-- The trees of a part are numbered from one slot up to another. -/
def Part.Numbered (first next : Nat) (part : Part) : Prop :=
  Expr.NumberedAll first part.exprs next

def Part.AreCaptures : Part → Prop
  | record _ _ expr => expr.capture?.isSome = true
  | fields _ _ _ => True
  | variants schemas _ exprs =>
    exprs.length = schemas.length ∧ ∀ expr ∈ exprs, expr.capture?.isSome = true

/-- A node that the compiler makes. -/
def IsMade (scope : Scope) : Expr → Prop
  | .fragment text => ∃ fragment, Fragment.normalize scope.options fragment = .ok text
  | .optional expr => expr.isEnclosed = true
  | .alternation parts => (∀ part ∈ parts, part.capture?.isSome = true) ∧
      ∃ capability entry, scope.registry.lookup? capability = some entry ∧
        parts.length = entry.variants.length
  | _ => True

variable {scope : Scope} {slot next : Nat} {part : Part}

theorem numberedAll_single {first next : Nat} {expr : Expr} :
    Expr.NumberedAll first [expr] next ↔ expr.Numbered first next := by
  constructor
  · rintro ⟨_, numbered, rfl⟩
    exact numbered
  · exact fun numbered => ⟨next, numbered, rfl⟩

theorem numbered_withCardinality {first next : Nat} {expr : Expr} (cardinality : Cardinality)
    (numbered : expr.Numbered first next) :
    (withCardinality cardinality expr).Numbered first next := by
  cases cardinality with
  | required => exact numbered
  | optional => exact numbered

theorem Laid.numbered (laid : Laid scope slot part next) (inside : slot ≠ 0) :
    part.Numbered slot next := by
  induction laid with
  | record fields ih => exact numberedAll_single.2 ⟨rfl, inside, ih (by omega)⟩
  | noFields => rfl
  | skipped skips rest ih => exact ih inside
  | separator matched kind normal rest ih => exact ⟨_, rfl, ih inside⟩
  | scalar matched kind normal rest ih => exact ⟨_, ⟨rfl, inside, rfl⟩, ih (by omega)⟩
  | position kind rest ih => exact ⟨_, ⟨rfl, inside, rfl⟩, ih (by omega)⟩
  | nested kind means fits held rest record others =>
    have numbered := numberedAll_single.1 (record (by omega))
    have later := held.le
    exact ⟨_, ⟨rfl, inside, numbered_withCardinality _ numbered⟩, others (by omega)⟩
  | union kind means registered held rest variants others =>
    have later := held.le
    exact ⟨_, ⟨rfl, inside, numbered_withCardinality _ (variants (by omega))⟩, others (by omega)⟩
  | noVariants => rfl
  | variant first rest record others =>
    have later := first.le
    exact ⟨_, numberedAll_single.1 (record inside), others (by omega)⟩

theorem Laid.areCaptures (laid : Laid scope slot part next) : part.AreCaptures := by
  induction laid with
  | record fields ih => rfl
  | noVariants => exact ⟨rfl, nofun⟩
  | variant first rest record others =>
    obtain ⟨count, captures⟩ := others
    refine ⟨congrArg (· + 1) count, fun expr member => ?_⟩
    rcases List.mem_cons.1 member with rfl | member
    · exact record
    · exact captures expr member
  | _ => trivial

theorem isEnclosed_of_capture? {expr : Expr} (captures : expr.capture?.isSome = true) :
    expr.isEnclosed = true := by
  cases expr with
  | capture _ _ _ => rfl
  | alternation _ => rfl
  | fragment _ => cases captures
  | concat _ => cases captures
  | optional _ => cases captures

theorem onNodes_withCardinality {expr : Expr} (cardinality : Cardinality)
    (enclosed : expr.isEnclosed = true) (made : expr.OnNodes (IsMade scope)) :
    (withCardinality cardinality expr).OnNodes (IsMade scope) := by
  cases cardinality with
  | required => exact made
  | optional => exact Expr.onNodes_optional.2 ⟨enclosed, made⟩

theorem Laid.isMade (laid : Laid scope slot part next) :
    Expr.OnAllNodes (IsMade scope) part.exprs := by
  induction laid with
  | record fields ih =>
    refine Expr.onAllNodes_cons.2 ⟨?_, Expr.onAllNodes_nil⟩
    exact Expr.onNodes_capture.2 ⟨trivial, Expr.onNodes_concat.2 ⟨trivial, ih⟩⟩
  | noFields => exact Expr.onAllNodes_nil
  | skipped skips rest ih => exact ih
  | separator matched kind normal rest ih =>
    exact Expr.onAllNodes_cons.2 ⟨Expr.onNodes_fragment.2 ⟨_, normal⟩, ih⟩
  | scalar matched kind normal rest ih =>
    refine Expr.onAllNodes_cons.2 ⟨?_, ih⟩
    exact Expr.onNodes_capture.2 ⟨trivial, Expr.onNodes_fragment.2 ⟨_, normal⟩⟩
  | position kind rest ih =>
    refine Expr.onAllNodes_cons.2 ⟨?_, ih⟩
    exact Expr.onNodes_capture.2
      ⟨trivial, Expr.onNodes_concat.2 ⟨trivial, Expr.onAllNodes_nil⟩⟩
  | nested kind means fits held rest record others =>
    refine Expr.onAllNodes_cons.2 ⟨Expr.onNodes_capture.2 ⟨trivial, ?_⟩, others⟩
    exact onNodes_withCardinality _ (isEnclosed_of_capture? held.areCaptures)
      (Expr.onAllNodes_cons.1 record).1
  | union kind means registered held rest variants others =>
    refine Expr.onAllNodes_cons.2 ⟨Expr.onNodes_capture.2 ⟨trivial, ?_⟩, others⟩
    obtain ⟨count, captures⟩ := held.areCaptures
    exact onNodes_withCardinality _ rfl
      (Expr.onNodes_alternation.2 ⟨⟨captures, _, _, registered, count⟩, variants⟩)
  | noVariants => exact Expr.onAllNodes_nil
  | variant first rest record others =>
    exact Expr.onAllNodes_cons.2 ⟨(Expr.onAllNodes_cons.1 record).1, others⟩

theorem exists_parse_of_normalize {options : Options} {fragment text : String}
    (normal : Fragment.normalize options fragment = .ok text) :
    ∃ term, Regex.Term.parse options text = .ok term := by
  obtain ⟨found, _, rest⟩ := bind_eq_ok_iff.1 normal
  obtain ⟨term, means, equal⟩ := bind_eq_ok_iff.1 rest
  cases equal
  exact ⟨term, means⟩

theorem isSound_of_isMade {expr : Expr} (made : expr.OnNodes (IsMade scope))
    (contained : ∀ text, .fragment text ∈ expr.nodes →
      Fragment.IsSelfContained scope.options text) :
    expr.OnNodes (IsSound scope.options) := by
  intro node member
  have made := made node member
  cases node with
  | fragment text =>
    obtain ⟨fragment, normal⟩ := made
    exact ⟨contained text member, exists_parse_of_normalize normal⟩
  | concat _ => trivial
  | capture _ _ _ => trivial
  | optional sub => exact made
  | alternation parts => exact made.1

theorem hasBranches_of_isMade {expr : Expr} (made : expr.OnNodes (IsMade scope))
    (reachable : scope.registry.Reachable) : expr.OnNodes HasBranches := by
  intro node member
  have made := made node member
  cases node with
  | fragment _ => trivial
  | concat _ => trivial
  | capture _ _ _ => trivial
  | optional _ => trivial
  | alternation parts =>
    obtain ⟨_, capability, entry, found, count⟩ := made
    rintro rfl
    exact reachable.variants_ne_nil_of_lookup? found (List.length_eq_zero_iff.1 count.symm)

end Compilation

/-- A schema compiles to a capture of the whole match, around trees that are numbered from one on
and that the compiler makes. -/
theorem Scope.composed_of_compile {scope : Scope} {root : SchemaId} {stencil : Stencil}
    {expr : Expr} (success : scope.compile root = .ok (stencil, expr)) :
    ∃ name exprs, expr = .capture 0 name (.concat exprs) ∧
      Expr.NumberedAll 1 exprs expr.captureCount ∧ expr.OnNodes (Compilation.IsMade scope) := by
  obtain ⟨next, laid⟩ := laid_of_compile success
  have made := (Expr.onAllNodes_cons.1 laid.isMade).1
  have captured : expr.captures = stencil.labels := laid.captures
  obtain ⟨stops, _⟩ := Stencil.Tiles.labels stencil laid.tiles
  have count : expr.captureCount = next := by
    rw [Expr.captureCount, captured]
    omega
  cases laid with
  | record fields =>
    rw [count]
    exact ⟨_, _, rfl, fields.numbered (by omega), made⟩

end SchemaMatch
