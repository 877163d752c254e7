import SchemaMatch.Proofs.Success
import SchemaMatch.Proofs.Syntax.Bare
import SchemaMatch.Proofs.Syntax.Strip
import SchemaMatch.Regex.Meaning

/-!
# Meaning without places and captures

Places matter to the meaning of a tree only where it has none: they are what an error points at.
The main statement is `sameSuccess_meaning_bare`. Captures matter to the meaning itself, but
neither to whether there is one nor to the flags that it leaves: `agreeOnFlags_stripCaptures`.
-/

namespace SchemaMatch.Regex

open Syntax
open Unicode (CodeSet)

/-- Of two readings, both give the same result, or both fail. -/
structure SameSuccess {ε α : Type} (one other : Except ε α) : Prop where
  ok_iff : ∀ value, one = .ok value ↔ other = .ok value

namespace SameSuccess

variable {ε α β : Type} {one other : Except ε α}

theorem refl (one : Except ε α) : SameSuccess one one := ⟨fun _ => Iff.rfl⟩

theorem error (cause blame : ε) : SameSuccess (.error cause : Except ε α) (.error blame) :=
  ⟨fun _ => ⟨nofun, nofun⟩⟩

/-- Chains succeed alike if their steps do. -/
theorem bind {rest after : α → Except ε β} (heads : SameSuccess one other)
    (rests : ∀ value, SameSuccess (rest value) (after value)) :
    SameSuccess (one >>= rest) (other >>= after) := by
  refine ⟨fun result => ?_⟩
  rw [bind_eq_ok_iff, bind_eq_ok_iff]
  constructor
  · rintro ⟨value, first, last⟩
    exact ⟨value, (heads.ok_iff value).1 first, ((rests value).ok_iff result).1 last⟩
  · rintro ⟨value, first, last⟩
    exact ⟨value, (heads.ok_iff value).2 first, ((rests value).ok_iff result).2 last⟩

end SameSuccess

namespace Flags

variable (flags : Flags)

@[simp] theorem apply_bare (on : Bool) (items : List FlagItem) :
    flags.apply on (items.map FlagItem.bare) = flags.apply on items := by
  induction items generalizing flags on with
  | nil => rfl
  | cons item rest ih =>
    cases item with
    | mk span kind =>
      cases kind with
      | negation => exact ih flags false
      | flag flag => exact ih (flags.switch on flag) on

theorem sameSuccess_refuse {α : Type} (problem : Problem) (span place : Span) :
    SameSuccess (refuse problem span : Except SyntaxError α) (refuse problem place) :=
  .error _ _

theorem sameSuccess_accept (span place : Span) (set : CodeSet) :
    SameSuccess (flags.accept span set) (flags.accept place set) := by
  simp only [accept]
  split
  · exact .refl _
  · exact sameSuccess_refuse ..

theorem sameSuccess_foldAndNegate (span place : Span) (negated : Bool) (set : CodeSet) :
    SameSuccess (flags.foldAndNegate span negated set) (flags.foldAndNegate place negated set) :=
  flags.sameSuccess_accept ..

theorem sameSuccess_perl (perl : PerlClass) :
    SameSuccess (flags.perl perl.bare) (flags.perl perl) :=
  flags.sameSuccess_accept ..

theorem sameSuccess_property (property : PropertyClass) :
    SameSuccess (flags.property property.bare) (flags.property property) := by
  have same : property.bare.query = property.query ∧ property.bare.negated = property.negated :=
    ⟨rfl, rfl⟩
  simp only [Flags.property, same]
  split
  · split
    · exact flags.sameSuccess_foldAndNegate ..
    · exact sameSuccess_refuse ..
  · exact sameSuccess_refuse ..

theorem sameSuccess_member (literal : Literal) :
    SameSuccess (flags.member literal.bare) (flags.member literal) := by
  have same : literal.bare.char = literal.char ∧ literal.bare.form = literal.form := ⟨rfl, rfl⟩
  simp only [member, same]
  split
  · exact .refl _
  · split
    · exact sameSuccess_refuse ..
    · exact sameSuccess_refuse ..

theorem sameSuccess_literal (literal : Literal) :
    SameSuccess (flags.literal literal.bare) (flags.literal literal) := by
  have same : literal.bare.char = literal.char ∧ literal.bare.form = literal.form := ⟨rfl, rfl⟩
  simp only [Flags.literal, same]
  split
  · exact sameSuccess_refuse ..
  · exact .refl _

theorem sameSuccess_dot (span place : Span) : SameSuccess (flags.dot span) (flags.dot place) := by
  simp only [dot]
  split
  · exact sameSuccess_refuse ..
  · exact .refl _

mutual

theorem sameSuccess_classSet : (set : ClassSet) →
    SameSuccess (flags.classSet set.bare) (flags.classSet set)
  | .empty _ => .refl _
  | .literal literal => (flags.sameSuccess_member literal).bind fun _ => .refl _
  | .range _ lo hi =>
    (flags.sameSuccess_member lo).bind fun _ => (flags.sameSuccess_member hi).bind fun _ => .refl _
  | .ascii _ => flags.sameSuccess_foldAndNegate ..
  | .property property => flags.sameSuccess_property property
  | .perl perl => flags.sameSuccess_perl perl
  | .bracketed _ _ body =>
    (sameSuccess_classSet body).bind fun _ => flags.sameSuccess_foldAndNegate ..
  | .union _ items => (sameSuccess_classSets items).bind fun _ => .refl _
  | .binary _ _ lhs rhs =>
    (sameSuccess_classSet lhs).bind fun _ => (sameSuccess_classSet rhs).bind fun _ => .refl _

theorem sameSuccess_classSets : (items : List ClassSet) →
    SameSuccess (flags.classSets (ClassSet.bareAll items)) (flags.classSets items)
  | [] => .refl _
  | item :: rest =>
    (sameSuccess_classSet item).bind fun _ => (sameSuccess_classSets rest).bind fun _ => .refl _

end

end Flags

theorem groupFlags_bare (flags : Flags) (kind : GroupKind) :
    groupFlags flags kind.bare = groupFlags flags kind := by
  cases kind with
  | captureIndex index => rfl
  | captureName startsWithP name => rfl
  | nonCapturing list => exact flags.apply_bare true list.items

theorem grouped_bare (term : Term) (kind : GroupKind) : grouped term kind.bare = grouped term kind := by
  cases kind <;> rfl

mutual

theorem sameSuccess_meaning_bare (flags : Flags) : (ast : Ast) →
    SameSuccess (meaning flags ast.bare) (meaning flags ast)
  | .empty _ => .refl _
  | .flags _ list => by
    simp only [Ast.bare, meaning, FlagList.bare, Flags.apply_bare]
    exact .refl _
  | .literal literal => (flags.sameSuccess_literal literal).bind fun _ => .refl _
  | .dot _ => (flags.sameSuccess_dot ..).bind fun _ => .refl _
  | .assertion _ _ => .refl _
  | .property property => (flags.sameSuccess_property property).bind fun _ => .refl _
  | .perl perl => (flags.sameSuccess_perl perl).bind fun _ => .refl _
  | .bracketed _ _ body =>
    (flags.sameSuccess_classSet body).bind fun _ =>
      (flags.sameSuccess_foldAndNegate ..).bind fun _ => .refl _
  | .repetition _ _ _ sub => (sameSuccess_meaning_bare flags sub).bind fun _ => .refl _
  | .group _ kind sub => by
    simp only [Ast.bare, meaning, groupFlags_bare, grouped_bare]
    exact (sameSuccess_meaning_bare _ sub).bind fun _ => .refl _
  | .alternation _ branches => (sameSuccess_meanings_bare flags branches).bind fun _ => .refl _
  | .concat _ items => (sameSuccess_meanings_bare flags items).bind fun _ => .refl _

theorem sameSuccess_meanings_bare (flags : Flags) : (items : List Ast) →
    SameSuccess (meanings flags (Ast.bareAll items)) (meanings flags items)
  | [] => .refl _
  | item :: rest =>
    (sameSuccess_meaning_bare flags item).bind fun result =>
      (sameSuccess_meanings_bare result.2 rest).bind fun _ => .refl _

end

/-- Trees that are equal but for places mean the same. -/
theorem meaning_of_bare {flags after : Flags} {ast other : Ast} {term : Term}
    (same : other.bare = ast.bare) (success : meaning flags ast = .ok (term, after)) :
    meaning flags other = .ok (term, after) := by
  have alone := ((sameSuccess_meaning_bare flags ast).ok_iff _).2 success
  rw [← same] at alone
  exact ((sameSuccess_meaning_bare flags other).ok_iff _).1 alone

section Stripped

variable {α : Type}

/-- Of two meanings, both exist and leave the same flags in force, or neither exists. -/
def AgreeOnFlags (one other : Except SyntaxError (α × Flags)) : Prop :=
  ∀ after, (∃ term, one = .ok (term, after)) ↔ ∃ term, other = .ok (term, after)

namespace AgreeOnFlags

theorem refl (one : Except SyntaxError (α × Flags)) : AgreeOnFlags one one := fun _ => Iff.rfl

theorem bind {β : Type} {one other : Except SyntaxError (α × Flags)}
    {rest next : α × Flags → Except SyntaxError (β × Flags)} (heads : AgreeOnFlags one other)
    (rests : ∀ term twin flags, AgreeOnFlags (rest (term, flags)) (next (twin, flags))) :
    AgreeOnFlags (one >>= rest) (other >>= next) := by
  intro after
  simp only [bind_eq_ok_iff, Prod.exists]
  constructor
  · rintro ⟨result, term, flags, first, last⟩
    obtain ⟨twin, second⟩ := (heads flags).1 ⟨term, first⟩
    obtain ⟨result, last⟩ := (rests term twin flags after).1 ⟨result, last⟩
    exact ⟨result, twin, flags, second, last⟩
  · rintro ⟨result, twin, flags, second, last⟩
    obtain ⟨term, first⟩ := (heads flags).2 ⟨twin, second⟩
    obtain ⟨result, last⟩ := (rests term twin flags after).2 ⟨result, last⟩
    exact ⟨result, term, flags, first, last⟩

/-- Meanings that exist and leave the same flags. -/
theorem ok (one other : α) (flags : Flags) : AgreeOnFlags (.ok (one, flags)) (.ok (other, flags)) := by
  intro after
  constructor <;> rintro ⟨term, equal⟩ <;> cases equal <;> exact ⟨_, rfl⟩

end AgreeOnFlags

theorem groupFlags_strip (flags : Flags) (kind : GroupKind) (span : Span) :
    groupFlags flags (kind.strip span) = groupFlags flags kind := by
  cases kind <;> rfl

mutual

theorem agreeOnFlags_stripCaptures (flags : Flags) : (ast : Ast) →
    AgreeOnFlags (meaning flags ast.stripCaptures) (meaning flags ast)
  | .empty _ => .refl _
  | .flags _ _ => .refl _
  | .literal _ => .refl _
  | .dot _ => .refl _
  | .assertion _ _ => .refl _
  | .property _ => .refl _
  | .perl _ => .refl _
  | .bracketed _ _ _ => .refl _
  | .repetition _ _ _ sub =>
    (agreeOnFlags_stripCaptures flags sub).bind fun _ _ _ => .ok _ _ _
  | .group span kind sub => by
    rw [Ast.stripCaptures_group]
    simp only [meaning, groupFlags_strip]
    exact (agreeOnFlags_stripCaptures _ sub).bind fun _ _ _ => .ok _ _ _
  | .alternation _ branches => by
    rw [Ast.stripCaptures_alternation]
    exact (agreeOnFlags_stripAll flags branches).bind fun _ _ _ => .ok _ _ _
  | .concat _ items => by
    rw [Ast.stripCaptures_concat]
    exact (agreeOnFlags_stripAll flags items).bind fun _ _ _ => .ok _ _ _

theorem agreeOnFlags_stripAll (flags : Flags) : (items : List Ast) →
    AgreeOnFlags (meanings flags (items.map Ast.stripCaptures)) (meanings flags items)
  | [] => .refl _
  | item :: rest =>
    (agreeOnFlags_stripCaptures flags item).bind fun _ _ after =>
      (agreeOnFlags_stripAll after rest).bind fun _ _ _ => .ok _ _ _

end

end Stripped

end SchemaMatch.Regex
