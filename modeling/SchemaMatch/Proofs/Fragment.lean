import SchemaMatch.Proofs.Expr.SelfContained
import SchemaMatch.Proofs.Regex.Meaning
import SchemaMatch.Proofs.Syntax.Print.Reader

/-!
# Normal forms of fragments

The normal form of a fragment reads as the fragment without its captures, if the fragment is
verbatim: it is read with blanks as they are, and writes no character in octal. Without a condition
this fails. Blanks that are ignored are not printed, and an octal escape is printed without its
leading zeros, so that what was apart may be read as one. Verbatim fragments are also self-contained,
which is what the meaning of a composed pattern depends on.
-/

namespace SchemaMatch.Fragment

open Syntax (Ast Cursor Follows Reader Unoctal parse_eq_ok_iff refuse)
open Regex (Term Flags meaning)

/-- A pattern in no part of which blanks are ignored, whether there are any or not: neither the
options nor a switch of its own say so. It writes no character in octal either. -/
structure IsVerbatim (options : Options) (pattern : String) : Prop where
  terse : options.ignoreWhitespace = false
  switches : ∀ tree, Ast.parse options pattern = .ok tree → tree.isTerse = true
  unoctal : options.octal = true →
    ∀ tree, Ast.parse options pattern = .ok tree → tree.hasNoOctal = true

variable {options : Options} {pattern : String} {tree : Ast}

/-- A verbatim pattern is read again where it is printed without its captures, up to the end or to
a parenthesis after it. -/
theorem exists_leadsTo (verbatim : IsVerbatim options pattern)
    (success : Ast.parse options pattern = .ok tree) {tail : List Char} (closed : Follows [] tail)
    {long : Reader} (before : long.cursor.Before (tree.stripCaptures.print ++ tail))
    (level : long.level.bare = ⟨.first, [], none⟩) (frames : long.frames = []) :
    ∃ last, Reader.LeadsTo options.octal long last ∧ last.cursor.Before tail ∧ last.frames = [] ∧
      ∀ position, (last.level.toAst position).bare = tree.stripCaptures.bare := by
  obtain ⟨read, _⟩ := parse_eq_ok_iff.1 success
  have plain : Unoctal options.octal tree.literals := fun allows literal member => by
    simpa using List.all_eq_true.1 (verbatim.unoctal allows tree success) literal member
  have terse : (Reader.ofString options.ignoreWhitespace pattern).IsTerse :=
    ⟨verbatim.terse, fun _ member => absurd member List.not_mem_nil⟩
  have enough : (Reader.ofString options.ignoreWhitespace pattern).cursor.rest.length ≤
      pattern.toList.length := Nat.le_refl _
  obtain ⟨spelled, reruns⟩ := Reader.reruns_of_run terse enough
    (Reader.run_of_unoctal false read plain) (verbatim.switches tree success)
  rw [reruns.print] at before
  have twin : (Reader.ofString options.ignoreWhitespace pattern).Twin long := ⟨level, by
    rw [frames]
    rfl⟩
  exact reruns.again options.octal tail long closed before twin

theorem exists_parse_render (verbatim : IsVerbatim options pattern)
    (success : Ast.parse options pattern = .ok tree) :
    ∃ twin, Ast.parse options tree.stripCaptures.render = .ok twin ∧
      twin.bare = tree.stripCaptures.bare := by
  obtain ⟨_, passes⟩ := parse_eq_ok_iff.1 success
  let long := Reader.ofString options.ignoreWhitespace tree.stripCaptures.render
  have before : long.cursor.Before (tree.stripCaptures.print ++ []) := ⟨by
    rw [List.append_nil]
    exact String.toList_ofList, verbatim.terse⟩
  obtain ⟨last, leads, ends, none, same⟩ :=
    exists_leadsTo verbatim success (.ended (.inl rfl)) before rfl rfl
  obtain ⟨fewer, _, equal⟩ := leads _ (Nat.le_refl _)
  have ended : last.cursor.skip.rest = [] := by rw [ends.skip, ends.rest]
  obtain ⟨position, reads⟩ := Reader.run_of_ended ended none fewer
  have deep := (Ast.checkNesting_stripCaptures options.nestLimit 0 tree).trans passes
  exact ⟨_, parse_eq_ok_iff.2 ⟨equal.trans reads, Ast.checkNesting_of_bare (same position) deep⟩,
    same position⟩

/-- A normal form is what the tree prints as without captures, if that has a meaning. -/
theorem normalize_eq_ok_iff {text : String} : normalize options pattern = .ok text ↔
    ∃ tree, Ast.parse options pattern = .ok tree ∧ tree.stripCaptures.render = text ∧
      ∃ term, Term.parse options text = .ok term := by
  simp only [normalize, stripped, bind_eq_ok_iff, Except.ok.injEq]
  constructor
  · rintro ⟨_, ⟨tree, read, rfl⟩, term, means, rfl⟩
    exact ⟨tree, read, rfl, term, means⟩
  · rintro ⟨tree, read, rfl, term, means⟩
    exact ⟨_, ⟨tree, read, rfl⟩, term, means, rfl⟩

theorem exists_term_iff {text : String} {twin : Ast}
    (success : Ast.parse options pattern = .ok tree) (again : Ast.parse options text = .ok twin)
    (same : twin.bare = tree.stripCaptures.bare) :
    (∃ term, Term.parse options text = .ok term) ↔ ∃ term, Term.parse options pattern = .ok term := by
  have agree := Regex.agreeOnFlags_stripCaptures (Flags.ofOptions options) tree
  simp only [Term.parse, success, again, ok_bind, bind_eq_ok_iff, Except.ok.injEq, Prod.exists]
  constructor
  · rintro ⟨term, _, after, means, rfl⟩
    obtain ⟨term, means⟩ := (agree after).1 ⟨_, Regex.meaning_of_bare same.symm means⟩
    exact ⟨term, term, after, means, rfl⟩
  · rintro ⟨term, _, after, means, rfl⟩
    obtain ⟨term, means⟩ := (agree after).2 ⟨_, means⟩
    exact ⟨term, term, after, Regex.meaning_of_bare same means, rfl⟩

/-- Normalising a verbatim fragment only removes captures: there is a normal form if and only if the
fragment is a pattern with a meaning, and it reads as the tree of the fragment without captures, but
for places. -/
theorem normalize_strips (options : Options) (pattern : String)
    (verbatim : IsVerbatim options pattern) :
    ((∃ text, normalize options pattern = .ok text) ↔
        ∃ term, Term.parse options pattern = .ok term) ∧
      ∀ text, normalize options pattern = .ok text →
        ∃ tree twin, Ast.parse options pattern = .ok tree ∧ Ast.parse options text = .ok twin ∧
          twin.bare = tree.stripCaptures.bare := by
  refine ⟨⟨?_, ?_⟩, ?_⟩
  · rintro ⟨text, normal⟩
    obtain ⟨tree, read, rfl, means⟩ := normalize_eq_ok_iff.1 normal
    obtain ⟨twin, again, same⟩ := exists_parse_render verbatim read
    exact (exists_term_iff read again same).1 means
  · rintro ⟨term, means⟩
    obtain ⟨tree, read, _⟩ := bind_eq_ok_iff.1 means
    obtain ⟨twin, again, same⟩ := exists_parse_render verbatim read
    exact ⟨_, normalize_eq_ok_iff.2
      ⟨tree, read, rfl, (exists_term_iff read again same).2 ⟨term, means⟩⟩⟩
  · intro text normal
    obtain ⟨tree, read, rfl, _⟩ := normalize_eq_ok_iff.1 normal
    obtain ⟨twin, again, same⟩ := exists_parse_render verbatim read
    exact ⟨tree, twin, read, again, same⟩

/-- A group in a repeated group, with a lazy operator, a class and a count. -/
def sampleText : String := "((a)+?[^b])x{02,}"

theorem isVerbatim_sampleText : IsVerbatim {} sampleText := by
  have alone : (Ast.parse {} sampleText).toOption.map Ast.isTerse = some true := rfl
  refine ⟨rfl, fun tree success => ?_, fun impossible => Bool.noConfusion impossible⟩
  rw [success] at alone
  exact Option.some.inj alone

/-- The normal form of `sampleText` reads as its tree without captures. -/
theorem normalize_strips_sampleText :
    normalize {} sampleText = .ok "(?:(?:a)+?[^b])x{2,}" ∧
      ∃ tree twin, Ast.parse {} sampleText = .ok tree ∧
        Ast.parse {} "(?:(?:a)+?[^b])x{2,}" = .ok twin ∧ twin.bare = tree.stripCaptures.bare :=
  ⟨rfl, (normalize_strips {} sampleText isVerbatim_sampleText).2 _ rfl⟩

/-- Without the blank between them, two operators are read as a lazy one. -/
theorem normalize_spacedOperator :
    normalize { ignoreWhitespace := true } "a+ ?" = .ok "a+?" ∧
      ∃ tree twin, Ast.parse { ignoreWhitespace := true } "a+ ?" = .ok tree ∧
        Ast.parse { ignoreWhitespace := true } "a+?" = .ok twin ∧
        twin.bare ≠ tree.stripCaptures.bare :=
  ⟨rfl, _, _, rfl, rfl, nofun⟩

/-- Without its leading zeros, an octal escape takes the digit after it. -/
theorem normalize_shortenedOctal :
    normalize { octal := true } "\\0012" = .ok "\\12" ∧
      ∃ tree twin, Ast.parse { octal := true } "\\0012" = .ok tree ∧
        Ast.parse { octal := true } "\\12" = .ok twin ∧ twin.bare ≠ tree.stripCaptures.bare :=
  ⟨rfl, _, _, rfl, rfl, nofun⟩

theorem isSelfContained_of_normalize {text : String} (verbatim : IsVerbatim options pattern)
    (normal : normalize options pattern = .ok text) : IsSelfContained options text := by
  obtain ⟨tree, read, rfl, _⟩ := normalize_eq_ok_iff.1 normal
  obtain ⟨twin, again, same⟩ := exists_parse_render verbatim read
  refine ⟨twin, again, ?_, fun other success => ?_⟩
  · rw [Ast.groups_of_bare same, Ast.groups_stripCaptures]
  · obtain ⟨reads, _⟩ := parse_eq_ok_iff.1 success
    let long := Reader.ofString options.ignoreWhitespace (tree.stripCaptures.render ++ ")")
    have before : long.cursor.Before (tree.stripCaptures.print ++ [')']) := ⟨by
      simp [long, Reader.ofString, Cursor.ofString, Ast.render], verbatim.terse⟩
    obtain ⟨last, leads, ends, none, _⟩ :=
      exists_leadsTo verbatim read (.ended (.inr rfl)) before rfl rfl
    obtain ⟨fewer, enough, equal⟩ := leads _ (Nat.le_refl _)
    -- The parenthesis closes no group.
    rw [ends.rest] at enough
    obtain ⟨fewer, rfl⟩ : ∃ least, fewer = least + 1 := ⟨fewer - 1, by
      rw [List.length_singleton] at enough
      omega⟩
    have refused : last.run options.octal (fewer + 1) ≠ .ok other := by
      simp only [Reader.run, ends.skip, ends.peek?, List.head?_cons, Reader.step, Reader.closing,
        none, refuse, error_bind]
      intro impossible
      cases impossible
    exact refused (equal.symm.trans reads)

end SchemaMatch.Fragment
