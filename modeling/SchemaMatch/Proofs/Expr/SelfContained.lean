import SchemaMatch.Fragment
import SchemaMatch.Proofs.Syntax.Nesting
import SchemaMatch.Proofs.Syntax.Tail.Reader

/-!
# Self-contained fragments

The pattern of a tree puts each fragment in a group of its own. The group holds the fragment if the
fragment is self-contained: read alone it is a pattern without captures, and a parenthesis after it
is not hidden by a comment that it leaves open. Blanks and comments that a normal form has lost may
have kept it from being self-contained, so this is a condition and no theorem.
-/

namespace SchemaMatch

open Syntax

/-- A text is a pattern that captures nothing and leaves no comment open. -/
def Fragment.IsSelfContained (options : Options) (text : String) : Prop :=
  ∃ ast, Ast.parse options text = .ok ast ∧ ast.groups = [] ∧
    ∀ other, Ast.parse options (text ++ ")") ≠ .ok other

namespace Syntax

/-- The tree of a pattern, without places; of what is no pattern, the empty one. -/
def bareTree (options : Options) (text : String) : Ast :=
  match Ast.parse options text with
  | .ok ast => ast.bare
  | .error _ => .empty .nowhere

theorem bareTree_of_parse {options : Options} {text : String} {ast : Ast}
    (success : Ast.parse options text = .ok ast) : bareTree options text = ast.bare := by
  rw [bareTree, success]

theorem leadsTo_of_isSelfContained {options : Options} {text : String}
    (contained : Fragment.IsSelfContained options text) {reader : Reader} {more : List Char}
    (rest : reader.cursor.rest = text.toList ++ ')' :: more)
    (verbose : reader.cursor.verbose = options.ignoreWhitespace)
    (level : reader.level.bare = ⟨Position.first, [], none⟩) :
    ∃ result, Reader.LeadsTo options.octal reader result ∧
      result.cursor.skip.rest = ')' :: more ∧
      (∀ position, (result.level.toAst position).bare = bareTree options text) ∧
      result.frames = reader.frames ∧ result.nextIndex = reader.nextIndex ∧
      result.names = reader.names := by
  obtain ⟨ast, success, plain, closes⟩ := contained
  obtain ⟨read, passes⟩ := parse_eq_ok_iff.1 success
  have enough : (Reader.ofString options.ignoreWhitespace text).cursor.rest.length ≤
      text.toList.length := Nat.le_refl _
  obtain ⟨hidden, hides, reaches⟩ := Reader.endsInside_of_run enough read plain
  rw [bareTree_of_parse success]
  cases hidden with
  | true =>
    -- With only the parenthesis after it, the text would read to its end.
    let long := Reader.ofString options.ignoreWhitespace (text ++ ")")
    have inside : (Reader.ofString options.ignoreWhitespace text).Inside [')'] [] 1 [] long :=
      ⟨⟨by simp [long, Reader.ofString, Cursor.ofString], rfl⟩, rfl, ⟨[], rfl, rfl⟩, rfl, rfl⟩
    obtain ⟨twin, again, same⟩ :=
      hides rfl [')'] 1 [] long ⟨rfl, fun _ => rfl⟩ inside _ (Nat.le_refl _)
    exact absurd (parse_eq_ok_iff.2 ⟨again, Ast.checkNesting_of_bare same passes⟩) (closes twin)
  | false =>
    exact reaches rfl (')' :: more) reader.frames reader.nextIndex reader.names reader
      ⟨rfl, nofun⟩ ⟨⟨rest, verbose⟩, level, ⟨[], rfl, rfl⟩, rfl, rfl⟩

end Syntax

end SchemaMatch
