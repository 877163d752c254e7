import SchemaMatch.Proofs.Syntax.Gather

/-!
# Patterns that skip no blanks

A pattern skips blanks and comments if the options say so, or after a switch of flags in it. The
flags of a pattern are those that its tree holds.
-/

namespace SchemaMatch.Syntax

def GroupKind.flagLists : GroupKind → List FlagList
  | nonCapturing flags => [flags]
  | _ => []

mutual

def Ast.flagLists : Ast → List FlagList
  | .flags _ list => [list]
  | .repetition _ _ _ sub => sub.flagLists
  | .group _ kind sub => kind.flagLists ++ sub.flagLists
  | .alternation _ branches => Ast.flagListsAll branches
  | .concat _ items => Ast.flagListsAll items
  | _ => []

def Ast.flagListsAll : List Ast → List FlagList
  | [] => []
  | item :: rest => item.flagLists ++ Ast.flagListsAll rest

end

theorem Ast.flagListsAll_eq_flatMap (items : List Ast) :
    Ast.flagListsAll items = items.flatMap Ast.flagLists := by
  induction items with
  | nil => rfl
  | cons item rest ih => rw [Ast.flagListsAll, ih, List.flatMap_cons]

theorem Ast.gathers_flagLists : GathersInside Ast.flagLists GroupKind.flagLists where
  empty _ := rfl
  alternation _ branches := flagListsAll_eq_flatMap branches
  concat _ items := flagListsAll_eq_flatMap items
  repetition _ _ _ _ := rfl
  group _ _ _ := rfl

def FlagList.isTerse (list : FlagList) : Bool := list.state? .ignoreWhitespace != some true

theorem FlagList.getD_of_isTerse {list : FlagList} (terse : list.isTerse = true) :
    (list.state? .ignoreWhitespace).getD false = false := by
  unfold isTerse at terse
  cases state : list.state? .ignoreWhitespace with
  | none => rfl
  | some on =>
    cases on with
    | true =>
      rw [state] at terse
      cases terse
    | false => rfl

/-- A tree none of whose flags begin to skip blanks. -/
def Ast.isTerse (ast : Ast) : Bool := ast.flagLists.all FlagList.isTerse

/-- A group whose flags do not begin to skip blanks skips none if nothing around it does. -/
theorem GroupKind.verbose_of_isTerse {kind : GroupKind}
    (terse : ∀ list ∈ kind.flagLists, list.isTerse = true) : kind.verbose false = false := by
  cases kind with
  | captureIndex index => rfl
  | captureName startsWithP name => rfl
  | nonCapturing flags => exact FlagList.getD_of_isTerse (terse flags List.mem_cons_self)

namespace Reader

/-- A reader skips no blanks, and will skip none after the groups that are open. -/
structure IsTerse (reader : Reader) : Prop where
  cursor : reader.cursor.verbose = false
  frames : ∀ frame ∈ reader.frames, frame.verbose = false

/-- No flags that have been read begin to skip blanks. -/
def SwitchesTerse (reader : Reader) : Prop :=
  ∀ list ∈ reader.gather Ast.flagLists GroupKind.flagLists, list.isTerse = true

theorem switchesTerse_of_run {octalAllowed : Bool} {bound : Nat} {reader : Reader} {ast : Ast}
    (success : reader.run octalAllowed bound = .ok ast) (terse : ast.isTerse = true) :
    reader.SwitchesTerse := fun list member =>
  List.all_eq_true.1 terse list ((gather_run Ast.gathers_flagLists success).subset member)

end Reader

end SchemaMatch.Syntax
