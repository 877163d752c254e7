import SchemaMatch.Regex.PositionSet
import SchemaMatch.Regex.Term

/-!
# Where matches can start

Before a term is matched from a position, it is known cheaply that it cannot match from most of the
others. `Term.starts` walks a term from its end to its front and keeps the positions from which the
end may be reached. It keeps every position from which a match starts. Since a repetition only asks
which characters its body mentions, it may keep more.
-/

namespace SchemaMatch.Regex

open Unicode (CodeSet)

namespace Subject

def positionsOf (subject : Subject) (sets : List CodeSet) : PositionSet :=
  .filterUpTo subject.size fun position =>
    (subject.after? position).any fun c => sets.any (·.has c)

def positionsWhere (subject : Subject) (condition : Look) : PositionSet :=
  .filterUpTo subject.size fun position => condition.holds subject position

def startsOfText (subject : Subject) : List Char → PositionSet → PositionSet
  | [], targets => targets
  | c :: rest, targets =>
    (subject.startsOfText rest targets).before.inter
      (subject.positionsOf [CodeSet.single c.toNat])

def positions (subject : Subject) : PositionSet := .upTo subject.size

end Subject

namespace Term

def sets : Term → List CodeSet
  | literal text => text.map fun c => CodeSet.single c.toNat
  | chars _ set => [set]
  | rep _ _ _ sub => sub.sets
  | capture _ sub => sub.sets
  | seq first second => first.sets ++ second.sets
  | alt first second => first.sets ++ second.sets
  | _ => []

def starts (subject : Subject) : Term → PositionSet → PositionSet
  | empty, targets => targets
  | literal text, targets => subject.startsOfText text targets
  | chars _ set, targets => targets.before.inter (subject.positionsOf [set])
  | look condition, targets => targets.inter (subject.positionsWhere condition)
  | capture _ sub, targets => sub.starts subject targets
  | seq first second, targets => first.starts subject (second.starts subject targets)
  | alt first second, targets =>
    (first.starts subject targets).union (second.starts subject targets)
  | rep min _ _ sub, targets =>
    let through := subject.positionsOf sub.sets
    let reaching := PositionSet.leadingTo subject.size targets through
    match sub.oneChar? with
    | some _ => if min = 0 then reaching else reaching.before.inter through
    | none => reaching

def possibleStarts (subject : Subject) (term : Term) : PositionSet :=
  term.starts subject subject.positions

end Term

end SchemaMatch.Regex
