import SchemaMatch.Expr.Json
import SchemaMatch.Proofs.Compilation.Slots
import SchemaMatch.Proofs.Json.Nesting
import SchemaMatch.Proofs.Json.Number

/-!
# Trees in JSON and back

A tree that is written reads again as the tree that it was, unless its text is nested too deeply;
then it does not read at all. Whatever text a tree has been read from, its own text is one that can
be read. The main statement is `Expr.ofJson?_toJson`.
-/

namespace SchemaMatch

namespace Expr

open Json (Value)

mutual

def toValue : Expr → Value
  | fragment text => .object [(some "Fragment", .string (some text))]
  | concat items => .object [(some "Concat", .array (toValueAll items))]
  | capture slot name expr => .object [(some "Capture", .object
      [(some "slot", .nat slot), (some "name", .string (some name)), (some "expr", toValue expr)])]
  | optional expr => .object [(some "Optional", toValue expr)]
  | alternation branches => .object [(some "Alternation", .array (toValueAll branches))]

def toValueAll : List Expr → List Value
  | [] => []
  | expr :: rest => toValue expr :: toValueAll rest

end

mutual

/-- The levels that the text of a tree is nested. A node takes one level for its kind, and one more
if it has several parts or fields. -/
def levels : Expr → Nat
  | fragment _ => 1
  | concat items => levelsAll items + 2
  | capture _ _ expr => levels expr + 2
  | optional expr => levels expr + 1
  | alternation branches => levelsAll branches + 2

def levelsAll : List Expr → Nat
  | [] => 0
  | expr :: rest => max (levels expr) (levelsAll rest)

end

/-- Every slot is a number of 64 bits. -/
def SlotsFit (captures : List (Nat × String)) : Prop := ∀ label ∈ captures, label.1 < UInt64.size

theorem slotsFit_append {front back : List (Nat × String)} :
    SlotsFit (front ++ back) ↔ SlotsFit front ∧ SlotsFit back := by
  simp only [SlotsFit, List.forall_mem_append]

/-! ### Writing -/

open Json.Reader (Reads reads_quote reads_toString reads_arrayText reads_objectText reads_single)

mutual

theorem reads_toJson : (expr : Expr) → SlotsFit expr.captures →
    Reads expr.toJson.toList expr.toValue
  | fragment text, _ => by
    rw [toJson, toValue]
    exact reads_single (reads_quote text)
  | concat items, fit => by
    rw [toJson, toValue]
    exact reads_single (reads_arrayText (reads_toJsonAll items fit))
  | capture slot name expr, fit => by
    obtain ⟨own, rest⟩ := List.forall_mem_cons.1 fit
    have fields : List.Forall₂ (fun (text : String × String) (value : String × Value) =>
        text.1 = value.1 ∧ Reads text.2.toList value.2)
        [("slot", toString slot), ("name", Json.quote name), ("expr", toJson expr)]
        [("slot", .nat slot), ("name", .string (some name)), ("expr", toValue expr)] :=
      .cons ⟨rfl, reads_toString own⟩
        (.cons ⟨rfl, reads_quote name⟩ (.cons ⟨rfl, reads_toJson expr rest⟩ .nil))
    rw [toJson, toValue]
    exact reads_single (reads_objectText fields (List.cons_ne_nil _ _))
  | optional expr, fit => by
    rw [toJson, toValue]
    exact reads_single (reads_toJson expr fit)
  | alternation branches, fit => by
    rw [toJson, toValue]
    exact reads_single (reads_arrayText (reads_toJsonAll branches fit))

theorem reads_toJsonAll : (exprs : List Expr) → SlotsFit (capturesAll exprs) →
    List.Forall₂ (fun text value => Reads text.toList value) (toJsonAll exprs) (toValueAll exprs)
  | [], _ => .nil
  | expr :: rest, fit => by
    rw [capturesAll_cons, slotsFit_append] at fit
    rw [toJsonAll, toValueAll]
    exact .cons (reads_toJson expr fit.1) (reads_toJsonAll rest fit.2)

end

open Json.Nesting (Nests nests_quote nests_toString nests_arrayText nests_objectText nests_single)

mutual

theorem nests_toJson : (expr : Expr) → Nests expr.toJson.toList expr.levels
  | fragment text => by
    rw [toJson, levels]
    exact nests_single "Fragment" (nests_quote text)
  | concat items => by
    obtain ⟨each, deepest, nests⟩ := nests_toJsonAll items
    rw [toJson, levels, ← deepest]
    exact nests_single "Concat" (nests_arrayText nests)
  | capture slot name expr => by
    have fields : List.Forall₂ (fun (text : String × String) levels => Nests text.2.toList levels)
        [("slot", toString slot), ("name", Json.quote name), ("expr", toJson expr)]
        [0, 0, expr.levels] :=
      .cons (nests_toString slot) (.cons (nests_quote name) (.cons (nests_toJson expr) .nil))
    have record := nests_objectText fields
    simp only [List.foldr_cons, List.foldr_nil, Nat.max_zero, Nat.zero_max] at record
    rw [toJson, levels]
    exact nests_single "Capture" record
  | optional expr => by
    rw [toJson, levels]
    exact nests_single "Optional" (nests_toJson expr)
  | alternation branches => by
    obtain ⟨each, deepest, nests⟩ := nests_toJsonAll branches
    rw [toJson, levels, ← deepest]
    exact nests_single "Alternation" (nests_arrayText nests)

theorem nests_toJsonAll : (exprs : List Expr) → ∃ each : List Nat,
    each.foldr max 0 = levelsAll exprs ∧
      List.Forall₂ (fun text levels => Nests text.toList levels) (toJsonAll exprs) each
  | [] => ⟨[], rfl, .nil⟩
  | expr :: rest => by
    obtain ⟨each, deepest, nests⟩ := nests_toJsonAll rest
    exact ⟨expr.levels :: each, by rw [List.foldr_cons, deepest, levelsAll],
      .cons (nests_toJson expr) nests⟩

end

theorem parse?_toJson {expr : Expr} (fit : SlotsFit expr.captures) :
    Value.parse? expr.toJson = some expr.toValue :=
  Value.parse?_of_reads (reads_toJson expr fit)

/-- The text of a tree is nested as deeply as its levels say. -/
theorem nesting_toJson (expr : Expr) : Json.nesting expr.toJson = expr.levels :=
  Json.nesting_of_nests (nests_toJson expr)

/-! ### Reading -/

mutual

/-- The value of a tree describes this tree, as far as the levels go. -/
theorem ofValue?_toValue : (expr : Expr) → (bound : Nat) →
    ofValue? bound expr.toValue = if expr.levels ≤ bound then some expr else none
  | fragment text, 0 => rfl
  | fragment text, bound + 1 => by
    rw [toValue, ofValue?, levels, if_pos (by omega)]
    rfl
  | concat items, 0 => rfl
  | concat items, 1 => by
    rw [toValue, levels, if_neg (by omega)]
    rfl
  | concat items, bound + 2 => by
    rw [toValue, ofValue?, mapM_toValueAll items bound, levels]
    by_cases fits : levelsAll items ≤ bound
    · rw [if_pos fits, if_pos (by omega)]
      rfl
    · rw [if_neg fits, if_neg (by omega)]
      rfl
  | capture slot name expr, 0 => rfl
  | capture slot name expr, 1 => by
    rw [toValue, levels, if_neg (by omega)]
    rfl
  | capture slot name expr, bound + 2 => by
    have record : Json.record? ["slot", "name", "expr"] (.object [(some "slot", .nat slot),
        (some "name", .string (some name)), (some "expr", toValue expr)]) =
        some [.nat slot, .string (some name), toValue expr] := rfl
    rw [toValue, ofValue?, record, levels]
    have inner := ofValue?_toValue expr bound
    by_cases fits : expr.levels ≤ bound
    · rw [if_pos fits] at inner
      rw [if_pos (by omega)]
      simp only [Value.nat?, Value.text?, Option.bind_eq_bind, Option.bind_some, inner]
      rfl
    · rw [if_neg fits] at inner
      rw [if_neg (by omega)]
      simp only [Value.nat?, Value.text?, Option.bind_eq_bind, Option.bind_some, inner]
      rfl
  | optional expr, 0 => rfl
  | optional expr, bound + 1 => by
    rw [toValue, ofValue?, ofValue?_toValue expr bound, levels]
    by_cases fits : expr.levels ≤ bound
    · rw [if_pos fits, if_pos (by omega)]
      rfl
    · rw [if_neg fits, if_neg (by omega)]
      rfl
  | alternation branches, 0 => rfl
  | alternation branches, 1 => by
    rw [toValue, levels, if_neg (by omega)]
    rfl
  | alternation branches, bound + 2 => by
    rw [toValue, ofValue?, mapM_toValueAll branches bound, levels]
    by_cases fits : levelsAll branches ≤ bound
    · rw [if_pos fits, if_pos (by omega)]
      rfl
    · rw [if_neg fits, if_neg (by omega)]
      rfl

theorem mapM_toValueAll : (exprs : List Expr) → (bound : Nat) →
    (toValueAll exprs).mapM (ofValue? bound) =
      if levelsAll exprs ≤ bound then some exprs else none
  | [], _ => rfl
  | expr :: rest, bound => by
    rw [toValueAll, List.mapM_cons, ofValue?_toValue expr bound, mapM_toValueAll rest bound,
      levelsAll]
    by_cases first : expr.levels ≤ bound
    · by_cases others : levelsAll rest ≤ bound
      · rw [if_pos first, if_pos others, if_pos (by omega)]
        rfl
      · rw [if_pos first, if_neg others, if_neg (by omega)]
        rfl
    · have deeper : ¬max expr.levels (levelsAll rest) ≤ bound := by omega
      rw [if_neg first, if_neg deeper]
      rfl

end

/-- A tree whose slots are numbers of 64 bits reads from its text if that is not nested too deeply,
and no tree reads from it otherwise. -/
theorem ofJson?_of_slotsFit {expr : Expr} (fit : SlotsFit expr.captures) :
    ofJson? expr.toJson = if expr.levels ≤ maxLevels then some expr else none := by
  rw [ofJson?, parse?_toJson fit]
  exact ofValue?_toValue expr maxLevels

/-- What a value describes within some levels, for each kind of node. -/
inductive Described : Nat → Value → Expr → Prop
  | fragment {bound : Nat} {value : Value} {text : String} (read : value.text? = some text) :
      Described (bound + 1) (.object [(some "Fragment", value)]) (.fragment text)
  | concat {bound : Nat} {values : List Value} {items : List Expr}
      (read : values.mapM (ofValue? bound) = some items) :
      Described (bound + 2) (.object [(some "Concat", .array values)]) (.concat items)
  | capture {bound slot : Nat} {value first second third : Value} {name : String} {expr : Expr}
      (record : Json.record? ["slot", "name", "expr"] value = some [first, second, third])
      (number : first.nat? = some slot) (text : second.text? = some name)
      (read : ofValue? bound third = some expr) :
      Described (bound + 2) (.object [(some "Capture", value)]) (.capture slot name expr)
  | optional {bound : Nat} {value : Value} {expr : Expr} (read : ofValue? bound value = some expr) :
      Described (bound + 1) (.object [(some "Optional", value)]) (.optional expr)
  | alternation {bound : Nat} {values : List Value} {branches : List Expr}
      (read : values.mapM (ofValue? bound) = some branches) :
      Described (bound + 2) (.object [(some "Alternation", .array values)])
        (.alternation branches)

theorem described_of_ofValue? {bound : Nat} {value : Value} {expr : Expr}
    (read : ofValue? bound value = some expr) : Described bound value expr := by
  unfold ofValue? at read
  split at read
  · obtain ⟨items, each, rfl⟩ := Option.map_eq_some_iff.1 read
    exact .concat each
  · obtain ⟨branches, each, rfl⟩ := Option.map_eq_some_iff.1 read
    exact .alternation each
  · obtain ⟨fields, record, read⟩ := Option.bind_eq_some_iff.1 read
    split at read
    · simp only [Option.bind_eq_bind, Option.bind_eq_some_iff] at read
      obtain ⟨slot, number, name, text, expr, inner, same⟩ := read
      cases same
      exact .capture record number text inner
    · cases read
  · obtain ⟨expr, inner, rfl⟩ := Option.map_eq_some_iff.1 read
    exact .optional inner
  · obtain ⟨text, inner, rfl⟩ := Option.map_eq_some_iff.1 read
    exact .fragment inner
  · cases read

theorem exists_of_mem_mapM {α β : Type} {f : α → Option β} {inputs : List α} {outputs : List β}
    (success : inputs.mapM f = some outputs) :
    ∀ output ∈ outputs, ∃ input ∈ inputs, f input = some output := by
  induction inputs generalizing outputs with
  | nil =>
    cases success
    exact nofun
  | cons input rest ih =>
    simp only [List.mapM_cons, Option.bind_eq_bind, Option.bind_eq_some_iff] at success
    obtain ⟨first, here, others, more, same⟩ := success
    cases same
    intro output member
    rcases List.mem_cons.1 member with rfl | member
    · exact ⟨input, List.mem_cons_self, here⟩
    · obtain ⟨found, among, gives⟩ := ih more output member
      exact ⟨found, List.mem_cons_of_mem _ among, gives⟩

theorem levelsAll_le {exprs : List Expr} {bound : Nat}
    (each : ∀ expr ∈ exprs, expr.levels ≤ bound) : levelsAll exprs ≤ bound := by
  induction exprs with
  | nil => exact Nat.zero_le bound
  | cons expr rest ih =>
    obtain ⟨first, others⟩ := List.forall_mem_cons.1 each
    exact Nat.max_le.2 ⟨first, ih others⟩

theorem slotsFit_capturesAll {exprs : List Expr}
    (each : ∀ expr ∈ exprs, SlotsFit expr.captures) : SlotsFit (capturesAll exprs) := by
  induction exprs with
  | nil => exact nofun
  | cons expr rest ih =>
    obtain ⟨first, others⟩ := List.forall_mem_cons.1 each
    rw [capturesAll_cons, slotsFit_append]
    exact ⟨first, ih others⟩

theorem isPart_of_mem_record? {names : List String} {value field : Value} {fields : List Value}
    (record : Json.record? names value = some fields) (member : field ∈ fields) :
    field.IsPart value := by
  unfold Json.record? at record
  split at record
  · rename_i members
    split at record
    · obtain ⟨name, _, only⟩ := exists_of_mem_mapM record field member
      unfold Json.onlyMember? at only
      split at only
      · rename_i key held single
        cases only
        have among : (key, field) ∈ members.filter (·.1 == some name) := by
          rw [single]
          exact List.mem_cons_self
        exact .member (List.mem_filter.1 among).1 .self
      · cases only
    · cases record
  · split at record
    · cases record
      exact .item member .self
    · cases record
  · cases record

/-- A tree has at most some levels, and its slots are numbers of 64 bits. -/
def Fits (bound : Nat) (expr : Expr) : Prop := expr.levels ≤ bound ∧ SlotsFit expr.captures

/-- A tree that has been read within some levels has no more of them, and its slots are numbers of
64 bits if those in the value are. -/
theorem fits_of_ofValue? {bound : Nat} {value : Value} {expr : Expr}
    (read : ofValue? bound value = some expr) (numbers : value.NumbersFit) : expr.Fits bound := by
  induction bound using Nat.strongRecOn generalizing value expr with
  | ind bound ih =>
    -- the parts of a node with several parts have two levels less
    have each {less : Nat} {kind : String} {values : List Value} {parts : List Expr}
        (fewer : less < bound) (fit : (Value.object [(some kind, .array values)]).NumbersFit)
        (read : values.mapM (ofValue? less) = some parts) :
        levelsAll parts ≤ less ∧ SlotsFit (capturesAll parts) := by
      have all : ∀ part ∈ parts, part.Fits less := by
        intro part member
        obtain ⟨item, among, gives⟩ := exists_of_mem_mapM read part member
        exact ih less fewer gives
          (fit.of_isPart (.member List.mem_cons_self (.item among .self)))
      exact ⟨levelsAll_le fun part member => (all part member).1,
        slotsFit_capturesAll fun part member => (all part member).2⟩
    cases described_of_ofValue? read with
    | fragment _ => exact ⟨Nat.le_add_left 1 _, nofun⟩
    | concat inner =>
      obtain ⟨levels, slots⟩ := each (by omega) numbers inner
      exact ⟨Nat.add_le_add_right levels 2, slots⟩
    | alternation inner =>
      obtain ⟨levels, slots⟩ := each (by omega) numbers inner
      exact ⟨Nat.add_le_add_right levels 2, slots⟩
    | optional inner =>
      have held := numbers.of_isPart (.member List.mem_cons_self .self)
      obtain ⟨levels, slots⟩ := ih _ (by omega) inner held
      exact ⟨Nat.add_le_add_right levels 1, slots⟩
    | @capture less slot held first second third name expr record number text inner =>
      have fields := numbers.of_isPart (.member List.mem_cons_self .self)
      have own : (Value.nat slot).IsPart held := by
        have same : first = .nat slot := by
          cases first <;> cases number
          rfl
        exact same ▸ isPart_of_mem_record? record List.mem_cons_self
      have last : third.IsPart held := isPart_of_mem_record? record (by simp)
      obtain ⟨levels, slots⟩ := ih less (by omega) inner (fields.of_isPart last)
      exact ⟨Nat.add_le_add_right levels 2, List.forall_mem_cons.2 ⟨fields slot own, slots⟩⟩

theorem fits_of_ofJson? {text : String} {expr : Expr} (read : ofJson? text = some expr) :
    expr.Fits maxLevels := by
  obtain ⟨value, parsed, inner⟩ := Option.bind_eq_some_iff.1 read
  exact fits_of_ofValue? inner (Value.numbersFit_of_parse? parsed)

/-- A tree whose slots are numbers of 64 bits reads from its own text as the tree that it is, if the
text is nested in fewer than 128 levels, and as none otherwise. A tree that reads from any text, in
whatever way it is written there, reads from its own text. -/
theorem ofJson?_toJson :
    (∀ expr : Expr, (∀ label ∈ expr.captures, label.1 < UInt64.size) →
      ofJson? expr.toJson = if Json.nesting expr.toJson < 128 then some expr else none) ∧
    ∀ text expr, ofJson? text = some expr → ofJson? expr.toJson = some expr := by
  constructor
  · intro expr fit
    have within : Json.nesting expr.toJson < 128 ↔ expr.levels ≤ maxLevels := by
      rw [nesting_toJson, maxLevels]
      omega
    simp only [ofJson?_of_slotsFit fit, within]
  · intro text expr read
    obtain ⟨levels, fit⟩ := fits_of_ofJson? read
    rw [ofJson?_of_slotsFit fit, if_pos levels]

def sampleArrayText : String :=
  Json.objectText [("Capture", Json.arrayText
    [toString 1, Json.quote "x", (fragment "a").toJson])]

theorem ofJson?_sampleArrayText :
    ofJson? sampleArrayText = some (.capture 1 "x" (.fragment "a")) := by
  have items : List.Forall₂ (fun text value => Reads text.toList value)
      [toString 1, Json.quote "x", (fragment "a").toJson]
      [.nat 1, .string (some "x"), (fragment "a").toValue] :=
    .cons (reads_toString (by decide)) (.cons (reads_quote "x")
      (.cons (reads_toJson (fragment "a") nofun) .nil))
  rw [ofJson?, sampleArrayText, Value.parse?_of_reads (reads_single (reads_arrayText items))]
  simp [maxLevels, ofValue?, Json.record?, toValue, Value.nat?, Value.text?]

/-- The text of `samplePairTree` reads as this tree, and the tree that reads from
`sampleArrayText` reads from its own text. -/
theorem ofJson?_toJson_samplePairTree :
    ofJson? samplePairTree.toJson = some samplePairTree ∧
      ofJson? (capture 1 "x" (.fragment "a")).toJson = some (.capture 1 "x" (.fragment "a")) := by
  obtain ⟨written, again⟩ := ofJson?_toJson
  have shallow : Json.nesting samplePairTree.toJson < 128 := by
    rw [nesting_toJson]
    decide
  refine ⟨?_, again sampleArrayText _ ofJson?_sampleArrayText⟩
  rw [written samplePairTree (by decide), if_pos shallow]

end Expr

end SchemaMatch
