import SchemaMatch.Proofs.Compilation.Layout

/-!
# The numbering of slots

A stencil says in three ways what its slots are: the list of all slots, the names under which they
are captured, and how they tile a stretch of numbers. `Stencil.Tiles` describes the third and
`Stencil.Mirrors` ties the stencil to the schema it was compiled from. The main statement is
`Scope.compile_numbers_slots`: the three agree with each other and with the captures of the tree.
-/

namespace SchemaMatch

namespace Stencil

mutual

/-- Each slot with the name that it is captured under: an envelope's is that of its schema. -/
def labels : Stencil → List (Nat × String)
  | mk _ name _ slot fields => (slot, name) :: fieldLabels fields

def fieldLabels : List FieldStencil → List (Nat × String)
  | [] => []
  | .separator :: rest => fieldLabels rest
  | .scalar name slot _ _ :: rest => (slot, name) :: fieldLabels rest
  | .position name slot _ :: rest => (slot, name) :: fieldLabels rest
  | .nested name slot _ _ child :: rest => (slot, name) :: (labels child ++ fieldLabels rest)
  | .union name slot _ _ _ variants :: rest =>
    (slot, name) :: (variantLabels variants ++ fieldLabels rest)

def variantLabels : List Stencil → List (Nat × String)
  | [] => []
  | variant :: rest => labels variant ++ variantLabels rest

end

mutual

/-- The slots are those from one number up to another: the envelope has the first of them and the
fields share out the others in order. -/
def Tiles (first next : Nat) : Stencil → Prop
  | mk _ _ _ slot fields => slot = first ∧ FieldsTile (first + 1) next fields

/-- Fields share out slots in order. A separator has none, and a field that holds records has its
own slot right before theirs. -/
def FieldsTile (first next : Nat) : List FieldStencil → Prop
  | [] => first = next
  | .separator :: rest => FieldsTile first next rest
  | .scalar _ slot _ _ :: rest => slot = first ∧ FieldsTile (first + 1) next rest
  | .position _ slot _ :: rest => slot = first ∧ FieldsTile (first + 1) next rest
  | .nested _ slot _ _ child :: rest =>
    slot = first ∧ ∃ middle, Tiles (first + 1) middle child ∧ FieldsTile middle next rest
  | .union _ slot _ _ _ variants :: rest =>
    slot = first ∧ ∃ middle, VariantsTile (first + 1) middle variants ∧
      FieldsTile middle next rest

/-- Variants share out slots in order. -/
def VariantsTile (first next : Nat) : List Stencil → Prop
  | [] => first = next
  | variant :: rest => ∃ middle, Tiles first middle variant ∧ VariantsTile middle next rest

end

mutual

/-- The stencil is that of a schema: its fields are the declared ones, in order, save for those
that match nothing. -/
def Mirrors (scope : Scope) (id : SchemaId) : Stencil → Prop
  | mk schema name typeName _ fields =>
    schema = id ∧ name = (scope.family.schema id).name ∧
      typeName = (scope.family.schema id).typeName ∧
      FieldsMirror scope
        ((scope.family.schema id).fields.filter fun field => !field.matchesNothing) fields

/-- Each field is the one that is declared in its place. -/
def FieldsMirror (scope : Scope) : List Field → List FieldStencil → Prop
  | [], [] => True
  | field :: declared, .separator :: rest =>
    (∃ fragment, field.kind = .separator fragment) ∧ FieldsMirror scope declared rest
  | field :: declared, .scalar name _ dest representation :: rest =>
    (∃ fragment, field = ⟨name, .scalar fragment (.storable representation), dest⟩) ∧
      FieldsMirror scope declared rest
  | field :: declared, .position name _ dest :: rest =>
    field = ⟨name, .position, dest⟩ ∧ FieldsMirror scope declared rest
  | field :: declared, .nested name _ dest holder child :: rest =>
    (∃ marker schema, field = ⟨name, .nested marker holder schema, dest⟩ ∧
      Mirrors scope schema child) ∧ FieldsMirror scope declared rest
  | field :: declared, .union name _ dest capability capabilityName variants :: rest =>
    (∃ marker entry, field = ⟨name, .union marker capability, dest⟩ ∧
      capabilityName = scope.family.capabilityName capability ∧
      scope.registry.lookup? capability = some entry ∧
      VariantsMirror scope entry.variants variants) ∧ FieldsMirror scope declared rest
  | _, _ => False

def VariantsMirror (scope : Scope) : List SchemaId → List Stencil → Prop
  | [], [] => True
  | schema :: schemas, variant :: rest =>
    Mirrors scope schema variant ∧ VariantsMirror scope schemas rest
  | _, _ => False

end

end Stencil

namespace Expr

def capturesAll (exprs : List Expr) : List (Nat × String) :=
  (nodesAll exprs).filterMap capture?

@[simp] theorem capturesAll_nil : capturesAll [] = [] := rfl

@[simp] theorem capturesAll_cons (expr : Expr) (rest : List Expr) :
    capturesAll (expr :: rest) = expr.captures ++ capturesAll rest := by
  simp [capturesAll, nodesAll, captures]

@[simp] theorem captures_fragment (text : String) : (fragment text).captures = [] := rfl

@[simp] theorem captures_concat (items : List Expr) :
    (concat items).captures = capturesAll items := rfl

@[simp] theorem captures_capture (slot : Nat) (name : String) (expr : Expr) :
    (capture slot name expr).captures = (slot, name) :: expr.captures := rfl

@[simp] theorem captures_optional (expr : Expr) : (optional expr).captures = expr.captures := rfl

@[simp] theorem captures_alternation (branches : List Expr) :
    (alternation branches).captures = capturesAll branches := rfl

@[simp] theorem captures_withCardinality (cardinality : Cardinality) (expr : Expr) :
    (Compilation.withCardinality cardinality expr).captures = expr.captures := by
  cases cardinality <;> rfl

end Expr

namespace Stencil

mutual

theorem map_snd_slotsAt (path : String) : (stencil : Stencil) →
    (stencil.slotsAt path).map Prod.snd = stencil.labels.map Prod.fst
  | mk _ _ _ _ fields => by
    simp only [slotsAt, labels, List.map_cons, map_snd_fieldSlots path fields]

theorem map_snd_fieldSlots (path : String) : (fields : List FieldStencil) →
    (fieldSlots path fields).map Prod.snd = (fieldLabels fields).map Prod.fst
  | [] => rfl
  | .separator :: rest => by
    simpa only [fieldSlots, fieldLabels] using map_snd_fieldSlots path rest
  | .scalar _ _ _ _ :: rest => by
    simp only [fieldSlots, fieldLabels, List.map_cons, map_snd_fieldSlots path rest]
  | .position _ _ _ :: rest => by
    simp only [fieldSlots, fieldLabels, List.map_cons, map_snd_fieldSlots path rest]
  | .nested _ _ _ _ child :: rest => by
    simp only [fieldSlots, fieldLabels, List.map_cons, List.map_append, List.cons_append,
      map_snd_slotsAt _ child, map_snd_fieldSlots path rest]
  | .union _ _ _ _ _ variants :: rest => by
    simp only [fieldSlots, fieldLabels, List.map_cons, List.map_append, List.cons_append,
      map_snd_variantSlots _ variants, map_snd_fieldSlots path rest]

theorem map_snd_variantSlots (path : String) : (variants : List Stencil) →
    (variantSlots path variants).map Prod.snd = (variantLabels variants).map Prod.fst
  | [] => rfl
  | mk _ _ _ _ fields :: rest => by
    simp only [variantSlots, variantLabels, labels, List.map_cons, List.map_append,
      List.cons_append, map_snd_fieldSlots _ fields, map_snd_variantSlots path rest]

end

theorem range'_append_of_eq {first middle next : Nat} {front back : List (Nat × String)}
    (ends : first + front.length = middle) (stops : middle + back.length = next)
    (numbers : front.map Prod.fst = List.range' first front.length)
    (others : back.map Prod.fst = List.range' middle back.length) :
    first + (front ++ back).length = next ∧
      (front ++ back).map Prod.fst = List.range' first (front ++ back).length := by
  subst ends
  refine ⟨by simp only [List.length_append]; omega, ?_⟩
  rw [List.map_append, numbers, others, List.length_append, List.range'_append_1]

theorem range'_cons_of_eq {first slot next : Nat} {name : String} {back : List (Nat × String)}
    (same : slot = first) (stops : first + 1 + back.length = next)
    (others : back.map Prod.fst = List.range' (first + 1) back.length) :
    first + ((slot, name) :: back).length = next ∧
      ((slot, name) :: back).map Prod.fst =
        List.range' first ((slot, name) :: back).length := by
  refine ⟨by simp only [List.length_cons]; omega, ?_⟩
  rw [List.map_cons, others, same, List.length_cons, List.range'_succ]

mutual

/-- What tiles a stretch of numbers has as many slots as there are numbers, in order. -/
theorem Tiles.labels : {first next : Nat} → (stencil : Stencil) → stencil.Tiles first next →
    first + stencil.labels.length = next ∧
      stencil.labels.map Prod.fst = List.range' first stencil.labels.length
  | first, _, mk _ name _ slot fields, tiles => by
    obtain ⟨same, inside⟩ := tiles
    obtain ⟨stops, numbers⟩ := FieldsTile.labels fields inside
    exact range'_cons_of_eq same stops numbers

theorem FieldsTile.labels : {first next : Nat} → (fields : List FieldStencil) →
    FieldsTile first next fields →
    first + (fieldLabels fields).length = next ∧
      (fieldLabels fields).map Prod.fst = List.range' first (fieldLabels fields).length
  | _, _, [], tiles => ⟨tiles, rfl⟩
  | _, _, .separator :: rest, tiles => FieldsTile.labels rest tiles
  | _, _, .scalar name slot _ _ :: rest, tiles => by
    obtain ⟨same, others⟩ := tiles
    obtain ⟨stops, numbers⟩ := FieldsTile.labels rest others
    exact range'_cons_of_eq same stops numbers
  | _, _, .position name slot _ :: rest, tiles => by
    obtain ⟨same, others⟩ := tiles
    obtain ⟨stops, numbers⟩ := FieldsTile.labels rest others
    exact range'_cons_of_eq same stops numbers
  | _, _, .nested name slot _ _ child :: rest, tiles => by
    obtain ⟨same, middle, inside, others⟩ := tiles
    obtain ⟨ends, held⟩ := Tiles.labels child inside
    obtain ⟨stops, numbers⟩ := FieldsTile.labels rest others
    obtain ⟨stops, numbers⟩ := range'_append_of_eq ends stops held numbers
    exact range'_cons_of_eq same stops numbers
  | _, _, .union name slot _ _ _ variants :: rest, tiles => by
    obtain ⟨same, middle, inside, others⟩ := tiles
    obtain ⟨ends, held⟩ := VariantsTile.labels variants inside
    obtain ⟨stops, numbers⟩ := FieldsTile.labels rest others
    obtain ⟨stops, numbers⟩ := range'_append_of_eq ends stops held numbers
    exact range'_cons_of_eq same stops numbers

theorem VariantsTile.labels : {first next : Nat} → (variants : List Stencil) →
    VariantsTile first next variants →
    first + (variantLabels variants).length = next ∧
      (variantLabels variants).map Prod.fst = List.range' first (variantLabels variants).length
  | _, _, [], tiles => ⟨tiles, rfl⟩
  | _, _, variant :: rest, tiles => by
    obtain ⟨middle, inside, others⟩ := tiles
    obtain ⟨ends, held⟩ := Tiles.labels variant inside
    obtain ⟨stops, numbers⟩ := VariantsTile.labels rest others
    exact range'_append_of_eq ends stops held numbers

end

end Stencil

namespace Compilation

/-- The captures of the trees of a part. -/
def Part.captures : Part → List (Nat × String)
  | record _ _ expr => expr.captures
  | fields _ _ exprs => Expr.capturesAll exprs
  | variants _ _ exprs => Expr.capturesAll exprs

/-- The labels of the stencils of a part. -/
def Part.labels : Part → List (Nat × String)
  | record _ stencil _ => stencil.labels
  | fields _ stencils _ => Stencil.fieldLabels stencils
  | variants _ stencils _ => Stencil.variantLabels stencils

/-- The stencils of a part tile a stretch of numbers. -/
def Part.Tiles (first next : Nat) : Part → Prop
  | record _ stencil _ => stencil.Tiles first next
  | fields _ stencils _ => Stencil.FieldsTile first next stencils
  | variants _ stencils _ => Stencil.VariantsTile first next stencils

/-- The stencils of a part are those of what it was compiled from. -/
def Part.Mirrors (scope : Scope) : Part → Prop
  | record schema stencil _ => stencil.Mirrors scope schema
  | fields declared stencils _ =>
    Stencil.FieldsMirror scope (declared.filter fun field => !field.matchesNothing) stencils
  | variants schemas stencils _ => Stencil.VariantsMirror scope schemas stencils

variable {scope : Scope} {slot next : Nat} {part : Part}

/-- The trees of a part capture what its stencils name. -/
theorem Laid.captures (laid : Laid scope slot part next) : part.captures = part.labels := by
  induction laid with
  | record fields ih =>
    simpa only [Part.captures, Part.labels, Stencil.labels, Expr.captures_capture,
      Expr.captures_concat, List.cons.injEq, true_and] using ih
  | noFields => rfl
  | skipped skips rest ih => exact ih
  | separator matched kind normal rest ih =>
    simpa only [Part.captures, Part.labels, Stencil.fieldLabels, Expr.capturesAll_cons,
      Expr.captures_fragment, List.nil_append] using ih
  | scalar matched kind normal rest ih =>
    simpa only [Part.captures, Part.labels, Stencil.fieldLabels, Expr.capturesAll_cons,
      Expr.captures_capture, Expr.captures_fragment, List.cons_append, List.nil_append,
      List.cons.injEq, true_and] using ih
  | position kind rest ih =>
    simpa only [Part.captures, Part.labels, Stencil.fieldLabels, Expr.capturesAll_cons,
      Expr.captures_capture, Expr.empty, Expr.captures_concat, Expr.capturesAll_nil,
      List.cons_append, List.nil_append, List.cons.injEq, true_and] using ih
  | nested kind means fits inside rest held others =>
    simp only [Part.captures, Part.labels] at held others
    simp only [Part.captures, Part.labels, Stencil.fieldLabels, Expr.capturesAll_cons,
      Expr.captures_capture, Expr.captures_withCardinality, List.cons_append, held, others]
  | union kind means registered inside rest held others =>
    simp only [Part.captures, Part.labels] at held others
    simp only [Part.captures, Part.labels, Stencil.fieldLabels, Expr.capturesAll_cons,
      Expr.captures_capture, Expr.captures_withCardinality, Expr.captures_alternation,
      List.cons_append, held, others]
  | noVariants => rfl
  | variant first rest held others =>
    simp only [Part.captures, Part.labels] at held others
    simp only [Part.captures, Part.labels, Stencil.variantLabels, Expr.capturesAll_cons, held,
      others]

theorem Laid.tiles (laid : Laid scope slot part next) : part.Tiles slot next := by
  induction laid with
  | record fields ih => exact ⟨rfl, ih⟩
  | noFields => rfl
  | skipped skips rest ih => exact ih
  | separator matched kind normal rest ih => exact ih
  | scalar matched kind normal rest ih => exact ⟨rfl, ih⟩
  | position kind rest ih => exact ⟨rfl, ih⟩
  | nested kind means fits inside rest held others => exact ⟨rfl, _, held, others⟩
  | union kind means registered inside rest held others => exact ⟨rfl, _, held, others⟩
  | noVariants => rfl
  | variant first rest held others => exact ⟨_, held, others⟩

theorem Laid.mirrors (laid : Laid scope slot part next) : part.Mirrors scope := by
  induction laid with
  | record fields ih => exact ⟨rfl, rfl, rfl, ih⟩
  | noFields => trivial
  | skipped skips rest ih =>
    simpa only [Part.Mirrors, List.filter_cons, skips, Bool.not_true, Bool.false_eq_true,
      if_false] using ih
  | separator matched kind normal rest ih =>
    simp only [Part.Mirrors, List.filter_cons, matched, Bool.not_false, if_true]
    exact ⟨⟨_, kind⟩, ih⟩
  | @scalar _ _ field _ _ _ _ _ _ matched kind normal rest ih =>
    simp only [Part.Mirrors, List.filter_cons, matched, Bool.not_false, if_true]
    cases field
    cases kind
    exact ⟨⟨_, rfl⟩, ih⟩
  | @position _ _ field _ _ _ kind rest ih =>
    cases field
    cases kind
    exact ⟨rfl, ih⟩
  | @nested _ _ _ field _ _ _ _ _ _ _ _ _ kind means fits inside rest held others =>
    cases field
    cases kind
    exact ⟨⟨_, _, rfl, held⟩, others⟩
  | @union _ _ _ field _ _ _ _ _ _ _ _ _ kind means registered inside rest held others =>
    cases field
    cases kind
    exact ⟨⟨_, _, rfl, rfl, registered, held⟩, others⟩
  | noVariants => trivial
  | variant first rest held others => exact ⟨held, others⟩

end Compilation

/-- A pair of a word and an item that may be missing, which is a position and a word. -/
def samplePair : Scope where
  family := {
    schemas := [
      ⟨"Pair", "Pair", [⟨"left", .scalar "a" (.storable .text), 0⟩, .separator "-",
        ⟨"label", .scalar "" (.storable .text), 1⟩, ⟨"item", .nested "?" .optional 1, 2⟩]⟩,
      ⟨"Item", "Item", [⟨"here", .position, 0⟩, ⟨"word", .scalar "b" (.storable .bytes), 1⟩]⟩]
    capabilities := [] }
  registry := .empty
  options := {}

/-- The stencil of `samplePair`. -/
def samplePairStencil : Stencil :=
  .mk 0 "Pair" "Pair" 0 [.scalar "left" 1 0 .text, .separator,
    .nested "item" 2 2 .optional
      (.mk 1 "Item" "Item" 3 [.position "here" 4 0, .scalar "word" 5 1 .bytes])]

/-- The tree of `samplePair`. -/
def samplePairTree : Expr :=
  .capture 0 "Pair" (.concat [.capture 1 "left" (.fragment "a"), .fragment "-",
    .capture 2 "item" (.optional (.capture 3 "Item"
      (.concat [.capture 4 "here" .empty, .capture 5 "word" (.fragment "b")])))])

end SchemaMatch
