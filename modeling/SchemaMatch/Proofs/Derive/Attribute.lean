import SchemaMatch.Derive.Attribute
import SchemaMatch.Proofs.Success
import Mathlib.Data.List.Forall2

/-!
# Attributes of fields

The attribute of a field is read exactly if its tokens are a list of items, each with at most one
comma after it, of which at most one says what the field is. `FieldItem.Lists` is the grammar of
these lists. Reading is a fold over the items, and adding what a further attribute says goes on with
that fold, so that it does not matter over how many attributes the items are spread. The main
statement is `FieldAttributes.ofAttributes_reads_lists`.
-/

namespace SchemaMatch.Derive

open Cursor

/-- The tokens that give a marker: none if it is empty, or an equals sign and a string. -/
inductive SpellsMarker : String → List Token → Prop
  | absent : SpellsMarker "" []
  | given {joint : Bool} {text marker : String} :
      SpellsMarker marker [.punct '=' joint, .literal ⟨text, .string marker⟩]

/-- The tokens that may end an item: none or a comma. -/
inductive SpellsComma : List Token → Prop
  | absent : SpellsComma []
  | given {joint : Bool} : SpellsComma [.punct ',' joint]

namespace FieldItem

/-- The tokens that an item is written in. -/
inductive Spells : FieldItem → List Token → Prop
  | optionalString {text : String} :
      Spells (.role (.nested "?")) [.literal ⟨text, .string "?"⟩]
  | string {text fragment : String} (other : fragment ≠ "?") :
      Spells (.role (.scalar fragment)) [.literal ⟨text, .string fragment⟩]
  | nested {marker : String} {tokens : List Token} (marked : SpellsMarker marker tokens) :
      Spells (.role (.nested marker)) (.word "nested" :: tokens)
  | optional : Spells (.role (.nested "?")) [.word "optional"]
  | union {marker : String} {tokens : List Token} (marked : SpellsMarker marker tokens) :
      Spells (.role (.union marker)) (.word "union" :: tokens)
  | position : Spells (.role .position) [.word "pos"]
  | name {joint : Bool} {text name : String} :
      Spells (.name name) [.word "name", .punct '=' joint, .literal ⟨text, .string name⟩]

/-- The tokens that items are written in, one after another, each with at most one comma after
it. -/
inductive Lists : List FieldItem → List Token → Prop
  | nil : Lists [] []
  | cons {item : FieldItem} {items : List FieldItem} {tokens comma others : List Token}
      (spelled : item.Spells tokens) (ended : SpellsComma comma) (rest : Lists items others) :
      Lists (item :: items) (tokens ++ (comma ++ others))

def role? : FieldItem → Option FieldRole
  | role said => some said
  | name _ => none

def name? : FieldItem → Option String
  | role _ => none
  | name given => some given

/-- The roles that items set. -/
def roles (items : List FieldItem) : List FieldRole := items.filterMap role?

/-- The names that items give. -/
def names (items : List FieldItem) : List String := items.filterMap name?

@[simp] theorem roles_append (items more : List FieldItem) :
    roles (items ++ more) = roles items ++ roles more := List.filterMap_append

@[simp] theorem names_append (items more : List FieldItem) :
    names (items ++ more) = names items ++ names more := List.filterMap_append

@[simp] theorem roles_role (said : FieldRole) : roles [.role said] = [said] := rfl

@[simp] theorem roles_name (given : String) : roles [.name given] = [] := rfl

@[simp] theorem names_role (said : FieldRole) : names [.role said] = [] := rfl

@[simp] theorem names_name (given : String) : names [.name given] = [given] := rfl

/-! ### The grammar -/

variable {item : FieldItem} {items more : List FieldItem} {tokens others : List Token}

theorem Spells.exists_cons (spelled : item.Spells tokens) :
    ∃ first rest, tokens = first :: rest ∧ ∀ char joint, first ≠ .punct char joint := by
  cases spelled <;> exact ⟨_, _, rfl, nofun⟩

theorem Lists.not_punct (listed : Lists items tokens) {char : Char} {joint : Bool}
    {rest : List Token} : tokens ≠ .punct char joint :: rest := by
  cases listed with
  | nil => nofun
  | cons spelled =>
    obtain ⟨first, others, rfl, word⟩ := spelled.exists_cons
    exact fun same => word char joint (List.cons.inj same).1

theorem Lists.append (listed : Lists items tokens) (next : Lists more others) :
    Lists (items ++ more) (tokens ++ others) := by
  induction listed with
  | nil => exact next
  | cons spelled ended _ ih =>
    rw [List.append_assoc, List.append_assoc]
    exact .cons spelled ended ih

/-- Lists of items make a list of items. -/
theorem Lists.flatten {pieces : List (List Token)}
    (each : ∀ piece ∈ pieces, ∃ items, Lists items piece) :
    ∃ items, Lists items pieces.flatten := by
  induction pieces with
  | nil => exact ⟨[], .nil⟩
  | cons piece rest ih =>
    obtain ⟨items, listed⟩ := each piece List.mem_cons_self
    obtain ⟨more, next⟩ := ih fun other member => each other (List.mem_cons_of_mem _ member)
    exact ⟨items ++ more, listed.append next⟩

end FieldItem

/-! ### Reading one item -/

theorem skipPunct?_eq_some_iff {char : Char} {tokens rest : List Token} :
    skipPunct? [char] tokens = some rest ↔ ∃ joint, tokens = .punct char joint :: rest := by
  match tokens with
  | .punct found joint :: others =>
    by_cases same : char = found
    · simp [skipPunct?, same]
    · simp [skipPunct?, same, eq_comm]
  | [] => simp [skipPunct?]
  | .word _ :: _ => simp [skipPunct?]
  | .literal _ :: _ => simp [skipPunct?]
  | .group _ _ :: _ => simp [skipPunct?]

theorem skipPunct?_eq_none {char : Char} {tokens : List Token}
    (other : ∀ joint rest, tokens ≠ .punct char joint :: rest) :
    skipPunct? [char] tokens = none := by
  rw [Option.eq_none_iff_forall_ne_some]
  intro rest skipped
  obtain ⟨joint, same⟩ := skipPunct?_eq_some_iff.1 skipped
  exact other joint rest same

theorem stringItem_eq_ok_iff {tokens rest : List Token} {value : String} :
    stringItem tokens = .ok (value, rest) ↔
      ∃ text, tokens = .literal ⟨text, .string value⟩ :: rest := by
  unfold stringItem
  split
  case h_1 text found others =>
    simp only [Except.ok.injEq, Prod.mk.injEq, List.cons.injEq, Token.literal.injEq,
      Literal.mk.injEq, LiteralKind.string.injEq]
    constructor
    · rintro ⟨rfl, rfl⟩
      exact ⟨text, ⟨rfl, rfl⟩, rfl⟩
    · rintro ⟨_, ⟨-, same⟩, rest⟩
      exact ⟨same, rest⟩
  case h_2 other =>
    simp only [reduceCtorEq, false_iff]
    rintro ⟨text, same⟩
    exact other _ _ _ same

theorem nameItem_eq_ok_iff {tokens rest : List Token} {name : String} :
    nameItem tokens = .ok (name, rest) ↔
      ∃ joint text, tokens = .punct '=' joint :: .literal ⟨text, .string name⟩ :: rest := by
  unfold nameItem
  split
  case h_1 unsigned =>
    simp only [reduceCtorEq, false_iff]
    rintro ⟨joint, text, rfl⟩
    simp [skipPunct?] at unsigned
  case h_2 signed =>
    obtain ⟨joint, rfl⟩ := skipPunct?_eq_some_iff.1 signed
    simp [stringItem_eq_ok_iff]

/-- A marker is read whole. After one that is left out there may be no equals sign. -/
theorem markerItem_of_spells {marker : String} {tokens rest : List Token}
    (spelled : SpellsMarker marker tokens)
    (unsigned : ∀ joint others, rest ≠ .punct '=' joint :: others) :
    markerItem (tokens ++ rest) = .ok (marker, rest) := by
  cases spelled with
  | absent => rw [List.nil_append, markerItem, skipPunct?_eq_none unsigned]
  | given => rfl

theorem spells_of_markerItem {marker : String} {tokens rest : List Token}
    (read : markerItem tokens = .ok (marker, rest)) :
    ∃ spelled, SpellsMarker marker spelled ∧ tokens = spelled ++ rest := by
  unfold markerItem at read
  split at read
  case h_1 =>
    cases read
    exact ⟨[], .absent, rfl⟩
  case h_2 others signed =>
    obtain ⟨joint, rfl⟩ := skipPunct?_eq_some_iff.1 signed
    obtain ⟨text, rfl⟩ := stringItem_eq_ok_iff.1 read
    exact ⟨_, .given, rfl⟩

namespace FieldAttributes

open FieldItem (Spells Lists roles names)

variable {item : FieldItem} {items : List FieldItem} {tokens rest : List Token}

theorem item_of_spells (spelled : item.Spells tokens)
    (unsigned : ∀ joint others, rest ≠ .punct '=' joint :: others) :
    FieldAttributes.item (tokens ++ rest) = .ok (item, rest) := by
  cases spelled with
  | optionalString => rfl
  | string other => simp [FieldAttributes.item, roleOfString, optionalMarker, other]
  | nested marked =>
    rw [List.cons_append, FieldAttributes.item, markerItem_of_spells marked unsigned]
    rfl
  | optional => rfl
  | union marked =>
    rw [List.cons_append, FieldAttributes.item, markerItem_of_spells marked unsigned]
    rfl
  | position => rfl
  | name => rfl

theorem spells_of_item (read : FieldAttributes.item tokens = .ok (item, rest)) :
    ∃ spelled, item.Spells spelled ∧ tokens = spelled ++ rest := by
  unfold FieldAttributes.item at read
  split at read
  case h_1 text value others =>
    cases read
    refine ⟨[.literal ⟨text, .string value⟩], ?_, rfl⟩
    by_cases optional : value = "?"
    · subst optional
      exact .optionalString
    · simpa [roleOfString, optionalMarker, optional] using Spells.string optional
  case h_2 others =>
    obtain ⟨⟨marker, left⟩, marked, same⟩ := bind_eq_ok_iff.1 read
    obtain ⟨spelled, spells, rfl⟩ := spells_of_markerItem marked
    cases same
    exact ⟨_, .nested spells, rfl⟩
  case h_3 others =>
    cases read
    exact ⟨_, .optional, rfl⟩
  case h_4 others =>
    obtain ⟨⟨marker, left⟩, marked, same⟩ := bind_eq_ok_iff.1 read
    obtain ⟨spelled, spells, rfl⟩ := spells_of_markerItem marked
    cases same
    exact ⟨_, .union spells, rfl⟩
  case h_5 others =>
    cases read
    exact ⟨_, .position, rfl⟩
  case h_6 others =>
    obtain ⟨⟨name, left⟩, named, same⟩ := bind_eq_ok_iff.1 read
    obtain ⟨joint, text, rfl⟩ := nameItem_eq_ok_iff.1 named
    cases same
    exact ⟨_, .name, rfl⟩
  case h_7 => cases read

/-! ### Reading items up to the end -/

theorem dropPunct_of_lists {comma : List Token} (ended : SpellsComma comma)
    (listed : Lists items tokens) : dropPunct "," (comma ++ tokens) = tokens := by
  cases ended with
  | absent =>
    have plain : skipPunct? [','] tokens = none := skipPunct?_eq_none fun _ _ => listed.not_punct
    simp [dropPunct, plain]
  | given => simp [dropPunct, skipPunct?]

theorem exists_dropPunct (tokens : List Token) :
    ∃ comma, SpellsComma comma ∧ tokens = comma ++ dropPunct "," tokens := by
  match parted : skipPunct? [','] tokens with
  | none => exact ⟨[], .absent, by simp [dropPunct, parted]⟩
  | some others =>
    obtain ⟨joint, rfl⟩ := skipPunct?_eq_some_iff.1 parted
    exact ⟨[.punct ',' joint], .given, by simp [dropPunct, skipPunct?]⟩

theorem readItems_succ {bound : Nat} {attributes : FieldAttributes} (left : tokens ≠ []) :
    readItems (bound + 1) attributes tokens =
      FieldAttributes.item tokens >>= fun found =>
        attributes.add found.1 >>= fun next => readItems bound next (dropPunct "," found.2) := by
  match tokens with
  | token :: others => rfl

theorem readItems_of_lists {bound : Nat} (attributes : FieldAttributes)
    (listed : Lists items tokens) (enough : tokens.length ≤ bound) :
    readItems bound attributes tokens = items.foldlM add attributes := by
  induction listed generalizing bound attributes with
  | nil => cases bound <;> rfl
  | @cons item items spelled comma others spells ended rest ih =>
    obtain ⟨first, tail, rfl, -⟩ := spells.exists_cons
    simp only [List.cons_append, List.length_cons, List.length_append] at enough
    obtain ⟨less, rfl⟩ : ∃ less, bound = less + 1 := ⟨bound - 1, by omega⟩
    -- A marker that is left out is not taken from what follows, since no item starts with a sign.
    have unsigned (joint : Bool) (others' : List Token) :
        comma ++ others ≠ .punct '=' joint :: others' := by
      cases ended with
      | absent => exact rest.not_punct
      | given => simp
    rw [readItems_succ (by simp), item_of_spells spells unsigned, ok_bind,
      dropPunct_of_lists ended rest, List.foldlM_cons]
    exact bind_congr fun next => ih next (by omega)

theorem lists_of_readItems {bound : Nat} {attributes result : FieldAttributes}
    (read : readItems bound attributes tokens = .ok result) : ∃ items, Lists items tokens := by
  induction bound generalizing attributes tokens with
  | zero =>
    cases tokens with
    | nil => exact ⟨[], .nil⟩
    | cons token rest => cases read
  | succ bound ih =>
    cases tokens with
    | nil => exact ⟨[], .nil⟩
    | cons token rest =>
      rw [readItems_succ (List.cons_ne_nil _ _), bind_eq_ok_iff] at read
      obtain ⟨⟨item, left⟩, found, later⟩ := read
      obtain ⟨next, -, later⟩ := bind_eq_ok_iff.1 later
      obtain ⟨spelled, spells, same⟩ := spells_of_item found
      obtain ⟨comma, ended, parted⟩ := exists_dropPunct left
      obtain ⟨items, listed⟩ := ih later
      rw [same, parted]
      exact ⟨item :: items, .cons spells ended listed⟩

/-! ### Adding items -/

/-- What items say together: the first role and the last name. -/
def ofItems (items : List FieldItem) : FieldAttributes :=
  ⟨(roles items).head?, (names items).getLast?⟩

theorem add_ofItems (items : List FieldItem) (single : (roles items).length ≤ 1)
    (item : FieldItem) :
    (ofItems items).add item =
      if (roles (items ++ [item])).length ≤ 1 then .ok (ofItems (items ++ [item]))
      else .error .repeatedRole := by
  cases item with
  | name given => simp [add, ofItems, single]
  | role said =>
    cases listed : roles items with
    | nil => simp [add, addRole, ofItems, listed]
    | cons first rest => simp [add, addRole, ofItems, listed]

theorem foldlM_add_eq_ok_iff {earlier : List FieldItem} (single : (roles earlier).length ≤ 1)
    {result : FieldAttributes} :
    items.foldlM add (ofItems earlier) = .ok result ↔
      (roles (earlier ++ items)).length ≤ 1 ∧ result = ofItems (earlier ++ items) := by
  induction items generalizing earlier with
  | nil =>
    rw [List.append_nil, List.foldlM_nil, and_iff_right single, eq_comm]
    exact iff_of_eq (Except.ok.injEq result (ofItems earlier))
  | cons item rest ih =>
    rw [List.foldlM_cons, add_ofItems earlier single, List.append_cons earlier item rest]
    split
    case isTrue still => rw [ok_bind, ih still]
    case isFalse second =>
      rw [error_bind]
      simp only [reduceCtorEq, false_iff, not_and]
      intro few
      rw [FieldItem.roles_append, List.length_append] at few
      exact absurd (Nat.le_trans (Nat.le_add_right _ _) few) second

theorem foldlM_add_blank_eq_ok_iff {result : FieldAttributes} :
    items.foldlM add blank = .ok result ↔
      (roles items).length ≤ 1 ∧ result = ofItems items := by
  have none_yet : (roles []).length ≤ 1 := Nat.zero_le 1
  exact foldlM_add_eq_ok_iff none_yet

theorem ofTokens_eq_ok_iff {result : FieldAttributes} :
    ofTokens tokens = .ok result ↔
      ∃ items, Lists items tokens ∧ (roles items).length ≤ 1 ∧ result = ofItems items := by
  constructor
  · intro read
    obtain ⟨items, listed⟩ := lists_of_readItems read
    rw [ofTokens, readItems_of_lists blank listed (Nat.le_refl _)] at read
    exact ⟨items, listed, foldlM_add_blank_eq_ok_iff.1 read⟩
  · rintro ⟨items, listed, summed⟩
    rw [ofTokens, readItems_of_lists blank listed (Nat.le_refl _)]
    exact foldlM_add_blank_eq_ok_iff.2 summed

/-! ### Several attributes -/

theorem merge_add (attributes more : FieldAttributes) (item : FieldItem) :
    (attributes.merge more >>= fun merged => merged.add item) =
      more.add item >>= attributes.merge := by
  obtain ⟨role, name⟩ := attributes
  obtain ⟨other, given⟩ := more
  cases item with
  | role said => cases role <;> cases other <;> cases given <;> rfl
  | name said => cases role <;> cases other <;> cases given <;> rfl

/-- Adding the items of a further attribute one by one is adding what they say together. -/
theorem merge_foldlM_add (attributes more : FieldAttributes) (items : List FieldItem) :
    (attributes.merge more >>= fun merged => items.foldlM add merged) =
      items.foldlM add more >>= attributes.merge := by
  induction items generalizing more with
  | nil => simp
  | cons item rest ih =>
    calc (attributes.merge more >>= fun merged => (item :: rest).foldlM add merged)
      _ = (attributes.merge more >>= fun merged => merged.add item) >>= rest.foldlM add := by
        simp only [List.foldlM_cons, bind_assoc]
      _ = more.add item >>= fun next => attributes.merge next >>= rest.foldlM add := by
        rw [merge_add, bind_assoc]
      _ = (item :: rest).foldlM add more >>= attributes.merge := by
        simp only [ih, List.foldlM_cons, bind_assoc]

theorem mergeAll_of_lists (attributes : FieldAttributes) {segments : List (List FieldItem)}
    {pieces : List (List Token)} (listed : List.Forall₂ Lists segments pieces) :
    attributes.mergeAll (pieces.map .list) = segments.flatten.foldlM add attributes := by
  induction listed generalizing attributes with
  | nil => rfl
  | @cons segment piece segments pieces first rest ih =>
    have read : ofTokens piece = segment.foldlM add blank :=
      readItems_of_lists blank first (Nat.le_refl _)
    have merged : attributes.merge blank = .ok attributes := rfl
    calc attributes.mergeAll ((piece :: pieces).map .list)
      _ = ofTokens piece >>= fun more => attributes.merge more >>= fun next =>
          next.mergeAll (pieces.map .list) := rfl
      _ = (segment.foldlM add blank >>= attributes.merge) >>= segments.flatten.foldlM add := by
        rw [read, bind_assoc]
        simp only [ih]
      _ = segment.foldlM add attributes >>= segments.flatten.foldlM add := by
        rw [← merge_foldlM_add, merged, ok_bind]
      _ = (segment :: segments).flatten.foldlM add attributes := by
        rw [List.flatten_cons, List.foldlM_append]

theorem exists_lists_of_mergeAll {attributes result : FieldAttributes} {pieces : List (List Token)}
    (read : attributes.mergeAll (pieces.map .list) = .ok result) :
    ∀ piece ∈ pieces, ∃ items, Lists items piece := by
  induction pieces generalizing attributes with
  | nil => nofun
  | cons piece rest ih =>
    rw [List.map_cons, mergeAll, AttributeBody.tokens, ok_bind, bind_eq_ok_iff] at read
    obtain ⟨more, first, later⟩ := read
    obtain ⟨merged, -, later⟩ := bind_eq_ok_iff.1 later
    exact List.forall_mem_cons.2 ⟨lists_of_readItems first, ih later⟩

/-- The tokens of an attribute are read exactly if they are a list of items of which at most one
sets a role; they say that role and the last name. Over however many attributes the items of a list
are spread, with whichever commas, they are read as the list is or refused for the same cause. What
is no list of items is refused as a whole and wherever it is cut. -/
theorem ofAttributes_reads_lists :
    (∀ tokens result, ofTokens tokens = .ok result ↔
      ∃ items, Lists items tokens ∧ (roles items).length ≤ 1 ∧ result = ofItems items) ∧
    ∀ (attributes : List Attribute) (pieces : List (List Token)),
      relevant attributes = pieces.map .list →
        (∀ segments tokens, List.Forall₂ Lists segments pieces → Lists segments.flatten tokens →
          ofAttributes attributes = ofTokens tokens) ∧
        ((¬∃ items, Lists items pieces.flatten) →
          (∃ cause, ofAttributes attributes = .error cause) ∧
            ∃ cause, ofTokens pieces.flatten = .error cause) := by
  refine ⟨fun tokens result => ofTokens_eq_ok_iff, fun attributes pieces given => ⟨?_, ?_⟩⟩
  · intro segments tokens spread listed
    rw [ofAttributes, given, mergeAll_of_lists blank spread, ofTokens,
      readItems_of_lists blank listed (Nat.le_refl _)]
  · intro unlisted
    constructor
    · cases read : ofAttributes attributes with
      | error cause => exact ⟨cause, rfl⟩
      | ok result =>
        rw [ofAttributes, given] at read
        exact absurd (Lists.flatten (exists_lists_of_mergeAll read)) unlisted
    · cases read : ofTokens pieces.flatten with
      | error cause => exact ⟨cause, rfl⟩
      | ok result => exact absurd (lists_of_readItems read) unlisted

/-- A name and a nested record that may be absent, and another name. -/
def tailPieces : List (List Token) :=
  [[.word "name", .punct '=' false, .literal ⟨"\"rest\"", .string "rest"⟩, .punct ',' false,
      .word "nested", .punct '=' false, .literal ⟨"\"?\"", .string "?"⟩, .punct ',' false],
    [.word "name", .punct '=' false, .literal ⟨"r\"tail\"", .string "tail"⟩]]

/-- The same items in one list, without commas. -/
def tailTokens : List Token :=
  [.word "name", .punct '=' false, .literal ⟨"\"rest\"", .string "rest"⟩, .word "optional",
    .word "name", .punct '=' false, .literal ⟨"\"tail\"", .string "tail"⟩]

/-- Two attributes with another one between them. -/
def tailAttributes : List Attribute :=
  [⟨some "restructure", .list (tailPieces.headD []), []⟩, ⟨some "doc", .value, []⟩,
    ⟨some "restructure", .list (tailPieces.getLastD []), []⟩]

/-- The items are read in two attributes as they are in one. -/
theorem ofAttributes_reads_lists_tailAttributes :
    relevant tailAttributes = tailPieces.map .list ∧
      List.Forall₂ Lists [[.name "rest", .role (.nested "?")], [.name "tail"]] tailPieces ∧
      Lists [.name "rest", .role (.nested "?"), .name "tail"] tailTokens ∧
      ofAttributes tailAttributes = ofTokens tailTokens ∧
      ofTokens tailTokens = .ok ⟨some (.nested "?"), some "tail"⟩ := by
  have spread : List.Forall₂ Lists [[.name "rest", .role (.nested "?")], [.name "tail"]]
      tailPieces :=
    .cons (.cons .name .given (.cons (.nested .given) .given .nil))
      (.cons (.cons .name .absent .nil) .nil)
  have listed : Lists [.name "rest", .role (.nested "?"), .name "tail"] tailTokens :=
    .cons .name .absent (.cons .optional .absent (.cons .name .absent .nil))
  refine ⟨rfl, spread, listed, ?_, ?_⟩
  · exact (ofAttributes_reads_lists.2 tailAttributes tailPieces rfl).1 _ _ spread listed
  · exact (ofAttributes_reads_lists.1 _ _).2 ⟨_, listed, Nat.le_refl 1, rfl⟩

end FieldAttributes

end SchemaMatch.Derive
