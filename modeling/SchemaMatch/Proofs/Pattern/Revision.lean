import SchemaMatch.Proofs.Compilation.Offset
import SchemaMatch.Proofs.Pattern.Agreement
import SchemaMatch.Proofs.Pattern.Fit
import SchemaMatch.Proofs.Record.Twins
import SchemaMatch.Proofs.Stencil.Marker

/-!
# Capturing does not change matching

Putting positions into schemas, or no longer capturing some of their texts, leaves the matches of an
input where they are and what is written to all other destinations as it is. The main statement is
`Pattern.capturing_preserves_matching`.
-/

namespace SchemaMatch

open Regex Compilation

namespace Pattern

variable {scope revised : Scope} {edits : SchemaId → List Edit} {root : SchemaId}
variable {pattern pattern' : Pattern} {paired : Nat → Nat → Prop} {input : String}

theorem contained_of_twins {shared : SchemaId → Place → Bool}
    (twins : Twins paired shared (.record pattern.stencil pattern.expr)
      (.record pattern'.stencil pattern'.expr)) {options : Options}
    (contained : ∀ text, .fragment text ∈ pattern.expr.nodes →
      Fragment.IsSelfContained options text) :
    ∀ text, .fragment text ∈ pattern'.expr.nodes → Fragment.IsSelfContained options text := by
  intro text member
  have same : pattern'.expr.fragments = pattern.expr.fragments := twins.fragments
  exact contained text (Expr.mem_fragments.1 (same ▸ Expr.mem_fragments.2 member))

section Twins

variable {shared : SchemaId → Place → Bool} (pairing : IsPairing paired)
  (twins : Twins paired shared (.record pattern.stencil pattern.expr)
    (.record pattern'.stencil pattern'.expr))

include twins

/-- What a pattern and its twin make of matches that are alike is the same at the shared places. -/
theorem restrict_recordOf {m m' : Match} (alike : m.Alike paired m')
    (found : m ∈ pattern.allMatches input) (found' : m' ∈ pattern'.allMatches input) :
    (pattern'.recordOf m').restrict shared = (pattern.recordOf m).restrict shared := by
  have blanks : pattern'.blank.restrict shared = pattern.blank.restrict shared := by
    rw [blank, blank, twins.of_record.2]
  have writes : Inflated.Alike shared (pattern.stencil.inflate m pattern.blank)
      (pattern'.stencil.inflate m' pattern'.blank) := twins.writeAlike alike blanks
  rw [inflate_eq_recordOf found, inflate_eq_recordOf found'] at writes
  exact writes rfl rfl

variable [Regex.SizeMeasure]
  (reachable : scope.registry.Reachable) (reachable' : revised.registry.Reachable)
  (options : revised.options = scope.options) (success : compile scope root = .ok pattern)
  (success' : compile revised root = .ok pattern')
  (contained : ∀ text, .fragment text ∈ pattern.expr.nodes →
    Fragment.IsSelfContained scope.options text)

include pairing reachable reachable' options success success' contained

theorem alike_matchAt? (subject : Subject) (position : Nat) :
    Option.Rel (fun arrival arrival' =>
        Alike paired (arrival.capture 0 position) (arrival'.capture 0 position))
      (pattern.regex.term.matchAt? subject position)
      (pattern'.regex.term.matchAt? subject position) := by
  obtain ⟨compiled, accepted⟩ := parts_of_compile success
  obtain ⟨compiled', accepted'⟩ := parts_of_compile success'
  have contained' := contained_of_twins twins contained
  have first := matchAt?_of_compile reachable compiled contained (parse_of_regex accepted) subject
    position
  have second := matchAt?_of_compile reachable' compiled' (options ▸ contained')
    (parse_of_regex accepted') subject position
  rw [options] at second
  have ways : List.Forall₂ (Alike paired) _ _ :=
    twins.matchAlike pairing scope.options subject (Alike.initial position)
  generalize pattern.regex.term.matchAt? subject position = found at first
  generalize pattern'.regex.term.matchAt? subject position = found' at second
  generalize pattern.expr.ways scope.options subject (.initial position) = here at first ways
  generalize pattern'.expr.ways scope.options subject (.initial position) = there at second ways
  cases ways with
  | nil =>
    cases Option.map_eq_none_iff.1 first.symm
    cases Option.map_eq_none_iff.1 second.symm
    exact .none
  | cons alike rest =>
    obtain ⟨arrival, rfl, rfl⟩ := Option.map_eq_some_iff.1 first.symm
    obtain ⟨arrival', rfl, rfl⟩ := Option.map_eq_some_iff.1 second.symm
    exact .some alike

/-- A pattern and its twin have the same matches of an input, one by one, with the same regions for
paired slots. -/
theorem alike_allMatches (input : String) :
    List.Forall₂ (fun m m' => m'.whole? = m.whole? ∧ m.Alike paired m')
      (pattern.allMatches input) (pattern'.allMatches input) := by
  have contained' := contained_of_twins twins contained
  rw [← options] at contained'
  have founds := (Term.succession_allMatches (.ofString input) pattern.regex.term).forall₂
    (alike_matchAt? pairing twins reachable reachable' options success success' contained _)
    (fun _ _ _ alike => alike.position)
    (Term.succession_allMatches (.ofString input) pattern'.regex.term)
  simp only [allMatches, Regex.findAll, List.forall₂_map_left_iff, List.forall₂_map_right_iff]
  refine founds.imp ?_
  rintro ⟨position, arrival⟩ ⟨position', arrival'⟩ ⟨matched, matched', same, alike⟩
  cases same
  have stops : arrival'.position = arrival.position := alike.position
  have regions := (way_of_isMatch reachable success contained matched).2
  have regions' := (way_of_isMatch reachable' success' contained' matched').2
  refine ⟨?_, rfl, fun slot slot' pair => ?_⟩
  · rw [Match.whole?, Match.whole?]
    simp only [Match.region?, Regex.regions, List.getElem?_cons_zero, stops]
  · rw [regions, regions', Stencil.inUnit, Stencil.inUnit, alike.region pair]

end Twins

/-- Lists that are related one by one have the same images under functions that agree on what is
related. -/
theorem map_eq_of_forall₂ {α β γ : Type} {Rel : α → β → Prop} {f : α → γ} {g : β → γ}
    {items : List α} {items' : List β} (related : List.Forall₂ Rel items items')
    (same : ∀ a ∈ items, ∀ b ∈ items', Rel a b → g b = f a) : items'.map g = items.map f := by
  induction related with
  | nil => rfl
  | cons first rest ih =>
    rw [List.map_cons, List.map_cons, same _ List.mem_cons_self _ List.mem_cons_self first]
    exact congrArg _ (ih fun a here b there =>
      same a (List.mem_cons_of_mem _ here) b (List.mem_cons_of_mem _ there))

theorem forall₂_limited {Rel : Match → Match → Prop} {items items' : List Match}
    (related : List.Forall₂ Rel items items') (limit : Option Nat) :
    List.Forall₂ Rel (limited limit items) (limited limit items') := by
  cases limit with
  | none => exact related
  | some limit => exact List.forall₂_take limit related

theorem findAll_eq (pattern : Pattern) (input : String) (limit : Option Nat) :
    pattern.findAll input limit =
      .ok ((limited limit (pattern.allMatches input)).map pattern.recordOf) := by
  have collected : pattern.findAllInto id [] input limit = _ :=
    collect_eq id (limited limit (pattern.allMatches input)) (fun m => mem_of_mem_limited) []
  rw [findAll, collected, List.map_id, List.nil_append]

theorem writes_recordOf {m : Match} (found : m ∈ pattern.allMatches input) :
    pattern.stencil.Writes .plain m pattern.blank (pattern.recordOf m) :=
  (Inflated.completes_ofStencil (fun _ _ => rfl) (isStretch_of_match (.inr found)) rfl
    (Record.isTyped_blank _)).2.2

/-- If positions are put into the schemas of a scope and captured texts turned into separators, with
destinations that no other field has, a root whose fragments are self-contained matches as before:
the matches of every input cover the same, and the records that are made of them hold the same at
all destinations that both versions of a schema write to. Where such positions stand next to one
another between the fields of a record, each of them holds the offset where what the fields before
them cover ends and what the fields after them cover begins. -/
theorem capturing_preserves_matching [Regex.SizeMeasure]
    (reachable : scope.registry.Reachable)
    (reachable' : revised.registry.Reachable) (revision : scope.IsRevision edits revised)
    (success : compile scope root = .ok pattern) (success' : compile revised root = .ok pattern')
    (contained : ∀ text, .fragment text ∈ pattern.expr.nodes →
      Fragment.IsSelfContained scope.options text) (input : String) :
    (pattern'.allMatches input).map Match.whole? = (pattern.allMatches input).map Match.whole? ∧
    (∀ limit, ∃ records records' : List Record, pattern.findAll input limit = .ok records ∧
      pattern'.findAll input limit = .ok records' ∧
      records'.map (Record.restrict (scope.shares revised)) =
        records.map (Record.restrict (scope.shares revised)) ∧
      List.Forall₂ (fun m record => pattern'.stencil.Writes .plain m pattern'.blank record)
        (limited limit (pattern'.allMatches input)) records') ∧
    ∀ m ∈ pattern'.allMatches input, ∀ record ∈ pattern'.stencil.records, ∀ region,
      m.region? record.slot = some region →
      ∀ (front : List Edit) (markers : List (String × Nat)) (back : List Edit),
      edits record.schema =
        front ++ (markers.map fun marker => .inserted marker.1 marker.2) ++ back →
      record.Marks revised m region (front.map Edit.after) (markers.map Prod.snd)
        (back.map Edit.after) := by
  have compiled := (parts_of_compile success).1
  have compiled' := (parts_of_compile success').1
  obtain ⟨paired, pairing, twins⟩ := revision.twins compiled compiled'
  have alike := alike_allMatches pairing twins reachable reachable' revision.options success
    success' contained input
  refine ⟨map_eq_of_forall₂ alike fun m _ m' _ same => same.1, fun limit => ?_, ?_⟩
  · refine ⟨_, _, findAll_eq pattern input limit, findAll_eq pattern' input limit, ?_, ?_⟩
    · rw [List.map_map, List.map_map]
      exact map_eq_of_forall₂ (forall₂_limited alike limit) fun m member m' member' same =>
        restrict_recordOf twins same.2 (mem_of_mem_limited member) (mem_of_mem_limited member')
    · rw [List.forall₂_map_right_iff]
      exact List.forall₂_same.2 fun m member => writes_recordOf (mem_of_mem_limited member)
  · intro m found record inside region took front markers back edited
    obtain ⟨next, laid⟩ := Scope.laid_of_compile compiled'
    obtain ⟨_, _, _, held⟩ := laid.records record inside
    obtain ⟨start, matched, rfl⟩ := exists_isMatch (.inr found)
    have fits := fits_of_isMatch reachable' success'
      (revision.options ▸ contained_of_twins twins contained) matched
    exact Stencil.marks_of_fits revision held.mirrors (fits.inner took _ inside) took edited

/-- What is done to `samplePair`: two markers are put in front of its pairs, and the word of its
items is no longer captured. -/
def markedEdits : SchemaId → List Edit
  | 0 => [.inserted "start" 3, .inserted "again" 4,
      .kept ⟨"left", .scalar "a" (.storable .text), 0⟩, .kept (.separator "-"),
      .kept ⟨"label", .scalar "" (.storable .text), 1⟩, .kept ⟨"item", .nested "?" .optional 1, 2⟩]
  | 1 => [.kept ⟨"here", .position, 0⟩, .released "word" "b" (.storable .bytes) 1]
  | _ => []

/-- The revision of `samplePair`. -/
def markedPair : Scope :=
  { samplePair with
    family := {
      schemas := [⟨"Pair", "Pair", (markedEdits 0).map Edit.after⟩,
        ⟨"Item", "Item", (markedEdits 1).map Edit.after⟩]
      capabilities := [] } }

theorem isRevision_markedPair : samplePair.IsRevision markedEdits markedPair where
  before := by rintro (_ | _ | id) <;> rfl
  after := by rintro (_ | _ | id) <;> rfl
  apart := by
    rintro (_ | _ | id)
    · decide
    · decide
    · exact .nil
  variants _ := rfl
  options := rfl

/-- Both versions of `samplePair` match the same stretches of a text, and what they write is the same
but for the markers; in whatever the first match is written to, both markers hold where it begins. -/
theorem capturing_preserves_matching_markedPair :
    ∃ pattern pattern', compile samplePair 0 = .ok pattern ∧ compile markedPair 0 = .ok pattern' ∧
      pattern.stencil = samplePairStencil ∧
      (pattern'.allMatches "xa-c a-").map Match.whole? = [some ⟨1, 3⟩, some ⟨5, 7⟩] ∧
      (pattern.allMatches "xa-c a-").map Match.whole? = [some ⟨1, 3⟩, some ⟨5, 7⟩] ∧
      ∃ records records' : List Record, pattern.findAll "xa-c a-" none = .ok records ∧
        pattern'.findAll "xa-c a-" none = .ok records' ∧
        records'.map (Record.restrict (samplePair.shares markedPair)) =
          records.map (Record.restrict (samplePair.shares markedPair)) ∧
        ∃ first, records'.head? = some first ∧
          first.get? ⟨3, .position⟩ = some (.position 1) ∧
          first.get? ⟨4, .position⟩ = some (.position 1) := by
  have compiles : (fun pattern => (pattern.stencil, pattern.expr)) <$> compile samplePair 0 =
      .ok (samplePairStencil, samplePairTree) := rfl
  have marked : (compile markedPair 0).toOption.map (fun pattern => pattern.allMatches "xa-c a-") =
      some [
        ⟨"xa-c a-",
          [some ⟨1, 3⟩, some ⟨1, 1⟩, some ⟨1, 1⟩, some ⟨1, 2⟩, some ⟨3, 3⟩, none, none]⟩,
        ⟨"xa-c a-",
          [some ⟨5, 7⟩, some ⟨5, 5⟩, some ⟨5, 5⟩, some ⟨5, 6⟩, some ⟨7, 7⟩, none, none]⟩] := by
    decide +kernel
  obtain ⟨pattern, success, parts⟩ := map_eq_ok_iff.1 compiles
  obtain ⟨stencil, tree⟩ := Prod.mk.inj parts
  cases success' : compile markedPair 0 with
  | error error =>
    rw [success'] at marked
    cases marked
  | ok pattern' =>
    rw [success'] at marked
    have found : pattern'.allMatches "xa-c a-" = _ := Option.some.inj marked
    obtain ⟨spans, values, marks⟩ := capturing_preserves_matching .empty .empty
      isRevision_markedPair success success' (tree ▸ isSelfContained_samplePair) "xa-c a-"
    obtain ⟨records, records', all, all', same, writes⟩ := values none
    rw [found] at spans marks
    refine ⟨pattern, pattern', success, rfl, stencil, ?_, spans.symm, records, records', all, all',
      same, ?_⟩
    · rw [found]
      rfl
    · rw [limited, found] at writes
      cases writes with
      | @cons _ first _ others write rest =>
        obtain ⟨offset, before, between, after, _, starts, _, holds⟩ := marks _ List.mem_cons_self
          pattern'.stencil (Stencil.mem_records_self _) ⟨1, 3⟩
          (by rw [slot_of_compile success']; rfl) [] [("start", 3), ("again", 4)]
          ((markedEdits 0).drop 2) (by rw [schema_of_compile success']; rfl)
        cases before with
        | nil =>
          cases (show 1 = offset by simpa [Stencil.FieldsFit] using starts)
          exact ⟨first, rfl, holds 3 (by decide) _ first write, holds 4 (by decide) _ first write⟩
        | cons stencil rest => simp [Stencil.FieldsFit] at starts

/-- Two separators, which turn ignoring blanks on, and a text. The first is a class with a comment
in which a group is left when the comment is not printed, the second leaves a comment open once it
has lost a blank. -/
def looseText : Scope where
  family := {
    schemas := [⟨"S", "S", [.separator "(?x)[A-#c\n](x)]", .separator "(?x)[!- -[](?-x:]]#)",
      ⟨"f", .scalar "[\n(?:]" (.storable .text), 0⟩]⟩]
    capabilities := [] }
  registry := .empty
  options := {}

/-- A marker is put between the separators of `looseText`. -/
def looseEdits : SchemaId → List Edit
  | 0 => [.kept (.separator "(?x)[A-#c\n](x)]"), .inserted "p" 1,
      .kept (.separator "(?x)[!- -[](?-x:]]#)"),
      .kept ⟨"f", .scalar "[\n(?:]" (.storable .text), 0⟩]
  | _ => []

/-- The revision of `looseText`. -/
def markedLooseText : Scope :=
  { looseText with
    family := { schemas := [⟨"S", "S", (looseEdits 0).map Edit.after⟩], capabilities := [] } }

theorem isRevision_markedLooseText : looseText.IsRevision looseEdits markedLooseText where
  before := by rintro (_ | id) <;> rfl
  after := by rintro (_ | id) <;> rfl
  apart := by
    rintro (_ | id)
    · decide
    · exact .nil
  variants _ := rfl
  options := rfl

/-- The first separator of `looseText` has a group of its own and the comment of the second takes in
the group of the text, so as many groups are left as there are slots; what is written to the text is
what the first separator captures. With the marker in front of it, the text is given what the marker
should have. -/
theorem findAll_markedLooseText : looseText.IsRevision looseEdits markedLooseText ∧
    ∃ pattern pattern' records records', compile looseText 0 = .ok pattern ∧
      compile markedLooseText 0 = .ok pattern' ∧
      pattern.findAll "Ax]!]" none = .ok records ∧ pattern'.findAll "Ax]!]" none = .ok records' ∧
      records.map (·.get? ⟨0, .scalar .text⟩) = [some (.text "x")] ∧
      records'.map (·.get? ⟨0, .scalar .text⟩) = [some (.text "")] ∧
      records'.map (Record.restrict (looseText.shares markedLooseText)) ≠
        records.map (Record.restrict (looseText.shares markedLooseText)) := by
  have first : Prod.fst <$> looseText.compile 0 =
      .ok (.mk 0 "S" "S" 0 [.separator, .separator, .scalar "f" 1 0 .text]) := rfl
  have second : Prod.fst <$> markedLooseText.compile 0 =
      .ok (.mk 0 "S" "S" 0
        [.separator, .position "p" 1 1, .separator, .scalar "f" 2 0 .text]) := rfl
  have matched : (compile looseText 0).toOption.map (fun pattern => pattern.allMatches "Ax]!]") =
      some [⟨"Ax]!]", [some ⟨0, 5⟩, some ⟨1, 2⟩]⟩] := by
    decide +kernel
  have matched' : (compile markedLooseText 0).toOption.map
      (fun pattern => pattern.allMatches "Ax]!]") =
      some [⟨"Ax]!]", [some ⟨0, 5⟩, some ⟨1, 2⟩, some ⟨3, 3⟩]⟩] := by
    decide +kernel
  refine ⟨isRevision_markedLooseText, ?_⟩
  cases success : compile looseText 0 with
  | error error =>
    rw [success] at matched
    cases matched
  | ok pattern =>
    cases success' : compile markedLooseText 0 with
    | error error =>
      rw [success'] at matched'
      cases matched'
    | ok pattern' =>
      rw [success] at matched
      rw [success'] at matched'
      rw [(parts_of_compile success).1] at first
      rw [(parts_of_compile success').1] at second
      have found : pattern.allMatches "Ax]!]" = _ := Option.some.inj matched
      have found' : pattern'.allMatches "Ax]!]" = _ := Option.some.inj matched'
      have stencil : pattern.stencil = _ := Except.ok.inj first
      have stencil' : pattern'.stencil = _ := Except.ok.inj second
      have all := findAll_eq pattern "Ax]!]" none
      have all' := findAll_eq pattern' "Ax]!]" none
      rw [limited, found] at all
      rw [limited, found'] at all'
      refine ⟨pattern, pattern', _, _, rfl, rfl, all, all', ?_, ?_, ?_⟩
      · simp only [List.map_cons, List.map_nil, recordOf, blank, stencil]
        rfl
      · simp only [List.map_cons, List.map_nil, recordOf, blank, stencil']
        rfl
      · simp only [List.map_cons, List.map_nil, recordOf, blank, stencil, stencil']
        intro same
        have held := congrArg (List.map (·.get? ⟨0, .scalar .text⟩)) same
        cases held

end Pattern

end SchemaMatch
