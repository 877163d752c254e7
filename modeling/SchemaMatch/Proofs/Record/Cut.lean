import SchemaMatch.Proofs.Record.Writes

/-!
# What is written is cut from the input

Wherever a match writes to, it leaves what is cut from the input: texts, bytes and submatches of
stretches of it, and positions that are boundaries of it. The main statement is
`Stencil.Writes.isCut`.
-/

namespace SchemaMatch

open Text (IsBoundary IsStretch covered)

/-- A submatch that is cut from an input: its region lies in the input, and its bytes, its length and
its text are those of the region. -/
structure Submatch.IsCut (input : String) (submatch : Submatch) : Prop where
  ordered : submatch.region.start ≤ submatch.region.stop
  inside : submatch.region.stop ≤ (Text.utf8 input).length
  bytes : submatch.bytes = covered input submatch.region
  length : submatch.length? = some submatch.bytes.length
  text : ∃ text, Text.slice? input submatch.region = some text ∧ submatch.text? = some text

theorem Text.IsStretch.isCut {input : String} {region : Region} (stretch : IsStretch input region) :
    Submatch.IsCut input ⟨region, covered input region⟩ := by
  obtain ⟨text, cut⟩ := stretch.exists_slice?
  obtain ⟨_, bytes⟩ := Text.slice?_eq_some_iff.1 cut
  refine ⟨stretch.ordered, stretch.stop.le_length, rfl, ?_, text, cut, ?_⟩
  · rw [Submatch.length?, stretch.length_covered]
    exact if_pos stretch.ordered
  · rw [Submatch.text?, ← bytes, Text.ofUtf8?_utf8]

/-- Something that is cut from an input. What a record holds is told by longer paths. -/
def Content.IsCut (input : String) : Content → Prop
  | .text value => ∃ region, Text.slice? input region = some value
  | .bytes value => ∃ region, IsStretch input region ∧ value = covered input region
  | .submatch value => value.IsCut input
  | .position offset => offset ≤ (Text.utf8 input).length ∧ IsBoundary input offset
  | .record _ _ => True

/-- A record in which everything is cut from an input. -/
def Record.IsCut (input : String) (record : Record) : Prop :=
  ∀ path content, path ≠ [] → record.at? path = some content → content.IsCut input

/-- Whatever is stored of a stretch is cut from the input, and there is nothing inside. -/
theorem Representation.Stores.isCut {representation : Representation} {input : String}
    {region : Region} {stored : Content} (stores : representation.Stores input region stored)
    (stretch : IsStretch input region) {rest : List Place} {content : Content}
    (found : stored.at? rest = some content) : content.IsCut input := by
  have text {value : String} (bytes : Text.utf8 value = covered input region)
      (found : (Content.text value).at? rest = some content) : content.IsCut input := by
    cases rest with
    | nil =>
      cases found
      exact ⟨region, Text.slice?_eq_some_iff.2 ⟨stretch, bytes⟩⟩
    | cons next deeper => cases found
  have bytes (found : (Content.bytes (covered input region)).at? rest = some content) :
      content.IsCut input := by
    cases rest with
    | nil =>
      cases found
      exact ⟨region, stretch, rfl⟩
    | cons next deeper => cases found
  have submatch
      (found : (Content.submatch ⟨region, covered input region⟩).at? rest = some content) :
      content.IsCut input := by
    cases rest with
    | nil =>
      cases found
      exact Text.IsStretch.isCut stretch
    | cons next deeper => cases found
  cases representation with
  | text =>
    obtain ⟨value, read, rfl⟩ := stores
    exact text read found
  | optionalText =>
    obtain ⟨value, read, rfl⟩ := stores
    exact text read found
  | bytes =>
    cases stores
    exact bytes found
  | optionalBytes =>
    cases stores
    exact bytes found
  | submatch =>
    cases stores
    exact submatch found
  | optionalSubmatch =>
    cases stores
    exact submatch found
  | ignore => exact False.elim stores

/-- Where a change is met, there is a record on the way to it, or what the change leaves. -/
theorem Hold.Changes.isCut {change : Option Content → Option Content → Prop}
    {target place : Place} {holds : List Hold} {rest : List Place} {before after : Option Content}
    {input : String} {content : Content}
    (changes : Hold.Changes change target holds place before after)
    (meets : place :: rest <+: Hold.path holds ++ [target] ∨
      Hold.path holds ++ [target] <+: place :: rest)
    (left : ∀ deeper, Hold.path holds ++ [target] ++ deeper = place :: rest →
      ∀ before after, change before after → after.bind (·.at? deeper) = some content →
        content.IsCut input)
    (found : after.bind (·.at? rest) = some content) : content.IsCut input := by
  induction holds generalizing place rest before after with
  | nil =>
    have here : place = target := head_eq_of_prefix meets
    rw [Hold.Changes, if_pos here] at changes
    exact left rest (by rw [here]; rfl) before after changes found
  | cons hold holds ih =>
    have here : place = hold.place := head_eq_of_prefix meets
    rw [Hold.Changes, if_pos here] at changes
    obtain ⟨inner, _, inside, rfl⟩ := changes
    cases rest with
    | nil =>
      cases found
      exact True.intro
    | cons next deeper =>
      refine ih (inside next) ?_ (fun further split => left further ?_) found
      · rcases meets with before | inside
        · exact .inl (List.cons_prefix_cons.1 before).2
        · exact .inr (List.cons_prefix_cons.1 inside).2
      · rw [here, ← split]
        rfl

section Cut

variable {accessors : Accessors} {m : Match}

mutual

theorem Stencil.Writes.isCut
    (marked : ∀ slot region, m.region? slot = some region → IsStretch m.input region) :
    (stencil : Stencil) → {before after : Record} → {path : List Place} → {content : Content} →
    stencil.Writes accessors m before after → path ≠ [] → stencil.Reaches accessors m path →
    after.at? path = some content → content.IsCut m.input
  | .mk _ _ _ slot fields, before, after, [], content, _, inside, _, _ => absurd rfl inside
  | .mk schema _ _ slot fields, before, after, place :: rest, content, writes, _, reached,
      found => by
    obtain ⟨took, reached⟩ := reached
    have written := writes.2 place
    rw [if_pos took] at written
    exact FieldsWrite.isCut marked fields written reached found

theorem FieldsWrite.isCut {schema : SchemaId}
    (marked : ∀ slot region, m.region? slot = some region → IsStretch m.input region) :
    (fields : List FieldStencil) → {place : Place} → {rest : List Place} →
    {before after : Option Content} → {content : Content} →
    FieldsWrite accessors m schema fields place before after →
    FieldsReach accessors m schema fields (place :: rest) →
    after.bind (·.at? rest) = some content → content.IsCut m.input
  | [], _, _, _, _, _, _, reached, _ => nomatch reached
  | field :: fields, place, rest, before, after, content, ⟨middle, first, others⟩, reached, found => by
    by_cases later : FieldsReach accessors m schema fields (place :: rest)
    · exact FieldsWrite.isCut marked fields others later found
    · rw [FieldsWrite.frame fields others later] at found
      exact FieldWrites.isCut marked field first (reached.resolve_right later) found

theorem FieldWrites.isCut {schema : SchemaId}
    (marked : ∀ slot region, m.region? slot = some region → IsStretch m.input region) :
    (field : FieldStencil) → {place : Place} → {rest : List Place} →
    {before after : Option Content} → {content : Content} →
    FieldWrites accessors m schema field place before after →
    FieldReaches accessors m schema field (place :: rest) →
    after.bind (·.at? rest) = some content → content.IsCut m.input
  | .separator, _, _, _, _, _, _, reached, _ => nomatch reached
  | .scalar _ slot dest representation, place, rest, before, after, content, writes,
      ⟨took, kept, meets⟩, found => by
    obtain ⟨region, took⟩ := Option.isSome_iff_exists.1 took
    simp only [FieldWrites, took, if_neg kept] at writes
    refine writes.isCut meets ?_ found
    rintro deeper _ _ _ ⟨stored, stores, rfl⟩ found
    exact stores.isCut (marked slot region took) found
  | .position _ slot dest, place, rest, before, after, content, writes, ⟨took, meets⟩, found => by
    obtain ⟨region, took⟩ := Option.isSome_iff_exists.1 took
    simp only [FieldWrites, took] at writes
    have start := (marked slot region took).start
    refine writes.isCut meets ?_ found
    rintro deeper _ _ _ rfl found
    cases deeper with
    | nil =>
      cases found
      exact ⟨start.le_length, start⟩
    | cons next deeper => cases found
  | .nested _ _ dest holder child, place, rest, before, after, content, writes,
      ⟨took, reached⟩, found => by
    rw [FieldWrites, if_pos took] at writes
    refine writes.isCut (reached.imp_right fun ⟨deeper, split, _⟩ => ⟨deeper, split.symm⟩) ?_ found
    rintro deeper split _ _ ⟨inner, inside, rfl⟩ found
    cases deeper with
    | nil =>
      cases found
      exact True.intro
    | cons next further =>
      rcases reached with before | ⟨other, same, reached⟩
      · have longer := before.length_le
        rw [← split, List.length_append, List.length_cons] at longer
        simp only [Spot.path, List.length_append] at longer
        omega
      · have here : next :: further = other := List.append_cancel_left (split.trans same)
        exact Stencil.Writes.isCut marked child inside (List.cons_ne_nil _ _) (here ▸ reached) found
  | .union _ _ dest capability _ variants, place, rest, before, after, content, writes,
      ⟨meets, took⟩, found => by
    rw [FieldWrites, if_pos (List.any_eq_true.2 took)] at writes
    refine writes.isCut meets ?_ found
    rintro deeper _ _ _ written found
    exact VariantsWrite.isCut marked variants written took found

theorem VariantsWrite.isCut
    (marked : ∀ slot region, m.region? slot = some region → IsStretch m.input region) :
    (variants : List Stencil) → {rest : List Place} → {after : Option Content} →
    {content : Content} → VariantsWrite accessors m variants after →
    (∃ variant ∈ variants, m.hasSlot variant.slot = true) →
    after.bind (·.at? rest) = some content → content.IsCut m.input
  | [], _, _, _, _, ⟨_, member, _⟩, _ => nomatch member
  | variant :: others, rest, after, content, writes, ⟨taken, member, took⟩, found => by
    rw [VariantsWrite] at writes
    split at writes
    · obtain ⟨inner, inside, rfl⟩ := writes
      cases rest with
      | nil =>
        cases found
        exact True.intro
      | cons next deeper =>
        by_cases reached : variant.Reaches accessors m (next :: deeper)
        · exact Stencil.Writes.isCut marked variant inside (List.cons_ne_nil _ _) reached found
        · -- a variant starts from a blank record, so nothing is there that it does not write
          have kept := inside.frame variant (List.cons_ne_nil _ _) reached
          rw [Record.at?_blank] at kept
          exact absurd (kept.symm.trans found) (Option.some_ne_none _).symm
    · rename_i absent
      rcases List.mem_cons.1 member with rfl | member
      · exact absurd took absent
      · exact VariantsWrite.isCut marked others writes ⟨taken, member, took⟩ found

end

end Cut

end SchemaMatch
