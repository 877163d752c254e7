import SchemaMatch.Proofs.Text.Slice
import SchemaMatch.Proofs.Text.Utf8

/-!
# Boundaries between characters

An offset is a boundary of a text if it stands between characters or at an end. A text has a slice
for just the regions from one boundary to another that are not reversed, and the bytes of the slice
are those that the region covers. The main statement is `slice?_eq_some_iff`.
-/

namespace SchemaMatch.Text

/-- An offset between characters of a text, or at an end of it. -/
def IsBoundary (text : String) (offset : Nat) : Prop :=
  ∃ front back, text.toList = front ++ back ∧ byteLength front = offset

/-- A region from one boundary of a text to another one that is not before it. -/
structure IsStretch (text : String) (region : Region) : Prop where
  ordered : region.start ≤ region.stop
  start : IsBoundary text region.start
  stop : IsBoundary text region.stop

/-- The bytes of a text that a region covers. -/
def covered (text : String) (region : Region) : List UInt8 :=
  ((utf8 text).drop region.start).take (region.stop - region.start)

theorem length_flatMap_utf8EncodeChar (chars : List Char) :
    (chars.flatMap String.utf8EncodeChar).length = byteLength chars := by
  induction chars with
  | nil => rfl
  | cons c rest ih =>
    rw [List.flatMap_cons, List.length_append, ih, String.length_utf8EncodeChar, byteLength_cons]

theorem length_utf8 (text : String) : (utf8 text).length = byteLength text.toList := by
  rw [utf8_eq_flatMap, length_flatMap_utf8EncodeChar]

theorem utf8_injective {text other : String} (same : utf8 text = utf8 other) : text = other := by
  have decoded : ofUtf8? (utf8 text) = ofUtf8? (utf8 other) := congrArg ofUtf8? same
  rw [ofUtf8?_utf8, ofUtf8?_utf8] at decoded
  exact Option.some.inj decoded

theorem IsBoundary.le_length {text : String} {offset : Nat} (boundary : IsBoundary text offset) :
    offset ≤ (utf8 text).length := by
  obtain ⟨front, back, parts, rfl⟩ := boundary
  rw [length_utf8, parts, byteLength_append]
  exact Nat.le_add_right _ _

theorem eq_nil_of_byteLength_eq_zero {chars : List Char} (none : byteLength chars = 0) :
    chars = [] := by
  cases chars with
  | nil => rfl
  | cons c rest =>
    rw [byteLength_cons] at none
    have size := c.utf8Size_pos
    omega

theorem IsStretch.parts {text : String} {region : Region} (stretch : IsStretch text region) :
    ∃ front part back, text.toList = front ++ part ++ back ∧ byteLength front = region.start ∧
      byteLength (front ++ part) = region.stop := by
  obtain ⟨ordered, ⟨front, behind, first, start⟩, ⟨upTo, back, last, stop⟩⟩ := stretch
  rcases List.append_eq_append_iff.1 (first.symm.trans last) with ⟨part, rfl, rfl⟩ | ⟨part, rfl, rfl⟩
  · exact ⟨front, part, back, last, start, stop⟩
  · have nothing : part = [] := by
      rw [byteLength_append] at start
      exact eq_nil_of_byteLength_eq_zero (by omega)
    subst nothing
    rw [List.append_nil] at start
    exact ⟨upTo, [], behind, by simpa using last, start, by simpa using stop⟩

namespace Slice

theorem append_of_dropBytes? {chars rest : List Char} {count : Nat}
    (success : dropBytes? chars count = some rest) :
    ∃ front, chars = front ++ rest ∧ byteLength front = count := by
  induction chars generalizing count with
  | nil =>
    cases count with
    | zero =>
      cases success
      exact ⟨[], rfl, rfl⟩
    | succ count => cases success
  | cons c chars ih =>
    cases count with
    | zero =>
      cases success
      exact ⟨[], rfl, rfl⟩
    | succ count =>
      rw [dropBytes?] at success
      split at success
      · rename_i fits
        obtain ⟨front, rfl, length⟩ := ih success
        exact ⟨c :: front, rfl, by rw [byteLength_cons]; omega⟩
      · cases success

theorem append_of_takeBytes? {chars part : List Char} {count : Nat}
    (success : takeBytes? chars count = some part) :
    ∃ back, chars = part ++ back ∧ byteLength part = count := by
  induction chars generalizing count part with
  | nil =>
    cases count with
    | zero =>
      cases success
      exact ⟨[], rfl, rfl⟩
    | succ count => cases success
  | cons c chars ih =>
    cases count with
    | zero =>
      cases success
      exact ⟨c :: chars, rfl, rfl⟩
    | succ count =>
      rw [takeBytes?] at success
      split at success
      · rename_i fits
        obtain ⟨others, taken, rfl⟩ := Option.map_eq_some_iff.1 success
        obtain ⟨back, rfl, length⟩ := ih taken
        exact ⟨back, rfl, by rw [byteLength_cons]; omega⟩
      · cases success

end Slice

theorem slice?_of_parts {text : String} {front part back : List Char}
    (parts : text.toList = front ++ part ++ back) :
    slice? text ⟨byteLength front, byteLength (front ++ part)⟩ = some (String.ofList part) := by
  have order : front.length ≤ (front ++ part).length := by
    rw [List.length_append]
    exact Nat.le_add_right _ _
  have cut : slice? text _ = _ := slice?_byteOffset order
  have start : text.toList.take front.length = front := by
    rw [parts, List.append_assoc, List.take_left]
  have stop : text.toList.take (front ++ part).length = front ++ part := by
    rw [parts, List.take_left]
  have between : (text.toList.drop front.length).take ((front ++ part).length - front.length) =
      part := by
    rw [parts, List.append_assoc, List.drop_left, List.length_append, Nat.add_sub_cancel_left,
      List.take_left]
  rwa [byteOffset_ofString, byteOffset_ofString, start, stop, between] at cut

theorem covered_of_parts {text : String} {front part back : List Char}
    (parts : text.toList = front ++ part ++ back) :
    covered text ⟨byteLength front, byteLength (front ++ part)⟩ = utf8 (String.ofList part) := by
  have start := length_flatMap_utf8EncodeChar front
  have length := length_flatMap_utf8EncodeChar part
  rw [covered, utf8_eq_flatMap, utf8_eq_flatMap, parts, String.toList_ofList, List.flatMap_append,
    List.flatMap_append, List.append_assoc, ← start, List.drop_left, byteLength_append, ← start,
    Nat.add_sub_cancel_left, ← length, List.take_left]

/-- A text has a slice for each stretch of it and for no other region, and the bytes of the slice are
those that the region covers. -/
theorem slice?_eq_some_iff {text part : String} {region : Region} :
    slice? text region = some part ↔ IsStretch text region ∧ utf8 part = covered text region := by
  constructor
  · intro cut
    obtain ⟨start, stop⟩ := region
    rw [slice?] at cut
    split at cut
    · cases cut
    · rename_i ordered
      obtain ⟨rest, dropped, cut⟩ := Option.bind_eq_some_iff.1 cut
      obtain ⟨chars, taken, done⟩ := Option.bind_eq_some_iff.1 cut
      cases done
      obtain ⟨front, whole, length⟩ := Slice.append_of_dropBytes? dropped
      obtain ⟨back, rfl, size⟩ := Slice.append_of_takeBytes? taken
      have ordered : start ≤ stop := Nat.not_lt.1 ordered
      have length : byteLength front = start := length
      have size : byteLength chars = stop - start := size
      have last : byteLength (front ++ chars) = stop := by
        rw [byteLength_append]
        omega
      have parts : text.toList = front ++ chars ++ back := by rw [whole, List.append_assoc]
      refine ⟨⟨ordered, ⟨front, chars ++ back, whole, length⟩, ⟨_, back, parts, last⟩⟩, ?_⟩
      rw [← covered_of_parts parts, length, last]
  · rintro ⟨stretch, same⟩
    obtain ⟨front, chars, back, parts, start, stop⟩ := stretch.parts
    have cut := slice?_of_parts parts
    have bytes := covered_of_parts parts
    rw [start, stop] at cut bytes
    rw [cut, utf8_injective (same.trans bytes)]

theorem IsStretch.exists_slice? {text : String} {region : Region}
    (stretch : IsStretch text region) : ∃ part, slice? text region = some part := by
  obtain ⟨front, chars, back, parts, start, stop⟩ := stretch.parts
  have cut := slice?_of_parts parts
  rw [start, stop] at cut
  exact ⟨_, cut⟩

theorem IsStretch.length_covered {text : String} {region : Region}
    (stretch : IsStretch text region) :
    (covered text region).length = region.stop - region.start := by
  have last := stretch.stop.le_length
  rw [covered, List.length_take, List.length_drop]
  omega

end SchemaMatch.Text
