import SchemaMatch.Regex.Subject
import SchemaMatch.Text.Slice

/-!
# Positions as offsets

The offset of a position counts the bytes of the characters before it. It stands between characters,
so there is a slice between any two positions of a text.
-/

namespace SchemaMatch.Text

def byteLength (chars : List Char) : Nat := chars.foldr (·.utf8Size + ·) 0

@[simp] theorem byteLength_nil : byteLength [] = 0 := rfl

@[simp] theorem byteLength_cons (c : Char) (rest : List Char) :
    byteLength (c :: rest) = c.utf8Size + byteLength rest := rfl

@[simp] theorem byteLength_append (front back : List Char) :
    byteLength (front ++ back) = byteLength front + byteLength back := by
  induction front with
  | nil => rw [List.nil_append, byteLength_nil, Nat.zero_add]
  | cons c rest ih => rw [List.cons_append, byteLength_cons, ih, byteLength_cons, Nat.add_assoc]

theorem foldl_utf8Size (chars : List Char) (bytes : Nat) :
    chars.foldl (fun bytes c => bytes + c.utf8Size) bytes = bytes + byteLength chars := by
  induction chars generalizing bytes with
  | nil => rfl
  | cons c rest ih => rw [List.foldl_cons, ih, byteLength_cons, Nat.add_assoc]

theorem byteOffset_ofString (text : String) (position : Nat) :
    (Regex.Subject.ofString text).byteOffset position =
      byteLength (text.toList.take position) := by
  simp only [Regex.Subject.byteOffset, Regex.Subject.ofString, List.take_toArray,
    List.foldl_toArray]
  rw [foldl_utf8Size, Nat.zero_add]

/-- Between two positions stand the characters of the stretch between them. -/
theorem byteLength_take {chars : List Char} {start stop : Nat} (order : start ≤ stop) :
    byteLength (chars.take stop) =
      byteLength (chars.take start) + byteLength ((chars.drop start).take (stop - start)) := by
  have parts : chars.take stop = chars.take start ++ (chars.drop start).take (stop - start) := by
    rw [← List.take_add, Nat.add_sub_cancel' order]
  rw [parts, byteLength_append]

namespace Slice

theorem dropBytes?_byteLength (chars : List Char) (count : Nat) :
    dropBytes? chars (byteLength (chars.take count)) = some (chars.drop count) := by
  induction chars generalizing count with
  | nil => simp [dropBytes?]
  | cons c rest ih =>
    cases count with
    | zero => simp [dropBytes?]
    | succ count =>
      have size := c.utf8Size_pos
      obtain ⟨fewer, equal⟩ : ∃ fewer, c.utf8Size + byteLength (rest.take count) = fewer + 1 :=
        ⟨_, (Nat.succ_pred_eq_of_pos (by omega)).symm⟩
      have fits : c.utf8Size ≤ fewer + 1 := by omega
      have left : fewer + 1 - c.utf8Size = byteLength (rest.take count) := by omega
      rw [List.take_succ_cons, byteLength_cons, equal, dropBytes?, if_pos fits, left, ih]
      rfl

theorem takeBytes?_byteLength (chars : List Char) (count : Nat) :
    takeBytes? chars (byteLength (chars.take count)) = some (chars.take count) := by
  induction chars generalizing count with
  | nil => simp [takeBytes?]
  | cons c rest ih =>
    cases count with
    | zero => simp [takeBytes?]
    | succ count =>
      have size := c.utf8Size_pos
      obtain ⟨fewer, equal⟩ : ∃ fewer, c.utf8Size + byteLength (rest.take count) = fewer + 1 :=
        ⟨_, (Nat.succ_pred_eq_of_pos (by omega)).symm⟩
      have fits : c.utf8Size ≤ fewer + 1 := by omega
      have left : fewer + 1 - c.utf8Size = byteLength (rest.take count) := by omega
      rw [List.take_succ_cons, byteLength_cons, equal, takeBytes?, if_pos fits, left, ih]
      rfl

end Slice

theorem byteOffset_le {text : String} {start stop : Nat} (order : start ≤ stop) :
    (Regex.Subject.ofString text).byteOffset start ≤
      (Regex.Subject.ofString text).byteOffset stop := by
  rw [byteOffset_ofString, byteOffset_ofString, byteLength_take order]
  exact Nat.le_add_right _ _

theorem slice?_byteOffset {text : String} {start stop : Nat} (order : start ≤ stop) :
    slice? text ⟨(Regex.Subject.ofString text).byteOffset start,
        (Regex.Subject.ofString text).byteOffset stop⟩ =
      some (String.ofList ((text.toList.drop start).take (stop - start))) := by
  have ordered : ¬ (Regex.Subject.ofString text).byteOffset stop <
      (Regex.Subject.ofString text).byteOffset start := Nat.not_lt.2 (byteOffset_le order)
  have between : (Regex.Subject.ofString text).byteOffset stop -
      (Regex.Subject.ofString text).byteOffset start =
        byteLength ((text.toList.drop start).take (stop - start)) := by
    rw [byteOffset_ofString, byteOffset_ofString, byteLength_take order, Nat.add_sub_cancel_left]
  simp only [slice?, ordered, if_false, between]
  rw [byteOffset_ofString, Slice.dropBytes?_byteLength]
  simp only [Option.bind_some, bind, Slice.takeBytes?_byteLength, pure]

end SchemaMatch.Text
