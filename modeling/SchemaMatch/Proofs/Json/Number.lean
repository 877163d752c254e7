import SchemaMatch.Json.Record

/-!
# The numbers in what has been read

A natural number that has been read is one of 64 bits, wherever it stands in the value.
-/

namespace SchemaMatch.Json

/-- A value is a part of another one, or that one itself. -/
inductive Value.IsPart (inner : Value) : Value → Prop
  | self : IsPart inner inner
  | item {items : List Value} {item : Value} (member : item ∈ items) (inside : IsPart inner item) :
      IsPart inner (.array items)
  | member {members : List (Option String × Value)} {key : Option String} {value : Value}
      (member : (key, value) ∈ members) (inside : IsPart inner value) :
      IsPart inner (.object members)

/-- The natural numbers in a value are of 64 bits. -/
def Value.NumbersFit (value : Value) : Prop :=
  ∀ n, Value.IsPart (.nat n) value → n < UInt64.size

namespace Value

theorem NumbersFit.of_isPart {value inner : Value} (fit : value.NumbersFit)
    (isPart : inner.IsPart value) : inner.NumbersFit := by
  intro n inside
  apply fit
  induction isPart with
  | self => exact inside
  | item member _ ih => exact .item member (ih fun n part => fit n (.item member part))
  | member member _ ih => exact .member member (ih fun n part => fit n (.member member part))

theorem numbersFit_null : Value.null.NumbersFit := nofun

theorem numbersFit_bool (value : Bool) : (Value.bool value).NumbersFit := nofun

theorem numbersFit_number : Value.number.NumbersFit := nofun

theorem numbersFit_string (text : Option String) : (Value.string text).NumbersFit := nofun

theorem numbersFit_nat {n : Nat} (small : n < UInt64.size) : (Value.nat n).NumbersFit := by
  rintro other ⟨⟩
  exact small

theorem numbersFit_array {items : List Value} (each : ∀ item ∈ items, item.NumbersFit) :
    (Value.array items).NumbersFit := by
  rintro n ⟨⟩
  rename_i item inside member
  exact each item member n inside

theorem numbersFit_object {members : List (Option String × Value)}
    (each : ∀ member ∈ members, member.2.NumbersFit) : (Value.object members).NumbersFit := by
  rintro n ⟨⟩
  rename_i key value inside member
  exact each (key, value) member n inside

end Value

namespace Reader

theorem numbersFit_of_number {chars rest : List Char} {result : Value}
    (read : number chars = some (result, rest)) : result.NumbersFit := by
  simp only [number, Option.bind_eq_bind, Option.bind_eq_some_iff] at read
  obtain ⟨⟨whole, _⟩, _, read⟩ := read
  split at read
  · simp at read
  · simp only [Option.bind_eq_some_iff] at read
    obtain ⟨⟨hasFraction, _⟩, _, ⟨hasExponent, _⟩, _, read⟩ := read
    split at read
    · cases read
      exact Value.numbersFit_number
    · rename_i natural
      cases read
      apply Value.numbersFit_nat
      simp only [Bool.or_eq_true, decide_eq_true_eq, not_or, Nat.not_le] at natural
      exact natural.2

/-- What the readers of values, items and members accept within a bound holds numbers of 64 bits
only. -/
structure FitsWithin (bound : Nat) : Prop where
  value : ∀ {chars result rest}, value bound chars = some (result, rest) → result.NumbersFit
  items : ∀ {chars results rest}, items bound chars = some (results, rest) →
    ∀ item ∈ results, item.NumbersFit
  members : ∀ {chars results rest}, members bound chars = some (results, rest) →
    ∀ member ∈ results, member.2.NumbersFit

variable {bound : Nat} {chars rest : List Char}

theorem numbersFit_of_value (fits : FitsWithin bound) {result : Value}
    (read : value (bound + 1) chars = some (result, rest)) : result.NumbersFit := by
  rw [value] at read
  split at read
  · cases read
    exact Value.numbersFit_null
  · cases read
    exact Value.numbersFit_bool true
  · cases read
    exact Value.numbersFit_bool false
  · obtain ⟨_, _, same⟩ := Option.map_eq_some_iff.1 read
    cases same
    exact Value.numbersFit_string _
  · split at read
    · cases read
      exact Value.numbersFit_array nofun
    · obtain ⟨_, inside, same⟩ := Option.map_eq_some_iff.1 read
      cases same
      exact Value.numbersFit_array (fits.items inside)
  · split at read
    · cases read
      exact Value.numbersFit_object nofun
    · obtain ⟨_, inside, same⟩ := Option.map_eq_some_iff.1 read
      cases same
      exact Value.numbersFit_object (fits.members inside)
  · exact numbersFit_of_number read

theorem numbersFit_of_items (fits : FitsWithin bound) {results : List Value}
    (read : items (bound + 1) chars = some (results, rest)) :
    ∀ item ∈ results, item.NumbersFit := by
  simp only [items, Option.bind_eq_bind, Option.bind_eq_some_iff] at read
  obtain ⟨⟨first, _⟩, here, read⟩ := read
  have own := fits.value here
  split at read
  · obtain ⟨⟨others, _⟩, more, same⟩ := Option.bind_eq_some_iff.1 read
    cases same
    exact List.forall_mem_cons.2 ⟨own, fits.items more⟩
  · cases read
    exact List.forall_mem_singleton.2 own
  · cases read

theorem numbersFit_of_members (fits : FitsWithin bound) {results : List (Option String × Value)}
    (read : members (bound + 1) chars = some (results, rest)) :
    ∀ member ∈ results, member.2.NumbersFit := by
  rw [members] at read
  split at read
  · simp only [Option.bind_eq_bind, Option.bind_eq_some_iff] at read
    obtain ⟨⟨key, _⟩, _, read⟩ := read
    split at read
    · simp only [Option.bind_eq_some_iff] at read
      obtain ⟨⟨first, _⟩, here, read⟩ := read
      have own := fits.value here
      split at read
      · obtain ⟨⟨others, _⟩, more, same⟩ := Option.bind_eq_some_iff.1 read
        cases same
        exact List.forall_mem_cons.2 ⟨own, fits.members more⟩
      · cases read
        exact List.forall_mem_singleton.2 own
      · cases read
    · cases read
  · cases read

theorem fitsWithin (bound : Nat) : FitsWithin bound := by
  induction bound with
  | zero => exact ⟨nofun, nofun, nofun⟩
  | succ bound fits =>
    exact ⟨numbersFit_of_value fits, numbersFit_of_items fits, numbersFit_of_members fits⟩

end Reader

theorem Value.numbersFit_of_parse? {text : String} {value : Value}
    (parsed : Value.parse? text = some value) : value.NumbersFit := by
  simp only [Value.parse?, Option.bind_eq_bind, Option.bind_eq_some_iff] at parsed
  obtain ⟨⟨result, rest⟩, read, parsed⟩ := parsed
  split at parsed
  · cases parsed
    exact (Reader.fitsWithin _).value read
  · cases parsed

end SchemaMatch.Json
