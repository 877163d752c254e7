import SchemaMatch.Proofs.Union.Registry
import SchemaMatch.Union.Shared
import Mathlib.Data.List.Nodup
import Mathlib.Data.List.Induction

/-!
# Runs of registrations

What a registration comes to is said apart from its steps, by what its supply offers and whether it
breaks off (`Registration.ComesTo`). A registry then holds what the sound registrations of a run
have put there, of each capability the first one. The main statement is
`Registration.performAll_appends`, about registrations one after another, on a registry of one's own
and on one behind a lock.
-/

namespace SchemaMatch

namespace Supply

def offered : Supply → List SchemaId
  | finished => []
  | offer schema rest => schema :: rest.offered
  | broken => []

def breaksOff : Supply → Bool
  | finished => false
  | offer _ rest => rest.breaksOff
  | broken => true

/-- A supply that offers something, nothing twice, and finishes. -/
def IsSound (supply : Supply) : Prop :=
  supply.offered ≠ [] ∧ supply.offered.Nodup ∧ supply.breaksOff = false

instance : DecidablePred IsSound := fun supply =>
  inferInstanceAs
    (Decidable (supply.offered ≠ [] ∧ supply.offered.Nodup ∧ supply.breaksOff = false))

/-- After some schemas that are all different, a supply offers one of them again. -/
structure Repeats (supply : Supply) (front : List SchemaId) (schema : SchemaId) : Prop where
  offered : ∃ back, supply.offered = front ++ schema :: back
  once : front.Nodup
  again : schema ∈ front

theorem exists_repeats {supply : Supply} (twice : ¬supply.offered.Nodup) :
    ∃ front schema, supply.Repeats front schema := by
  suffices first : ∀ schemas : List SchemaId, ¬schemas.Nodup →
      ∃ front schema back, schemas = front ++ schema :: back ∧ front.Nodup ∧ schema ∈ front by
    obtain ⟨front, schema, back, offered, once, again⟩ := first _ twice
    exact ⟨front, schema, ⟨back, offered⟩, once, again⟩
  intro schemas
  induction schemas using List.reverseRecOn with
  | nil =>
    intro twice
    exact absurd List.nodup_nil twice
  | append_singleton schemas last ih =>
    intro twice
    by_cases once : schemas.Nodup
    · refine ⟨schemas, last, [], rfl, once, ?_⟩
      apply Decidable.not_not.1
      intro fresh
      apply twice
      refine List.nodup_append.2 ⟨once, List.nodup_singleton last, ?_⟩
      rintro schema among other one rfl
      rw [List.mem_singleton.1 one] at among
      exact fresh among
    · obtain ⟨front, schema, back, rfl, different, again⟩ := ih once
      exact ⟨front, schema, back ++ [last], by simp, different, again⟩

end Supply

namespace Registry

variable {family : Family} {registry : Registry}

/-- If nothing repeats, everything is drawn, unless the supply breaks off. -/
theorem draw_of_nodup (family : Family) (capability : CapabilityId) (supply : Supply)
    {taken : List SchemaId} (once : (taken ++ supply.offered).Nodup) :
    draw family capability taken supply =
      if supply.breaksOff then .error .broken else .ok (taken ++ supply.offered) := by
  induction supply generalizing taken with
  | finished =>
    rw [draw, Supply.offered, List.append_nil]
    rfl
  | broken => rfl
  | offer schema rest ih =>
    have shifted : taken ++ schema :: rest.offered = taken ++ [schema] ++ rest.offered := by
      rw [List.append_assoc, List.singleton_append]
    rw [Supply.offered, shifted] at once
    have fresh : schema ∉ taken := by
      intro among
      have apart := List.nodup_append.1 (List.nodup_append.1 once).1
      exact apart.2.2 schema among schema List.mem_cons_self rfl
    rw [draw, if_neg fresh, ih once, Supply.offered, shifted]
    rfl

theorem draw_eq_of_nodup (family : Family) (capability : CapabilityId) {supply : Supply}
    (once : supply.offered.Nodup) :
    draw family capability [] supply =
      if supply.breaksOff then .error .broken else .ok supply.offered :=
  draw_of_nodup family capability supply once

/-- The first repetition ends the drawing, whatever would come after it. -/
theorem draw_of_repeated (family : Family) (capability : CapabilityId) {front back : List SchemaId}
    {schema : SchemaId} {supply : Supply} {taken : List SchemaId}
    (offered : supply.offered = front ++ schema :: back) (once : (taken ++ front).Nodup)
    (again : schema ∈ taken ++ front) :
    draw family capability taken supply =
      .error (.refused (.duplicateVariant (family.capabilityName capability)
        (family.schema schema).typeName)) := by
  induction front generalizing supply taken with
  | nil =>
    rw [List.append_nil] at again
    cases supply with
    | finished => cases offered
    | broken => cases offered
    | offer first rest =>
      cases (List.cons.inj offered).1
      rw [draw, if_pos again]
  | cons earlier front ih =>
    cases supply with
    | finished => cases offered
    | broken => cases offered
    | offer first rest =>
      obtain ⟨rfl, others⟩ := List.cons.inj offered
      have shifted : taken ++ first :: front = taken ++ [first] ++ front := by
        rw [List.append_assoc, List.singleton_append]
      rw [shifted] at once again
      have fresh : first ∉ taken := by
        intro among
        have apart := List.nodup_append.1 (List.nodup_append.1 once).1
        exact apart.2.2 first among first List.mem_cons_self rfl
      rw [draw, if_neg fresh]
      exact ih others once again

theorem contains_eq_false_iff {capability : CapabilityId} :
    registry.contains capability = false ↔ registry.lookup? capability = none := by
  rw [contains, Option.isSome_eq_false_iff, Option.isNone_iff_eq_none]

/-- One more entry is found for its own capability, unless there is an earlier one. -/
theorem lookup?_append (registry : Registry) (entry : UnionEntry) (capability : CapabilityId) :
    lookup? ⟨registry.entries ++ [entry]⟩ capability =
      (registry.lookup? capability).or
        (if entry.capability = capability then some entry else none) := by
  simp only [lookup?, List.find?_append, List.find?_cons, List.find?_nil]
  by_cases own : entry.capability = capability
  · rw [if_pos own, beq_iff_eq.2 own]
  · rw [if_neg own, beq_eq_false_iff_ne.2 own]

end Registry

namespace Registration

variable {family : Family} {call : Registration} {registry : Registry}

def entry (family : Family) (call : Registration) : UnionEntry :=
  ⟨call.capability, family.capabilityName call.capability, call.supply.offered⟩

/-- Whether a registration may add the entry of a capability. -/
def Provides (capability : CapabilityId) (call : Registration) : Prop :=
  call.capability = capability ∧ call.supply.IsSound

instance (capability : CapabilityId) : DecidablePred (Provides capability) := fun call =>
  inferInstanceAs (Decidable (call.capability = capability ∧ call.supply.IsSound))

/-- What a registration answers on a registry, and what it leaves behind. A capability that is there
is told before the supply is looked at, and a repetition before anything that comes after it. -/
inductive ComesTo (family : Family) (call : Registration) (registry : Registry) :
    RegistrationAnswer → Registry → Prop
  | alreadyThere (there : registry.contains call.capability = true) :
      ComesTo family call registry
        (.error (.refused (.duplicateRegistration (family.capabilityName call.capability))))
        registry
  | repeats {front : List SchemaId} {schema : SchemaId}
      (absent : registry.contains call.capability = false)
      (first : call.supply.Repeats front schema) :
      ComesTo family call registry
        (.error (.refused (.duplicateVariant (family.capabilityName call.capability)
          (family.schema schema).typeName))) registry
  | breaksOff (absent : registry.contains call.capability = false)
      (once : call.supply.offered.Nodup) (breaks : call.supply.breaksOff = true) :
      ComesTo family call registry (.error .broken) registry
  | offersNothing (absent : registry.contains call.capability = false)
      (nothing : call.supply.offered = []) (ends : call.supply.breaksOff = false) :
      ComesTo family call registry
        (.error (.refused (.emptyVariantList (family.capabilityName call.capability)))) registry
  | registers (absent : registry.contains call.capability = false) (sound : call.supply.IsSound) :
      ComesTo family call registry (.ok ()) ⟨registry.entries ++ [call.entry family]⟩

/-! ### One registration -/

theorem run_bind {α β : Type} (first : Step α) (others : α → Step β) (registry : Registry) :
    (first >>= others).run registry =
      match first.run registry with
      | (.ok value, after) => (others value).run after
      | (.error failure, after) => (.error failure, after) := by
  change StateT.bind (m := Id) first.run (ExceptT.bindCont others) registry = _
  simp only [StateT.bind, bind]
  cases first.run registry with
  | mk result after => cases result <;> rfl

theorem run_ensureAbsent (family : Family) (call : Registration) (registry : Registry) :
    (call.ensureAbsent family).run registry =
      (if registry.contains call.capability then
        .error (.refused (.duplicateRegistration (family.capabilityName call.capability)))
      else .ok (), registry) := by
  have got : (get : Step Registry).run registry = (.ok registry, registry) := rfl
  rw [ensureAbsent, run_bind, got]
  dsimp only
  cases registry.contains call.capability <;> rfl

/-- Registering in place answers as registering does, and leaves the registry that comes out of it,
or the one that was there if nothing comes out. -/
theorem perform_eq (family : Family) (call : Registration) (registry : Registry) :
    call.perform family registry =
      match registry.register family call.capability call.supply with
      | .ok after => (.ok (), after)
      | .error failure => (.error failure, registry) := by
  rw [perform, steps, run_bind, run_ensureAbsent, Registry.register]
  cases registry.contains call.capability with
  | true => rfl
  | false =>
    rw [if_neg Bool.false_ne_true, if_neg Bool.false_ne_true]
    dsimp only
    rw [run_bind, drawVariants]
    cases Registry.draw family call.capability [] call.supply with
    | error failure => rfl
    | ok variants =>
      cases variants with
      | nil => rfl
      | cons first rest => rfl

theorem ComesTo.perform_eq {answer : RegistrationAnswer} {after : Registry}
    (comes : ComesTo family call registry answer after) :
    call.perform family registry = (answer, after) := by
  rw [Registration.perform_eq, Registry.register]
  cases comes with
  | alreadyThere there => rw [if_pos there]
  | repeats absent first =>
    obtain ⟨⟨back, offered⟩, once, again⟩ := first
    have drawn : Registry.draw family call.capability [] call.supply = _ :=
      Registry.draw_of_repeated family call.capability offered once again
    rw [absent, if_neg Bool.false_ne_true, drawn]
  | breaksOff absent once breaks =>
    rw [absent, if_neg Bool.false_ne_true, Registry.draw_eq_of_nodup family call.capability once,
      if_pos breaks]
  | offersNothing absent nothing ends =>
    have once : call.supply.offered.Nodup := by rw [nothing]; exact List.nodup_nil
    rw [absent, if_neg Bool.false_ne_true, Registry.draw_eq_of_nodup family call.capability once,
      ends, nothing]
    rfl
  | registers absent sound =>
    obtain ⟨some, once, ends⟩ := sound
    rw [absent, if_neg Bool.false_ne_true, Registry.draw_eq_of_nodup family call.capability once,
      ends, entry]
    cases given : call.supply.offered with
    | nil => exact absurd given some
    | cons first rest => rfl

theorem exists_comesTo (family : Family) (call : Registration) (registry : Registry) :
    ∃ answer after, ComesTo family call registry answer after := by
  cases there : registry.contains call.capability with
  | true => exact ⟨_, _, .alreadyThere there⟩
  | false =>
    by_cases once : call.supply.offered.Nodup
    · cases ends : call.supply.breaksOff with
      | true => exact ⟨_, _, .breaksOff there once ends⟩
      | false =>
        by_cases nothing : call.supply.offered = []
        · exact ⟨_, _, .offersNothing there nothing ends⟩
        · exact ⟨_, _, .registers there ⟨nothing, once, ends⟩⟩
    · obtain ⟨front, schema, first⟩ := Supply.exists_repeats once
      exact ⟨_, _, .repeats there first⟩

theorem perform_eq_iff {answer : RegistrationAnswer} {after : Registry} :
    call.perform family registry = (answer, after) ↔ ComesTo family call registry answer after := by
  constructor
  · intro performed
    obtain ⟨_, _, comes⟩ := exists_comesTo family call registry
    cases performed.symm.trans comes.perform_eq
    exact comes
  · exact ComesTo.perform_eq

theorem comesTo_perform (family : Family) (call : Registration) (registry : Registry) :
    ComesTo family call registry (call.perform family registry).1
      (call.perform family registry).2 :=
  perform_eq_iff.1 rfl

/-- A registration succeeds if its capability is absent and its supply sound. -/
theorem perform_eq_ok_iff :
    (call.perform family registry).1 = .ok () ↔
      registry.lookup? call.capability = none ∧ call.supply.IsSound := by
  rw [← Registry.contains_eq_false_iff]
  constructor
  · intro success
    have comes := comesTo_perform family call registry
    rw [success] at comes
    generalize (call.perform family registry).2 = after at comes
    cases comes with
    | registers absent sound => exact ⟨absent, sound⟩
  · rintro ⟨absent, sound⟩
    have comes : ComesTo family call registry _ _ := .registers absent sound
    rw [comes.perform_eq]

theorem perform_of_error {failure : RegistrationFailure}
    (failed : (call.perform family registry).1 = .error failure) :
    call.perform family registry = (.error failure, registry) := by
  have comes := comesTo_perform family call registry
  rw [failed] at comes
  refine Prod.ext failed ?_
  generalize (call.perform family registry).2 = after at comes
  cases comes <;> rfl

theorem perform_of_ok (success : (call.perform family registry).1 = .ok ()) :
    call.perform family registry = (.ok (), ⟨registry.entries ++ [call.entry family]⟩) := by
  obtain ⟨absent, sound⟩ := perform_eq_ok_iff.1 success
  exact (ComesTo.registers (Registry.contains_eq_false_iff.2 absent) sound).perform_eq

theorem lookup?_perform (family : Family) (call : Registration) (registry : Registry)
    (capability : CapabilityId) :
    (call.perform family registry).2.lookup? capability =
      (registry.lookup? capability).or
        (if call.Provides capability then some (call.entry family) else none) := by
  by_cases sound : call.supply.IsSound
  · cases success : (call.perform family registry).1 with
    | ok =>
      rw [perform_of_ok success, Registry.lookup?_append]
      by_cases own : (call.entry family).capability = capability
      · rw [if_pos own, if_pos ⟨own, sound⟩]
      · rw [if_neg own, if_neg fun provides => own provides.1]
    | error failure =>
      have there : registry.lookup? call.capability ≠ none := fun absent => by
        rw [perform_eq_ok_iff.2 ⟨absent, sound⟩] at success
        cases success
      rw [perform_of_error success]
      split
      · rename_i provides
        obtain ⟨found, held⟩ := Option.ne_none_iff_exists'.1 (provides.1 ▸ there)
        rw [held, Option.some_or]
      · rw [Option.or_none]
  · have failed : (call.perform family registry).1 ≠ .ok () := fun success =>
      sound (perform_eq_ok_iff.1 success).2
    cases answer : (call.perform family registry).1 with
    | ok => exact absurd answer failed
    | error failure =>
      rw [perform_of_error answer, if_neg fun provides => sound provides.2, Option.or_none]

/-- A registration that succeeds is found for its capability, and changes no other. -/
theorem lookup?_perform_of_ok (success : (call.perform family registry).1 = .ok ()) :
    (call.perform family registry).2.size = registry.size + 1 ∧
      (call.perform family registry).2.lookup? call.capability = some (call.entry family) ∧
      ∀ other, other ≠ call.capability →
        (call.perform family registry).2.lookup? other = registry.lookup? other := by
  obtain ⟨absent, sound⟩ := perform_eq_ok_iff.1 success
  refine ⟨?_, ?_, ?_⟩
  · rw [perform_of_ok success, Registry.size, List.length_append]
    rfl
  · rw [lookup?_perform, absent, Option.none_or, if_pos ⟨rfl, sound⟩]
  · intro other different
    rw [lookup?_perform, if_neg fun provides => different provides.1.symm, Option.or_none]

/-! ### One registration after another -/

theorem performAll_cons (family : Family) (call : Registration) (rest : List Registration)
    (registry : Registry) :
    performAll family (call :: rest) registry =
      ((call.perform family registry).1 ::
          (performAll family rest (call.perform family registry).2).1,
        (performAll family rest (call.perform family registry).2).2) := rfl

theorem performAll_append (family : Family) (calls more : List Registration)
    (registry : Registry) :
    performAll family (calls ++ more) registry =
      ((performAll family calls registry).1 ++
          (performAll family more (performAll family calls registry).2).1,
        (performAll family more (performAll family calls registry).2).2) := by
  induction calls generalizing registry with
  | nil => rfl
  | cons call rest ih => simp only [List.cons_append, performAll_cons, ih]

/-- Whatever follows a registration that fails goes on as if it had not been made. -/
theorem performAll_of_error {failure : RegistrationFailure} (calls more : List Registration)
    (failed : (call.perform family (performAll family calls registry).2).1 = .error failure) :
    performAll family (calls ++ call :: more) registry =
      ((performAll family calls registry).1 ++ .error failure ::
        (performAll family more (performAll family calls registry).2).1,
        (performAll family (calls ++ more) registry).2) := by
  rw [performAll_append, performAll_append, performAll_cons, perform_of_error failed]

theorem entries_perform (family : Family) (call : Registration) (registry : Registry) :
    (call.perform family registry).2 = registry ∨
      registry.lookup? call.capability = none ∧ call.supply.IsSound ∧
        (call.perform family registry).2.entries = registry.entries ++ [call.entry family] := by
  cases answer : (call.perform family registry).1 with
  | ok =>
    right
    obtain ⟨absent, sound⟩ := perform_eq_ok_iff.1 answer
    exact ⟨absent, sound, by rw [perform_of_ok answer]⟩
  | error failure =>
    left
    rw [perform_of_error answer]

theorem entries_prefix_performAll (family : Family) (calls : List Registration)
    (registry : Registry) :
    registry.entries <+: (performAll family calls registry).2.entries := by
  induction calls generalizing registry with
  | nil => exact List.prefix_refl _
  | cons call rest ih =>
    have later := ih (call.perform family registry).2
    rw [performAll_cons]
    rcases entries_perform family call registry with same | ⟨_, _, added⟩
    · rwa [same] at later ⊢
    · rw [added] at later
      exact (List.prefix_append _ _).trans later

theorem lookup?_performAll (family : Family) (calls : List Registration) (registry : Registry)
    (capability : CapabilityId) :
    (performAll family calls registry).2.lookup? capability =
      (registry.lookup? capability).or
        ((calls.find? (Provides capability ·)).map (entry family)) := by
  induction calls generalizing registry with
  | nil => rw [List.find?_nil, Option.map_none, Option.or_none]; rfl
  | cons call rest ih =>
    simp only [performAll_cons, ih, lookup?_perform, Option.or_assoc]
    by_cases provides : call.Provides capability
    · rw [if_pos provides, List.find?_cons_of_pos (by simpa using provides), Option.some_or,
        Option.map_some]
    · rw [if_neg provides, List.find?_cons_of_neg (by simpa using provides), Option.none_or]

/-- What an entry owes to the registrations that were made. -/
def IsMade (family : Family) (calls : List Registration) (entry : UnionEntry) : Prop :=
  ∃ call ∈ calls, call.supply.IsSound ∧ entry = call.entry family

theorem isMade_of_mem_performAll {calls : List Registration} {entry : UnionEntry}
    (member : entry ∈ (performAll family calls registry).2.entries) :
    entry ∈ registry.entries ∨ IsMade family calls entry := by
  induction calls generalizing registry with
  | nil => exact .inl member
  | cons call rest ih =>
    have later : entry ∈ (performAll family rest (call.perform family registry).2).2.entries :=
      member
    rcases ih later with earlier | ⟨other, among, sound, rfl⟩
    · rcases entries_perform family call registry with same | ⟨_, sound, added⟩
      · rw [same] at earlier
        exact .inl earlier
      · rw [added] at earlier
        rcases List.mem_append.1 earlier with earlier | own
        · exact .inl earlier
        · exact .inr ⟨call, List.mem_cons_self, sound, List.mem_singleton.1 own⟩
    · exact .inr ⟨other, List.mem_cons_of_mem _ among, sound, rfl⟩

/-- A registry in which each entry is found under its capability. -/
def FindsAll (registry : Registry) : Prop :=
  ∀ entry ∈ registry.entries, registry.lookup? entry.capability = some entry

theorem findsAll_performAll {calls : List Registration} (finds : FindsAll registry) :
    FindsAll (performAll family calls registry).2 := by
  induction calls generalizing registry with
  | nil => exact finds
  | cons call rest ih =>
    rw [performAll_cons]
    apply ih
    intro entry member
    rcases entries_perform family call registry with same | ⟨absent, sound, added⟩
    · rw [same] at member ⊢
      exact finds entry member
    · rw [lookup?_perform]
      rw [added] at member
      rcases List.mem_append.1 member with earlier | own
      · rw [finds entry earlier, Option.some_or]
      · cases List.mem_singleton.1 own
        rw [show registry.lookup? (call.entry family).capability = none from absent, Option.none_or,
          if_pos ⟨rfl, sound⟩]

end Registration

namespace SharedRegistry

@[simp] theorem recovered_eq (shared : SharedRegistry) : shared.recovered = shared.registry := by
  rw [recovered, lock]
  cases shared.isPoisoned <;> rfl

/-- A registration under a lock is one on the registry, whether the lock is poisoned or not. -/
theorem perform_eq (family : Family) (call : Registration) (shared : SharedRegistry) :
    (shared.perform family call).1 = (call.perform family shared.registry).1 ∧
      (shared.perform family call).2.registry = (call.perform family shared.registry).2 := by
  rw [perform, recovered_eq]
  split
  · rename_i after broken
    rw [broken]
    exact ⟨rfl, rfl⟩
  · rename_i answer after _ performed
    rw [performed]
    exact ⟨rfl, rfl⟩

/-- Registrations under a lock are those on the registry, whether the lock is poisoned or not. -/
theorem performAll_eq (family : Family) (calls : List Registration) (shared : SharedRegistry) :
    (shared.performAll family calls).1 = (Registration.performAll family calls shared.registry).1 ∧
      (shared.performAll family calls).2.registry =
        (Registration.performAll family calls shared.registry).2 := by
  induction calls generalizing shared with
  | nil => exact ⟨rfl, rfl⟩
  | cons call rest ih =>
    obtain ⟨answer, after⟩ := perform_eq family call shared
    obtain ⟨answers, last⟩ := ih (shared.perform family call).2
    rw [after] at answers last
    rw [Registration.performAll_cons]
    exact ⟨congrArg₂ List.cons answer answers, last⟩

/-- Whatever follows a registration that fails under a lock goes on as if it had not been made, also
if the lock is poisoned by it. -/
theorem performAll_of_error {family : Family} {call : Registration} {shared : SharedRegistry}
    {failure : RegistrationFailure} (failed : (shared.perform family call).1 = .error failure)
    (more : List Registration) :
    ((shared.perform family call).2.performAll family more).1 =
        (shared.performAll family more).1 ∧
      ((shared.perform family call).2.performAll family more).2.recovered =
        (shared.performAll family more).2.recovered := by
  obtain ⟨answer, after⟩ := perform_eq family call shared
  obtain ⟨answers, last⟩ := performAll_eq family more (shared.perform family call).2
  obtain ⟨otherwise, otherwiseLast⟩ := performAll_eq family more shared
  rw [answer] at failed
  rw [after, Registration.perform_of_error failed] at answers last
  rw [recovered_eq, recovered_eq]
  exact ⟨answers.trans otherwise.symm, last.trans otherwiseLast.symm⟩

end SharedRegistry

namespace Registration

/-- A registry only grows, by whole entries. After any registrations, on a registry that was empty:
each entry has variants, none of them twice, and is found; what is found for a capability is the
entry of the first registration that has a sound supply for it, with just what the supply offered.
One more registration comes to what the specification says: it succeeds if its capability is absent
and its supply sound, and then adds an entry for that capability and changes no other; if it fails,
nothing has changed, and whatever follows goes on as if it had not been made. Later registrations
keep all entries. Under a lock the same is answered and found, also after a supply has broken off
while the lock was held. -/
theorem performAll_appends (family : Family) (calls : List Registration) :
    let registry := (performAll family calls .empty).2
    let shared := (SharedRegistry.fresh.performAll family calls).2
    (∀ entry ∈ registry.entries, entry.variants ≠ [] ∧ entry.variants.Nodup ∧
      registry.lookup? entry.capability = some entry ∧ IsMade family calls entry) ∧
    (∀ capability, registry.lookup? capability =
      (calls.find? (Provides capability ·)).map (entry family)) ∧
    (∀ (call : Registration) answer after, call.perform family registry = (answer, after) ↔
      ComesTo family call registry answer after) ∧
    (∀ call : Registration, ((call.perform family registry).1 = .ok () ↔
        registry.lookup? call.capability = none ∧ call.supply.IsSound) ∧
      ((call.perform family registry).1 = .ok () →
        (call.perform family registry).2.size = registry.size + 1 ∧
        (call.perform family registry).2.lookup? call.capability = some (call.entry family) ∧
        ∀ other, other ≠ call.capability →
          (call.perform family registry).2.lookup? other = registry.lookup? other)) ∧
    (∀ (call : Registration) failure, (call.perform family registry).1 = .error failure →
      (call.perform family registry).2 = registry ∧
      ∀ more, performAll family (calls ++ call :: more) .empty =
        ((performAll family calls .empty).1 ++ .error failure ::
          (performAll family more registry).1, (performAll family (calls ++ more) .empty).2)) ∧
    (∀ more, ∃ added, (performAll family (calls ++ more) .empty).2.entries =
      registry.entries ++ added) ∧
    (SharedRegistry.fresh.performAll family calls).1 = (performAll family calls .empty).1 ∧
    shared.recovered = registry ∧
    ∀ call failure, (shared.perform family call).1 = .error failure →
      ∀ more, ((shared.perform family call).2.performAll family more).1 =
          (shared.performAll family more).1 ∧
        ((shared.perform family call).2.performAll family more).2.recovered =
          (shared.performAll family more).2.recovered := by
  intro registry shared
  have made {entry : UnionEntry} (member : entry ∈ registry.entries) :
      IsMade family calls entry :=
    (isMade_of_mem_performAll member).resolve_left (by intro none; cases none)
  have finds : FindsAll registry :=
    findsAll_performAll (by intro entry none; cases none)
  obtain ⟨sameAnswers, same⟩ := SharedRegistry.performAll_eq family calls .fresh
  refine ⟨?_, ?_, ?_, ?_, ?_, ?_, sameAnswers, ?_, ?_⟩
  · intro entry member
    obtain ⟨call, among, sound, rfl⟩ := made member
    exact ⟨sound.1, sound.2.1, finds _ member, call, among, sound, rfl⟩
  · intro capability
    exact lookup?_performAll family calls .empty capability
  · intro call answer after
    exact perform_eq_iff
  · intro call
    exact ⟨perform_eq_ok_iff, lookup?_perform_of_ok⟩
  · intro call failure failed
    exact ⟨by rw [perform_of_error failed], fun more => performAll_of_error calls more failed⟩
  · intro more
    obtain ⟨added, grown⟩ := entries_prefix_performAll family more registry
    exact ⟨added, by rw [performAll_append]; exact grown.symm⟩
  · rw [SharedRegistry.recovered_eq]
    exact same
  · intro call failure failed more
    exact SharedRegistry.performAll_of_error failed more

/-- A capability with two schemas that may be its variants. -/
def sampleShapes : Family where
  schemas := [⟨"Disc", "Disc", []⟩, ⟨"Ring", "Ring", []⟩]
  capabilities := ["Shape"]

/-- A registration that breaks off leaves nothing behind, also behind a lock: the next one puts there
what it would have put there, and one that offers other variants after it changes nothing. -/
theorem performAll_appends_sampleShapes :
    let broken : Registration := ⟨0, .offer 1 .broken⟩
    let whole : Registration := ⟨0, .offer 1 (.offer 0 .finished)⟩
    let late : Registration := ⟨0, .offer 0 .finished⟩
    (SharedRegistry.fresh.performAll sampleShapes [broken, whole, late]).1 =
        [.error .broken, .ok (), .error (.refused (.duplicateRegistration "Shape"))] ∧
      (performAll sampleShapes [broken, whole] .empty).2 =
        (performAll sampleShapes [whole] .empty).2 ∧
      (performAll sampleShapes [whole] .empty).2 = ⟨[⟨0, "Shape", [1, 0]⟩]⟩ ∧
      (late.perform sampleShapes (performAll sampleShapes [whole] .empty).2).2 =
        (performAll sampleShapes [whole] .empty).2 := by
  intro broken whole late
  obtain ⟨_, _, _, _, fails, _⟩ := performAll_appends sampleShapes []
  obtain ⟨_, _, _, _, refuses, _⟩ := performAll_appends sampleShapes [whole]
  obtain ⟨_, _, _, _, _, _, alike, _⟩ := performAll_appends sampleShapes [broken, whole, late]
  obtain ⟨_, skipped⟩ := fails broken .broken rfl
  obtain ⟨kept, _⟩ := refuses late (.refused (.duplicateRegistration "Shape")) rfl
  have same := congrArg Prod.snd (skipped [whole])
  exact ⟨alike.trans rfl, same, rfl, kept⟩

end Registration

end SchemaMatch
