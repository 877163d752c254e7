import Mathlib.Data.List.Dedup
import SchemaMatch.Pattern.Cache
import SchemaMatch.Proofs.Compilation.Reach
import SchemaMatch.Proofs.Union.Registry

/-!
# Processes

A process registers variants, compiles schemas and asks its cache for patterns, in any order. Beside
it stands what it would answer without a cache: every request compiles anew. The main statement is
`Process.run_transparent`: the answers are the same, and the cache holds what has been asked for
since it was cleared.
-/

namespace SchemaMatch

/-- What a process is asked to do. -/
inductive Call
  | register (capability : CapabilityId) (supply : Supply)
  /-- Compiles a schema and keeps nothing. -/
  | compile (schema : SchemaId) (options : Options)
  /-- Asks the cache for the pattern of a schema. -/
  | request (schema : SchemaId) (options : Options)
  /-- Writes the leftmost match to a record with the cached pattern of its schema. -/
  | find (record : Record) (input : String)
  | clear

inductive Answer
  | registered (result : Except RegistrationFailure Unit)
  | compiled (result : Except CompileError Pattern)
  | found (record : Record) (result : Except Failure Bool)
  | cleared

/-- The registry of a process, and the cache of a thread of it. -/
structure Process where
  registry : Registry
  cache : Cache

namespace Process

variable [Regex.SizeMeasure]

/-- A process that has just begun. -/
def initial : Process := ⟨.empty, .empty⟩

def answer (family : Family) (process : Process) : Call → Answer × Process
  | .register capability supply =>
    match process.registry.register family capability supply with
    | .ok registry => (.registered (.ok ()), { process with registry })
    | .error failure => (.registered (.error failure), process)
  | .compile schema options =>
    (.compiled (Pattern.compile ⟨family, process.registry, options⟩ schema), process)
  | .request schema options =>
    match process.cache.getOrCompile ⟨family, process.registry, options⟩ schema with
    | .ok (entry, cache) => (.compiled (.ok entry.pattern), { process with cache })
    | .error error => (.compiled (.error error), process)
  | .find record input =>
    match process.cache.find family process.registry record input with
    | (record, result, cache) => (.found record result, { process with cache })
  | .clear => (.cleared, { process with cache := process.cache.clear })

/-- Does one thing after another. -/
def run (family : Family) (process : Process) : List Call → List Answer × Process
  | [] => ([], process)
  | call :: rest =>
    let (answer, process) := process.answer family call
    let (answers, process) := run family process rest
    (answer :: answers, process)

end Process

/-- Compiles the schema of a record under default options and writes the leftmost match to it. -/
def Pattern.compileAndFind [Regex.SizeMeasure] (family : Family) (registry : Registry)
    (record : Record) (input : String) : Record × Except Failure Bool :=
  match Pattern.compile ⟨family, registry, {}⟩ record.schema with
  | .error error => (record, .error (.compile error))
  | .ok pattern =>
    match pattern.find record input with
    | (record, .ok found) => (record, .ok found)
    | (record, .error error) => (record, .error (.inflate error))

/-- What a schema is asked for under. -/
abbrev Request := SchemaId × Options

/-- A registry, and the requests since the last clearing whose schema has compiled. -/
structure Ledger where
  registry : Registry
  served : List Request

namespace Ledger

variable [Regex.SizeMeasure]

/-- The ledger of a process that has just begun. -/
def initial : Ledger := ⟨.empty, []⟩

def serve (ledger : Ledger) (request : Request) (result : Except CompileError Pattern) : Ledger :=
  match result with
  | .ok _ => { ledger with served := request :: ledger.served }
  | .error _ => ledger

def answer (family : Family) (ledger : Ledger) : Call → Answer × Ledger
  | .register capability supply =>
    match ledger.registry.register family capability supply with
    | .ok registry => (.registered (.ok ()), { ledger with registry })
    | .error failure => (.registered (.error failure), ledger)
  | .compile schema options =>
    (.compiled (Pattern.compile ⟨family, ledger.registry, options⟩ schema), ledger)
  | .request schema options =>
    let result := Pattern.compile ⟨family, ledger.registry, options⟩ schema
    (.compiled result, ledger.serve (schema, options) result)
  | .find record input =>
    let (record', result) := Pattern.compileAndFind family ledger.registry record input
    (.found record' result, ledger.serve (record.schema, {})
      (Pattern.compile ⟨family, ledger.registry, {}⟩ record.schema))
  | .clear => (.cleared, { ledger with served := [] })

/-- What is answered to one call after another. -/
def run (family : Family) (ledger : Ledger) : List Call → List Answer × Ledger
  | [] => ([], ledger)
  | call :: rest =>
    let (answer, ledger) := ledger.answer family call
    let (answers, ledger) := run family ledger rest
    (answer :: answers, ledger)

end Ledger

namespace Pattern

variable {scope : Scope} {root : SchemaId} {pattern : Pattern}

theorem compile_of_grown [Regex.SizeMeasure] {other : Registry}
    (grown : ∀ capability entry, scope.registry.lookup? capability = some entry →
      other.lookup? capability = some entry)
    (success : compile scope root = .ok pattern) :
    compile { scope with registry := other } root = .ok pattern := by
  obtain ⟨⟨stencil, expr⟩, compiled, built⟩ := bind_eq_ok_iff.1 success
  exact bind_eq_ok_iff.2 ⟨_, Scope.compile_of_grown grown compiled, built⟩

end Pattern

namespace Cache

def requests (cache : Cache) : List Request :=
  cache.entries.map fun entry => (entry.schema, entry.options)

variable {family : Family} {registry : Registry} {cache : Cache} {schema : SchemaId}
variable {options : Options}

theorem mem_of_lookup? {entry : CacheEntry} (found : cache.lookup? schema options = some entry) :
    entry ∈ cache.entries ∧ entry.schema = schema ∧ entry.options = options := by
  have same := List.find?_some found
  rw [Bool.and_eq_true, beq_iff_eq, beq_iff_eq] at same
  exact ⟨List.mem_of_find?_eq_some found, same⟩

theorem not_mem_requests (absent : cache.lookup? schema options = none) :
    (schema, options) ∉ cache.requests := by
  intro member
  obtain ⟨entry, among, same⟩ := List.mem_map.1 member
  cases same
  have missed := List.find?_eq_none.1 absent entry among
  simp only [beq_self_eq_true, Bool.and_self, not_true_eq_false] at missed

variable [Regex.SizeMeasure]

/-- A cached pattern is what its schema compiles to, and none is cached twice. -/
structure IsCurrent (family : Family) (registry : Registry) (cache : Cache) : Prop where
  compiles : ∀ entry ∈ cache.entries,
    Pattern.compile ⟨family, registry, entry.options⟩ entry.schema = .ok entry.pattern
  once : cache.requests.Nodup

theorem isCurrent_of_entries_eq_nil (none : cache.entries = []) :
    IsCurrent family registry cache := by
  refine ⟨fun entry member => ?_, ?_⟩
  · rw [none] at member
    cases member
  · rw [requests, none]
    exact List.nodup_nil

/-- Cached patterns stay what their schemas compile to when variants are registered. -/
theorem IsCurrent.register (current : IsCurrent family registry cache) {result : Registry}
    {capability : CapabilityId} {supply : Supply}
    (success : registry.register family capability supply = .ok result) :
    IsCurrent family result cache :=
  ⟨fun entry member => Pattern.compile_of_grown
    (fun _ _ => Registry.lookup?_of_register success) (current.compiles entry member),
    current.once⟩

/-- What a request comes to: the schema compiles, its pattern is given, and the cache answers this
request and those that it answered before; or the schema does not compile, and the error is
given. -/
theorem IsCurrent.getOrCompile_eq (current : IsCurrent family registry cache) (schema : SchemaId)
    (options : Options) :
    match Pattern.compile ⟨family, registry, options⟩ schema with
    | .error error => cache.getOrCompile ⟨family, registry, options⟩ schema = .error error
    | .ok pattern => ∃ entry after,
        cache.getOrCompile ⟨family, registry, options⟩ schema = .ok (entry, after) ∧
          entry.pattern = pattern ∧ IsCurrent family registry after ∧
          ∀ request, request ∈ after.requests ↔
            request = (schema, options) ∨ request ∈ cache.requests := by
  cases found : cache.lookup? schema options with
  | some entry =>
    obtain ⟨member, rfl, rfl⟩ := mem_of_lookup? found
    have listed : (entry.schema, entry.options) ∈ cache.requests := List.mem_map_of_mem member
    rw [current.compiles entry member]
    refine ⟨entry, cache, ?_, rfl, current, fun request => ?_⟩
    · simp only [getOrCompile, found]
    · constructor
      · exact .inr
      · rintro (rfl | asked)
        · exact listed
        · exact asked
  | none =>
    cases compiled : Pattern.compile ⟨family, registry, options⟩ schema with
    | error error => simp only [getOrCompile, found, compiled, error_bind]
    | ok pattern =>
      refine ⟨⟨schema, options, pattern, cache.count⟩,
        (cache.add schema options pattern).2, ?_, rfl, ⟨fun entry member => ?_, ?_⟩, fun request => ?_⟩
      · simp only [getOrCompile, found, compiled, ok_bind]
        rfl
      · rcases List.mem_append.1 member with member | member
        · exact current.compiles entry member
        · cases List.mem_singleton.1 member
          exact compiled
      · have fresh := not_mem_requests found
        simp only [requests, add, List.map_append, List.map_cons, List.map_nil]
        exact List.nodup_append.2 ⟨current.once, List.nodup_singleton _, fun request asked other one => by
          cases List.mem_singleton.1 one
          rintro rfl
          exact fresh asked⟩
      · simp only [requests, add, List.map_append, List.map_cons, List.map_nil, List.mem_append,
          List.mem_singleton]
        exact or_comm

/-- A cache that answers some requests has as many entries as there are different ones. -/
theorem size_eq_length_dedup (current : IsCurrent family registry cache) {served : List Request}
    (same : ∀ request, request ∈ cache.requests ↔ request ∈ served) :
    cache.size = served.dedup.length := by
  have listed : cache.requests.Perm served.dedup :=
    (List.perm_ext_iff_of_nodup current.once served.nodup_dedup).2 fun request => by
      rw [List.mem_dedup, same]
  rw [← listed.length_eq, requests, List.length_map]
  rfl

end Cache

namespace Process

variable [Regex.SizeMeasure]

/-- A process has the registry of a ledger, and its cache answers the requests that were served. -/
structure Keeps (family : Family) (process : Process) (ledger : Ledger) : Prop where
  registry : process.registry = ledger.registry
  current : process.cache.IsCurrent family process.registry
  served : ∀ request, request ∈ process.cache.requests ↔ request ∈ ledger.served

variable {family : Family} {process : Process} {ledger : Ledger}

/-- One call is answered as it is without a cache, and leaves the process as the ledger says. -/
theorem Keeps.answer (keeps : Keeps family process ledger) (call : Call) :
    (process.answer family call).1 = (ledger.answer family call).1 ∧
      Keeps family (process.answer family call).2 (ledger.answer family call).2 := by
  obtain ⟨registry, cache⟩ := process
  obtain ⟨_, served⟩ := ledger
  obtain ⟨rfl, current, same⟩ := keeps
  cases call with
  | register capability supply =>
    simp only [Process.answer, Ledger.answer]
    cases result : registry.register family capability supply with
    | error failure => exact ⟨rfl, rfl, current, same⟩
    | ok grown => exact ⟨rfl, rfl, current.register result, same⟩
  | compile schema options => exact ⟨rfl, rfl, current, same⟩
  | request schema options =>
    have outcome := current.getOrCompile_eq schema options
    simp only [Process.answer, Ledger.answer]
    cases compiled : Pattern.compile ⟨family, registry, options⟩ schema with
    | error error =>
      simp only [compiled] at outcome
      rw [outcome]
      exact ⟨rfl, rfl, current, same⟩
    | ok pattern =>
      simp only [compiled] at outcome
      obtain ⟨entry, after, success, rfl, still, listed⟩ := outcome
      rw [success]
      refine ⟨rfl, rfl, still, fun request => ?_⟩
      rw [listed, Ledger.serve, List.mem_cons, same]
  | find record input =>
    have outcome := current.getOrCompile_eq record.schema {}
    simp only [Process.answer, Ledger.answer, Cache.find, Pattern.compileAndFind]
    cases compiled : Pattern.compile ⟨family, registry, {}⟩ record.schema with
    | error error =>
      simp only [compiled] at outcome
      rw [outcome]
      exact ⟨rfl, rfl, current, same⟩
    | ok pattern =>
      simp only [compiled] at outcome
      obtain ⟨entry, after, success, rfl, still, listed⟩ := outcome
      rw [success]
      have kept : Keeps family ⟨registry, after⟩
          (Ledger.serve ⟨registry, served⟩ (record.schema, {}) (.ok entry.pattern)) :=
        ⟨rfl, still, fun request => by rw [listed, Ledger.serve, List.mem_cons, same]⟩
      dsimp only
      cases entry.pattern.find record input with
      | mk written result =>
        cases result with
        | error error => exact ⟨rfl, kept⟩
        | ok found => exact ⟨rfl, kept⟩
  | clear => exact ⟨rfl, rfl, Cache.isCurrent_of_entries_eq_nil rfl, fun _ => Iff.rfl⟩

/-- A run answers as it does without a cache. -/
theorem Keeps.run (keeps : Keeps family process ledger) (calls : List Call) :
    (process.run family calls).1 = (ledger.run family calls).1 ∧
      Keeps family (process.run family calls).2 (ledger.run family calls).2 := by
  induction calls generalizing process ledger with
  | nil => exact ⟨rfl, keeps⟩
  | cons call rest ih =>
    obtain ⟨first, kept⟩ := keeps.answer call
    obtain ⟨others, last⟩ := ih kept
    refine ⟨?_, last⟩
    simp only [Process.run, Ledger.run, first, others]

/-- The cache of a process is transparent. Whatever a process does from its beginning, it answers
every call as it would without a cache, where each request compiles its schema anew with the
registry of that moment. Its cache has one entry for each different request since it was last
cleared whose schema has compiled, and none for any other. -/
theorem run_transparent (family : Family) (calls : List Call) :
    (initial.run family calls).1 = (Ledger.initial.run family calls).1 ∧
      (initial.run family calls).2.registry = (Ledger.initial.run family calls).2.registry ∧
      (initial.run family calls).2.cache.size =
        (Ledger.initial.run family calls).2.served.dedup.length := by
  have begins : Keeps family initial Ledger.initial :=
    ⟨rfl, Cache.isCurrent_of_entries_eq_nil rfl, fun _ => Iff.rfl⟩
  obtain ⟨answers, registry, current, served⟩ := begins.run calls
  exact ⟨answers, registry, Cache.size_eq_length_dedup current served⟩

end Process

end SchemaMatch
