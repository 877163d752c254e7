import SchemaMatch.Pattern.Find

/-!
# The pattern cache

A process has a registry that all its compilations share, and a cache of the patterns that were
asked for. A cached pattern is found again under its schema and options until the cache is cleared,
whatever has been registered since. Errors are not cached.
-/

namespace SchemaMatch

structure CacheEntry where
  schema : SchemaId
  options : Options
  pattern : Pattern
  /-- The number of patterns that were cached before it. -/
  serial : Nat

structure Cache where
  entries : List CacheEntry
  /-- The number of patterns that were ever cached. -/
  count : Nat

namespace Cache

def empty : Cache := ⟨[], 0⟩

/-- The number of cached patterns. -/
def size (cache : Cache) : Nat := cache.entries.length

def clear (cache : Cache) : Cache := { cache with entries := [] }

def lookup? (cache : Cache) (schema : SchemaId) (options : Options) : Option CacheEntry :=
  cache.entries.find? fun entry => entry.schema == schema && entry.options == options

def add (cache : Cache) (schema : SchemaId) (options : Options) (pattern : Pattern) :
    CacheEntry × Cache :=
  let entry : CacheEntry := ⟨schema, options, pattern, cache.count⟩
  (entry, ⟨cache.entries ++ [entry], cache.count + 1⟩)

variable [Regex.SizeMeasure]

def getOrCompile (cache : Cache) (scope : Scope) (schema : SchemaId) :
    Except CompileError (CacheEntry × Cache) :=
  match cache.lookup? schema scope.options with
  | some entry => .ok (entry, cache)
  | none => do return cache.add schema scope.options (← Pattern.compile scope schema)

/-- Writes the leftmost match to a record with the cached pattern of its schema under default
options. -/
def find (cache : Cache) (family : Family) (registry : Registry) (record : Record)
    (input : String) : Record × Except Failure Bool × Cache :=
  match cache.getOrCompile ⟨family, registry, {}⟩ record.schema with
  | .error error => (record, .error (.compile error), cache)
  | .ok (entry, cache) =>
    match entry.pattern.find record input with
    | (record, .ok found) => (record, .ok found, cache)
    | (record, .error error) => (record, .error (.inflate error), cache)

end Cache

end SchemaMatch
