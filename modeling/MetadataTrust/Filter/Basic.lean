import MetadataTrust.Metadata.Entity
import MetadataTrust.MetadataError

/-!
Filters of metadata, and chains of them.

A filter passes an entity on, perhaps changed, or drops it, or fails.  A chain hands what one filter
passes on to the next.  Unless it aborts on errors, it drops an entity on which a filter fails.
-/

namespace MetadataTrust

/-- What a filter makes of an entity: the entity that it passes on, or nothing if it drops it. -/
abbrev FilterResult := Except MetadataError (Option Entity)

/-- A filter of entities. -/
structure MetadataFilter where
  /-- A short name for messages. -/
  name : String
  /-- What it makes of an entity at a moment. -/
  apply : Instant → Entity → FilterResult

/-- Filters that are applied one after another. -/
structure FilterChain where
  filters : List MetadataFilter
  abortOnError : Bool := false

namespace FilterChain

/-- What the filters in turn make of an entity. -/
def run (abortOnError : Bool) (now : Instant) : List MetadataFilter → Entity → FilterResult
  | [], e => .ok (some e)
  | f :: more, e =>
    match f.apply now e with
    | .ok (some next) => run abortOnError now more next
    | .ok none => .ok none
    | .error err => if abortOnError then .error err else .ok none

/-- What the chain makes of an entity. -/
def apply (c : FilterChain) (now : Instant) (e : Entity) : FilterResult :=
  run c.abortOnError now c.filters e

/-- The names of the filters, in order. -/
def names (c : FilterChain) : List String := c.filters.map (·.name)

/-- The number of filters. -/
def size (c : FilterChain) : Nat := c.filters.length

/-- The chain as one filter. -/
def toFilter (c : FilterChain) : MetadataFilter := ⟨"chain", c.apply⟩

/-- The chain as diagnostics show it. -/
def describe (c : FilterChain) : String :=
  Text.record "MetadataFilterChain"
    [("filters", Text.bracketed (c.names.map Text.quoted)),
      ("abort_on_error", toString c.abortOnError)] false

end FilterChain

end MetadataTrust
