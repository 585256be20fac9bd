import MetadataTrust.MetadataError
import MetadataTrust.Script.Path.Parser
import MetadataTrust.Script.Pointer

/-!
Engines that evaluate scripts.

The scripts of the built-in engines are queries, one on a line; blank lines and lines that start with
`#` do not count.  The result is everything that the queries select, query by query.  What one query
selects is a parameter of the engines.
-/

namespace MetadataTrust

/-- A compiled script: what it makes of a scope. -/
abbrev Script := Json → Except ScriptFault Json

/-- Something that compiles scripts. -/
structure ScriptEngine where
  /-- The name by which scripts choose the engine. -/
  name : String
  compile : String → Except ScriptFault Script

/-- The lines of a script that count, without the blanks around them. -/
def expressions (source : String) : List String :=
  ((Text.lines source.toList).map Text.trimChars).filter
    (fun line => !line.isEmpty && line.head? != some '#') |>.map String.ofList

/-! ### Scripts of queries -/

/-- A language in which each line of a script is a query. -/
structure QueryLanguage where
  /-- The name of its engine. -/
  name : String
  /-- What is wrong with a script without queries. -/
  noQueries : ScriptFault
  /-- Tells what is wrong with a line that is no query. -/
  check : String → Except ScriptFault Unit
  /-- The values that a query selects from a scope, which may fail. -/
  select : String → Json → Except ScriptFault (List Json)

namespace QueryLanguage

/-- What queries select from a scope, one after another. -/
def selectAll (L : QueryLanguage) (queries : List String) (scope : Json) :
    Except ScriptFault (List Json) := do
  return (← queries.mapM (L.select · scope)).flatten

/-- Queries as a script. -/
def evaluate (L : QueryLanguage) (queries : List String) : Script := fun scope =>
  Json.array <$> L.selectAll queries scope

/-- Compiles a script: all its lines must be queries, and it must have some. -/
def compile (L : QueryLanguage) (source : String) : Except ScriptFault Script :=
  match expressions source with
  | [] => .error L.noQueries
  | queries => do
    queries.forM L.check
    return L.evaluate queries

/-- The engine for scripts in the language. -/
def engine (L : QueryLanguage) : ScriptEngine := ⟨L.name, L.compile⟩

end QueryLanguage

/-- What JSONPath queries select from a scope, or why they cannot be evaluated. -/
abbrev PathSelection := String → Json → Except String (List Json)

/-- What JSON Pointers point at in a scope, if it is there. -/
abbrev PointerSelection := String → Json → Option Json

/-- JSONPath, a path on each line.  A path is tried on an empty object when the script is compiled. -/
def pathLanguage (paths : PathSelection) : QueryLanguage where
  name := "JSONPath"
  noQueries := .noExpressions
  check path := discard <| (paths path (.object [])).mapError (.malformedPath path)
  select path scope := (paths path scope).mapError .pathFailed

/-- JSON Pointers, one on each line. -/
def pointerLanguage (pointers : PointerSelection) : QueryLanguage where
  name := "JSONPointer"
  noQueries := .noPointers
  check pointer :=
    if pointer.toList.head? = some '/' then .ok () else .error (.malformedPointer pointer)
  select pointer scope := .ok (pointers pointer scope).toList

/-! ### Registries -/

/-- The engine for scripts that choose none. -/
def defaultScriptEngine : String := "JSONPath"

/-- Engines in the order of their names, each name once. -/
structure EngineRegistry where
  engines : List ScriptEngine := []

namespace EngineRegistry

/-- Puts an engine in its place; it replaces one of the same name. -/
def insertEngine (e : ScriptEngine) : List ScriptEngine → List ScriptEngine
  | [] => [e]
  | f :: more =>
    if e.name < f.name then e :: f :: more
    else if e.name = f.name then e :: more
    else f :: insertEngine e more

/-- Registers an engine, in place of one of the same name. -/
def register (r : EngineRegistry) (e : ScriptEngine) : EngineRegistry := ⟨insertEngine e r.engines⟩

/-- The registry of the given engines; a later one replaces an earlier one of its name. -/
def ofList (engines : List ScriptEngine) : EngineRegistry := engines.foldl register {}

/-- The built-in engines, given what paths and pointers select. -/
def builtInWith (paths : PathSelection) (pointers : PointerSelection) : EngineRegistry :=
  ofList [(pathLanguage paths).engine, (pointerLanguage pointers).engine]

/-- The built-in engines with the paths and pointers of this library; its paths are of the common forms
only. -/
def builtIn : EngineRegistry := builtInWith JsonPath.selectText JsonPointer.selectText?

/-- The engine of a name. -/
def get? (r : EngineRegistry) (name : String) : Option ScriptEngine :=
  r.engines.find? (·.name = name)

/-- The names of the engines, in order. -/
def names (r : EngineRegistry) : List String := r.engines.map (·.name)

end EngineRegistry

end MetadataTrust
