import MetadataTrust.Octets

/-!
The files that a configuration can name.
-/

namespace MetadataTrust

/-- The contents of the files that there are, by name. -/
abbrev Files := String → Option Octets

/-- No files. -/
def Files.none : Files := fun _ => Option.none

/-- The contents of a text file; they must be valid UTF-8. -/
def Files.text? (files : Files) (name : String) : Option String := do Octets.toText? (← files name)

end MetadataTrust
