/-!
Qualified names of XML.

A name is identified by its namespace and its local part; the prefix under which it was written
carries no meaning.
-/

namespace MetadataTrust

/-- A name without its prefix: what identifies it. -/
structure ExpandedName where
  namespaceUri : String
  localPart : String
deriving DecidableEq, Repr, Inhabited

/-- A qualified name as it was written. -/
structure QName where
  namespaceUri : String
  localPart : String
  nsPrefix : Option String := none
deriving DecidableEq, Repr, Inhabited

namespace QName

/-- The name without its prefix. -/
def expanded (n : QName) : ExpandedName := ⟨n.namespaceUri, n.localPart⟩

/-- Whether two names are the same name, whatever their prefixes. -/
def same (a b : QName) : Bool := a.expanded = b.expanded

/-- A name as messages show it. -/
def text (n : QName) : String := "\x7b" ++ n.namespaceUri ++ "\x7d" ++ n.localPart

end QName

end MetadataTrust
