import MetadataTrust.QName

/-!
The names of SAML: namespaces, protocols and the element types of roles.
-/

namespace MetadataTrust.Saml

/-- The namespace of SAML 2.0 metadata. -/
def metadataNamespace : String := "urn:oasis:names:tc:SAML:2.0:metadata"

/-- The protocol of SAML 2.0. -/
def protocol20 : String := "urn:oasis:names:tc:SAML:2.0:protocol"

/-- The protocol of SAML 1.1. -/
def protocol11 : String := "urn:oasis:names:tc:SAML:1.1:protocol"

/-- The protocol of SAML 1.0. -/
def protocol10 : String := "urn:oasis:names:tc:SAML:1.0:protocol"

/-- A name of the metadata namespace. -/
def metadataName (localPart : String) : QName := ⟨metadataNamespace, localPart, some "md"⟩

/-- Identity providers. -/
def idpRole : QName := metadataName "IDPSSODescriptor"

/-- Service providers. -/
def spRole : QName := metadataName "SPSSODescriptor"

/-- Attribute authorities. -/
def attributeAuthorityRole : QName := metadataName "AttributeAuthorityDescriptor"

/-- Authentication authorities. -/
def authnAuthorityRole : QName := metadataName "AuthnAuthorityDescriptor"

/-- Policy decision points. -/
def pdpRole : QName := metadataName "PDPDescriptor"

end MetadataTrust.Saml
