import MetadataTrust.Resolution

/-!
The credentials that are held locally.

A resolution gives the credentials that match every criterion that concerns credentials, in the order in
which they were added.
-/

namespace MetadataTrust

/-- Whether a credential satisfies every criterion that concerns credentials: its entity exactly, one
of its names exactly, its key octet by octet, and its usage as far as compatible. -/
def Criteria.admits (c : Criteria) (k : Credential) : Bool :=
  c.entityId.all (fun id => k.entityId = some id) &&
    c.keyName.all (fun name => name ∈ k.keyNames) &&
    c.publicKey.all (fun key => k.publicKey = some key) &&
    c.usage.all (fun usage => k.usage.compatible usage)

/-- Credentials in the order in which they were added. -/
structure CredentialStore where
  credentials : List Credential := []
deriving DecidableEq, Inhabited

namespace CredentialStore

/-- Appends a credential. -/
def add (s : CredentialStore) (k : Credential) : CredentialStore := ⟨s.credentials ++ [k]⟩

/-- Replaces all credentials. -/
def replaceAll (_ : CredentialStore) (ks : List Credential) : CredentialStore := ⟨ks⟩

/-- The number of credentials. -/
def size (s : CredentialStore) : Nat := s.credentials.length

/-- The credentials that match, in order. -/
def select (s : CredentialStore) (c : Criteria) : List Credential := s.credentials.filter c.admits

/-- The store as a resolver, which never fails. -/
def resolver (s : CredentialStore) : Resolver Credential := fun c => .ok (s.select c)

end CredentialStore

end MetadataTrust
