import MetadataTrust.Configuration.Document
import MetadataTrust.Configuration.Form
import MetadataTrust.Configuration.Pipeline
import MetadataTrust.CredentialStore.Session
import MetadataTrust.Json.Parser
import MetadataTrust.KeyInfo.Resolver
import MetadataTrust.Metadata.Document
import MetadataTrust.Metadata.RoleResolver
import MetadataTrust.Proofs.Filter.Refiltering
import MetadataTrust.Proofs.Metadata.Outage
import MetadataTrust.Proofs.Metadata.Provenance
import MetadataTrust.Saml
import MetadataTrust.Proofs.Base64
import MetadataTrust.Proofs.Signature.Coverage
import MetadataTrust.Proofs.Instant
import MetadataTrust.Proofs.KeyInfo.Form
import MetadataTrust.Proofs.Signature.Form
import MetadataTrust.Proofs.Metadata.Form
import MetadataTrust.Proofs.Metadata.Content
import MetadataTrust.Metadata.Session
import MetadataTrust.Metadata.Chain
import MetadataTrust.Proofs.Metadata.Index
import MetadataTrust.Proofs.Metadata.Session
import MetadataTrust.Proofs.Metadata.Listing
import MetadataTrust.Proofs.KeyInfo.Extraction
import MetadataTrust.Proofs.KeyInfo.Precedence
import MetadataTrust.Proofs.Metadata.Published
import MetadataTrust.Proofs.TrustedNames
import MetadataTrust.Proofs.Filter.TrustPolicy
import MetadataTrust.Proofs.CredentialStore.Session
import MetadataTrust.Proofs.Metadata.UsageNarrowing
import MetadataTrust.Proofs.Metadata.RoundTrip
import MetadataTrust.Proofs.Configuration.Setup
import MetadataTrust.Proofs.Filter.SecondRun
import MetadataTrust.Proofs.Signature.Algorithms
import MetadataTrust.Proofs.KeyInfo.RsaKeyValue
import MetadataTrust.Proofs.Configuration.Options
import MetadataTrust.Proofs.KeyInfo.FaultIsolation
import MetadataTrust.Proofs.Filter.PolicyFailure
import MetadataTrust.Proofs.Metadata.RoleResolution
import MetadataTrust.Proofs.Base64.Acceptance
import MetadataTrust.Proofs.Filter.Composition
import MetadataTrust.Proofs.Namespaces
import MetadataTrust.Proofs.Metadata.Loading
import MetadataTrust.Proofs.Script.Composition
import MetadataTrust.Proofs.KeyInfo.ProviderOrder
import MetadataTrust.Proofs.Metadata.NestedChains
