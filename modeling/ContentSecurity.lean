import ContentSecurity.Config.File
import ContentSecurity.Header.Json
import ContentSecurity.Nonce
import ContentSecurity.Proofs.Directive.UngatedValues
import ContentSecurity.Proofs.Header.Application
import ContentSecurity.Proofs.Policy.OrderedMap
import ContentSecurity.Proofs.Policy.Separation
import ContentSecurity.Proofs.Policy.Revalidation
import ContentSecurity.Proofs.Directive.Deduplication
import ContentSecurity.Proofs.Policy.Reduction
import ContentSecurity.Proofs.Header.ReducedPolicy
import ContentSecurity.Proofs.Config.Assembly
import ContentSecurity.Proofs.Directive.HashSources
import ContentSecurity.Proofs.Header.Repetition
import ContentSecurity.Proofs.Header.WrittenLines
import ContentSecurity.Proofs.Json.Tokens
import ContentSecurity.Proofs.Json.RoundTrip
import ContentSecurity.Proofs.Fields
import ContentSecurity.Proofs.Json.Records
import ContentSecurity.Proofs.Config.JsonForms
import ContentSecurity.Proofs.Header.JsonForms
import ContentSecurity.Proofs.Toml.Strings
import ContentSecurity.Proofs.Toml.Values
import ContentSecurity.Proofs.Toml.Lines
import ContentSecurity.Proofs.Config.TomlForm
import ContentSecurity.Proofs.Source.HostForm
import ContentSecurity.Proofs.Source.HostGrammar
import ContentSecurity.Proofs.Text.Lowercase
import ContentSecurity.Proofs.Source.VisibleText
import ContentSecurity.Proofs.Source.Disjointness
import ContentSecurity.Proofs.Directive.SourceRules
import ContentSecurity.Proofs.Directive.AcceptedSources
import ContentSecurity.Proofs.Directive.Accounting
import ContentSecurity.Proofs.Base64
import ContentSecurity.Proofs.Base64.PaddedForm
import ContentSecurity.Proofs.Digest
import ContentSecurity.Proofs.Directive.ComputedHashes
import ContentSecurity.Proofs.Directive.NonceSources
import ContentSecurity.Proofs.Nonce
import ContentSecurity.Proofs.Directive.Stores
import ContentSecurity.Proofs.Config.WrittenEnds
import ContentSecurity.Proofs.Header.DistinctValues
