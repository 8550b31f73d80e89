import FacetQuery.Main
import FacetQuery.Proofs.Calls
import FacetQuery.Proofs.Concatenation
import FacetQuery.Proofs.Coverage
import FacetQuery.Proofs.Discovery
import FacetQuery.Proofs.Expressiveness
import FacetQuery.Proofs.TomlRoundTrip
import FacetQuery.Proofs.DeclaredKeys
import FacetQuery.Proofs.Precedence
import FacetQuery.Proofs.Places
import FacetQuery.Proofs.QueryRuns
import FacetQuery.Proofs.Templates
import FacetQuery.Proofs.FreshConfig
import FacetQuery.Proofs.NoConfig
import FacetQuery.Proofs.Lockstep
import FacetQuery.Proofs.MentionedKeys
import FacetQuery.Proofs.FileEffects
import FacetQuery.Proofs.FrontEnds
import FacetQuery.Proofs.PushedTokens
import FacetQuery.Proofs.QueryLines
import FacetQuery.Proofs.Warnings
import FacetQuery.Proofs.Highlighting
import FacetQuery.Proofs.Terminals
import FacetQuery.Proofs.Documents
import FacetQuery.Proofs.Carets
import FacetQuery.Proofs.KeyLookup
import FacetQuery.Proofs.Logging
