import GraphQuery.Grammar.Description
import GraphQuery.Http.Service
import GraphQuery.Plan.Document
import GraphQuery.Registry.Directory
import GraphQuery.Session
import GraphQuery.Settings.Basic
import GraphQuery.Proofs.Plan.HopChain
import GraphQuery.Proofs.Plan.Labels
import GraphQuery.Proofs.Plan.Precedence
import GraphQuery.Proofs.Sentences
import GraphQuery.Proofs.Outcomes
import GraphQuery.Proofs.Plan.Typing
import GraphQuery.Proofs.Session
import GraphQuery.Proofs.Query.Literals
import GraphQuery.Proofs.Query.Respacing
import GraphQuery.Proofs.Mismatch
import GraphQuery.Proofs.Extension
import GraphQuery.Proofs.Renumbering
import GraphQuery.Proofs.Http.Service
import GraphQuery.Proofs.Schema.Document
import GraphQuery.Proofs.Description
import GraphQuery.Proofs.Grammar.Ambiguities
import GraphQuery.Proofs.BareNames
import GraphQuery.Proofs.BareValues
import GraphQuery.Proofs.Schema.Flaws
import GraphQuery.Proofs.Query.Renormalization
import GraphQuery.Proofs.Query.Lookahead
import GraphQuery.Proofs.Query.Names
import GraphQuery.Proofs.Query.LongestNames
import GraphQuery.Proofs.Query.Safety
import GraphQuery.Proofs.Plan.Document
import GraphQuery.Proofs.Settings.Layers
