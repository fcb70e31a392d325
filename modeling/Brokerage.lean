import Brokerage.Config
import Brokerage.Http.Scrape
import Brokerage.Proofs.Answer
import Brokerage.Proofs.CatalogGate
import Brokerage.Proofs.Leniency
import Brokerage.Proofs.Transport
import Brokerage.Proofs.Independence
import Brokerage.Proofs.FlowMetrics
import Brokerage.Proofs.Addressing
import Brokerage.Proofs.Handover
import Brokerage.Proofs.RequestMetrics
import Brokerage.Proofs.Isolation
import Brokerage.Proofs.RoundTrip
import Brokerage.Proofs.Base64
import Brokerage.Proofs.Documents
import Brokerage.Proofs.Identity
import Brokerage.Proofs.SentIdentity
import Brokerage.Proofs.Mirror
import Brokerage.Proofs.Steering
import Brokerage.Proofs.Platform
import Brokerage.Proofs.UnderPlatform
import Brokerage.Proofs.ErrorBody
import Brokerage.Proofs.Lookup
import Brokerage.Proofs.Layers
import Brokerage.Proofs.Described
import Brokerage.Proofs.Equipment
import Brokerage.Proofs.HeaderGrammar
import Brokerage.Proofs.Agreement
import Brokerage.Proofs.Rearranged
import Brokerage.Proofs.Registration
import Brokerage.Proofs.Ownership
import Brokerage.Proofs.Descriptions
import Brokerage.Proofs.Reload
