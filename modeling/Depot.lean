import Depot.Lock.Shards
import Depot.Main
import Depot.Proofs.Store.SessionTable
import Depot.Proofs.Server.Browsing
import Depot.Proofs.Server.Spelling
import Depot.Proofs.Store.Undoing
import Depot.Server.Respond
import Depot.Time.Rfc3339
import Depot.Proofs.Server.QuerySpelling
import Depot.Proofs.Server.Classification
import Depot.Proofs.Moments
import Depot.Proofs.Auth.Signing
import Depot.Proofs.Server.Provenance
import Depot.Proofs.Server.BucketViews
import Depot.Proofs.Server.Mounts
import Depot.Proofs.Forgery
import Depot.Proofs.Completions
import Depot.Proofs.Server.Uploads
import Depot.Proofs.Server.Assembly
import Depot.Proofs.Store.Owners
import Depot.Proofs.Store.Blindness
import Depot.Proofs.Server.BlindEndpoints
import Depot.Proofs.Server.UserIds
import Depot.Proofs.Auth.CanonicalForm
import Depot.Proofs.Truncation
import Depot.Proofs.CompletionSpellings
import Depot.Proofs.Store.OnePass
import Depot.Proofs.WrittenRanges
import Depot.Proofs.Overriding
import Depot.Proofs.Store.Damage
import Depot.Proofs.Server.CopySources
import Depot.Proofs.Locks
import Depot.Proofs.Identifiers
import Depot.Proofs.Replacements
