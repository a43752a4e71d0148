import RecordSearch.Config
import RecordSearch.Engine.Expand
import RecordSearch.Engine.Resync
import RecordSearch.Http.Client
import RecordSearch.Proofs.EveryMatch
import RecordSearch.Proofs.Mirror
import RecordSearch.Proofs.FirstHit
import RecordSearch.Proofs.Totals
import RecordSearch.Proofs.Related
import RecordSearch.Proofs.ToMany
import RecordSearch.Proofs.ToOne
import RecordSearch.Proofs.Pages
import RecordSearch.Proofs.Mappings
import RecordSearch.Proofs.Memo
import RecordSearch.Proofs.Lookup
import RecordSearch.Proofs.SoftDelete
import RecordSearch.Proofs.Compiled
import RecordSearch.Proofs.Provision
import RecordSearch.Proofs.Identity
import RecordSearch.Proofs.ReadBack
import RecordSearch.Proofs.Tagging
import RecordSearch.Proofs.Parameters
import RecordSearch.Proofs.DocumentPath
import RecordSearch.Proofs.Resync
import RecordSearch.Proofs.LoadCost
import RecordSearch.Proofs.LoadTree
import RecordSearch.Proofs.Merging
import RecordSearch.Proofs.Rendering
import RecordSearch.Proofs.KeptConditions
import RecordSearch.Proofs.FirstRecord
import RecordSearch.Proofs.Overlay
import RecordSearch.Proofs.Remembered
import RecordSearch.Proofs.Prefetch
import RecordSearch.Proofs.Routes
import RecordSearch.Proofs.Deliveries
import RecordSearch.Proofs.CommaLists
