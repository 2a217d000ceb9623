import Edm.Effects.Prog
import Edm.Effects.Interleave
import Edm.Effects.Rely
import Edm.Effects.Run
import Edm.Effects.Allocation
import Edm.Effects.Pipe
import Edm.Effects.Vault
import Edm.Effects.Crash
import Edm.Effects.Raises
import Edm.Effects.Simulation
import Edm.Effects.Alone
import Edm.Effects.Linearize
import Edm.Data.Table
import Edm.Data.FiniteMap
import Edm.Data.Pages
import Edm.Data.Store
import Edm.Data.Decimal
import Edm.World.Models
import Edm.World.Elasticsearch
import Edm.World.Paths
import Edm.World.Environment
import Edm.Service.Esutils
import Edm.Service.Stages
import Edm.Service.Business
import Edm.Service.Run
import Edm.Service.Archive
import Edm.Service.Api
import Edm.Service.Pages
import Edm.Verify.Stages
import Edm.Verify.Artifacts
import Edm.Verify.Business
import Edm.Verify.Run
import Edm.Verify.Reopen
import Edm.Verify.AllOrNothing
import Edm.Verify.Archive
import Edm.Verify.Period
import Edm.Verify.Overlap
import Edm.Verify.Ids
import Edm.Verify.Refusal
import Edm.Verify.Replace
import Edm.Verify.Capture
import Edm.Verify.RoundTrip
import Edm.Service.Scripts
import Edm.Verify.Leftovers
import Edm.Service.Controllers
import Edm.Verify.Deadlock
import Edm.Verify.Answers
import Edm.Verify.Outcome
import Edm.Verify.Catalogue
import Edm.Verify.Pages
import Edm.Service.Deployment
import Edm.Verify.Crash
import Edm.Verify.Survival
import Edm.Verify.Concurrent
import Edm.Verify.Agree
import Edm.Verify.Alongside
import Edm.Verify.Linearize
import Edm.Service.Sites
import Edm.Verify.Sites
import Edm.Service.Http
import Edm.Verify.Exceptions
import Edm.Verify.Http
import Edm.Verify.Listing
import Edm.Verify.Rest
