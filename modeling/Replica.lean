import Replica.Cluster.Serve
import Replica.Main
import Replica.Outbox.Rehearsal
import Replica.Proofs.CatchUp
import Replica.Proofs.Collisions
import Replica.Proofs.Convergence
import Replica.Proofs.Filing
import Replica.Proofs.History
import Replica.Proofs.OrderFree
import Replica.Proofs.Pushes
import Replica.Proofs.Resend
import Replica.Proofs.SubmissionOrder
import Replica.Proofs.TornLog
import Replica.Proofs.Entrances
import Replica.Proofs.LegalKeys
import Replica.Proofs.FanOut
import Replica.Proofs.Stock
import Replica.Proofs.Fleet
import Replica.Proofs.Forwarding
import Replica.Proofs.Lineage
import Replica.Proofs.Restart
import Replica.Proofs.ChangeLog
import Replica.Proofs.Isolation
import Replica.Proofs.Standing
import Replica.Proofs.Timing
import Replica.Proofs.Delays
import Replica.Proofs.Attempts
import Replica.Proofs.Onward
import Replica.Proofs.Backlog
import Replica.Proofs.Progress
import Replica.Proofs.Tickets
import Replica.Proofs.Rehearsed
import Replica.Proofs.Patience
