import Taskboard.Main
import Taskboard.Scenario.Play
import Taskboard.Proofs.Text.Utf8
import Taskboard.Proofs.Task.Record
import Taskboard.Proofs.Number.Decimal
import Taskboard.Proofs.Json.Text
import Taskboard.Proofs.Store.Operation
import Taskboard.Proofs.Disk.Place
import Taskboard.Proofs.Disk.Step
import Taskboard.Proofs.Store.Save
import Taskboard.Proofs.Store.Course
import Taskboard.Proofs.Store.Run
import Taskboard.Proofs.Store.Claim
import Taskboard.Proofs.Store.Snapshot
import Taskboard.Proofs.Store.Identity
import Taskboard.Proofs.Disk.Tree
import Taskboard.Proofs.Store.Restart
import Taskboard.Proofs.Store.Fresh
import Taskboard.Proofs.Store.Faithful
import Taskboard.Proofs.Desk
import Taskboard.Proofs.Worker.Crew
import Taskboard.Proofs.Worker.Protocol
import Taskboard.Proofs.Worker.Board
import Taskboard.Proofs.Worker.Ledger
import Taskboard.Proofs.Worker.Exclusion
import Taskboard.Proofs.Store.Quarantine
import Taskboard.Proofs.Store.Unexpected
import Taskboard.Proofs.Json.Nesting
import Taskboard.Proofs.Tool.Failures
import Taskboard.Proofs.Tool.Intact
import Taskboard.Proofs.Worker.Failures
import Taskboard.Proofs.Worker.Alone
import Taskboard.Proofs.Worker.Sweep
import Taskboard.Proofs.Worker.Abandoned
import Taskboard.Proofs.Worker.Closure
import Taskboard.Proofs.Store.Assured
import Taskboard.Proofs.Store.Dense
import Taskboard.Proofs.Store.Times
import Taskboard.Proofs.Worker.Starvation
import Taskboard.Proofs.Disk.Approach
import Taskboard.Proofs.Disk.Alike
import Taskboard.Proofs.Store.Plan
import Taskboard.Proofs.Store.Independent
import Taskboard.Proofs.Json.Distinct
import Taskboard.Proofs.Task.Format
import Taskboard.Proofs.Store.Decision
import Taskboard.Proofs.Store.Deadlock
import Taskboard.Proofs.Worker.Kept
import Taskboard.Proofs.Worker.Account
import Taskboard.Proofs.Store.Listing
import Taskboard.Proofs.Task.Change
import Taskboard.Proofs.Store.Updates
import Taskboard.Proofs.Text.Words
import Taskboard.Proofs.Command.Reply
import Taskboard.Proofs.Command.Create
import Taskboard.Proofs.Command.Block
import Taskboard.Proofs.Text.Spelling
import Taskboard.Proofs.Store.Counter
import Taskboard.Proofs.Store.Filed
import Taskboard.Proofs.Command.Dispatch
