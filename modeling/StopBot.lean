import StopBot.Lib.Runs
import StopBot.Lib.Traces
import StopBot.Lib.Sql
import StopBot.Lib.Table
import StopBot.Lib.Jsonb
import StopBot.Lib.PyText
import StopBot.Observer.StateMachine
import StopBot.Observer.Writers
import StopBot.Observer.Cycle
import StopBot.Observer.Freshness
import StopBot.Observer.Matching
import StopBot.Tasks.Row
import StopBot.Tasks.Queue
import StopBot.Tasks.Writers
import StopBot.Tasks.Operations
import StopBot.Tasks.Lifecycle
import StopBot.Tasks.Fencing
import StopBot.Tasks.Zombies
import StopBot.Worker.Mutation
import StopBot.Worker.Process
import StopBot.Worker.Phases
import StopBot.Worker.Sessions
import StopBot.Worker.Steps
import StopBot.Worker.Writes
import StopBot.Worker.Unknown
import StopBot.Worker.Authority
import StopBot.Commands.Service
import StopBot.Commands.Ledger
import StopBot.Commands.Barrier
import StopBot.Commands.Keys
import StopBot.Commands.AutoStop
import StopBot.Commands.Receipts
import StopBot.Observer.Singleton
import StopBot.Observer.Cabinets
import StopBot.Tracker.Convergence
import StopBot.Tracker.Ingest
import StopBot.Browser.Exclusion
import StopBot.Browser.PageLock
import StopBot.Browser.Readiness
import StopBot.Browser.Breaker
import StopBot.Browser.Publishing
import StopBot.Browser.Spending
import StopBot.Telegram.Callbacks
import StopBot.Telegram.Cards
import StopBot.Telegram.QuietHours
import StopBot.Telegram.RollingWindow
import StopBot.Telegram.Answers
import StopBot.Telegram.Replies
import StopBot.Duplicates.Recovery
import StopBot.Campaigns.Boundary
import StopBot.Campaigns.Tracking
import StopBot.Campaigns.Amounts
import StopBot.Rules.SpendCap
import StopBot.Rules.Numbers
import StopBot.Rules.Worsening
import StopBot.Rules.Money
import StopBot.Graph.Outcomes
import StopBot.Scan.AmJoin
import StopBot.Scan.AmFetch
import StopBot.Graph.Semantics
