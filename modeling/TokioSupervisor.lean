import TokioSupervisor.Runtime.Slots
import TokioSupervisor.Runtime.Counters
import TokioSupervisor.Runtime.Tasks
import TokioSupervisor.Runtime.Group
import TokioSupervisor.Runtime.Errors
import TokioSupervisor.Runtime.Commands
import TokioSupervisor.Runtime.Isolation
import TokioSupervisor.Runtime.Restarts
import TokioSupervisor.Runtime.Verdict
import TokioSupervisor.Runtime.Removing
import TokioSupervisor.Runtime.Incarnations
import TokioSupervisor.Runtime.LastChild
import TokioSupervisor.Runtime.Instances
import TokioSupervisor.Runtime.Removals
import TokioSupervisor.Actor.RunUntil
import TokioSupervisor.Actor.Joins
import TokioSupervisor.Actor.Surfacing
import TokioSupervisor.Handle.Wait
import TokioSupervisor.Handle.Clones
import TokioSupervisor.Runtime.Joined
import TokioSupervisor.Runtime.Delivery
import TokioSupervisor.Otp.Agreement
import TokioSupervisor.Nested.Endings
import TokioSupervisor.Nested.Events
import TokioSupervisor.Nested.Routing
import TokioSupervisor.Runtime.Lifecycle
import TokioSupervisor.Runtime.Publishing
import TokioSupervisor.Runtime.DrainEnds
import TokioSupervisor.Runtime.Terminal
import TokioSupervisor.Intensity.Window
import TokioSupervisor.Intensity.Backoff
import TokioSupervisor.Actor.RunningTasks
import TokioSupervisor.Actor.Deadline
import TokioSupervisor.Runtime.Deadlines
import TokioSupervisor.Runtime.Preemption
import TokioSupervisor.Runtime.Timeouts
import TokioSupervisor.Runtime.RestartCounts
import TokioSupervisor.Runtime.Pending
import TokioSupervisor.Actor.SendWhenReady
import TokioSupervisor.Actor.Wiring
import TokioSupervisor.Runtime.Progress
import TokioSupervisor.Runtime.Budget
import TokioSupervisor.Runtime.Answers
import TokioSupervisor.Runtime.Replay
import TokioSupervisor.Actor.Messaging
import TokioSupervisor.Actor.Waiting
import TokioSupervisor.Actor.OneCall
import TokioSupervisor.Otp.Building
import TokioSupervisor.Console.Socket
import TokioSupervisor.Nested.Forest
