import TokenChain.Time.Zone
import TokenChain.Text.Lines
import TokenChain.Text.Integer
import TokenChain.Text.FormEncoded
import TokenChain.Token
import TokenChain.Scope
import TokenChain.Retry.Policy
import TokenChain.Log.Forwarding
import TokenChain.Log.Handles
import TokenChain.Url.Parser
import TokenChain.Json.Document
import TokenChain.Json.Record
import TokenChain.Schedule
import TokenChain.Retry.Execution
import TokenChain.Probe.Gate
import TokenChain.Config
import TokenChain.Surroundings
import TokenChain.Endpoint.Authority
import TokenChain.Source.Explicit
import TokenChain.Source.WorkloadIdentity
import TokenChain.Source.ManagedIdentity
import TokenChain.Source.DeveloperTool
import TokenChain.Source.Rehearsed
import TokenChain.Chain
import TokenChain.Session
import TokenChain.Retry.Trial
import TokenChain.Probe.Trial
import TokenChain.Proofs.Chain.Memory
import TokenChain.Proofs.Chain.Serial
import TokenChain.Proofs.Task.Stepwise
import TokenChain.Proofs.Task.Crowd
import TokenChain.Proofs.Task.Interruption
import TokenChain.Proofs.Schedule
import TokenChain.Proofs.Chain.Position
import TokenChain.Proofs.Chain.Turn
import TokenChain.Proofs.Chain.Selection
import TokenChain.Proofs.Chain.Exclusion
import TokenChain.Proofs.Chain.Exhaustion
import TokenChain.Proofs.Chain.Renewal
import TokenChain.Proofs.Task.Course
import TokenChain.Proofs.Chain.Departure
import TokenChain.Proofs.Chain.Succession
import TokenChain.Proofs.Probe.Asking
import TokenChain.Proofs.Probe.Tickets
import TokenChain.Proofs.Retry.Pacing
import TokenChain.Proofs.Identity.Messages
import TokenChain.Proofs.Identity.Attempt
import TokenChain.Proofs.Identity.Neighbours
import TokenChain.Proofs.Identity.Restraint
import TokenChain.Proofs.Identity.Verdict
import TokenChain.Proofs.Identity.Closing
import TokenChain.Proofs.Task.Service
import TokenChain.Proofs.Source.Service
import TokenChain.Proofs.Chain.Service
import TokenChain.Proofs.Schedule.Turns
import TokenChain.Proofs.Schedule.Termination
import TokenChain.Proofs.Schedule.Punctuality
import TokenChain.Proofs.Schedule.Cancellation
import TokenChain.Proofs.Session.Punctuality
import TokenChain.Proofs.Session.Cancellation
import TokenChain.Proofs.Task.Likeness
import TokenChain.Proofs.Task.Lockstep
import TokenChain.Proofs.Schedule.Likeness
import TokenChain.Proofs.Source.Likeness
import TokenChain.Proofs.Chain.Likeness
import TokenChain.Proofs.Session.Secrecy
import TokenChain.Proofs.Schedule.Solo
import TokenChain.Proofs.Schedule.Chronicle
import TokenChain.Proofs.Retry.Timeline
import TokenChain.Proofs.Retry.Conduct
import TokenChain.Proofs.Retry.Curtailment
import TokenChain.Proofs.Task.Writing
import TokenChain.Proofs.Task.Timing
import TokenChain.Proofs.Source.Account
import TokenChain.Proofs.Source.Attempts
import TokenChain.Proofs.Source.Limits
import TokenChain.Proofs.Chain.Transcript
import TokenChain.Proofs.Chain.Timeliness
import TokenChain.Proofs.Endpoint.Reading
import TokenChain.Proofs.Retry.Bounds
import TokenChain.Proofs.Retry.Doubling
import TokenChain.Proofs.Retry.Fidelity
import TokenChain.Proofs.Retry.Rounds
import TokenChain.Proofs.Endpoint.Answer
import TokenChain.Proofs.Endpoint.Requests
import TokenChain.Proofs.Session.Inquiry
import TokenChain.Proofs.Scope
import TokenChain.Proofs.Url.Directory
import TokenChain.Proofs.Url.Reference
import TokenChain.Proofs.Endpoint.Tenant
import TokenChain.Proofs.Source.Command
import TokenChain.Proofs.Task.Concluding
import TokenChain.Proofs.Source.Refusal
import TokenChain.Proofs.Chain.Refusal
import TokenChain.Proofs.Log.Retention
import TokenChain.Proofs.Log.Forwarding
import TokenChain.Proofs.Time.Calendar
import TokenChain.Proofs.Time.Zone
import TokenChain.Proofs.Text.Numeral
import TokenChain.Proofs.Time.LocalText
import TokenChain.Proofs.Source.Expiry
import TokenChain.Proofs.Json.Record
import TokenChain.Proofs.Endpoint.Spelling
import TokenChain.Proofs.Config.Environment
import TokenChain.Proofs.Endpoint.Wording
import TokenChain.Proofs.Schedule.Ending
import TokenChain.Proofs.Task.GivingUp
import TokenChain.Proofs.Request.Within
import TokenChain.Proofs.Retry.Counting
