import CommandGateway.Api.Startup
import CommandGateway.Main
import CommandGateway.Robot.Bridge
import CommandGateway.Robot.Recording
import CommandGateway.Robot.Scripted
import CommandGateway.Proofs.Pool.Chronicle
import CommandGateway.Proofs.Pool.Accounts
import CommandGateway.Proofs.Pool.Retention
import CommandGateway.Proofs.Pool.Tracking
import CommandGateway.Proofs.Course
import CommandGateway.Proofs.Dispatch
import CommandGateway.Proofs.Engine.Custody
import CommandGateway.Proofs.Engine.Cells
import CommandGateway.Proofs.Engine.OneLookup
import CommandGateway.Proofs.Engine.Retry
import CommandGateway.Proofs.Isolation
import CommandGateway.Proofs.Say
import CommandGateway.Proofs.Inline
import CommandGateway.Proofs.Pool.Lone
import CommandGateway.Proofs.Pool.Submit
import CommandGateway.Proofs.Engine.Deeds
import CommandGateway.Proofs.Engine.Speech
import CommandGateway.Proofs.Engine.Alone
import CommandGateway.Proofs.Engine.Agreement
import CommandGateway.Proofs.Engine.Calls
import CommandGateway.Proofs.Api.Handling
import CommandGateway.Proofs.Api.Reach
import CommandGateway.Proofs.Api.Frame
import CommandGateway.Proofs.Text.Utf8
import CommandGateway.Proofs.Json.Spelling
import CommandGateway.Proofs.Json.Members
import CommandGateway.Proofs.Json.Reading
import CommandGateway.Proofs.Json.Embedded
import CommandGateway.Proofs.Batch
import CommandGateway.Proofs.Json.Shape
import CommandGateway.Proofs.Json.RoundTrip
import CommandGateway.Proofs.Api.Payload
import CommandGateway.Proofs.Net.Place
import CommandGateway.Proofs.Bridge
import CommandGateway.Proofs.Api.Discretion
import CommandGateway.Proofs.Pool.Polling
import CommandGateway.Proofs.Boundaries
import CommandGateway.Proofs.Uuid
import CommandGateway.Proofs.Api.Location
import CommandGateway.Proofs.Engine.Fairness
import CommandGateway.Api.Exchange
import CommandGateway.Proofs.Api.Session
import CommandGateway.Proofs.Api.Disconnect
import CommandGateway.Net.Reference
import CommandGateway.Proofs.Net.Escape
import CommandGateway.Proofs.Net.Segment
import CommandGateway.Proofs.Naming
import CommandGateway.Proofs.Net.Reference
import CommandGateway.Proofs.Api.Reference
import CommandGateway.Proofs.Pool.Census
import CommandGateway.Proofs.Pool.Return
import CommandGateway.Engine.Reception
import CommandGateway.Proofs.Engine.Reception
import CommandGateway.Proofs.Engine.Conservation
import CommandGateway.Proofs.Engine.Settling
import CommandGateway.Proofs.Pool.Admission
import CommandGateway.Proofs.Utterance
import CommandGateway.Proofs.Api.Description
import CommandGateway.Proofs.Api.Startup
import CommandGateway.Proofs.Log
import CommandGateway.Proofs.Tag
import CommandGateway.Proofs.Json.StringText
import CommandGateway.Proofs.Tag.Decoding
import CommandGateway.Proofs.Json.Alike
import CommandGateway.Proofs.Api.Status
import CommandGateway.Proofs.Text.Case
import CommandGateway.Proofs.Config.Rule
import CommandGateway.Proofs.Config.Variables
import CommandGateway.Proofs.Config.Dotenv
