import VoxRtc.Transition.Runs
import VoxRtc.Transition.Fairness
import VoxRtc.Transition.Pool
import VoxRtc.Transition.Histories
import VoxRtc.Transition.Log
import VoxRtc.Transition.Override
import VoxRtc.Program.Body
import VoxRtc.Time.Duration
import VoxRtc.Correlation.Slot
import VoxRtc.Correlation.Desk
import VoxRtc.Correlation.Broadcast
import VoxRtc.Correlation.Lossy
import VoxRtc.Grammar.Reading
import VoxRtc.Wire.Json
import VoxRtc.Wire.Text
import VoxRtc.Wire.Same
import VoxRtc.Wire.Literal
import VoxRtc.Wire.SafeInteger
import VoxRtc.Gateway.Commands
import VoxRtc.TypeScript.Gateway.Frames
import VoxRtc.Rust.Gateway.Frames
import VoxRtc.Go.Gateway.Frames
import VoxRtc.Python.Gateway.Frames
import VoxRtc.Go.Gateway.Offers
import VoxRtc.Gateway.Offers
import VoxRtc.Rust.Gateway.Generations
import VoxRtc.TypeScript.Gateway.Lifecycle
import VoxRtc.TypeScript.Gateway.Connections
import VoxRtc.TypeScript.Gateway.Stack
import VoxRtc.TypeScript.Gateway.CommandWindow
import VoxRtc.TypeScript.Gateway.Teardown
import VoxRtc.TypeScript.Gateway.Shutdown
import VoxRtc.Rust.Gateway.Serve
import VoxRtc.Rust.Gateway.Shutdown
import VoxRtc.Rust.Gateway.Drain
import VoxRtc.Rust.Gateway.Lifecycle
import VoxRtc.Go.Gateway.Lifecycle
import VoxRtc.Go.Gateway.Bodies
import VoxRtc.Go.Gateway.Shutdown
import VoxRtc.Go.Gateway.Registry
import VoxRtc.Python.Gateway.Lifecycle
import VoxRtc.Python.Gateway.Teardown
import VoxRtc.Python.Gateway.Closing
import VoxRtc.Python.Gateway.Shutdown
import VoxRtc.Python.Gateway.Loop
import VoxRtc.Python.Gateway.Forwarding
import VoxRtc.Browser.Signaling
import VoxRtc.Browser.EndToEnd
import VoxRtc.Browser.Settlement
import VoxRtc.Browser.Negotiation
import VoxRtc.Browser.Candidates
import VoxRtc.Browser.Ordering
import VoxRtc.Browser.Attempts
import VoxRtc.Browser.Calls
import VoxRtc.Browser.Updates
import VoxRtc.Browser.Continuation
import VoxRtc.Browser.Isolation
import VoxRtc.Browser.MediaHealth
import VoxRtc.Browser.Microphone
import VoxRtc.Browser.Release
import VoxRtc.Browser.Playback
import VoxRtc.Browser.Ducking
import VoxRtc.Browser.Suspension
import VoxRtc.Responses.Commands
import VoxRtc.TypeScript.Session.Responses
import VoxRtc.TypeScript.Session.Join
import VoxRtc.Rust.Session.Responses
import VoxRtc.Go.Session.Responses
import VoxRtc.Go.Session.Decline
import VoxRtc.Python.Session.Responses
import VoxRtc.Responses.Agreement
import VoxRtc.Rust.Session.TextResponses
import VoxRtc.Rust.Session.Events
import VoxRtc.Rust.Session.Supervision
import VoxRtc.Rust.Session.Reconnect
import VoxRtc.Transcripts.SpeechContext
import VoxRtc.Transcripts.Handwritten
import VoxRtc.TypeScript.Session.SpeechContext
import VoxRtc.Responses.Waits
import VoxRtc.TypeScript.Session.Waits
import VoxRtc.Rust.Session.SpeechContext
import VoxRtc.Rust.Session.Schema
import VoxRtc.Go.Session.SpeechContext
import VoxRtc.Python.Session.SpeechContext
import VoxRtc.Python.Session.Waits
import VoxRtc.Responses.Acknowledged
import VoxRtc.Python.Session.Transcripts
import VoxRtc.Transcripts.Agreement
import VoxRtc.Elixir.Term
import VoxRtc.Elixir.Vox
import VoxRtc.Elixir.SpeechContext
import VoxRtc.Elixir.Protocol
import VoxRtc.Elixir.Session.Process
import VoxRtc.Elixir.Session.Generation
import VoxRtc.Elixir.Session.Waiters
import VoxRtc.Elixir.Session.Ended
import VoxRtc.Correlation.Registry
import VoxRtc.Elixir.Session.Subscribers
import VoxRtc.Elixir.Session.Terminal
import VoxRtc.Elixir.Gateway.Frames
import VoxRtc.Elixir.Gateway.Socket
import VoxRtc.Elixir.Gateway.Survival
import VoxRtc.Elixir.Gateway.Fidelity
import VoxRtc.Elixir.Gateway.Offers
import VoxRtc.Elixir.Gateway.Lifecycle
import VoxRtc.Gateway.Written
import VoxRtc.Gateway.Negotiations
import VoxRtc.Gateway.Candidates
import VoxRtc.Elixir.Session.Tenure
import VoxRtc.Elixir.Client
import VoxRtc.Rust.Session.Waits
import VoxRtc.Go.Session.Events
import VoxRtc.Go.Session.Waits
import VoxRtc.Correlation.Relay
import VoxRtc.Browser.Texts
import VoxRtc.Browser.Meant
import VoxRtc.Browser.Conversation
import VoxRtc.Browser.Relay.Dialects
import VoxRtc.Browser.Relay.Go
import VoxRtc.Browser.Relay.Elixir
import VoxRtc.Browser.Relay.Answers
import VoxRtc.Browser.OneSocket
import VoxRtc.Browser.OneAttempt
import VoxRtc.Correlation.Names
import VoxRtc.Responses.Generated
import VoxRtc.Clients.Sockets
import VoxRtc.Go.Client
import VoxRtc.Python.Client
import VoxRtc.TypeScript.Client
import VoxRtc.Clients.Ownership
