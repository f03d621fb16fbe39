import VoxRtc.Elixir.Gateway.Frames

/-!
# The socket of the Elixir gateway

The callbacks of `VoxRtcServer.Gateway.Socket`. What the session answers to a call is a
parameter of `handle_in`; a callback that raises or exits has no result.
-/
namespace VoxRtc.Elixir.Gateway

open Wire VoxRtc.Gateway

/-- The state of a socket, short of the hooks. -/
structure Socket where
  session : Nat
  pendingOfferId : Option String := none
  generatedOffer : Bool := false
  rtcCloseRequested : Bool := false
  closed : Bool := false
  closeReason : Option String := none
  deriving DecidableEq

/-- What a callback returns; a stop has the reason of the exit, and of the close frame. -/
inductive Result where
  | ok (s : Socket)
  | push (frame : Json Number) (s : Socket)
  | stop (reason : Term) (code : Nat) (detail : String) (frame : Json Number) (s : Socket)

inductive Incoming where
  | text (payload : String)
  | binary

/-- A message in the mailbox of the socket. -/
inductive Info where
  | voxRtc (session : Nat) (event : Event)
  | other

abbrev Message := VoxRtc.Gateway.ClientMessage Number

abbrev Call := SessionCall IceCandidate

/-- The result of a call on the session; `none` where the caller exits. -/
abbrev Answer := Option (Except Term Unit)

/-- `String.trim/1`. -/
def trim (s : String) : String := trimWith whiteSpace s

def parseMessage (lib : Libraries) (payload : String) : Except CommandError Message :=
  match lib.decode payload with
  | .error _ => .error (.plain "RTC gateway message must be valid JSON")
  | .ok value =>
    let members := value.object?.getD []
    match (members.get? "id").bind Json.str?, (members.get? "type").bind Json.str?,
      (members.get? "data").bind Json.object? with
    | some id, some type, some data =>
      if id = "" ∨ type = "" then
        .error (.plain "RTC gateway message requires id, type, and object data")
      else .ok ⟨trim id, trim type, data⟩
    | _, _, _ => .error (.plain "RTC gateway message requires id, type, and object data")

def generation (data : Members Number) (command : String) (required : Bool) :
    Except CommandError (Option Nat) :=
  match data.get? "generation" with
  | none =>
    if required then
      .error (.invalid s!"{command} requires generation for a generated RTC negotiation")
    else .ok none
  | some (.num (.int n)) =>
    if 0 < n ∧ n ≤ maxSafeInteger then .ok (some n.toNat)
    else .error (.invalid s!"{command} generation must be a positive safe integer")
  | some _ => .error (.invalid s!"{command} generation must be a positive safe integer")

/-- The SDP text of the offer. -/
def offer (value : Option (Json Number)) : Except CommandError String :=
  let members := (value.bind Json.object?).getD []
  match members.get? "type", members.get? "sdp" with
  | some (.str "offer"), some (.str sdp) =>
    if sdp ≠ "" then .ok sdp else .error (.plain "rtc.offer requires a non-empty SDP offer")
  | _, _ => .error (.plain "rtc.offer requires a non-empty SDP offer")

/-- The candidate, or none at the end of the candidates. -/
def candidate (value : Option (Json Number)) : Except CommandError (Option IceCandidate) :=
  match value with
  | none | some .null => .ok none
  | some value =>
    let members := value.object?.getD []
    match members.get? "candidate", (members.get? "sdpMLineIndex").getD .null with
    | some (.str text), .null => .ok (some ⟨text, (members.get? "sdpMid").bind Json.str?, none,
        (members.get? "usernameFragment").bind Json.str?, none⟩)
    | some (.str text), .num (.int n) =>
      if 0 ≤ n then .ok (some ⟨text, (members.get? "sdpMid").bind Json.str?, some n.toNat,
        (members.get? "usernameFragment").bind Json.str?, none⟩)
      else .error (.plain "rtc.ice_candidate requires a candidate object or null")
    | _, _ => .error (.plain "rtc.ice_candidate requires a candidate object or null")

namespace Socket

/-- `handle_message/2` up to its call on the session. -/
def command (s : Socket) (message : Message) : Except CommandError Call :=
  if message.type = "rtc.offer" then do
    if s.pendingOfferId.isSome then
      throw (.plain "An RTC offer is already pending")
    let generation ← generation message.data "rtc.offer" false
    let sdp ← offer (message.data.get? "offer")
    return .sendOffer sdp ((message.data.get? "restart").any Json.isTrue) generation
  else if message.type = "rtc.ice_candidate" then do
    let generation ← generation message.data "rtc.ice_candidate" s.generatedOffer
    let candidate ← candidate (message.data.get? "candidate")
    return .sendIceCandidate candidate generation
  else if message.type = "rtc.close" then
    return .closeRtc (((message.data.get? "reason").bind Json.str?).getD "client_closed")
  else
    let type := message.type
    .error (.plain s!"Unsupported RTC gateway message type: {type}")

/-- The message that a frame holds, and the call that it asks for. -/
def asks (s : Socket) (lib : Libraries) : Incoming → Option (Message × Call)
  | .text payload => do
    let message ← (parseMessage lib payload).toOption
    let call ← (s.command message).toOption
    return (message, call)
  | .binary => none

/-- The state after a call that has succeeded. -/
def called (s : Socket) (id : String) : Call → Socket
  | .sendOffer _ _ generation =>
    { s with pendingOfferId := some id, generatedOffer := generation.isSome }
  | .sendIceCandidate .. => s
  | .closeRtc reason =>
    { s with rtcCloseRequested := true, closed := true, closeReason := some reason }

/-- The id of the error frame when a call has failed; a close has none. -/
def failureId (id : String) : Call → Option String
  | .closeRtc _ => none
  | _ => some id

def refuse (s : Socket) (id : Option String) (error : Term × Term) : Option Result :=
  (gatewayError id error.1 error.2).map (.push · s)

/-- A message and a code of the gateway's own. -/
def refusal (error : CommandError) : Term × Term :=
  (.text error.message, if error.typed then .text "command_invalid" else .nil)

def handleMessage (s : Socket) (lib : Libraries) (message : Message) (answer : Call → Answer) :
    Option Result :=
  match s.command message with
  | .error error => s.refuse (some message.id) (refusal error)
  | .ok call => match answer call with
    | none => none
    | some (.ok ()) => some (.ok (s.called message.id call))
    | some (.error reason) => s.refuse (failureId message.id call) (normalizeError lib reason)

def handleIn (s : Socket) (lib : Libraries) (answer : Call → Answer) : Incoming → Option Result
  | .text payload => match parseMessage lib payload with
    | .error error => s.refuse none (refusal error)
    | .ok message => s.handleMessage lib message answer
  | .binary => s.refuse none (refusal (.plain "RTC gateway accepts text JSON only"))

end Socket

/-- `List.to_string/1`: code points and texts, in lists of lists. -/
def chardata : Term → Option String
  | .number (.int n) =>
    if 0 ≤ n ∧ n.toNat.isValidChar then some (Char.ofNat n.toNat).toString else none
  | .text s => some s
  | .bytes b => String.fromUTF8? b
  | .list items => ofItems items
  | _ => none
where
  ofItems : List Term → Option String
    | [] => some ""
    | item :: items => do return (← chardata item) ++ (← ofItems items)

/-- `Kernel.to_string/1` of what has been encoded; `none` where it raises. -/
def toText (lib : Libraries) : Term → Option String
  | .nil => some ""
  | .bool b => some (if b then "true" else "false")
  | .number (.int n) => some (toString n)
  | .number (.float x) => some (lib.floatText x)
  | .atom name => some name
  | .text s => some s
  | .bytes b => String.fromUTF8? b
  | .list items => chardata (.list items)
  | _ => none

/-- `Map.get(data, "reason", "session_closed") |> to_string()`. -/
def reasonText (lib : Libraries) : Term → Option String
  | .map members => toText lib ((SpeechContext.fetch members "reason").getD (.text "session_closed"))
  | _ => none

/-- The frames that answer the offer that is pending. -/
def answersOffer (type : String) : Bool := type = "rtc.answer" || type = "rtc.signaling_error"

namespace Socket

/-- The id that a frame of some type is sent with. -/
def requestId (s : Socket) (type : String) : Option String :=
  if answersOffer type then s.pendingOfferId else none

def answered (s : Socket) (type : String) : Socket :=
  if answersOffer type then { s with pendingOfferId := none } else s

/-- A frame is pushed, and ends the connection when the session has closed. -/
def pushed (s : Socket) (lib : Libraries) (type : String) (data : Term) (frame : Json Number) :
    Option Result :=
  if type = "rtc.session.closed" then
    (reasonText lib data).map fun reason => .stop (.atom "normal") 1000 reason frame
      { s with rtcCloseRequested := true, closed := true, closeReason := some reason }
  else some (.push frame s)

def handleEvent (s : Socket) (lib : Libraries) (event : Event) : Option Result := do
  let (type, data) ← wireEvent event
  let frame ← text type data (s.requestId type)
  (s.answered type).pushed lib type data frame

def handleInfo (s : Socket) (lib : Libraries) : Info → Option Result
  | .voxRtc session event => if session = s.session then s.handleEvent lib event else some (.ok s)
  | .other => some (.ok s)

end Socket

def terminateReason (lib : Libraries) : Term → String
  | .atom "remote" => "browser_disconnected"
  | .atom "normal" => "client_closed"
  | .atom "shutdown" => "gateway_shutdown"
  | .atom "timeout" => "browser_timeout"
  | reason =>
    let inspected := lib.inspect reason
    s!"gateway_error:{inspected}"

/-- What `terminate/2` closes the session with, if it does, and what the hook is told. -/
def Socket.terminate (s : Socket) (lib : Libraries) (reason : Term) : Option String × String :=
  if s.closed then (none, s.closeReason.getD (terminateReason lib reason))
  else (some (terminateReason lib reason), terminateReason lib reason)

end VoxRtc.Elixir.Gateway
