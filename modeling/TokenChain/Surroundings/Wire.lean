import TokenChain.Task

/-! # The wire

Requests to endpoints and what becomes of them. The wire answers from a list of replies, used up in
the order in which messages are sent, whoever sends them; when none is left a message fails. A
response comes in two parts, its head and its body, and each of them takes its time: who sends a
message waits for the head, and then for the body.

Who sends a message hands it to a client, and it counts as sent from then on. The client takes any
address: that an address cannot be reached, or is none that the client goes to, is for the reply to
say (`Answer.unreachable`). A message with a control character in a header of its own is never sent.
Who sends it is said by a header of the client, which is none of the message's own. -/

namespace TokenChain

/-- A message to an endpoint; the names of headers are written small and stand in order. -/
structure Message where
  method : String
  url : String
  headers : List (String × String)
  body : Option String
deriving DecidableEq, Repr, Inhabited

/-- What becomes of a message, by what becomes of the body of a response. -/
inductive Answer (β : Type) where
  /-- A response arrives. -/
  | response (status : Nat) (body : β)
  /-- No connection, or one that broke, or none that the client would make. -/
  | unreachable (text : String)
  /-- The connection timed out. -/
  | timedOut (text : String)
deriving Inhabited

/-- The body of a response, which takes its time behind the head: its bytes, or why it cannot be
read. -/
abbrev Body := Delayed (Except String (List UInt8))

/-- A body that is there with the head. -/
def Body.ok (bytes : List UInt8) : Body := ⟨⟨0⟩, some (.ok bytes)⟩

/-- A body that fails as soon as the head is there. -/
def Body.error (text : String) : Body := ⟨⟨0⟩, some (.error text)⟩

/-- What comes of a message first: of a response, the head. -/
abbrev Head := Answer Body

/-- What comes of a message in the end: a response whose body has been read, or cannot be read. -/
abbrev Outcome := Answer (Except String (List UInt8))

/-- What follows a head; only a response has a body. -/
def Head.rest : Head → Delayed Outcome
  | .response status body => ⟨body.delay, body.value.map (.response status)⟩
  | .unreachable text => ⟨⟨0⟩, some (.unreachable text)⟩
  | .timedOut text => ⟨⟨0⟩, some (.timedOut text)⟩

/-- How a message is answered. -/
abbrev Reply := Delayed Head

/-- The replies still to come and the messages sent so far. -/
structure Wire where
  replies : List Reply
  sent : List Message
deriving Inhabited

namespace Wire

/-- Whether a character may not stand in a header. -/
def isIllegal (c : Char) : Bool := (c.toNat < 0x20 && c != '\t') || c.toNat == 0x7F

/-- Whether a message can be sent. -/
def isSendable (m : Message) : Bool :=
  m.headers.all fun h => h.1 == "user-agent" || !h.2.toList.any isIllegal

/-- The wire once a message has been sent. -/
def record (m : Message) (w : Wire) : Wire := ⟨w.replies.drop 1, w.sent ++ [m]⟩

/-- The reply to the next message. -/
def nextReply (w : Wire) : Reply :=
  w.replies.headD ⟨⟨0⟩, some (.unreachable "no scripted response")⟩

/-- Waits for the outcome of a message that is sent at this moment: for the head, and then for what
follows it. The body takes its time from when the head was there, not from when it was seen. -/
def receive (reply : Reply) : Task Wire Outcome :=
  .look fun sent => (reply.await sent.now).bind fun head => head.rest.await (sent.now + reply.delay)

/-- Sends a message and waits for the outcome. -/
def exchange (m : Message) : Task Wire Outcome :=
  if isSendable m then .step (record m) fun w => receive w.nextReply
  else .done (.unreachable "builder error")

/-- How often who sends a message waits at most: for the head and for the body of a response. -/
def patience : Nat := 2

end Wire

end TokenChain
