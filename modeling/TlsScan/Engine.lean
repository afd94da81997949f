import TlsScan.Duration
import TlsScan.Fault
import TlsScan.Protocol

/-!
# The protocol engine

How probes talk to the target: they hand the engine a plan of messages and learn what
happened.

## Main Definitions

* `Engine.Plan` — the messages to send and to expect, in order.
* `Engine.Settings` — the parameters of one connection.
* `Engine.Outcome` — what was received, and how the connection ended.
* `Engine` — anything that runs plans; its state is a type parameter.
* `Engine.Script` — an engine that answers from a list and remembers the calls.
-/

namespace TlsScan

namespace Engine

/-- The messages that a plan can name. -/
inductive MessageKind where
  | clientHello | serverHello | helloVerifyRequest | certificate | serverKeyExchange
  | serverHelloDone | clientKeyExchange | changeCipherSpec | finished | newSessionTicket
  | encryptedExtensions | applicationData | heartbeat | alert
  deriving DecidableEq, Repr, Inhabited

open MessageKind in
instance : Vocabulary MessageKind where
  values :=
    [clientHello, serverHello, helloVerifyRequest, certificate, serverKeyExchange,
     serverHelloDone, clientKeyExchange, changeCipherSpec, finished, newSessionTicket,
     encryptedExtensions, applicationData, heartbeat, alert]
  word
    | clientHello => "ClientHello"
    | serverHello => "ServerHello"
    | helloVerifyRequest => "HelloVerifyRequest"
    | certificate => "Certificate"
    | serverKeyExchange => "ServerKeyExchange"
    | serverHelloDone => "ServerHelloDone"
    | clientKeyExchange => "ClientKeyExchange"
    | changeCipherSpec => "ChangeCipherSpec"
    | finished => "Finished"
    | newSessionTicket => "NewSessionTicket"
    | encryptedExtensions => "EncryptedExtensions"
    | applicationData => "ApplicationData"
    | heartbeat => "Heartbeat"
    | alert => "Alert"
  complete a := by cases a <;> decide
  distinct := by decide

/-! ### Plans -/

/-- One step of a plan. -/
inductive Step where
  | send (kind : MessageKind)
  | receive (kind : MessageKind)
  /-- Accept whatever comes next. -/
  | receiveAny
  | resetConnection
  deriving DecidableEq, Repr

/-- **The steps that the engine should take, in order.** -/
structure Plan where
  steps : List Step
  deriving DecidableEq, Repr, Inhabited

namespace Plan

/-- The plan without steps. -/
def empty : Plan := ⟨[]⟩

/-- Append one step. -/
def andThen (p : Plan) (s : Step) : Plan := ⟨p.steps ++ [s]⟩

/-- The number of steps. -/
def length (p : Plan) : Nat := p.steps.length

/-- Whether there is no step. -/
def isEmpty (p : Plan) : Bool := p.steps.isEmpty

end Plan

/-! ### Settings -/

/-- **The parameters of one connection.** -/
structure Settings where
  version : ProtocolVersion
  /-- The registered number of the cipher suite to offer; none leaves the choice open. -/
  cipherSuite : Option UInt16
  /-- The server name to send. -/
  serverName : Option String
  /-- How much longer than usual to wait. -/
  additionalTimeout : Duration
  /-- Whether to wait longer with every attempt. -/
  increasingTimeout : Bool
  deriving DecidableEq, Repr

namespace Settings

/-- The parameters for a version, with nothing else asked for. -/
def ofVersion (v : ProtocolVersion) : Settings := ⟨v, none, none, .zero, false⟩

/-- Offer one cipher suite. -/
def withCipherSuite (s : Settings) (suite : UInt16) : Settings :=
  { s with cipherSuite := some suite }

/-- Send a server name. -/
def withServerName (s : Settings) (name : String) : Settings :=
  { s with serverName := some name }

end Settings

/-! ### Outcomes -/

/-- The connection after a plan has run. -/
inductive SocketState where
  | up | closed | peerWriteClosed | timeout | ioError
  deriving DecidableEq, Repr, Inhabited

open SocketState in
instance : Vocabulary SocketState where
  values := [up, closed, peerWriteClosed, timeout, ioError]
  word
    | up => "Up"
    | closed => "Closed"
    | peerWriteClosed => "PeerWriteClosed"
    | timeout => "Timeout"
    | ioError => "IoException"
  complete a := by cases a <;> decide
  distinct := by decide

/-- A message that the peer sent. -/
structure Message where
  kind : MessageKind
  /-- What tells it from others of its kind, such as the description of an alert. -/
  detail : Option String
  deriving DecidableEq, Repr

namespace Message

/-- An alert with its description. -/
def alert (description : String) : Message := ⟨.alert, some description⟩

/-- The kind, with the detail between parentheses. -/
def text (m : Message) : String :=
  match m.detail with
  | some detail => Vocabulary.word m.kind ++ "(" ++ detail ++ ")"
  | none => Vocabulary.word m.kind

end Message

/-- **What happened when a plan was run.** -/
structure Outcome where
  /-- The number of steps that took place as planned. -/
  executedSteps : UInt64
  /-- The messages from the peer, in order. -/
  received : List Message
  socketState : SocketState
  deriving DecidableEq, Repr

namespace Outcome

/-- Whether every step of the plan took place. -/
def ranAsPlanned (o : Outcome) (p : Plan) : Bool := p.length ≤ o.executedSteps.toNat

/-- Whether a message of a kind was received. -/
def didReceive (o : Outcome) (k : MessageKind) : Bool := o.received.any fun m => m.kind = k

/-- The last message. -/
def last? (o : Outcome) : Option Message := o.received.getLast?

end Outcome

end Engine

/-! ### Engines -/

/-- **Anything that runs plans.**  `ε` is what it remembers from one call to the next. -/
structure Engine (ε : Type) where
  execute : ε → Engine.Settings → Engine.Plan → Except Fault Engine.Outcome × ε

namespace Engine

/-- One call as it is remembered: the settings, and the number of steps of the plan. -/
structure Call where
  settings : Settings
  planLength : Nat
  deriving DecidableEq, Repr

/-- **Answers prepared in advance**: some to be given once, then others over and over. -/
structure Script where
  first : List (Except Fault Outcome)
  cycle : List (Except Fault Outcome)
  /-- The calls so far, last one first. -/
  calls : List Call := []

namespace Script

/-- The answer to call number `n`. -/
def answer (s : Script) (n : Nat) : Except Fault Outcome :=
  match s.first[n]? with
  | some a => a
  | none =>
    match s.cycle[(n - s.first.length) % s.cycle.length]? with
    | some a => a
    | none => .error ⟨"script ended", []⟩

end Script

/-- The engine that follows a script. -/
def scripted : Engine Script where
  execute s settings plan :=
    (s.answer s.calls.length, { s with calls := ⟨settings, plan.length⟩ :: s.calls })

end Engine

end TlsScan
