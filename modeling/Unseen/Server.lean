import Unseen.Codec
import Unseen.Machine
import Unseen.Registry

namespace Unseen.Server

open Codec

/-!
# The server

The handlers of the relay server, as functions on its state: the room registry,
the connections with their data, and the count of admitted connections.  An
event of the server is one callback of the runtime: a connection opens, sends
a frame, closes or misses its deadline for HELLO, time passes, the sweeper
runs.

The runtime decides what each send returns, whether the close callback of a
connection runs inside `ws.close` or later, what the limiter of the client's
address answers, and how much the peer of a sender has buffered.  These choices
come with the event.
-/

/-! ## Configuration and limits -/

structure RelayBucketConfig where
  limit : Rat
  refillPerSec : Rat

structure Config where
  maxConnections : Nat
  relayBucket : RelayBucketConfig
  gracePeriodMs : Millis

/-- `GRACE_MS_HINT` -/
def graceMsHint : Rat := 5 * 60 * 1000

/-- `MAX_HANDSHAKE_FORWARDS` -/
def maxHandshakeForwards : Nat := 1

/-- `HELLO_DEADLINE_MS` -/
def helloDeadlineMs : Millis := 5000

/-- `PEER_BUFFER_CAP_BYTES` -/
def peerBufferCapBytes : Nat := 8388608

/-- `INITIATOR_WAIT_TIMEOUT_MS` -/
def initiatorWaitTimeoutMs : Millis := 5 * 60 * 1000

/-! ## Connections -/

structure RelayBucket where
  tokens : Rat
  lastRefillMs : Millis
  deriving DecidableEq, Repr

def createRelayBucket (config : RelayBucketConfig) (now : Millis) : RelayBucket where
  tokens := config.limit
  lastRefillMs := now

def consumeRelayToken
    (bucket : RelayBucket)
    (config : RelayBucketConfig)
    (now : Millis) : Bool × RelayBucket :=
  let elapsedSec := (now - bucket.lastRefillMs) / 1000
  let refilled := min config.limit (bucket.tokens + elapsedSec * config.refillPerSec)
  if refilled < 1 then
    (false, { tokens := refilled, lastRefillMs := now })
  else
    (true, { tokens := refilled - 1, lastRefillMs := now })

inductive ConnectionState where
  | pendingHello
  | waitingForPeer
  | paired
  deriving DecidableEq, Repr

/-- `helloTimer` is the time at which the pending timer fires. -/
structure ConnectionData where
  state : ConnectionState
  roomId : Option RoomId
  role : Option Role
  admitted : Bool
  helloTimer : Option Millis
  relayBucket : RelayBucket
  handshakeForwards : Nat
  deriving DecidableEq, Repr

def createInitialConnectionData (config : Config) (now : Millis) : ConnectionData where
  state := .pendingHello
  roomId := none
  role := none
  admitted := false
  helloTimer := none
  relayBucket := createRelayBucket config.relayBucket now
  handshakeForwards := 0

/-- A WebSocket with the data attached to it.  It is closed from the first
`ws.close`, or from its close callback if the other end closed it. -/
structure Socket where
  data : ConnectionData
  closed : Bool
  closeRan : Bool
  deriving DecidableEq, Repr

/-! ## What handlers do -/

inductive SendStatus where
  | sent
  | queued
  | dropped
  deriving DecidableEq, Repr

/-- `classify` -/
def classify (returned : Int) : SendStatus :=
  if returned = 0 then
    .dropped
  else if returned < 0 then
    .queued
  else
    .sent

inductive CloseReason where
  | error (code : ErrorCode)
  | ackDropped
  | peerJoinedDropped
  | peerBufferOverflow
  | timeout
  | graceExpired
  deriving DecidableEq, Repr

inductive Act where
  | send (ws : Conn) (frame : Bytes) (status : SendStatus)
  | close (ws : Conn) (code : Nat) (reason : CloseReason)
  deriving DecidableEq, Repr

/-- The runtime's choices during one event: the results of the sends in order
(an accepted send where the list ends), for each `ws.close` in order whether
the close callback runs inside it, the answer of `ipLimiter.check`, and
`peer.getBufferedAmount()`. -/
structure Oracle where
  sends : List Int
  closes : List Bool
  allowed : Bool
  buffered : Nat

structure State where
  rooms : Registry
  sockets : Conn → Socket
  opened : Nat
  openConnections : Int
  now : Millis
  oracle : Oracle
  out : List Act

namespace State

def data (server : State) (ws : Conn) : ConnectionData :=
  (server.sockets ws).data

def modifySocket (server : State) (ws : Conn) (change : Socket → Socket) : State :=
  { server with
    sockets := fun other => if other = ws then change (server.sockets ws) else server.sockets other }

def modifyData (server : State) (ws : Conn) (change : ConnectionData → ConnectionData) :
    State :=
  server.modifySocket ws fun socket => { socket with data := change socket.data }

def act (server : State) (action : Act) : State :=
  { server with out := server.out ++ [action] }

def safeSend (server : State) (ws : Conn) (frame : Bytes) : SendStatus × State :=
  let status := classify (server.oracle.sends.headD 1)
  (status,
    { server with oracle.sends := server.oracle.sends.tail }.act (.send ws frame status))

def clearHelloTimer (server : State) (ws : Conn) : State :=
  server.modifyData ws fun data => { data with helloTimer := none }

/-- PEER_DISCONNECTED with the hint the server gives. -/
def peerDisconnectedFrame : Bytes :=
  (encodePeerDisconnected graceMsHint).getD []

/-! ## Closing -/

def handleClose (server : State) (ws : Conn) : State :=
  let server := server.clearHelloTimer ws
  match (server.data ws).roomId with
  | none => server
  | some roomId =>
      match server.rooms.get roomId with
      | none => server
      | some room =>
          let (result, room, rooms) := Registry.remove server.rooms room ws server.now
          let server := { server with rooms }
          match result with
          | .closed => server
          | .halfOpen =>
              match room.remaining with
              | none => server
              | some remaining =>
                  if remaining = ws then
                    server
                  else
                    (server.safeSend remaining peerDisconnectedFrame).2

/-- The close callback of a connection. -/
def closeCallback (server : State) (ws : Conn) : State :=
  let server :=
    server.modifySocket ws fun socket => { socket with closed := true, closeRan := true }
  let server :=
    if (server.data ws).admitted then
      { server with openConnections := server.openConnections - 1 }
    else
      server
  server.handleClose ws

/-- `ws.close`: the callback runs at most once, inside the call or later. -/
def close (server : State) (ws : Conn) (code : Nat) (reason : CloseReason) : State :=
  let callsBack := server.oracle.closes.headD false
  let server := { server with oracle.closes := server.oracle.closes.tail }
  let server := server.act (.close ws code reason)
  let server := server.modifySocket ws fun socket => { socket with closed := true }
  if callsBack && !(server.sockets ws).closeRan then
    server.closeCallback ws
  else
    server

def closeCodeForError : ErrorCode → Nat
  | .messageTooLarge => 1009
  | .internal => 1011
  | _ => 1008

def sendErrorAndClose (server : State) (ws : Conn) (code : ErrorCode) : State :=
  let server := (server.safeSend ws (encodeError code)).2
  server.close ws (closeCodeForError code) (.error code)

/-! ## HELLO -/

def delete (server : State) (roomId : RoomId) : State :=
  { server with rooms := server.rooms.erase roomId }

/-- The connection enters a room: its data name the room and its slot. -/
def enter
    (server : State)
    (ws : Conn)
    (roomId : RoomId)
    (state : ConnectionState)
    (role : Role) : State :=
  server.modifyData ws fun data => { data with roomId := some roomId, state, role := some role }

def handleCreate (server : State) (ws : Conn) (roomId : RoomId) : State :=
  if !server.oracle.allowed then
    server.sendErrorAndClose ws .rateLimited
  else if (server.rooms.get roomId).isSome then
    server.sendErrorAndClose ws .roomAlreadyExists
  else
    let server := { server with rooms := Registry.create server.rooms roomId ws server.now }
    let server := server.enter ws roomId .waitingForPeer .initiator
    let (status, server) := server.safeSend ws (encodeAck .initiator)
    if status = .dropped then server.delete roomId else server

/-- `handleJoinOrResume` once the slot is taken and the connections' data say
so: the two sends and what follows when one is dropped. -/
def announce
    (server : State)
    (ws : Conn)
    (roomId : RoomId)
    (existing : Room)
    (remaining : Option Conn)
    (slot : Role) : State :=
  let (status, server) := server.safeSend ws (encodeAck slot)
  if status = .dropped then
    let (_, _, rooms) := Registry.remove server.rooms existing ws server.now
    let server := { server with rooms }
    let server :=
      match remaining with
      | none => server
      | some remaining =>
          if remaining = ws then
            server
          else
            (server.close ws 1011 .ackDropped).close remaining 1011 .ackDropped
    server.delete roomId
  else
    match remaining with
    | none => server
    | some remaining =>
        if remaining = ws then
          server
        else
          let (status, server) := server.safeSend remaining encodePeerJoined
          if status = .dropped then
            ((server.close ws 1011 .peerJoinedDropped).close remaining 1011
              .peerJoinedDropped).delete roomId
          else
            server

def handleJoinOrResume
    (server : State)
    (ws : Conn)
    (intent : HelloIntent)
    (roomId : RoomId) : State :=
  if !server.oracle.allowed then
    server.sendErrorAndClose ws .rateLimited
  else
    match server.rooms.get roomId with
    | none => server.sendErrorAndClose ws .roomNotFound
    | some existing =>
        if existing.state = .halfOpen && intent ≠ .resume then
          server.sendErrorAndClose ws .roomFull
        else if !existing.hasFreeSlot then
          server.sendErrorAndClose ws .roomFull
        else
          let remaining := existing.remaining
          match existing.addPeer ws server.now with
          | (none, _) => server.sendErrorAndClose ws .roomFull
          | (some slot, existing) =>
              let server := { server with rooms := server.rooms.set roomId existing }
              let server := server.enter ws roomId .paired slot
              let server :=
                match remaining with
                | none => server
                | some remaining =>
                    server.modifyData remaining fun data => { data with state := .paired }
              server.announce ws roomId existing remaining slot

def handleHello (server : State) (ws : Conn) (frame : HelloFrame) : State :=
  let server := server.clearHelloTimer ws
  if (server.data ws).state ≠ .pendingHello then
    server.sendErrorAndClose ws .badState
  else if frame.protocolVersion ≠ protocolVersion then
    server.sendErrorAndClose ws .unsupportedVersion
  else
    let roomId := hexEncode frame.roomId
    if frame.intent = .create then
      server.handleCreate ws roomId
    else
      server.handleJoinOrResume ws frame.intent roomId

/-! ## HANDSHAKE and RELAY -/

/-- `consumeRelayToken` on the bucket of a connection. -/
def takeToken (config : Config) (server : State) (ws : Conn) : Bool × State :=
  let (granted, bucket) :=
    consumeRelayToken (server.data ws).relayBucket config.relayBucket server.now
  (granted, server.modifyData ws fun data => { data with relayBucket := bucket })

/-- `handleForward` from the check of the peer's buffer on. -/
def forwardTo (server : State) (ws peer : Conn) (roomId : RoomId) (buf : Bytes) : State :=
  if server.oracle.buffered > peerBufferCapBytes then
    ((server.close ws 1011 .peerBufferOverflow).close peer 1011
      .peerBufferOverflow).delete roomId
  else
    let (status, server) := server.safeSend peer buf
    if status = .dropped then
      ((server.sendErrorAndClose ws .internal).sendErrorAndClose peer .internal).delete roomId
    else
      server

/-- `handleForward` from the lookup of the room on. -/
def forward (config : Config) (server : State) (ws : Conn) (buf : Bytes) (type : UInt8) :
    State :=
  match (server.data ws).roomId.bind server.rooms.get with
  | none => server.sendErrorAndClose ws .roomNotFound
  | some room =>
      match room.getPeer ws with
      | none =>
          if room.state = .halfOpen then
            if type = msgHandshake then
              let (granted, server) := takeToken config server ws
              if granted then server else server.sendErrorAndClose ws .rateLimited
            else
              server
          else
            server.sendErrorAndClose ws .internal
      | some peer =>
          if type = msgHandshake then
            if (server.data ws).handshakeForwards ≥ maxHandshakeForwards then
              server.sendErrorAndClose ws .badState
            else
              let server := server.modifyData ws fun data =>
                { data with handshakeForwards := data.handshakeForwards + 1 }
              server.forwardTo ws peer room.roomId buf
          else
            server.forwardTo ws peer room.roomId buf

def handleForward (config : Config) (server : State) (ws : Conn) (buf : Bytes) (type : UInt8) :
    State :=
  if (server.data ws).state ≠ .paired then
    server.sendErrorAndClose ws .badState
  else if buf.length > maxWireBytes then
    server.sendErrorAndClose ws .messageTooLarge
  else if type = msgHandshake ∧ buf.length ≠ handshakeFrameLength then
    server.sendErrorAndClose ws .invalidPayload
  else if type = msgRelay then
    let (granted, server) := takeToken config server ws
    if granted then
      forward config server ws buf type
    else
      server.sendErrorAndClose ws .rateLimited
  else
    forward config server ws buf type

/-! ## Messages and openings -/

/-- What a client sent: text frames are strings, binary frames are bytes. -/
inductive Message where
  | text
  | binary (buf : Bytes)
  deriving DecidableEq, Repr

def handleMessage (config : Config) (server : State) (ws : Conn) : Message → State
  | .text => server.sendErrorAndClose ws .invalidPayload
  | .binary [] => server.sendErrorAndClose ws .invalidPayload
  | .binary (typeByte :: rest) =>
      let buf := typeByte :: rest
      if typeByte = msgHello then
        match decodeClientFrame buf with
        | some (.hello frame) => server.handleHello ws frame
        | _ => server.sendErrorAndClose ws .invalidHello
      else if typeByte = msgHandshake ∨ typeByte = msgRelay then
        handleForward config server ws buf typeByte
      else
        server.sendErrorAndClose ws .invalidPayload

/-- The upgrade of a new connection and its open callback. -/
def openConnection (config : Config) (server : State) : State :=
  let ws := server.opened
  let server :=
    { server with
      opened := server.opened + 1
      sockets := fun other =>
        if other = ws then
          { data := createInitialConnectionData config server.now
            closed := false
            closeRan := false }
        else
          server.sockets other }
  if !server.oracle.allowed then
    server.sendErrorAndClose ws .rateLimited
  else if server.openConnections ≥ (config.maxConnections : Int) then
    server.sendErrorAndClose ws .overCapacity
  else
    { server with openConnections := server.openConnections + 1 }.modifyData ws fun data =>
      { data with admitted := true, helloTimer := some (server.now + helloDeadlineMs) }

/-- The timer of `startHelloTimer` fires. -/
def helloTimerFired (server : State) (ws : Conn) : State :=
  let server := server.clearHelloTimer ws
  if (server.data ws).state = .pendingHello then
    server.sendErrorAndClose ws .helloTimeout
  else
    server

/-! ## The sweeper -/

/--
The body of the loop of `sweepRooms`.  The sweep goes through the rooms as
listed at its start; the slots of a room that left the registry meanwhile are
empty, so there is nothing left to do for it.
-/
def sweepRoom (config : Config) (server : State) (roomId : RoomId) : State :=
  match server.rooms.get roomId with
  | none => server
  | some room =>
      if room.state = .waiting ∧ server.now - room.createdAtMs > initiatorWaitTimeoutMs then
        let server :=
          match room.initiator with
          | none => server
          | some initiator => server.close initiator 1000 .timeout
        server.delete roomId
      else if room.state = .halfOpen ∧
          server.now - room.lastActivityAtMs ≥ config.gracePeriodMs then
        let server :=
          match room.remaining with
          | none => server
          | some remaining =>
              let server := (server.safeSend remaining encodePeerLeft).2
              server.close remaining 1000 .graceExpired
        server.delete roomId
      else
        server

def sweepRooms (config : Config) (server : State) : State :=
  server.rooms.keys.foldl (sweepRoom config) server

end State

/-! ## The machine -/

inductive Event where
  | opens
  | message (ws : Conn) (content : State.Message)
  | closed (ws : Conn)
  | helloTimer (ws : Conn)
  | elapse (span : Millis)
  | sweep

structure Input where
  event : Event
  oracle : Oracle

/-- The close callback runs once for each connection, and no message arrives on
a connection that was closed. -/
def enabled (server : State) (input : Input) : Prop :=
  match input.event with
  | .opens => True
  | .message ws _ => ws < server.opened ∧ (server.sockets ws).closed = false
  | .closed ws => ws < server.opened ∧ (server.sockets ws).closeRan = false
  | .helloTimer ws =>
      ws < server.opened ∧
        (server.data ws).helloTimer.any (fun deadline => deadline ≤ server.now) = true
  | .elapse span => 0 ≤ span
  | .sweep => True

instance decidableEnabled (server : State) :
    (input : Input) → Decidable (enabled server input)
  | ⟨.opens, _⟩ => inferInstanceAs (Decidable True)
  | ⟨.message _ _, _⟩ => inferInstanceAs (Decidable (_ ∧ _))
  | ⟨.closed _, _⟩ => inferInstanceAs (Decidable (_ ∧ _))
  | ⟨.helloTimer _, _⟩ => inferInstanceAs (Decidable (_ ∧ _))
  | ⟨.elapse span, _⟩ => inferInstanceAs (Decidable (0 ≤ span))
  | ⟨.sweep, _⟩ => inferInstanceAs (Decidable True)

def handle (config : Config) (server : State) : Event → State
  | .opens => server.openConnection config
  | .message ws content => server.handleMessage config ws content
  | .closed ws => server.closeCallback ws
  | .helloTimer ws => server.helloTimerFired ws
  | .elapse span => { server with now := server.now + span }
  | .sweep => server.sweepRooms config

/-- The server, one callback a step. -/
def machine (config : Config) : EventMachine.Machine State Input where
  enabled := enabled
  step server input := handle config { server with oracle := input.oracle, out := [] } input.event

instance (config : Config) (server : State) (input : Input) :
    Decidable ((machine config).enabled server input) :=
  decidableEnabled server input

/-- The server after its start. -/
def Started (server : State) : Prop :=
  server.rooms = OrderedMap.empty ∧ server.opened = 0 ∧ server.openConnections = 0

end Unseen.Server
