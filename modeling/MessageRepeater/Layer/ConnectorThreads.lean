import MessageRepeater.Foundation.Runs
import MessageRepeater.Ingress.JsonRequests
import MessageRepeater.Layer.ReplayWork

/-!
# The threads of the layer connector

The `layer_replay_work` threads of a process and their ping threads, step by step: each system call, each
use of the flag `socket_disconnected`, and the descriptor table that they share with the rest of the process.
What a thread does with a frame that it has read is one step here, that is in the model of one thread
against its upstream.
-/

namespace MessageRepeater.Layer.Connector
open Foundation Combiner Connection Subscriber

/-- `layer_replay_work`, behind the parsing of its address. `offset` is how much of the request has been sent. -/
inductive WorkerPc where
  | sleep
  | connect
  | setReadTimeout
  | setWriteTimeout
  | subscribe (offset : Nat)
  | response
  | giveUp
  | startPing
  | loopTest
  | read
  | relay (topic : Topic) (body : Bytes)
  | setFlag
  | shutdown
  | join
  | close
  deriving DecidableEq, Repr

/-- The ping thread. `i` counts the naps of half a second. -/
inductive PingPc where
  | absent
  | nap (i : Nat)
  | flagTest (i : Nat)
  | send (offset : Nat)
  | setFlag
  | shutdown
  | exited
  deriving DecidableEq, Repr

/-- A worker with its ping thread. The flag is a variable of one turn of the worker's loop, `none` where it
is not in scope, and `pingFd` the copy of `client_fd` that the ping thread has. `socket` is the socket that
the worker has opened in this turn; no step reads it. -/
structure Worker where
  pc : WorkerPc := .sleep
  clientFd : Nat := 0
  socketDisconnected : Option Bool := none
  ping : PingPc := .absent
  pingFd : Nat := 0
  socket : Nat := 0
  deriving DecidableEq, Repr

/-- `descriptors` tells which socket a number stands for. Sockets are numbered as they are made; whose they
are, what the kernel has taken on each and whether it is shut down is not read by any step. -/
structure State where
  workers : Nat → Worker := fun _ => {}
  descriptors : Nat → Option Nat := fun _ => none
  made : Nat := 0
  owner : Nat → Option Nat := fun _ => none
  wire : Nat → Bytes := fun _ => []
  shutDown : Nat → Bool := fun _ => false

def initial : State := {}

/-- A worker gets a socket, a call of a worker or of a ping thread returns, or another thread of the process
opens or closes a descriptor, sends on one or shuts one down. -/
inductive Action where
  | socket (w fd : Nat)
  | worker (w : Nat) (outcome : CallOutcome)
  | read (w : Nat) (events : List RecvEvent)
  | ping (w : Nat) (outcome : CallOutcome)
  | otherOpen (fd : Nat)
  | otherClose (fd : Nat)
  | otherSend (fd : Nat) (bytes : Bytes)
  | otherShutdown (fd : Nat)
  deriving DecidableEq, Repr

/-! ### Calls -/

def State.set (s : State) (w : Nat) (worker : Worker) : State :=
  { s with workers := fun v => if v = w then worker else s.workers v }

def State.goWorker (s : State) (w : Nat) (pc : WorkerPc) : State :=
  s.set w { s.workers w with pc }

def State.goPing (s : State) (w : Nat) (ping : PingPc) : State :=
  s.set w { s.workers w with ping }

/-- A new socket under the number `fd`. -/
def State.make (s : State) (fd : Nat) (owner : Option Nat) : State :=
  { s with
    descriptors := fun n => if n = fd then some s.made else s.descriptors n
    made := s.made + 1
    owner := fun socket => if socket = s.made then owner else s.owner socket }

def State.close (s : State) (fd : Nat) : State :=
  { s with descriptors := fun n => if n = fd then none else s.descriptors n }

/-- What `send` leaves of the call on a number. -/
def State.accept (s : State) (fd : Nat) (bytes : Bytes) : State :=
  { s with wire := fun socket => if s.descriptors fd = some socket then s.wire socket ++ bytes else s.wire socket }

def State.shut (s : State) (fd : Nat) : State :=
  { s with shutDown := fun socket => s.shutDown socket || decide (s.descriptors fd = some socket) }

/-- A store to the flag. -/
def State.disconnect (s : State) (w : Nat) : State :=
  s.set w { s.workers w with socketDisconnected := (s.workers w).socketDisconnected.map fun _ => true }

/-- A turn of `sendSocketFrameBlocking` ends it, or leaves an offset. -/
inductive SendTurn where
  | goesOn (offset : Nat)
  | sent
  | failed
  deriving DecidableEq, Repr

/-- The kernel takes nothing on a number that stands for nothing. -/
def sendTurn (s : State) (fd : Nat) (frame : Bytes) (offset : Nat) : CallOutcome → Option (State × SendTurn)
  | .accepted count =>
    if 0 < count ∧ offset + count ≤ frame.length ∧ (s.descriptors fd).isSome then
      some (s.accept fd ((frame.drop offset).take count),
        if offset + count < frame.length then .goesOn (offset + count) else .sent)
    else none
  | .interrupted => some (s, .goesOn offset)
  | _ => some (s, .failed)

/-! ### The worker -/

def subscribeRequest (context : GlobalContext) : Bytes :=
  encodeSocketFrame messageOpSubscribe (Ingress.serializeTopics context.layerSubscribeTopics)

def State.afterRequest (s : State) (w : Nat) : SendTurn → State
  | .goesOn offset => s.goWorker w (.subscribe offset)
  | .sent => s.goWorker w .response
  | .failed => s.goWorker w .giveUp

def workerStep (context : GlobalContext) (s : State) (w : Nat) (outcome : CallOutcome) : Option State :=
  let worker := s.workers w
  match worker.pc with
  | .sleep => if outcome = .failed then some s else none
  | .connect => some (s.goWorker w (if outcome = .failed then .giveUp else .setReadTimeout))
  | .setReadTimeout => some (s.goWorker w (if outcome = .failed then .giveUp else .setWriteTimeout))
  | .setWriteTimeout => some (s.goWorker w (if outcome = .failed then .giveUp else .subscribe 0))
  | .subscribe offset =>
    (sendTurn s worker.clientFd (subscribeRequest context) offset outcome).map fun (s, turn) => s.afterRequest w turn
  | .giveUp => some ((s.close worker.clientFd).goWorker w .sleep)
  | .startPing =>
    some
      (s.set w
        { worker with
          pc := .loopTest
          socketDisconnected := some false
          ping := .nap 0
          pingFd := worker.clientFd })
  | .loopTest => some (s.goWorker w (if worker.socketDisconnected = some true then .setFlag else .read))
  | .relay _ _ => some (s.goWorker w .loopTest)
  | .setFlag => some ((s.disconnect w).goWorker w .shutdown)
  | .shutdown => some ((s.shut worker.clientFd).goWorker w .join)
  | .join => if worker.ping = .exited then some (s.set w { worker with pc := .close, ping := .absent }) else none
  | .close =>
    some ((s.close worker.clientFd).set w { worker with pc := .sleep, socketDisconnected := none })
  | .response | .read => none

/-- The calls of `read_socket_frame`, for the response and in the reading loop. -/
def readStep (context : GlobalContext) (s : State) (w : Nat) (events : List RecvEvent) : Option State :=
  match (s.workers w).pc with
  | .response =>
    some
      (match (readSocketFrame events).1 with
      | none => s.goWorker w .giveUp
      | some frame =>
        if frame.1 ≠ messageOpSubscribe then s.goWorker w .giveUp
        else if ascii "ok" <:+: frame.2 then s.goWorker w .startPing
        else s.goWorker w .giveUp)
  | .read =>
    some
      (match (readSocketFrame events).1 with
      | none => s.goWorker w .setFlag
      | some frame =>
        match relayed context frame.1 frame.2 with
        | none => s.goWorker w .loopTest
        | some (topic, body) => s.goWorker w (.relay topic body))
  | _ => none

/-! ### The ping thread -/

/-- `LAYER_PING_INTERVAL_SECONDS * 2`. -/
def naps : Nat := 20

def State.afterPing (s : State) (w : Nat) : SendTurn → State
  | .goesOn offset => s.goPing w (.send offset)
  | .sent => s.goPing w (.nap 0)
  | .failed => s.goPing w .setFlag

def pingStep (s : State) (w : Nat) (outcome : CallOutcome) : Option State :=
  let worker := s.workers w
  match worker.ping with
  | .nap i => some (s.goPing w (.flagTest i))
  | .flagTest i =>
    some
      (s.goPing w
        (if worker.socketDisconnected = some true then .exited
        else if i + 1 < naps then .nap (i + 1)
        else .send 0))
  | .send offset =>
    (sendTurn s worker.pingFd pingFrame offset outcome).map fun (s, turn) => s.afterPing w turn
  | .setFlag => some ((s.disconnect w).goPing w .shutdown)
  | .shutdown => some ((s.shut worker.pingFd).goPing w .exited)
  | .absent | .exited => none

def step (context : GlobalContext) (s : State) : Action → Option State
  | .socket w fd =>
    if (s.workers w).pc = .sleep ∧ s.descriptors fd = none then
      some ((s.make fd (some w)).set w { s.workers w with pc := .connect, clientFd := fd, socket := s.made })
    else none
  | .worker w outcome => workerStep context s w outcome
  | .read w events => readStep context s w events
  | .ping w outcome => pingStep s w outcome
  | .otherOpen fd => if s.descriptors fd = none then some (s.make fd none) else none
  | .otherClose fd => some (s.close fd)
  | .otherSend fd bytes => some (s.accept fd bytes)
  | .otherShutdown fd => some (s.shut fd)

/-- The rest of the process closes no descriptor of a worker and sends nothing on it. -/
def Foreign (s : State) : Action → Prop
  | .otherClose fd | .otherSend fd _ => (s.descriptors fd).bind s.owner = none
  | _ => True

instance (s : State) (action : Action) : Decidable (Foreign s action) :=
  match action with
  | .otherClose fd | .otherSend fd _ => inferInstanceAs (Decidable ((s.descriptors fd).bind s.owner = none))
  | .socket _ _ | .worker _ _ | .read _ _ | .ping _ _ | .otherOpen _ | .otherShutdown _ => .isTrue trivial

/-! ### What the threads use -/

/-- The number that the worker's next call is about. -/
def Worker.calls (worker : Worker) : Option Nat :=
  match worker.pc with
  | .sleep | .startPing | .loopTest | .relay _ _ | .setFlag | .join => none
  | _ => some worker.clientFd

/-- The number that the ping thread's next call is about. -/
def Worker.pingCalls (worker : Worker) : Option Nat :=
  match worker.ping with
  | .send _ | .shutdown => some worker.pingFd
  | _ => none

/-- The worker or its ping thread is about to read or set the flag. -/
def Worker.UsesFlag (worker : Worker) : Prop :=
  worker.pc = .loopTest ∨ worker.pc = .setFlag ∨ worker.ping = .setFlag ∨ ∃ i, worker.ping = .flagTest i

end MessageRepeater.Layer.Connector
