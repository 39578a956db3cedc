import Mathlib.Logic.Function.Basic
import SubnetRouter.Dns.Cache
import SubnetRouter.Lib.Run
import SubnetRouter.Net.Ip4

namespace SubnetRouter.Dns

open Lib

/-!
# The DNS relay

One listener, a queue, and two workers with an upstream socket each.  A worker keeps its socket
from one query to the next, also after a timeout, and relays the first datagram it reads
without looking at it.  The upstream is a relation between queries and answers; the network
delivers any answer to anything ever sent from a socket's port, at any time and any number of
times.

* `Relay.step` — one step of the listener, of a worker or of the network.
* `OwnReply` — the first datagram that a waiting worker will read answers the query it sent.
* `relay_sound` — under this condition every answer relayed, cached or served from the cache
  is the right one.
-/

/-- `DNS_WORKER_COUNT`, `DNS_WORK_QUEUE_DEPTH`, `DNS_RELAY_TX_RETRIES`. -/
def dnsWorkerCount : Nat := 2

def dnsWorkQueueDepth : Nat := 8

def dnsRelayTxRetries : Nat := 4

/-! ### State -/

/-- `struct sockaddr_in`. -/
structure SockAddr where
  ip : Ip4
  port : UInt16
deriving DecidableEq, Repr

/-- `dns_work_t`. -/
structure Work where
  client : SockAddr
  q : List UInt8
deriving DecidableEq, Repr

/-- A worker's upstream socket: its port, and what it has received and not yet handed over. -/
structure UpSocket where
  port : Nat
  received : List (List UInt8)
deriving DecidableEq, Repr

/-- Where `worker_task` stands in its loop: before each call that may fail, block, or meet what
    another task has written. -/
inductive WorkerPhase where
  /-- At `xQueueReceive`. -/
  | idle
  | opening (w : Work)
  | picking (w : Work)
  | sending (w : Work) (attempt : Nat)
  | receiving (w : Work)
  | relaying (w : Work) (rlen : Nat)
  | caching (w : Work) (rlen : Nat)
deriving DecidableEq, Repr

/-- A worker: `up`, `rbuf` and its place in the loop. The socket stays open from one query to the
    next. -/
structure Worker where
  up : Option UpSocket
  rbuf : List UInt8
  phase : WorkerPhase
deriving DecidableEq, Repr

/-- A datagram sent to a client, with the query it is the response to. The query is kept for the
    statements only. -/
structure Response where
  client : SockAddr
  query : List UInt8
  datagram : List UInt8
deriving DecidableEq, Repr

/-- The relay; and for the record, what was sent upstream (port and query), what clients asked,
    and what they were sent by workers and from the cache. -/
structure Relay where
  cache : Cache
  queue : List Work
  workers : Nat → Worker
  sent : List (Nat × List UInt8)
  asked : List (SockAddr × List UInt8)
  relayed : List Response
  hits : List Response

/-! ### Steps -/

/-- What one `sendto` returns: the length, `ENOMEM` or `EAGAIN`, or another error. -/
inductive SendResult where
  | sent
  | busy
  | failed
deriving DecidableEq, Repr

/-- What `recvfrom` returns: a timeout, another error, or a datagram; for an empty one, whether
    the `errno` left over closes the socket. -/
inductive RecvResult where
  | timeout
  | failed
  | datagram (closes : Bool)
deriving DecidableEq, Repr

/-- A step of a worker. What the calls return comes with it, so that every outcome is covered. -/
inductive WorkerAction where
  | take
  /-- `socket`, if there is none: the port, or a failure. -/
  | openSocket (port : Option Nat)
  /-- `pick_upstream`; `0` for none. -/
  | pickUpstream (upstream : Ip4)
  | send (r : SendResult)
  | recv (r : RecvResult)
  /-- Whether the listening socket is open. -/
  | relay (listening : Bool)
  | cacheAnswer (now : Nat)
deriving DecidableEq, Repr

/-- A step of the system: the listener, the network, or one of the workers, in any order. -/
inductive Action where
  /-- The listener reads a datagram; whether a work item can be allocated. -/
  | listen (client : SockAddr) (datagram : List UInt8) (now : Nat) (allocated : Bool)
  /-- The network delivers a datagram to a worker's socket. -/
  | deliver (i : Nat) (datagram : List UInt8)
  | worker (i : Nat) (a : WorkerAction)
deriving DecidableEq, Repr

namespace Relay

/-- Worker `i` goes on. -/
def setWorker (s : Relay) (i : Nat) (wk : Worker) : Relay :=
  { s with workers := Function.update s.workers i wk }

/-- A worker frees its work item and goes back to the queue. -/
def rest (s : Relay) (i : Nat) : Relay := s.setWorker i { s.workers i with phase := .idle }

/-- It closes its socket first. -/
def closeAndRest (s : Relay) (i : Nat) : Relay :=
  s.setWorker i { s.workers i with up := none, phase := .idle }

/-- A worker goes on to another phase. -/
def goto (s : Relay) (i : Nat) (ph : WorkerPhase) : Relay :=
  s.setWorker i { s.workers i with phase := ph }

/-- One turn of `listener_task`, with an open socket. A hit of the cache is answered at once,
    everything else goes to the workers. -/
def listen (s : Relay) (client : SockAddr) (datagram : List UInt8) (now : Nat)
    (allocated : Bool) : Relay :=
  let q := datagram.take dnsRelayBufSize
  if q = [] then s
  else
    let s := { s with asked := (client, datagram) :: s.asked }
    let kl := keyLen q
    match if 0 < kl then cacheGet s.cache q kl now else none with
    | some out => { s with hits := ⟨client, datagram, out⟩ :: s.hits }
    | none =>
      if !allocated then s
      -- a full queue drops the query
      else if s.queue.length < dnsWorkQueueDepth then
        { s with queue := s.queue ++ [⟨client, q⟩] }
      else s

/-- The network delivers an answer to something sent from the socket's port. It may come late, after
    the worker has given its query up. -/
def deliver (answers : List UInt8 → List UInt8 → Bool) (s : Relay) (i : Nat)
    (datagram : List UInt8) : Option Relay :=
  match (s.workers i).up with
  | none => none
  | some sock =>
    if s.sent.any fun x => x.1 == sock.port && answers x.2 datagram then
      some (s.setWorker i { s.workers i with
        up := some { sock with received := sock.received ++ [datagram] } })
    else none

/-- `sendto` of the query to the upstream. A full network buffer is tried again a few times, any
    other error closes the socket. -/
def send (s : Relay) (i : Nat) (w : Work) (attempt : Nat) (sock : UpSocket) : SendResult → Relay
  | .sent => { s with sent := (sock.port, w.q) :: s.sent }.goto i (.receiving w)
  | .busy =>
    if attempt + 1 < dnsRelayTxRetries then s.goto i (.sending w (attempt + 1))
    else s.closeAndRest i
  | .failed => s.closeAndRest i

/-- `recvfrom` into `rbuf`: a timeout needs an empty socket, a datagram is the oldest one. The first
    datagram is taken, whatever it is the answer to. -/
def recv (s : Relay) (i : Nat) (w : Work) (sock : UpSocket) : RecvResult → Option Relay
  -- the socket stays open, and with it whatever still arrives for the old query
  | .timeout => if sock.received = [] then some (s.rest i) else none
  | .failed => some (s.closeAndRest i)
  | .datagram closes =>
    match sock.received with
    | [] => none
    | d :: later =>
      let read := d.take dnsRelayBufSize
      if read.length = 0 then
        if closes then some (s.closeAndRest i)
        else some (s.setWorker i
          { s.workers i with up := some { sock with received := later }, phase := .idle })
      else
        some (s.setWorker i
          { up := some { sock with received := later }
            rbuf := read ++ (s.workers i).rbuf.drop read.length
            phase := .relaying w read.length })

/-- `sendto` through the listening socket. The answer is not looked at before it goes to the
    client. -/
def relay (s : Relay) (i : Nat) (w : Work) (rlen : Nat) (listening : Bool) : Relay :=
  let s := s.goto i (.caching w rlen)
  if listening then
    { s with relayed := ⟨w.client, w.q, (s.workers i).rbuf.take rlen⟩ :: s.relayed }
  else s

/-- The answer goes into the cache if it can: under the question of the query, with the time to live
    of its own records. -/
def cacheAnswer (s : Relay) (i : Nat) (w : Work) (rlen now : Nat) : Relay :=
  let rbuf := (s.workers i).rbuf
  let kl := keyLen w.q
  let ttl := dnsRespTtl rbuf rlen kl
  let s := s.rest i
  if 0 < kl ∧ ttl ≠ 0 then { s with cache := cachePut s.cache w.q kl (rbuf.take rlen) ttl now }
  else s

/-- One step of worker `i` through `worker_task`. An action that does not fit its place is not
    possible. -/
def workerStep (s : Relay) (i : Nat) (a : WorkerAction) : Option Relay :=
  match (s.workers i).phase, a with
  | .idle, .take =>
    match s.queue with
    | [] => none
    | w :: queue => some ({ s with queue := queue }.goto i (.opening w))
  | .opening w, .openSocket port =>
    match (s.workers i).up, port with
    | some _, _ => some (s.goto i (.picking w))
    | none, none => some (s.rest i)
    | none, some port =>
      some (s.setWorker i { s.workers i with up := some ⟨port, []⟩, phase := .picking w })
  | .picking w, .pickUpstream upstream =>
    if upstream = 0 then some (s.rest i) else some (s.goto i (.sending w 0))
  | .sending w attempt, .send r =>
    match (s.workers i).up with
    | none => none
    | some sock => some (s.send i w attempt sock r)
  | .receiving w, .recv r =>
    match (s.workers i).up with
    | none => none
    | some sock => s.recv i w sock r
  | .relaying w rlen, .relay listening => some (s.relay i w rlen listening)
  | .caching w rlen, .cacheAnswer now => some (s.cacheAnswer i w rlen now)
  | _, _ => none

/-- One step of the system. -/
def step (answers : List UInt8 → List UInt8 → Bool) (s : Relay) : Action → Option Relay
  | .listen client datagram now allocated => some (s.listen client datagram now allocated)
  | .deliver i datagram => s.deliver answers i datagram
  | .worker i a => if i < dnsWorkerCount then s.workerStep i a else none

/-- The machine of all its runs. -/
def machine (answers : List UInt8 → List UInt8 → Bool) : Machine Relay Action :=
  ⟨fun s a => s.step answers a⟩

/-- After `dns_relay_init`: an empty cache, if there is one, and nothing under way. A cache that
    could not be allocated stays off. -/
structure Started (s : Relay) : Prop where
  cache : s.cache = Cache.empty ∨ s.cache = none
  queue : s.queue = []
  workers : ∀ i, (s.workers i).up = none ∧ (s.workers i).phase = .idle
  sent : s.sent = []
  asked : s.asked = []
  relayed : s.relayed = []
  hits : s.hits = []

end Relay

end SubnetRouter.Dns
