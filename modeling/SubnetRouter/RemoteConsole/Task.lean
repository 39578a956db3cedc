import Mathlib.Logic.Function.Basic
import SubnetRouter.Lib.Run
import SubnetRouter.Net.Ip4

namespace SubnetRouter.RemoteConsole

open Lib

/-!
# The remote console (`components/remote_console/remote_console.c`)

`remote_console_task` accepts one connection at a time, filters it, asks for the admin
password and hands its lines to `esp_console_run`.  Other tasks enable, disable and kick it
through `rc_state` and `rc_config`.  A step is one access to these, or one return of a call
that waits: between any two of them every other task may run.

* `recvLine` — one step of `recv_line`.
* `taskStep` — one step of `remote_console_task` and of what it calls.
* `callStep` — one step of `remote_console_enable` or `remote_console_disable`.
* `console` — the machine of all interleavings.
-/

/-! ### The shared state -/

/-- A socket: the number of the connection behind it, `none` for `-1`. -/
abbrev Sock := Option Nat

/-- `remote_console_state_t`. -/
inductive RcState where
  | disabled | listening | authWait | active
deriving DecidableEq, Repr

/-- What the console does to a connection, for the record. The code keeps no such list. -/
inductive Event where
  /-- Closed by the Tailnet check or the interface check. -/
  | rejected (fd : Sock)
  /-- `is_web_password_set` has returned. -/
  | checked (fd : Sock) (set : Bool)
  /-- `verify_web_password` has returned; whether a password was configured then. -/
  | verified (fd : Sock) (configured ok : Bool)
  /-- `esp_console_run` is called. -/
  | ran (fd : Sock) (line : List UInt8)
deriving DecidableEq, Repr

/-- The connection that an event is about. A connection that is gone is `none`. -/
def Event.sock : Event → Sock
  | rejected fd => fd
  | checked fd _ => fd
  | verified fd _ _ => fd
  | ran fd _ => fd

/-- `rc_config`, `rc_state` and the admin password; and for the record, the number of the next
    connection and the events so far, newest first. -/
structure Shared where
  enabled : Bool
  bind : BitVec 8
  idleTimeoutSec : Nat
  state : RcState
  serverOpen : Bool
  clientSocket : Sock
  totalConnections : BitVec 32
  failedAuths : BitVec 32
  taskHandle : Option Nat
  sessionTaken : Bool
  kickRequested : Bool
  shutdownRequested : Bool
  passwordSet : Bool
  nextConn : Nat
  log : List Event

def rcBindAp : BitVec 8 := 1
def rcBindSta : BitVec 8 := 2
def rcBindVpn : BitVec 8 := 4

def rcMaxLineLen : Nat := 256
def rcMaxAuthAttempts : Nat := 3

/-- The size of `password_input`, and the seconds to type a password in. -/
def passwordInputLen : Nat := 64
def passwordTimeoutSec : Nat := 60

/-- Record an event. -/
def Shared.record (st : Shared) (e : Event) : Shared := { st with log := e :: st.log }

/-- `close(rc_state.client_socket)`. -/
def Shared.closeClient (st : Shared) : Shared := { st with clientSocket := none }

/-! ### `recv_line` -/

/-- A call of `recv_line`: its arguments, the bytes so far, and whether it is inside `recv`. It is
    inside for as long as the environment has not answered. -/
structure Reader where
  maxLen : Nat
  timeoutSec : Nat
  buf : List UInt8
  inRecv : Bool
deriving DecidableEq, Repr

/-- A call that starts. -/
def Reader.start (maxLen timeoutSec : Nat) : Reader := ⟨maxLen, timeoutSec, [], false⟩

/-- The head of its loop, with whether the time is up; or what `recv` returns. Time only counts at
    the head. -/
inductive ReadStep where
  | poll (timedOut : Bool)
  | wouldBlock
  | failed
  | byte (c : UInt8)
deriving DecidableEq, Repr

/-- Still reading, a line, or one of the three negative results. The last of them is Ctrl+C. -/
inductive LineResult where
  | more (r : Reader)
  | line (l : List UInt8)
  | closed
  | timeout
  | interrupted
deriving DecidableEq, Repr

/-- The bytes that `recv_line` treats on its own: CR, LF, the two backspaces, Ctrl+C and
    Ctrl+D. -/
def recvByte (r : Reader) (c : UInt8) : LineResult :=
  if c = 0x0D then .more { r with inRecv := false }
  else if c = 0x0A then .line r.buf
  else if c = 0x08 ∨ c = 0x7F then .more { r with buf := r.buf.dropLast, inRecv := false }
  else if c = 0x03 then .interrupted
  else if c = 0x04 then .closed
  else if 0x20 ≤ c ∧ c < 0x7F then .more { r with buf := r.buf ++ [c], inRecv := false }
  else .more { r with inRecv := false }

/-- One step of `recv_line`; nothing arrives on a socket that is not there. A buffer that is full
    ends the line before anything else is looked at. -/
def recvLine (st : Shared) (fd : Sock) (r : Reader) : ReadStep → Option LineResult
  | .poll timedOut =>
    if r.inRecv then none
    else if r.maxLen - 1 ≤ r.buf.length then some (.line r.buf)
    else if st.kickRequested || st.shutdownRequested then some .closed
    else if r.timeoutSec ≠ 0 ∧ timedOut then some .timeout
    else some (.more { r with inRecv := true })
  | .wouldBlock =>
    if r.inRecv && fd.isSome then some (.more { r with inRecv := false }) else none
  | .failed => if r.inRecv then some .closed else none
  | .byte c => if r.inRecv && fd.isSome then some (recvByte r c) else none

/-! ### The two filters -/

/-- A Tailnet connection, with the Tailscale bind box not checked. -/
def tailnetRejects (bind : BitVec 8) (peer : Ip4) : Bool :=
  ipInCgnat peer && bind &&& rcBindVpn == 0

/-- `allowed`; an interface without an address has the address zero. -/
def interfaceAllowed (bind : BitVec 8) (peer localIp apIp staIp : Ip4) : Bool :=
  bind &&& rcBindAp != 0 && apIp != 0 && localIp == apIp ||
    bind &&& rcBindSta != 0 && staIp != 0 && localIp == staIp ||
    bind &&& rcBindVpn != 0 && ipInCgnat peer

/-! ### `remote_console_task` -/

/-- Where a task stands. The arguments are the local variables that it still needs: an attempt, a
    line, a reader, or the socket that was passed to it. -/
inductive Phase where
  /-- At the head of the outer loop. -/
  | outerTop
  /-- In `socket`, `bind` and `listen`. -/
  | opening
  /-- In the delay before the next try. -/
  | retrying
  /-- At the head of the accept loop. -/
  | acceptTop
  | accepting
  | tailnetCheck (peer : Ip4)
  | bindCheck (peer : Ip4)
  /-- At `xSemaphoreTake`. -/
  | locking
  /-- In `authenticate_client`, before `is_web_password_set`. -/
  | gate (fd : Sock)
  | authReading (fd : Sock) (attempt : Nat) (r : Reader)
  | verifying (fd : Sock) (attempt : Nat) (passwordInput : List UInt8)
  /-- In the delay after the last attempt. -/
  | delaying (fd : Sock)
  /-- Authenticated, before `handle_session` reads `rc_state.client_socket`. -/
  | entering
  /-- At the head of the loop of `handle_session`. -/
  | sessionTop (fd : Sock)
  | sessionReading (fd : Sock) (r : Reader)
  /-- In `esp_console_run`. -/
  | running (fd : Sock) (line : List UInt8)
  | cleaning
  /-- After the accept loop. -/
  | closingServer
  /-- After the outer loop. -/
  | exiting
  /-- Not created yet; or the handle is given up, and all that is left is to delete itself. -/
  | ended
deriving DecidableEq, Repr

/-- What the environment decides in a step of the task. A step that needs no decision takes
    `tick`. -/
inductive TaskIn where
  | tick
  | opened (ok : Bool)
  /-- `accept` returns, with the address of the client or an error. -/
  | accepted (peer : Option Ip4)
  /-- What `getsockname` and `netif_ip_by_key` return. -/
  | addresses (localIp apIp staIp : Ip4)
  /-- Whether `is_web_password_set` can read its record. -/
  | passwordRead (ok : Bool)
  | read (x : ReadStep)
  /-- What `verify_web_password` returns. -/
  | answer (ok : Bool)
deriving DecidableEq, Repr

namespace TaskIn

/-- Each selects one kind of decision. -/
def tick? : TaskIn → Option Unit
  | tick => some ()
  | _ => none

def opened? : TaskIn → Option Bool
  | opened ok => some ok
  | _ => none

def accepted? : TaskIn → Option (Option Ip4)
  | accepted peer => some peer
  | _ => none

def addresses? : TaskIn → Option (Ip4 × Ip4 × Ip4)
  | addresses localIp apIp staIp => some (localIp, apIp, staIp)
  | _ => none

def passwordRead? : TaskIn → Option Bool
  | passwordRead ok => some ok
  | _ => none

def read? : TaskIn → Option ReadStep
  | read x => some x
  | _ => none

def answer? : TaskIn → Option Bool
  | answer ok => some ok
  | _ => none

end TaskIn

def quitCommand : List UInt8 := [0x71, 0x75, 0x69, 0x74]
def exitCommand : List UInt8 := [0x65, 0x78, 0x69, 0x74]

/-- The next attempt of `authenticate_client`. -/
def attemptAuth (fd : Sock) (attempt : Nat) : Phase :=
  .authReading fd attempt (Reader.start passwordInputLen passwordTimeoutSec)

/-- The result of `recv_line` in `authenticate_client`. Closed, timed out or interrupted, the
    connection ends. -/
def passwordRead (fd : Sock) (attempt : Nat) : LineResult → Phase
  | .more r => .authReading fd attempt r
  | .line l => .verifying fd attempt l
  | .closed => .cleaning
  | .timeout => .cleaning
  | .interrupted => .cleaning

/-- The result of `recv_line` in `handle_session`. Ctrl+C and an empty line go back to the
    prompt. -/
def commandRead (st : Shared) (fd : Sock) : LineResult → Shared × Phase
  | .more r => (st, .sessionReading fd r)
  | .timeout => (st, .cleaning)
  | .interrupted => (st, .sessionTop fd)
  | .closed => (st, .cleaning)
  | .line l =>
    if l = [] then (st, .sessionTop fd)
    else if l = quitCommand ∨ l = exitCommand then (st, .cleaning)
    else (st.record (.ran fd l), .running fd l)

/-- `accept` returns; on a server socket that `remote_console_disable` has closed it cannot
    succeed. -/
def acceptStep (st : Shared) : Option Ip4 → Option (Shared × Phase)
  | none => some (st.closeClient, if st.shutdownRequested then .closingServer else .acceptTop)
  | some peer =>
    if st.serverOpen then
      some ({ st with clientSocket := some st.nextConn, nextConn := st.nextConn + 1 },
        .tailnetCheck peer)
    else none

/-- A filter closes the connection. -/
def reject (st : Shared) : Shared × Phase :=
  ((st.record (.rejected st.clientSocket)).closeClient, .acceptTop)

/-- `xSemaphoreTake`, without waiting. A client that comes while another one is served is closed. -/
def lockStep (st : Shared) : Shared × Phase :=
  if st.sessionTaken then (st.closeClient, .acceptTop)
  else
    ({ st with sessionTaken := true, state := .authWait, kickRequested := false },
      .gate st.clientSocket)

/-- `is_web_password_set` returns. -/
def gateStep (st : Shared) (fd : Sock) (readable : Bool) : Shared × Phase :=
  if st.passwordSet && readable then (st.record (.checked fd true), attemptAuth fd 0)
  else (st.record (.checked fd false), .cleaning)

/-- `verify_web_password` returns. The last attempt that fails goes on to the delay, and then the
    connection ends. -/
def verifyStep (st : Shared) (fd : Sock) (attempt : Nat) (ok : Bool) : Shared × Phase :=
  if ok then (st.record (.verified fd st.passwordSet true), .entering)
  else
    ({ st.record (.verified fd st.passwordSet false) with failedAuths := st.failedAuths + 1 },
      if attempt + 1 < rcMaxAuthAttempts then attemptAuth fd (attempt + 1) else .delaying fd)

/-- One step of `remote_console_task`, `authenticate_client` or `handle_session`. It is `none` where
    the environment's input is not the one that the phase waits for. -/
def taskStep (st : Shared) (ph : Phase) (x : TaskIn) : Option (Shared × Phase) :=
  match ph with
  | .outerTop => x.tick?.map fun _ => (st, if st.shutdownRequested then .exiting else .opening)
  | .opening => x.opened?.map fun ok =>
    if ok then ({ st with serverOpen := true, state := .listening }, .acceptTop)
    else ({ st with serverOpen := false }, .retrying)
  | .retrying => x.tick?.map fun _ => (st, .outerTop)
  | .acceptTop => x.tick?.map fun _ =>
    (st, if st.shutdownRequested then .closingServer else .accepting)
  | .accepting => x.accepted?.bind (acceptStep st)
  | .tailnetCheck peer => x.tick?.map fun _ =>
    if tailnetRejects st.bind peer then reject st else (st, .bindCheck peer)
  | .bindCheck peer => x.addresses?.map fun (localIp, apIp, staIp) =>
    if interfaceAllowed st.bind peer localIp apIp staIp then
      ({ st with totalConnections := st.totalConnections + 1 }, .locking)
    else reject st
  | .locking => x.tick?.map fun _ => lockStep st
  | .gate fd => x.passwordRead?.map (gateStep st fd)
  | .authReading fd attempt r =>
    (x.read?.bind (recvLine st fd r)).map fun result => (st, passwordRead fd attempt result)
  | .verifying fd attempt _ => x.answer?.map (verifyStep st fd attempt)
  | .delaying _ => x.tick?.map fun _ => (st, .cleaning)
  | .entering => x.tick?.map fun _ => ({ st with state := .active }, .sessionTop st.clientSocket)
  | .sessionTop fd => x.tick?.map fun _ =>
    (st,
      if st.kickRequested || st.shutdownRequested then .cleaning
      else .sessionReading fd (Reader.start rcMaxLineLen st.idleTimeoutSec))
  | .sessionReading fd r => (x.read?.bind (recvLine st fd r)).map (commandRead st fd)
  | .running fd _ => x.tick?.map fun _ => (st, .sessionTop fd)
  | .cleaning => x.tick?.map fun _ =>
    ({ st.closeClient with
        state := .listening, kickRequested := false, sessionTaken := false }, .acceptTop)
  | .closingServer => x.tick?.map fun _ => ({ st with serverOpen := false }, .outerTop)
  | .exiting => x.tick?.map fun _ => ({ st with state := .disabled, taskHandle := none }, .ended)
  | .ended => none

/-! ### The calls of the other tasks -/

/-- Where a caller stands. Several callers may be inside at once, as nothing locks them out. -/
inductive Call where
  | idle
  /-- In `remote_console_enable`, before it looks at `rc_state.task_handle`. -/
  | enabling
  /-- In `remote_console_enable`, the handle being `NULL`, before `xTaskCreate`. -/
  | creating
  /-- In `remote_console_disable`, before it raises the two flags. -/
  | disabling
  /-- In `remote_console_disable`, in its wait of 500 ms. -/
  | waiting
deriving DecidableEq, Repr

/-- A call starts, or goes on; `xTaskCreate` may fail. `created` is read only where the task is
    made. -/
inductive CallIn where
  | enable
  | disable
  | proceed (created : Bool)
deriving DecidableEq, Repr

/-- The shared state, the server tasks, the number of the next one, the callers; and for the
    record, the first connection that was not accepted before a return of
    `remote_console_disable` with no `remote_console_enable` since. -/
structure Console where
  shared : Shared
  tasks : Nat → Phase
  nextTask : Nat
  calls : Nat → Call
  barredBelow : Nat

namespace Console

/-- The caller goes on. -/
def goto (s : Console) (k : Nat) (c : Call) : Console :=
  { s with calls := Function.update s.calls k c }

/-- `remote_console_disable` returns to the caller. -/
def disabled (s : Console) (k : Nat) : Console :=
  { s with barredBelow := s.shared.nextConn }.goto k .idle

/-- `remote_console_disable` gives up the handle, whatever its task is doing. -/
def forgetHandle (s : Console) : Console :=
  { s with shared := { s.shared with taskHandle := none, state := .disabled } }

/-- `xTaskCreate` succeeds. The new task gets a number that no task had before. -/
def createTask (s : Console) : Console :=
  { s with
    shared := { s.shared with taskHandle := some s.nextTask, state := .listening }
    tasks := Function.update s.tasks s.nextTask .outerTop
    nextTask := s.nextTask + 1 }

theorem goto_calls (s : Console) (k : Nat) (c : Call) (j : Nat) :
    (s.goto k c).calls j = if j = k then c else s.calls j := Function.update_apply ..

theorem createTask_tasks (s : Console) (i : Nat) :
    s.createTask.tasks i = if i = s.nextTask then .outerTop else s.tasks i :=
  Function.update_apply ..

/-- One step of `remote_console_enable` or `remote_console_disable`. Enabling tests the handle and
    makes the task in two steps. -/
def callStep (s : Console) (k : Nat) (x : CallIn) : Option Console :=
  match s.calls k, x with
  | .idle, .enable =>
    if s.shared.enabled then some { s with barredBelow := 0 }
    else
      some ({ s with barredBelow := 0, shared := { s.shared with enabled := true } }.goto k
        .enabling)
  | .enabling, .proceed _ =>
    if s.shared.taskHandle = none then
      some ({ s with shared := { s.shared with shutdownRequested := false } }.goto k .creating)
    else some (s.goto k .idle)
  | .creating, .proceed created =>
    if created then some (s.createTask.goto k .idle)
    else some ({ s with shared := { s.shared with enabled := false } }.goto k .idle)
  | .idle, .disable =>
    if s.shared.enabled then
      some ({ s with shared := { s.shared with enabled := false } }.goto k .disabling)
    else some (s.disabled k)
  | .disabling, .proceed _ =>
    let s' := { s with
      shared := { s.shared with
        shutdownRequested := true, kickRequested := true, serverOpen := false } }
    if s.shared.taskHandle = none then
      some ({ s' with shared := { s'.shared with state := .disabled } }.disabled k)
    else some (s'.goto k .waiting)
  | .waiting, .proceed _ => some (s.forgetHandle.disabled k)
  | _, _ => none

/-- What can happen: a step of a server task or of a caller, `remote_console_kick`,
    a change of the admin password, of `rc_config.bind` or of the idle timeout. -/
inductive Act where
  | task (i : Nat) (x : TaskIn)
  | call (k : Nat) (x : CallIn)
  | kick
  | setPassword (set : Bool)
  | setBind (bind : BitVec 8)
  | setTimeout (sec : Nat)
deriving DecidableEq, Repr

/-- `remote_console_kick`. -/
def kick (st : Shared) : Shared :=
  if st.state = .active then { st with kickRequested := true } else st

/-- `remote_console_set_bind`. -/
def setBind (st : Shared) (bind : BitVec 8) : Shared :=
  { st with
    bind := (if bind = 0 then rcBindAp else bind) &&& (rcBindAp ||| rcBindSta ||| rcBindVpn) }

/-- One step of anybody. The tasks and the callers share `Shared`, and nothing else. -/
def step (s : Console) : Act → Option Console
  | .task i x =>
    (taskStep s.shared (s.tasks i) x).map fun p =>
      { s with shared := p.1, tasks := Function.update s.tasks i p.2 }
  | .call k x => s.callStep k x
  | .kick => some { s with shared := kick s.shared }
  | .setPassword set => some { s with shared := { s.shared with passwordSet := set } }
  | .setBind bind => some { s with shared := setBind s.shared bind }
  | .setTimeout sec => some { s with shared := { s.shared with idleTimeoutSec := sec } }

end Console

/-- The machine of all interleavings. -/
def console : Machine Console Console.Act := ⟨Console.step⟩

/-- `remote_console_init`, with the configuration that `load_config` has left and the result of
    `xTaskCreate`. -/
def init (enabled created : Bool) (bind : BitVec 8) (idleTimeoutSec : Nat) (passwordSet : Bool) :
    Console where
  shared :=
    { enabled, bind, idleTimeoutSec, passwordSet
      state := if enabled && created then .listening else .disabled
      serverOpen := false
      clientSocket := none
      totalConnections := 0
      failedAuths := 0
      taskHandle := if enabled && created then some 0 else none
      sessionTaken := false
      kickRequested := false
      shutdownRequested := false
      nextConn := 0
      log := [] }
  tasks := fun i => if enabled && created && i == 0 then .outerTop else .ended
  nextTask := 1
  calls := fun _ => .idle
  barredBelow := 0

end SubnetRouter.RemoteConsole
