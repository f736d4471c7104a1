import Cwdaemon.Daemon.Main

/-! # The socket

How a datagram gets from the socket into `request_buffer`, with the buffer and the return
value of `cwdaemon_recvfrom()` as they are, and an iteration of the main loop with the queue
of datagrams that the kernel keeps.  What a client sends is taken from the client library
of the tests.
-/

namespace Cwdaemon

open CString (cstr)

/-! ## Clients -/

def CLIENT_SEND_BUFFER_SIZE : Nat := 4 * CWDAEMON_REQUEST_SIZE_MAX

/-- The datagram of `client_send_esc_request()`. -/
def clientSendEscRequest (code : UInt8) (bytes : Bytes) : Option Bytes :=
  match EscRequest.ofCode code with
  | none => none
  | some _ => if bytes.length + 2 > CLIENT_SEND_BUFFER_SIZE then none else some (ASCII_ESC :: code :: bytes)

/-! ## Receiving -/

/-- What `recvfrom()` comes back with: an error, `EAGAIN`, or a datagram. -/
inductive Recvfrom where
  | error
  | again
  | datagram (client : SockaddrIn) (bytes : Bytes)

/-- The loop at the end of `cwdaemon_recvfrom()`, with `recv_rc` and the buffer. -/
def removeCrlf : Nat → Bytes → Nat × Bytes
  | 0, buffer => (0, buffer)
  | count + 1, buffer =>
    let z := buffer.getD count 0
    if z = byte '\n' ∨ z = byte '\r' then removeCrlf count (buffer.set count 0) else (count + 1, buffer)

/-- `cwdaemon_recvfrom()`: its return value, and the buffer. -/
def cwdaemonRecvfrom (received : Recvfrom) (size : Nat) (buffer : Bytes) : Int × Bytes :=
  match received with
  | .error => (-1, buffer)
  | .again => (0, buffer)
  | .datagram _ bytes =>
    let copied := bytes.take size
    if copied.length = 0 then (-2, buffer)
    else
      let (count, buffer) := removeCrlf copied.length (copied ++ buffer.drop copied.length)
      (count, buffer)

/-- What `cwdaemon_receive()` does with the return value. -/
inductive Reception where
  | nothing
  | failure
  | request (text : Bytes)
  deriving DecidableEq, Repr

/-- `cwdaemon_receive()` as far as the string in `request_buffer`. -/
def receiveBuffer (received : Recvfrom) : Reception :=
  let (count, buffer) :=
    cwdaemonRecvfrom received CWDAEMON_REQUEST_SIZE_MAX (List.replicate (CWDAEMON_REQUEST_SIZE_MAX + 1) 0)
  if count = -2 then .nothing
  else if count = -1 then .failure
  else if count = 0 then .nothing
  else .request (cstr (buffer.set count.toNat 0))

/-! ## The main loop -/

/-- What `select()` comes back with: a number of descriptors, or an error, which may be
`EINTR`. -/
inductive Select where
  | descriptors (count : Nat)
  | error (interrupted : Bool)

/-- `udptime.tv_sec`: how long the next `select()` waits. -/
def State.udptime (state : State) : Nat := if state.inactivitySeconds < 30 then 1 else 86400

/-- The daemon, and the datagrams that the kernel keeps for it. -/
structure Host where
  daemon : State
  pending : List (SockaddrIn × Bytes)

/-- What happens on the host: a datagram arrives, the daemon's main loop is iterated (and
`recvfrom()` may fail), or libcw's thread runs. -/
inductive Happening where
  | arrives (client : SockaddrIn) (bytes : Bytes)
  | iterates (world : World) (select : Select) (broken : Bool)
  | dequeues (world : World)
  | keys (world : World) (on : Bool)

namespace Host

/-- `recvfrom()` takes the datagram that came first. -/
def recvfrom (broken : Bool) (host : Host) : Recvfrom × Host :=
  if broken then (.error, host)
  else
    match host.pending with
    | [] => (.again, host)
    | (client, bytes) :: rest => (.datagram client bytes, { host with pending := rest })

/-- `cwdaemon_receive()`. -/
def receive (world : World) (broken : Bool) (host : Host) : Host :=
  let (received, host) := host.recvfrom broken
  let daemon :=
    match received with
    | .datagram client _ => { host.daemon with requestAddr := client }
    | .error | .again => host.daemon
  { host with
    daemon :=
      match receiveBuffer received with
      | .nothing => daemon
      | .failure => daemon.exitProcess 1
      | .request text => (daemon.record (.received daemon.requestAddr text)).handleRequest world text }

/-- An iteration of the main loop. -/
def iterate (world : World) (select : Select) (broken : Bool) (host : Host) : Host :=
  let host := { host with daemon := host.daemon.countInactivity }
  let host :=
    match select with
    | .error false => host
    | .error true | .descriptors _ => host.receive world broken
  if host.daemon.status = .running then { host with daemon := host.daemon.pollFootswitch world } else host

/-- A process that has ended does nothing. -/
def step (happening : Happening) (host : Host) : Host :=
  match happening with
  | .arrives client bytes => { host with pending := host.pending ++ [(client, bytes)] }
  | .iterates world select broken =>
    if host.daemon.status = .running then
      iterate world select broken { host with daemon := { host.daemon with log := [] } }
    else host
  | .dequeues world =>
    if host.daemon.status = .running then { host with daemon := host.daemon.step ⟨world, .dequeue⟩ } else host
  | .keys world on =>
    if host.daemon.status = .running then { host with daemon := host.daemon.step ⟨world, .key on⟩ } else host

end Host

end Cwdaemon
