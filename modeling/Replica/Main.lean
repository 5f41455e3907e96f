/-
# The program

Runs one node over HTTP: opens its directory, catches up from its peers, serves at its address
and sends to its peers until it is interrupted, and saves its snapshot at the end.  What is
served, sent and stored is decided elsewhere; here it only passes through sockets and files.
-/

import Replica.Http.Framing
import Replica.Launch.Run
import Std.Async.DNS
import Std.Async.Select
import Std.Async.Signal
import Std.Async.TCP
import Std.Async.Timer
import Std.Sync.Mutex
import Std.Time.DateTime.Timestamp

namespace Replica.Program

open Std.Async
open Replica.Launch

abbrev Socket := TCP.Socket.Client

/-- A node that is served, and its log. -/
structure Live where
  site : Std.Mutex Site
  log : IO.FS.Handle

/-! ## Time and files -/

/-- The milliseconds since 1970. -/
def clockMillis : IO Int64 := do
  return (← Std.Time.Timestamp.now).toMillisecondsSinceUnixEpoch.val.toInt64

def byteArray (b : Bytes) : ByteArray := ⟨b.toArray⟩

/-- Puts a file into what is known of the files, if there is one. -/
def loadFile (d : Disk) (path : String) : IO Disk := do
  try
    return d.force (Path.ofText path) (← IO.FS.readBinFile path).toList
  catch
    | .noFileOrDirectory .. => return d
    | e => throw e

/-- Opens a node with the files of its directory. -/
def openSite (s : Settings) : IO Site := do
  let disk ← loadFile .empty s.snapshotPath
  match Site.openIn s disk with
  | (.ok site, _) => return site
  | (.error failure, _) => throw (IO.userError failure.message)

/-- Saves the snapshot beside the old one, and gives it its name. -/
def saveSnapshot (site : Site) : IO Unit := do
  let s := site.node.settings
  IO.FS.writeBinFile s.draftPath (byteArray site.node.store.snapshot)
  IO.FS.rename s.draftPath s.snapshotPath

namespace Live

/-- Lets the node do something, and writes to its log what that has put there. -/
def act {α : Type} (l : Live) (f : Site → α × Site) : IO α :=
  l.site.atomically do
    let (a, site) := f (← get)
    let (logged, site) := site.takeLog
    set site
    if !logged.isEmpty then
      l.log.write (byteArray logged)
      l.log.flush
    return a

def save (l : Live) : IO Unit := do
  saveSnapshot (← l.act fun site => (site, site))

/-! ## Serving -/

/-- Answers the requests on a connection. -/
partial def converse (l : Live) (socket : Socket) (got : Bytes) : Async Unit := do
  match Http.readRequest got with
  | .whole request rest =>
    let millis ← clockMillis
    let reply ← l.act (·.serve millis request)
    socket.send (byteArray reply.message)
    converse l socket rest
  | .broken => socket.send (byteArray (Http.Reply.bare 400).message)
  | .partly =>
    match ← socket.recv? 65536 with
    | some more => converse l socket (got ++ more.toList)
    | none => return

/-- Takes connections until it is interrupted. -/
partial def accept (l : Live) (server : TCP.Socket.Server) (interrupt : Signal.Waiter) :
    Async Unit := do
  let next ← Selectable.one #[
    .case server.acceptSelector fun socket => return some socket,
    .case interrupt.selector fun _ => return none]
  match next with
  | some socket =>
    background (l.converse socket [])
    accept l server interrupt
  | none => return

end Live

/-! ## Calling peers -/

/-- What comes of a connection to a peer. -/
partial def receive (socket : Socket) (got : Bytes) : Async Http.Response := do
  let more ← socket.recv? 65536
  let got := got ++ (more.map ByteArray.toList).getD []
  match Http.readResponse more.isNone got, more with
  | .whole response _, _ => return response
  | .partly, some _ => receive socket got
  | _, _ => return .dropped

def socketAddress (ip : Std.Net.IPAddr) (port : UInt16) : Std.Net.SocketAddress :=
  match ip with
  | .v4 addr => .v4 { addr, port }
  | .v6 addr => .v6 { addr, port }

/-- Sends a request to where it goes. -/
def send (sent : Http.Sent) : Async Http.Response := do
  let host := String.ofList (sent.url.host.toList.filter fun c => c ≠ '[' && c ≠ ']')
  let port := sent.url.port.getD 80
  let addresses ← DNS.getAddrInfo host (Text.Decimal.ofNat port)
  match addresses[0]? with
  | none => return .dropped
  | some ip =>
    let socket ← TCP.Socket.Client.mk
    socket.connect (socketAddress ip port.toUInt16)
    socket.send (byteArray sent.message)
    receive socket []

def milliseconds (n : Nat) : Std.Time.Millisecond.Offset := .ofNat n

/-- Calls a peer, which has to answer within a limit. -/
def callPeer (call : Http.PeerCall) (address : String) (limit : Span) :
    Async (Except Error Http.PeerAnswer) := do
  match call.request? address with
  | none => return .error (.unreachable address)
  | some sent =>
    let response : Async (Option Http.Response) := do
      try return some (← send sent) catch _ => return some .dropped
    let cutOff : Async (Option Http.Response) := do
      sleep (milliseconds limit.millis)
      return none
    match ← Async.race response cutOff with
    | some response => return call.result address response
    | none => return .error .timeout

/-- The items of the first peer that gives some. -/
def pullFirst (limit : Span) : List String → Async (Option Store)
  | [] => return none
  | address :: rest => do
    match ← callPeer .pull address limit with
    | .ok (.snapshot b) =>
      match Store.ofSnapshot b with
      | .ok store => return some store
      | .error _ => pullFirst limit rest
    | _ => pullFirst limit rest

/-- Tends an outbox until it has stopped. -/
partial def Live.tend (l : Live) (i : Nat) : Async Unit := do
  let now ← IO.monoNanosNow
  let site ← l.act fun site =>
    let site := site.resume i now
    (site, site)
  match site.node.outboxes[i]? with
  | none => return
  | some o =>
    match o.phase with
    | .stopped => return
    | .calling batch =>
      let answer ← callPeer (.push batch) o.address o.settings.callLimit
      let now ← IO.monoNanosNow
      l.act fun site => ((), site.answered i now (answer.map fun a => a.accepted?.getD 0))
      l.tend i
    | _ =>
      sleep 10
      l.tend i

/-- Saves the snapshot again and again; what cannot be saved now may be saved later. -/
partial def Live.keepSaving (l : Live) (pause : Nat) : Async Unit := do
  sleep (milliseconds (pause * 1000))
  try l.save catch e => IO.eprintln s!"Saving failed: {e}"
  l.keepSaving pause

/-! ## From beginning to end -/

/-- The address of a socket for the network. -/
def bindingAddress (a : Net.SocketAddress) : Option Std.Net.SocketAddress :=
  match a.ip with
  | .four a' b c d =>
    some (.v4 ⟨.ofParts a'.toUInt8 b.toUInt8 c.toUInt8 d.toUInt8, a.port.toUInt16⟩)
  | .six groups =>
    (Std.Net.IPv6Addr.ofString (Net.ipv6Text groups)).map fun addr =>
      .v6 ⟨addr, a.port.toUInt16⟩

/-- Runs a node until it is interrupted. -/
def live (o : Options) : Async Unit := do
  let site ← openSite o.settings
  IO.FS.createDirAll o.directory
  let log ← IO.FS.Handle.mk o.settings.logPath .append
  let l : Live := { site := ← Std.Mutex.new site, log }
  let found ← pullFirst o.settings.sender.callLimit o.peers
  for request in (found.map Node.pulled).getD [] do
    l.act fun site => ((), site.take [request])
  background (l.keepSaving (max 1 o.savePause))
  let senders ← (List.range o.peers.length).mapM fun i => async (l.tend i)
  match (servingAddress o).toOption.bind bindingAddress with
  | none => throw (IO.userError Failure.address.message)
  | some address =>
    let server ← TCP.Socket.Server.mk
    server.bind address
    server.listen 1024
    let interrupt ← Signal.Waiter.mk .sigint false
    l.accept server interrupt
    l.act fun site => ((), site.stopSending)
    senders.forM await
    l.save

def environment : IO Environment := do
  return {
    node := ← IO.getEnv Environment.nodeVariable
    peers := ← IO.getEnv Environment.peersVariable
    directory := ← IO.getEnv Environment.directoryVariable }

end Replica.Program

open Replica in
/-- Runs a node as the command line says. -/
def main (line : List String) : IO UInt32 := do
  match Launch.Options.read line (← Program.environment) with
  | .error refusal =>
    IO.eprintln Launch.usage
    return refusal.exitCode.toUInt32
  | .ok options =>
    try
      (Program.live options).block
      return 0
    catch e =>
      IO.eprintln s!"Error: {e}"
      return 1
