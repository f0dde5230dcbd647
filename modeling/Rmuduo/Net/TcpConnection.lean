/-
A TCP connection (`net/TcpConnection.h`, `net/TcpConnection.cc`).

System calls are answered by the kernel: `::write` by a `WriteResult` and `::readv` by what
`Buffer::readFd` gets. `written`, `shutdownWrites`, `callbacks` and `queued` record what the
connection has given to the kernel, to the callbacks of its user and to the loop; no function
of the source reads them. Each function is modelled as the thread of the loop runs it. Its name,
its addresses, the socket options and the log are left out.
-/

import Rmuduo.Net.Buffer
import Rmuduo.Net.Channel

namespace Rmuduo.Net

open Lib

inductive StateE where
  | kDisconnected | kConnecting | kConnected | kDisconnecting
deriving DecidableEq, Repr

/-- The values of `errno` that the code tells apart. -/
inductive Errno where
  | EWOULDBLOCK | EPIPE | ECONNRESET | other
deriving DecidableEq, Repr

/-- What `::write` returns. -/
inductive WriteResult where
  | wrote (n : Nat)
  | failed (errno : Errno)
deriving DecidableEq, Repr

/-- What a connection queues in its loop. -/
inductive Notice where
  | writeComplete
  | highWaterMark (size : Nat)
deriving DecidableEq, Repr

/-- The callbacks that the user and the server have installed; the one for changes of the
connection with `connected()`. -/
inductive Callback where
  | connection (connected : Bool)
  | message
  | close
deriving DecidableEq, Repr

structure TcpConnection where
  state : StateE := .kConnecting
  channel : Channel := {}
  inputBuffer : Buffer := .init Buffer.kInitialSize
  outputBuffer : Buffer := .init Buffer.kInitialSize
  highWaterMark : Nat := 64 * 1024 * 1024
  hasWriteCompleteCallback : Bool := false
  hasHighWaterMarkCallback : Bool := false
  written : Bytes := []
  shutdownWrites : Nat := 0
  callbacks : List Callback := []
  queued : List Notice := []

namespace TcpConnection

def connected (c : TcpConnection) : Bool := c.state = .kConnected

def queueInLoop (c : TcpConnection) (notice : Notice) : TcpConnection :=
  { c with queued := c.queued ++ [notice] }

/-- `connectionCallback_`, which looks at `connected()`. -/
def connectionCallback (c : TcpConnection) : TcpConnection :=
  { c with callbacks := c.callbacks ++ [.connection c.connected] }

/-! ### Output -/

def shutdownInLoop (c : TcpConnection) : TcpConnection :=
  if c.channel.isWriting then c else { c with shutdownWrites := c.shutdownWrites + 1 }

def shutdown (c : TcpConnection) : TcpConnection :=
  if c.state = .kConnected then shutdownInLoop { c with state := .kDisconnecting } else c

/-- The direct write of `sendInLoop`, with `nwrote` and `faultError`. -/
def writeDirectly (c : TcpConnection) (result : WriteResult) (data : Bytes) :
    TcpConnection × Nat × Bool :=
  if c.channel.isWriting = false ∧ c.outputBuffer.readableBytes = 0 then
    match result with
    | .wrote nwrote =>
        let c := { c with written := c.written ++ data.take nwrote }
        let remaining := data.length - nwrote
        if remaining = 0 ∧ c.hasWriteCompleteCallback then
          (c.queueInLoop .writeComplete, nwrote, false)
        else (c, nwrote, false)
    | .failed errno => (c, 0, errno = .EPIPE ∨ errno = .ECONNRESET)
  else (c, 0, false)

/-- The notice of `sendInLoop` when the output buffer reaches the high-water mark. -/
def noticeHighWaterMark (c : TcpConnection) (remaining : Nat) : TcpConnection :=
  let oldLen := c.outputBuffer.readableBytes
  if c.highWaterMark ≤ oldLen + remaining ∧ oldLen < c.highWaterMark ∧
      c.hasHighWaterMarkCallback then
    c.queueInLoop (.highWaterMark (oldLen + remaining))
  else c

def ensureWriting (c : TcpConnection) : TcpConnection :=
  if c.channel.isWriting then c else { c with channel := c.channel.enableWriting }

/-- What `sendInLoop` could not write is buffered. -/
def bufferRest (c : TcpConnection) (rest : Bytes) : Except Failure TcpConnection := do
  let c := c.noticeHighWaterMark rest.length
  let outputBuffer ← c.outputBuffer.append rest
  return ensureWriting { c with outputBuffer := outputBuffer }

def sendInLoop (c : TcpConnection) (result : WriteResult) (data : Bytes) :
    Except Failure TcpConnection :=
  if c.state = .kDisconnected then .ok c
  else
    let (c, nwrote, faultError) := c.writeDirectly result data
    if faultError = false ∧ 0 < data.length - nwrote then c.bufferRest (data.drop nwrote)
    else .ok c

def send (c : TcpConnection) (result : WriteResult) (data : Bytes) :
    Except Failure TcpConnection :=
  if c.state = .kConnected then c.sendInLoop result data else .ok c

/-- `handleWrite` after the write that empties the output buffer. -/
def flushed (c : TcpConnection) : TcpConnection :=
  let c := { c with channel := c.channel.disableWriting }
  let c := if c.hasWriteCompleteCallback then c.queueInLoop .writeComplete else c
  if c.state = .kDisconnecting then c.shutdownInLoop else c

def handleWrite (c : TcpConnection) (result : WriteResult) : TcpConnection :=
  if c.channel.isWriting then
    match result with
    | .wrote n =>
        if 0 < n then
          let c := { c with
            written := c.written ++ c.outputBuffer.readable.take n
            outputBuffer := c.outputBuffer.retrieve n }
          if c.outputBuffer.readableBytes = 0 then c.flushed else c
        else c
    | .failed _ => c
  else c

/-! ### Lifecycle -/

def handleClose (c : TcpConnection) : TcpConnection :=
  let c := { c with state := .kDisconnected, channel := c.channel.disableAll }
  let c := c.connectionCallback
  { c with callbacks := c.callbacks ++ [.close] }

/-- `handleRead`, from what `readv` gives and the number of bytes that the message callback
retrieves. `handleError` only writes to the log. -/
def handleRead (c : TcpConnection) (result : Option Bytes) (retrieved : Nat) :
    Except Failure TcpConnection := do
  let (n, inputBuffer) ← c.inputBuffer.readFd result
  let c := { c with inputBuffer := inputBuffer }
  if 0 < n then
    return { c with
      inputBuffer := c.inputBuffer.retrieve retrieved
      callbacks := c.callbacks ++ [.message] }
  else if n = 0 then return c.handleClose
  else return c

def connectEstablished (c : TcpConnection) : TcpConnection :=
  let c := { c with state := .kConnected, channel := c.channel.enableReading }
  c.connectionCallback

def connectDestroyed (c : TcpConnection) : TcpConnection :=
  let c :=
    if c.state = .kConnected then
      connectionCallback { c with state := .kDisconnected, channel := c.channel.disableAll }
    else c
  { c with channel := c.channel.remove }

end TcpConnection

end Rmuduo.Net
