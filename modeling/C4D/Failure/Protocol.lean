import C4D.Foundations.Reader
import C4D.Foundations.Table

/-!
# The failure agent and the failure server

The agent of a task keeps whether the task should run and a network delay. The server forwards
updates to it and asks it for its state. Both directions carry five bytes: a byte that is 1
if the task should run, and the delay as a 32-bit number in big-endian order. The receiver
makes one read into an array of five bytes that starts out as zeros, and takes any error of
that read, the end of the stream included, for a failure.
-/

set_option autoImplicit false

namespace C4D

open Foundations

/-! ## Bytes -/

/-- `binary.BigEndian.Uint32` -/
def uint32 (b : List UInt8) : UInt32 :=
  UInt32.ofNat ((b.getD 0 0).toNat * 2 ^ 24 + (b.getD 1 0).toNat * 2 ^ 16 +
    (b.getD 2 0).toNat * 2 ^ 8 + (b.getD 3 0).toNat)

/-- `binary.BigEndian.PutUint32` -/
def putUint32 (v : UInt32) : List UInt8 :=
  [UInt8.ofNat (v.toNat / 2 ^ 24), UInt8.ofNat (v.toNat / 2 ^ 16), UInt8.ofNat (v.toNat / 2 ^ 8),
    UInt8.ofNat v.toNat]

/-- The first byte of an array says whether the task should run. -/
def readRunning (data : List UInt8) : Bool := data.getD 0 0 = 1

/-- The other ones are the delay. -/
def readDelay (data : List UInt8) : Int32 := (uint32 (data.drop 1)).toInt32

/-- The five bytes of a state. -/
def putState (running : Bool) (delay : Int32) : List UInt8 :=
  (if running then 1 else 0) :: putUint32 delay.toUInt32

/-! ## The agent -/

/-- What a handler answers. -/
inductive FailureReply where
  | error (code : Nat) (text : String)
  | ok
  /-- 200 with a JSON record. -/
  | state (shouldBeRunning : Bool) (networkDelay : Int32)
deriving DecidableEq

def FailureReply.isError : FailureReply → Bool
  | .error _ _ => true
  | _ => false

structure AgentState where
  shouldBeRunning : Bool
  networkDelay : Int32
deriving DecidableEq

namespace AgentState

/-- `NewAgentState` -/
def new : AgentState := ⟨true, 0⟩

/-- `SetState` -/
def setState (running : Bool) (delay : Int32) : AgentState where
  shouldBeRunning := running
  networkDelay := if 1048576 < delay then 1048576 else delay

/-- `GetStateBinary` -/
def getStateBinary (s : AgentState) : List UInt8 := putState s.shouldBeRunning s.networkDelay

/-- The handler of "/update", with the read it makes of the body. -/
def handleUpdate (method : String) {body : List UInt8} (read : Read body 5) (s : AgentState) :
    FailureReply × AgentState :=
  if method ≠ "POST" then (.error 405 "Method not allowed", s)
  else if read.ended then (.error 400 "Invalid request body", s)
  else
    let data := read.buffer 0
    (.ok, setState (readRunning data) (readDelay data))

end AgentState

/-! ## The server -/

structure FailureServer where
  /-- The URLs of the agents by the ids of their tasks. -/
  agents : Table String String

namespace FailureServer

/-- The body the handler of "/agent/" forwards for an update. -/
def forward (shouldBeRunning : Bool) (networkDelay : Int32) : List UInt8 :=
  putState shouldBeRunning networkDelay

/-- The handler of "/agent/state/", with the read it makes of the answer of the agent at a URL, if
there is an answer. -/
def handleState (method taskID : String) {body : List UInt8} (answer : String → Option (Read body 5))
    (server : FailureServer) : FailureReply :=
  if method ≠ "GET" then .error 405 "Method not allowed"
  else
    match server.agents.lookup taskID with
    | none => .error 404 "Agent not found"
    | some agentURL =>
        match answer agentURL with
        | none => .error 500 "Failed to get agent state"
        | some read =>
            if read.ended then .error 500 "Failed to read agent state"
            else
              let data := read.buffer 0
              .state (readRunning data) (readDelay data)

end FailureServer

end C4D
