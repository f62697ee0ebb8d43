import Mathlib.Data.UInt

/-! Keep alive bookkeeping of one DTLS connection (`src/core/nc_keep_alive.c`).
All counters are 32 bit and wrap. `armed` says that `keepAliveEvent` is posted. -/

namespace NabtoDevice

inductive NcKeepAliveAction
  | doNothing
  | sendKa
  | kaTimeout
  deriving DecidableEq, Repr

structure NcKeepAlive where
  kaInterval : UInt32
  kaRetryInterval : UInt32
  kaMaxRetries : UInt32
  lastRecvCount : UInt32
  lastSentCount : UInt32
  lostKeepAlives : UInt32
  n : UInt32
  isSending : Bool
  sendBuffer : List UInt8
  armed : Bool
  deriving DecidableEq, Repr

def atKeepAlive : UInt8 := 0x04
def ctKeepAliveRequest : UInt8 := 0x03
def ctKeepAliveResponse : UInt8 := 0x04

def ncKeepAliveDefaultInterval : UInt32 := 30000
def ncKeepAliveDefaultRetryInterval : UInt32 := 2000
def ncKeepAliveDefaultMaxRetries : UInt32 := 15

def ncKeepAliveInit : NcKeepAlive where
  kaInterval := ncKeepAliveDefaultInterval
  kaRetryInterval := ncKeepAliveDefaultRetryInterval
  kaMaxRetries := ncKeepAliveDefaultMaxRetries
  lastRecvCount := 0
  lastSentCount := 0
  lostKeepAlives := 0
  n := ncKeepAliveDefaultInterval / ncKeepAliveDefaultRetryInterval
  isSending := false
  sendBuffer := List.replicate 18 0
  armed := false

def ncKeepAliveStop (ka : NcKeepAlive) : NcKeepAlive := { ka with armed := false }

/-- The settings go back to their defaults, `n` stays as it is. -/
def ncKeepAliveReset (ka : NcKeepAlive) : NcKeepAlive :=
  { ka with
    armed := false
    kaInterval := ncKeepAliveDefaultInterval
    kaRetryInterval := ncKeepAliveDefaultRetryInterval
    kaMaxRetries := ncKeepAliveDefaultMaxRetries
    lastRecvCount := 0
    lastSentCount := 0
    lostKeepAlives := 0 }

def ncKeepAliveSetSettings (ka : NcKeepAlive) (interval retryInterval maxRetries : UInt32) :
    NcKeepAlive :=
  { ka with
    kaInterval := interval
    kaRetryInterval := retryInterval
    kaMaxRetries := maxRetries
    n := interval / retryInterval }

def ncKeepAliveShouldSend (ka : NcKeepAlive) (recvCount sentCount : UInt32) :
    NcKeepAlive × NcKeepAliveAction :=
  if recvCount > ka.lastRecvCount ∧ sentCount > ka.lastSentCount then
    ({ ka with lostKeepAlives := 0, lastRecvCount := recvCount, lastSentCount := sentCount },
      .doNothing)
  else if ka.lostKeepAlives > ka.kaMaxRetries + ka.n then (ka, .kaTimeout)
  else
    let lost := ka.lostKeepAlives + 1
    ({ ka with lostKeepAlives := lost },
      if ka.isSending = false ∧ lost > ka.n then .sendKa else .doNothing)

def ncKeepAliveWait (ka : NcKeepAlive) : NcKeepAlive := { ka with armed := true }

def ncKeepAliveCreateRequest (ka : NcKeepAlive) : NcKeepAlive :=
  { ka with
    sendBuffer := atKeepAlive :: ctKeepAliveRequest :: List.replicate 16 0
    isSending := true }

/-- `none` when no response is sent. -/
def ncKeepAliveHandleRequest (ka : NcKeepAlive) (req : List UInt8) : Option NcKeepAlive :=
  if req.length < 18 ∨ ka.isSending = true then none
  else
    some { ka with
      sendBuffer := atKeepAlive :: ctKeepAliveResponse :: (req.drop 2).take 16
      isSending := true }

def ncKeepAlivePacketSent (ka : NcKeepAlive) : NcKeepAlive := { ka with isSending := false }

end NabtoDevice
