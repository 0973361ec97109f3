import LilacUxB.Transitions
import LilacUxB.Ring

set_option autoImplicit false

-- The two threads of the transfer application over a driver whose transmit channel is looped
-- back to its receive channel.
namespace LilacUxB.ProxyTest

open Transitions

structure Config where
  txBufferCount : Nat
  rxBufferCount : Nat
  bufferIncrement : Nat
  increment_pos : 0 < bufferIncrement
  tx_pos : 0 < txBufferCount
  rx_pos : 0 < rxBufferCount
  tx_divides : bufferIncrement ∣ txBufferCount
  rx_divides : bufferIncrement ∣ rxBufferCount

-- The values of dma-proxy.h.
def deployed : Config := ⟨1, 32, 1, by decide, by decide, by decide, by decide, by decide⟩

def Config.txRing (config : Config) : Ring.Shape :=
  ⟨config.txBufferCount, config.bufferIncrement, config.tx_pos, config.increment_pos, config.tx_divides⟩

def Config.rxRing (config : Config) : Ring.Shape :=
  ⟨config.rxBufferCount, config.bufferIncrement, config.rx_pos, config.increment_pos, config.rx_divides⟩

def intMax : Int := 2 ^ 31 - 1

-- int and unsigned int arithmetic as compiled.
def int32 (value : Int) : Int := Int.bmod value (2 ^ 32)
def toUnsigned (value : Int) : UInt32 := UInt32.ofNat (value % 2 ^ 32).toNat

-- BUFFER_SIZE and struct channel_buffer: the data array, status and length, the whole
-- rounded up to the alignment of 1024 bytes. The mapped array is counted in 4-byte words.
def bufferSize : Nat := 128 * 1024
def bufferWords : Nat := bufferSize / 4
def structWords : Nat := (bufferSize + 8 + 1023) / 1024 * 1024 / 4

def wordAt (bufferId i : Nat) : Nat := bufferId * structWords + i
def lengthAt (bufferId : Nat) : Nat := wordAt bufferId (bufferWords + 1)

inductive BufferState where
  | idle | inProgress | done
deriving DecidableEq

-- One channel as the application sees it: `memory` holds the mapped buffers one after the
-- other, `entry` the length the driver took into the scatter-gather entry of a buffer.
-- `started`, `completed` and `finished` only keep the account.
structure Channel where
  state : Nat → BufferState
  inFlight : List Nat
  entry : Nat → UInt32
  memory : Nat → UInt32
  started : Nat
  completed : Nat
  finished : Nat

inductive Pc where
  | primeStart | primeCheck | finish | blocked | count | stopCheck | rewrite | restartCheck | restart | exited
deriving DecidableEq

structure Thread where
  pc : Pc
  bufferId : Nat
  inProgressCount : Int
  counter : Int
  stopInProgress : Bool

structure AppState where
  verify : Bool
  testSize : Int
  stop : Bool
  numTransfers : Int
  tx : Thread
  rx : Thread
  txChannel : Channel
  rxChannel : Channel
  notEqual : Nat

def startXfer (channel : Channel) (bufferId : Nat) : Channel :=
  { channel with
    state := Function.update channel.state bufferId .inProgress
    inFlight := channel.inFlight ++ [bufferId]
    entry := Function.update channel.entry bufferId (channel.memory (lengthAt bufferId))
    started := channel.started + 1 }

-- FINISH_XFER returns when the transfer on the buffer has completed.
def finishXfer (channel : Channel) (bufferId : Nat) : Option Channel :=
  if channel.state bufferId = .done then
    some { channel with
      state := Function.update channel.state bufferId .idle
      finished := channel.finished + 1 }
  else none

def setLength (channel : Channel) (bufferId : Nat) (testSize : Int) : Channel :=
  { channel with memory := Function.update channel.memory (lengthAt bufferId) (toUnsigned testSize) }

def writeWords (memory : Nat → UInt32) (bufferId bound : Nat) (word : Nat → UInt32) (place : Nat) : UInt32 :=
  if wordAt bufferId 0 ≤ place ∧ place < wordAt bufferId bound then word (place - wordAt bufferId 0)
  else memory place

-- buffer[i] = i + base for i below the bound.
def fillPattern (channel : Channel) (bufferId : Nat) (bound : Nat) (base : Int) : Channel :=
  { channel with memory := writeWords channel.memory bufferId bound (fun i => toUnsigned (i + base)) }

-- test_size / sizeof(unsigned int), the int taken to size_t first.
def patternWords (testSize : Int) : Nat := (testSize % 2 ^ 64).toNat / 4

-- The end of the priming loop's body, the break and the loop's own test.
def primeCheck (bufferCount increment : Nat) (numTransfers : Int) (thread : Thread) : Thread :=
  let thread := { thread with inProgressCount := thread.inProgressCount + 1 }
  if thread.inProgressCount ≥ numTransfers ∨ ¬ thread.bufferId + increment < bufferCount then
    { thread with pc := .finish, bufferId := 0 }
  else { thread with pc := .primeStart, bufferId := thread.bufferId + increment }

def countFinished (numTransfers : Int) (next : Pc) (thread : Thread) : Thread :=
  let thread := { thread with inProgressCount := thread.inProgressCount - 1, counter := thread.counter + 1 }
  { thread with pc := if thread.counter ≥ numTransfers then .exited else next }

def flip (bufferCount increment : Nat) (thread : Thread) : Thread :=
  { thread with pc := .finish, bufferId := (thread.bufferId + increment) % bufferCount }

def restartCheck (bufferCount increment : Nat) (numTransfers : Int) (thread : Thread) : Thread :=
  if thread.counter + thread.inProgressCount ≥ numTransfers then flip bufferCount increment thread
  else { thread with pc := .restart }

def restarted (bufferCount increment : Nat) (thread : Thread) : Thread :=
  flip bufferCount increment { thread with inProgressCount := thread.inProgressCount + 1 }

-- tx_thread, cut where it calls the driver or reads or writes what the threads share.
def txThread (config : Config) (app : AppState) : Option AppState :=
  match app.tx.pc with
  | .primeStart =>
      let channel := setLength app.txChannel app.tx.bufferId app.testSize
      let channel := if app.verify then fillPattern channel app.tx.bufferId 1 app.tx.inProgressCount else channel
      some { app with txChannel := startXfer channel app.tx.bufferId, tx := { app.tx with pc := .primeCheck } }
  | .primeCheck =>
      some { app with tx := primeCheck config.txBufferCount config.bufferIncrement app.numTransfers app.tx }
  | .finish => some { app with tx := { app.tx with pc := .blocked } }
  | .blocked =>
      (finishXfer app.txChannel app.tx.bufferId).map
        (fun channel => { app with txChannel := channel, tx := { app.tx with pc := .count } })
  | .count => some { app with tx := countFinished app.numTransfers .stopCheck app.tx }
  | .stopCheck =>
      some { app with
        tx := { app.tx with pc := if app.stop && !app.tx.stopInProgress then .rewrite else .restartCheck } }
  | .rewrite =>
      some { app with
        numTransfers := int32 (app.tx.counter + config.rxBufferCount)
        tx := { app.tx with pc := .restartCheck, stopInProgress := true } }
  | .restartCheck =>
      some { app with tx := restartCheck config.txBufferCount config.bufferIncrement app.numTransfers app.tx }
  | .restart =>
      let base : Int := ((config.txBufferCount / config.bufferIncrement : Nat) : Int) - 1 + app.tx.counter
      let channel :=
        if app.verify then fillPattern app.txChannel app.tx.bufferId (patternWords app.testSize) base
        else app.txChannel
      some { app with
        txChannel := startXfer channel app.tx.bufferId
        tx := restarted config.txBufferCount config.bufferIncrement app.tx }
  | .exited => none

-- rx_thread. A completed transfer of the loopback has the status PROXY_NO_ERROR.
def rxThread (config : Config) (app : AppState) : Option AppState :=
  match app.rx.pc with
  | .primeStart =>
      some { app with
        rxChannel := startXfer (setLength app.rxChannel app.rx.bufferId app.testSize) app.rx.bufferId
        rx := { app.rx with pc := .primeCheck } }
  | .primeCheck =>
      some { app with rx := primeCheck config.rxBufferCount config.bufferIncrement app.numTransfers app.rx }
  | .finish => some { app with rx := { app.rx with pc := .blocked } }
  | .blocked =>
      (finishXfer app.rxChannel app.rx.bufferId).map
        (fun channel => { app with
          rxChannel := channel
          rx := { app.rx with pc := .count }
          notEqual :=
            if app.verify ∧ channel.memory (wordAt app.rx.bufferId 0) ≠ toUnsigned app.rx.counter then app.notEqual + 1
            else app.notEqual })
  | .count => some { app with rx := countFinished app.numTransfers .restartCheck app.rx }
  | .restartCheck =>
      some { app with rx := restartCheck config.rxBufferCount config.bufferIncrement app.numTransfers app.rx }
  | .restart =>
      some { app with
        rxChannel := startXfer app.rxChannel app.rx.bufferId
        rx := restarted config.rxBufferCount config.bufferIncrement app.rx }
  | .stopCheck => none
  | .rewrite => none
  | .exited => none

def complete (channel : Channel) (bufferId : Nat) (rest : List Nat) : Channel :=
  { channel with
    state := Function.update channel.state bufferId .done
    inFlight := rest
    completed := channel.completed + 1 }

def receive (channel : Channel) (bufferId : Nat) (sent : Nat → UInt32) (length : UInt32) : Channel :=
  { channel with memory := writeWords channel.memory bufferId ((length.toNat + 3) / 4) sent }

-- The oldest transmit transfer completes together with the oldest receive transfer.
def loopback (app : AppState) : Option AppState :=
  match app.txChannel.inFlight, app.rxChannel.inFlight with
  | sent :: txRest, received :: rxRest =>
      some { app with
        txChannel := complete app.txChannel sent txRest
        rxChannel := complete
          (receive app.rxChannel received (fun i => app.txChannel.memory (wordAt sent i)) (app.txChannel.entry sent))
          received rxRest }
  | _, _ => none

inductive AppEvent where
  | tx | rx | loopback | sigint
deriving DecidableEq

def appStep (config : Config) (app : AppState) : AppEvent → Option AppState
  | .tx => txThread config app
  | .rx => rxThread config app
  | .loopback => loopback app
  | .sigint => some { app with stop := true }

def threadStart : Thread := ⟨.primeStart, 0, 0, 0, false⟩

structure Quiescent (channel : Channel) : Prop where
  state : channel.state = fun _ => .idle
  inFlight : channel.inFlight = []
  started : channel.started = 0
  completed : channel.completed = 0
  finished : channel.finished = 0

-- What main hands to the threads. SIGINT may have come before.
structure Launched (app : AppState) : Prop where
  positive : 1 ≤ app.numTransfers
  fits : app.numTransfers ≤ intMax
  tx : app.tx = threadStart
  rx : app.rx = threadStart
  txChannel : Quiescent app.txChannel
  rxChannel : Quiescent app.rxChannel

def application (config : Config) : System AppState AppEvent := ⟨Launched, appStep config⟩

def applicationWith (config : Config) (Settings : AppState → Prop) : System AppState AppEvent :=
  ⟨fun app => Launched app ∧ Settings app, appStep config⟩

theorem int32_fits (value : Int) (least : 0 ≤ value) (most : value ≤ intMax) : int32 value = value := by
  unfold intMax at most
  exact Int.bmod_eq_of_le (by omega) (by omega)

theorem to_unsigned_nat (value : Int) : (toUnsigned value).toNat = (value % 2 ^ 32).toNat := by
  rw [toUnsigned, UInt32.toNat_ofNat']
  exact Nat.mod_eq_of_lt (by omega)

theorem tx_keeps_settings (config : Config) (app after : AppState) (taken : txThread config app = some after) :
    after.testSize = app.testSize ∧ after.verify = app.verify ∧ after.stop = app.stop := by
  cases entered : app.tx.pc <;> simp only [txThread, entered, Option.some.injEq, reduceCtorEq] at taken
  case blocked =>
    obtain ⟨channel, _, rfl⟩ := Option.map_eq_some_iff.mp taken
    exact ⟨rfl, rfl, rfl⟩
  all_goals exact taken ▸ ⟨rfl, rfl, rfl⟩

theorem rx_keeps_settings (config : Config) (app after : AppState) (taken : rxThread config app = some after) :
    after.testSize = app.testSize ∧ after.verify = app.verify ∧ after.stop = app.stop := by
  cases entered : app.rx.pc <;> simp only [rxThread, entered, Option.some.injEq, reduceCtorEq] at taken
  case blocked =>
    obtain ⟨channel, _, rfl⟩ := Option.map_eq_some_iff.mp taken
    exact ⟨rfl, rfl, rfl⟩
  all_goals exact taken ▸ ⟨rfl, rfl, rfl⟩

theorem step_keeps_settings (config : Config) (app after : AppState) (event : AppEvent)
    (taken : appStep config app event = some after) :
    after.testSize = app.testSize ∧ after.verify = app.verify ∧ (event ≠ .sigint → after.stop = app.stop) := by
  cases event with
  | tx =>
      obtain ⟨size, verify, stop⟩ := tx_keeps_settings config app after taken
      exact ⟨size, verify, fun _ => stop⟩
  | rx =>
      obtain ⟨size, verify, stop⟩ := rx_keeps_settings config app after taken
      exact ⟨size, verify, fun _ => stop⟩
  | loopback =>
      simp only [appStep, loopback] at taken
      split at taken
      · cases taken
        exact ⟨rfl, rfl, fun _ => rfl⟩
      · cases taken
  | sigint =>
      cases taken
      exact ⟨rfl, rfl, fun other => absurd rfl other⟩

end LilacUxB.ProxyTest
