import Interop.Lock.Native
import Interop.Log.Record

/-!
# The counting mutex

A mutex owns one native lock and counts the holds on it that are not yet given back, of all threads
together. To destroy a native lock that is still held would be undefined, so a mutex that is dropped
with holds leaves its native lock behind and says so.
-/

namespace Interop.Lock

open Log (Record Logged)

/-- A native lock and the number of holds on it. -/
structure Mutex where
  native : NativeLock
  holds : Nat
  deriving Repr, DecidableEq

namespace Mutex

def target : String := "widebridge::sync"

def nativeTarget : String := "widebridge::platform::unix::pthread"

def createdRecord : Record := ⟨.trace, target, "native mutex created"⟩

def creationFailedRecord (failure : Failure) : Record :=
  ⟨.error, target, "native mutex creation failed: " ++ failure.message⟩

def destroyedRecord : Record := ⟨.trace, target, "native mutex destroyed"⟩

/-- The record of a mutex whose native lock was left behind. -/
def leakedRecord (holds : Nat) : Record :=
  ⟨.error, target, s!"native mutex dropped with {holds} outstanding holds; leaking it"⟩

def destroyFailedRecord (code : Int32) : Record :=
  ⟨.error, nativeTarget, (NativeCall.mutexDestroy.failure code).message⟩

/-- The mutex over a native lock that nobody holds, or the failure to create one, reported in one
record. -/
def ofCreation (creation : Creation) : Logged (Except Failure Mutex) :=
  match creation.outcome with
  | .ok native => ⟨.ok ⟨native, 0⟩, [createdRecord]⟩
  | .error failure => ⟨.error failure, [creationFailedRecord failure]⟩

def create (codes : NativeCall → Int32) : Logged (Except Failure Mutex) :=
  ofCreation (NativeLock.create codes)

def count (m : Mutex) : Mutex := { m with holds := m.holds + 1 }

def uncount (m : Mutex) : Mutex := { m with holds := m.holds - 1 }

def unlockNative (m : Mutex) : Mutex := { m with native := m.native.unlock }

/-- How a call to take the mutex goes on: it is taken, the call waits, or the native call failed. -/
inductive Acquisition
  | taken (mutex : Mutex)
  | waits
  | failed (code : Int32)
  deriving Repr, DecidableEq

/-- A thread takes the mutex or waits for it: first the native lock is taken, then the hold is
counted. A native call that reports success counts as a hold. -/
def acquire (m : Mutex) (t : Thread) (faults : Faults) : Acquisition :=
  match faults .mutexLock with
  | some code => if code = 0 then .taken m.count else .failed code
  | none =>
    match m.native.attempt t with
    | .taken native => .taken { m with native := native }.count
    | .busy => .waits
    | .saturated => .failed NativeLock.saturatedCode

/-- What a thread says that stops because its native call failed. -/
def abortText (code : Int32) : String := (NativeCall.mutexLock.failure code).message

/-- A thread takes the mutex if the native call reports success, and otherwise leaves it alone. -/
def tryAcquire (m : Mutex) (t : Thread) (faults : Faults) : Option Mutex :=
  match faults .mutexTryLock with
  | some code => if code = 0 then some m.count else none
  | none =>
    match m.native.attempt t with
    | .taken native => some { m with native := native }.count
    | .busy | .saturated => none

/-- The owner gives back one hold: first it is no longer counted, then the native lock gives back
its level. -/
def release (m : Mutex) : Mutex := m.uncount.unlockNative

/-- What is done about the native lock of a mutex that is dropped. -/
structure Disposal where
  calls : List NativeCall
  records : List Record
  deriving Repr, DecidableEq

/-- Drops the mutex. Its native lock is destroyed if there are no holds, and left behind if there
are. -/
def drop (m : Mutex) (codes : NativeCall → Int32) : Disposal :=
  if m.holds ≠ 0 then ⟨[], [leakedRecord m.holds]⟩
  else
    let code := codes .mutexDestroy
    ⟨[.mutexDestroy], (if code = 0 then [] else [destroyFailedRecord code]) ++ [destroyedRecord]⟩

/-- Whether a thread could take the mutex at once. -/
def isOpenTo (m : Mutex) (t : Thread) : Bool := (m.tryAcquire t Faults.none).isSome

/-- The mutex after a call to take it that does not wait. -/
def acquired (m : Mutex) (t : Thread) : Mutex :=
  match m.acquire t Faults.none with
  | .taken m' => m'
  | .waits | .failed _ => m

/-- The records of a mutex that one thread creates, takes a number of times and drops. -/
def exercise (t : Thread) (times : Nat) : List Record :=
  let created := create Faults.none.code
  match created.value with
  | .error _ => created.records
  | .ok m =>
    let held := Nat.repeat (fun m => m.acquired t) times m
    created.records ++ (held.drop Faults.none.code).records

end Mutex

end Interop.Lock
