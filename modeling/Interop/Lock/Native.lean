import Interop.Failure

/-!
# The native recursive lock

The lock object of the operating system has at most one owner, which may take it again and again and
has to give it back as often. Another thread that asks for it meanwhile waits, or is told that the
lock is busy. The number of levels is held in 32 bits; at the last of them the owner is refused.
-/

namespace Interop.Lock

/-- A thread: the number it goes by, and which of the threads by that number it is. -/
structure Thread where
  number : Nat
  life : Nat
  deriving Repr, DecidableEq

/-- The calls that the library makes to the operating system. -/
inductive NativeCall
  | attributeInit
  | attributeSetType
  | mutexInit
  | attributeDestroy
  | mutexLock
  | mutexTryLock
  | mutexUnlock
  | mutexDestroy
  deriving Repr, DecidableEq

namespace NativeCall

def all : List NativeCall :=
  [.attributeInit, .attributeSetType, .mutexInit, .attributeDestroy, .mutexLock, .mutexTryLock,
    .mutexUnlock, .mutexDestroy]

def name : NativeCall → String
  | .attributeInit => "pthread_mutexattr_init"
  | .attributeSetType => "pthread_mutexattr_settype"
  | .mutexInit => "pthread_mutex_init"
  | .attributeDestroy => "pthread_mutexattr_destroy"
  | .mutexLock => "pthread_mutex_lock"
  | .mutexTryLock => "pthread_mutex_trylock"
  | .mutexUnlock => "pthread_mutex_unlock"
  | .mutexDestroy => "pthread_mutex_destroy"

def ofName? (name : String) : Option NativeCall := all.find? fun c => c.name = name

def failure (call : NativeCall) (code : Int32) : Failure := .posix call.name code

end NativeCall

/-- The calls that do not do their work, with the codes they return instead. -/
abbrev Faults := NativeCall → Option Int32

def Faults.none : Faults := fun _ => Option.none

/-- One call returns a code instead of doing its work. -/
def Faults.only (call : NativeCall) (code : Int32) : Faults :=
  fun c => if c = call then some code else Option.none

/-- What a call returns that otherwise succeeds. -/
def Faults.code (faults : Faults) (call : NativeCall) : Int32 := (faults call).getD 0

/-- A native lock: free, or held by an owner that has taken it again some number of times. -/
inductive NativeLock
  | free
  | held (owner : Thread) (reentries : Nat)
  deriving Repr, DecidableEq

namespace NativeLock

def level : NativeLock → Nat
  | .free => 0
  | .held _ reentries => reentries + 1

def owner? : NativeLock → Option Thread
  | .free => none
  | .held owner _ => some owner

/-- The number of levels that the lock can count to. -/
def maxLevel : Nat := UInt32.size - 1

/-- How an attempt to take a lock ends that is not allowed to wait. -/
inductive Attempt
  | taken (lock : NativeLock)
  | busy
  | saturated
  deriving Repr, DecidableEq

/-- A thread attempts to take the lock. -/
def attempt (lock : NativeLock) (t : Thread) : Attempt :=
  match lock with
  | .free => .taken (.held t 0)
  | .held owner reentries =>
    if owner = t then
      if reentries + 1 < maxLevel then .taken (.held owner (reentries + 1)) else .saturated
    else .busy

/-- The code that says that the levels are used up. -/
def saturatedCode : Int32 := 11

/-- The code that says that another thread holds the lock. -/
def busyCode : Int32 := 16

def Attempt.code : Attempt → Int32
  | .taken _ => 0
  | .busy => busyCode
  | .saturated => saturatedCode

def unlock : NativeLock → NativeLock
  | .free => .free
  | .held _ 0 => .free
  | .held owner (reentries + 1) => .held owner reentries

end NativeLock

/-- The calls made to create a lock, and what comes of them. -/
structure Creation where
  calls : List NativeCall
  outcome : Except Failure NativeLock

/-- Creates a lock, given the codes that the calls return. The attribute object is destroyed as soon
as it is no longer needed, whatever the calls before it returned. -/
def NativeLock.create (codes : NativeCall → Int32) : Creation :=
  if codes .attributeInit ≠ 0 then
    ⟨[.attributeInit], .error (NativeCall.attributeInit.failure (codes .attributeInit))⟩
  else if codes .attributeSetType ≠ 0 then
    ⟨[.attributeInit, .attributeSetType, .attributeDestroy],
      .error (NativeCall.attributeSetType.failure (codes .attributeSetType))⟩
  else
    ⟨[.attributeInit, .attributeSetType, .mutexInit, .attributeDestroy],
      if codes .mutexInit = 0 then .ok .free
      else .error (NativeCall.mutexInit.failure (codes .mutexInit))⟩

end Interop.Lock
