import Interop.Lock.Mutex

/-!
# Supervised use of mutexes

The supervisor lets threads use any number of mutexes, and keeps account of who holds what and who
waits. From the account it refuses every step that the contract of a mutex forbids, such as giving
back what is not held or dropping a mutex that is borrowed. A hold is raw, given back by an explicit
release, or belongs to a guard and is given back when the guard is dropped.
-/

namespace Interop.Lock

open Log (Record)

/-- How a level of ownership was taken, and so how it is given back. -/
inductive Hold
  | raw
  | guard
  deriving Repr, DecidableEq

/-- A blocked call: whose it is, and what kind of hold it asks for. -/
structure Waiter where
  thread : Thread
  hold : Hold
  deriving Repr, DecidableEq

/-- A mutex with its users: a thread is listed once for every raw hold and every live guard, newest
first, and the blocked calls are listed in the order in which they came. -/
structure Account where
  mutex : Mutex
  raw : List Thread
  guards : List Thread
  waiting : List Waiter
  deriving Repr, DecidableEq

namespace Account

def fresh (mutex : Mutex) : Account := ⟨mutex, [], [], []⟩

def holders (a : Account) : Hold → List Thread
  | .raw => a.raw
  | .guard => a.guards

def enter (a : Account) (t : Thread) : Hold → Account
  | .raw => { a with raw := t :: a.raw }
  | .guard => { a with guards := t :: a.guards }

def strike (a : Account) (t : Thread) : Hold → Account
  | .raw => { a with raw := a.raw.erase t }
  | .guard => { a with guards := a.guards.erase t }

/-- Whether the mutex may not be moved or dropped: a guard borrows it, or a call waits for it. -/
def isBorrowed (a : Account) : Bool := !a.guards.isEmpty || !a.waiting.isEmpty

/-- How a call to take a mutex goes on. -/
inductive Call
  | completed
  | waits
  | aborted (code : Int32)
  deriving Repr, DecidableEq

/-- A thread takes the mutex, or its call is blocked, or stops because the native call failed. -/
def acquire (a : Account) (t : Thread) (hold : Hold) (faults : Faults) : Account × Call :=
  match a.mutex.acquire t faults with
  | .taken mutex => ({ a with mutex := mutex }.enter t hold, .completed)
  | .waits => ({ a with waiting := a.waiting ++ [⟨t, hold⟩] }, .waits)
  | .failed code => (a, .aborted code)

def tryAcquire (a : Account) (t : Thread) (hold : Hold) (faults : Faults) : Account × Bool :=
  match a.mutex.tryAcquire t faults with
  | some mutex => ({ a with mutex := mutex }.enter t hold, true)
  | none => (a, false)

/-- A blocked call completes if the mutex can be taken. -/
def complete (a : Account) (w : Waiter) : Option Account :=
  match a.mutex.acquire w.thread Faults.none with
  | .taken mutex =>
    some ({ a with mutex := mutex, waiting := a.waiting.erase w }.enter w.thread w.hold)
  | .waits | .failed _ => none

/-- Hands a free mutex to the blocked call that is chosen, if there is one. -/
def handOver (choose : List Waiter → Option Waiter) (a : Account) : Account × List Thread :=
  match a.mutex.native, choose a.waiting with
  | .free, some w =>
    match a.complete w with
    | some a' => (a', [w.thread])
    | none => (a, [])
  | _, _ => (a, [])

def giveBack (a : Account) (t : Thread) (hold : Hold) : Account :=
  { a.strike t hold with mutex := a.mutex.release }

def dropGuards (a : Account) (t : Thread) : Account :=
  Nat.repeat (fun a => a.giveBack t .guard) (a.guards.count t) a

/-- A thread ends: if it has guards they are dropped, and the mutex is handed on if that makes it
free. -/
def sweep (choose : List Waiter → Option Waiter) (a : Account) (t : Thread) :
    Account × List Thread :=
  if a.guards.contains t then (a.dropGuards t).handOver choose else (a, [])

/-- A thread's newest guard is forgotten: its hold stays, as a raw one. -/
def forget (a : Account) (t : Thread) : Account := (a.strike t .guard).enter t .raw

end Account

/-- Why a step is refused. -/
inductive Refusal
  | exists
  | noSuchMutex
  | noSuchThread
  | threadBlocked
  | hasWaiter
  | notHeld
  | borrowed
  | held
  deriving Repr, DecidableEq

def Refusal.name : Refusal → String
  | .exists => "exists"
  | .noSuchMutex => "no_such_mutex"
  | .noSuchThread => "no_such_thread"
  | .threadBlocked => "thread_blocked"
  | .hasWaiter => "has_waiter"
  | .notHeld => "not_held"
  | .borrowed => "borrowed"
  | .held => "held"

/-- What a thread does with a mutex. -/
inductive ThreadStep
  | acquire (hold : Hold)
  | tryAcquire (hold : Hold)
  | release (hold : Hold)
  | forget
  | inspectGuard
  deriving Repr, DecidableEq

/-- What is done with a mutex by no supervised thread; `handOver` is the system's doing, which lets a
blocked call complete some time after the mutex became free. -/
inductive MutexStep
  | handOver
  | probe
  | inspect
  | stress (threads iterations : Nat)
  | move
  | drop
  deriving Repr, DecidableEq

/-- One thing to be done: a mutex comes into being, something is done with it, or a thread ends. -/
inductive Step
  | new (m : Nat)
  | onMutex (m : Nat) (step : MutexStep)
  | byThread (m t : Nat) (step : ThreadStep)
  | exit (t : Nat)
  deriving Repr, DecidableEq

/-- What comes of a step that is not refused. -/
inductive Reply
  | created
  | failed (failure : Failure)
  | probed (isFree : Bool)
  | shown (text : String)
  | counted (total : Nat)
  | moved
  | dropped
  | acquired
  | blocked
  | aborted (message : String)
  | tried (success : Bool)
  | released (woke : List Thread)
  | forgotten
  | exited (woke : List Thread)
  deriving Repr, DecidableEq

/-- The supervised mutexes by number, in ascending order, the numbers of the living threads, and the
numbers of the threads that ended, each as often as a thread by it did. -/
structure Supervisor where
  mutexes : List (Nat × Account) := []
  alive : List Nat := []
  ended : List Nat := []
  deriving Repr, DecidableEq

/-- What the system decides about a step: the native calls that fail, the blocked call that a free
mutex goes to, and whether a call may wait behind another. -/
structure Conditions where
  faults : Faults
  choose : List Waiter → Option Waiter
  queues : Bool

/-- What comes of a step: the supervisor after it, the answer, the records emitted, and the native
calls made to create or destroy a lock. -/
structure Report where
  after : Supervisor
  outcome : Except Refusal Reply
  records : List Record := []
  calls : List NativeCall := []

namespace Supervisor

def account? (s : Supervisor) (m : Nat) : Option Account := s.mutexes.lookup m

/-- Puts a new mutex in its place. -/
def insert (m : Nat) (a : Account) : List (Nat × Account) → List (Nat × Account)
  | [] => [(m, a)]
  | (n, b) :: rest => if m < n then (m, a) :: (n, b) :: rest else (n, b) :: insert m a rest

def update (s : Supervisor) (m : Nat) (a : Account) : Supervisor :=
  { s with mutexes := s.mutexes.map fun (n, b) => (n, if n = m then a else b) }

def remove (s : Supervisor) (m : Nat) : Supervisor :=
  { s with mutexes := s.mutexes.filter fun (n, _) => n ≠ m }

/-- The thread that goes by a number now, or will be the next to. -/
def thread (s : Supervisor) (number : Nat) : Thread := ⟨number, s.ended.count number⟩

/-- A thread that has not lived yet. -/
def newcomer (s : Supervisor) (number : Nat) : Thread := ⟨number, s.ended.count number + 1⟩

/-- The thread that goes by a number comes to life if need be. -/
def summon (s : Supervisor) (number : Nat) : Supervisor :=
  if s.alive.contains number then s else { s with alive := number :: s.alive }

def isBlocked (s : Supervisor) (t : Thread) : Bool :=
  s.mutexes.any fun (_, a) => a.waiting.any fun w => w.thread = t

/-- The mutexes that a new thread could take at once. -/
def free (s : Supervisor) : List Nat :=
  (s.mutexes.filter fun (_, a) => a.mutex.isOpenTo (s.newcomer 0)).map Prod.fst

/-- The report of a step that is refused. -/
def refuse (s : Supervisor) (refusal : Refusal) : Report :=
  { after := s, outcome := .error refusal }

/-- The report of a step that neither creates nor destroys a lock, and leads to `s`. -/
def reply (s : Supervisor) (r : Reply) : Report := { after := s, outcome := .ok r }

/-- A step by the thread `t` on the mutex `m`, whose account is `a`. -/
def stepOf (s : Supervisor) (c : Conditions) (m : Nat) (a : Account) (t : Thread) :
    ThreadStep → Except Refusal (Supervisor × Reply)
  | .acquire hold =>
    match a.acquire t hold c.faults with
    | (a', .completed) => .ok (s.update m a', .acquired)
    | (a', .waits) =>
      if a.waiting.isEmpty || c.queues then .ok (s.update m a', .blocked) else .error .hasWaiter
    | (_, .aborted code) => .ok (s, .aborted (Mutex.abortText code))
  | .tryAcquire hold =>
    let (a, success) := a.tryAcquire t hold c.faults
    .ok (s.update m a, .tried success)
  | .release hold =>
    if (a.holders hold).contains t then
      let (a, woke) := (a.giveBack t hold).handOver c.choose
      .ok (s.update m a, .released woke)
    else .error .notHeld
  | .forget =>
    if a.guards.contains t then .ok (s.update m (a.forget t), .forgotten) else .error .notHeld
  | .inspectGuard =>
    if a.guards.contains t then .ok (s, .shown "NativeMutexGuard \x7b .. \x7d")
    else .error .notHeld

/-- A step by a thread: it is refused if the mutex is missing or the thread is blocked; otherwise
the thread comes to life if need be, also when the step is refused after that. -/
def runBy (s : Supervisor) (c : Conditions) (m number : Nat) (step : ThreadStep) : Report :=
  match s.account? m with
  | none => refuse s .noSuchMutex
  | some a =>
    let t := s.thread number
    if s.isBlocked t then refuse s .threadBlocked
    else
      let s := s.summon number
      match s.stepOf c m a t step with
      | .ok (after, answer) => reply after answer
      | .error refusal => refuse s refusal

/-- A thread ends: its guards are dropped, and its raw holds stay held for ever. -/
def exit (s : Supervisor) (c : Conditions) (number : Nat) : Report :=
  let t := s.thread number
  if s.alive.contains number then
    if s.isBlocked t then refuse s .threadBlocked
    else
      let after : Supervisor := {
        mutexes := s.mutexes.map fun (n, a) => (n, (a.sweep c.choose t).1)
        alive := s.alive.erase number
        ended := number :: s.ended }
      reply after (.exited (s.mutexes.flatMap fun (_, a) => (a.sweep c.choose t).2))
  else refuse s .noSuchThread

/-- A step on a mutex by no thread in particular. -/
def runOn (s : Supervisor) (c : Conditions) (m : Nat) (a : Account) :
    MutexStep → Report
  | .handOver =>
    let (a, woke) := a.handOver c.choose
    reply (s.update m a) (.released woke)
  | .probe => reply s (.probed (a.mutex.isOpenTo (s.newcomer 0)))
  | .inspect => reply s (.shown "NativeMutex \x7b .. \x7d")
  | .stress threads iterations =>
    if a.mutex.native.owner?.isSome then refuse s .held
    else reply s (.counted (threads * iterations))
  | .move => if a.isBorrowed then refuse s .borrowed else reply s .moved
  | .drop =>
    if a.isBorrowed then refuse s .borrowed
    else
      let disposal := a.mutex.drop c.faults.code
      { after := s.remove m
        outcome := .ok .dropped
        records := disposal.records
        calls := disposal.calls }

/-- Creates a mutex under a number that is not in use. -/
def create (s : Supervisor) (c : Conditions) (m : Nat) : Report :=
  match s.account? m with
  | some _ => refuse s .exists
  | none =>
    let creation := NativeLock.create c.faults.code
    let created := Mutex.ofCreation creation
    match created.value with
    | .error failure =>
      { after := s
        outcome := .ok (.failed failure)
        records := created.records
        calls := creation.calls }
    | .ok mutex =>
      { after := { s with mutexes := insert m (Account.fresh mutex) s.mutexes }
        outcome := .ok .created
        records := created.records
        calls := creation.calls }

/-- Takes a step under the given conditions. -/
def runUnder (s : Supervisor) (c : Conditions) : Step → Report
  | .new m => s.create c m
  | .onMutex m step =>
    match s.account? m with
    | none => refuse s .noSuchMutex
    | some a => s.runOn c m a step
  | .byThread m number step => s.runBy c m number step
  | .exit number => s.exit c number

/-- The first come is the first served. -/
def firstCome : List Waiter → Option Waiter := List.head?

/-- Takes a step, in which the native calls may fail. A mutex has one blocked call at most, and it
completes as soon as the mutex is free. -/
def run (s : Supervisor) (faults : Faults) (step : Step) : Report :=
  s.runUnder { faults := faults, choose := firstCome, queues := false } step

end Supervisor

end Interop.Lock
