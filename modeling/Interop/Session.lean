import Interop.Lock.Mutex
import Interop.Log.Filter
import Interop.Log.Line
import Interop.Log.Settings.Reader
import Interop.Wide.Conversion

/-!
# A process and its logger

A process has one logger at most. The first that is installed stays for the life of the process and
fixes the ceiling, the most permissive threshold at which a record can be written at all. Records
that are emitted before go nowhere. The default installation is attempted once, with the settings of
the environment at that moment.
-/

namespace Interop

open Log (Filter Level Record Settings Threshold Warning)

/-- What takes the records: a logger that keeps all it is given, or one that writes lines. -/
inductive Logger
  | keeping
  | writing (filter : Filter) (timestamps : Bool)
  deriving Repr, DecidableEq

/-- The state of a process as far as logging can show it: its logger and the ceiling, whether the
default installation was attempted, and the variable of the environment that holds directives. -/
structure Session where
  logger : Option Logger := none
  ceiling : Threshold := .off
  defaultTried : Bool := false
  environment : Option (List UInt8) := none
  deriving Repr, DecidableEq

/-- What an operation leaves behind: the records kept, and the text written. -/
structure Effect where
  kept : List Record := []
  written : String := ""
  deriving Repr, DecidableEq

/-- One effect after another. -/
def Effect.append (a b : Effect) : Effect := ⟨a.kept ++ b.kept, a.written ++ b.written⟩

instance : Append Effect := ⟨Effect.append⟩

/-- What comes of an operation: the session after it, its effect, and its value. -/
structure Outcome (α : Type) where
  session : Session
  effect : Effect
  value : α

namespace Logger

/-- Whether the logger wants records of a level about a target. -/
def enables : Logger → Level → String → Bool
  | .keeping, _, _ => true
  | .writing filter _, level, target => filter.enables level target

/-- What the logger does with a record, at the given time. -/
def take (now : String) : Logger → Record → Effect
  | .keeping, r => { kept := [r] }
  | .writing filter timestamps, r =>
    if filter.admits r then { written := r.line (if timestamps then some now else none) } else {}

end Logger

namespace Session

/-- A process whose logger was installed by someone else and keeps all records. -/
def taken : Session := { logger := some .keeping, ceiling := .upTo .trace }

def loggingTarget : String := "widebridge::logging"

def installedRecord (s : Settings) : Record :=
  ⟨.debug, loggingTarget, "logger installed (level " ++ s.level.name ++ ")"⟩

def notInstalledRecord (failure : Failure) : Record :=
  ⟨.debug, loggingTarget, "default logger not installed: " ++ failure.message⟩

def enables (p : Session) (level : Level) (target : String) : Bool :=
  p.ceiling.admits level && p.logger.any fun l => l.enables level target

def emit (p : Session) (now : String) (r : Record) : Effect :=
  match p.logger with
  | some logger => if p.ceiling.admits r.level then logger.take now r else {}
  | none => {}

def emitAll (p : Session) (now : String) (rs : List Record) : Effect :=
  rs.foldl (fun effect r => effect ++ p.emit now r) {}

/-- Installs a logger. The warnings about the filters are written even if another logger is in
place. -/
def install (p : Session) (now : String) (s : Settings) : Outcome (Except Failure Unit) :=
  let warnings : Effect :=
    { written := String.join ((Filter.filtersOf s).warnings.map Warning.line) }
  match p.logger with
  | some _ => ⟨p, warnings, .error .loggerAlreadySet⟩
  | none =>
    let filter := Filter.ofSettings s
    let p := { p with
      logger := some (.writing filter s.timestamps)
      ceiling := filter.maxThreshold }
    ⟨p, warnings ++ p.emit now (installedRecord s), .ok ()⟩

def installJson (p : Session) (now : String) (json : String) : Outcome (Except Failure Unit) :=
  match Settings.ofJson json with
  | .ok s => p.install now s
  | .error failure => ⟨p, {}, .error failure⟩

/-- Attempts the default installation, unless that was done before. -/
def installDefault (p : Session) (now : String) : Outcome Unit :=
  if p.defaultTried then ⟨p, {}, ()⟩
  else
    let installed := { p with defaultTried := true }.install now (Settings.ofVariable p.environment)
    match installed.value with
    | .ok () => ⟨installed.session, installed.effect, ()⟩
    | .error failure =>
      ⟨installed.session,
        installed.effect ++ installed.session.emit now (notInstalledRecord failure), ()⟩

/-- Sets or unsets the variable of the environment that holds directives. -/
def setEnvironment (p : Session) (value : Option (List UInt8)) : Session :=
  { p with environment := value }

def convert (p : Session) (now : String) (bytes : List UInt8) : Outcome (List UInt16) :=
  let converted := Wide.convert bytes
  ⟨p, p.emitAll now converted.records, converted.value⟩

def exerciseMutex (p : Session) (now : String) (times : Nat) : Outcome Unit :=
  ⟨p, p.emitAll now (Lock.Mutex.exercise ⟨0, 0⟩ times), ()⟩

end Session

end Interop
