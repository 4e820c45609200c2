import Interop.Json.Fault
import Interop.Os.ErrorNumber
import Interop.Os.HResult

/-!
# Failures

What an operation of the library can fail with. Every failure has a message for people and a
structural text for debugging; some are caused by another failure that has a message of its own.
-/

namespace Interop

/-- Why an operation on a file failed. -/
inductive IoFailure
  | os (number : Os.ErrorNumber)
  | plain (kind : Os.IoKind)
  | custom (kind : Os.IoKind) (message : String)
  deriving Repr, DecidableEq

def IoFailure.message : IoFailure → String
  | .os number => number.text ++ s!" (os error {number.value.toInt})"
  | .plain kind => kind.description
  | .custom _ message => message

def IoFailure.inspect : IoFailure → String
  | .os number =>
    s!"Os \x7b code: {number.value.toInt}, kind: " ++ number.kind.name ++ ", message: "
      ++ Text.quoted number.text ++ " \x7d"
  | .plain kind => "Kind(" ++ kind.name ++ ")"
  | .custom kind message =>
    "Custom \x7b kind: " ++ kind.name ++ ", error: " ++ Text.quoted message ++ " \x7d"

/-- What an operation failed with: a POSIX call with its return code, a Windows call with its error
code, a file operation, a settings document, or the installation of a second logger. -/
inductive Failure
  | posix (function : String) (code : Int32)
  | win32 (function : String) (code : UInt32)
  | io (cause : IoFailure)
  | config (cause : Json.Cause) (position : Json.Position)
  | loggerAlreadySet
  deriving Repr, DecidableEq

namespace Failure

def secondLogger : String :=
  "attempted to set a logger after the logging system was already initialized"

/-- The cause of a rejected settings document, with its place. -/
def configMessage (cause : Json.Cause) (position : Json.Position) : String :=
  cause.text ++ s!" at line {position.line} column {position.column}"

/-- The eight hexadecimal digits of a word. -/
def hexWord (code : UInt32) : List Char :=
  let digits := Text.hexDigits code.toNat
  List.replicate (8 - digits.length) '0' ++ digits

def message : Failure → String
  | posix function code => function ++ s!" failed (errno {code.toInt})"
  | win32 function code =>
    function ++ " failed (error 0x" ++ String.ofList (hexWord code) ++ ")"
  | io cause => "I/O error: " ++ cause.message
  | config cause position => "invalid log settings: " ++ configMessage cause position
  | loggerAlreadySet => "a global logger is already installed: " ++ secondLogger

def inspect : Failure → String
  | posix function code =>
    "Posix \x7b function: " ++ Text.quoted function ++ s!", code: {code.toInt} \x7d"
  | win32 function code =>
    "Win32 \x7b function: " ++ Text.quoted function ++ s!", code: {code.toNat} \x7d"
  | io cause => "Io(" ++ cause.inspect ++ ")"
  | config cause position =>
    "Config(Error(" ++ Text.quoted cause.text
      ++ s!", line: {position.line}, column: {position.column}))"
  | loggerAlreadySet => "LoggerAlreadySet(SetLoggerError(()))"

/-- The message of the failure behind this one, if there is one. -/
def source : Failure → Option String
  | posix _ _ | win32 _ _ => none
  | io cause => some cause.message
  | config cause position => some (configMessage cause position)
  | loggerAlreadySet => some secondLogger

/-- The failure of a Windows call that reports a result code. -/
def ofHResult (result : Os.HResult) : Failure := win32 "windows" result.throughError.code

end Failure

end Interop
