import Interop.Text.Fields
import Interop.Text.Quoted

/-!
# The target family gate

A build goes ahead only on the supported target families. The family is a comma-separated list, in
which one supported name is enough. The gate is a script that the build runs: it prints a notice if the
build goes ahead, and stops with a reason if it does not.
-/

namespace Interop.Target

def supported : List String := ["windows", "unix"]

/-- Whether a comma-separated list names a supported family. -/
def isSupported (families : String) : Bool :=
  (Text.fields ',' families.toList).any fun name => supported.any fun s => s.toList = name

def buildNotice : String := "cargo:rerun-if-changed=build.rs\n"

def refusal (families : String) : String :=
  "widebridge only builds for Windows or Unix targets (CARGO_CFG_TARGET_FAMILY = "
    ++ Text.quoted families ++ ")"

/-- The run of a build script: it prints for the build, and it may stop with a reason. What it has
printed stays printed when it stops. -/
abbrev Script := EStateM String String

def Script.print (text : String) : Script Unit := modify (· ++ text)

/-- The script of the gate. The families are checked before anything is printed; if they are not set,
they count as empty. -/
def script (families : Option String) : Script Unit := do
  let families := families.getD ""
  unless isSupported families do
    throw (refusal families)
  Script.print buildNotice

/-- The notice to the build, or the reason to stop it. -/
def gate (families : Option String) : Except String String :=
  match (script families).run "" with
  | .ok _ printed => .ok printed
  | .error reason _ => .error reason

end Interop.Target
