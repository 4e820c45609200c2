import Interop.Log.Level
import Interop.Log.Pattern.Parser
import Interop.Text.Fields

/-!
# Directives

A directive sets the threshold of the targets that start with its name, or of all targets. Filters
are directives separated by commas, with an optional pattern for messages behind a slash. What
cannot be read is left out with a warning; more than one slash spoils the whole.
-/

namespace Interop.Log

/-- The threshold of the targets that start with a name, or of all targets. -/
structure Directive where
  name : Option (List Char)
  threshold : Threshold
  deriving Repr, DecidableEq

/-- What is left out of filters. -/
inductive Warning
  | badDirective (text : List Char)
  | manySlashes (filters : List Char)
  | badPattern (fault : Pattern.Fault)
  deriving Repr, DecidableEq

def Warning.line : Warning → String
  | .badDirective text =>
    "warning: invalid logging spec '" ++ String.ofList text ++ "', ignoring it\n"
  | .manySlashes filters =>
    "warning: invalid logging spec '" ++ String.ofList filters
      ++ "', ignoring it (too many '/'s)\n"
  | .badPattern fault => "warning: invalid regex filter - " ++ fault.message ++ "\n"

/-- The directive in a text without blanks at its ends: a level, a name, or a name and a level
around an equals sign. A name without a level admits everything. -/
def Directive.parse (text : List Char) : Except Warning Directive :=
  match Text.fields '=' text with
  | [word] =>
    match Threshold.ofName? word with
    | some threshold => .ok ⟨none, threshold⟩
    | none => .ok ⟨some word, .upTo .trace⟩
  | [name, level] =>
    let level := Unicode.trim level
    if level = [] then .ok ⟨some name, .upTo .trace⟩
    else
      match Threshold.ofName? level with
      | some threshold => .ok ⟨some name, threshold⟩
      | none => .error (.badDirective level)
  | _ => .error (.badDirective text)

/-- The texts between commas, without blanks at their ends, that are not empty. -/
def directiveTexts (cs : List Char) : List (List Char) :=
  ((Text.fields ',' cs).map Unicode.trim).filter (· ≠ [])

/-- What filters say: the accepted directives in order, the pattern, and the warnings in order. -/
structure Filters where
  directives : List Directive := []
  pattern : Option Pattern := none
  warnings : List Warning := []
  deriving Repr, DecidableEq

/-- The directives in a text, and the warnings about those left out. -/
def Filters.ofDirectives (cs : List Char) : Filters :=
  let parsed := (directiveTexts cs).map Directive.parse
  { directives := parsed.filterMap Except.toOption
    warnings := parsed.filterMap fun
      | .ok _ => none
      | .error warning => some warning }

def Filters.parse (cs : List Char) : Filters :=
  match Text.fields '/' cs with
  | [directives] => Filters.ofDirectives directives
  | [directives, pattern] =>
    let filters := Filters.ofDirectives directives
    match Pattern.parse pattern with
    | .ok p => { filters with pattern := some p }
    | .error fault => { filters with warnings := filters.warnings ++ [.badPattern fault] }
  | _ => { warnings := [.manySlashes cs] }

end Interop.Log
