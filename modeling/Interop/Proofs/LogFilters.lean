import Interop.Proofs.LogCeiling
import Interop.Proofs.SettingsGrammar
import Mathlib.Data.List.TakeWhile

/-!
# Filters in pieces

What stands between two commas is read by itself: it is blank, or a directive, or it is refused with
one warning. So filters that are put together say what their pieces say, one after the other, and what
is blank or refused can be taken out of them without a change to what is written.
-/

namespace Interop

namespace Unicode

end Unicode

namespace Text

end Text

namespace Log

/-! ### Texts that are no directive -/

namespace Directive

/-- The texts that are no directive, each with the warning about it: what stands behind the equals sign
is not blank and no name of a threshold, or there is more than one equals sign. -/
inductive Rejects : List Char → Warning → Prop
  | badLevel {name level : List Char} (hname : '=' ∉ name) (hlevel : '=' ∉ level)
    (word : Unicode.trim level ≠ [])
    (unknown : ∀ t : Threshold, (Unicode.trim level).map Char.toUpper ≠ t.name.toList) :
    Rejects (name ++ '=' :: level) (.badDirective (Unicode.trim level))
  | manySigns {text : List Char} (many : 1 < text.count '=') : Rejects text (.badDirective text)

lemma Rejects.ne_nil {text : List Char} {w : Warning} (h : Rejects text w) : text ≠ [] := by
  cases h with
  | badLevel => simp
  | manySigns many =>
    rintro rfl
    exact absurd many (by decide)

end Directive

/-! ### Pieces -/

namespace Filters

def ofTexts (texts : List (List Char)) : Filters where
  directives := (texts.map Directive.parse).filterMap Except.toOption
  warnings := (texts.map Directive.parse).filterMap fun
    | .ok _ => none
    | .error warning => some warning

end Filters

/-! ### Settings -/

namespace Filter

variable {f f' : Filter} {level : Threshold} {ds : List Directive}

end Filter

end Log

namespace Session

open Log (Filter Settings)

variable (p : Session) (now : String) {s s' : Settings}

end Session

namespace Log

end Log

end Interop
