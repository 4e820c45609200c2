import Interop.Log.Pattern

/-!
# Automata of patterns

An automaton is a list of steps. A step takes a character, checks a condition, goes on at one of two
steps, or reports that the pattern fits. The automaton of a pattern is built from its end: the steps
of a pattern go on at the step that is given for what follows. A text is searched with the set of
all steps that can be reached at one place, which is started afresh at each place.
-/

namespace Interop.Log

open Unicode (RangeSet)

/-- A step of an automaton, with the places of the steps that may follow. -/
inductive Step
  | found
  | take (set : RangeSet) (next : Nat)
  | check (anchor : Anchor) (next : Nat)
  | either (first second : Nat)
  deriving Repr, DecidableEq

/-- Steps and the place of the first of them. -/
structure Automaton where
  start : Nat
  steps : Array Step
  deriving Repr, DecidableEq

namespace Automaton

def enter (a : Automaton) (step : Nat → Step) : Automaton :=
  ⟨a.steps.size, a.steps.push (step a.start)⟩

/-- The automaton of a pattern that goes on with an automaton. -/
def add : Pattern → Automaton → Automaton
  | .empty, a => a
  | .text cs, a => cs.foldr (fun c a => a.enter (.take [(c.toNat, c.toNat)])) a
  | .oneOf set, a => a.enter (.take set)
  | .anchor anchor, a => a.enter (.check anchor)
  | .group _ p, a => add p a
  | .sequence p q, a => add p (add q a)
  | .choice p q, a =>
    let ⟨next, steps⟩ := a
    let ⟨first, steps⟩ := add p ⟨next, steps⟩
    let a := add q ⟨next, steps⟩
    a.enter (.either first)
  | .repeated p least most, a =>
    let optional :=
      match most with
      | some n =>
        let ⟨next, steps⟩ := a
        Nat.repeat (fun (a : Automaton) => (add p a).enter fun body => .either body next)
          (n - least) ⟨next, steps⟩
      | none =>
        let ⟨next, steps⟩ := a
        let loop := steps.size
        let ⟨body, steps⟩ := add p ⟨loop, steps.push (.either next next)⟩
        ⟨loop, steps.setIfInBounds loop (.either body next)⟩
    Nat.repeat (add p) least optional

def ofPattern (p : Pattern) : Automaton := add p ⟨0, #[.found]⟩

/-- Follows steps at a place between two characters. `marks` tells at which place each step was
followed last, and this place is `mark`; `next` collects where to go on behind the next character.
Each followed step adds at most two, which bounds the number of rounds. -/
def follow (a : Automaton) (mark : Nat) (before behind : Option Char) :
    Nat → List Nat → Array Nat → List Nat → Bool × List Nat × Array Nat
  | 0, _, marks, next => (false, next, marks)
  | _ + 1, [], marks, next => (false, next, marks)
  | fuel + 1, i :: pending, marks, next =>
    if marks[i]? = some mark then follow a mark before behind fuel pending marks next
    else
      let marks := marks.setIfInBounds i mark
      match a.steps[i]? with
      | none => follow a mark before behind fuel pending marks next
      | some .found => (true, next, marks)
      | some (.take set j) =>
        let next := if behind.any fun c => set.has c.toNat then j :: next else next
        follow a mark before behind fuel pending marks next
      | some (.check anchor j) =>
        let pending := if anchor.holds before behind then j :: pending else pending
        follow a mark before behind fuel pending marks next
      | some (.either j k) => follow a mark before behind fuel (j :: k :: pending) marks next

/-- Follows the pending steps at a place, and the first step of the automaton. -/
def followAll (a : Automaton) (mark : Nat) (before behind : Option Char) (pending : List Nat)
    (marks : Array Nat) : Bool × List Nat × Array Nat :=
  a.follow mark before behind (pending.length + 2 * a.steps.size + 2) (a.start :: pending) marks []

/-- Whether the pattern fits somewhere from a place in a text on. -/
def findFrom (a : Automaton) (mark : Nat) (before : Option Char) (pending : List Nat)
    (marks : Array Nat) : List Char → Bool
  | [] => (a.followAll mark before none pending marks).1
  | c :: rest =>
    let (found, next, marks) := a.followAll mark before (some c) pending marks
    found || findFrom a (mark + 1) (some c) next marks rest

def find (a : Automaton) (text : List Char) : Bool :=
  a.findFrom 1 none [] (Array.replicate a.steps.size 0) text

end Automaton

/-- Whether some part of a text fits the pattern. -/
def Pattern.isIn (p : Pattern) (s : String) : Bool := (Automaton.ofPattern p).find s.toList

end Interop.Log
