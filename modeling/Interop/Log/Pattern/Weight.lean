import Interop.Log.Pattern
import Interop.Unicode.ByteRanges
import Interop.Unicode.Utf8

/-!
# The weight of patterns

A pattern is searched for by a program over bytes, once forward and once backward. The weight of the
pattern in a direction is the memory of that program before it is optimised, and is known without
building it: repetitions with counts are copies, and so a short pattern can be very heavy. A pattern
is light enough if neither direction weighs more than ten mebibytes.
-/

namespace Interop.Log

open Unicode (Range RangeSet)

/-- The order in which a program reads the bytes of a text. -/
inductive Direction
  | forward
  | backward
  deriving Repr, DecidableEq

namespace Weight

/-- What a state of a program takes by itself. -/
def ofState : Nat := 32

/-- What a state that leads on for several ranges of bytes takes. -/
def ofBranch (ranges : Nat) : Nat := ofState + 8 * ranges

/-- What a state that goes on at several others takes. -/
def ofFork (ways : Nat) : Nat := ofState + 4 * ways

/-! ## Sets -/

/-- The ranges that come first in sequences. -/
def heads (seqs : List (List Range)) : List Range := (seqs.filterMap List.head?).eraseDups

/-- What remains behind a range of the sequences that start with it. -/
def behind (r : Range) (seqs : List (List Range)) : List (List Range) :=
  seqs.filterMap fun
    | [] => none
    | s :: rest => if s = r then some rest else none

/-- What can remain of sequences of at most the given length before their ends, as far as the states
that read them forward tell it apart. -/
def remainders : Nat → List (List Range) → List (List (List Range))
  | 0, _ => []
  | n + 1, seqs =>
    seqs :: (heads seqs).flatMap fun r =>
      let rest := behind r seqs
      if rest.all (· = []) then [] else remainders n rest

/-- The fronts of a sequence, from its first range to the whole. -/
def fronts (seq : List Range) : List (List Range) :=
  (List.range seq.length).map fun n => seq.take (n + 1)

/-- The weight of a set. ASCII characters are told apart by one state. Otherwise the bytes of
characters are read in ranges: forward, equal remainders are read by one state; backward, equal
fronts are. -/
def ofSet (direction : Direction) (set : RangeSet) : Nat :=
  if set.all fun (_, high) => high ≤ 0x7F then ofState + ofBranch set.length
  else
    let seqs := set.flatMap Range.byteSequences
    match direction with
    | .forward =>
      let branches := (remainders 4 seqs).eraseDups.map fun rest => ofBranch (heads rest).length
      ofState + branches.foldl (· + ·) 0
    | .backward =>
      ofFork seqs.length + ofState + ofState * (seqs.flatMap fronts).eraseDups.length

/-! ## Choices of texts -/

/-- The words between empty words. -/
def betweenEmpty : List (List UInt8) → List (List (List UInt8))
  | [] => [[]]
  | [] :: words => [] :: betweenEmpty words
  | word :: words =>
    match betweenEmpty words with
    | [] => [[word]]
    | chunk :: chunks => (word :: chunk) :: chunks

/-- The weight of the states that read words of at most the given length, merging what they start
with. An earlier word is preferred, so words before and behind an empty one are not merged. -/
def ofTrie : Nat → List (List UInt8) → Nat
  | 0, _ => 0
  | n + 1, words =>
    let chunks := betweenEmpty words
    let filled := chunks.filter (· ≠ [])
    let chunkWeight (chunk : List (List UInt8)) : Nat :=
      let bytes := (chunk.filterMap List.head?).eraseDups
      let below := bytes.map fun b =>
        let rest := chunk.filterMap fun word =>
          if word.head? = some b then some (word.drop 1) else none
        if rest.all (· = []) then 0 else ofTrie n rest
      (if bytes.length = 1 then ofState else ofBranch bytes.length) + below.foldl (· + ·) 0
    ofFork (filled.length + chunks.length - 1) + (filled.map chunkWeight).foldl (· + ·) 0

def ofTexts (direction : Direction) (texts : List (List Char)) : Nat :=
  let words := texts.map Utf8.encode
  let words := match direction with
    | .forward => words
    | .backward => words.map List.reverse
  ofState + ofTrie ((words.map List.length).foldl max 0 + 1) words

/-! ## Patterns -/

/-- The weight of a repetition of a pattern that has the given weight. A round that may take no
character needs further states, so that an empty round does not go on for ever. -/
def ofRepetition (weight : Nat) (takes : Bool) (least : Nat) : Option Nat → Nat
  | none =>
    if least ≠ 0 then least * weight + ofFork 2
    else if takes then weight + ofFork 2
    else weight + 2 * ofFork 2 + ofState
  | some most =>
    if least = most then least * weight
    else if least = 0 && most = 1 then weight + ofFork 2 + ofState
    else (if least = 0 then ofState else least * weight) + ofState
      + (most - least) * (weight + ofFork 2)

/-- What a pattern adds to the weight of a larger one: by itself, if it is not a choice of nothing
but texts; as the last options of a choice; and the texts, if it is nothing but texts. -/
structure Load where
  alone : Nat
  asOptions : Nat
  texts : Option (List (List Char))

def Load.ofWeight (weight : Nat) : Load := ⟨weight, weight + 4, none⟩

def Load.weight (direction : Direction) (load : Load) : Nat :=
  match load.texts with
  | some (first :: second :: rest) => ofTexts direction (first :: second :: rest)
  | _ => load.alone

def loadOf (direction : Direction) : Pattern → Load
  | .empty | .anchor _ => .ofWeight ofState
  | .text cs => { Load.ofWeight (ofState * (Utf8.encode cs).length) with texts := some [cs] }
  | .oneOf set => .ofWeight (ofSet direction set)
  | .group _ p =>
    let weight := (loadOf direction p).weight direction
    match direction with
    | .forward => .ofWeight (weight + 2 * ofState)
    | .backward => .ofWeight weight
  | .sequence p q =>
    .ofWeight ((loadOf direction p).weight direction + (loadOf direction q).weight direction)
  | .choice p q =>
    let first := loadOf direction p
    let others := loadOf direction q
    let options := first.weight direction + 4 + others.asOptions
    ⟨2 * ofState + options, options, do return (← first.texts) ++ (← others.texts)⟩
  | .repeated p least most =>
    let weight := (loadOf direction p).weight direction
    .ofWeight (ofRepetition weight (p.shortest.any (0 < ·)) least most)

def ofPattern (direction : Direction) (p : Pattern) : Nat := (loadOf direction p).weight direction

/-- The weight of what skips the text before a part that fits. -/
def ofStart (anchored : Bool) : Nat := if anchored then ofState else ofFork 2 + ofState + ofBranch 1

/-- The weight of the program that searches for a pattern in a direction. The forward program also
marks where the part that fits starts and ends. -/
def ofSearch (direction : Direction) (p : Pattern) : Nat :=
  let weight := ofPattern direction p + ofState
  match direction with
  | .forward => ofStart p.opensText + 2 * ofState + weight
  | .backward => ofStart p.closesText + weight

def limit : Nat := 10 * 1024 * 1024

end Weight

/-- Whether a pattern is light enough to be searched for. -/
def Pattern.isLight (p : Pattern) : Bool :=
  Weight.ofSearch .forward p ≤ Weight.limit && Weight.ofSearch .backward p ≤ Weight.limit

end Interop.Log
