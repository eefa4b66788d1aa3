import Parley.Text.CharSet

/-!
# Patterns of texts

A pattern describes texts by characters, sequences, choices and repetitions. `Pattern.fits` tells
whether a pattern describes the whole of a text, and `Pattern.fitsEnd` whether it describes the text
from some place on.

The ways to go through a text come in an order: the first branch of a choice before the second, and
one more turn of a repetition before its end, or after it. Once a way has come to its end, the ways
after it are given up. So `a|ab` does not fit the text `ab`, while `ab|a` does.
-/

namespace Parley.Text

/-- A condition on a place in a text. -/
inductive Place where
  | textStart
  | textEnd
  | lineStart
  | lineEnd
deriving DecidableEq, Repr

/-- The condition holds between two characters, either of which may be missing. -/
def Place.holds (before after : Option Char) : Place → Bool
  | textStart => before.isNone
  | textEnd => after.isNone
  | lineStart => before.all (· = '\n')
  | lineEnd => after.all (· = '\n')

/-- A pattern of texts. -/
inductive Pattern where
  /-- The empty text. -/
  | nothing
  /-- One character of a set. -/
  | one (set : CharSet)
  /-- The empty text at certain places. -/
  | place (p : Place)
  | seq (p q : Pattern)
  | choice (p q : Pattern)
  /-- Any number of turns; an eager repetition would rather take one more. -/
  | many (p : Pattern) (eager : Bool)
deriving DecidableEq, Repr

namespace Pattern

/-- The first pattern and then the second. -/
def andThen : Pattern → Pattern → Pattern
  | nothing, q => q
  | p, q => seq p q

/-- The pattern or the empty text. -/
def optional (p : Pattern) (eager : Bool) : Pattern :=
  if eager then choice p nothing else choice nothing p

/-- What a pattern can do at a place: come to its end, or take a character and go on. -/
inductive Step where
  | done
  | take (set : CharSet) (rest : Pattern)
deriving DecidableEq, Repr

/-- The steps of a pattern between two characters, in order. A turn of a repetition that takes no
character ends the repetition. -/
def steps (before after : Option Char) : Pattern → List Step
  | nothing => [.done]
  | one set => [.take set nothing]
  | place p => if p.holds before after then [.done] else []
  | seq p q =>
    (steps before after p).flatMap fun
      | .done => steps before after q
      | .take set rest => [.take set (rest.andThen q)]
  | choice p q => steps before after p ++ steps before after q
  | many p eager =>
    let turns := (steps before after p).map fun
      | .done => .done
      | .take set rest => .take set (rest.andThen (many p eager))
    if eager then turns ++ [.done] else .done :: turns

/-- The pattern that is left when a step takes a character. -/
def Step.after (c : Char) : Step → Option Pattern
  | done => none
  | take set rest => if set.has c then some rest else none

/-- One of some patterns describes the text, which follows the character `before`. -/
def anyFits (before : Option Char) : List Pattern → List Char → Bool
  | ps, [] => (ps.flatMap (steps before none)).contains .done
  | ps, c :: cs =>
    let going := (ps.flatMap (steps before (some c))).takeWhile (· ≠ .done)
    anyFits (some c) (going.filterMap (Step.after c)).eraseDups cs

/-- The pattern describes the whole text. -/
def fits (p : Pattern) (s : String) : Bool := anyFits none [p] s.toList

/-- As few characters as can be, and then the pattern. -/
def anywhere (p : Pattern) : Pattern := seq (many (one (.outside .none)) false) p

/-- The pattern describes the text from some place on. The first place where it describes anything
decides, so that `a` fits the end of `ba` but not that of `aa`. -/
def fitsEnd (p : Pattern) (s : String) : Bool := p.anywhere.fits s

end Pattern

end Parley.Text
