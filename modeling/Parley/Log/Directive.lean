import Parley.Log.Event
import Parley.Text.Alphanumeric
import Parley.Text.Blank
import Parley.Text.Pattern.Reader

/-!
# Filter directives

A directive gives a threshold to the parts of the program whose names begin with its target, or to
all parts when it has no target. It may be limited to what stands in spans of a given name, and to
events and spans that have certain details.

Directives are written `level`, `target`, `target=level`, or with a part in brackets,
`target[span{detail,detail=pattern}]=level`, of which every part may be left out. A directive without
a level lets everything through.
-/

namespace Parley.Log

/-- What a detail shall be. -/
inductive Wanted where
  /-- A truth value or a number, in writing. -/
  | literal (s : String)
  /-- A text whose end a pattern describes. -/
  | text (source : String) (pattern : Text.Pattern)
deriving DecidableEq, Repr

/-- A demand that a detail be there, and perhaps what it shall be. -/
structure Demand where
  detail : String
  wanted : Option Wanted := none
deriving DecidableEq, Repr

/-- A threshold for some events and spans. -/
structure Directive where
  target : Option String := none
  span : Option String := none
  demands : List Demand := []
  threshold : Threshold := some .trace
deriving DecidableEq, Repr

/-- Why a text is no directive. -/
inductive DirectiveError where
  | malformed
  | unknownLevel
  | badPattern
deriving DecidableEq, Repr

/-- The text of an error. -/
def DirectiveError.text : DirectiveError → String
  | malformed => "invalid filter directive"
  | unknownLevel =>
    "error parsing level filter: expected one of \"off\", \"error\", \"warn\", \"info\", "
      ++ "\"debug\", \"trace\", or a number 0-5"
  | badPattern => "invalid field filter: error building NFA"

namespace Directive

/-! ### Cutting out words -/

/-- A directive in writing, from some place on. The signs in it are looked for without the blanks
around it; words are cut out of the text with these blanks, by the number of characters before them. -/
structure Writing where
  /-- The characters without the blanks. -/
  bare : List Char
  /-- The characters with the blanks. -/
  full : List Char

/-- The whole of a text. -/
def Writing.ofString (s : String) : Writing := ⟨Text.trimList s.toList, s.toList⟩

/-- The word up to the first sign that ends it, and what begins with that sign. -/
def Writing.word (w : Writing) (ends : Char → Bool) : String × Writing :=
  let n := (w.bare.takeWhile (!ends ·)).length
  (String.ofList (w.full.take n), ⟨w.bare.drop n, w.full.drop n⟩)

/-- What comes after the first character. -/
def Writing.tail (w : Writing) : Writing := ⟨w.bare.drop 1, w.full.drop 1⟩

/-! ### Reading -/

/-- The characters that a directive without a span in front may begin with. -/
def opens (c : Char) : Bool := Text.isAlphanumeric c || c = '-' || c = ':' || c = '_'

/-- The characters that end a target. -/
def endsTarget (c : Char) : Bool := c = '=' || c = '[' || c = ','

/-- The word is a number with decimal digits, which may have a point and an exponent, or the name of
a number that is not finite, with or without a sign. -/
def isNumber (word : List Char) : Bool :=
  let cs := match word with
    | '+' :: cs | '-' :: cs => cs
    | cs => cs
  let isExponent (cs : List Char) : Bool :=
    match cs with
    | [] => true
    | c :: cs =>
      let ds := match cs with
        | '+' :: ds | '-' :: ds => ds
        | ds => ds
      (c = 'e' || c = 'E') && !ds.isEmpty && ds.all Char.isDigit
  let whole := cs.takeWhile Char.isDigit
  let rest := cs.drop whole.length
  let fraction := match rest with
    | '.' :: rest => rest.takeWhile Char.isDigit
    | _ => []
  let exponent := match rest with
    | '.' :: rest => rest.drop fraction.length
    | rest => rest
  ["inf", "infinity", "nan"].contains (Text.lowerAscii (String.ofList cs))
    || (!(whole ++ fraction).isEmpty && isExponent exponent)

/-- What a text in a demand asks for. -/
def readWanted (s : String) : Except DirectiveError Wanted :=
  if s = "true" ∨ s = "false" ∨ isNumber s.toList then .ok (.literal s)
  else
    match Text.Pattern.parse? s with
    | some p => .ok (.text s p)
    | none => .error .badPattern

/-- Reads a demand such as `detail` or `detail=pattern`; a second equals sign ends the pattern. -/
def readDemand (s : String) : Except DirectiveError Demand :=
  match s.splitOn "=" with
  | detail :: text :: _ => (readWanted text).map fun wanted => { detail, wanted }
  | [detail] => .ok { detail }
  | [] => .error .malformed

/-- Reads demands, none of them empty, and their closing brace. -/
def readDemands : Nat → Writing → Except DirectiveError (List Demand × Writing)
  | 0, _ => .error .malformed
  | fuel + 1, w => do
    let (s, w) := w.word fun c => c = ',' || c = '\x7d'
    match w.bare with
    | [] => .error .malformed
    | c :: _ =>
      if s = "" then .error .malformed
      else
        let d ← readDemand s
        if c = ',' then
          let (ds, w) ← readDemands fuel w.tail
          return (d :: ds, w)
        else return ([d], w.tail)

/-- Reads the level after an equals sign. An empty one lets everything through. A comma may end it,
with nothing after. -/
def readLevel (d : Directive) (w : Writing) : Except DirectiveError Directive :=
  let level (s : String) : Except DirectiveError Directive :=
    match if s = "" then some (some .trace) else Threshold.parse? s with
    | some threshold => .ok { d with threshold }
    | none => .error .unknownLevel
  let (s, rest) := w.word (· = ',')
  match rest.bare with
  | [] => level (String.ofList w.full)
  | [_] => level s
  | _ => (level s).bind fun _ => .error .malformed

/-- Reads what may follow the bracket that closes the part about a span: nothing, or a level. -/
def readEnd (d : Directive) (w : Writing) : Except DirectiveError Directive :=
  match w.bare with
  | [] => .ok d
  | '=' :: _ => readLevel d w.tail
  | _ => .error .malformed

/-- Reads the part about a span after its opening bracket, and what follows. -/
def readSpan (target : Option String) (w : Writing) : Except DirectiveError Directive :=
  let (name, w) := w.word fun c => c = ']' || c = '\x7b'
  match w.bare with
  | ']' :: _ => readEnd { target, span := some name } w.tail
  | '\x7b' :: _ => do
    let (demands, w) ← readDemands w.bare.length w.tail
    match w.bare with
    | ']' :: _ =>
      readEnd { target, span := if name = "" then none else some name, demands } w.tail
    | _ => .error .malformed
  | _ => .error .malformed

/-- Reads a directive. Blanks at its ends belong to the words beside them. -/
def parse (s : String) : Except DirectiveError Directive :=
  let w := Writing.ofString s
  match w.bare with
  | [] => .error .malformed
  | '[' :: _ => readSpan none w.tail
  | c :: _ =>
    if !opens c then .error .malformed
    else
      let (target, w) := w.word endsTarget
      match w.bare with
      | [] =>
        match Threshold.parse? s with
        | some threshold => .ok { threshold }
        | none => .ok { target := some s }
      | '=' :: _ => readLevel { target := some target } w.tail
      | '[' :: _ => readSpan (some target) w.tail
      | _ => .error .malformed

/-! ### What a directive is about -/

/-- The directive applies to the part of the program with the given name. -/
def appliesTo (d : Directive) (part : String) : Bool :=
  d.target.all fun t => t.toList.isPrefixOf part.toList

/-- The directive decides about events and spans by themselves: it names no span, and its demands
leave open what details shall be. -/
def isPlain (d : Directive) : Bool := d.span = none && d.demands.all (·.wanted = none)

/-- The directive says something about spans. -/
def isAboutSpans (d : Directive) : Bool := d.span.isSome || d.demands ≠ []

/-- Both directives are about the same events and spans. -/
def sameScope (d e : Directive) : Bool :=
  d.target = e.target && d.span = e.span && d.demands = e.demands

/-- The event has the details that are asked for. -/
def suits (d : Directive) (e : Event) : Bool :=
  d.demands.all fun demand => ("message" :: e.fields.map Prod.fst).contains demand.detail

/-- The span is one that the directive is about, whatever its details say. -/
def concerns (d : Directive) (s : Span) : Bool :=
  d.appliesTo s.target && d.span.all (· = s.name)
    && d.demands.all fun demand => (s.fields.map Prod.fst).contains demand.detail

/-- The details of the span are what is asked for. As they are texts, none of them is a truth value
or a number. -/
def meets (d : Directive) (s : Span) : Bool :=
  d.demands.all fun demand =>
    match demand.wanted, s.fields.lookup demand.detail with
    | none, _ => true
    | some (.text _ pattern), some (.quoted text) => pattern.fitsEnd text
    | _, _ => false

end Directive

end Parley.Log
