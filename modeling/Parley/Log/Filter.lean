import Parley.Log.Directive
import Parley.Text.Bytes

/-!
# Log filters

A filter decides by directives which events and spans are let through. An event passes on its own
account (`Filter.admits`): of the plain directives that apply to it, the most exact one decides, and
without one it is held back. It also passes on account of a span that it stands in
(`Filter.admitsWithin`), when a directive about that span lets events of its level through.

Lists of directives are separated by commas.
-/

namespace Parley.Log

/-- Directives. -/
structure Filter where
  /-- Those that decide about events and spans by themselves, at most one for each scope. -/
  plain : List Directive := []
  /-- Those that decide about what stands in a span, at most one for each scope. -/
  within : List Directive := []
  /-- The thresholds of all directives that were ever added. -/
  thresholds : List Threshold := []
deriving DecidableEq, Repr

namespace Filter

/-! ### Making filters -/

/-- Adds a directive to a list; it replaces one with the same scope. -/
def place : List Directive → Directive → List Directive
  | [], d => [d]
  | e :: ds, d => if d.sameScope e then d :: ds else e :: place ds d

/-- Adds a plain directive. -/
def addPlain (f : Filter) (d : Directive) : Filter :=
  { f with plain := place f.plain d, thresholds := d.threshold :: f.thresholds }

/-- Adds a directive about what stands in a span. -/
def addWithin (f : Filter) (d : Directive) : Filter :=
  { f with within := place f.within d, thresholds := d.threshold :: f.thresholds }

/-- Adds one more directive to a finished filter. -/
def add (f : Filter) (d : Directive) : Filter := if d.isPlain then f.addPlain d else f.addWithin d

/-- The filter of a list of directives. A plain directive that says something about spans decides in
both ways. -/
def ofDirectives (ds : List Directive) : Filter :=
  let plain := (ds.filter (!·.isAboutSpans)) ++ ds.filter fun d => d.isAboutSpans && d.isPlain
  (ds.filter (·.isAboutSpans)).foldl addWithin (plain.foldl addPlain {})

/-! ### Filtering -/

/-- The length of the target; a directive without target comes last. -/
def weight (d : Directive) : Nat :=
  match d.target with
  | some t => t.utf8ByteSize + 1
  | none => 0

/-- The names `a` come after the names `b`, the first difference deciding. -/
def namesAfter : List String → List String → Bool
  | a :: as, b :: bs => if a = b then namesAfter as bs else Text.before b a
  | as, _ => !as.isEmpty

/-- The first directive is more exact: its target is longer, or else it makes more demands. -/
def moreExact (a b : Directive) : Bool :=
  let names (d : Directive) : List String := d.demands.map (·.detail)
  if weight a = weight b then
    if a.demands.length = b.demands.length then namesAfter (names a) (names b)
    else b.demands.length < a.demands.length
  else weight b < weight a

/-- The most exact of some directives. -/
def mostExact (ds : List Directive) : Option Directive :=
  ds.foldl (fun best d => if best.all (moreExact d ·) then some d else best) none

/-- An event passes on its own account. -/
def admits (f : Filter) (e : Event) : Bool :=
  (mostExact (f.plain.filter fun d => d.appliesTo e.target && d.suits e)).any
    (·.threshold.admits e.level)

/-- An event of a level passes on account of a span that it stands in. -/
def admitsWithin (f : Filter) (s : Span) (l : Level) : Bool :=
  f.within.any fun d => d.concerns s && d.meets s && d.threshold.admits l

/-- A span is shown. Directives about it show it, unless no directive at all lets its level through;
a directive that asks what details are might let any level through. -/
def shows (f : Filter) (s : Span) : Bool :=
  (mostExact (f.plain.filter (·.appliesTo s.target))).any (·.threshold.admits s.level)
    || (f.within.any (·.concerns s)
      && (f.thresholds.any (·.admits s.level)
        || f.within.any fun d => d.demands.any (·.wanted.isSome)))

/-- What the filter leaves of an event and the spans that it stands in: nothing if it holds the
event back. -/
def pass (f : Filter) (e : Event) : Option Event :=
  let spans := e.spans.filter f.shows
  if f.admits e || spans.any (f.admitsWithin · e.level) then some { e with spans } else none

/-! ### Reading -/

/-- The directives of a list, its empty places left out. -/
def items (s : String) : List String :=
  (s.splitOn ",").filter (· ≠ "")

/-- Reads a list of directives, all of which must be right. A list of none shuts everything. -/
def parse? (s : String) : Option Filter :=
  ((items s).mapM Directive.parse).toOption.map ofDirectives

/-- Reads a list of directives and leaves out the wrong ones, which are noted. If none is left,
errors are let through. -/
def parseLossy (s : String) : Filter × List String :=
  let read := (items s).map fun item => (item, Directive.parse item)
  let ds := read.filterMap fun r => r.2.toOption
  let notes := read.filterMap fun (item, r) =>
    match r with
    | .error e => some ("ignoring \x60" ++ item ++ "\x60: " ++ e.text)
    | .ok _ => none
  (ofDirectives (if ds = [] then [{ threshold := some .error }] else ds), notes)

end Filter

end Parley.Log
