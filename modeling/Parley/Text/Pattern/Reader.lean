import Parley.Text.Hex
import Parley.Text.Pattern

/-!
# Reading patterns

How patterns are written. A character stands for itself, but for `\ . + * ? ( ) | [ { ^ $`, which a
backslash makes stand for themselves. A point stands for any character but the end of a line, and
sets of characters stand in brackets: `[a-z]`, `[^a-z]`, with `&&`, `--` and `~~` between sets, and
with sets inside sets, which may be named as in `[[:alpha:]]`. Sequences are written side by side,
choices with `|`, and repetitions with `*`, `+` and `?`; a further `?` makes them reluctant.
Parentheses group, and may switch modes, as in `(?s:.)` or `(?s)`.

Neither classes such as `\d`, nor the edges of words, nor counted repetitions can be written, and
where the case of letters shall not matter, there can be no letters.
-/

namespace Parley.Text.Pattern

/-- What certain signs mean. -/
structure Mode where
  /-- The case of letters does not matter. -/
  anyCase : Bool := false
  /-- `^` and `$` are the ends of lines and not those of the text. -/
  lines : Bool := false
  /-- A point also stands for the end of a line. -/
  anyChar : Bool := false
  /-- Repetitions are reluctant, and a further `?` makes them eager. -/
  reluctant : Bool := false
deriving DecidableEq, Repr

/-! ### Characters and sets -/

/-- What a backslash makes of the characters after it. -/
inductive Escaped where
  | char (c : Char)
  | place (p : Place)
deriving DecidableEq, Repr

/-- Reads what comes after a backslash. -/
def readEscaped : List Char → Option (Escaped × List Char)
  | 'x' :: cs => numbered 2 cs
  | 'u' :: cs => numbered 4 cs
  | 'U' :: cs => numbered 8 cs
  | 'a' :: cs => some (.char '\x07', cs)
  | 'f' :: cs => some (.char '\x0c', cs)
  | 't' :: cs => some (.char '\t', cs)
  | 'n' :: cs => some (.char '\n', cs)
  | 'r' :: cs => some (.char '\r', cs)
  | 'v' :: cs => some (.char '\x0b', cs)
  | 'A' :: cs => some (.place .textStart, cs)
  | 'z' :: cs => some (.place .textEnd, cs)
  | c :: cs =>
    if c.toNat < 128 && !c.isAlphanum && c ≠ '<' && c ≠ '>' then some (.char c, cs) else none
  | [] => none
where
  /-- Reads a character given by its number. -/
  numbered (width : Nat) (cs : List Char) : Option (Escaped × List Char) := do
    let (n, cs) ← hexPrefix? width cs
    let c ← charOfNat? n
    return (.char c, cs)

/-- Reads one character of a set. -/
def readMember : List Char → Option (Char × List Char)
  | '\\' :: cs =>
    match readEscaped cs with
    | some (.char c, cs) => some (c, cs)
    | _ => none
  | c :: cs => some (c, cs)
  | [] => none

/-- Reads the name of a set after its opening bracket: `:alpha:]`, or `:^alpha:]` for all other
characters. -/
def readName? : List Char → Option (CharSet × List Char)
  | ':' :: '^' :: cs => (named cs).map fun (set, cs) => (.outside set, cs)
  | ':' :: cs => named cs
  | _ => none
where
  /-- Reads a name and the end of the brackets. -/
  named (cs : List Char) : Option (CharSet × List Char) :=
    match cs.dropWhile (· ≠ ':') with
    | ':' :: ']' :: rest =>
      (CharSet.ofName? (String.ofList (cs.takeWhile (· ≠ ':')))).map (·, rest)
    | _ => none

mutual

/-- Reads a set after its opening bracket. Hyphens at its start, and a closing bracket right there,
stand for themselves. -/
def readSet : Nat → List Char → Option (CharSet × List Char)
  | 0, _ => none
  | fuel + 1, '^' :: cs => (readStart fuel cs).map fun (set, cs) => (.outside set, cs)
  | fuel + 1, cs => readStart fuel cs

/-- Reads a set whose members are to follow. -/
def readStart : Nat → List Char → Option (CharSet × List Char)
  | 0, _ => none
  | fuel + 1, '-' :: cs => readMembers fuel id (.just '-') (cs.dropWhile (· = '-'))
  | fuel + 1, ']' :: cs => readMembers fuel id (.just ']') cs
  | fuel + 1, cs => readMembers fuel id .none cs

/-- Reads the rest of a set. `here` holds the members since the last sign between sets, and `join`
makes the whole of it and what stands before that sign. -/
def readMembers : Nat → (CharSet → CharSet) → CharSet → List Char → Option (CharSet × List Char)
  | 0, _, _, _ => none
  | _ + 1, _, _, [] => none
  | _ + 1, join, here, ']' :: cs => some (join here, cs)
  | fuel + 1, join, here, '&' :: '&' :: cs => readMembers fuel (.both (join here)) .none cs
  | fuel + 1, join, here, '-' :: '-' :: cs => readMembers fuel (.without (join here)) .none cs
  | fuel + 1, join, here, '~' :: '~' :: cs => readMembers fuel (.oneOf (join here)) .none cs
  | fuel + 1, join, here, '[' :: cs =>
    match readName? cs with
    | some (set, cs) => readMembers fuel join (.either here set) cs
    | none => do
      let (set, cs) ← readSet fuel cs
      readMembers fuel join (.either here set) cs
  | fuel + 1, join, here, cs => do
    let (first, cs) ← readMember cs
    let alone := readMembers fuel join (.either here (.just first))
    match cs with
    | '-' :: c :: rest =>
      if c = ']' || c = '-' then alone cs
      else
        let (last, cs) ← readMember (c :: rest)
        if first ≤ last then readMembers fuel join (.either here (.range first last)) cs else none
    | cs => alone cs

end

/-! ### Groups and repetitions -/

/-- Switches modes by their letters, on or off. Each letter may be there once. -/
def Mode.switch? (m : Mode) (letters : List Char) : Option Mode :=
  let on := letters.takeWhile (· ≠ '-')
  let off := letters.drop (on.length + 1)
  let known (c : Char) : Bool := "imsU".toList.contains c
  if !(on.all fun c => known c || c = 'u') || !off.all known then none
  else if (on ++ off).eraseDups ≠ on ++ off || letters.getLast? = some '-' then none
  else
    let now (old : Bool) (c : Char) : Bool := on.contains c || old && !off.contains c
    some ⟨now m.anyCase 'i', now m.lines 'm', now m.anyChar 's', now m.reluctant 'U'⟩

/-- The start of a group after its parenthesis and question mark. -/
inductive Opening where
  /-- A group with a mode of its own. -/
  | group (m : Mode)
  /-- No group, but a mode for what follows. -/
  | mode (m : Mode)
deriving DecidableEq, Repr

/-- Reads the start of a group: the name of the group, or modes. -/
def readOpening (m : Mode) : List Char → Option (Opening × List Char)
  | 'P' :: '<' :: cs => name cs
  | '<' :: cs => name cs
  | cs =>
    let letters := cs.takeWhile fun c => c ≠ ':' && c ≠ ')'
    match cs.drop letters.length with
    | ':' :: cs => (m.switch? letters).map fun m => (.group m, cs)
    | ')' :: cs => if letters = [] then none else (m.switch? letters).map fun m => (.mode m, cs)
    | _ => none
where
  /-- Reads a name and its end. -/
  name (cs : List Char) : Option (Opening × List Char) :=
    let word := cs.takeWhile (· ≠ '>')
    let isInner (c : Char) : Bool := c.isAlphanum || "_.[]".toList.contains c
    if word.head?.any (fun c => c.isAlpha || c = '_') && word.all isInner then
      (cs.drop word.length).tail?.map (.group m, ·)
    else none

/-- Applies the repetitions that follow a pattern. -/
def readRepeats (m : Mode) (p : Pattern) : List Char → Pattern × List Char
  | '*' :: '?' :: cs => readRepeats m (many p m.reluctant) cs
  | '*' :: cs => readRepeats m (many p !m.reluctant) cs
  | '+' :: '?' :: cs => readRepeats m (seq p (many p m.reluctant)) cs
  | '+' :: cs => readRepeats m (seq p (many p !m.reluctant)) cs
  | '?' :: '?' :: cs => readRepeats m (optional p m.reluctant) cs
  | '?' :: cs => readRepeats m (optional p !m.reluctant) cs
  | cs => (p, cs)

/-- Reads a sign or a character that stands for itself. -/
def readSign (m : Mode) : List Char → Option (Pattern × List Char)
  | '.' :: cs => some (one (.outside (if m.anyChar then .none else .just '\n')), cs)
  | '^' :: cs => some (place (if m.lines then .lineStart else .textStart), cs)
  | '$' :: cs => some (place (if m.lines then .lineEnd else .textEnd), cs)
  | '\\' :: cs => do
    match ← readEscaped cs with
    | (.place p, cs) => return (place p, cs)
    | (.char c, cs) => if m.anyCase then none else return (one (.just c), cs)
  | c :: cs =>
    if m.anyCase || "*+?\x7b".toList.contains c then none else some (one (.just c), cs)
  | [] => none

mutual

/-- Reads a choice. A mode that is switched in a branch holds in the next ones. -/
def readChoice : Nat → Mode → List Char → Option (Pattern × List Char)
  | 0, _, _ => none
  | fuel + 1, m, cs => do
    let (p, m, cs) ← readRun fuel m cs
    match cs with
    | '|' :: cs =>
      let (q, cs) ← readChoice fuel m cs
      return (choice p q, cs)
    | cs => return (p, cs)

/-- Reads a sequence, and gives the mode at its end. -/
def readRun : Nat → Mode → List Char → Option (Pattern × Mode × List Char)
  | 0, _, _ => none
  | fuel + 1, m, cs => do
    let andOn (p : Pattern) (cs : List Char) : Option (Pattern × Mode × List Char) := do
      let (p, cs) := readRepeats m p cs
      let (q, m, cs) ← readRun fuel m cs
      return (p.andThen q, m, cs)
    let group (inner : Mode) (cs : List Char) : Option (Pattern × Mode × List Char) := do
      match ← readChoice fuel inner cs with
      | (p, ')' :: cs) => andOn p cs
      | _ => none
    match cs with
    | [] | '|' :: _ | ')' :: _ => return (nothing, m, cs)
    | '(' :: '?' :: cs =>
      match ← readOpening m cs with
      | (.group inner, cs) => group inner cs
      | (.mode m, cs) => readRun fuel m cs
    | '(' :: cs => group m cs
    | '[' :: cs =>
      let (set, cs) ← readSet fuel cs
      if m.anyCase then none else andOn (one set) cs
    | cs =>
      let (p, cs) ← readSign m cs
      andOn p cs

end

/-- Reads a pattern. -/
def parse? (s : String) : Option Pattern :=
  match readChoice (2 * s.toList.length + 2) {} s.toList with
  | some (p, []) => some p
  | _ => none

end Parley.Text.Pattern
