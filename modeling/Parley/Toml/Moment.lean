/-!
# TOML: dates and times

A moment is a day, a time of day, or both, and with both perhaps a time zone. `Moment.read?` reads
one and `Moment.text` writes it in its plain form: a `T` between day and time, and no more digits of
a fraction of a second than count.
-/

namespace Parley.Toml

/-- A day of the calendar. -/
structure Day where
  year : Nat
  month : Nat
  day : Nat
deriving DecidableEq, Repr

/-- A time of day. -/
structure Clock where
  hour : Nat
  minute : Nat
  second : Nat
  /-- Digits after the point: at most nine, and the last one is not zero. -/
  fraction : List Char
deriving DecidableEq, Repr

/-- How far local time is ahead of universal time. -/
inductive Zone where
  | universal
  | ahead (minutes : Int)
deriving DecidableEq, Repr

/-- A point in time, as far as it is known. -/
structure Moment where
  day : Option Day := none
  clock : Option Clock := none
  zone : Option Zone := none
deriving DecidableEq, Repr

/-! ### Reading -/

/-- Reads a number of exactly `count` digits that lies within bounds. -/
def readField (count least most : Nat) (cs : List Char) : Option (Nat × List Char) :=
  let ds := cs.take count
  let n := ds.foldl (fun n c => 10 * n + (c.toNat - '0'.toNat)) 0
  if ds.length = count ∧ ds.all Char.isDigit ∧ least ≤ n ∧ n ≤ most then some (n, cs.drop count)
  else none

/-- Skips one given character. -/
def skipMark (mark : Char) : List Char → Option (List Char)
  | c :: cs => if c = mark then some cs else none
  | [] => none

/-- The number of days in a month. -/
def Day.count (year month : Nat) : Nat :=
  if month = 2 then
    if year % 4 = 0 ∧ (year % 100 ≠ 0 ∨ year % 400 = 0) then 29 else 28
  else if [4, 6, 9, 11].contains month then 30
  else 31

/-- Reads a day. -/
def Day.read? (cs : List Char) : Option (Day × List Char) := do
  let (year, cs) ← readField 4 0 9999 cs
  let (month, cs) ← readField 2 1 12 (← skipMark '-' cs)
  let (day, cs) ← readField 2 1 (Day.count year month) (← skipMark '-' cs)
  return (⟨year, month, day⟩, cs)

/-- Reads a time of day. There may be a leap second. -/
def Clock.read? (cs : List Char) : Option (Clock × List Char) := do
  let (hour, cs) ← readField 2 0 23 cs
  let (minute, cs) ← readField 2 0 59 (← skipMark ':' cs)
  let (second, cs) ← readField 2 0 60 (← skipMark ':' cs)
  match cs with
  | '.' :: c :: rest =>
    if c.isDigit then
      let ds := ((c :: rest).takeWhile Char.isDigit).take 9
      let fraction := (ds.reverse.dropWhile (· = '0')).reverse
      return (⟨hour, minute, second, fraction⟩, rest.dropWhile Char.isDigit)
    else return (⟨hour, minute, second, []⟩, cs)
  | cs => return (⟨hour, minute, second, []⟩, cs)

/-- Reads a time zone. -/
def Zone.read? : List Char → Option (Zone × List Char)
  | 'Z' :: cs | 'z' :: cs => some (universal, cs)
  | c :: cs => do
    if c ≠ '+' ∧ c ≠ '-' then none
    let (hours, cs) ← readField 2 0 23 cs
    let (minutes, cs) ← readField 2 0 59 (← skipMark ':' cs)
    let n : Int := 60 * hours + minutes
    return (ahead (if c = '-' then -n else n), cs)
  | [] => none

/-- Reads what may follow a day: a time of day and a time zone. -/
def Moment.readAfter (day : Day) (cs : List Char) : Moment × List Char :=
  let time := match cs with
    | c :: cs => if c = 'T' ∨ c = 't' ∨ c = ' ' then Clock.read? cs else none
    | [] => none
  match time with
  | none => (⟨some day, none, none⟩, cs)
  | some (clock, cs) =>
    match Zone.read? cs with
    | some (zone, cs) => (⟨some day, some clock, some zone⟩, cs)
    | none => (⟨some day, some clock, none⟩, cs)

/-- Reads a moment. -/
def Moment.read? (cs : List Char) : Option (Moment × List Char) :=
  match Day.read? cs with
  | some (day, cs) => some (readAfter day cs)
  | none => (Clock.read? cs).map fun (clock, cs) => (⟨none, some clock, none⟩, cs)

/-! ### Writing -/

/-- A number with zeros in front, to a given width. -/
def padded (width n : Nat) : List Char :=
  let ds := Nat.toDigits 10 n
  List.replicate (width - ds.length) '0' ++ ds

/-- The text of a day. -/
def Day.chars (d : Day) : List Char :=
  padded 4 d.year ++ '-' :: padded 2 d.month ++ '-' :: padded 2 d.day

/-- The text of a time of day. -/
def Clock.chars (c : Clock) : List Char :=
  padded 2 c.hour ++ ':' :: padded 2 c.minute ++ ':' :: padded 2 c.second
    ++ if c.fraction = [] then [] else '.' :: c.fraction

/-- The text of a time zone. -/
def Zone.chars : Zone → List Char
  | universal => ['Z']
  | ahead minutes =>
    (if minutes < 0 then '-' else '+') :: padded 2 (minutes.natAbs / 60)
      ++ ':' :: padded 2 (minutes.natAbs % 60)

/-- The text of a moment. -/
def Moment.text (m : Moment) : String :=
  let parts := ((m.day.map Day.chars).toList ++ (m.clock.map Clock.chars).toList)
  String.ofList (List.intercalate ['T'] parts ++ ((m.zone.map Zone.chars).getD []))

end Parley.Toml
