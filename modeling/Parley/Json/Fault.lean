/-!
# Faults in JSON texts

Why a text is no JSON document, and where. A place is given by the characters that come after it; in
messages it is a line and a column, and columns are counted in bytes of UTF-8.
-/

namespace Parley.Json

/-- Why a text is no JSON document. -/
inductive Cause where
  | endInArray
  | endInObject
  | endInString
  | endInValue
  | colonWanted
  | itemEndWanted
  | entryEndWanted
  | wordWanted
  | valueWanted
  | keyWanted
  | trailingComma
  | trailingCharacters
  | invalidEscape
  | brokenPair
  | lonelyHalf
  | controlCharacter
  | invalidNumber
  | numberOutOfRange
  | tooDeep
deriving DecidableEq, Repr

/-- The text of a cause. -/
def Cause.text : Cause → String
  | endInArray => "EOF while parsing a list"
  | endInObject => "EOF while parsing an object"
  | endInString => "EOF while parsing a string"
  | endInValue => "EOF while parsing a value"
  | colonWanted => "expected \x60:\x60"
  | itemEndWanted => "expected \x60,\x60 or \x60]\x60"
  | entryEndWanted => "expected \x60,\x60 or \x60\x7d\x60"
  | wordWanted => "expected ident"
  | valueWanted => "expected value"
  | keyWanted => "key must be a string"
  | trailingComma => "trailing comma"
  | trailingCharacters => "trailing characters"
  | invalidEscape => "invalid escape"
  | brokenPair => "unexpected end of hex escape"
  | lonelyHalf => "lone leading surrogate in hex escape"
  | controlCharacter => "control character (\\u0000-\\u001F) found while parsing a string"
  | invalidNumber => "invalid number"
  | numberOutOfRange => "number out of range"
  | tooDeep => "recursion limit exceeded"

/-- A fault, and the number of bytes after it. -/
structure Fault where
  cause : Cause
  after : Nat
deriving DecidableEq, Repr

/-- The number of bytes that characters take. -/
def byteCount (cs : List Char) : Nat := cs.foldl (fun n c => n + c.utf8Size) 0

/-- A fault in front of some characters. -/
def Fault.before (cause : Cause) (cs : List Char) : Fault := ⟨cause, byteCount cs⟩

/-- A fault at the first byte of some characters, or at the end if there are none. -/
def Fault.at (cause : Cause) (cs : List Char) : Fault := ⟨cause, byteCount cs - 1⟩

/-- The message about a fault in a document. -/
def Fault.text (f : Fault) (document : String) : String :=
  let bytes := document.toByteArray.data.toList
  let passed := bytes.take (bytes.length - f.after)
  let line := passed.count '\n'.toUInt8 + 1
  let column := (passed.reverse.takeWhile (· ≠ '\n'.toUInt8)).length
  f.cause.text ++ " at line " ++ toString line ++ " column " ++ toString column

end Parley.Json
