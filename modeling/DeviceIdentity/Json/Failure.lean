import DeviceIdentity.Text.Glyph

/-!
# Reading failures

Why a JSON text cannot be read, and where. A failure is raised by a reader that sees only the rest
of the text; it says how many bytes lie behind it, and the line and column follow once the whole
text is at hand (`Failure.position`). The members and items in which a failure arose are collected
on the way out (`Failure.under`).
-/
namespace DeviceIdentity.Json

open Text (Glyph)

/-- Why a text was refused. -/
inductive Cause where
  -- the text ends early
  | endInValue
  | endInString
  | endInArray
  | endInObject
  -- the text is no JSON
  | expectedValue
  | expectedLiteral
  | expectedColon
  | expectedCommaOrBracket
  | expectedCommaOrBrace
  | trailingComma
  | trailingText
  | nameNotQuoted
  | controlCharacter
  | invalidEscape
  | loneSurrogate
  | unfinishedPair
  | notUnicode
  | invalidNumber
  | numberOutOfRange
  | tooDeep
  -- the value is not of the kind that is read
  | wrongType (found expected : String)
  | wrongLength (found : Nat) (expected : String)
  | missingMember (name : String)
  | repeatedMember (name : String)
  | unknownCase (name : String) (cases : List String)
deriving DecidableEq, Repr

namespace Cause

/-- Names in back quotes, as alternatives. -/
def alternatives : List String → String
  | [] => "nothing"
  | [a] => "`" ++ a ++ "`"
  | [a, b] => "`" ++ a ++ "` or `" ++ b ++ "`"
  | names => "one of " ++ ", ".intercalate (names.map fun a => "`" ++ a ++ "`")

/-- The text of a cause, without its place. -/
def message : Cause → String
  | endInValue => "EOF while parsing a value"
  | endInString => "EOF while parsing a string"
  | endInArray => "EOF while parsing a list"
  | endInObject => "EOF while parsing an object"
  | expectedValue => "expected value"
  | expectedLiteral => "expected ident"
  | expectedColon => "expected `:`"
  | expectedCommaOrBracket => "expected `,` or `]`"
  | expectedCommaOrBrace => "expected `,` or `\x7d`"
  | trailingComma => "trailing comma"
  | trailingText => "trailing characters"
  | nameNotQuoted => "key must be a string"
  | controlCharacter => "control character (\\u0000-\\u001F) found while parsing a string"
  | invalidEscape => "invalid escape"
  | loneSurrogate => "lone leading surrogate in hex escape"
  | unfinishedPair => "unexpected end of hex escape"
  | notUnicode => "invalid unicode code point"
  | invalidNumber => "invalid number"
  | numberOutOfRange => "number out of range"
  | tooDeep => "recursion limit exceeded"
  | wrongType found expected => "invalid type: " ++ found ++ ", expected " ++ expected
  | wrongLength found expected => "invalid length " ++ toString found ++ ", expected " ++ expected
  | missingMember name => "missing field `" ++ name ++ "`"
  | repeatedMember name => "duplicate field `" ++ name ++ "`"
  | unknownCase name cases => "unknown variant `" ++ name ++ "`, expected " ++ alternatives cases

/-- Whether the text is JSON, but not of the kind that is read. -/
def isMismatch : Cause → Bool
  | wrongType .. | wrongLength .. | missingMember .. | repeatedMember .. | unknownCase .. => true
  | _ => false

end Cause

/-- A step on the way from the root of a value to one of its parts. -/
inductive Segment where
  | member (name : String)
  | item (index : Nat)
  /-- A member whose name could not be read. -/
  | unnamed
deriving DecidableEq, Repr

/-- The text of a path: names with a point before each but the first, indices in brackets. -/
def pathText (path : List Segment) : String :=
  go true path
where
  go (first : Bool) : List Segment → String
    | [] => ""
    | .item i :: rest => "[" ++ toString i ++ "]" ++ go false rest
    | .member name :: rest => (if first then "" else ".") ++ name ++ go false rest
    | .unnamed :: rest => (if first then "" else ".") ++ "?" ++ go false rest

/-- A line and a column in a text. Columns count bytes. -/
structure Position where
  line : Nat
  column : Nat
deriving DecidableEq, Repr

/-- The position after so many bytes of a text. -/
def Position.after (text : List Glyph) (bytes : Nat) : Position :=
  go bytes ⟨1, 0⟩ text
where
  go (bytes : Nat) (p : Position) : List Glyph → Position
    | [] => p
    | g :: rest =>
      if bytes = 0 then p
      else if g = .char '\n' then go (bytes - 1) ⟨p.line + 1, 0⟩ rest
      else go (bytes - g.byteSize) ⟨p.line, p.column + min bytes g.byteSize⟩ rest

/-- A reading that failed: the cause, the number of bytes that lie behind it, and the way from the
root to the part that was read. -/
structure Failure where
  cause : Cause
  unread : Nat
  path : List Segment
deriving DecidableEq, Repr

namespace Failure

/-- A failure just before what is left. -/
def before (rest : List Glyph) (cause : Cause) : Failure :=
  ⟨cause, Glyph.bytesOf rest, []⟩

/-- A failure one byte into what is left, or at the end if nothing is left. -/
def inside (rest : List Glyph) (cause : Cause) : Failure :=
  ⟨cause, Glyph.bytesOf rest - 1, []⟩

/-- The failure, seen from one step further out. -/
def under (segment : Segment) (f : Failure) : Failure :=
  { f with path := segment :: f.path }

/-- Where in the whole text the failure is. -/
def position (text : List Glyph) (f : Failure) : Position :=
  Position.after text (Glyph.bytesOf text - f.unread)

/-- The cause with its line and column in the whole text. -/
def message (text : List Glyph) (f : Failure) : String :=
  let p := f.position text
  f.cause.message ++ " at line " ++ toString p.line ++ " column " ++ toString p.column

/-- The message after its path, if any step of the path is known. -/
def messageWithPath (text : List Glyph) (f : Failure) : String :=
  if f.path.all (· == .unnamed) then f.message text
  else pathText f.path ++ ": " ++ f.message text

end Failure

/-- A result, or why there is none. -/
abbrev Reading := Except Failure

/-- A reader of the front of a text. It answers a value and the rest of the text. -/
abbrev Reader (α : Type) := List Glyph → Reading (α × List Glyph)

end DeviceIdentity.Json
