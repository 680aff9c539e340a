import DeviceIdentity.Pem.Base64

/-!
# Sections

A text of labelled sections, each between a line that begins it and a line that ends it, with the
base64 text of its contents in between. Lines end at a line feed or a carriage return. What stands
outside of sections is passed over, and so are sections whose label is not known.
-/
namespace DeviceIdentity.Pem

/-- Why the sections of a text cannot be read. -/
inductive SectionFault where
  /-- A line that starts like the beginning of a section and does not end like one. -/
  | illegalStart (line : List Char)
  /-- A section that no line ends. -/
  | unclosed (label : List Char)
  | base64 (fault : Base64.Fault)
  /-- Any other fault, in words. -/
  | other (text : String)
deriving DecidableEq, Repr

/-- The bytes of a text as a list of numbers. -/
def byteList (cs : List Char) : String :=
  let bytes := cs.flatMap String.utf8EncodeChar
  "[" ++ ", ".intercalate (bytes.map fun b => toString b.toNat) ++ "]"

/-- The text of a fault. -/
def SectionFault.message : SectionFault → String
  | illegalStart line => "illegal section start: " ++ byteList line
  | unclosed label => "missing section end marker: " ++ byteList label
  | base64 fault => "base64 decode error: " ++ fault.message
  | other text => text

/-! ## Lines -/

/-- Whether a character ends a line. -/
def endsLine (c : Char) : Bool := c = '\n' || c = '\r'

/-- The lines of a text, after those in `before` and the beginning of a line in `line`, both in
reverse. The characters after the last line ending are a line unless there are none. -/
def linesAfter (before : List (List Char)) (line : List Char) : List Char → List (List Char)
  | [] => (if line = [] then before else line.reverse :: before).reverse
  | c :: cs =>
    if endsLine c then linesAfter (line.reverse :: before) [] cs
    else linesAfter before (c :: line) cs

/-- The lines of a text. -/
def lines (text : List Char) : List (List Char) :=
  linesAfter [] [] text

/-! ## Markers -/

/-- What a line starts with that begins a section. -/
def beginMarker : List Char := "-----BEGIN ".toList

/-- What a line starts with that ends the section with that label. -/
def endMarker (label : List Char) : List Char :=
  "-----END ".toList ++ label ++ "-----".toList

/-- Counts dashes, with blanks between them, and gives what comes after the last of them. -/
def dashes (count : Nat) (after : List Char) : List Char → Nat × List Char
  | [] => (count, after)
  | c :: cs =>
    if c = '-' then dashes (count + 1) cs cs
    else if c = ' ' then dashes count after cs
    else (count, after)

/-- The label in a line that begins a section, from behind the marker: what stands before five
dashes at the end of the line. -/
def label? (line : List Char) : Option (List Char) :=
  match dashes 0 line.reverse line.reverse with
  | (5, label) => some label.reverse
  | _ => none

/-- The label of certificates. -/
def certificateLabel : List Char := "CERTIFICATE".toList

/-- Labels of sections with contents that are decoded. -/
def knownLabels : List (List Char) :=
  [certificateLabel, "PUBLIC KEY".toList, "RSA PRIVATE KEY".toList, "PRIVATE KEY".toList,
    "EC PRIVATE KEY".toList, "X509 CRL".toList, "CERTIFICATE REQUEST".toList, "ECHCONFIG".toList]

/-! ## Reading -/

/-- The line reader: the label of the section that it is in, if it is in one, and the lines that it
has gathered, the last one first. -/
structure Collected where
  label : Option (List Char)
  body : List (List Char)
deriving DecidableEq, Repr

namespace Collected

/-- Nothing has been gathered. -/
def none : Collected := ⟨.none, []⟩

/-- The characters that have been gathered. -/
def text (c : Collected) : List Char := c.body.reverse.flatten

end Collected

/-- What a line does to the reader: it goes on, or it has decoded a section. -/
inductive Progress where
  | going (collected : Collected)
  | decoded (label : List Char) (contents : List UInt8)

/-- One line. A line that begins a section sets the label and leaves what has been gathered; the end
of a section without a known label drops it. -/
def readLine (c : Collected) (line : List Char) : Except SectionFault Progress :=
  -- A section can begin inside of another one, which then never ends.
  if beginMarker.isPrefixOf line then
    match label? (line.drop beginMarker.length) with
    | some label => .ok (.going { c with label := some label })
    | none => .error (.illegalStart line)
  else
    match c.label with
    | none => .ok (.going c)
    | some label =>
      if (endMarker label).isPrefixOf line then
        if label ∈ knownLabels then
          match Base64.decode c.text with
          | .ok contents => .ok (.decoded label contents)
          | .error fault => .error (.base64 fault)
        else .ok (.going .none)
      else .ok (.going { c with body := line :: c.body })

/-- The contents of the first section with that label. Each decoded section starts the reader
anew. -/
def firstSection (wanted : List Char) (c : Collected) :
    List (List Char) → Except SectionFault (Option (List UInt8))
  | [] =>
    match c.label with
    | some label => .error (.unclosed label)
    | none => .ok none
  | line :: rest =>
    match readLine c line with
    | .error fault => .error fault
    | .ok (.going c) => firstSection wanted c rest
    | .ok (.decoded label contents) =>
      if label = wanted then .ok (some contents) else firstSection wanted .none rest

end DeviceIdentity.Pem
