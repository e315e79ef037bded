import HeaderLint.Message.Heading
import HeaderLint.Text.Blank
import HeaderLint.Text.Cut
import HeaderLint.Text.Lines

set_option autoImplicit false

namespace HeaderLint

open Text

/-- What the rules see of a commit message. `marked` tells of an exclamation mark before the colon,
`footer` of a line below the header that declares a breaking change. -/
structure Message where
  header : String
  type : Option String
  scope : Option String
  subject : Option String
  marked : Bool
  footer : Bool
  deriving Repr, DecidableEq

namespace Message

def isFooter (line : List Char) : Bool :=
  "BREAKING CHANGE: ".toList.isPrefixOf line || "BREAKING-CHANGE: ".toList.isPrefixOf line

def hasFooter (s : List Char) : Bool :=
  match afterFirstLine? s with
  | none => false
  | some body => (pieces body).any isFooter

def ofChars (s : List Char) : Message :=
  let header := firstLine s
  let heading := Heading.read? header
  { header := .ofList header
    type := heading.bind fun h => if h.type.isEmpty then none else some (.ofList h.type)
    scope := heading.bind fun h => h.scope.map .ofList
    subject := (cut? [':', ' '] header).map fun (_, rest) => .ofList (trim rest)
    marked := heading.any (·.marked)
    footer := hasFooter s }

def parse (text : String) : Message :=
  ofChars text.toList

def headerLength (message : Message) : Nat :=
  message.header.length

def isBreaking (message : Message) : Bool :=
  message.marked || message.footer

end Message

end HeaderLint
