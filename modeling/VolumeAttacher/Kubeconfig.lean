import VolumeAttacher.Fault
import VolumeAttacher.Json.Member
import VolumeAttacher.Json.Reader
import VolumeAttacher.Text.Blank

/-!
# Files that tell how to reach a cluster

Such a file names clusters, users, and contexts, which pair them, and says which context is current.
It is a document in block form: the indentation of a line tells what it belongs to, a name with a
colon begins a member, and a hyphen begins an item. Single values may be plain or quoted, and a whole
value may be written on its line in the form of JSON.
-/

namespace VolumeAttacher
namespace Kubeconfig

/-- A line: its indentation and its text, without blanks around it. -/
structure Line where
  indent : Nat
  text : List Char
  deriving DecidableEq

/-- The text of a line up to a comment, which begins the line or follows a blank, outside quotes. -/
def beforeComment (quote : Option Char) (previous : Char) : List Char → List Char
  | [] => []
  | character :: rest =>
    match quote with
    | some mark =>
      character :: beforeComment (if character = mark then none else some mark) character rest
    | none =>
      if character = '#' && previous = ' ' then []
      else
        let opened :=
          if (character = '"' || character = '\'') && previous = ' ' then some character else none
        character :: beforeComment opened character rest

/-- A line of text, if it says anything. -/
def Line.ofText? (text : String) : Option Line :=
  let characters := beforeComment none ' ' text.toList
  let indent := (characters.takeWhile (· = ' ')).length
  let trimmed := Text.trim characters
  if trimmed.isEmpty || trimmed = ['-', '-', '-'] then none else some ⟨indent, trimmed⟩

/-- The lines of a text. -/
def linesOf (text : String) : List Line := (text.splitOn "\n").filterMap Line.ofText?

/-- A value between quotes. -/
def unquote? (mark : Char) (text : List Char) : Option String :=
  match text.reverse with
  | last :: inner =>
    if last = mark && !inner.contains mark then some (String.ofList inner.reverse) else none
  | [] => none

/-- Whether a plain value holds what would begin a member. -/
def hasMember : List Char → Bool
  | ':' :: [] => true
  | ':' :: ' ' :: _ => true
  | _ :: rest => hasMember rest
  | [] => false

/-- Whether a character would give a plain value that begins with it another meaning. -/
def isIndicator (character : Char) : Bool :=
  "[]\x7b\x7d,&*!|>%@`:".toList.contains character

/-- A value on a single line. -/
def scalar? (text : List Char) : Option Json :=
  match text with
  | '"' :: rest => (unquote? '"' rest).map .text
  | '\'' :: rest => (unquote? '\'' rest).map .text
  | [] | ['~'] => some .null
  | first :: _ =>
    match Json.ofText? (String.ofList text) with
    | some value => some value
    | none =>
      if isIndicator first || hasMember text then none else some (.text (String.ofList text))

/-- The name and the value of a member on a line. -/
def member? : List Char → List Char → Option (String × List Char)
  | seen, ':' :: rest =>
    if rest.isEmpty || rest.head? = some ' ' then
      if seen.isEmpty then none else some (String.ofList seen.reverse, Text.trim rest)
    else member? (':' :: seen) rest
  | seen, character :: rest => member? (character :: seen) rest
  | _, [] => none

/-- The text of an item after its hyphen, and how far it stands to the right of it. -/
def item? : List Char → Option (Nat × List Char)
  | ['-'] => some (1, [])
  | '-' :: ' ' :: rest =>
    let blanks := (rest.takeWhile (· = ' ')).length
    some (2 + blanks, rest.drop blanks)
  | _ => none

/-- The lines that stand further to the right than an indentation, and those after them. -/
def inside (indent : Nat) (lines : List Line) : List Line × List Line :=
  lines.span fun line => indent < line.indent

/-- The lines of the value of a member: those further to the right, and items that stand below its
name. -/
def valueLines (indent : Nat) (lines : List Line) : List Line × List Line :=
  lines.span fun line =>
    indent < line.indent || (line.indent = indent && (item? line.text).isSome)

mutual

/-- The value of lines, with fuel for their nesting. -/
def value? : Nat → List Line → Option Json
  | 0, _ => none
  | _ + 1, [] => some .null
  | fuel + 1, line :: rest =>
    if (item? line.text).isSome then (items? fuel line.indent (line :: rest)).map .array
    else if (member? [] line.text).isSome && (line.text.head?.any fun first => first != '\x7b') then
      (members? fuel line.indent (line :: rest)).map .object
    else if rest.isEmpty then scalar? line.text
    else none

/-- The items of a list whose hyphens have an indentation. -/
def items? : Nat → Nat → List Line → Option (List Json)
  | 0, _, _ => none
  | _ + 1, _, [] => some []
  | fuel + 1, indent, line :: rest => do
    if line.indent ≠ indent then failure
    let (shift, text) ← item? line.text
    let (inner, rest) := inside indent rest
    let first := if text.isEmpty then [] else [⟨indent + shift, text⟩]
    let value ← value? fuel (first ++ inner)
    return value :: (← items? fuel indent rest)

/-- The members of an object whose names have an indentation. -/
def members? : Nat → Nat → List Line → Option (List (String × Json))
  | 0, _, _ => none
  | _ + 1, _, [] => some []
  | fuel + 1, indent, line :: rest => do
    if line.indent ≠ indent then failure
    let (name, text) ← member? [] line.text
    let (inner, rest) := valueLines indent rest
    let value ←
      if text.isEmpty then value? fuel inner
      else if inner.isEmpty then scalar? text
      else none
    return (name, value) :: (← members? fuel indent rest)

end

/-- The document of a text. -/
def document? (text : String) : Option Json :=
  let lines := linesOf text
  value? (2 * text.length + 2) lines

/-- The entry of a name in a list of named entries. -/
def entry? (document : Json) (list name entry : String) : Option Json :=
  ((document.itemsAt list).find? fun item => item.textAt? "name" = some name).bind
    (·.member? entry)

/-- Whether every item of a list in a document passes a test. -/
def allItems (document : Json) (list : String) (test : Json → Bool) : Bool :=
  match document.member? list with
  | none => true
  | some (.array items) => items.all test
  | some _ => false

/-- Whether a document has the form of such a file. -/
def isWellFormed (document : Json) : Bool :=
  let isNamed (item : Json) : Bool := (item.textAt? "name").isSome
  let isContext (item : Json) : Bool :=
    isNamed item && (item.member? "context").all fun context =>
      (context.textAt? "cluster").isSome && (context.textAt? "user").isSome
  document.isObject && allItems document "clusters" isNamed &&
    allItems document "users" isNamed && allItems document "contexts" isContext

/-- The namespace of the current context, if the document leads to a cluster. -/
def defaultNamespace? (document : Json) : Option String := do
  let context ← entry? document "contexts" (← document.textAt? "current-context") "context"
  let cluster ← entry? document "clusters" (← context.textAt? "cluster") "cluster"
  let _ ← entry? document "users" (← context.textAt? "user") "user"
  let _ ← cluster.textAt? "server"
  return context.textAtOr "namespace" "default"

/-- The namespace that the text of a file leads to. -/
def clientNamespace (path text : String) : Except SettingsProblem String :=
  match document? text with
  | none => .error (.kubeconfigUnreadable path "the document is malformed")
  | some document =>
    let document := match document with
      | .null => .object []
      | document => document
    if !isWellFormed document then
      .error (.kubeconfigUnreadable path "the document has another form")
    else
      match defaultNamespace? document with
      | some nameSpace => .ok nameSpace
      | none => .error (.kubeconfigInvalid "it leads to no cluster")

end Kubeconfig

end VolumeAttacher
