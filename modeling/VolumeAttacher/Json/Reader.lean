import VolumeAttacher.Json
import VolumeAttacher.Text.Hex

/-!
# Reading JSON

A text is cut into tokens one character at a time, and the tokens are put together with a stack of
the arrays and objects that are still open.
-/

namespace VolumeAttacher
namespace Json

/-- A token. -/
inductive Token where
  | openArray | closeArray | openObject | closeObject | comma | colon
  | null | boolean (value : Bool)
  | whole (value : Int)
  | decimal (mantissa exponent : Int)
  | text (value : String)
  deriving DecidableEq

/-- Where a lexer stands: between tokens, or inside one whose characters it has in reverse order. -/
inductive LexState where
  | between
  /-- Inside a numeral or a word. -/
  | bare (seen : List Char)
  /-- Inside a string. -/
  | string (seen : List Char)
  /-- After a backslash in a string. -/
  | escape (seen : List Char)
  /-- Inside a code unit, with the digits so far and the high surrogate before it, if any. -/
  | unit (seen : List Char) (high : Option Nat) (digits value : Nat)
  /-- After a high surrogate. -/
  | surrogate (seen : List Char) (high : Nat)
  /-- After a high surrogate and a backslash. -/
  | surrogateEscape (seen : List Char) (high : Nat)
  deriving DecidableEq

/-- The digits of a whole part: a lone zero, or digits that do not start with one. -/
def wholePart? (digits : List Char) : Option Nat :=
  match digits with
  | [] => none
  | '0' :: _ :: _ => none
  | _ => some (Nat.ofDigitChars 10 digits 0)

/-- The exponent of a numeral: digits after an optional sign. -/
def exponentPart? (text : List Char) : Option Int :=
  let (sign, digits) : Int × List Char := match text with
    | '-' :: rest => (-1, rest)
    | '+' :: rest => (1, rest)
    | rest => (1, rest)
  if digits.isEmpty || !digits.all Char.isDigit then none
  else some (sign * (Nat.ofDigitChars 10 digits 0 : Nat))

/-- The token of an unsigned numeral. -/
def unsigned? (negative : Bool) (text : List Char) : Option Token := do
  let digits := text.takeWhile Char.isDigit
  let value ← wholePart? digits
  let signed : Nat → Int := fun value => if negative then -(value : Int) else value
  match text.dropWhile Char.isDigit with
  | [] =>
    if negative && value = 0 then some (.decimal 0 0) else some (.whole (signed value))
  | '.' :: rest =>
    let fraction := rest.takeWhile Char.isDigit
    if fraction.isEmpty then none
    else
      let mantissa := signed (Nat.ofDigitChars 10 (digits ++ fraction) 0)
      match rest.dropWhile Char.isDigit with
      | [] => some (.decimal mantissa (-fraction.length))
      | mark :: rest =>
        if mark = 'e' || mark = 'E' then
          (exponentPart? rest).map fun exponent => .decimal mantissa (exponent - fraction.length)
        else none
  | mark :: rest =>
    if mark = 'e' || mark = 'E' then
      (exponentPart? rest).map fun exponent => .decimal (signed value) exponent
    else none

/-- The token of a numeral or a word. -/
def bareToken? (text : List Char) : Option Token :=
  if text = ['n', 'u', 'l', 'l'] then some .null
  else if text = ['t', 'r', 'u', 'e'] then some (.boolean true)
  else if text = ['f', 'a', 'l', 's', 'e'] then some (.boolean false)
  else match text with
    | '-' :: rest => unsigned? true rest
    | _ => unsigned? false text

/-- A character that belongs to a numeral or a word. -/
def isBare (character : Char) : Bool :=
  character.isAlphanum || character = '-' || character = '+' || character = '.'

/-- A blank between tokens. -/
def isSpace (character : Char) : Bool :=
  character = ' ' || character = '\t' || character = '\n' || character = '\r'

/-- The character of a one-letter escape. -/
def unescape? (letter : Char) : Option Char :=
  if letter = '"' || letter = '\\' || letter = '/' then some letter
  else if letter = 'b' then some '\x08'
  else if letter = 'f' then some '\x0c'
  else if letter = 'n' then some '\n'
  else if letter = 'r' then some '\r'
  else if letter = 't' then some '\t'
  else none

/-- One character between tokens. -/
def lexBetween (character : Char) : Option (List Token × LexState) :=
  if isSpace character then some ([], .between)
  else if character = '"' then some ([], .string [])
  else if character = '[' then some ([.openArray], .between)
  else if character = ']' then some ([.closeArray], .between)
  else if character = '\x7b' then some ([.openObject], .between)
  else if character = '\x7d' then some ([.closeObject], .between)
  else if character = ',' then some ([.comma], .between)
  else if character = ':' then some ([.colon], .between)
  else if isBare character then some ([], .bare [character])
  else none

/-- The end of a code unit: a character, or the first half of one. -/
def closeUnit (seen : List Char) (high : Option Nat) (value : Nat) : Option LexState :=
  match high with
  | none =>
    if 0xd800 ≤ value && value ≤ 0xdbff then some (.surrogate seen value)
    else if 0xdc00 ≤ value && value ≤ 0xdfff then none
    else some (.string (Char.ofNat value :: seen))
  | some high =>
    if 0xdc00 ≤ value && value ≤ 0xdfff then
      some (.string (Char.ofNat (0x10000 + (high - 0xd800) * 0x400 + (value - 0xdc00)) :: seen))
    else none

/-- The tokens that one character completes, and where it leaves the lexer. -/
def lexStep (state : LexState) (character : Char) : Option (List Token × LexState) :=
  match state with
  | .between => lexBetween character
  | .bare seen =>
    if isBare character then some ([], .bare (character :: seen))
    else do
      let token ← bareToken? seen.reverse
      let (tokens, next) ← lexBetween character
      return (token :: tokens, next)
  | .string seen =>
    if character = '"' then some ([.text (String.ofList seen.reverse)], .between)
    else if character = '\\' then some ([], .escape seen)
    else if character.toNat < 32 then none
    else some ([], .string (character :: seen))
  | .escape seen =>
    if character = 'u' then some ([], .unit seen none 0 0)
    else (unescape? character).map fun value => ([], .string (value :: seen))
  | .unit seen high digits value => do
    let digit ← Text.hexDigitValue? character
    let value := value * 16 + digit
    if digits = 3 then return ([], ← closeUnit seen high value)
    else return ([], .unit seen high (digits + 1) value)
  | .surrogate seen high =>
    if character = '\\' then some ([], .surrogateEscape seen high) else none
  | .surrogateEscape seen high =>
    if character = 'u' then some ([], .unit seen (some high) 0 0) else none

/-- The tokens that the end of the text completes. -/
def lexEnd : LexState → Option (List Token)
  | .between => some []
  | .bare seen => (bareToken? seen.reverse).map fun token => [token]
  | _ => none

/-- The tokens of a text. -/
def lex (state : LexState) : List Char → Option (List Token)
  | [] => lexEnd state
  | character :: rest => do
    let (tokens, next) ← lexStep state character
    let others ← lex next rest
    return tokens ++ others

/-- An array or object that is still open, its parts so far in reverse order. -/
inductive Open where
  | array (items : List Json)
  /-- An object, and the name of the member whose value comes next. -/
  | object (members : List (String × Json)) (name : String)

/-- What a reader accepts next. -/
inductive Expect where
  /-- A value. -/
  | value
  /-- A value, or the end of the array just opened. -/
  | firstItem
  /-- The name of a member. -/
  | name
  /-- The name of a member, or the end of the object just opened. -/
  | firstName
  /-- The colon after a name. -/
  | colon (name : String)
  /-- A comma or an end, after a value. -/
  | next (value : Json)

/-- The value that a token is. -/
def Token.scalar? : Token → Option Json
  | .null => some .null
  | .boolean value => some (.boolean value)
  | .whole value => some (.whole value)
  | .decimal mantissa exponent => some (.decimal mantissa exponent)
  | .text value => some (.text value)
  | _ => none

/-- A state of the reader: the open arrays and objects, innermost first, and what comes next. An
object whose name is being read stands on the stack with the names before it. -/
structure ReadState where
  stack : List Open
  expect : Expect

/-- A value begins. -/
def beginValue (stack : List Open) (token : Token) : Option ReadState :=
  match token with
  | .openArray => some ⟨.array [] :: stack, .firstItem⟩
  | .openObject => some ⟨.object [] "" :: stack, .firstName⟩
  | token => token.scalar?.map fun value => ⟨stack, .next value⟩

/-- One token. -/
def readStep (state : ReadState) (token : Token) : Option ReadState :=
  match state.expect, token, state.stack with
  | .firstItem, .closeArray, .array _ :: stack => some ⟨stack, .next (.array [])⟩
  | .firstItem, token, stack => beginValue stack token
  | .value, token, stack => beginValue stack token
  | .firstName, .closeObject, .object _ _ :: stack => some ⟨stack, .next (.object [])⟩
  | .firstName, .text name, stack => some ⟨stack, .colon name⟩
  | .name, .text name, stack => some ⟨stack, .colon name⟩
  | .colon name, .colon, .object members _ :: stack =>
    some ⟨.object members name :: stack, .value⟩
  | .next value, .comma, .array items :: stack => some ⟨.array (value :: items) :: stack, .value⟩
  | .next value, .comma, .object members name :: stack =>
    some ⟨.object ((name, value) :: members) "" :: stack, .name⟩
  | .next value, .closeArray, .array items :: stack =>
    some ⟨stack, .next (.array (value :: items).reverse)⟩
  | .next value, .closeObject, .object members name :: stack =>
    some ⟨stack, .next (.object ((name, value) :: members).reverse)⟩
  | _, _, _ => none

/-- The value of a whole list of tokens. -/
def readTokens (tokens : List Token) : Option Json := do
  let final ← tokens.foldlM readStep ⟨[], .value⟩
  match final with
  | ⟨[], .next value⟩ => some value
  | _ => none

/-- The value that a text stands for. -/
def ofText? (text : String) : Option Json := do
  readTokens (← lex .between text.toList)

end Json

end VolumeAttacher
