import SearchQuery.Json.Numeral

/-!
# Tokens

A text is a sequence of tokens with blanks between them. A token keeps what only some readers
object to: a string literal with a surrogate that has no partner, and a numeral that overflows.

The scanner reads one character at a time and never goes back. It stops at the first character
that can belong to no token.
-/

namespace SearchQuery.Json

/-- The tokens of a text. -/
inductive Token where
  | openArray
  | closeArray
  | openObject
  | closeObject
  | comma
  | colon
  | null
  | bool (b : Bool)
  /-- A numeral, `none` if it overflows. -/
  | number (n : Option Number)
  /-- A string literal, `none` if a surrogate in it has no partner. -/
  | string (s : Option String)
  /-- No token begins like this. -/
  | bad
  deriving Inhabited

/-! ## String literals -/

/-- The content of a string literal so far, newest character first. Escapes name UTF-16 units, so
a character beyond the first plane takes two of them in a row. -/
inductive Content where
  | whole (chars : List Char)
  /-- The last escape is a high surrogate. -/
  | half (chars : List Char) (high : Nat)
  /-- Some surrogate has no partner. -/
  | unpaired
  deriving Inhabited

namespace Content

/-- A high surrogate asks for a low one next. -/
def isHigh (unit : Nat) : Bool := 0xD800 ≤ unit && unit ≤ 0xDBFF

/-- A low surrogate ends a pair. -/
def isLow (unit : Nat) : Bool := 0xDC00 ≤ unit && unit ≤ 0xDFFF

/-- Adds a character. -/
def push (c : Char) : Content → Content
  | whole chars => whole (c :: chars)
  | _ => unpaired

/-- Adds an escaped UTF-16 unit. -/
def pushUnit (unit : Nat) : Content → Content
  | whole chars =>
    if isHigh unit then half chars unit
    else if isLow unit then unpaired
    else whole (Char.ofNat unit :: chars)
  | half chars high =>
    if isLow unit then
      whole (Char.ofNat (0x10000 + (high - 0xD800) * 0x400 + (unit - 0xDC00)) :: chars)
    else unpaired
  | unpaired => unpaired

/-- The finished string. -/
def string? : Content → Option String
  | whole chars => some (String.ofList chars.reverse)
  | _ => none

end Content

/-- The character that a one-letter escape stands for. -/
def unescape? : Char → Option Char
  | '"' => some '"'
  | '\\' => some '\\'
  | '/' => some '/'
  | 'b' => some '\x08'
  | 'f' => some '\x0c'
  | 'n' => some '\n'
  | 'r' => some '\r'
  | 't' => some '\t'
  | _ => none

/-- The value of a hexadecimal digit of either case. -/
def hexDigit? (c : Char) : Option Nat :=
  if '0' ≤ c ∧ c ≤ '9' then some (c.toNat - '0'.toNat)
  else if 'a' ≤ c ∧ c ≤ 'f' then some (c.toNat - 'a'.toNat + 10)
  else if 'A' ≤ c ∧ c ≤ 'F' then some (c.toNat - 'A'.toNat + 10)
  else none

/-! ## Numerals -/

/-- The part of a numeral that the last character belongs to. -/
inductive Part where
  | sign
  | zero
  | whole
  | point
  | fraction
  | mark
  | markSign
  | exponent
  deriving DecidableEq, Repr

/-- A numeral may end here. -/
def Part.isFinal : Part → Bool
  | zero | whole | fraction | exponent => true
  | sign | point | mark | markSign => false

/-- A numeral so far, the digits of each part newest first. -/
structure Draft where
  part : Part
  numeral : Numeral

namespace Draft

/-- A numeral of which nothing stands yet. -/
def blank : Draft := ⟨.sign, ⟨false, [], [], none⟩⟩

/-- A numeral of which only the minus stands. -/
def minus : Draft := ⟨.sign, ⟨true, [], [], none⟩⟩

/-- Begins the whole part; nothing but a point or a mark may follow a leading zero. -/
def begin (d : Draft) (c : Char) : Draft :=
  ⟨if c = '0' then .zero else .whole, { d.numeral with whole := [c] }⟩

/-- Adds a digit to the whole part. -/
def pushWhole (d : Draft) (c : Char) : Draft :=
  ⟨.whole, { d.numeral with whole := c :: d.numeral.whole }⟩

/-- Adds a digit to the fraction. -/
def pushFraction (d : Draft) (c : Char) : Draft :=
  ⟨.fraction, { d.numeral with fraction := c :: d.numeral.fraction }⟩

/-- Begins the exponent, with its sign. -/
def signExponent (d : Draft) (part : Part) (negative : Bool) : Draft :=
  ⟨part, { d.numeral with exponent := some (negative, []) }⟩

/-- Adds a digit to the exponent. -/
def pushExponent (d : Draft) (c : Char) : Draft :=
  let (negative, digits) := d.numeral.exponent.getD (false, [])
  ⟨.exponent, { d.numeral with exponent := some (negative, c :: digits) }⟩

/-- The draft with one more character, if that continues it. -/
def push? (d : Draft) (c : Char) : Option Draft :=
  if c.isDigit then
    match d.part with
    | .sign => some (d.begin c)
    | .zero => none
    | .whole => some (d.pushWhole c)
    | .point | .fraction => some (d.pushFraction c)
    | .mark | .markSign | .exponent => some (d.pushExponent c)
  else if c = '.' then
    match d.part with
    | .zero | .whole => some { d with part := .point }
    | _ => none
  else if c = 'e' ∨ c = 'E' then
    match d.part with
    | .zero | .whole | .fraction => some (d.signExponent .mark false)
    | _ => none
  else if c = '+' ∨ c = '-' then
    match d.part with
    | .mark => some (d.signExponent .markSign (c = '-'))
    | _ => none
  else none

/-- The token of a draft that is not continued by a digit. -/
def token (d : Draft) : Token :=
  if d.part.isFinal then
    .number (Numeral.value?
      { d.numeral with
        whole := d.numeral.whole.reverse
        fraction := d.numeral.fraction.reverse
        exponent := d.numeral.exponent.map fun (s, ds) => (s, ds.reverse) })
  else .bad

end Draft

/-! ## The scanner -/

/-- What the scanner is in the middle of. -/
inductive Mode where
  | between
  /-- A literal name, with the letters still to come. -/
  | name (rest : List Char) (token : Token)
  | numeral (draft : Draft)
  | string (content : Content)
  /-- Behind a backslash. -/
  | escape (content : Content)
  /-- In a four-digit escape, with the digits still to come and the value so far. -/
  | unit (content : Content) (left : Nat) (value : Nat)
  /-- Behind a character that no token can have. -/
  | stopped

/-- The scanner's state: what it is in the middle of, and the finished tokens, newest first. -/
structure Scanner where
  mode : Mode
  tokens : List Token

namespace Scanner

/-- Stops at a character that no token can have. -/
def stop (tokens : List Token) : Scanner := ⟨.stopped, .bad :: tokens⟩

/-- Reads a character between tokens. -/
def start (tokens : List Token) (c : Char) : Scanner :=
  match c with
  | ' ' | '\t' | '\n' | '\r' => ⟨.between, tokens⟩
  | '[' => ⟨.between, .openArray :: tokens⟩
  | ']' => ⟨.between, .closeArray :: tokens⟩
  | '\x7b' => ⟨.between, .openObject :: tokens⟩
  | '\x7d' => ⟨.between, .closeObject :: tokens⟩
  | ',' => ⟨.between, .comma :: tokens⟩
  | ':' => ⟨.between, .colon :: tokens⟩
  | '"' => ⟨.string (.whole []), tokens⟩
  | 'n' => ⟨.name ['u', 'l', 'l'] .null, tokens⟩
  | 't' => ⟨.name ['r', 'u', 'e'] (.bool true), tokens⟩
  | 'f' => ⟨.name ['a', 'l', 's', 'e'] (.bool false), tokens⟩
  | '-' => ⟨.numeral .minus, tokens⟩
  | c => if c.isDigit then ⟨.numeral (Draft.blank.begin c), tokens⟩ else stop tokens

/-- Reads one character. -/
def step (s : Scanner) (c : Char) : Scanner :=
  match s.mode with
  | .between => start s.tokens c
  | .name rest token =>
    match rest with
    | [d] => if c = d then ⟨.between, token :: s.tokens⟩ else stop s.tokens
    | d :: ds => if c = d then ⟨.name ds token, s.tokens⟩ else stop s.tokens
    | [] => stop s.tokens
  | .numeral draft =>
    match draft.push? c with
    | some longer => ⟨.numeral longer, s.tokens⟩
    | none =>
      if draft.part.isFinal && !(draft.part = .zero && c.isDigit) then
        start (draft.token :: s.tokens) c
      else stop s.tokens
  | .string content =>
    if c = '"' then ⟨.between, .string content.string? :: s.tokens⟩
    else if c = '\\' then ⟨.escape content, s.tokens⟩
    else if c.toNat < 0x20 then stop s.tokens
    else ⟨.string (content.push c), s.tokens⟩
  | .escape content =>
    if c = 'u' then ⟨.unit content 4 0, s.tokens⟩
    else match unescape? c with
      | some d => ⟨.string (content.push d), s.tokens⟩
      | none => stop s.tokens
  | .unit content left value =>
    match hexDigit? c with
    | none => stop s.tokens
    | some d =>
      let longer := 16 * value + d
      if left ≤ 1 then ⟨.string (content.pushUnit longer), s.tokens⟩
      else ⟨.unit content (left - 1) longer, s.tokens⟩
  | .stopped => s

/-- All tokens once the text has ended, newest first; one that is unfinished is bad. -/
def finish (s : Scanner) : List Token :=
  match s.mode with
  | .between | .stopped => s.tokens
  | .numeral draft => draft.token :: s.tokens
  | .name .. | .string _ | .escape _ | .unit .. => .bad :: s.tokens

end Scanner

/-- The tokens of a text, up to the first character that belongs to none. -/
def scan (text : List Char) : List Token :=
  (text.foldl Scanner.step ⟨.between, []⟩).finish.reverse

end SearchQuery.Json
