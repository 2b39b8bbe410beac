import SearchQuery.Json.Numeral

/-!
# Writing a value

A value is laid out once, as a sequence of pieces that marks where a line may break, and each
layout gives the pieces their characters. So the layouts differ in nothing but blanks.
-/

namespace SearchQuery.Json

/-! ## String literals -/

/-- A lower-case hexadecimal digit. -/
def hexDigit (n : Nat) : Char := Nat.digitChar (n % 16)

/-- A character inside a string literal. Only the quote, the backslash and the characters below
the blank are escaped. -/
def escape (c : Char) : List Char :=
  match c with
  | '"' => ['\\', '"']
  | '\\' => ['\\', '\\']
  | '\x08' => ['\\', 'b']
  | '\x0c' => ['\\', 'f']
  | '\n' => ['\\', 'n']
  | '\r' => ['\\', 'r']
  | '\t' => ['\\', 't']
  | c =>
    if c.toNat < 0x20 then ['\\', 'u', '0', '0', hexDigit (c.toNat / 16), hexDigit c.toNat]
    else [c]

/-- A string literal. -/
def quote (s : List Char) : List Char :=
  '"' :: s.flatMap escape ++ ['"']

/-! ## Pieces -/

/-- The pieces a text is put together from. -/
inductive Piece where
  /-- A literal, a numeral, a bracket or a comma. -/
  | plain (text : List Char)
  | quoted (s : String)
  | colon
  /-- A place where a line may break, at a depth of nesting. -/
  | line (depth : Nat)
  deriving Inhabited

mutual
/-- The pieces of a value at a depth of nesting. -/
def Value.pieces (depth : Nat) : Value → List Piece
  | .null => [.plain ['n', 'u', 'l', 'l']]
  | .bool true => [.plain ['t', 'r', 'u', 'e']]
  | .bool false => [.plain ['f', 'a', 'l', 's', 'e']]
  | .number n => [.plain n.text]
  | .string s => [.quoted s]
  | .array [] => [.plain ['['], .plain [']']]
  | .array (v :: rest) =>
    .plain ['['] :: .line (depth + 1) :: v.pieces (depth + 1) ++ itemPieces depth rest
  | .object [] => [.plain ['\x7b'], .plain ['\x7d']]
  | .object ((k, v) :: rest) =>
    .plain ['\x7b'] :: .line (depth + 1) :: .quoted k :: .colon :: v.pieces (depth + 1) ++
      memberPieces depth rest

/-- The items behind the first, and the bracket. -/
def itemPieces (depth : Nat) : List Value → List Piece
  | [] => [.line depth, .plain [']']]
  | v :: rest =>
    .plain [','] :: .line (depth + 1) :: v.pieces (depth + 1) ++ itemPieces depth rest

/-- The members behind the first, and the bracket. -/
def memberPieces (depth : Nat) : List (String × Value) → List Piece
  | [] => [.line depth, .plain ['\x7d']]
  | (k, v) :: rest =>
    .plain [','] :: .line (depth + 1) :: .quoted k :: .colon :: v.pieces (depth + 1) ++
      memberPieces depth rest
end

/-! ## Layouts -/

/-- How the pieces are set. -/
inductive Layout where
  /-- All on one line, without a blank. -/
  | compact
  /-- Every item on its own line, two blanks a level. -/
  | indented
  deriving DecidableEq, Repr

/-- The characters of a piece. -/
def Layout.set (l : Layout) : Piece → List Char
  | .plain text => text
  | .quoted s => quote s.toList
  | .colon => match l with
    | .compact => [':']
    | .indented => [':', ' ']
  | .line depth => match l with
    | .compact => []
    | .indented => '\n' :: List.replicate (2 * depth) ' '

/-- The text of a value. -/
def Value.text (l : Layout) (v : Value) : String :=
  String.ofList ((v.pieces 0).flatMap l.set)

end SearchQuery.Json
