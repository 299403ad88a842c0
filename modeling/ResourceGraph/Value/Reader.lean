import ResourceGraph.Value

/-! # Reading values

The value that a JSON text stands for.  The text is taken apart into tokens first, blanks between
them left out, and a value is read off the front of the tokens.  A name that occurs twice in an
object keeps its first place and its last value.  Both steps recurse on a budget that is counted
off the text beforehand.
-/

namespace ResourceGraph

/-- A token of JSON text; a leaf is a whole value without parts. -/
inductive Token where
  | openArray
  | closeArray
  | openObject
  | closeObject
  | comma
  | colon
  | leaf (v : Value)

namespace Token

/-! ## Numbers -/

def digitsValue (digits : List Char) : Nat :=
  digits.foldl (fun n c => 10 * n + (c.toNat - '0'.toNat)) 0

/-- The digits at the front of a text, and what follows them. -/
def takeDigits (cs : List Char) : List Char × List Char :=
  (cs.takeWhile Char.isDigit, cs.dropWhile Char.isDigit)

/-- A point and the digits after it, if both stand at the front. -/
def takeFraction (cs : List Char) : List Char × List Char :=
  match cs with
  | '.' :: rest =>
    let (digits, after) := takeDigits rest
    if digits.isEmpty then ([], cs) else (digits, after)
  | _ => ([], cs)

/-- An exponent, if one stands at the front. -/
def takeExponent (cs : List Char) : Option Int × List Char :=
  match cs with
  | c :: rest =>
    if c = 'e' ∨ c = 'E' then
      let (negative, unsigned) := match rest with
        | '-' :: after => (true, after)
        | '+' :: after => (false, after)
        | _ => (false, rest)
      let (digits, after) := takeDigits unsigned
      if digits.isEmpty then (none, cs)
      else
        let size := (digitsValue digits : Int)
        (some (if negative then -size else size), after)
    else (none, cs)
  | [] => (none, cs)

/-- The integer part of a number: a zero that stands alone, or digits that start with another. -/
def takeWhole (cs : List Char) : Option (Nat × List Char) :=
  match cs with
  | '0' :: rest => some (0, rest)
  | _ =>
    let (digits, after) := takeDigits cs
    if digits.isEmpty then none else some (digitsValue digits, after)

/-- A number without its sign; it is an integer if it has neither fraction nor exponent. -/
def takeUnsigned (negative : Bool) (cs : List Char) : Option (Value × List Char) := do
  let (whole, afterWhole) ← takeWhole cs
  let (fraction, afterFraction) := takeFraction afterWhole
  let (exponent, rest) := takeExponent afterFraction
  if fraction.isEmpty ∧ exponent.isNone then
    some (.integer (if negative then -whole else whole), rest)
  else
    let digits := fraction.foldl (fun n c => 10 * n + (c.toNat - '0'.toNat)) whole
    let number : Decimal := ⟨negative, digits, exponent.getD 0 - fraction.length⟩
    some (.decimal number.normal, rest)

def takeNumber (cs : List Char) : Option (Value × List Char) :=
  match cs with
  | '-' :: rest => takeUnsigned true rest
  | _ => takeUnsigned false cs

/-! ## Text -/

def hexValue? (c : Char) : Option Nat :=
  if c.isDigit then some (c.toNat - '0'.toNat)
  else if 'a' ≤ c ∧ c ≤ 'f' then some (c.toNat - 'a'.toNat + 10)
  else if 'A' ≤ c ∧ c ≤ 'F' then some (c.toNat - 'A'.toNat + 10)
  else none

/-- The UTF-16 unit that four hexadecimal digits name. -/
def takeUnit : List Char → Option (Nat × List Char)
  | a :: b :: c :: d :: rest => do
    let unit := (← hexValue? a) * 0x1000 + (← hexValue? b) * 0x100 + (← hexValue? c) * 0x10
      + (← hexValue? d)
    some (unit, rest)
  | _ => none

def simpleEscape? (c : Char) : Option Char :=
  if c = '"' ∨ c = '\\' ∨ c = '/' then some c
  else if c = 'n' then some '\n'
  else if c = 'r' then some '\r'
  else if c = 't' then some '\t'
  else if c = 'b' then some '\x08'
  else if c = 'f' then some '\x0c'
  else none

/-- The character after a backslash, two units if the first is the high half of a pair. -/
def takeEscape : List Char → Option (Char × List Char)
  | 'u' :: rest => do
    let (high, after) ← takeUnit rest
    if 0xd800 ≤ high ∧ high < 0xdc00 then
      match after with
      | '\\' :: 'u' :: more =>
        let (low, last) ← takeUnit more
        if 0xdc00 ≤ low ∧ low < 0xe000 then
          some (Char.ofNat (0x10000 + (high - 0xd800) * 0x400 + (low - 0xdc00)), last)
        else some (Char.ofNat high, after)
      | _ => some (Char.ofNat high, after)
    else some (Char.ofNat high, after)
  | c :: rest => (simpleEscape? c).map (·, rest)
  | [] => none

/-- The characters of a string up to its closing quote, and what follows. -/
def takeText : Nat → List Char → Option (List Char × List Char)
  | 0, _ => none
  | budget + 1, cs =>
    match cs with
    | '"' :: rest => some ([], rest)
    | '\\' :: rest => do
      let (c, after) ← takeEscape rest
      let (text, last) ← takeText budget after
      some (c :: text, last)
    | c :: rest =>
      if c < ' ' then none
      else do
        let (text, last) ← takeText budget rest
        some (c :: text, last)
    | [] => none

/-! ## Tokens -/

def isBetween (c : Char) : Bool := c == ' ' || c == '\n' || c == '\t' || c == '\r'

def take (budget : Nat) (cs : List Char) : Option (Token × List Char) :=
  match cs with
  | '[' :: rest => some (openArray, rest)
  | ']' :: rest => some (closeArray, rest)
  | '\x7b' :: rest => some (openObject, rest)
  | '\x7d' :: rest => some (closeObject, rest)
  | ',' :: rest => some (comma, rest)
  | ':' :: rest => some (colon, rest)
  | '"' :: rest =>
    (takeText budget rest).map fun (text, after) => (leaf (.string (String.ofList text)), after)
  | 'n' :: 'u' :: 'l' :: 'l' :: rest => some (leaf .null, rest)
  | 't' :: 'r' :: 'u' :: 'e' :: rest => some (leaf (.bool true), rest)
  | 'f' :: 'a' :: 'l' :: 's' :: 'e' :: rest => some (leaf (.bool false), rest)
  | _ => (takeNumber cs).map fun (v, after) => (leaf v, after)

/-- The tokens of a text, if all of it is made of tokens and the budget is enough for them. -/
def scanWithin : Nat → List Char → Option (List Token)
  | 0, _ => none
  | budget + 1, cs =>
    match cs.dropWhile isBetween with
    | [] => some []
    | c :: rest => do
      let (token, after) ← take (budget + 1) (c :: rest)
      let tokens ← scanWithin budget after
      some (token :: tokens)

/-- The tokens of a text, if all of it is made of tokens. -/
def scan (cs : List Char) : Option (List Token) := scanWithin (cs.length + 1) cs

end Token

namespace Value

/-! ## Values out of tokens -/

mutual

/-- The value at the front of a list of tokens and the tokens after it. -/
def ofTokens? : Nat → List Token → Option (Value × List Token)
  | 0, _ => none
  | budget + 1, tokens =>
    match tokens with
    | .leaf v :: rest => some (v, rest)
    | .openArray :: .closeArray :: rest => some (.array [], rest)
    | .openArray :: rest => (itemsOfTokens? budget rest).map fun (vs, after) => (.array vs, after)
    | .openObject :: .closeObject :: rest => some (.object [], rest)
    | .openObject :: rest =>
      (membersOfTokens? budget rest).map fun (ms, after) =>
        (.object (OrderedMap.ofList ms).entries, after)
    | _ => none

def itemsOfTokens? : Nat → List Token → Option (List Value × List Token)
  | 0, _ => none
  | budget + 1, tokens => do
    let (v, rest) ← ofTokens? budget tokens
    match rest with
    | .closeArray :: after => some ([v], after)
    | .comma :: after =>
      let (vs, last) ← itemsOfTokens? budget after
      some (v :: vs, last)
    | _ => none

def membersOfTokens? : Nat → List Token → Option (List (String × Value) × List Token)
  | 0, _ => none
  | budget + 1, tokens =>
    match tokens with
    | .leaf (.string name) :: .colon :: rest => do
      let (v, rest) ← ofTokens? budget rest
      match rest with
      | .closeObject :: after => some ([(name, v)], after)
      | .comma :: after =>
        let (ms, last) ← membersOfTokens? budget after
        some ((name, v) :: ms, last)
      | _ => none
    | _ => none

end

def parse? (text : String) : Option Value := do
  let tokens ← Token.scan text.toList
  match ofTokens? (2 * tokens.length + 1) tokens with
  | some (v, []) => some v
  | _ => none

end Value

end ResourceGraph
