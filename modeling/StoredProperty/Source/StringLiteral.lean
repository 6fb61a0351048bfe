import StoredProperty.Text.Quoted

/-!
# String literals

A string literal is written between quotes with escapes, or raw between quotes and hashes without any. Its text is read
by an automaton: one character at a time, with the mode saying how much of an escape has been seen. What is read is the
value and the rest behind the closing quote. Strings of bytes and strings that end with a zero differ in which
characters and escapes they admit.
-/

namespace StoredProperty.Source

inductive StringKind where
  | text | bytes | zeroTerminated
  deriving DecidableEq

namespace StringKind

/-- The characters that may stand for themselves. -/
def admits : StringKind → Char → Bool
  | text, _ => true
  | bytes, c => c.toNat < 0x80
  | zeroTerminated, c => c ≠ '\x00'

/-- The codes that may be written with two hex digits. -/
def admitsCode : StringKind → Nat → Bool
  | text, n => n < 0x80
  | bytes, _ => true
  | zeroTerminated, n => n ≠ 0

end StringKind

def hexDigit? (c : Char) : Option Nat :=
  if c.isDigit then some (c.toNat - '0'.toNat)
  else if 'a' ≤ c && c ≤ 'f' then some (c.toNat - 'a'.toNat + 10)
  else if 'A' ≤ c && c ≤ 'F' then some (c.toNat - 'A'.toNat + 10)
  else none

/-- The character with a code point, if there is one. -/
def char? (n : Nat) : Option Char := if n.isValidChar then some (Char.ofNat n) else none

/-- The escapes of one character. -/
def shortEscape? : Char → Option Char
  | 'n' => some '\n'
  | 'r' => some '\r'
  | 't' => some '\t'
  | '\\' => some '\\'
  | '0' => some '\x00'
  | '\'' => some '\''
  | '"' => some '"'
  | _ => none

namespace StringLiteral

inductive Mode where
  | plain
  /-- Behind a backslash. -/
  | escape
  | hexHigh
  | hexLow (high : Nat)
  /-- Behind `\u`. -/
  | codeOpening
  | code (value digits : Nat)
  /-- Behind a carriage return, which a line feed must follow. -/
  | carriageReturn
  /-- In the blank space behind a backslash at the end of a line. -/
  | continued
  | continuedReturn
  deriving DecidableEq

namespace Mode

def ofPlain (k : StringKind) (c : Char) : Option (Mode × List Char) :=
  if c = '\\' then some (escape, [])
  else if c = '\r' then some (carriageReturn, [])
  else if k.admits c then some (plain, [c])
  else none

def ofEscape (k : StringKind) (c : Char) : Option (Mode × List Char) :=
  if c = 'x' then some (hexHigh, [])
  else if c = 'u' && k ≠ .bytes then some (codeOpening, [])
  else if c = '\n' then some (continued, [])
  else if c = '\r' then some (continuedReturn, [])
  else if c = '0' && k = .zeroTerminated then none
  else (shortEscape? c).map fun v => (plain, [v])

/-- The mode behind a character, and what the character adds to the value. -/
def next (k : StringKind) (m : Mode) (c : Char) : Option (Mode × List Char) :=
  match m with
  | plain => ofPlain k c
  | escape => ofEscape k c
  | hexHigh => (hexDigit? c).map fun d => (hexLow d, [])
  | hexLow high =>
    (hexDigit? c).bind fun d =>
      if k.admitsCode (16 * high + d) then (char? (16 * high + d)).map fun v => (plain, [v]) else none
  | codeOpening => if c = '\x7b' then some (code 0 0, []) else none
  | code value digits =>
    if c = '\x7d' && 0 < digits then
      if k.admits '\x00' || value ≠ 0 then (char? value).map fun v => (plain, [v]) else none
    else if c = '_' && 0 < digits then some (code value digits, [])
    else if digits < 6 then (hexDigit? c).map fun d => (code (16 * value + d) (digits + 1), [])
    else none
  | carriageReturn => if c = '\n' then some (plain, ['\n']) else none
  | continued =>
    if c = '\r' then some (continuedReturn, [])
    else if c = ' ' || c = '\t' || c = '\n' then some (continued, [])
    else ofPlain k c
  | continuedReturn => if c = '\n' then some (continued, []) else none

/-- A quote closes the literal unless it is escaped. -/
def closes (m : Mode) (c : Char) : Bool := c = '"' && (m = plain || m = continued)

end Mode

/-- The value up to the closing quote, and the rest. -/
def body? (k : StringKind) (m : Mode) : List Char → Option (List Char × List Char)
  | [] => none
  | c :: rest =>
    if m.closes c then some ([], rest)
    else
      match m.next k c with
      | none => none
      | some (m, out) => (body? k m rest).map fun (value, rest) => (out ++ value, rest)

/-- The value of a raw literal up to a quote with as many hashes as were in front, and the rest. -/
def rawBody? (k : StringKind) (hashes : Nat) : List Char → Option (List Char × List Char)
  | [] => none
  | '\r' :: '\n' :: rest => (rawBody? k hashes rest).map fun (value, rest) => ('\r' :: '\n' :: value, rest)
  | c :: rest =>
    if c = '"' && (List.replicate hashes '#').isPrefixOf rest then some ([], rest.drop hashes)
    else if c = '\r' || !k.admits c then none
    else (rawBody? k hashes rest).map fun (value, rest) => (c :: value, rest)

/-- A raw literal from its first hash or quote on. -/
def raw? (k : StringKind) (cs : List Char) : Option (List Char × List Char) :=
  let hashes := (cs.takeWhile (· = '#')).length
  match cs.drop hashes with
  | '"' :: rest => if hashes ≤ 255 then rawBody? k hashes rest else none
  | _ => none

/-- The value and the rest of a literal of any kind at the front of a text. -/
def read? : List Char → Option (StringKind × List Char × List Char)
  | '"' :: rest => (body? .text .plain rest).map (StringKind.text, ·)
  | 'r' :: rest => (raw? .text rest).map (StringKind.text, ·)
  | 'b' :: '"' :: rest => (body? .bytes .plain rest).map (StringKind.bytes, ·)
  | 'b' :: 'r' :: rest => (raw? .bytes rest).map (StringKind.bytes, ·)
  | 'c' :: '"' :: rest => (body? .zeroTerminated .plain rest).map (StringKind.zeroTerminated, ·)
  | 'c' :: 'r' :: rest => (raw? .zeroTerminated rest).map (StringKind.zeroTerminated, ·)
  | _ => none

/-! ## Writing a literal -/

/-- The escapes of a quoted text, but a zero in front of an octal digit is written with two hex digits. -/
def escaped : List Char → List Char
  | [] => []
  | c :: rest =>
    if c = '\x00' && rest.head?.any (fun d => '0' ≤ d && d ≤ '7') then '\\' :: 'x' :: '0' :: '0' :: escaped rest
    else Text.escape c ++ escaped rest

def write (cs : List Char) : String := String.ofList ('"' :: escaped cs ++ ['"'])

end StringLiteral

/-- The rest behind a character between apostrophes, from the character on. -/
def afterCharacter? (k : StringKind) : List Char → Option (List Char)
  | '\\' :: 'x' :: a :: b :: '\'' :: rest =>
    match hexDigit? a, hexDigit? b with
    | some high, some low => if k.admitsCode (16 * high + low) then some rest else none
    | _, _ => none
  | '\\' :: 'u' :: rest =>
    if k = .bytes then none
    else
      match rest.span (· ≠ '\x7d') with
      | (code, '\x7d' :: '\'' :: after) =>
        (StringLiteral.body? .text .codeOpening (code ++ ['\x7d', '"'])).bind fun (_, left) =>
          if left.isEmpty then some after else none
      | _ => none
  | '\\' :: c :: '\'' :: rest => (shortEscape? c).map fun _ => rest
  | '\\' :: _ => none
  | c :: '\'' :: rest => if k.admits c then some rest else none
  | _ => none

end StoredProperty.Source
