import ReportFilters.Json.Parser

/-! Keys and strings of TOML documents. -/

namespace ReportFilters.Toml

def isSpace (c : Char) : Bool := c = ' ' || c = '\t'

def skipSpaces (text : List Char) : List Char := text.dropWhile isSpace

def isAllowed (c : Char) : Bool := c = '\t' || (0x20 ≤ c.toNat && c.toNat ≠ 0x7F)

def readNewline : List Char → Option (List Char)
  | '\n' :: rest => some rest
  | '\r' :: '\n' :: rest => some rest
  | _ => none

def hexChar? (digits : List Char) : Option Char := do
  let values ← digits.mapM Json.hexValue?
  let code := values.foldl (fun n d => 16 * n + d) 0
  if code.isValidChar then some (Char.ofNat code) else none

def simpleEscape? : Char → Option Char
  | 'b' => some '\x08'
  | 't' => some '\t'
  | 'n' => some '\n'
  | 'f' => some '\x0c'
  | 'r' => some '\r'
  | '\x22' => some '\x22'
  | '\\' => some '\\'
  | _ => none

def readLiteral : List Char → Option (List Char × List Char)
  | [] => none
  | '\x27' :: rest => some ([], rest)
  | c :: rest =>
    if isAllowed c then (readLiteral rest).map fun (s, rest) => (c :: s, rest) else none

def readBasic : List Char → Option (List Char × List Char)
  | [] => none
  | '\x22' :: rest => some ([], rest)
  | '\\' :: 'u' :: a :: b :: c :: d :: rest => do
    let char ← hexChar? [a, b, c, d]
    (readBasic rest).map fun (s, rest) => (char :: s, rest)
  | '\\' :: 'U' :: a :: b :: c :: d :: e :: f :: g :: h :: rest => do
    let char ← hexChar? [a, b, c, d, e, f, g, h]
    (readBasic rest).map fun (s, rest) => (char :: s, rest)
  | '\\' :: c :: rest => do
    let char ← simpleEscape? c
    (readBasic rest).map fun (s, rest) => (char :: s, rest)
  | c :: rest =>
    if isAllowed c && c ≠ '\\' then (readBasic rest).map fun (s, rest) => (c :: s, rest) else none

/-- What a run of quotes means in a string that three quotes end: part of the text, or the end
after at most two more. -/
inductive QuoteRun where
  | content
  | close
  | tooLong

def quoteRun (quote : Char) (text : List Char) : QuoteRun :=
  match (text.takeWhile (· = quote)).length with
  | 3 => .close
  | n => if n < 6 then .content else .tooLong

def readLongLiteral : List Char → Option (List Char × List Char)
  | [] => none
  | '\r' :: '\n' :: rest => (readLongLiteral rest).map fun (s, rest) => ('\n' :: s, rest)
  | c :: rest =>
    if c = '\x27' then
      match quoteRun c (c :: rest) with
      | .close => some ([], rest.drop 2)
      | .content => (readLongLiteral rest).map fun (s, rest) => (c :: s, rest)
      | .tooLong => none
    else if isAllowed c || c = '\n' then
      (readLongLiteral rest).map fun (s, rest) => (c :: s, rest)
    else none

def endsLine (text : List Char) : Bool := (readNewline (skipSpaces text)).isSome

/-- The rest of a string between three double quotes. After a backslash that ends a line, blanks
and newlines are left out up to the next character. -/
def readLongBasic (skipping : Bool) : List Char → Option (List Char × List Char)
  | [] => none
  | '\r' :: '\n' :: rest =>
    if skipping then readLongBasic true rest
    else (readLongBasic false rest).map fun (s, rest) => ('\n' :: s, rest)
  | '\\' :: 'u' :: a :: b :: c :: d :: rest => do
    let char ← hexChar? [a, b, c, d]
    (readLongBasic false rest).map fun (s, rest) => (char :: s, rest)
  | '\\' :: 'U' :: a :: b :: c :: d :: e :: f :: g :: h :: rest => do
    let char ← hexChar? [a, b, c, d, e, f, g, h]
    (readLongBasic false rest).map fun (s, rest) => (char :: s, rest)
  | '\\' :: c :: rest =>
    if endsLine (c :: rest) then readLongBasic true (c :: rest)
    else do
      let char ← simpleEscape? c
      (readLongBasic false rest).map fun (s, rest) => (char :: s, rest)
  | c :: rest =>
    if skipping && (isSpace c || c = '\n') then readLongBasic true rest
    else if c = '\x22' then
      match quoteRun c (c :: rest) with
      | .close => some ([], rest.drop 2)
      | .content => (readLongBasic false rest).map fun (s, rest) => (c :: s, rest)
      | .tooLong => none
    else if (isAllowed c || c = '\n') && c ≠ '\\' then
      (readLongBasic false rest).map fun (s, rest) => (c :: s, rest)
    else none

def skipFirstNewline (text : List Char) : List Char := (readNewline text).getD text

def readString : List Char → Option (List Char × List Char)
  | '\x22' :: '\x22' :: '\x22' :: rest => readLongBasic false (skipFirstNewline rest)
  | '\x27' :: '\x27' :: '\x27' :: rest => readLongLiteral (skipFirstNewline rest)
  | '\x22' :: rest => readBasic rest
  | '\x27' :: rest => readLiteral rest
  | _ => none

def isBareKeyChar (c : Char) : Bool := c.isAlphanum || c = '_' || c = '-'

def readKey : List Char → Option (String × List Char)
  | '\x22' :: rest => (readBasic rest).map fun (s, rest) => (String.ofList s, rest)
  | '\x27' :: rest => (readLiteral rest).map fun (s, rest) => (String.ofList s, rest)
  | text =>
    let word := text.takeWhile isBareKeyChar
    if word = [] then none else some (String.ofList word, text.dropWhile isBareKeyChar)

def readPath : Nat → List Char → Option (List String × List Char)
  | 0, _ => none
  | fuel + 1, text => do
    let (key, rest) ← readKey (skipSpaces text)
    match skipSpaces rest with
    | '.' :: rest => (readPath fuel rest).map fun (keys, rest) => (key :: keys, rest)
    | rest => pure ([key], rest)

end ReportFilters.Toml
