import ReportFilters.Toml.Text

/-! TOML documents that hold texts and nothing else. Empty lists and empty tables can be written,
since a table with one empty entry may stand for a choice; numbers, dates, flags and lists with
items are refused. -/

namespace ReportFilters.Toml

inductive Content where
  | text (value : String)
  | nothing
deriving DecidableEq

structure Entry where
  heading : List String
  /-- The keys below that table; empty for the heading itself. -/
  keys : List String
  content : Content
deriving DecidableEq

def Entry.path (entry : Entry) : List String := entry.heading ++ entry.keys

def readComment : List Char → Option (List Char)
  | [] => some []
  | '\n' :: rest => some rest
  | '\r' :: '\n' :: rest => some rest
  | c :: rest => if isAllowed c then readComment rest else none

def readLineEnd (text : List Char) : Option (List Char) :=
  match skipSpaces text with
  | [] => some []
  | '#' :: rest => readComment rest
  | rest => readNewline rest

def readEmptyList : Nat → List Char → Option (List Char)
  | 0, _ => none
  | fuel + 1, text =>
    match skipSpaces text with
    | ']' :: rest => some rest
    | rest => (readLineEnd rest).bind fun more =>
      if more = [] then none else readEmptyList fuel more

mutual

def readContent : Nat → List String → List Char → Option (List (List String × Content) × List Char)
  | 0, _, _ => none
  | fuel + 1, keys, text =>
    match text with
    | '[' :: rest => (readEmptyList rest.length rest).map fun rest => ([(keys, .nothing)], rest)
    | '\x7b' :: rest =>
      match skipSpaces rest with
      | '\x7d' :: rest => some ([(keys, .nothing)], rest)
      | rest => readInline fuel keys rest
    | _ => (readString text).map fun (s, rest) => ([(keys, .text (String.ofList s))], rest)

def readInline : Nat → List String → List Char → Option (List (List String × Content) × List Char)
  | 0, _, _ => none
  | fuel + 1, keys, text => do
    let (more, rest) ← readPath text.length text
    match rest with
    | '=' :: rest =>
      let (entries, rest) ← readContent fuel (keys ++ more) (skipSpaces rest)
      match skipSpaces rest with
      | ',' :: rest =>
        let (others, rest) ← readInline fuel keys rest
        pure (entries ++ others, rest)
      | '\x7d' :: rest => pure (entries, rest)
      | _ => none
    | _ => none

end

def readHeading (text : List Char) : Option (List String × List Char) := do
  let (keys, rest) ← readPath text.length text
  match rest with
  | ']' :: rest => pure (keys, ← readLineEnd rest)
  | _ => none

def readPair (heading : List String) (text : List Char) : Option (List Entry × List Char) := do
  let (keys, rest) ← readPath text.length text
  match rest with
  | '=' :: rest =>
    let (contents, rest) ← readContent rest.length keys (skipSpaces rest)
    let rest ← readLineEnd rest
    pure (contents.map fun (keys, content) => ⟨heading, keys, content⟩, rest)
  | _ => none

/-- Line after line. Each takes at least one character. -/
def readEntries : Nat → List String → List Char → Option (List Entry)
  | 0, _, _ => none
  | fuel + 1, heading, text =>
    match skipSpaces text with
    | [] => some []
    | '#' :: rest => do readEntries fuel heading (← readComment rest)
    | '[' :: rest => do
      let (heading, rest) ← readHeading rest
      let entries ← readEntries fuel heading rest
      pure (⟨heading, [], .nothing⟩ :: entries)
    | rest =>
      match readNewline rest with
      | some rest => readEntries fuel heading rest
      | none => do
        let (entries, rest) ← readPair heading rest
        let others ← readEntries fuel heading rest
        pure (entries ++ others)

def parse? (s : String) : Option (List Entry) :=
  let text :=
    match s.toList with
    | '\ufeff' :: rest => rest
    | text => text
  readEntries (text.length + 1) [] text

end ReportFilters.Toml
