/-! Fragments of a condition, read one character at a time with an eye to quotes: the markers that
stand for parameters, and whether a fragment is a disjunction. -/

namespace ReportFilters.Fragment

def isQuote (c : Char) : Bool := c = '\x22' || c = '\x27' || c = '\x60'

/-- The quote a character leaves the reader inside of, given the one before it. -/
def quoteAfter (inside : Option Char) (c : Char) : Option Char :=
  match inside with
  | some q => if c = q then none else some q
  | none => if isQuote c then some c else none

def markerCount (inside : Option Char) : List Char → Nat
  | [] => 0
  | c :: rest =>
    (if inside = none ∧ c = '?' then 1 else 0) + markerCount (quoteAfter inside c) rest

def number (mark : Nat → String) (next : Nat) (inside : Option Char) : List Char → List Char
  | [] => []
  | c :: rest =>
    if inside = none ∧ c = '?' then (mark next).toList ++ number mark (next + 1) none rest
    else c :: number mark next (quoteAfter inside c) rest

def isWordChar (c : Char) : Bool := c.isAlphanum || c = '_' || c = '.'

def beginsWord (before : Option Char) : Bool := !(before.map isWordChar).getD false

def endsWord (rest : List Char) : Bool := !(rest.head?.map isWordChar).getD false

def hasOr (inside : Option Char) (depth : Nat) (before : Option Char) : List Char → Bool
  | [] => false
  | c :: rest =>
    let here :=
      inside = none && depth = 0 && c.toLower = 'o' && beginsWord before
        && (match rest with
          | [] => false
          | d :: more => d.toLower = 'r' && endsWord more)
    let depth :=
      if inside ≠ none then depth
      else if c = '(' then depth + 1
      else if c = ')' then depth - 1
      else depth
    here || hasOr (quoteAfter inside c) depth (some c) rest

def hasTopLevelOr (fragment : String) : Bool := hasOr none 0 none fragment.toList

end ReportFilters.Fragment
