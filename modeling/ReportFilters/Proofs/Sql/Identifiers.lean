import ReportFilters.Proofs.Sql.Names

/-! Names read back from their quoted form. A reader that takes a bare word for a name, unless the word is
reserved, and in quotes a doubled quote for one, reads a quoted name as the name and a qualified one as
its parts with dots between them. So no two names are quoted alike. -/

namespace ReportFilters

inductive Lexeme where
  | name (text : List Char)
  | dot
deriving DecidableEq

namespace Lexeme

def beginsWord (c : Char) : Bool := c.isAlpha || c = '_'

def continuesWord (c : Char) : Bool := beginsWord c || c.isDigit

def isReserved (word : List Char) : Bool :=
  reservedWords.any fun reserved => reserved.toList = word.map Char.toLower

def readWord? (text : List Char) : Option (List Char × List Char) :=
  let word := text.takeWhile continuesWord
  if (word.head?.map beginsWord).getD false && !isReserved word then
    some (word, text.dropWhile continuesWord)
  else none

def readQuoted? (q : Char) : List Char → Option (List Char × List Char)
  | [] => none
  | c :: rest =>
    if c ≠ q then (readQuoted? q rest).map fun (inner, left) => (c :: inner, left)
    else
      match rest with
      | [] => some ([], [])
      | d :: more =>
        if d = q then (readQuoted? q more).map fun (inner, left) => (q :: inner, left)
        else some ([], d :: more)

def readName? (q : Char) : List Char → Option (List Char × List Char)
  | [] => none
  | c :: rest => if c = q then readQuoted? q rest else readWord? (c :: rest)

theorem length_of_readQuoted? {q : Char} {text inner left : List Char}
    (h : readQuoted? q text = some (inner, left)) : left.length < text.length := by
  fun_induction readQuoted? q text generalizing inner left with
  | case1 => cases h
  | case2 c rest _ ih =>
    obtain ⟨⟨_, _⟩, hinner, ⟨⟩⟩ := Option.map_eq_some_iff.mp h
    exact Nat.lt_succ_of_lt (ih hinner)
  | case3 =>
    cases h
    exact Nat.one_pos
  | case4 c _ more ih =>
    obtain ⟨⟨_, _⟩, hinner, ⟨⟩⟩ := Option.map_eq_some_iff.mp h
    exact Nat.lt_succ_of_lt (Nat.lt_succ_of_lt (ih hinner))
  | case5 =>
    cases h
    exact Nat.lt_succ_self _

theorem length_of_readName? {q : Char} {text name left : List Char}
    (h : readName? q text = some (name, left)) : left.length < text.length := by
  cases text with
  | nil => cases h
  | cons c rest =>
    rw [readName?] at h
    split at h
    · exact Nat.lt_succ_of_lt (length_of_readQuoted? h)
    · rw [readWord?] at h
      split at h
      next hword =>
        cases h
        have hc : continuesWord c = true := by
          by_contra hc
          rw [List.takeWhile_cons_of_neg hc] at hword
          cases hword
        rw [List.dropWhile_cons_of_pos hc]
        exact Nat.lt_succ_of_le (List.length_dropWhile_le _ _)
      next => cases h

def ofText? (q : Char) (text : List Char) : Option (List Lexeme) :=
  match text with
  | [] => some []
  | c :: rest =>
    if c = '.' then (ofText? q rest).map (dot :: ·)
    else
      match _hread : readName? q (c :: rest) with
      | none => none
      | some (found, left) => (ofText? q left).map (name found :: ·)
termination_by text.length
decreasing_by
  · exact Nat.lt_succ_self _
  · exact length_of_readName? _hread

def spelled (lexemes : List Lexeme) : List Char :=
  lexemes.flatMap fun
    | name text => text
    | dot => ['.']

theorem spelled_intersperse (parts : List (List Char)) :
    spelled ((parts.map name).intersperse dot) = ['.'].intercalate parts := by
  induction parts with
  | nil => rfl
  | cons part rest ih =>
    cases rest with
    | nil => simp [spelled]
    | cons next more =>
      rw [List.intercalate_cons_cons, ← ih]
      simp [spelled]

theorem isIdentifierChar_eq (c : Char) : isIdentifierChar c = continuesWord c := by
  simp only [isIdentifierChar, continuesWord, beginsWord, Char.isAlphanum]
  cases c.isAlpha <;> cases c.isDigit <;> simp

/-- Nothing that a name before it could go on with. -/
def standsApart (q : Char) (rest : List Char) : Bool :=
  rest.head?.all fun c => c ≠ q && !continuesWord c

theorem readQuoted?_of_ne {q c : Char} (h : c ≠ q) (rest : List Char) :
    readQuoted? q (c :: rest) = (readQuoted? q rest).map fun (inner, left) => (c :: inner, left) := by
  rw [readQuoted?.eq_def]
  exact if_pos h

theorem readQuoted?_twice (q : Char) (rest : List Char) :
    readQuoted? q (q :: q :: rest)
      = (readQuoted? q rest).map fun (inner, left) => (q :: inner, left) := by
  rw [readQuoted?.eq_def]
  simp

theorem readQuoted?_closing {q : Char} {rest : List Char} (h : standsApart q rest = true) :
    readQuoted? q (q :: rest) = some ([], rest) := by
  cases rest with
  | nil => simp [readQuoted?]
  | cons d more =>
    have hd : d ≠ q ∧ continuesWord d = false := by simpa [standsApart] using h
    simp [readQuoted?, hd.1]

theorem readQuoted?_doubled {q : Char} {rest : List Char} (h : standsApart q rest = true)
    (name : List Char) :
    readQuoted? q (Dialect.doubled q name ++ q :: rest) = some (name, rest) := by
  induction name with
  | nil => exact readQuoted?_closing h
  | cons c name ih =>
    rw [Dialect.doubled_cons]
    by_cases hc : c = q
    · rw [if_pos hc, hc, List.append_assoc, List.cons_append, List.singleton_append, readQuoted?_twice, ih]
      rfl
    · rw [if_neg hc, List.append_assoc, List.cons_append, List.nil_append, readQuoted?_of_ne hc, ih]
      rfl

theorem readWord?_of_not_needsQuoting {q : Char} {rest : List Char} (h : standsApart q rest = true)
    {name : String} (hname : needsQuoting name = false) :
    readWord? (name.toList ++ rest) = some (name.toList, rest) := by
  obtain ⟨c, more, hchars, hdigit, hall⟩ := Dialect.exists_word hname
  simp only [isIdentifierChar_eq, ← hchars] at hall
  have hrest : rest.takeWhile continuesWord = [] ∧ rest.dropWhile continuesWord = rest := by
    cases rest with
    | nil => exact ⟨rfl, rfl⟩
    | cons d _ =>
      have hd : d ≠ q ∧ continuesWord d = false := by simpa [standsApart] using h
      simp [hd.2]
  have hbegins : (name.toList.head?.map beginsWord).getD false = true := by
    have hc := hall c (hchars ▸ List.mem_cons_self ..)
    simpa [hchars, continuesWord, hdigit] using hc
  have hreserved : isReserved name.toList = false := by
    have hnot := Dialect.not_reserved hname
    rw [isReserved, List.any_eq_false]
    intro reserved hmem heq
    rw [← of_decide_eq_true heq, String.ofList_toList] at hnot
    exact hnot hmem
  rw [readWord?, List.takeWhile_append_of_pos hall, List.dropWhile_append_of_pos hall, hrest.1,
    hrest.2, List.append_nil, hbegins, hreserved]
  rfl

end Lexeme

namespace Dialect
open Lexeme

theorem not_continuesWord_quoteChar (d : Dialect) : continuesWord d.quoteChar = false := by
  cases d <;> rfl

theorem readName?_quoteIdentifier (d : Dialect) (name : String) {rest : List Char}
    (h : standsApart d.quoteChar rest = true) :
    readName? d.quoteChar ((d.quoteIdentifier name).toList ++ rest) = some (name.toList, rest) := by
  cases hname : needsQuoting name with
  | true =>
    have htext : (d.quoteIdentifier name).toList
        = d.quoteChar :: (doubled d.quoteChar name.toList ++ [d.quoteChar]) := by
      simp [quoteIdentifier, hname, quoteAlways, doubled]
    rw [htext, List.cons_append, readName?, if_pos rfl, List.append_assoc, List.singleton_append,
      readQuoted?_doubled h]
  | false =>
    have hword := readWord?_of_not_needsQuoting h hname
    obtain ⟨c, more, hchars, _, hall⟩ := exists_word hname
    have hc : c ≠ d.quoteChar := by
      rintro rfl
      have hquote := hall d.quoteChar (List.mem_cons_self ..)
      rw [isIdentifierChar_eq, not_continuesWord_quoteChar] at hquote
      cases hquote
    rw [quoteIdentifier, hname, if_neg Bool.false_ne_true, hchars, List.cons_append, readName?,
      if_neg hc, ← List.cons_append, ← hchars, hword]

theorem ofText?_quoteIdentifier_append (d : Dialect) (name : String) {rest : List Char}
    (h : standsApart d.quoteChar rest = true) :
    ofText? d.quoteChar ((d.quoteIdentifier name).toList ++ rest)
      = (ofText? d.quoteChar rest).map (.name name.toList :: ·) := by
  have hread := d.readName?_quoteIdentifier name h
  obtain ⟨c, more, hchars, hc⟩ := d.head?_quoteIdentifier name
  have hdot : c ≠ '.' := by
    rintro rfl
    rcases hc with hquote | hword
    · cases d <;> cases hquote
    · cases hword
  rw [hchars, List.cons_append] at hread ⊢
  rw [ofText?, if_neg hdot]
  split
  next hnone =>
    rw [hread] at hnone
    cases hnone
  next text left hsome =>
    rw [hread] at hsome
    cases hsome
    rfl

theorem ofText?_quoteIdentifier (d : Dialect) (name : String) :
    ofText? d.quoteChar (d.quoteIdentifier name).toList = some [.name name.toList] := by
  have hend : standsApart d.quoteChar [] = true := rfl
  have hread := d.ofText?_quoteIdentifier_append name hend
  rw [List.append_nil, ofText?] at hread
  exact hread

theorem ofText?_dotted (d : Dialect) {parts : List (List Char)} (h : parts ≠ []) :
    ofText? d.quoteChar
        (['.'].intercalate (parts.map fun part => (d.quoteIdentifier (String.ofList part)).toList))
      = some ((parts.map Lexeme.name).intersperse .dot) := by
  induction parts with
  | nil => exact absurd rfl h
  | cons part rest ih =>
    cases rest with
    | nil => simpa using d.ofText?_quoteIdentifier (String.ofList part)
    | cons next more =>
      have hdot : ∀ more, standsApart d.quoteChar ('.' :: more) = true := by
        intro more
        cases d <;> rfl
      have hnext := ih (List.cons_ne_nil next more)
      rw [List.map_cons] at hnext
      rw [List.map_cons, List.map_cons, List.intercalate_cons_cons, List.append_assoc,
        List.singleton_append, d.ofText?_quoteIdentifier_append _ (hdot _), ofText?, if_pos rfl, hnext,
        String.toList_ofList]
      rfl

/-- A qualified name is read back part by part and a single one as a whole, also where a text follows that
cannot belong to it. So names that are quoted alike are the same. -/
theorem ofText?_quoteQualified (d : Dialect) :
    (∀ name, ofText? d.quoteChar (d.quoteQualified name).toList
      = some (((name.toList.splitOn '.').map Lexeme.name).intersperse .dot)) ∧
    (∀ name, ofText? d.quoteChar (d.quoteIdentifier name).toList = some [.name name.toList]) ∧
    (∀ name rest, standsApart d.quoteChar rest = true →
      readName? d.quoteChar ((d.quoteIdentifier name).toList ++ rest) = some (name.toList, rest)) ∧
    Function.Injective d.quoteQualified ∧ Function.Injective d.quoteIdentifier := by
  have hparts : ∀ name, ofText? d.quoteChar (d.quoteQualified name).toList
      = some (((name.toList.splitOn '.').map Lexeme.name).intersperse .dot) := by
    intro name
    rw [toList_quoteQualified]
    exact d.ofText?_dotted (List.splitOn_ne_nil _ _)
  refine ⟨hparts, d.ofText?_quoteIdentifier, fun name rest => d.readName?_quoteIdentifier name, ?_, ?_⟩
  · intro name other hsame
    have hlexemes := (hparts name).symm.trans (hsame ▸ hparts other)
    have hspelled := congrArg spelled (Option.some.inj hlexemes)
    rw [spelled_intersperse, spelled_intersperse, List.intercalate_splitOn, List.intercalate_splitOn]
      at hspelled
    exact String.toList_inj.mp hspelled
  · intro name other hsame
    have hlexemes := (d.ofText?_quoteIdentifier name).symm.trans
      (hsame ▸ d.ofText?_quoteIdentifier other)
    have hspelled := congrArg spelled (Option.some.inj hlexemes)
    exact String.toList_inj.mp (by simpa [spelled] using hspelled)

theorem ofText?_oddColumn :
    sqlite.quoteQualified "a\"b..Or.x_1" = "\"a\"\"b\".\"\".\"Or\".x_1" ∧
    ofText? '"' "\"a\"\"b\".\"\".\"Or\".x_1".toList
      = some [.name "a\"b".toList, .dot, .name [], .dot, .name "Or".toList, .dot, .name "x_1".toList] ∧
    readName? '"' "\"Or\" IS NULL".toList = some ("Or".toList, " IS NULL".toList) := by
  obtain ⟨hparts, -, hread, -, -⟩ := ofText?_quoteQualified sqlite
  have htext : sqlite.quoteQualified "a\"b..Or.x_1" = "\"a\"\"b\".\"\".\"Or\".x_1" := by decide +kernel
  refine ⟨htext, ?_, hread "Or" " IS NULL".toList (by decide)⟩
  rw [← htext]
  exact hparts "a\"b..Or.x_1"

end Dialect
end ReportFilters
