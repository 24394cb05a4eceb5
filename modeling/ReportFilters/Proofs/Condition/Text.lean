import ReportFilters.Proofs.Condition.Parser
import ReportFilters.Proofs.Fragment.Marks

/-! Conditions as text. Blanks, parentheses and quotes end a word; three words, in any case, are
keywords. Numbering the markers of a text leaves its tokens as they are, and a disjunction at the
top of the tokens does not escape the scan of the characters. -/

namespace ReportFilters.Condition
open Fragment

/-- Where the reader of a text is: after part of a word, or inside quotes. -/
inductive Place where
  | word (w : List Char)
  | quoted (q : Char)
deriving DecidableEq

namespace Place

def start : Place := .word []

def inside : Place → Option Char
  | word _ => none
  | quoted q => some q

@[simp] theorem inside_word (w : List Char) : (word w).inside = none := rfl

@[simp] theorem inside_quoted (q : Char) : (quoted q).inside = some q := rfl

end Place

def delimiter? (c : Char) : Option (List Token) :=
  if c = '(' then some [.opening]
  else if c = ')' then some [.closing]
  else if c.isWhitespace then some []
  else none

def keyword (w : List Char) : Token :=
  if w.map Char.toLower = ['a', 'n', 'd'] then .conj
  else if w.map Char.toLower = ['o', 'r'] then .disj
  else if w.map Char.toLower = ['n', 'o', 't'] then .neg
  else .other

def wordTokens : List Char → List Token
  | [] => []
  | c :: w => [keyword (c :: w)]

def tokens (place : Place) : List Char → List Token
  | [] =>
    match place with
    | .word w => wordTokens w
    | .quoted _ => []
  | c :: rest =>
    match place with
    | .quoted q => if c = q then .other :: tokens .start rest else tokens (.quoted q) rest
    | .word w =>
      if isQuote c then wordTokens w ++ tokens (.quoted c) rest
      else
        match delimiter? c with
        | some ts => wordTokens w ++ (ts ++ tokens .start rest)
        | none => tokens (.word (w ++ [c])) rest

def Writes (level : Level) (text : List Char) (F : Formula) : Prop :=
  text.foldl quoteAfter none = none ∧ Spells level (tokens .start text) F

def formulaOf? (text : List Char) : Option Formula :=
  if text.foldl quoteAfter none = none then read? (tokens .start text) else none

theorem Writes.formulaOf? {text : List Char} {F : Formula} (h : Writes .disjunction text F) :
    formulaOf? text = some F := by
  rw [Condition.formulaOf?, if_pos h.1]
  exact h.2.read?

theorem tokens_of_quote {c : Char} (hc : isQuote c = true) (w rest : List Char) :
    tokens (.word w) (c :: rest) = wordTokens w ++ tokens (.quoted c) rest := by
  simp only [tokens, hc, if_true]

theorem tokens_of_delimiter {c : Char} {ts : List Token} (hq : isQuote c = false)
    (hc : delimiter? c = some ts) (w rest : List Char) :
    tokens (.word w) (c :: rest) = wordTokens w ++ (ts ++ tokens .start rest) := by
  simp only [tokens, hq, hc, Bool.false_eq_true, if_false]

theorem tokens_of_letter {c : Char} (hq : isQuote c = false) (hc : delimiter? c = none)
    (w rest : List Char) : tokens (.word w) (c :: rest) = tokens (.word (w ++ [c])) rest := by
  simp only [tokens, hq, hc, Bool.false_eq_true, if_false]

/-! A word ends before a delimiter, whatever comes after. -/

theorem tokens_append {a b : List Char} {c : Char} {ts : List Token} {place : Place}
    (hclosed : a.foldl quoteAfter place.inside = none) (hq : isQuote c = false)
    (hc : delimiter? c = some ts) :
    tokens place (a ++ c :: b) = tokens place a ++ (ts ++ tokens .start b) := by
  induction a generalizing place with
  | nil =>
    cases place with
    | word w => exact tokens_of_delimiter hq hc w b
    | quoted q =>
      -- the text would end inside quotes
      cases hclosed
  | cons e rest ih =>
    rw [List.cons_append]
    cases place with
    | quoted q =>
      rw [List.foldl_cons, Place.inside_quoted, quoteAfter] at hclosed
      by_cases he : e = q
      · rw [if_pos he] at hclosed
        have hrest : tokens .start (rest ++ c :: b) = _ := ih hclosed
        simp only [tokens, he, if_true, hrest, List.cons_append]
      · rw [if_neg he] at hclosed
        have hrest : tokens (.quoted q) (rest ++ c :: b) = _ := ih hclosed
        simp only [tokens, he, if_false, hrest]
    | word w =>
      rw [List.foldl_cons, Place.inside_word, quoteAfter] at hclosed
      cases hquote : isQuote e with
      | true =>
        rw [hquote] at hclosed
        have hrest : tokens (.quoted e) (rest ++ c :: b) = _ := ih hclosed
        rw [tokens_of_quote hquote, tokens_of_quote hquote, hrest, List.append_assoc]
      | false =>
        rw [hquote] at hclosed
        have hrest : ∀ w', tokens (.word w') (rest ++ c :: b) = _ := fun w' => ih hclosed
        cases hdelim : delimiter? e with
        | some us =>
          rw [tokens_of_delimiter hquote hdelim, tokens_of_delimiter hquote hdelim, Place.start,
            hrest, List.append_assoc, List.append_assoc]
          rfl
        | none => rw [tokens_of_letter hquote hdelim, tokens_of_letter hquote hdelim, hrest]

theorem tokens_blank {a : List Char} (h : a.foldl quoteAfter none = none) (b : List Char) :
    tokens .start (a ++ ' ' :: b) = tokens .start a ++ tokens .start b := by
  have hstart : a.foldl quoteAfter Place.start.inside = none := h
  have hblank : delimiter? ' ' = some [] := by decide
  exact tokens_append hstart (by decide) hblank

theorem tokens_parenthesized {a : List Char} (h : a.foldl quoteAfter none = none) :
    tokens .start ('(' :: (a ++ [')'])) = .opening :: (tokens .start a ++ [.closing]) := by
  have hstart : a.foldl quoteAfter Place.start.inside = none := h
  have hopen : delimiter? '(' = some [.opening] := by decide
  have hclose : delimiter? ')' = some [.closing] := by decide
  have hinner : tokens .start (a ++ [')']) = tokens .start a ++ [.closing] :=
    tokens_append hstart (by decide) hclose
  rw [← hinner]
  exact tokens_of_delimiter (by decide) hopen [] _

/-! Numbering. A marker keeps its word from being a keyword, and so does the mark put in its
place. -/

def IsMarked (w : List Char) : Prop := '?' ∈ w ∨ '$' ∈ w

theorem keyword_of_isMarked {w : List Char} (h : IsMarked w) : keyword w = .other := by
  have hno : ∀ word : List Char, '?' ∉ word → '$' ∉ word → w.map Char.toLower ≠ word := by
    rintro word hmarker hdollar rfl
    rcases h with h | h
    · exact hmarker (List.mem_map.mpr ⟨'?', h, rfl⟩)
    · exact hdollar (List.mem_map.mpr ⟨'$', h, rfl⟩)
  rw [keyword, if_neg (hno _ (by decide) (by decide)), if_neg (hno _ (by decide) (by decide)),
    if_neg (hno _ (by decide) (by decide))]

inductive Place.Agrees : Place → Place → Prop
  | same (place : Place) : Agrees place place
  | marked {w u : List Char} (hw : IsMarked w) (hu : IsMarked u) : Agrees (.word w) (.word u)

namespace Place.Agrees

theorem wordTokens {w u : List Char} (h : Agrees (.word w) (.word u)) :
    wordTokens w = wordTokens u := by
  cases h with
  | same => rfl
  | marked hw hu =>
    cases w with
    | nil => simp [IsMarked] at hw
    | cons c w =>
      cases u with
      | nil => simp [IsMarked] at hu
      | cons d u =>
        rw [Condition.wordTokens, Condition.wordTokens, keyword_of_isMarked hw,
          keyword_of_isMarked hu]

theorem append {w u : List Char} (h : Agrees (.word w) (.word u)) (c : Char) :
    Agrees (.word (w ++ [c])) (.word (u ++ [c])) := by
  have hmore : ∀ {w}, IsMarked w → IsMarked (w ++ [c]) := fun hw =>
    hw.imp (List.mem_append_left _) (List.mem_append_left _)
  cases h with
  | same => exact .same _
  | marked hw hu => exact .marked (hmore hw) (hmore hu)

end Place.Agrees

theorem tokens_of_letters {letters : List Char}
    (h : ∀ c ∈ letters, isQuote c = false ∧ delimiter? c = none) (w rest : List Char) :
    tokens (.word w) (letters ++ rest) = tokens (.word (w ++ letters)) rest := by
  induction letters generalizing w with
  | nil => rw [List.nil_append, List.append_nil]
  | cons c more ih =>
    obtain ⟨hquote, hdelim⟩ := h c (List.mem_cons_self ..)
    rw [List.cons_append, tokens_of_letter hquote hdelim,
      ih fun d hd => h d (List.mem_cons_of_mem _ hd), List.append_assoc, List.singleton_append]

theorem delimiter?_of_isDigit {c : Char} (h : c.isDigit) : delimiter? c = none := by
  have hne : ∀ d : Char, d.isDigit = false → c ≠ d := by
    rintro d hd rfl
    rw [hd] at h
    cases h
  rw [delimiter?, if_neg (hne _ (by decide)), if_neg (hne _ (by decide)), if_neg]
  simp [Char.isWhitespace, hne]

theorem placeholder_letters (d : Dialect) (n : Nat) :
    IsMarked (d.placeholder n).toList ∧
      ∀ c ∈ (d.placeholder n).toList, isQuote c = false ∧ delimiter? c = none := by
  cases d with
  | postgresql =>
    simp only [Dialect.placeholder, String.toList_append, Nat.toString_eq_repr, Nat.toList_repr]
    refine ⟨.inr (List.mem_append_left _ (List.mem_singleton_self _)), ?_⟩
    intro c hc
    rcases List.mem_append.mp hc with hc | hc
    · rw [List.mem_singleton.mp hc]
      decide
    · have hdigit := Nat.isDigit_of_mem_toDigits (by decide) (by decide) hc
      exact ⟨isQuote_of_isDigit hdigit, delimiter?_of_isDigit hdigit⟩
  | mysql | sqlite =>
    have hmark : "?".toList = ['?'] := by decide
    rw [Dialect.placeholder, hmark]
    refine ⟨.inl (List.mem_singleton_self _), ?_⟩
    intro c hc
    rw [List.mem_singleton.mp hc]
    decide

theorem tokens_number (d : Dialect) (next : Nat) {place other : Place} (h : place.Agrees other)
    (text : List Char) :
    tokens other (number d.placeholder next place.inside text) = tokens place text := by
  -- a marker and the mark in its place may differ, but neither leaves its word a keyword, so the
  -- words before them need only agree in having one
  induction text generalizing next place other with
  | nil =>
    cases place with
    | quoted q =>
      cases h
      rfl
    | word w =>
      cases other with
      | quoted q => cases h
      | word u => exact h.wordTokens.symm
  | cons c rest ih =>
    cases place with
    | quoted q =>
      cases h
      rw [number, if_neg (by simp), Place.inside_quoted, quoteAfter]
      by_cases hc : c = q
      · have hrest := ih next (.same .start)
        rw [if_pos hc]
        simp only [tokens, hc, if_true, ← hrest]
        rfl
      · have hrest := ih next (.same (.quoted q))
        rw [if_neg hc]
        simp only [tokens, hc, if_false, ← hrest]
        rfl
    | word w =>
      cases other with
      | quoted q => cases h
      | word u =>
        by_cases hmark : c = '?'
        · obtain ⟨hmarked, hletters⟩ := placeholder_letters d next
          have hagree : (Place.word (w ++ [c])).Agrees (.word (u ++ (d.placeholder next).toList)) :=
            .marked (.inl (by simp [hmark]))
              (hmarked.imp (List.mem_append_right _) (List.mem_append_right _))
          have hc : isQuote c = false ∧ delimiter? c = none := by
            rw [hmark]
            decide
          rw [number, if_pos ⟨rfl, hmark⟩, tokens_of_letters hletters, tokens_of_letter hc.1 hc.2]
          exact ih (next + 1) hagree
        · rw [number, if_neg fun hc => hmark hc.2, Place.inside_word, quoteAfter]
          cases hquote : isQuote c with
          | true =>
            rw [tokens_of_quote hquote, tokens_of_quote hquote, h.wordTokens]
            exact congrArg _ (ih next (.same (.quoted c)))
          | false =>
            cases hdelim : delimiter? c with
            | some ts =>
              rw [tokens_of_delimiter hquote hdelim, tokens_of_delimiter hquote hdelim,
                h.wordTokens]
              exact congrArg (fun more => _ ++ (ts ++ more)) (ih next (.same .start))
            | none =>
              rw [tokens_of_letter hquote hdelim, tokens_of_letter hquote hdelim]
              exact ih next (h.append c)

theorem Writes.number {level : Level} {text : List Char} {F : Formula} (h : Writes level text F)
    (d : Dialect) (next : Nat) : Writes level (number d.placeholder next none text) F := by
  have htokens : tokens .start (Fragment.number d.placeholder next none text) = tokens .start text :=
    tokens_number d next (.same .start) text
  exact ⟨(foldl_quoteAfter_number d next none text).trans h.1, htokens ▸ h.2⟩

end ReportFilters.Condition
