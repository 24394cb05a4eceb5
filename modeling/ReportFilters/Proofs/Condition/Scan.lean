import ReportFilters.Proofs.Condition.Text

/-! The scan for a disjunction. It looks for the two letters between characters that belong to no
word, which is more than the reader takes for a keyword: whatever disjunction the reader has at the
top of a text, the scan finds. -/

namespace ReportFilters.Condition
open Fragment

def startsOr : List Char → Bool
  | c :: d :: rest => c.toLower = 'o' && d.toLower = 'r' && endsWord rest
  | _ => false

theorem isWordChar_of_isQuote {c : Char} (h : isQuote c = true) : isWordChar c = false := by
  simp only [isQuote, Bool.or_eq_true, decide_eq_true_eq] at h
  rcases h with (rfl | rfl) | rfl <;> decide

theorem isWordChar_of_delimiter {c : Char} {ts : List Token} (h : delimiter? c = some ts) :
    isWordChar c = false := by
  have hcases : c = '(' ∨ c = ')' ∨ c.isWhitespace = true := by
    by_contra hnot
    rw [not_or, not_or] at hnot
    rw [delimiter?, if_neg hnot.1, if_neg hnot.2.1, if_neg hnot.2.2] at h
    cases h
  rcases hcases with rfl | rfl | hblank
  · decide
  · decide
  · simp only [Char.isWhitespace, Bool.or_eq_true, decide_eq_true_eq] at hblank
    rcases hblank with ((rfl | rfl) | rfl) | rfl <;> decide

def depthAt (depth : Nat) (c : Char) : Nat :=
  if c = '(' then depth + 1 else if c = ')' then depth - 1 else depth

theorem delimiter_scan {c : Char} {ts : List Token} (h : delimiter? c = some ts) (depth : Nat) :
    hasDisj depth ts = false ∧ depthAfter depth ts = depthAt depth c := by
  unfold delimiter? at h
  unfold depthAt
  split_ifs at h ⊢ <;> cases h <;> exact ⟨rfl, rfl⟩

theorem depthAt_of_letter {c : Char} (h : delimiter? c = none) {depth : Nat} :
    depthAt depth c = depth := by
  unfold delimiter? at h
  unfold depthAt
  split_ifs at h ⊢
  rfl

theorem hasOr_cons (depth : Nat) (before : Option Char) (c : Char) (rest : List Char) :
    hasOr none depth before (c :: rest) =
      ((depth = 0 && beginsWord before && startsOr (c :: rest))
        || hasOr (quoteAfter none c) (depthAt depth c) (some c) rest) := by
  have hhere : ∀ a b e f g : Bool, (true && a && b && e && (f && g)) = (a && e && (b && f && g)) := by
    decide
  cases rest with
  | nil => simp [hasOr, startsOr]
  | cons d more => exact congrArg (· || _) (hhere ..)

theorem hasOr_quoted (depth : Nat) (before : Option Char) (q c : Char) (rest : List Char) :
    hasOr (some q) depth before (c :: rest)
      = hasOr (if c = q then none else some q) depth (some c) rest := by
  simp [hasOr, quoteAfter]

theorem startsOr_of_keyword {w rest : List Char} (hw : keyword w = .disj) (hend : endsWord rest) :
    startsOr (w ++ rest) := by
  have hlower : w.map Char.toLower = ['o', 'r'] := by
    unfold keyword at hw
    split at hw
    · cases hw
    · split at hw
      · assumption
      · split at hw <;> cases hw
  obtain ⟨c, more, rfl, hc, hmore⟩ := List.map_eq_cons_iff.mp hlower
  obtain ⟨d, more, rfl, hd, hnil⟩ := List.map_eq_cons_iff.mp hmore
  rw [List.map_eq_nil_iff.mp hnil]
  simp [startsOr, hc, hd, hend]

theorem hasDisj_wordTokens {depth : Nat} {w rest : List Char} (hend : endsWord rest)
    (h : depth = 0 → startsOr (w ++ rest) = false) : hasDisj depth (wordTokens w) = false := by
  cases w with
  | nil => rfl
  | cons c w =>
    simp only [wordTokens, hasDisj, Bool.or_false, Bool.and_eq_false_iff, decide_eq_false_iff_not]
    by_cases hdepth : depth = 0
    · refine .inl fun hw => ?_
      have hstart := startsOr_of_keyword hw hend
      rw [h hdepth] at hstart
      cases hstart
    · exact .inr hdepth

theorem depthAfter_wordTokens (depth : Nat) (w : List Char) :
    depthAfter depth (wordTokens w) = depth := by
  cases w with
  | nil => rfl
  | cons c w =>
    rw [wordTokens, keyword]
    split_ifs <;> rfl

/-- What the scan has made sure of: nothing, inside quotes; at the start of a word, that one may
start; within a word, that it is no disjunction at the top. -/
def Place.Scanned (depth : Nat) (before : Option Char) (rest : List Char) : Place → Prop
  | quoted q => isQuote q
  | word [] => beginsWord before
  | word (c :: w) => depth = 0 → startsOr (c :: w ++ rest) = false

theorem Place.Scanned.hasDisj {depth : Nat} {before : Option Char} {w rest : List Char}
    (h : (Place.word w).Scanned depth before rest) (hend : endsWord rest) :
    hasDisj depth (wordTokens w) = false := by
  cases w with
  | nil => rfl
  | cons c w => exact hasDisj_wordTokens hend h

theorem Place.Scanned.append {depth : Nat} {before : Option Char} {w rest : List Char} {c : Char}
    (h : (Place.word w).Scanned depth before (c :: rest))
    (hscan : (decide (depth = 0) && beginsWord before && startsOr (c :: rest)) = false) :
    (Place.word (w ++ [c])).Scanned depth (some c) rest := by
  cases w with
  | nil =>
    intro hdepth
    have hbegins : beginsWord before = true := h
    simpa [hdepth, hbegins] using hscan
  | cons d w =>
    intro hdepth
    simpa using h hdepth

theorem hasDisj_of_hasOr {depth : Nat} {before : Option Char} {place : Place} {text : List Char}
    (hplace : place.Scanned depth before text) (h : hasOr place.inside depth before text = false) :
    hasDisj depth (tokens place text) = false := by
  -- the scan judges a word at its first letter and the reader at its end; what was judged is
  -- carried along in `Scanned`
  induction text generalizing depth before place with
  | nil =>
    cases place with
    | quoted q => rfl
    | word w => exact hplace.hasDisj rfl
  | cons c rest ih =>
    cases place with
    | quoted q =>
      have hquote : isQuote q = true := hplace
      rw [Place.inside_quoted, hasOr_quoted] at h
      by_cases hc : c = q
      · rw [if_pos hc] at h
        have hbegins : Place.start.Scanned depth (some c) rest := by
          simp [Place.start, Place.Scanned, beginsWord, hc, isWordChar_of_isQuote hquote]
        simp only [tokens, hc, if_true]
        exact ih hbegins h
      · rw [if_neg hc] at h
        simp only [tokens, hc, if_false]
        have hquoted : (Place.quoted q).Scanned depth (some c) rest := hquote
        exact ih hquoted h
    | word w =>
      rw [Place.inside_word, hasOr_cons, Bool.or_eq_false_iff] at h
      obtain ⟨hscan, hrest⟩ := h
      cases hquote : isQuote c with
      | true =>
        have hend : endsWord (c :: rest) := by simp [endsWord, isWordChar_of_isQuote hquote]
        have hdepth : depthAt depth c = depth := by
          have hno : c ≠ '(' ∧ c ≠ ')' := by constructor <;> rintro rfl <;> cases hquote
          rw [depthAt, if_neg hno.1, if_neg hno.2]
        rw [hdepth, quoteAfter, hquote] at hrest
        rw [tokens_of_quote hquote, hasDisj_append, hplace.hasDisj hend, depthAfter_wordTokens]
        exact ih hquote hrest
      | false =>
        rw [quoteAfter, hquote] at hrest
        cases hdelim : delimiter? c with
        | some ts =>
          have hchar := isWordChar_of_delimiter hdelim
          have hend : endsWord (c :: rest) := by simp [endsWord, hchar]
          have hbegins : Place.start.Scanned (depthAt depth c) (some c) rest := by
            simp [Place.start, Place.Scanned, beginsWord, hchar]
          obtain ⟨hnone, hdepth⟩ := delimiter_scan hdelim depth
          rw [tokens_of_delimiter hquote hdelim, hasDisj_append, hplace.hasDisj hend,
            depthAfter_wordTokens, hasDisj_append, hnone, hdepth]
          exact ih hbegins hrest
        | none =>
          rw [depthAt_of_letter hdelim] at hrest
          rw [tokens_of_letter hquote hdelim]
          exact ih (hplace.append hscan) hrest

theorem hasDisj_of_hasTopLevelOr {text : String} (h : hasTopLevelOr text = false) :
    hasDisj 0 (tokens .start text.toList) = false := by
  have hstart : Place.start.Scanned 0 none text.toList := rfl
  exact hasDisj_of_hasOr hstart h

end ReportFilters.Condition
