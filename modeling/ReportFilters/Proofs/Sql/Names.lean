import ReportFilters.Proofs.Fragment.Tidy
import ReportFilters.Sql.Join

/-! Quoted names. Whatever the name, its quoted form closes its quotes and shows a reader no
mark: a quote inside the name is doubled, and everything else that could be taken for a quote or a
mark is inside quotes. -/

namespace ReportFilters.Dialect
open Fragment

def doubled (q : Char) (name : List Char) : List Char :=
  name.flatMap fun c => if c = q then [q, q] else [c]

theorem doubled_cons (q c : Char) (rest : List Char) :
    doubled q (c :: rest) = (if c = q then [q, q] else [c]) ++ doubled q rest := rfl

theorem isQuote_quoteChar (d : Dialect) : isQuote d.quoteChar = true := by cases d <;> rfl

section
variable {q : Char} (hq : isQuote q = true)
include hq

theorem foldl_quoteAfter_doubled (name : List Char) :
    (doubled q name).foldl quoteAfter (some q) = some q := by
  induction name with
  | nil => rfl
  | cons c rest ih =>
    rw [doubled_cons, List.foldl_append]
    by_cases hc : c = q
    · simpa [hc, quoteAfter, hq] using ih
    · simpa [hc, quoteAfter] using ih

theorem isClear_doubled (name : List Char) : isClear (some q) (doubled q name) := by
  have hmark : q ≠ '$' ∧ q ≠ '?' := by constructor <;> rintro rfl <;> exact absurd hq (by decide)
  induction name with
  | nil => rfl
  | cons c rest ih =>
    rw [doubled_cons]
    by_cases hc : c = q
    · simpa [hc, isClear, quoteAfter, hq, hmark] using ih
    · simpa [hc, isClear, quoteAfter] using ih

theorem markerCount_doubled (name : List Char) : markerCount (some q) (doubled q name) = 0 := by
  have hmark : q ≠ '?' := by rintro rfl; exact absurd hq (by decide)
  induction name with
  | nil => rfl
  | cons c rest ih =>
    rw [doubled_cons]
    by_cases hc : c = q
    · simpa [hc, markerCount, quoteAfter, hq, hmark] using ih
    · simpa [hc, markerCount, quoteAfter] using ih

theorem bare_quoted (name : List Char) : Bare (q :: (doubled q name ++ [q])) := by
  have hmark : q ≠ '$' ∧ q ≠ '?' ∧ q.isDigit = false := by
    simp only [isQuote, Bool.or_eq_true, decide_eq_true_eq] at hq
    rcases hq with (rfl | rfl) | rfl <;> decide
  have hopen : quoteAfter none q = some q := by rw [quoteAfter, hq]; rfl
  have hclose : quoteAfter (some q) q = none := if_pos rfl
  refine ⟨?_, ?_, ?_, ?_⟩
  · simp [startsApart, hmark]
  · rw [List.foldl_cons, hopen, List.foldl_append, foldl_quoteAfter_doubled hq]
    exact hclose
  · have hbody : isClear (some q) (doubled q name ++ [q]) := by
      refine isClear_append (isClear_doubled hq name) ?_ ?_
      · rw [foldl_quoteAfter_doubled hq]
        rfl
      · simp [startsApart, hmark]
    simp [isClear, hopen, hmark, hbody]
  · have hbody : markerCount (some q) (doubled q name ++ [q]) = 0 := by
      rw [markerCount_append, markerCount_doubled hq, foldl_quoteAfter_doubled hq]
      rfl
    simp [markerCount, hopen, hmark, hbody]

end

theorem exists_word {name : String} (h : needsQuoting name = false) :
    ∃ c rest, name.toList = c :: rest ∧ c.isDigit = false ∧
      ∀ e ∈ c :: rest, isIdentifierChar e = true := by
  simp only [needsQuoting, Bool.or_eq_false_iff, Bool.not_eq_false'] at h
  obtain ⟨⟨⟨_, hnonempty⟩, hdigit⟩, hall⟩ := h
  cases hchars : name.toList with
  | nil =>
    rw [String.toList_eq_nil_iff] at hchars
    rw [hchars] at hnonempty
    cases hnonempty
  | cons c rest =>
    rw [hchars] at hdigit hall
    exact ⟨c, rest, rfl, hdigit, List.all_eq_true.mp hall⟩

theorem toNat_lt_of_isIdentifierChar {c : Char} (h : isIdentifierChar c = true) : c.toNat < 0x80 := by
  have hbound : ∀ last : Char, last.toNat < 0x80 → c.val ≤ last.val → c.toNat < 0x80 :=
    fun last hlast hle => (UInt32.le_iff_toNat_le.mp hle).trans_lt hlast
  rcases Bool.or_eq_true_iff.mp h with hletter | hunderscore
  · rcases Bool.or_eq_true_iff.mp hletter with halpha | hdigit
    · rcases Bool.or_eq_true_iff.mp halpha with hupper | hlower
      · exact hbound 'Z' (by decide) (of_decide_eq_true hupper).2
      · exact hbound 'z' (by decide) (of_decide_eq_true (Bool.and_eq_true_iff.mp hlower).2)
    · exact hbound '9' (by decide) (of_decide_eq_true (Bool.and_eq_true_iff.mp hdigit).2)
  · rw [of_decide_eq_true hunderscore]
    decide

theorem lowerFrom_word {word : List Char} (h : ∀ c ∈ word, isIdentifierChar c = true)
    (before : List Char) : Text.lowerFrom before word = word.map Char.toLower := by
  induction word generalizing before with
  | nil => rfl
  | cons c rest ih =>
    have hascii := toNat_lt_of_isIdentifierChar (h c (List.mem_cons_self ..))
    have hsigma : c ≠ 'Σ' := by
      rintro rfl
      exact absurd hascii (by decide)
    rw [Text.lowerFrom, if_neg hsigma, Text.lowerChar, if_pos hascii,
      ih fun d hd => h d (List.mem_cons_of_mem _ hd)]
    rfl

theorem not_reserved {name : String} (h : needsQuoting name = false) :
    String.ofList (name.toList.map Char.toLower) ∉ reservedWords := by
  obtain ⟨c, rest, hchars, _, hall⟩ := exists_word h
  rw [← lowerFrom_word (hchars ▸ hall) []]
  simp only [needsQuoting, Bool.or_eq_false_iff] at h
  simpa [Text.lowercase] using h.1.1.1

theorem isQuote_of_isIdentifierChar {c : Char} (h : isIdentifierChar c = true) : isQuote c = false := by
  simp only [isQuote, Bool.or_eq_false_iff, decide_eq_false_iff_not]
  refine ⟨⟨?_, ?_⟩, ?_⟩ <;> rintro rfl <;> exact absurd h (by decide)

theorem bare_word {name : String} (h : needsQuoting name = false) : Bare name.toList := by
  obtain ⟨c, rest, hchars, hdigit, hall⟩ := exists_word h
  rw [hchars]
  apply Bare.of_plain
  · simpa [startsApart] using hdigit
  · intro e he
    refine ⟨isQuote_of_isIdentifierChar (hall e he), ?_, ?_⟩
    · rintro rfl
      exact absurd (hall _ he) (by decide)
    · rintro rfl
      exact absurd (hall _ he) (by decide)

theorem bare_quoteIdentifier (d : Dialect) (name : String) :
    Bare (d.quoteIdentifier name).toList := by
  rw [quoteIdentifier]
  cases h : needsQuoting name with
  | false => exact bare_word h
  | true =>
    have hbody := bare_quoted d.isQuote_quoteChar name.toList
    simpa [quoteAlways, doubled] using hbody

theorem bare_quoteQualified (d : Dialect) (name : String) :
    Bare (d.quoteQualified name).toList := by
  refine intercalate_of_append (P := Bare) (by decide) Tidy.append (by decide) ?_
  intro s hs
  obtain ⟨part, _, rfl⟩ := List.mem_map.mp hs
  exact d.bare_quoteIdentifier _

theorem head?_quoteIdentifier (d : Dialect) (name : String) :
    ∃ c rest, (d.quoteIdentifier name).toList = c :: rest ∧
      (c = d.quoteChar ∨ isIdentifierChar c = true) := by
  rw [quoteIdentifier]
  cases h : needsQuoting name with
  | true => exact ⟨d.quoteChar, _, String.toList_ofList, .inl rfl⟩
  | false =>
    obtain ⟨c, rest, hchars, _, hall⟩ := exists_word h
    exact ⟨c, rest, hchars, .inr (hall c (List.mem_cons_self ..))⟩

theorem dotParts_eq_splitOn (text : List Char) : dotParts text = text.splitOn '.' := by
  induction text with
  | nil => rfl
  | cons c rest ih =>
    rw [dotParts, List.splitOn_cons_eq_if_modifyHead, ih]
    by_cases hc : c = '.'
    · simp [hc]
    · rw [if_neg hc, if_neg (by simpa using hc)]
      cases hparts : rest.splitOn '.' with
      | nil => exact absurd hparts (List.splitOn_ne_nil _ _)
      | cons part more => rfl

theorem toList_quoteQualified (d : Dialect) (name : String) :
    (d.quoteQualified name).toList = ['.'].intercalate
      ((name.toList.splitOn '.').map fun part => (d.quoteIdentifier (String.ofList part)).toList) := by
  rw [quoteQualified, String.toList_intercalate, List.map_map, dotParts_eq_splitOn]
  rfl

theorem head?_quoteQualified (d : Dialect) (name : String) :
    (d.quoteQualified name).toList.head? ≠ some '(' := by
  rw [toList_quoteQualified]
  cases name.toList.splitOn '.' with
  | nil => simp
  | cons part more =>
    obtain ⟨c, rest, hfirst, hc⟩ := d.head?_quoteIdentifier (String.ofList part)
    have hopen : c ≠ '(' := by
      rintro rfl
      rcases hc with hquote | hword
      · cases d <;> cases hquote
      · cases hword
    cases more with
    | nil => simpa [hfirst] using hopen
    | cons => simpa [List.intercalate_cons_cons, hfirst] using hopen

end Dialect

theorem Join.bare_sql (join : Join) (d : Dialect) : Fragment.Bare (join.sql d).toList := by
  have hname := d.bare_quoteIdentifier
  have hverb : Fragment.Bare "LEFT OUTER JOIN ".toList := by decide +kernel
  have hon : Fragment.Bare " ON ".toList := by decide +kernel
  have heq : Fragment.Bare " = ".toList := by decide +kernel
  have hdot : Fragment.Bare ".".toList := by decide +kernel
  have htable := ((hverb.append (hname join.table)).append hon).append (hname join.table)
  have hleft := ((htable.append hdot).append (hname join.column)).append heq
  have hright := ((hleft.append (hname join.fromTable)).append hdot).append (hname join.fromColumn)
  unfold Join.sql
  simp only [String.toList_append]
  exact hright

end ReportFilters
