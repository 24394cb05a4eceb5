import Mathlib.Data.List.Forall2
import ReportFilters.Proofs.Json.Text

/-! Written JSON. What is written of a value is read as that value wherever it stands, and lists and
tables of such texts are read entry by entry. -/

namespace ReportFilters.Json

def EndsValue (rest : List Char) : Prop := ∀ c ∈ rest.head?, c = ',' ∨ c = ']' ∨ c = '\x7d'

/-- Fuel of the text's length is enough to read the text as this value. -/
def Reads (text : String) (value : Json) : Prop :=
  ∀ fuel rest, text.length < fuel → EndsValue rest →
    readValue fuel (text.toList ++ rest) = some (value, rest)

theorem Reads.parse? {text : String} {value : Json} (h : Reads text value) :
    Json.parse? text = some value := by
  have hread := h (text.length + 1) [] (by omega) (fun _ hc => nomatch hc)
  rw [List.append_nil] at hread
  rw [Json.parse?, hread]
  rfl

theorem reads_null : Reads "null" .null := by
  intro fuel rest hfuel _
  obtain ⟨fuel, rfl⟩ := Nat.exists_eq_succ_of_ne_zero (Nat.ne_zero_of_lt hfuel)
  rfl

theorem reads_bool (b : Bool) : Reads (if b then "true" else "false") (.bool b) := by
  intro fuel rest hfuel _
  obtain ⟨fuel, rfl⟩ := Nat.exists_eq_succ_of_ne_zero (Nat.ne_zero_of_lt hfuel)
  cases b <;> rfl

theorem toList_writeText (s : String) :
    (writeText s).toList = '\x22' :: (s.toList.flatMap escapeChar ++ ['\x22']) := by
  simp [writeText, String.toList_append]

theorem readText_writeText (s : String) (rest : List Char) :
    ∃ body, (writeText s).toList ++ rest = '\x22' :: body ∧ readText body = some (some s, rest) := by
  refine ⟨s.toList.flatMap escapeChar ++ '\x22' :: rest, ?_, ?_⟩
  · rw [toList_writeText, List.cons_append, List.append_assoc]
    rfl
  · rw [readText_escaped, String.ofList_toList]

theorem reads_writeText (s : String) : Reads (writeText s) (.string (some s)) := by
  intro fuel rest hfuel _
  obtain ⟨fuel, rfl⟩ := Nat.exists_eq_succ_of_ne_zero (Nat.ne_zero_of_lt hfuel)
  obtain ⟨body, htext, hread⟩ := readText_writeText s rest
  have hopen : skipBlanks ('\x22' :: body) = '\x22' :: body := rfl
  rw [htext, readValue, hopen]
  simp only [hread, Option.map_some]

theorem not_closing_of_readItems {fuel : Nat} {text : List Char} {found : List Json × List Char}
    (h : readItems fuel text = some found) (rest : List Char) : skipBlanks text ≠ ']' :: rest := by
  intro hclosing
  cases fuel with
  | zero => cases h
  | succ fuel =>
    rw [readItems] at h
    obtain ⟨item, hitem, _⟩ := Option.bind_eq_some_iff.mp h
    cases fuel with
    | zero => cases hitem
    | succ fuel =>
      rw [readValue, hclosing] at hitem
      cases hitem

theorem not_closing_of_readEntries {fuel : Nat} {text : List Char}
    {found : List (Option String × Json) × List Char} (h : readEntries fuel text = some found)
    (rest : List Char) : skipBlanks text ≠ '\x7d' :: rest := by
  intro hclosing
  cases fuel with
  | zero => cases h
  | succ fuel =>
    rw [readEntries, hclosing] at h
    cases h

theorem readValue_list {fuel : Nat} {text rest : List Char} {items : List Json}
    (h : readItems fuel text = some (items, rest)) :
    readValue (fuel + 1) ('[' :: text) = some (.list items, rest) := by
  have hopen : skipBlanks ('[' :: text) = '[' :: text := rfl
  have hitem := not_closing_of_readItems h
  rw [readValue]
  simp only [hopen, h, Option.map_some]

theorem readValue_table {fuel : Nat} {text rest : List Char} {entries : List (Option String × Json)}
    (h : readEntries fuel text = some (entries, rest)) :
    readValue (fuel + 1) ('\x7b' :: text) = some (.table entries, rest) := by
  have hopen : skipBlanks ('\x7b' :: text) = '\x7b' :: text := rfl
  have hentry := not_closing_of_readEntries h
  rw [readValue]
  simp only [hopen, h, Option.map_some]

section
variable {fuel : Nat} {text body rest left : List Char} {value : Json} {name : Option String}

theorem readItems_last (h : readValue fuel text = some (value, ']' :: rest)) :
    readItems (fuel + 1) text = some ([value], rest) := by
  have hend : skipBlanks (']' :: rest) = ']' :: rest := rfl
  rw [readItems, h]
  simp only [Option.bind_eq_bind, Option.bind_some, hend]
  rfl

theorem readItems_more (h : readValue fuel text = some (value, ',' :: rest)) {values : List Json}
    (hmore : readItems fuel rest = some (values, left)) :
    readItems (fuel + 1) text = some (value :: values, left) := by
  have hcomma : skipBlanks (',' :: rest) = ',' :: rest := rfl
  rw [readItems, h]
  simp only [Option.bind_eq_bind, Option.bind_some, hcomma, hmore]
  rfl

theorem readEntries_last (hname : readText body = some (name, ':' :: text))
    (h : readValue fuel text = some (value, '\x7d' :: rest)) :
    readEntries (fuel + 1) ('\x22' :: body) = some ([(name, value)], rest) := by
  have hopen : skipBlanks ('\x22' :: body) = '\x22' :: body := rfl
  have hcolon : skipBlanks (':' :: text) = ':' :: text := rfl
  have hend : skipBlanks ('\x7d' :: rest) = '\x7d' :: rest := rfl
  rw [readEntries, hopen]
  simp only [hname, Option.bind_eq_bind, Option.bind_some, hcolon, h, hend]
  rfl

theorem readEntries_more (hname : readText body = some (name, ':' :: text))
    (h : readValue fuel text = some (value, ',' :: rest)) {entries : List (Option String × Json)}
    (hmore : readEntries fuel rest = some (entries, left)) :
    readEntries (fuel + 1) ('\x22' :: body) = some ((name, value) :: entries, left) := by
  have hopen : skipBlanks ('\x22' :: body) = '\x22' :: body := rfl
  have hcolon : skipBlanks (':' :: text) = ':' :: text := rfl
  have hcomma : skipBlanks (',' :: rest) = ',' :: rest := rfl
  rw [readEntries, hopen]
  simp only [hname, Option.bind_eq_bind, Option.bind_some, hcolon, h, hcomma, hmore]
  rfl

end

theorem toList_intercalate_cons_cons (text next : String) (more : List String) (rest : List Char) :
    (",".intercalate (text :: next :: more)).toList ++ rest
      = text.toList ++ ',' :: ((",".intercalate (next :: more)).toList ++ rest) := by
  rw [String.intercalate_cons_cons, String.toList_append, String.toList_append, List.append_assoc,
    List.append_assoc]
  rfl

theorem length_intercalate_cons_cons (text next : String) (more : List String) :
    (",".intercalate (text :: next :: more)).length
      = text.length + 1 + (",".intercalate (next :: more)).length := by
  rw [String.intercalate_cons_cons, String.length_append, String.length_append]
  rfl

theorem readItems_intercalate {items : List String} {values : List Json}
    (h : List.Forall₂ Reads items values) (hne : items ≠ []) {fuel : Nat}
    (hfuel : (",".intercalate items).length + 1 < fuel) (rest : List Char) :
    readItems fuel ((",".intercalate items).toList ++ ']' :: rest) = some (values, rest) := by
  induction h generalizing fuel with
  | nil => exact absurd rfl hne
  | @cons item value items values hitem hitems ih =>
    obtain ⟨fuel, rfl⟩ := Nat.exists_eq_succ_of_ne_zero (Nat.ne_zero_of_lt hfuel)
    cases items with
    | nil =>
      cases hitems
      rw [String.intercalate_singleton] at hfuel ⊢
      exact readItems_last (hitem fuel _ (by omega) (by simp [EndsValue]))
    | cons next more =>
      rw [length_intercalate_cons_cons] at hfuel
      rw [toList_intercalate_cons_cons]
      exact readItems_more (hitem fuel _ (by omega) (by simp [EndsValue]))
        (ih (List.cons_ne_nil _ _) (by omega))

theorem reads_writeList {items : List String} {values : List Json}
    (h : List.Forall₂ Reads items values) : Reads (writeList items) (.list values) := by
  intro fuel rest hfuel hrest
  obtain ⟨fuel, rfl⟩ := Nat.exists_eq_succ_of_ne_zero (Nat.ne_zero_of_lt hfuel)
  have htext : (writeList items).toList ++ rest
      = '[' :: ((",".intercalate items).toList ++ ']' :: rest) := by
    simp [writeList, String.toList_append]
  have hlength : (writeList items).length = (",".intercalate items).length + 2 := by
    have hbrackets : "[".length = 1 ∧ "]".length = 1 := ⟨rfl, rfl⟩
    rw [writeList, String.length_append, String.length_append]
    omega
  cases h with
  | nil => rfl
  | cons hitem hitems =>
    rw [htext]
    exact readValue_list (readItems_intercalate (.cons hitem hitems) (List.cons_ne_nil _ _) (by omega) rest)

def Restores (written : Except ε String) (read : Json → Option β) (b : β) : Prop :=
  ∃ text j, written = .ok text ∧ Reads text j ∧ read j = some b

theorem Restores.exists_eq_ok {written : Except ε String} {read : Json → Option β} {b : β}
    (h : Restores written read b) : ∃ text, written = .ok text := by
  obtain ⟨text, _, htext, _⟩ := h
  exact ⟨text, htext⟩

theorem Restores.bind_parse? {written : Except ε String} {read : Json → Option β} {b : β}
    (h : Restores written read b) : ∃ text, written = .ok text ∧ (parse? text).bind read = some b := by
  obtain ⟨text, j, htext, hj, hread⟩ := h
  exact ⟨text, htext, by rw [hj.parse?, Option.bind_some, hread]⟩

theorem exists_reads_writeList {write : α → Except ε String} {read : Json → Option β} {f : α → β}
    {as : List α} (h : ∀ a ∈ as, Restores (write a) read (f a)) :
    ∃ texts js, as.mapM write = .ok texts ∧ Reads (writeList texts) (.list js) ∧
      js.mapM read = some (as.map f) := by
  have hitems : ∃ texts js, as.mapM write = .ok texts ∧ List.Forall₂ Reads texts js ∧
      js.mapM read = some (as.map f) := by
    induction as with
    | nil => exact ⟨[], [], rfl, .nil, rfl⟩
    | cons a more ih =>
      obtain ⟨text, j, htext, hj, hread⟩ := h a (List.mem_cons_self ..)
      obtain ⟨texts, js, htexts, hjs, hmore⟩ := ih fun b hb => h b (List.mem_cons_of_mem _ hb)
      refine ⟨text :: texts, j :: js, ?_, .cons hj hjs, ?_⟩
      · rw [List.mapM_cons, htext, htexts]
        rfl
      · rw [List.mapM_cons, hread, hmore]
        rfl
  obtain ⟨texts, js, htexts, hjs, hread⟩ := hitems
  exact ⟨texts, js, htexts, reads_writeList hjs, hread⟩

def entryText (entry : String × String) : String := writeText entry.1 ++ ":" ++ entry.2

def ReadsEntry (entry : String × String) (found : Option String × Json) : Prop :=
  found.1 = some entry.1 ∧ Reads entry.2 found.2

theorem readText_entryText (entry : String × String) (rest : List Char) :
    ∃ body, (entryText entry).toList ++ rest = '\x22' :: body ∧
      readText body = some (some entry.1, ':' :: (entry.2.toList ++ rest)) := by
  obtain ⟨body, htext, hread⟩ := readText_writeText entry.1 (':' :: (entry.2.toList ++ rest))
  refine ⟨body, ?_, hread⟩
  rw [← htext, entryText, String.toList_append, String.toList_append, List.append_assoc,
    List.append_assoc]
  rfl

theorem readEntries_intercalate {entries : List (String × String)} {found : List (Option String × Json)}
    (h : List.Forall₂ ReadsEntry entries found) (hne : entries ≠ []) {fuel : Nat}
    (hfuel : (",".intercalate (entries.map entryText)).length < fuel) (rest : List Char) :
    readEntries fuel ((",".intercalate (entries.map entryText)).toList ++ '\x7d' :: rest)
      = some (found, rest) := by
  induction h generalizing fuel with
  | nil => exact absurd rfl hne
  | @cons entry value entries found hentry hentries ih =>
    obtain ⟨fuel, rfl⟩ := Nat.exists_eq_succ_of_ne_zero (Nat.ne_zero_of_lt hfuel)
    obtain ⟨name, value⟩ := value
    obtain ⟨rfl, hvalue⟩ := hentry
    -- the fuel left after the entry is enough for its value, whose text is shorter
    have hshorter : entry.2.length < (entryText entry).length := by
      have hcolon : ":".length = 1 := rfl
      rw [entryText, String.length_append, String.length_append]
      omega
    cases entries with
    | nil =>
      cases hentries
      rw [List.map_singleton, String.intercalate_singleton] at hfuel ⊢
      obtain ⟨body, htext, hname⟩ := readText_entryText entry ('\x7d' :: rest)
      rw [htext]
      exact readEntries_last hname (hvalue fuel _ (by omega) (by simp [EndsValue]))
    | cons next more =>
      rw [List.map_cons, List.map_cons, length_intercalate_cons_cons] at hfuel
      rw [List.map_cons, List.map_cons, toList_intercalate_cons_cons]
      obtain ⟨body, htext, hname⟩ := readText_entryText entry
        (',' :: ((",".intercalate ((next :: more).map entryText)).toList ++ '\x7d' :: rest))
      rw [List.map_cons] at htext hname
      rw [htext]
      rw [← List.map_cons] at hfuel
      exact readEntries_more hname (hvalue fuel _ (by omega) (by simp [EndsValue]))
        (ih (List.cons_ne_nil _ _) (by omega))

theorem reads_writeTable {entries : List (String × String)} {found : List (Option String × Json)}
    (h : List.Forall₂ ReadsEntry entries found) : Reads (writeTable entries) (.table found) := by
  intro fuel rest hfuel _
  obtain ⟨fuel, rfl⟩ := Nat.exists_eq_succ_of_ne_zero (Nat.ne_zero_of_lt hfuel)
  have hentries : writeTable entries
      = "\x7b" ++ ",".intercalate (entries.map entryText) ++ "\x7d" := rfl
  have htext : (writeTable entries).toList ++ rest
      = '\x7b' :: ((",".intercalate (entries.map entryText)).toList ++ '\x7d' :: rest) := by
    simp [hentries, String.toList_append]
  have hlength : (writeTable entries).length
      = (",".intercalate (entries.map entryText)).length + 2 := by
    have hbraces : "\x7b".length = 1 ∧ "\x7d".length = 1 := ⟨rfl, rfl⟩
    rw [hentries, String.length_append, String.length_append]
    omega
  cases h with
  | nil => rfl
  | cons hentry hmore =>
    rw [htext]
    exact readValue_table (readEntries_intercalate (.cons hentry hmore) (List.cons_ne_nil _ _) (by omega) rest)

end ReportFilters.Json
