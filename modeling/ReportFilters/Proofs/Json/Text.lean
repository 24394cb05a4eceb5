import ReportFilters.Json.Parser
import ReportFilters.Json.Writer

/-! JSON strings. Whatever the text, what is written between the quotes is read as the text, and the
reader stops at the quote that was written after it. -/

namespace ReportFilters.Json

/-- One piece is read off the text, and it stands for the character whatever follows. -/
def Spells (text : List Char) (c : Char) : Prop :=
  ∃ piece, (∀ rest, readPieces (text ++ rest)
      = (readPieces rest).map fun (pieces, rest) => (piece :: pieces, rest)) ∧
    ∀ pieces, joinPieces (piece :: pieces) = (joinPieces pieces).map (c :: ·)

theorem spells_char {text : List Char} {c : Char} (h : ∀ rest, readPieces (text ++ rest)
    = (readPieces rest).map fun (pieces, rest) => (.char c :: pieces, rest)) : Spells text c :=
  ⟨.char c, h, fun _ => by rw [joinPieces]⟩

theorem spells_plain {c : Char} (hquote : c ≠ '\x22') (hslash : c ≠ '\\') (hcontrol : ¬c.toNat < 0x20) :
    Spells [c] c := by
  apply spells_char
  intro rest
  rw [List.singleton_append, readPieces.eq_5 c rest hquote (fun _ _ _ _ _ h _ => hslash h) (fun _ _ h _ => hslash h),
    if_neg (by simp [hcontrol, hslash])]
  cases readPieces rest <;> rfl

theorem spells_short {e c : Char} (hunit : e ≠ 'u') (h : simpleEscape? e = some c) :
    Spells ['\\', e] c := by
  apply spells_char
  intro rest
  rw [List.cons_append, List.singleton_append, readPieces.eq_4 e rest (fun _ _ _ _ _ h _ => hunit h), h]
  cases readPieces rest <;> rfl

theorem joinPieces_unit {value : Nat} (h : value < 0xD800) (pieces : List Piece) :
    joinPieces (.unit value :: pieces) = (joinPieces pieces).map (Char.ofNat value :: ·) := by
  have hhigh : isHighHalf value = false := by
    rw [isHighHalf, Bool.and_eq_false_iff]
    exact .inl (decide_eq_false (by omega))
  have hlow : isLowHalf value = false := by
    rw [isLowHalf, Bool.and_eq_false_iff]
    exact .inl (decide_eq_false (by omega))
  cases pieces with
  | nil => simp [joinPieces, hhigh, hlow]
  | cons piece rest => cases piece <;> simp [joinPieces, hhigh, hlow]

theorem spells_unit {a b c d : Char} {value : Nat} (h : hexUnit? a b c d = some value)
    (hvalue : value < 0xD800) : Spells ['\\', 'u', a, b, c, d] (Char.ofNat value) := by
  refine ⟨.unit value, ?_, joinPieces_unit hvalue⟩
  intro rest
  simp only [List.cons_append, List.nil_append]
  rw [readPieces, h]
  cases readPieces rest <;> rfl

theorem spells_control {n : Nat} (h : n < 0x20) : Spells (escapeChar (Char.ofNat n)) (Char.ofNat n) := by
  have hcontrols : ∀ n < 0x20,
      (['b', 'f', 'n', 'r', 't'].any fun e =>
        simpleEscape? e = some (Char.ofNat n) ∧ escapeChar (Char.ofNat n) = ['\\', e]) ∨
      hexUnit? '0' '0' (n / 16).digitChar (n % 16).digitChar = some n ∧
        escapeChar (Char.ofNat n) = ['\\', 'u', '0', '0', (n / 16).digitChar, (n % 16).digitChar] := by
    decide
  rcases hcontrols n h with hshort | ⟨hunit, htext⟩
  · obtain ⟨e, he, hshort⟩ := List.any_eq_true.mp hshort
    obtain ⟨hescape, htext⟩ := of_decide_eq_true hshort
    rw [htext]
    refine spells_short ?_ hescape
    rintro rfl
    exact absurd he (by decide)
  · rw [htext]
    exact spells_unit hunit (by omega)

theorem spells_escapeChar (c : Char) : Spells (escapeChar c) c := by
  by_cases hcontrol : c.toNat < 0x20
  · rw [← Char.ofNat_toNat c]
    exact spells_control hcontrol
  · by_cases hquote : c = '\x22'
    · rw [hquote]
      exact spells_short (by decide) rfl
    · by_cases hslash : c = '\\'
      · rw [hslash]
        exact spells_short (by decide) rfl
      · have hplain : escapeChar c = [c] := by
          have hne : ∀ d : Char, d.toNat < 0x20 → c ≠ d := by
            rintro d hd rfl
            exact hcontrol hd
          rw [escapeChar, if_neg hquote, if_neg hslash, if_neg (hne _ (by decide)),
            if_neg (hne _ (by decide)), if_neg (hne _ (by decide)), if_neg (hne _ (by decide)),
            if_neg (hne _ (by decide)), if_neg (by omega), if_neg hcontrol]
        rw [hplain]
        exact spells_plain hquote hslash hcontrol

theorem readText_escaped (text rest : List Char) :
    readText (text.flatMap escapeChar ++ '\x22' :: rest) = some (some (String.ofList text), rest) := by
  have hpieces : ∃ pieces, readPieces (text.flatMap escapeChar ++ '\x22' :: rest) = some (pieces, rest) ∧
      joinPieces pieces = some text := by
    induction text with
    | nil => exact ⟨[], by rw [List.flatMap_nil, List.nil_append, readPieces], rfl⟩
    | cons c more ih =>
      obtain ⟨pieces, hread, hjoin⟩ := ih
      obtain ⟨piece, hpiece, hspelt⟩ := spells_escapeChar c
      refine ⟨piece :: pieces, ?_, ?_⟩
      · rw [List.flatMap_cons, List.append_assoc, hpiece, hread]
        rfl
      · rw [hspelt, hjoin]
        rfl
  obtain ⟨pieces, hread, hjoin⟩ := hpieces
  simp only [readText, hread, Option.map_some, hjoin]

end ReportFilters.Json
