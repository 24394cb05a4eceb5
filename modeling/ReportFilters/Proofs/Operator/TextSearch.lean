import ReportFilters.Proofs.Operator.RelativeDays
import ReportFilters.Proofs.Sql.Like

/-! Search for a text. The text is escaped character by character, so that in the pattern it stands for itself
whatever it is made of. -/

namespace ReportFilters.Builtin

open Like

theorem escapeLike_cons (c : Char) (text : List Char) :
    escapeLike (c :: text) = escapeLike [c] ++ escapeLike text := by
  simp [escapeLike]

theorem escapeLike_of_special {c : Char} (h : c = '%' ∨ c = '_' ∨ c = likeEscape) :
    escapeLike [c] = [likeEscape, c] := by
  simp [escapeLike, h]

theorem escapeLike_of_plain {c : Char} (h : ¬(c = '%' ∨ c = '_' ∨ c = likeEscape)) :
    escapeLike [c] = [c] := by
  simp [escapeLike, h]

theorem fits_escapeLike_singleton (c : Char) (pattern text : List Char) :
    fits likeEscape false (escapeLike [c] ++ pattern) text ↔
      ∃ rest, text = c :: rest ∧ fits likeEscape false pattern rest := by
  by_cases h : c = '%' ∨ c = '_' ∨ c = likeEscape
  · rw [escapeLike_of_special h]
    exact fits_literal pattern text (.inl rfl)
  · rw [escapeLike_of_plain h]
    rw [not_or, not_or] at h
    obtain ⟨hany, hone, hescape⟩ := h
    exact fits_literal pattern text (.inr ⟨hescape, hany, hone⟩)

theorem fits_escapeLike (text pattern whole : List Char) :
    fits likeEscape false (escapeLike text ++ pattern) whole ↔
      ∃ rest, whole = text ++ rest ∧ fits likeEscape false pattern rest := by
  induction text generalizing whole with
  | nil => exact ⟨fun h => ⟨whole, rfl, h⟩, fun ⟨_, hwhole, h⟩ => hwhole ▸ h⟩
  | cons c text ih =>
    rw [escapeLike_cons, List.append_assoc, fits_escapeLike_singleton]
    constructor
    · rintro ⟨more, rfl, hmore⟩
      obtain ⟨rest, rfl, hrest⟩ := (ih more).mp hmore
      exact ⟨rest, rfl, hrest⟩
    · rintro ⟨rest, rfl, hrest⟩
      exact ⟨text ++ rest, rfl, (ih _).mpr ⟨rest, rfl, hrest⟩⟩

theorem escapeLike_injective : Function.Injective escapeLike := by
  intro text other h
  have hself : fits likeEscape false (escapeLike text ++ []) text :=
    (fits_escapeLike text [] text).mpr ⟨[], (List.append_nil text).symm, (fits_nil _ _).mpr rfl⟩
  rw [h] at hself
  obtain ⟨rest, heq, hrest⟩ := (fits_escapeLike other [] text).mp hself
  rw [heq, (fits_nil _ _).mp hrest, List.append_nil]

theorem isWellFormed_escapeLike (text pattern : List Char) :
    isWellFormed likeEscape false (escapeLike text ++ pattern)
      = isWellFormed likeEscape false pattern := by
  induction text with
  | nil => rfl
  | cons c text ih =>
    rw [escapeLike_cons, List.append_assoc]
    by_cases h : c = '%' ∨ c = '_' ∨ c = likeEscape
    · have hspecial : (c = '%' || c = '_' || c = likeEscape) = true := by simpa [or_assoc] using h
      rw [escapeLike_of_special h]
      simpa [isWellFormed, hspecial] using ih
    · rw [escapeLike_of_plain h]
      rw [not_or, not_or] at h
      simpa [isWellFormed, h.2.2] using ih

theorem toList_likePattern (text : String) :
    (likePattern text).toList = '%' :: (escapeLike text.toList ++ ['%']) := by
  simp [likePattern]

theorem fits_likePattern (text whole : String) :
    fits likeEscape false (likePattern text).toList whole.toList
      ↔ text.toList <:+: whole.toList := by
  rw [toList_likePattern, fits_any _ _ (by decide)]
  constructor
  · rintro ⟨front, more, hwhole, hmore⟩
    obtain ⟨rest, rfl, _⟩ := (fits_escapeLike ..).mp hmore
    exact ⟨front, rest, by rw [hwhole, List.append_assoc]⟩
  · rintro ⟨front, rest, hwhole⟩
    have hlast : fits likeEscape false ['%'] rest :=
      (fits_any [] rest (by decide)).mpr ⟨rest, [], (List.append_nil rest).symm, (fits_nil _ _).mpr rfl⟩
    refine ⟨front, text.toList ++ rest, ?_, (fits_escapeLike ..).mpr ⟨rest, rfl, hlast⟩⟩
    rw [← hwhole, List.append_assoc]

theorem isWellFormed_likePattern (text : String) :
    isWellFormed likeEscape false (likePattern text).toList = true := by
  have hfirst : isWellFormed likeEscape false ('%' :: (escapeLike text.toList ++ ['%']))
      = isWellFormed likeEscape false (escapeLike text.toList ++ ['%']) := rfl
  rw [toList_likePattern, hfirst, isWellFormed_escapeLike]
  rfl

def searches : List (Builtin × Bool) := [(contains, false), (notContains, true)]

theorem predicate_searches {op : Builtin} {negated : Bool} (hop : (op, negated) ∈ searches)
    {v : Value} {text : String} (hv : v.text? = some text) (column : String) (clock : Clock) :
    op.predicate column [v] clock
      = .ok (Likeness.condition column ⟨negated, likeEscape, likePattern text⟩) := by
  simp only [searches, List.mem_cons, List.not_mem_nil, or_false, Prod.mk.injEq] at hop
  rcases hop with ⟨rfl, rfl⟩ | ⟨rfl, rfl⟩
  · simp [predicate, valueAt, hv, Likeness.condition, likeEscape, String.append_assoc]
  · simp [predicate, valueAt, hv, Likeness.condition, likeEscape, String.append_assoc]

theorem condition_searches_eq_ok_iff {op : Builtin} {negated : Bool} (hop : (op, negated) ∈ searches)
    {v : Value} {text : String} (hv : v.text? = some text) {dialect : Dialect} {column : String}
    {clock : Clock} {p : Predicate} :
    op.condition dialect column [v] clock = .ok p ↔ clock.hasToday = true ∧
      p = Likeness.condition (dialect.quoteQualified column)
        ⟨negated, likeEscape, likePattern text⟩ := by
  have harity : op.arity = .fixed [v].length := by
    simp only [searches, List.mem_cons, List.not_mem_nil, or_false, Prod.mk.injEq] at hop
    rcases hop with ⟨rfl, _⟩ | ⟨rfl, _⟩ <;> rfl
  have hpresent : v.isNull = false := by
    cases v with
    | null => cases hv
    | _ => rfl
  rw [condition_all_eq_ok_iff harity, harity,
    Arity.prepare_eq_self (List.forall_mem_singleton.mpr hpresent), predicate_searches hop hv,
    Except.ok.injEq, and_iff_right rfl, eq_comm (a := p)]

theorem params_of_searches {op : Builtin} {negated : Bool} (hop : (op, negated) ∈ searches)
    {v : Value} {text : String} (hv : v.text? = some text) {dialect : Dialect} {column : String}
    {clock : Clock} {p : Predicate} (h : op.condition dialect column [v] clock = .ok p) :
    p.params = [.text ("%" ++ String.ofList (escapeLike text.toList) ++ "%")] := by
  obtain ⟨_, rfl⟩ := (condition_searches_eq_ok_iff hop hv).mp h
  have hpattern : likePattern text = "%" ++ String.ofList (escapeLike text.toList) ++ "%" := by
    rw [← String.toList_inj, toList_likePattern]
    simp
  rw [← hpattern]
  rfl

theorem selectsText_searches {op : Builtin} {negated : Bool} (hop : (op, negated) ∈ searches)
    {v : Value} {text : String} (hv : v.text? = some text) {dialect : Dialect} {column : String}
    {clock : Clock} {p : Predicate} (h : op.condition dialect column [v] clock = .ok p)
    (whole : String) :
    p.SelectsText (dialect.quoteQualified column) whole
      ↔ (text.toList <:+: whole.toList ↔ negated = false) := by
  obtain ⟨_, rfl⟩ := (condition_searches_eq_ok_iff hop hv).mp h
  rw [Predicate.selectsText_condition, Likeness.Holds, ← fits_likePattern]
  cases negated <;> simp

/-- A text is searched for as it is, whatever characters it is made of: the pattern that is bound is well
formed and fits the texts in which the text occurs, and no two texts are escaped alike. -/
theorem searches_select_occurrences {v : Value} {text : String} (hv : v.text? = some text)
    (dialect : Dialect) (column : String) (clock : Clock) :
    (∀ p, contains.condition dialect column [v] clock = .ok p →
      p.params = [.text ("%" ++ String.ofList (escapeLike text.toList) ++ "%")] ∧
      ∀ whole, p.SelectsText (dialect.quoteQualified column) whole
        ↔ text.toList <:+: whole.toList) ∧
    (∀ p, notContains.condition dialect column [v] clock = .ok p →
      p.params = [.text ("%" ++ String.ofList (escapeLike text.toList) ++ "%")] ∧
      ∀ whole, p.SelectsText (dialect.quoteQualified column) whole
        ↔ ¬text.toList <:+: whole.toList) ∧
    (clock.hasToday = true → ∀ op ∈ [contains, notContains],
      ∃ p, op.condition dialect column [v] clock = .ok p) ∧
    isWellFormed likeEscape false (escapeLike text.toList) = true ∧
    isWellFormed likeEscape false (likePattern text).toList = true ∧
    Function.Injective escapeLike := by
  have hcontains : (contains, false) ∈ searches := by decide
  have hmissing : (notContains, true) ∈ searches := by decide
  refine ⟨?_, ?_, ?_, ?_, isWellFormed_likePattern text, escapeLike_injective⟩
  · intro p hp
    refine ⟨params_of_searches hcontains hv hp, fun whole => ?_⟩
    rw [selectsText_searches hcontains hv hp]
    simp
  · intro p hp
    refine ⟨params_of_searches hmissing hv hp, fun whole => ?_⟩
    rw [selectsText_searches hmissing hv hp]
    simp
  · intro htoday op hop
    simp only [List.mem_cons, List.not_mem_nil, or_false] at hop
    rcases hop with rfl | rfl
    · exact ⟨_, (condition_searches_eq_ok_iff hcontains hv).mpr ⟨htoday, rfl⟩⟩
    · exact ⟨_, (condition_searches_eq_ok_iff hmissing hv).mpr ⟨htoday, rfl⟩⟩
  · have hwhole := isWellFormed_escapeLike text.toList []
    rw [List.append_nil] at hwhole
    exact hwhole

theorem searches_select_marks : ∃ p, (Value.text "50%_!").text? = some "50%_!" ∧
    contains.condition .sqlite "entries.comments" [.text "50%_!"] mayNoon = .ok p ∧
    p.SelectsText "entries.comments" "up 50%_!% off" ∧
    ¬p.SelectsText "entries.comments" "up 50%x!" ∧ ¬p.SelectsText "entries.comments" "50%_" := by
  obtain ⟨hselects, -, hexists, -⟩ :=
    searches_select_occurrences (v := .text "50%_!") rfl .sqlite "entries.comments" mayNoon
  obtain ⟨p, hp⟩ := hexists (by decide) contains (by decide)
  have hcolumn : Dialect.sqlite.quoteQualified "entries.comments" = "entries.comments" := by
    decide +kernel
  have hoccurs := (hselects p hp).2
  rw [hcolumn] at hoccurs
  refine ⟨p, rfl, hp, ?_, ?_, ?_⟩
  · rw [hoccurs]
    exact ⟨"up ".toList, "% off".toList, rfl⟩
  · rw [hoccurs]
    decide
  · rw [hoccurs]
    decide

end ReportFilters.Builtin
