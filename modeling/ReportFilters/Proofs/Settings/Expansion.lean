import ReportFilters.Proofs.Settings.Filling
import ReportFilters.Settings.Document

/-! What the expansion of references comes to. It goes from one reference to the next and replaces each
throughout the text as it then stands, values that are already in it included. As long as no value
brings in a dollar sign and no two references meet, this is the same as putting every value in its place
at once. -/

namespace ReportFilters.Environment

def replaceOne (env : Environment) (text name : List Char) : List Char :=
  match env.get? (String.ofList name) with
  | some value => replaceFrom (reference name) value.toList 0 text
  | none => text

theorem expand_eq_foldl (env : Environment) (text : List Char) :
    env.expand text = (references text).foldl env.replaceOne text := rfl

def fillOne (env : Environment) (pieces : List Piece) (name : List Char) : List Piece :=
  match env.get? (String.ofList name) with
  | some value => fill name value.toList pieces
  | none => pieces

theorem replaceOne_of_split {text : List Char} {pieces : List Piece} (h : Split text pieces)
    {name : List Char} (hname : IsName name) (hbare : Bares name (namesOf pieces)) (env : Environment) :
    env.replaceOne text name = textOf (env.fillOne pieces name) := by
  rw [replaceOne, fillOne]
  split
  · exact replaceFrom_of_split h hname hbare _
  · exact h.textOf_eq.symm

theorem substitutedText_fillOne (env : Environment) (pieces : List Piece) (name : List Char) :
    env.substitutedText (env.fillOne pieces name) = env.substitutedText pieces := by
  rw [fillOne]
  split
  next value hvalue =>
    rw [substitutedText, substitutedText, fill, List.flatMap_assoc]
    refine List.flatMap_congr fun piece _ => ?_
    split
    next heq =>
      rw [heq, Piece.substituted, hvalue]
      exact substitutedText_map_kept env value.toList
    next => exact List.flatMap_singleton ..
  next => rfl

theorem mem_namesOf_fillOne {env : Environment} {pieces : List Piece} {name other : List Char}
    (h : other ∈ namesOf (env.fillOne pieces name)) : other ∈ namesOf pieces ∧
      (other = name → env.get? (String.ofList other) = none) := by
  rw [fillOne] at h
  split at h
  next value hvalue =>
    rw [namesOf_fill, List.mem_filter, decide_eq_true_eq] at h
    exact ⟨h.1, fun heq => absurd heq h.2⟩
  next hnone => exact ⟨h, fun heq => heq ▸ hnone⟩

theorem textOf_eq_substitutedText {env : Environment} {pieces : List Piece}
    (h : ∀ name ∈ namesOf pieces, env.get? (String.ofList name) = none) :
    textOf pieces = env.substitutedText pieces := by
  refine List.flatMap_congr fun piece hpiece => ?_
  cases piece with
  | kept c => rfl
  | reference name =>
    have hnone := h name (List.mem_filterMap.mpr ⟨_, hpiece, rfl⟩)
    rw [Piece.substituted, hnone]
    rfl

section
variable {env : Environment} {pieces : List Piece} {name : List Char}
  (hvalue : ∀ value ∈ env.get? (String.ofList name), '$' ∉ value.toList)
include hvalue

theorem Apart.fillOne (h : Apart pieces) : Apart (env.fillOne pieces name) := by
  rw [Environment.fillOne]
  split
  next value hset => exact h.fill (hvalue value hset)
  next => exact h

theorem Split.fillOne {text : List Char} (h : Split text pieces) (hapart : Apart pieces) :
    Split (textOf (env.fillOne pieces name)) (env.fillOne pieces name) := by
  rw [Environment.fillOne]
  split
  next value hset => exact h.fill (hvalue value hset) hapart
  next => rwa [h.textOf_eq]

end

/-- Its value brings in no dollar sign, and it is not written at the end of another reference. -/
structure PlainName (env : Environment) (names : List (List Char)) (name : List Char) : Prop where
  value : ∀ value ∈ env.get? (String.ofList name), '$' ∉ value.toList
  bare : Bares name names

theorem PlainName.mono {env : Environment} {names more : List (List Char)} {name : List Char}
    (h : PlainName env more name) (hsub : ∀ other ∈ names, other ∈ more) : PlainName env names name :=
  ⟨h.value, fun other hother => h.bare other (hsub other hother)⟩

theorem foldl_replaceOne {env : Environment} {names : List (List Char)} {pieces : List Piece}
    (hnames : ∀ name ∈ names, IsName name ∧ PlainName env (namesOf pieces) name)
    (hsplit : Split (textOf pieces) pieces) (hapart : Apart pieces)
    (hset : ∀ name ∈ namesOf pieces, name ∉ names → env.get? (String.ofList name) = none) :
    names.foldl env.replaceOne (textOf pieces) = env.substitutedText pieces := by
  induction names generalizing pieces with
  | nil => exact textOf_eq_substitutedText fun name hname => hset name hname (by simp)
  | cons name names ih =>
    obtain ⟨hname, hplain⟩ := hnames name (List.mem_cons_self ..)
    rw [List.foldl_cons, replaceOne_of_split hsplit hname hplain.bare, ← substitutedText_fillOne]
    refine ih ?_ (hsplit.fillOne hplain.value hapart) (hapart.fillOne hplain.value) ?_
    · intro other hother
      obtain ⟨hother, hplain⟩ := hnames other (List.mem_cons_of_mem _ hother)
      exact ⟨hother, hplain.mono fun m hm => (mem_namesOf_fillOne hm).1⟩
    · intro other hother hnot
      obtain ⟨hmem, hfilled⟩ := mem_namesOf_fillOne hother
      by_cases heq : other = name
      · exact hfilled heq
      · exact hset other hmem fun h => (List.mem_cons.mp h).elim heq hnot

/-- No reference stands in the way of another: all are plain, and no dollar sign stands right before
one. -/
structure Plain (env : Environment) (pieces : List Piece) : Prop where
  names : ∀ name ∈ namesOf pieces, PlainName env (namesOf pieces) name
  apart : Apart pieces

theorem Split.expand_of_plain {env : Environment} {text : List Char} {pieces : List Piece}
    (h : Split text pieces) (hplain : Plain env pieces) :
    env.expand text = env.substitutedText pieces := by
  rw [expand_eq_foldl, h.references_eq, ← h.textOf_eq]
  refine foldl_replaceOne (fun name hname => ⟨h.isName hname, hplain.names name hname⟩) ?_ hplain.apart
    fun name hname hnot => absurd hname hnot
  rwa [h.textOf_eq]

theorem Split.expand_of_single {text : List Char} {pieces : List Piece} (h : Split text pieces)
    (hsingle : (namesOf pieces).length ≤ 1) (env : Environment) :
    env.expand text = env.substitutedText pieces := by
  rw [expand_eq_foldl, h.references_eq]
  cases hnames : namesOf pieces with
  | nil =>
    rw [List.foldl_nil, ← h.textOf_eq]
    exact textOf_eq_substitutedText fun name hname => by simp [hnames] at hname
  | cons name names =>
    have hnone : names = [] := by
      rw [hnames, List.length_cons] at hsingle
      exact List.length_eq_zero_iff.mp (by omega)
    subst hnone
    have hbare : Bares name (namesOf pieces) := by
      intro other hother _
      rw [hnames] at hother
      exact List.mem_singleton.mp hother
    have hname : IsName name := h.isName (hnames ▸ List.mem_singleton_self name)
    rw [List.foldl_cons, List.foldl_nil, replaceOne_of_split h hname hbare, ← substitutedText_fillOne]
    refine textOf_eq_substitutedText fun other hother => ?_
    obtain ⟨hmem, hfilled⟩ := mem_namesOf_fillOne hother
    rw [hnames] at hmem
    exact hfilled (List.mem_singleton.mp hmem)

/-! Two references. -/

theorem exists_first {pieces : List Piece} {name : List Char} {names : List (List Char)}
    (h : namesOf pieces = name :: names) :
    ∃ (front : List Char) (rest : List Piece),
      pieces = front.map .kept ++ .reference name :: rest ∧ namesOf rest = names := by
  induction pieces with
  | nil => cases h
  | cons piece pieces ih =>
    cases piece with
    | reference other =>
      rw [namesOf_reference] at h
      cases h
      exact ⟨[], pieces, rfl, rfl⟩
    | kept c =>
      obtain ⟨front, rest, rfl, hrest⟩ := ih h
      exact ⟨c :: front, rest, rfl, hrest⟩

theorem Split.not_startsReference_front {front text name : List Char} {rest : List Piece}
    (h : Split text (front.map .kept ++ .reference name :: rest)) {s : List Char} (hs : s ≠ [])
    (hsuffix : s <:+ front) : ¬StartsReference (s ++ (reference name ++ textOf rest)) ∧
      ∀ more, ¬StartsReference (s ++ 'x' :: more) := by
  induction front generalizing text with
  | nil => exact absurd (List.suffix_nil.mp hsuffix) hs
  | cons c front ih =>
    cases h with
    | @kept _ text' _ hnone hsplit =>
      have hrest : Split text' (front.map .kept ++ .reference name :: rest) := hsplit
      have htext : text' = front ++ (reference name ++ textOf rest) := by
        rw [← hrest.textOf_eq, textOf_append, textOf_map_kept, textOf_reference]
      rcases (List.suffix_cons_iff.mp hsuffix).symm with hsuffix | rfl
      · exact ih hrest hsuffix
      rw [htext] at hnone
      refine ⟨hnone, fun more => ?_⟩
      by_cases hdollar : c ≠ '$'
      · exact not_startsReference_of_ne hdollar _
      obtain rfl := not_not.mp hdollar
      cases front with
      | nil => exact not_startsReference_of_ne_brace (by decide) more
      | cons d front =>
        by_cases hother : d ≠ '\x7b'
        · exact not_startsReference_of_ne_brace hother _
        obtain rfl := not_not.mp hother
        -- as there is a brace that closes further on, it comes right behind the one that opens
        rw [List.cons_append, startsReference_braced_iff, not_and, not_not] at hnone
        have hhead := hnone (by simp [reference])
        cases front with
        | nil => cases hhead
        | cons e front =>
          rw [List.cons_append, List.cons_append, startsReference_braced_iff]
          exact fun hboth => hboth.2 hhead

section
variable {front text first : List Char} {rest : List Piece}
  (h : Split text (front.map .kept ++ .reference first :: rest))
include h

theorem replaceFrom_front {name : List Char} (hname : IsName name) (value more : List Char) :
    replaceFrom (reference name) value 0 (front ++ 'x' :: more)
      = front ++ 'x' :: replaceFrom (reference name) value 0 more := by
  have hletter := not_startsReference_of_ne (by decide : 'x' ≠ '$') more
  rw [replaceFrom_append, replaceFrom_of_not_startsReference hname hletter]
  intro s hs hsuffix hprefix
  exact (h.not_startsReference_front hs hsuffix).2 more (startsReference_of_occurs hname hprefix)

theorem exists_foldl_replaceOne (env : Environment) {names : List (List Char)}
    (hnames : ∀ name ∈ names, IsName name) (more : List Char) : ∃ more',
      names.foldl env.replaceOne (front ++ 'x' :: 'x' :: more) = front ++ 'x' :: 'x' :: more' := by
  induction names generalizing more with
  | nil => exact ⟨more, rfl⟩
  | cons name names ih =>
    have hname := hnames name (List.mem_cons_self ..)
    have hrest := ih fun other hother => hnames other (List.mem_cons_of_mem _ hother)
    have hletter := not_startsReference_of_ne (by decide : 'x' ≠ '$') more
    rw [List.foldl_cons, replaceOne]
    split
    · rw [replaceFrom_front h hname, replaceFrom_of_not_startsReference hname hletter]
      exact hrest _
    · exact hrest more

end

def nesting (first second : List Char) : Environment :=
  [(String.ofList first, String.ofList ('x' :: reference second)),
    (String.ofList second, String.ofList ('x' :: reference second))]

theorem get?_nesting {first second name : List Char} (h : name = first ∨ name = second) :
    (nesting first second).get? (String.ofList name) = some (String.ofList ('x' :: reference second)) := by
  rw [nesting, Dictionary.get?, Dictionary.get?]
  rcases h with rfl | rfl
  · rw [if_pos rfl]
  · split
    · rfl
    · rw [if_pos rfl]

section
variable {front text first second : List Char} {rest : List Piece}

theorem exists_expand_nesting (h : Split text (front.map .kept ++ .reference first :: rest))
    {names : List (List Char)} (hnames : namesOf rest = second :: names) : ∃ more,
      (nesting first second).expand text = front ++ 'x' :: 'x' :: more := by
  have hall : namesOf (front.map .kept ++ .reference first :: rest) = first :: second :: names := by
    rw [namesOf_map_kept_append, ← hnames]
    rfl
  have hname : ∀ name ∈ first :: second :: names, IsName name := fun name hname =>
    h.isName (hall ▸ hname)
  have hsecond : IsName second := hname second (by simp)
  have hstep : ∀ name text, name = first ∨ name = second → (nesting first second).replaceOne text name
      = replaceFrom (reference name) ('x' :: reference second) 0 text := by
    intro name text hname
    rw [replaceOne, get?_nesting hname]
    exact congrArg (fun v => replaceFrom (reference name) v 0 text) String.toList_ofList
  have hone : ∃ more, (nesting first second).replaceOne text first
      = front ++ 'x' :: (reference second ++ more) := by
    rw [hstep first text (.inl rfl), ← h.textOf_eq, textOf_append, textOf_map_kept, textOf_reference,
      replaceFrom_append, replaceFrom_reference]
    · exact ⟨_, rfl⟩
    · intro s hs hsuffix hprefix
      exact (h.not_startsReference_front hs hsuffix).1
        (startsReference_of_occurs (hname first (by simp)) hprefix)
  obtain ⟨more, hone⟩ := hone
  have htwo : ∃ more', (nesting first second).replaceOne (front ++ 'x' :: (reference second ++ more))
      second = front ++ 'x' :: 'x' :: more' := by
    rw [hstep second _ (.inr rfl), replaceFrom_front h hsecond, replaceFrom_reference]
    exact ⟨_, rfl⟩
  obtain ⟨more', htwo⟩ := htwo
  rw [expand_eq_foldl, h.references_eq, hall, List.foldl_cons, List.foldl_cons, hone, htwo]
  exact exists_foldl_replaceOne h _ (fun name hmem => hname name (by simp [hmem])) more'

theorem exists_substitutedText_nesting : ∃ more, (nesting first second).substitutedText
    (front.map .kept ++ .reference first :: rest) = front ++ 'x' :: '$' :: more := by
  have hvalue : Piece.substituted (nesting first second) (.reference first)
      = 'x' :: reference second := by
    rw [Piece.substituted, get?_nesting (.inl rfl)]
    exact String.toList_ofList
  rw [substitutedText, List.flatMap_append, List.flatMap_cons, hvalue, ← substitutedText,
    substitutedText_map_kept]
  exact ⟨_, rfl⟩

end

theorem Split.expand_nesting {text : List Char} {pieces : List Piece} (h : Split text pieces)
    {first second : List Char} {names : List (List Char)}
    (hnames : namesOf pieces = first :: second :: names) :
    (nesting first second).expand text ≠ (nesting first second).substitutedText pieces := by
  obtain ⟨front, rest, rfl, hrest⟩ := exists_first hnames
  obtain ⟨more, hexpand⟩ := exists_expand_nesting h hrest
  obtain ⟨more', hsubstituted⟩ := @exists_substitutedText_nesting front first second rest
  rw [hexpand, hsubstituted]
  intro heq
  have htail := List.append_cancel_left heq
  exact absurd (List.cons.inj (List.cons.inj htail).2).1 (by decide)

/-- A text has one row of pieces. In environments that are plain for them the expansion puts each value
in its place and keeps everything else; in all environments it does so only for texts with no more than
one reference. -/
theorem expand_eq_substitutedText (text : List Char) : ∃ pieces, Split text pieces ∧
    (∀ other, Split text other → other = pieces) ∧
    (∀ env, Plain env pieces → env.expand text = env.substitutedText pieces) ∧
    ((∀ env : Environment, env.expand text = env.substitutedText pieces) ↔
      (namesOf pieces).length ≤ 1) := by
  obtain ⟨pieces, h⟩ := exists_split text
  refine ⟨pieces, h, fun other hother => h.unique hother, fun env hplain => h.expand_of_plain hplain, ?_,
    h.expand_of_single⟩
  intro hall
  refine Nat.le_of_not_lt fun hmany => ?_
  cases hnames : namesOf pieces with
  | nil => simp [hnames] at hmany
  | cons first names =>
    cases names with
    | nil => simp [hnames] at hmany
    | cons second names => exact h.expand_nesting hnames (hall _)

theorem expand_schemaTable :
    let env : Environment := [("SCHEMA", "audit"), ("TABLE", "entries")]
    let pieces : List Piece := [.reference "SCHEMA".toList, .kept '.', .reference "TABLE".toList]
    Plain env pieces ∧
      env.expand "$\x7bSCHEMA\x7d.$\x7bTABLE\x7d".toList = "audit.entries".toList := by
  intro env pieces
  have htext : "$\x7bSCHEMA\x7d.$\x7bTABLE\x7d".toList = reference "SCHEMA".toList ++ '.' ::
      (reference "TABLE".toList ++ []) := by decide +kernel
  have htable := Split.found (by decide +kernel : IsName "TABLE".toList) Split.nil
  have hdot := Split.kept (not_startsReference_of_ne (by decide : '.' ≠ '$') _) htable
  have hsplit := Split.found (by decide +kernel : IsName "SCHEMA".toList) hdot
  have hnames : ∀ name ∈ namesOf pieces, (∀ value ∈ env.get? (String.ofList name), '$' ∉ value.toList) ∧
      ∀ other ∈ namesOf pieces, reference name <:+ reference other → other = name := by decide +kernel
  have hplain : Plain env pieces :=
    ⟨fun name hname => ⟨(hnames name hname).1, (hnames name hname).2⟩,
      .cons_cons (by decide) (.cons_cons (by decide) (.singleton _))⟩
  obtain ⟨other, _, hunique, hexpand, _⟩ := expand_eq_substitutedText "$\x7bSCHEMA\x7d.$\x7bTABLE\x7d".toList
  obtain rfl := hunique _ (htext ▸ hsplit)
  exact ⟨hplain, (hexpand env hplain).trans (by decide +kernel)⟩

theorem expand_ne_substitutedText :
    let env : Environment := [("TABLE", "$\x7bSUFFIX\x7d"), ("SUFFIX", "x")]
    let text := "base_table = \"$\x7bTABLE\x7d $\x7bSUFFIX\x7d\""
    ∃ pieces, Split text.toList pieces ∧
      env.substitutedText pieces = "base_table = \"$\x7bSUFFIX\x7d x\"".toList ∧
      env.expand text.toList = "base_table = \"x x\"".toList ∧
      (Settings.ofDocument env text).toOption.map Settings.baseTable = some "x x" := by
  intro env text
  let front := "base_table = \"".toList
  have htext : text.toList = front ++ (reference "TABLE".toList ++ ' ' ::
      (reference "SUFFIX".toList ++ ['\x22'])) := by decide +kernel
  have hclose : Split ['\x22'] [.kept '\x22'] := .kept (not_startsReference_of_ne (by decide) _) .nil
  have hsuffix := Split.found (by decide +kernel : IsName "SUFFIX".toList) hclose
  have hblank := Split.kept (not_startsReference_of_ne (by decide : ' ' ≠ '$') _) hsuffix
  have htable := Split.found (by decide +kernel : IsName "TABLE".toList) hblank
  have hsplit := split_of_plain (by decide +kernel : '$' ∉ front) htable
  exact ⟨_, htext ▸ hsplit, by decide +kernel, by decide +kernel, by decide +kernel⟩

end ReportFilters.Environment
