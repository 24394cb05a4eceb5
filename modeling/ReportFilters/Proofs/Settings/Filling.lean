import Mathlib.Data.List.Chain
import ReportFilters.Proofs.Settings.Pieces

/-! One variable filled in throughout a text. As long as its reference is not written at the end of
another one, it is the same to replace it in the text and to fill it in piece by piece. As long as its
value brings in no dollar sign and none of the text stands right before a reference, the pieces so
filled are those that the new text is split into. -/

namespace ReportFilters.Environment

theorem replaceFrom_eq_drop (pattern value : List Char) (skip : Nat) (text : List Char) :
    replaceFrom pattern value skip text = replaceFrom pattern value 0 (text.drop skip) := by
  induction text generalizing skip with
  | nil =>
    rw [List.drop_nil]
    rfl
  | cons c rest ih =>
    cases skip with
    | zero => rfl
    | succ n =>
      rw [replaceFrom, if_pos (Nat.succ_pos n), ih]
      rfl

theorem replaceFrom_reference (name value rest : List Char) :
    replaceFrom (reference name) value 0 (reference name ++ rest)
      = value ++ replaceFrom (reference name) value 0 rest := by
  have hprefix : (reference name).isPrefixOf (reference name ++ rest) = true :=
    List.isPrefixOf_iff_prefix.mpr (List.prefix_append ..)
  have hlength : (reference name).length - 1 = name.length + 2 := by simp [reference]
  rw [reference_append] at hprefix ⊢
  rw [replaceFrom, if_neg (Nat.lt_irrefl 0), if_pos hprefix, replaceFrom_eq_drop, hlength]
  simp

theorem replaceFrom_of_not_occurs {pattern rest : List Char} {c : Char} (h : ¬pattern <+: c :: rest)
    (value : List Char) :
    replaceFrom pattern value 0 (c :: rest) = c :: replaceFrom pattern value 0 rest := by
  have hnot : ¬pattern.isPrefixOf (c :: rest) = true := by rwa [List.isPrefixOf_iff_prefix]
  rw [replaceFrom, if_neg (Nat.lt_irrefl 0), if_neg hnot]

theorem replaceFrom_append {pattern front rest : List Char}
    (h : ∀ s, s ≠ [] → s <:+ front → ¬pattern <+: s ++ rest) (value : List Char) :
    replaceFrom pattern value 0 (front ++ rest) = front ++ replaceFrom pattern value 0 rest := by
  induction front with
  | nil => rfl
  | cons c front ih =>
    have hfirst : ¬pattern <+: c :: (front ++ rest) :=
      h _ (List.cons_ne_nil c front) (List.suffix_refl _)
    have hfront := ih fun s hs hsuffix => h s hs (hsuffix.trans (List.suffix_cons c front))
    rw [List.cons_append, replaceFrom_of_not_occurs hfirst, hfront, List.cons_append]

theorem startsReference_of_occurs {name text : List Char} (hname : IsName name)
    (h : reference name <+: text) : StartsReference text := by
  obtain ⟨rest, rfl⟩ := h
  exact ⟨name, rest, hname, rfl⟩

theorem replaceFrom_of_not_startsReference {name : List Char} (hname : IsName name) {c : Char}
    {rest : List Char} (h : ¬StartsReference (c :: rest)) (value : List Char) :
    replaceFrom (reference name) value 0 (c :: rest)
      = c :: replaceFrom (reference name) value 0 rest :=
  replaceFrom_of_not_occurs (fun hoccurs => h (startsReference_of_occurs hname hoccurs)) value

theorem eq_of_occurs_within {name other s rest : List Char} (hname : IsName name) (hother : IsName other)
    (hs : s ≠ []) (hsuffix : s <:+ reference other) (h : reference name <+: s ++ rest) :
    s = reference name := by
  have hreference : ∀ name : List Char, reference name = ('$' :: '\x7b' :: name) ++ ['\x7d'] :=
    fun _ => rfl
  have hopen : ∀ {name : List Char}, IsName name → '\x7d' ∉ '$' :: '\x7b' :: name := by
    intro name hname hmem
    simp at hmem
    exact hname.2 hmem
  obtain ⟨more, hmore⟩ := h
  rw [hreference other, List.suffix_concat_iff] at hsuffix
  obtain ⟨front, rfl, hfront⟩ := hsuffix.resolve_left hs
  have hnone : '\x7d' ∉ front := fun hmem => hopen hother (hfront.subset hmem)
  rw [hreference, List.append_assoc, List.append_assoc] at hmore
  have hsame : '$' :: '\x7b' :: name = front := by
    rw [← takeWhile_name (hopen hname) more, ← takeWhile_name hnone rest]
    exact congrArg _ hmore
  rw [← hsame, hreference]

/-! Pieces with the references to one variable filled in. -/

def fill (name value : List Char) (pieces : List Piece) : List Piece :=
  pieces.flatMap fun piece => if piece = .reference name then value.map .kept else [piece]

theorem fill_kept (name value : List Char) (c : Char) (pieces : List Piece) :
    fill name value (.kept c :: pieces) = .kept c :: fill name value pieces := rfl

theorem fill_same (name value : List Char) (pieces : List Piece) :
    fill name value (.reference name :: pieces) = value.map .kept ++ fill name value pieces := by
  rw [fill, List.flatMap_cons, if_pos rfl]
  rfl

theorem fill_other {name other : List Char} (h : other ≠ name) (value : List Char)
    (pieces : List Piece) :
    fill name value (.reference other :: pieces) = .reference other :: fill name value pieces := by
  rw [fill, List.flatMap_cons, if_neg fun heq => h (Piece.reference.inj heq)]
  rfl

/-- The reference is not written at the end of another one. -/
def Bares (name : List Char) (names : List (List Char)) : Prop :=
  ∀ other ∈ names, reference name <:+ reference other → other = name

theorem replaceFrom_of_split {text : List Char} {pieces : List Piece} (h : Split text pieces)
    {name : List Char} (hname : IsName name) (hbare : Bares name (namesOf pieces)) (value : List Char) :
    replaceFrom (reference name) value 0 text = textOf (fill name value pieces) := by
  induction h with
  | nil => rfl
  | @found other rest pieces hother _ ih =>
    have hrest := ih fun m hm => hbare m (List.mem_cons_of_mem _ hm)
    by_cases heq : other = name
    · subst heq
      rw [replaceFrom_reference, hrest, fill_same, textOf_append, textOf_map_kept]
    · have hnone : ∀ s, s ≠ [] → s <:+ reference other → ¬reference name <+: s ++ rest := by
        intro s hs hsuffix hprefix
        have hsame := eq_of_occurs_within hname hother hs hsuffix hprefix
        exact heq (hbare other (List.mem_cons_self ..) (hsame ▸ hsuffix))
      rw [replaceFrom_append hnone, hrest, fill_other heq, textOf_reference]
  | @kept c rest pieces hnone _ ih =>
    rw [replaceFrom_of_not_startsReference hname hnone, ih hbare, fill_kept, textOf_kept]

/-- No dollar sign of the text stands right before a reference. -/
def Apart (pieces : List Piece) : Prop :=
  pieces.IsChain fun piece next => piece = .kept '$' → next.name? = none

theorem not_startsReference_of_ne_brace {c : Char} (h : c ≠ '\x7b') (rest : List Char) :
    ¬StartsReference ('$' :: c :: rest) := by
  rintro ⟨name, more, _, heq⟩
  rw [reference_append] at heq
  exact h (List.cons.inj (List.cons.inj heq).2).1

theorem startsReference_braced_iff (body : List Char) :
    StartsReference ('$' :: '\x7b' :: body) ↔ '\x7d' ∈ body ∧ body.head? ≠ some '\x7d' := by
  constructor
  · rintro ⟨name, rest, hname, heq⟩
    rw [reference_append] at heq
    cases (List.cons.inj (List.cons.inj heq).2).2
    refine ⟨by simp, ?_⟩
    obtain ⟨c, more, rfl⟩ := List.exists_cons_of_ne_nil hname.1
    rintro hhead
    cases Option.some.inj hhead
    exact hname.2 (List.mem_cons_self ..)
  · rintro ⟨hmem, hhead⟩
    rw [startsReference_iff, List.drop_one, List.tail_cons]
    refine ⟨rfl, rfl, ?_, ?_⟩
    · cases body with
      | nil => cases hmem
      | cons c more =>
        have hne : c ≠ '\x7d' := fun heq => hhead (congrArg some heq)
        rw [List.takeWhile_cons, if_pos (decide_eq_true hne)]
        exact List.cons_ne_nil _ _
    · refine Nat.lt_of_not_le fun hle => ?_
      rw [← (List.takeWhile_prefix _).eq_of_length_le hle] at hmem
      have hopen := List.all_eq_true.mp List.all_takeWhile _ hmem
      exact absurd hopen (by decide)

theorem split_of_plain {front rest : List Char} {pieces : List Piece} (hfront : '$' ∉ front)
    (h : Split rest pieces) : Split (front ++ rest) (front.map .kept ++ pieces) := by
  induction front with
  | nil => exact h
  | cons c front ih =>
    have hne : c ≠ '$' := fun heq => hfront (heq ▸ List.mem_cons_self ..)
    exact .kept (not_startsReference_of_ne hne _) (ih fun hmem => hfront (List.mem_cons_of_mem _ hmem))

theorem apart_of_plain {front : List Char} {pieces : List Piece} (hfront : '$' ∉ front)
    (h : Apart pieces) : Apart (front.map .kept ++ pieces) := by
  induction front with
  | nil => exact h
  | cons c front ih =>
    refine List.isChain_cons.mpr ⟨?_, ih fun hmem => hfront (List.mem_cons_of_mem _ hmem)⟩
    intro next _ hdollar
    cases hdollar
    exact absurd (List.mem_cons_self ..) hfront

theorem close_mem_of_mem_namesOf {name : List Char} {pieces : List Piece} (h : name ∈ namesOf pieces) :
    '\x7d' ∈ textOf pieces := by
  obtain ⟨piece, hpiece, hname⟩ := List.mem_filterMap.mp h
  refine List.mem_flatMap.mpr ⟨piece, hpiece, ?_⟩
  cases piece with
  | kept c => cases hname
  | reference other => simp [Piece.text, reference]

theorem fill_of_not_mem {name : List Char} {pieces : List Piece} (h : name ∉ namesOf pieces)
    (value : List Char) : fill name value pieces = pieces := by
  induction pieces with
  | nil => rfl
  | cons piece pieces ih =>
    cases piece with
    | kept c => rw [fill_kept, ih h]
    | reference other =>
      have hne : other ≠ name := fun heq => h (heq ▸ List.mem_cons_self ..)
      rw [fill_other hne, ih fun hmem => h (List.mem_cons_of_mem _ hmem)]

theorem not_startsReference_fill {pieces : List Piece} (name value : List Char)
    (hnone : ¬StartsReference ('$' :: textOf pieces))
    (hnext : ∀ next ∈ pieces.head?, next.name? = none) :
    ¬StartsReference ('$' :: textOf (fill name value pieces)) := by
  cases pieces with
  | nil => exact hnone
  | cons piece pieces =>
    cases piece with
    | reference other => cases hnext _ rfl
    | kept c =>
      rw [fill_kept, textOf_kept]
      by_cases hother : c ≠ '\x7b'
      · exact not_startsReference_of_ne_brace hother _
      obtain rfl := not_not.mp hother
      rw [textOf_kept, startsReference_braced_iff, not_and, not_not] at hnone
      rw [startsReference_braced_iff, not_and, not_not]
      intro hmem
      by_cases hclose : '\x7d' ∈ textOf pieces
      · -- the brace that closes comes right behind the one that opens
        have hhead := hnone hclose
        cases pieces with
        | nil => cases hclose
        | cons piece pieces =>
          cases piece with
          | kept d => exact hhead
          | reference other => cases hhead
      · rw [fill_of_not_mem fun hname => hclose (close_mem_of_mem_namesOf hname)] at hmem
        exact absurd hmem hclose

theorem namesOf_fill (name value : List Char) (pieces : List Piece) :
    namesOf (fill name value pieces) = (namesOf pieces).filter (· ≠ name) := by
  induction pieces with
  | nil => rfl
  | cons piece pieces ih =>
    cases piece with
    | kept c => exact ih
    | reference other =>
      by_cases heq : other = name
      · subst heq
        rw [fill_same, namesOf_map_kept_append, ih, namesOf_reference,
          List.filter_cons_of_neg (by simp)]
      · rw [fill_other heq, namesOf_reference, ih, namesOf_reference,
          List.filter_cons_of_pos (by simpa using heq)]

section
variable {name value : List Char} (hvalue : '$' ∉ value)
include hvalue

theorem Apart.fill {pieces : List Piece} (h : Apart pieces) : Apart (fill name value pieces) := by
  induction pieces with
  | nil => exact .nil
  | cons piece pieces ih =>
    obtain ⟨hnext, hrest⟩ := List.isChain_cons.mp h
    have hfilled := ih hrest
    cases piece with
    | kept c =>
      refine List.isChain_cons.mpr ⟨?_, hfilled⟩
      intro next hmem hdollar
      cases pieces with
      | nil => cases hmem
      | cons piece pieces =>
        cases piece with
        | kept d =>
          cases Option.some.inj hmem
          rfl
        | reference other => cases hnext _ rfl hdollar
    | reference other =>
      by_cases heq : other = name
      · subst heq
        rw [fill_same]
        exact apart_of_plain hvalue hfilled
      · rw [fill_other heq]
        exact List.isChain_cons.mpr ⟨fun next _ hdollar => (nomatch hdollar), hfilled⟩

theorem Split.fill {text : List Char} {pieces : List Piece} (h : Split text pieces)
    (hapart : Apart pieces) :
    Split (textOf (Environment.fill name value pieces)) (Environment.fill name value pieces) := by
  induction h with
  | nil => exact .nil
  | @found other rest pieces hother _ ih =>
    have hrest := ih (List.isChain_cons.mp hapart).2
    by_cases heq : other = name
    · subst heq
      rw [fill_same, textOf_append, textOf_map_kept]
      exact split_of_plain hvalue hrest
    · rw [fill_other heq, textOf_reference]
      exact .found hother hrest
  | @kept c rest pieces hnone hsplit ih =>
    obtain ⟨hnext, hrest⟩ := List.isChain_cons.mp hapart
    refine .kept ?_ (ih hrest)
    by_cases hdollar : c = '$'
    · subst hdollar
      rw [← hsplit.textOf_eq] at hnone
      exact not_startsReference_fill _ _ hnone fun next hmem => hnext next hmem rfl
    · exact not_startsReference_of_ne hdollar _

end

end ReportFilters.Environment
