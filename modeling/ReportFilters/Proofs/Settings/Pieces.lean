import ReportFilters.Settings.Environment

/-! References to variables in a text. Read from the left, a text is in one way a row of references and
of characters at which no reference starts. The names that are looked up are those of the references
in the row. -/

namespace ReportFilters.Environment

inductive Piece where
  | kept (c : Char)
  | reference (name : List Char)
deriving DecidableEq

namespace Piece

def text : Piece → List Char
  | kept c => [c]
  | reference name => Environment.reference name

def name? : Piece → Option (List Char)
  | kept _ => none
  | reference name => some name

def substituted (env : Environment) : Piece → List Char
  | kept c => [c]
  | reference name =>
    match env.get? (String.ofList name) with
    | some value => value.toList
    | none => Environment.reference name

end Piece

def textOf (pieces : List Piece) : List Char := pieces.flatMap Piece.text

def substitutedText (env : Environment) (pieces : List Piece) : List Char :=
  pieces.flatMap (Piece.substituted env)

def namesOf (pieces : List Piece) : List (List Char) := pieces.filterMap Piece.name?

theorem flatMap_map_kept {f : Piece → List Char} (hkept : ∀ c, f (.kept c) = [c]) (text : List Char) :
    (text.map .kept).flatMap f = text := by
  induction text with
  | nil => rfl
  | cons c text ih =>
    rw [List.map_cons, List.flatMap_cons, hkept, ih]
    rfl

theorem textOf_map_kept (text : List Char) : textOf (text.map .kept) = text :=
  flatMap_map_kept (fun _ => rfl) text

theorem substitutedText_map_kept (env : Environment) (text : List Char) :
    env.substitutedText (text.map .kept) = text :=
  flatMap_map_kept (fun _ => rfl) text

theorem textOf_append (pieces more : List Piece) :
    textOf (pieces ++ more) = textOf pieces ++ textOf more :=
  List.flatMap_append

theorem textOf_kept (c : Char) (pieces : List Piece) :
    textOf (.kept c :: pieces) = c :: textOf pieces := rfl

theorem textOf_reference (name : List Char) (pieces : List Piece) :
    textOf (.reference name :: pieces) = reference name ++ textOf pieces := rfl

@[simp] theorem namesOf_reference (name : List Char) (pieces : List Piece) :
    namesOf (.reference name :: pieces) = name :: namesOf pieces := rfl

theorem namesOf_map_kept_append (text : List Char) (pieces : List Piece) :
    namesOf (text.map .kept ++ pieces) = namesOf pieces := by
  induction text with
  | nil => rfl
  | cons c text ih => exact ih

def IsName (name : List Char) : Prop := name ≠ [] ∧ '\x7d' ∉ name

instance (name : List Char) : Decidable (IsName name) := inferInstanceAs (Decidable (_ ∧ _))

def StartsReference (text : List Char) : Prop :=
  ∃ name rest, IsName name ∧ text = reference name ++ rest

/-- The leftmost references that do not overlap, and the characters between them. -/
inductive Split : List Char → List Piece → Prop
  | nil : Split [] []
  | found {name rest : List Char} {pieces : List Piece} (hname : IsName name)
    (hrest : Split rest pieces) : Split (reference name ++ rest) (.reference name :: pieces)
  | kept {c : Char} {rest : List Char} {pieces : List Piece} (hnone : ¬StartsReference (c :: rest))
    (hrest : Split rest pieces) : Split (c :: rest) (.kept c :: pieces)

theorem Split.textOf_eq {text : List Char} {pieces : List Piece} (h : Split text pieces) :
    textOf pieces = text := by
  induction h with
  | nil => rfl
  | found _ _ ih => rw [textOf_reference, ih]
  | kept _ _ ih => rw [textOf_kept, ih]

theorem Split.isName {text : List Char} {pieces : List Piece} (h : Split text pieces)
    {name : List Char} (hname : name ∈ namesOf pieces) : IsName name := by
  induction h with
  | nil => cases hname
  | found hfirst _ ih =>
    rcases List.mem_cons.mp hname with rfl | hname
    · exact hfirst
    · exact ih hname
  | kept _ _ ih => exact ih hname

theorem reference_append (name rest : List Char) :
    reference name ++ rest = '$' :: '\x7b' :: (name ++ '\x7d' :: rest) := by
  simp [reference]

theorem takeWhile_name {name : List Char} (hname : '\x7d' ∉ name) (rest : List Char) :
    (name ++ '\x7d' :: rest).takeWhile (· ≠ '\x7d') = name := by
  rw [List.takeWhile_append_of_pos, List.takeWhile_cons_of_neg (by decide), List.append_nil]
  intro c hc
  refine decide_eq_true ?_
  rintro rfl
  exact hname hc

theorem reference_append_inj {name name' rest rest' : List Char} (hname : IsName name)
    (hname' : IsName name') (h : reference name ++ rest = reference name' ++ rest') :
    name = name' ∧ rest = rest' := by
  rw [reference_append, reference_append] at h
  have hbody := (List.cons.inj (List.cons.inj h).2).2
  have hsame : name = name' := by
    rw [← takeWhile_name hname.2 rest, hbody, takeWhile_name hname'.2]
  subst hsame
  exact ⟨rfl, (List.cons.inj (List.append_cancel_left hbody)).2⟩

theorem not_startsReference_of_ne {c : Char} (h : c ≠ '$') (rest : List Char) :
    ¬StartsReference (c :: rest) := by
  rintro ⟨name, more, _, heq⟩
  rw [reference_append] at heq
  exact h (List.cons.inj heq).1

theorem exists_split (text : List Char) : ∃ pieces, Split text pieces := by
  induction hlength : text.length using Nat.strongRecOn generalizing text with
  | ind n ih =>
    cases text with
    | nil => exact ⟨[], .nil⟩
    | cons c rest =>
      by_cases hstarts : StartsReference (c :: rest)
      · obtain ⟨name, more, hname, heq⟩ := hstarts
        have hshorter : more.length < n := by
          rw [← hlength, heq, reference]
          simp
          omega
        obtain ⟨pieces, hpieces⟩ := ih _ hshorter more rfl
        exact ⟨_, heq ▸ Split.found hname hpieces⟩
      · obtain ⟨pieces, hpieces⟩ := ih rest.length (by rw [← hlength]; simp) rest rfl
        exact ⟨_, .kept hstarts hpieces⟩

theorem Split.unique {text : List Char} {pieces other : List Piece} (h : Split text pieces)
    (hother : Split text other) : other = pieces := by
  induction h generalizing other with
  | nil =>
    cases hother
    rfl
  | @found name rest pieces hname _ ih =>
    generalize htext : reference name ++ rest = text at hother
    cases hother with
    | nil => cases htext
    | found hname' hrest' =>
      obtain ⟨rfl, rfl⟩ := reference_append_inj hname hname' htext
      rw [ih hrest']
    | kept hnone => exact absurd ⟨name, rest, hname, htext.symm⟩ hnone
  | @kept c rest pieces hnone _ ih =>
    generalize htext : c :: rest = text at hother
    cases hother with
    | nil => cases htext
    | found hname' => exact absurd ⟨_, _, hname', htext⟩ hnone
    | kept _ hrest' =>
      cases htext
      rw [ih hrest']

/-! The names that are looked up. -/

theorem referencesFrom_eq_drop (skip : Nat) (text : List Char) :
    referencesFrom skip text = referencesFrom 0 (text.drop skip) := by
  induction text generalizing skip with
  | nil => rw [List.drop_nil]; rfl
  | cons c rest ih =>
    cases skip with
    | zero => rfl
    | succ n => rw [referencesFrom, if_pos (Nat.succ_pos n), ih]; rfl

theorem startsReference_iff (c : Char) (rest : List Char) :
    StartsReference (c :: rest) ↔ c = '$' ∧ rest.head? = some '\x7b' ∧
      (rest.drop 1).takeWhile (· ≠ '\x7d') ≠ [] ∧
      ((rest.drop 1).takeWhile (· ≠ '\x7d')).length < (rest.drop 1).length := by
  constructor
  · rintro ⟨name, more, hname, heq⟩
    rw [reference_append] at heq
    obtain ⟨rfl, rfl⟩ := List.cons.inj heq
    refine ⟨rfl, rfl, ?_⟩
    rw [List.drop_one, List.tail_cons, takeWhile_name hname.2]
    exact ⟨hname.1, by simp⟩
  · rintro ⟨rfl, hbrace, hsome, hlength⟩
    obtain ⟨body, rfl⟩ := List.head?_eq_some_iff.mp hbrace
    rw [List.drop_one, List.tail_cons] at hsome hlength
    refine ⟨body.takeWhile (· ≠ '\x7d'), (body.dropWhile (· ≠ '\x7d')).tail, ⟨hsome, ?_⟩, ?_⟩
    · intro hmem
      have hopen := List.all_eq_true.mp List.all_takeWhile _ hmem
      exact absurd hopen (by decide)
    · have hbody := List.takeWhile_append_dropWhile (p := (· ≠ '\x7d')) (l := body)
      cases hrest : body.dropWhile (· ≠ '\x7d') with
      | nil =>
        rw [hrest, List.append_nil] at hbody
        rw [hbody] at hlength
        exact absurd hlength (Nat.lt_irrefl _)
      | cons d more =>
        have hclose : d = '\x7d' := by
          have hsome : body.dropWhile (· ≠ '\x7d') ≠ [] := hrest ▸ List.cons_ne_nil d more
          have hhead := List.head_dropWhile_not (· ≠ '\x7d') hsome
          simp only [hrest, List.head_cons, decide_eq_false_iff_not] at hhead
          exact Decidable.of_not_not hhead
        rw [hrest, hclose] at hbody
        rw [reference_append, List.tail_cons, hbody]

theorem Split.references_eq {text : List Char} {pieces : List Piece} (h : Split text pieces) :
    references text = namesOf pieces := by
  induction h with
  | nil => rfl
  | @found name rest pieces hname _ ih =>
    have hstarts := (startsReference_iff _ _).mp ⟨name, rest, hname, (reference_append name rest).symm⟩
    rw [reference_append, references, referencesFrom, if_neg (Nat.lt_irrefl 0), if_pos hstarts,
      List.drop_one, List.tail_cons, takeWhile_name hname.2, referencesFrom_eq_drop]
    refine congrArg (name :: ·) (Eq.trans ?_ ih)
    simp [references]
  | @kept c rest pieces hnone _ ih =>
    rw [references, referencesFrom, if_neg (Nat.lt_irrefl 0), if_neg]
    · exact ih
    · rwa [startsReference_iff] at hnone

end ReportFilters.Environment
