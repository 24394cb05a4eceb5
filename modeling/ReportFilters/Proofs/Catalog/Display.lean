import ReportFilters.Proofs.Catalog.Built

/-! Which types are displayed. A registration says so of the new type only where its parent says
otherwise, so that after any registrations just the concrete types are displayed. -/

namespace ReportFilters

def Declaration.parent? (decl : Declaration) : Option String :=
  if decl.name = baseFilter then none else some decl.parent

namespace CatalogBuilder
open Hierarchy SettledType

structure Placed (h : Hierarchy) (decl : Declaration) : Prop where
  parent : (h.lineage decl.name).head?.bind TypeNode.parent = decl.parent?
  display : ((h.lineage decl.name).findSome? fun node => (held Attribute.display node).head?)
    = some (.bool !decl.isAbstract)

theorem placed_base : Placed empty.hierarchy baseDeclaration := ⟨rfl, rfl⟩

theorem held_display (decl : Declaration) (shown : Option Bool) :
    held Attribute.display (decl.node shown) = shown.toList.map .bool :=
  held_node decl shown (Attribute.display, shown.toList.map .bool)
    (List.mem_append_right _ (List.mem_singleton_self _))

section
variable {older : List TypeNode} {node : TypeNode} {decl : Declaration}

theorem Placed.behind {other : Declaration} (h : Placed ⟨older⟩ other) (hnew : IsNew decl older node)
    (hne : decl.name ≠ other.name) : Placed ⟨node :: older⟩ other := by
  have hline : lineage ⟨node :: older⟩ other.name = lineage ⟨older⟩ other.name := by
    rw [lineage, hnew.lineageIn_cons, if_neg hne]
    rfl
  exact ⟨hline ▸ h.parent, hline ▸ h.display⟩

theorem placed_new {shown : Option Bool} (hnew : IsNew decl older (decl.node shown))
    (hbase : decl.name ≠ baseFilter) {parent : Declaration} (hparent : Placed ⟨older⟩ parent)
    (hname : parent.name = decl.parent)
    (hshown : shown = if decl.isAbstract then some false else if parent.isAbstract then some true
      else none) :
    Placed ⟨decl.node shown :: older⟩ decl := by
  have hline : lineage ⟨decl.node shown :: older⟩ decl.name
      = decl.node shown :: lineage ⟨older⟩ parent.name := by
    rw [lineage, hnew.lineageIn_cons, if_pos rfl, hname]
    rfl
  constructor
  · rw [hline, Declaration.parent?, if_neg hbase]
    exact hnew.parent
  · rw [hline, List.findSome?_cons, held_display, hshown, hparent.display]
    cases decl.isAbstract <;> cases parent.isAbstract <;> rfl

end

theorem displayValue_of_mem {decls : List Declaration} {builder : CatalogBuilder}
    (h : Registered decls builder) {decl parent : Declaration}
    (hparent : parent ∈ baseDeclaration :: decls) (hname : parent.name = decl.parent) :
    builder.displayValue decl = if decl.isAbstract then some false
      else if parent.isAbstract then some true else none := by
  have hmem : (decl.parent, parent) ∈ builder.declarations := by
    have hentry := List.mem_map_of_mem (f := fun d : Declaration => (d.name, d)) hparent
    rw [h.declarations, ← hname]
    exact hentry
  rw [displayValue, Dictionary.get?_of_mem (h.entry_names ▸ h.nodup) hmem]
  rfl

def shownBelow (parent decl : Declaration) : Option Bool :=
  if decl.isAbstract then some false else if parent.isAbstract then some true else none

theorem newest_of_registerAll {decls : List Declaration} {decl : Declaration}
    {builder : CatalogBuilder} (h : empty.registerAll (decls ++ [decl]) = .ok builder) :
    ∃ before parent, empty.registerAll decls = .ok before ∧
      parent ∈ baseDeclaration :: decls ∧ parent.name = decl.parent ∧
      (∀ other ∈ baseDeclaration :: decls, decl.name ≠ other.name) ∧
      IsNew decl before.hierarchy.newestFirst (decl.node (shownBelow parent decl)) ∧
      builder.hierarchy
        = ⟨decl.node (shownBelow parent decl) :: before.hierarchy.newestFirst⟩ := by
  obtain ⟨before, hbefore, hlast⟩ := exists_of_registerAll_concat h
  have hregistered := registered_of_registerAll hbefore
  obtain ⟨hname, hparent, rfl⟩ := hregistered.eq_of_register hlast
  have hnew := hregistered.isNew hname (before.displayValue decl)
  have hnames : baseFilter :: decls.map Declaration.name
      = (baseDeclaration :: decls).map Declaration.name := rfl
  rw [hnames] at hname hparent
  obtain ⟨parent, hmem, hsame⟩ := List.mem_map.mp hparent
  have hshown : before.displayValue decl = shownBelow parent decl :=
    displayValue_of_mem hregistered hmem hsame
  rw [hshown] at hnew
  refine ⟨before, parent, hbefore, hmem, hsame, ?_, hnew, ?_⟩
  · intro other hother heq
    apply hname
    rw [heq]
    exact List.mem_map_of_mem hother
  · rw [← hshown]

theorem placed_of_registerAll {decls : List Declaration} {builder : CatalogBuilder}
    (h : empty.registerAll decls = .ok builder) :
    ∀ decl ∈ baseDeclaration :: decls, Placed builder.hierarchy decl := by
  induction decls using List.reverseRecOn generalizing builder with
  | nil =>
    cases h
    intro decl hdecl
    rw [List.mem_singleton.mp hdecl]
    exact placed_base
  | append_singleton decls decl ih =>
    obtain ⟨before, parent, hbefore, hmem, hsame, hfresh, hnew, hnodes⟩ := newest_of_registerAll h
    have hplaced := ih hbefore
    rw [hnodes]
    intro other hother
    rw [← List.cons_append, List.mem_append, List.mem_singleton] at hother
    rcases hother with hother | rfl
    · exact (hplaced other hother).behind hnew (hfresh other hother)
    · exact placed_new hnew (hfresh baseDeclaration List.mem_cons_self) (hplaced parent hmem) hsame rfl

theorem exists_written_of_registerAll {decls : List Declaration} {builder : CatalogBuilder}
    (h : empty.registerAll decls = .ok builder) :
    ∀ decl ∈ decls, ∃ parent ∈ baseDeclaration :: decls, parent.name = decl.parent ∧
      ∃ above, builder.hierarchy.lineage decl.name
        = decl.node (shownBelow parent decl) :: above := by
  induction decls using List.reverseRecOn generalizing builder with
  | nil =>
    intro decl hdecl
    cases hdecl
  | append_singleton decls decl ih =>
    obtain ⟨before, parent, hbefore, hmem, hsame, hfresh, hnew, hnodes⟩ := newest_of_registerAll h
    have hsub : baseDeclaration :: decls ⊆ baseDeclaration :: (decls ++ [decl]) :=
      List.cons_subset_cons _ (List.subset_append_left _ _)
    intro other hother
    rw [hnodes, lineage, hnew.lineageIn_cons]
    rw [List.mem_append, List.mem_singleton] at hother
    rcases hother with hother | rfl
    · obtain ⟨older, holder, hname, habove⟩ := ih hbefore other hother
      rw [if_neg (hfresh other (List.mem_cons_of_mem _ hother))]
      exact ⟨older, hsub holder, hname, habove⟩
    · rw [if_pos rfl]
      exact ⟨parent, hsub hmem, hsame, _, rfl⟩

theorem Placed.flag_display {decls : List Declaration} {builder : CatalogBuilder} {decl : Declaration}
    {path : List Declaration} {frozen : FrozenType} (h : Registered decls builder)
    (hplaced : Placed builder.hierarchy decl)
    (hline : List.Forall₂ Describes (builder.hierarchy.lineage decl.name) path)
    (hget : builder.hierarchy.freeze.get? decl.name = some frozen) :
    frozen.flag Attribute.display = !decl.isAbstract := by
  have hne : builder.hierarchy.lineage decl.name ≠ [] := by
    intro hnil
    have hdisplay := hplaced.display
    rw [hnil] at hdisplay
    cases hdisplay
  have hrule : Dictionary.get? Attribute.rules Attribute.display = some { default := some (.bool true) } :=
    rfl
  obtain ⟨type, htype, hattr, _⟩ := get?_freeze_of_isSteady (h.rules_nodup decl.name)
    ((h.grounded.ruleAlong hne Attribute.display).trans hrule) (h.grounded.isSteady decl.name hrule)
  cases Option.some.inj (hget.symm.trans htype)
  rw [FrozenType.flag, FrozenType.scalar, hattr, gathered, untilStop_of_ne hline (by decide),
    if_neg Bool.false_ne_true, hplaced.display]
  rfl

theorem exists_frozen_of_registerAll {decls : List Declaration} {builder : CatalogBuilder}
    (h : empty.registerAll decls = .ok builder) {decl : Declaration}
    (hdecl : decl ∈ baseDeclaration :: decls) :
    ∃ above frozen, Ancestry decls (decl :: above) ∧
      builder.hierarchy.freeze.get? decl.name = some frozen ∧ Settled (decl :: above) frozen ∧
      frozen.parent = decl.parent? ∧ frozen.flag Attribute.display = !decl.isAbstract := by
  have hregistered := registered_of_registerAll h
  have hplaced := placed_of_registerAll h decl hdecl
  obtain ⟨above, frozen, hpath, hline, hfrozen, hsettled⟩ := hregistered.exists_settled hdecl
  exact ⟨above, frozen, hpath, hfrozen, hsettled, (parent_of_get?_freeze hfrozen).trans hplaced.parent,
    hplaced.flag_display hregistered hline hfrozen⟩

structure Shows (decl : Declaration) (type : FilterType) : Prop where
  name : type.name = decl.name
  isAbstract : type.isAbstract = decl.isAbstract
  display : type.display = !decl.isAbstract

theorem forall₂_shows_of_build {decls : List Declaration} {builder : CatalogBuilder}
    (h : empty.registerAll decls = .ok builder) {token : String} {registry : Registry}
    {catalog : Catalog} (hbuild : (builder.withDefaultOperator token).build registry = .ok catalog) :
    List.Forall₂ Shows (baseDeclaration :: decls) catalog.types := by
  have hregistered := registered_of_registerAll h
  have hentries : builder.declarations
      = (baseDeclaration :: decls).map fun decl => (decl.name, decl) := hregistered.declarations
  have htypes := (builds_of_build hbuild).types
  rw [withDefaultOperator, hentries, List.forall₂_map_left_iff] at htypes
  refine forall₂_imp_of_mem htypes ?_
  rintro decl hdecl type - ⟨settled, hsettled, hresolves⟩
  obtain ⟨_, frozen, _, hfrozen, _, _, hflag⟩ := exists_frozen_of_registerAll h hdecl
  cases Option.some.inj (hsettled.symm.trans hfrozen)
  exact ⟨hresolves.name.trans (Hierarchy.name_of_get?_freeze hfrozen), hresolves.isAbstract,
    hresolves.display.trans hflag⟩

/-- Only an abstract declaration and one right below an abstract declaration write of the display, and
still a type of the catalog is displayed exactly if it is concrete. -/
theorem displayed_iff_concrete {decls : List Declaration} {builder : CatalogBuilder}
    (h : empty.registerAll decls = .ok builder) :
    (∀ decl ∈ decls, ∃ parent ∈ baseDeclaration :: decls, parent.name = decl.parent ∧
      ∃ node above, builder.hierarchy.lineage decl.name = node :: above ∧
        held Attribute.display node = if decl.isAbstract then [.bool false]
          else if parent.isAbstract then [.bool true] else []) ∧
    ∀ token registry catalog, (builder.withDefaultOperator token).build registry = .ok catalog →
      List.Forall₂ Shows (baseDeclaration :: decls) catalog.types ∧
      (∀ type ∈ catalog.types, type.display = !type.isAbstract) ∧
      catalog.displayed = catalog.types.filter (fun type => !type.isAbstract) ∧
      catalog.displayed.map FilterType.name
        = (decls.filter fun decl => !decl.isAbstract).map Declaration.name := by
  constructor
  · intro decl hdecl
    obtain ⟨parent, hparent, hname, above, hline⟩ := exists_written_of_registerAll h decl hdecl
    refine ⟨parent, hparent, hname, _, above, hline, ?_⟩
    rw [held_display, shownBelow]
    cases decl.isAbstract <;> cases parent.isAbstract <;> rfl
  · intro token registry catalog hbuild
    -- the flag of a concrete type may come from far up its path, as `Placed` keeps track of
    have htypes := forall₂_shows_of_build h hbuild
    have hdisplay : ∀ type ∈ catalog.types, type.display = !type.isAbstract := by
      intro type htype
      obtain ⟨decl, _, hshows⟩ := exists_of_forall₂_right htypes htype
      rw [hshows.display, hshows.isAbstract]
    have hdisplayed : catalog.displayed = catalog.types.filter fun type => !type.isAbstract := by
      unfold Catalog.displayed
      apply List.filter_congr
      intro type htype
      rw [hdisplay type htype, Bool.and_self]
    refine ⟨htypes, hdisplay, hdisplayed, ?_⟩
    have hconcrete : List.Forall₂ Shows
        ((baseDeclaration :: decls).filter fun decl => !decl.isAbstract)
        (catalog.types.filter fun type => !type.isAbstract) := by
      refine List.rel_filter ?_ htypes
      intro decl type hshows
      simp only [hshows.isAbstract]
    have hnames := map_eq_of_forall₂ hconcrete fun _ _ hshows => hshows.name.symm
    rw [hdisplayed, ← hnames]
    rfl

def alternating : List Declaration := [
  { name := "dates", isAbstract := true },
  { name := "spent", parent := "dates" },
  { name := "day", parent := "spent" },
  { name := "spans", parent := "day", isAbstract := true },
  { name := "weeks", parent := "spans", isAbstract := true },
  { name := "span", parent := "weeks" },
  { name := "week", parent := "span" },
  { name := "late", parent := "week" }]

theorem displayed_alternating : ∃ builder catalog, empty.registerAll alternating = .ok builder ∧
    (builder.withDefaultOperator "=").build Registry.empty = .ok catalog ∧
    catalog.displayed.map FilterType.name = ["spent", "day", "span", "week", "late"] := by
  let built : Option (CatalogBuilder × Catalog) := do
    let builder ← (empty.registerAll alternating).toOption
    let catalog ← ((builder.withDefaultOperator "=").build Registry.empty).toOption
    pure (builder, catalog)
  have hsome : built.isSome := by decide +kernel
  obtain ⟨_, hbuilt⟩ := Option.isSome_iff_exists.mp hsome
  obtain ⟨builder, hregister, hrest⟩ := Option.bind_eq_some_iff.mp hbuilt
  obtain ⟨catalog, hbuild, -⟩ := Option.bind_eq_some_iff.mp hrest
  have hregister := eq_ok_of_toOption_eq_some hregister
  have hbuild := eq_ok_of_toOption_eq_some hbuild
  refine ⟨builder, catalog, hregister, hbuild, ?_⟩
  obtain ⟨-, hcatalogs⟩ := displayed_iff_concrete hregister
  obtain ⟨-, -, -, hnames⟩ := hcatalogs "=" Registry.empty catalog hbuild
  rw [hnames]
  rfl

end CatalogBuilder
end ReportFilters
