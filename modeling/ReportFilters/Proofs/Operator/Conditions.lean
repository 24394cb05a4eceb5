import ReportFilters.Operator.Builtin
import ReportFilters.Proofs.Fragment.Tidy
import ReportFilters.Proofs.Outcome

/-! The conditions that built-in operators make. There are five shapes of them, in each of which the
column stands as it is given, with as many markers as parameters. -/

namespace ReportFilters

namespace Builtin
open Fragment

inductive Shape (column : String) : Predicate → Prop where
  | among (values : List Value) :
    Shape column ⟨column ++ " IN (" ++ markers values.length ++ ")", values⟩
  | outside (values : List Value) :
    Shape column
      ⟨"(" ++ column ++ " IS NULL OR " ++ column ++ " NOT IN (" ++ markers values.length ++ "))",
        values⟩
  | presence (test : String) (h : test ∈ [" IS NULL", " IS NOT NULL"]) :
    Shape column ⟨column ++ test, []⟩
  | single (test : String)
    (h : test ∈ [" <= ?", " >= ?", " < ?", " > ?", " = ?", " LIKE ? ESCAPE '!'",
      " NOT LIKE ? ESCAPE '!'", " IN (SELECT id FROM issue_statuses WHERE is_closed = ?)"])
    (value : Value) : Shape column ⟨column ++ test, [value]⟩
  | range (lower : String) (h : lower ∈ [" >= ? AND ", " > ? AND "]) (start stop : Value) :
    Shape column ⟨column ++ lower ++ column ++ " < ?", [start, stop]⟩

theorem shape_of_dayRange {column : String} {clock : Clock} {day first past : Int} {p : Predicate}
    (h : dayRange column clock day first past = .ok p) : Shape column p := by
  obtain ⟨start, _, h⟩ := exists_of_bind_eq_ok h
  obtain ⟨stop, _, h⟩ := exists_of_bind_eq_ok h
  cases h
  exact .range " >= ? AND " (by simp) start stop

theorem shape_of_fromBoundary {column comparison : String} {clock : Clock} {shift : Int}
    {p : Predicate} (hc : comparison = "<" ∨ comparison = ">=")
    (h : fromBoundary column comparison clock shift = .ok p) : Shape column p := by
  obtain ⟨bound, _, h⟩ := exists_of_bind_eq_ok h
  cases h
  rcases hc with rfl | rfl
  · simpa [String.append_assoc] using Shape.single " < ?" (by simp) bound
  · simpa [String.append_assoc] using Shape.single " >= ?" (by simp) bound

theorem shape_of_predicate {op : Builtin} {column : String} {values : List Value} {clock : Clock}
    {p : Predicate} (hmet : op.arity.isMetBy values.length)
    (h : op.predicate column values clock = .ok p) : Shape column p := by
  cases op with
  | equal =>
    cases h
    exact .among values
  | notEqual =>
    cases h
    exact .outside values
  | lessOrEqual =>
    obtain ⟨value, rfl⟩ := List.length_eq_one_iff.mp (of_decide_eq_true hmet)
    cases h
    exact .single " <= ?" (by simp) value
  | greaterOrEqual =>
    obtain ⟨value, rfl⟩ := List.length_eq_one_iff.mp (of_decide_eq_true hmet)
    cases h
    exact .single " >= ?" (by simp) value
  | empty | absent =>
    cases h
    exact .presence " IS NULL" (by simp)
  | any | present =>
    cases h
    exact .presence " IS NOT NULL" (by simp)
  | contains =>
    obtain ⟨v, _, h⟩ := exists_of_bind_eq_ok h
    cases h
    exact .single " LIKE ? ESCAPE '!'" (by simp) _
  | notContains =>
    obtain ⟨v, _, h⟩ := exists_of_bind_eq_ok h
    cases h
    exact .single " NOT LIKE ? ESCAPE '!'" (by simp) _
  | numericEqual =>
    obtain ⟨x, _, h⟩ := exists_of_bind_eq_ok h
    cases h
    exact .single " = ?" (by simp) _
  | zero =>
    cases h
    exact .single " = ?" (by simp) _
  | opened | closed =>
    cases h
    exact .single " IN (SELECT id FROM issue_statuses WHERE is_closed = ?)" (by simp) _
  | today | thisWeek => exact shape_of_dayRange h
  | daysAhead | daysAgo =>
    obtain ⟨n, _, h⟩ := exists_of_bind_eq_ok h
    exact shape_of_dayRange h
  | beforeDaysAhead | beforeDaysAgo =>
    obtain ⟨n, _, h⟩ := exists_of_bind_eq_ok h
    exact shape_of_fromBoundary (.inl rfl) h
  | afterDaysAhead | afterDaysAgo =>
    obtain ⟨n, _, h⟩ := exists_of_bind_eq_ok h
    exact shape_of_fromBoundary (.inr rfl) h
  | onDate =>
    obtain ⟨day, _, h⟩ := exists_of_bind_eq_ok h
    split at h
    · exact shape_of_dayRange h
    · cases h
  | beforeDate =>
    obtain ⟨t, _, h⟩ := exists_of_bind_eq_ok h
    cases h
    exact .single " < ?" (by simp) t
  | afterDate =>
    obtain ⟨t, _, h⟩ := exists_of_bind_eq_ok h
    cases h
    exact .single " > ?" (by simp) t
  | betweenDates =>
    obtain ⟨start, _, h⟩ := exists_of_bind_eq_ok h
    obtain ⟨stop, _, h⟩ := exists_of_bind_eq_ok h
    cases h
    exact .range " > ? AND " (by simp) start stop

theorem tidy_markers (count : Nat) : Tidy (markers count).toList count := by
  induction count with
  | zero => decide
  | succ n ih =>
    cases n with
    | zero => decide
    | succ n =>
      have hfirst : Tidy ("?".toList ++ ", ".toList) 1 := by decide
      rw [markers, List.replicate_succ, List.replicate_succ, String.intercalate_cons_cons,
        String.toList_append, String.toList_append, ← List.replicate_succ, Nat.add_comm (n + 1)]
      exact hfirst.append ih

namespace Shape

theorem tidy_presence {test : String} (h : test ∈ [" IS NULL", " IS NOT NULL"]) :
    Bare test.toList := by
  simp only [List.mem_cons, List.not_mem_nil, or_false] at h
  rcases h with rfl | rfl <;> decide

theorem tidy_single {test : String}
    (h : test ∈ [" <= ?", " >= ?", " < ?", " > ?", " = ?", " LIKE ? ESCAPE '!'",
      " NOT LIKE ? ESCAPE '!'", " IN (SELECT id FROM issue_statuses WHERE is_closed = ?)"]) :
    Tidy test.toList 1 := by
  simp only [List.mem_cons, List.not_mem_nil, or_false] at h
  rcases h with rfl | rfl | rfl | rfl | rfl | rfl | rfl | rfl <;> decide +kernel

theorem tidy {column : String} {p : Predicate} (hcol : Bare column.toList) (h : Shape column p) :
    Tidy p.fragment.toList p.params.length := by
  cases h with
  | among values =>
    have hopen : Bare " IN (".toList := by decide
    have hclose : Bare ")".toList := by decide
    simpa using ((hcol.append hopen).append (tidy_markers values.length)).append hclose
  | outside values =>
    have hopen : Bare "(".toList := by decide
    have hnull : Bare " IS NULL OR ".toList := by decide +kernel
    have hnot : Bare " NOT IN (".toList := by decide +kernel
    have hclose : Bare "))".toList := by decide
    have hfirst := ((hopen.append hcol).append hnull).append hcol
    simpa using ((hfirst.append hnot).append (tidy_markers values.length)).append hclose
  | presence test h => simpa using hcol.append (tidy_presence h)
  | single test h value => simpa using hcol.append (tidy_single h)
  | range lower h start stop =>
    have hlower : Tidy lower.toList 1 := by
      simp only [List.mem_cons, List.not_mem_nil, or_false] at h
      rcases h with rfl | rfl <;> decide +kernel
    have hupper : Tidy " < ?".toList 1 := by decide
    simpa using ((hcol.append hlower).append hcol).append hupper

end Shape

end Builtin
end ReportFilters
