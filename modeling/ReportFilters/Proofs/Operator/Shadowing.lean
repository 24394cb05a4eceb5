import ReportFilters.Proofs.FirstOccurrence
import ReportFilters.Proofs.Operator.Registry

/-! What a registry answers after any registrations. Under each token the operator registered last is
found, and it hides a built-in one; the place of a token in the list of tokens is that of its first
registration. -/

namespace ReportFilters

namespace Builtin

theorem nodup_map_token_all : (all.map token).Nodup := by decide

theorem ofToken?_token (op : Builtin) : ofToken? op.token = some op := by
  cases op <;> decide

theorem ofToken?_eq_none {token : String} (h : ∀ op : Builtin, op.token ≠ token) :
    ofToken? token = none :=
  List.find?_eq_none.mpr fun op _ => by simpa using h op

end Builtin

namespace Registry

def replaced (registry : Registry) : List CustomOperator → List (Option Operator)
  | [] => []
  | op :: rest => (registry.register op).1 :: (registry.register op).2.replaced rest

theorem registerAll_concat (registry : Registry) (ops : List CustomOperator) (op : CustomOperator) :
    registry.registerAll (ops ++ [op]) = ((registry.registerAll ops).register op).2 := by
  rw [registerAll, List.foldl_append]
  rfl

theorem replaced_append (registry : Registry) (before after : List CustomOperator) :
    registry.replaced (before ++ after)
      = registry.replaced before ++ (registry.registerAll before).replaced after := by
  induction before generalizing registry with
  | nil => rfl
  | cons op rest ih => rw [List.cons_append, replaced, ih, replaced, List.cons_append]; rfl

theorem length_replaced (registry : Registry) (ops : List CustomOperator) :
    (registry.replaced ops).length = ops.length := by
  induction ops generalizing registry with
  | nil => rfl
  | cons op rest ih => rw [replaced, List.length_cons, List.length_cons, ih]

theorem lookup?_register (registry : Registry) (op : CustomOperator) (token : String) :
    (registry.register op).2.lookup? token
      = if token = op.token then some (.custom op) else registry.lookup? token := by
  rw [lookup?, register, Dictionary.get?_put]
  by_cases h : token = op.token
  · rw [if_pos h, if_pos h]
  · rw [if_neg h, if_neg h]
    rfl

theorem lookup?_registerAll (registry : Registry) (ops : List CustomOperator) (token : String) :
    (registry.registerAll ops).lookup? token
      = ((ops.reverse.find? fun op => op.token = token).map .custom).or (registry.lookup? token) := by
  induction ops using List.reverseRecOn with
  | nil => rfl
  | append_singleton ops op ih =>
    rw [registerAll_concat, lookup?_register, List.reverse_concat]
    by_cases h : op.token = token
    · rw [if_pos h.symm, List.find?_cons_of_pos (by simpa using h)]
      rfl
    · rw [if_neg (Ne.symm h), List.find?_cons_of_neg (by simpa using h), ih]

theorem lookup_eq_ok_iff {registry : Registry} {token : String} {op : Operator} :
    registry.lookup token = .ok op ↔ registry.lookup? token = some op := by
  rw [lookup]
  cases registry.lookup? token <;> simp

theorem exists_lookup_eq_ok_iff {registry : Registry} {token : String} :
    (∃ op, registry.lookup token = .ok op) ↔ (registry.lookup? token).isSome := by
  simp only [lookup_eq_ok_iff, Option.isSome_iff_exists]

theorem toOption_lookup (registry : Registry) (token : String) :
    (registry.lookup token).toOption = registry.lookup? token := by
  rw [lookup]
  cases registry.lookup? token <;> rfl

theorem contains_eq (registry : Registry) (token : String) :
    registry.contains token = (registry.lookup? token).isSome := by
  rw [contains, Dictionary.has, lookup?]
  cases registry.custom.get? token with
  | none => rw [Option.isSome_map]; rfl
  | some op => rfl

theorem names_registerAll (ops : List CustomOperator) :
    (empty.registerAll ops).custom.names = (ops.map CustomOperator.token).eraseDups := by
  induction ops using List.reverseRecOn with
  | nil => rfl
  | append_singleton ops op ih =>
    rw [registerAll_concat, List.map_append, List.map_singleton, eraseDups_concat, Registry.register,
      Dictionary.names_put, ih]
    simp only [List.mem_eraseDups]

section
variable {ops : List CustomOperator} {token : String}

theorem lookup?_of_last {before after : List CustomOperator} {op : CustomOperator}
    (hops : ops = before ++ op :: after) (hlast : ∀ later ∈ after, later.token ≠ op.token) :
    (empty.registerAll ops).lookup? op.token = some (.custom op) := by
  have hfound : ops.reverse.find? (fun other => other.token = op.token) = some op := by
    refine List.find?_eq_some_iff_append.mpr
      ⟨decide_eq_true rfl, after.reverse, before.reverse, by simp [hops], ?_⟩
    simpa using hlast
  rw [lookup?_registerAll, hfound]
  rfl

theorem lookup?_of_not_registered (h : ∀ op ∈ ops, op.token ≠ token) :
    (empty.registerAll ops).lookup? token = (Builtin.ofToken? token).map .builtin := by
  have hnone : ops.reverse.find? (fun op => op.token = token) = none :=
    List.find?_eq_none.mpr fun op hop => by simpa using h op (List.mem_reverse.mp hop)
  rw [lookup?_registerAll, hnone]
  rfl

end

structure Overlays (ops : List CustomOperator) (registry : Registry) : Prop where
  registered : ∀ before op after, ops = before ++ op :: after →
    (∀ later ∈ after, later.token ≠ op.token) → registry.lookup op.token = .ok (.custom op)
  builtin : ∀ op : Builtin, (∀ other ∈ ops, other.token ≠ op.token) →
    registry.lookup op.token = .ok (.builtin op)
  unknown : ∀ token, (∀ op ∈ ops, op.token ≠ token) → (∀ op : Builtin, op.token ≠ token) →
    registry.lookup token = .error (Error.unknownOperator token)
  contains_iff : ∀ token, registry.contains token ↔ ∃ op, registry.lookup token = .ok op
  mem_tokens_iff : ∀ token, token ∈ registry.tokens ↔ ∃ op, registry.lookup token = .ok op
  nodup : registry.tokens.Nodup
  /-- A token that hides a built-in one stays in its place among them. -/
  tokens : registry.tokens = Builtin.all.map Builtin.token
    ++ ((ops.map CustomOperator.token).filter fun token => token ∉ Builtin.all.map Builtin.token).eraseDups

theorem tokens_registerAll (ops : List CustomOperator) :
    (empty.registerAll ops).tokens = Builtin.all.map Builtin.token
      ++ ((ops.map CustomOperator.token).filter
        fun token => token ∉ Builtin.all.map Builtin.token).eraseDups := by
  rw [tokens, names_registerAll, eraseDups_filter]
  simp only [List.contains_eq_mem, decide_not]

theorem nodup_tokens_registerAll (ops : List CustomOperator) : (empty.registerAll ops).tokens.Nodup := by
  rw [tokens_registerAll]
  refine List.nodup_append.mpr ⟨Builtin.nodup_map_token_all, nodup_eraseDups _, ?_⟩
  rintro token hbuiltin other hother rfl
  rw [List.mem_eraseDups, List.mem_filter] at hother
  exact of_decide_eq_true hother.2 hbuiltin

theorem overlays_registerAll (ops : List CustomOperator) : Overlays ops (empty.registerAll ops) := by
  refine ⟨?_, ?_, ?_, ?_, ?_, nodup_tokens_registerAll ops, tokens_registerAll ops⟩
  · intro before op after hops hlast
    exact lookup_eq_ok_iff.mpr (lookup?_of_last hops hlast)
  · intro op h
    rw [lookup_eq_ok_iff, lookup?_of_not_registered h, Builtin.ofToken?_token]
    rfl
  · intro token h hbuiltin
    rw [lookup, lookup?_of_not_registered h, Builtin.ofToken?_eq_none hbuiltin]
    rfl
  · intro token
    rw [contains_eq, exists_lookup_eq_ok_iff]
  · intro token
    rw [Registry.mem_tokens_iff, exists_lookup_eq_ok_iff]

/-- After any registrations the registry overlays the built-in operators with the registered ones. Each
registration is answered with what its token was looked up as just before, and no other token is looked
up differently for it. -/
theorem registrations_answered (ops : List CustomOperator) :
    Overlays ops (empty.registerAll ops) ∧
    (∀ before op after, ops = before ++ op :: after → (empty.replaced ops)[before.length]?
      = some ((empty.registerAll before).lookup op.token).toOption) ∧
    ∀ op token, token ≠ op.token →
      ((empty.registerAll ops).register op).2.lookup token = (empty.registerAll ops).lookup token := by
  refine ⟨overlays_registerAll ops, ?_, ?_⟩
  · rintro before op after rfl
    have hlength := length_replaced empty before
    rw [replaced_append, toOption_lookup, List.getElem?_append_right (Nat.le_of_eq hlength), hlength, Nat.sub_self]
    rfl
  · intro op token h
    rw [lookup, lookup, lookup?_register, if_neg h]

def idle (token label : String) : CustomOperator := ⟨token, label, .variadic, none, fun _ _ _ => pure ()⟩

example : (empty.replaced [idle "near" "near", idle "=" "same", idle "near" "close"]).map
    (Option.map Operator.label) = [none, some "is", some "near"] := by decide

end Registry
end ReportFilters
