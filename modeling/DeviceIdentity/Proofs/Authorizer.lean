import DeviceIdentity.Authorizer
import DeviceIdentity.Proofs.Glob
import DeviceIdentity.Proofs.Named

/-!
# Decisions of a policy table

A table of policies decides as the list that it was made of: grouping the policies by namespace
changes nothing. A permission is granted if and only if a single policy covers it, and denied with
what was asked for otherwise. A policy whose principal has no stars grants nothing to anyone else,
and policies that do not grant a permission have no part in the decision on it.
-/
namespace DeviceIdentity

/-! ## What a policy covers -/

/-- The policy is one of that namespace, and the principal, the operation and the resource that are
asked for can be had from its principal, from one of its operations and from one of its resources by
putting characters in place of each star. -/
structure Policy.Covers (p : Policy) (scope : String) (permission : Permission) : Prop where
  scope_eq : p.scope = scope
  principal : Glob.Fits p.principal.toList permission.principal.toList
  operation : ∃ operation ∈ p.operations,
    Glob.Fits operation.toList permission.operation.toList
  resource : ∃ resource ∈ p.resources, Glob.Fits resource.toList permission.resource.toList

theorem Policy.someAccepts_iff {expressions : List String} {value : String} :
    someAccepts expressions value = true ↔
      ∃ expression ∈ expressions, Glob.Fits expression.toList value.toList := by
  simp only [someAccepts, List.any_eq_true, Attribute.satisfies, Glob.accepts_iff_fits]

theorem Policy.covers_iff {p : Policy} {scope : String} {permission : Permission} :
    p.Covers scope permission ↔ p.scope = scope ∧ p.grants permission = true := by
  have hprincipal : someAccepts [p.principal] permission.principal = true ↔
      Glob.Fits p.principal.toList permission.principal.toList := by
    simp only [someAccepts_iff, List.mem_singleton, exists_eq_left]
  simp only [grants, Bool.and_eq_true, hprincipal, someAccepts_iff]
  constructor
  · rintro ⟨hscope, hprincipal, hoperation, hresource⟩
    exact ⟨hscope, ⟨hprincipal, hoperation⟩, hresource⟩
  · rintro ⟨hscope, ⟨hprincipal, hoperation⟩, hresource⟩
    exact ⟨hscope, hprincipal, hoperation, hresource⟩

theorem Policy.principal_of_grants {p : Policy} {permission : Permission}
    (hplain : '*' ∉ p.principal.toList) (h : p.grants permission = true) :
    permission.principal = p.principal := by
  simp only [grants, someAccepts, List.any_cons, List.any_nil, Attribute.satisfies,
    Glob.accepts_of_plain hplain, Bool.or_false, Bool.and_eq_true, decide_eq_true_iff] at h
  exact h.1.1.symm

/-- A policy for all operations and all resources grants its principal everything. -/
theorem Policy.grants_of_stars {principal : String} (hplain : '*' ∉ principal.toList)
    (id scope operation resource : String) :
    (Policy.mk id principal scope ["*"] ["*"]).grants ⟨principal, operation, resource⟩ = true := by
  simp [grants, someAccepts, Attribute.satisfies, Glob.accepts_of_plain hplain]

namespace Authorizer

/-! ## The policies of a namespace -/

theorem inScope_foldl_add (a : Authorizer) (policies : List Policy) (scope : String) :
    (policies.foldl add a).inScope scope =
      a.inScope scope ++ policies.filter (·.scope = scope) := by
  induction policies generalizing a with
  | nil => exact (List.append_nil _).symm
  | cons p policies ih =>
    rw [List.foldl_cons, ih]
    by_cases hscope : p.scope = scope
    · subst hscope
      rw [inScope_add_self, List.append_assoc, List.filter_cons_of_pos (by simp)]
      rfl
    · rw [inScope_add_of_ne a (Ne.symm hscope), List.filter_cons_of_neg (by simpa using hscope)]

theorem inScope_ofPolicies (policies : List Policy) (scope : String) :
    (ofPolicies policies).inScope scope = policies.filter (·.scope = scope) :=
  inScope_foldl_add empty policies scope

theorem isSome_granting?_ofPolicies (policies : List Policy) (scope : String)
    (permission : Permission) :
    ((ofPolicies policies).granting? scope permission).isSome = true ↔
      ∃ p ∈ policies, p.scope = scope ∧ p.grants permission = true := by
  unfold granting?
  rw [inScope_ofPolicies, List.find?_isSome]
  simp only [List.mem_filter, decide_eq_true_eq, and_assoc]

/-- A permission is granted if and only if one of the policies names the namespace and grants it. -/
theorem value_decide_ofPolicies (policies : List Policy) (scope : String)
    (permission : Permission) :
    ((ofPolicies policies).decide scope permission).value =
      if ∃ p ∈ policies, p.scope = scope ∧ p.grants permission = true then .ok true
      else .error (.ofPermission scope permission) := by
  have hiff := isSome_granting?_ofPolicies policies scope permission
  unfold decide
  cases hgranting : (ofPolicies policies).granting? scope permission with
  | none =>
    have hnone : ¬ ∃ p ∈ policies, p.scope = scope ∧ p.grants permission = true := by
      intro h
      have hsome := hiff.2 h
      rw [hgranting] at hsome
      cases hsome
    rw [if_neg hnone]
    rfl
  | some p =>
    have hsome : ∃ p ∈ policies, p.scope = scope ∧ p.grants permission = true := by
      rw [← hiff, hgranting]
      rfl
    rw [if_pos hsome]
    rfl

/-- The first policy that grants a permission is the first one among those that may grant it. -/
theorem granting?_ofPolicies_filter {may : Policy → Bool} {policies : List Policy}
    {permission : Permission} (h : ∀ p ∈ policies, p.grants permission = true → may p = true)
    (scope : String) :
    (ofPolicies (policies.filter may)).granting? scope permission =
      (ofPolicies policies).granting? scope permission := by
  simp only [granting?, inScope_ofPolicies, ← List.head?_filter, List.filter_filter]
  refine congrArg List.head? (List.filter_congr fun p hp => ?_)
  cases hgrants : p.grants permission with
  | false => simp
  | true => simp [h p hp hgrants]

/-- Policies that do not grant a permission have no part in the decision on it. -/
theorem decide_ofPolicies_filter {may : Policy → Bool} {policies : List Policy}
    {permission : Permission} (h : ∀ p ∈ policies, p.grants permission = true → may p = true)
    (scope : String) :
    (ofPolicies (policies.filter may)).decide scope permission =
      (ofPolicies policies).decide scope permission := by
  simp only [decide, granting?_ofPolicies_filter h scope]

/-! ## All policies -/

/-- All policies, namespace by namespace. -/
def policies (a : Authorizer) : List Policy := a.byScope.flatMap fun (_, ps) => ps

/-- The policies that are added are those that were there before and these, however they are
grouped. -/
theorem perm_policies_foldl_add {a : Authorizer} (h : a.byScope.Ordered) (ps : List Policy) :
    (ps.foldl add a).policies.Perm (ps ++ a.policies) := by
  induction ps generalizing a with
  | nil => exact List.Perm.refl _
  | cons p ps ih =>
    have hadd : (a.add p).policies.Perm (p :: a.policies) := h.perm_set_concat p.scope p
    calc ((p :: ps).foldl add a).policies
      _ = (ps.foldl add (a.add p)).policies := by rw [List.foldl_cons]
      List.Perm _ (ps ++ (a.add p).policies) := ih (h.set _ _)
      List.Perm _ (ps ++ p :: a.policies) := hadd.append_left ps
      List.Perm _ (p :: ps ++ a.policies) := List.perm_middle

theorem perm_policies_ofPolicies (ps : List Policy) : (ofPolicies ps).policies.Perm ps := by
  have h := perm_policies_foldl_add (a := empty) OrderedBy.nil ps
  rwa [show empty.policies = [] from rfl, List.append_nil] at h

/-! ## The decision -/

section Decision

variable {ps : List Policy} {scope : String} {permission : Permission}

theorem value_decide_of_covers (h : ∃ p ∈ ps, p.Covers scope permission) :
    ((ofPolicies ps).decide scope permission).value = .ok true := by
  simp only [Policy.covers_iff] at h
  rw [value_decide_ofPolicies, if_pos h]

theorem value_decide_of_not_covers (h : ¬ ∃ p ∈ ps, p.Covers scope permission) :
    ((ofPolicies ps).decide scope permission).value = .error (.ofPermission scope permission) := by
  simp only [Policy.covers_iff] at h
  rw [value_decide_ofPolicies, if_neg h]

theorem value_decide_congr {ps' : List Policy} (h : ∀ p, p ∈ ps' ↔ p ∈ ps) :
    ((ofPolicies ps').decide scope permission).value =
      ((ofPolicies ps).decide scope permission).value := by
  simp only [value_decide_ofPolicies, h]

end Decision

/-- A permission is granted if and only if a single policy covers it; in every other case it is
denied with what was asked for, and so never refused without a reason. It depends neither on the
order of the policies nor on how often each of them is there, and the table is as large as the list
that it was made of. -/
theorem decide_ofPolicies_covers (ps : List Policy) (scope : String) (permission : Permission) :
    (((ofPolicies ps).decide scope permission).value = .ok true ↔
      ∃ p ∈ ps, p.Covers scope permission) ∧
    (∀ denial, ((ofPolicies ps).decide scope permission).value = .error denial ↔
      (¬ ∃ p ∈ ps, p.Covers scope permission) ∧
        denial = ⟨permission.principal, scope, permission.operation, permission.resource⟩) ∧
    ((ofPolicies ps).decide scope permission).value ≠ .ok false ∧
    (∀ ps', (∀ p, p ∈ ps' ↔ p ∈ ps) →
      ((ofPolicies ps').decide scope permission).value =
        ((ofPolicies ps).decide scope permission).value) ∧
    (ofPolicies ps).size = ps.length := by
  refine ⟨?_, ?_, ?_, fun _ => value_decide_congr, (perm_policies_ofPolicies ps).length_eq⟩
  · constructor
    · intro h
      by_contra hnone
      rw [value_decide_of_not_covers hnone] at h
      cases h
    · exact value_decide_of_covers
  · intro denial
    by_cases hcovers : ∃ p ∈ ps, p.Covers scope permission
    · rw [value_decide_of_covers hcovers]
      exact ⟨nofun, fun h => absurd hcovers h.1⟩
    · rw [value_decide_of_not_covers hcovers, Except.error.injEq, eq_comm]
      exact ⟨fun h => ⟨hcovers, h⟩, And.right⟩
  · by_cases hcovers : ∃ p ∈ ps, p.Covers scope permission
    · rw [value_decide_of_covers hcovers]
      nofun
    · rw [value_decide_of_not_covers hcovers]
      nofun

end Authorizer

end DeviceIdentity
