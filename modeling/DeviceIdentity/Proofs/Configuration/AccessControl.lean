import DeviceIdentity.Configuration.AccessControl
import DeviceIdentity.Proofs.Named
import DeviceIdentity.Proofs.Outcome

/-!
# Who declares a policy

Every policy that is collected belongs to the component that declares it, so the policies of the
other components are those that are collected without it.
-/
namespace DeviceIdentity.AccessControl

/-- The components whose policies are collected, with their nodes. -/
def components (services : Option Json) : Members := (services.map Json.members).getD []

/-- The policies of some components. -/
def collected (components : Members) : Except ConfigurationFault (List Policy) := do
  return (← components.mapM fun (component, node) => ofComponent component node).flatten

theorem policies_eq_collected (services : Option Json) :
    policies services = collected (components services) := rfl

theorem collected_eq_ok_iff {components : Members} {ps : List Policy} :
    collected components = .ok ps ↔
      ∃ pss, (components.mapM fun (component, node) => ofComponent component node) = .ok pss ∧
        pss.flatten = ps := by
  simp only [collected, bind_eq_ok_iff, pure_eq_ok_iff]

/-- The policies of each component come before those of the components behind it. -/
theorem collected_cons_eq_ok_iff {component : String} {node : Json} {components : Members}
    {ps : List Policy} :
    collected ((component, node) :: components) = .ok ps ↔
      ∃ own rest, ofComponent component node = .ok own ∧ collected components = .ok rest ∧
        own ++ rest = ps := by
  simp only [collected_eq_ok_iff, List.mapM_cons, bind_eq_ok_iff, pure_eq_ok_iff]
  constructor
  · rintro ⟨pss, ⟨own, hown, rest, hrest, rfl⟩, rfl⟩
    exact ⟨own, rest.flatten, hown, ⟨rest, hrest, rfl⟩, List.flatten_cons.symm⟩
  · rintro ⟨own, rest, hown, ⟨pss, hpss, rfl⟩, rfl⟩
    exact ⟨own :: pss, ⟨own, hown, pss, hpss, rfl⟩, List.flatten_cons⟩

/-! ## The principal -/

theorem principal_of_policy {component scope id : String} {node : Json} {p : Policy}
    (h : policy component scope id node = .ok p) : p.principal = component := by
  simp only [policy, bind_eq_ok_iff, pure_eq_ok_iff] at h
  obtain ⟨operations, -, resources, -, rfl⟩ := h
  rfl

theorem principal_of_mem_ofScope {component scope : String} {node : Json} {ps : List Policy}
    (h : ofScope component scope node = .ok ps) {p : Policy} (hp : p ∈ ps) :
    p.principal = component := by
  cases node with
  | object policies =>
    obtain ⟨entry, -, hentry⟩ := exists_of_mem_mapM h hp
    exact principal_of_policy hentry
  | null | bool | number | string | array => cases h

theorem principal_of_mem_ofDeclaration {component : String} {declaration : Json}
    {ps : List Policy} (h : ofDeclaration component declaration = .ok ps) {p : Policy}
    (hp : p ∈ ps) : p.principal = component := by
  cases declaration with
  | object scopes =>
    simp only [ofDeclaration, bind_eq_ok_iff, pure_eq_ok_iff] at h
    obtain ⟨pss, hpss, rfl⟩ := h
    obtain ⟨ps, hps, hp⟩ := List.mem_flatten.1 hp
    obtain ⟨entry, -, hentry⟩ := exists_of_mem_mapM hpss hps
    exact principal_of_mem_ofScope hentry hp
  | null | bool | number | string | array => cases h

/-- A component is the principal of all policies that it declares. -/
theorem principal_of_mem_ofComponent {component : String} {node : Json} {ps : List Policy}
    (h : ofComponent component node = .ok ps) {p : Policy} (hp : p ∈ ps) :
    p.principal = component := by
  unfold ofComponent at h
  split at h
  · cases h
    cases hp
  · exact principal_of_mem_ofDeclaration (mapError_eq_ok_iff.1 h) hp

/-! ## The policies of the others -/

/-- Without a component, what is collected are the policies of the others. -/
theorem collected_others {components : Members} {ps : List Policy} (component : String)
    (h : collected components = .ok ps) :
    collected (Named.others component components) =
      .ok (ps.filter fun p => p.principal ≠ component) := by
  induction components generalizing ps with
  | nil =>
    cases h
    rfl
  | cons first components ih =>
    obtain ⟨name, node⟩ := first
    obtain ⟨own, rest, hown, hrest, rfl⟩ := collected_cons_eq_ok_iff.1 h
    have hothers := ih hrest
    have hprincipal : ∀ p ∈ own, p.principal = name := fun p hp =>
      principal_of_mem_ofComponent hown hp
    rw [List.filter_append]
    by_cases hname : name = component
    · subst hname
      have hnone : own.filter (fun p => p.principal ≠ name) = [] := by
        simpa using hprincipal
      have hskip : Named.others name ((name, node) :: components) =
          Named.others name components := by
        simp [Named.others]
      rw [hnone, hskip, List.nil_append]
      exact hothers
    · have hall : own.filter (fun p => p.principal ≠ component) = own := by
        refine List.filter_eq_self.2 fun p hp => ?_
        simpa [hprincipal p hp] using hname
      have hkeep : Named.others component ((name, node) :: components) =
          (name, node) :: Named.others component components := by
        simp [Named.others, hname]
      rw [hall, hkeep]
      exact collected_cons_eq_ok_iff.2 ⟨own, _, hown, hothers, rfl⟩

end DeviceIdentity.AccessControl
