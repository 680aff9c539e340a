import DeviceIdentity.Proofs.Authorizer
import DeviceIdentity.Proofs.Configuration.AccessControl
import DeviceIdentity.Proofs.Service.Applying

/-!
# Isolation of components

What one component has in its configuration decides nothing for another. Its policies have itself as
their principal, and a principal is an expression: one without stars accepts no other component. So
two configurations that differ in this component only decide alike for all others.
-/
namespace DeviceIdentity

variable {root root' : Json} {snapshot snapshot' : Snapshot} {component : String}
  {permission : Permission}

/-- The policies of a component without stars in its name have no part in what others are
granted. -/
theorem Authorizer.decide_ofPolicies_others {policies : List Policy}
    (hplain : '*' ∉ component.toList) (hother : permission.principal ≠ component)
    (scope : String) :
    (ofPolicies (policies.filter fun p => p.principal ≠ component)).decide scope permission =
      (ofPolicies policies).decide scope permission := by
  refine decide_ofPolicies_filter (fun p _ hgrants => ?_) scope
  have hne : p.principal ≠ component := by
    rintro rfl
    exact hother (Policy.principal_of_grants hplain hgrants)
  simpa using hne

/-- Two trees whose services differ in one component only decide alike for all others. -/
theorem Snapshot.decide_eq_of_others_eq (h : ofTree root = .ok snapshot)
    (h' : ofTree root' = .ok snapshot')
    (hothers : (AccessControl.components (services root)).others component =
      (AccessControl.components (services root')).others component)
    (hplain : '*' ∉ component.toList) (hother : permission.principal ≠ component)
    (scope : String) :
    snapshot.authorizer.decide scope permission = snapshot'.authorizer.decide scope permission := by
  obtain ⟨-, policies, hpolicies, hauthorizer⟩ := ofTree_eq_ok_iff.1 h
  obtain ⟨-, policies', hpolicies', hauthorizer'⟩ := ofTree_eq_ok_iff.1 h'
  rw [AccessControl.policies_eq_collected] at hpolicies hpolicies'
  have hsame : policies.filter (fun p => p.principal ≠ component) =
      policies'.filter fun p => p.principal ≠ component := by
    have hcollected := AccessControl.collected_others component hpolicies
    rw [hothers, AccessControl.collected_others component hpolicies'] at hcollected
    exact (Except.ok.inj hcollected).symm
  calc snapshot.authorizer.decide scope permission
    _ = (Authorizer.ofPolicies policies).decide scope permission := by rw [hauthorizer]
    _ = (Authorizer.ofPolicies (policies.filter fun p => p.principal ≠ component)).decide scope
          permission := (Authorizer.decide_ofPolicies_others hplain hother scope).symm
    _ = (Authorizer.ofPolicies policies').decide scope permission := by
      rw [hsame, Authorizer.decide_ofPolicies_others hplain hother scope]
    _ = snapshot'.authorizer.decide scope permission := by rw [hauthorizer']

namespace Service

/-- If the configurations of two services are applied, and the components that they hold differ in
one whose name has no stars, by what it declares or by being there at all, then the authorizers that
were provided decide alike for every other principal: the answers are the same, and so is what is
logged. -/
theorem provided_decide_eq_of_others_eq {s s' t t' : Service} {count count' : Nat}
    {component : String} (h : s.apply.value = (.ok count, t))
    (h' : s'.apply.value = (.ok count', t'))
    (hothers : (AccessControl.components (Snapshot.services s.tree.root)).others component =
      (AccessControl.components (Snapshot.services s'.tree.root)).others component)
    (hplain : '*' ∉ component.toList) :
    ∃ i i' : Wiring.Instance Authorizer,
      t.registry.container.get? .authorizer = some i ∧
      t'.registry.container.get? .authorizer = some i' ∧
      ∀ scope permission, permission.principal ≠ component →
        i.value.decide scope permission = i'.value.decide scope permission := by
  obtain ⟨snapshot, hsnapshot, rfl⟩ := eq_supply_of_apply h
  obtain ⟨snapshot', hsnapshot', rfl⟩ := eq_supply_of_apply h'
  obtain ⟨i, hi, hvalue⟩ := (holds_supply s.registry snapshot).authorizer
  obtain ⟨i', hi', hvalue'⟩ := (holds_supply s'.registry snapshot').authorizer
  refine ⟨i, i', hi, hi', ?_⟩
  intro scope permission hother
  rw [hvalue, hvalue']
  exact Snapshot.decide_eq_of_others_eq hsnapshot hsnapshot' hothers hplain hother scope

/-- The node of a component that may perform an operation on anything in the namespace `n`. -/
def declaring (operation : String) : Json :=
  .object [("configuration", .object [("accessControl", .object [("n", .object [("p", .object
    [("operations", .ofStrings [operation]), ("resources", .ofStrings ["*"])])])])])]

/-- A service that is configured with these components. -/
def serving (components : Members) : Service :=
  start (.object [("services", .object components)]) ⟨[]⟩ true

/-- A bridge that is added with all rights takes nothing from a broker and gives nothing to it. -/
theorem provided_decide_eq_of_others_eq_bridge :
    ∃ t t' : Service, ∃ i i' : Wiring.Instance Authorizer,
      (serving [("broker", declaring "read")]).apply.value = (.ok 4, t) ∧
      (serving [("bridge", declaring "*"), ("broker", declaring "read")]).apply.value =
        (.ok 4, t') ∧
      t.registry.container.get? .authorizer = some i ∧
      t'.registry.container.get? .authorizer = some i' ∧
      i.value.decide "n" ⟨"broker", "read", "x"⟩ = i'.value.decide "n" ⟨"broker", "read", "x"⟩ ∧
      i.value.decide "n" ⟨"broker", "write", "x"⟩ =
        i'.value.decide "n" ⟨"broker", "write", "x"⟩ := by
  have h : (serving [("broker", declaring "read")]).apply.value =
      (.ok 4, (serving [("broker", declaring "read")]).apply.value.2) := rfl
  have h' : (serving [("bridge", declaring "*"), ("broker", declaring "read")]).apply.value =
      (.ok 4, (serving [("bridge", declaring "*"), ("broker", declaring "read")]).apply.value.2) :=
    rfl
  have hplain : '*' ∉ "bridge".toList := by decide
  have hbroker : "broker" ≠ "bridge" := by decide
  obtain ⟨i, i', hi, hi', hdecide⟩ := provided_decide_eq_of_others_eq h h' rfl hplain
  exact ⟨_, _, i, i', h, h', hi, hi', hdecide _ _ hbroker, hdecide _ _ hbroker⟩

end Service

end DeviceIdentity
