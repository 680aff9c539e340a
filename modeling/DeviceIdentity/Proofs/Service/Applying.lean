import DeviceIdentity.Service.State

/-!
# Applying a configuration

What the registry holds after a configuration was applied. Both instances that are derived from the
tree are issued anew and provided as one set; nothing else is touched, and a tree with a fault
touches nothing at all.
-/
namespace DeviceIdentity

theorem Snapshot.ofTree_eq_ok_iff {root : Json} {snapshot : Snapshot} :
    ofTree root = .ok snapshot ↔
      Authority.ofService ((services root).bind (Json.node? [authService])) =
        .ok snapshot.authority ∧
      ∃ policies, AccessControl.policies (services root) = .ok policies ∧
        snapshot.authorizer = .ofPolicies policies := by
  unfold ofTree
  simp only [bind, Except.bind, pure, Except.pure]
  cases Authority.ofService ((services root).bind (Json.node? [authService])) with
  | error fault => simp
  | ok authority =>
    cases AccessControl.policies (services root) with
    | error fault => simp
    | ok policies =>
      obtain ⟨authority', authorizer'⟩ := snapshot
      simp [eq_comm]

namespace Service

/-- The container holds what a snapshot consists of. -/
structure Holds (c : Container) (snapshot : Snapshot) : Prop where
  authority : ∃ i : Wiring.Instance Authority,
    c.get? .authority = some i ∧ i.value = snapshot.authority
  authorizer : ∃ i : Wiring.Instance Authorizer,
    c.get? .authorizer = some i ∧ i.value = snapshot.authorizer

/-- What is held does not depend on the other instances of the container. -/
theorem Holds.congr {c c' : Container} {snapshot : Snapshot} (h : Holds c snapshot)
    (hauthority : c'.get? .authority = c.get? .authority)
    (hauthorizer : c'.get? .authorizer = c.get? .authorizer) : Holds c' snapshot where
  authority := hauthority ▸ h.authority
  authorizer := hauthorizer ▸ h.authorizer

/-- The registry with new instances of what a snapshot consists of. -/
def supply (r : Registry) (snapshot : Snapshot) : Registry :=
  (r.provideNewSet
    [⟨.authority, snapshot.authority⟩, ⟨.authorizer, snapshot.authorizer⟩]).value

theorem applyTree_of_ok {root : Json} {snapshot : Snapshot}
    (h : Snapshot.ofTree root = .ok snapshot) (r : Registry) :
    applyTree root r = ⟨.ok (supply r snapshot), [snapshot.applying]⟩ := by
  unfold applyTree
  rw [h]
  rfl

theorem applyTree_of_error {root : Json} {fault : ConfigurationFault}
    (h : Snapshot.ofTree root = .error fault) (r : Registry) :
    applyTree root r = ⟨.error fault, []⟩ := by
  unfold applyTree
  rw [h]
  rfl

/-! ## What the registry holds afterwards -/

theorem get?_supply_of_ne (r : Registry) (snapshot : Snapshot) {key : Key}
    (hauthority : key ≠ .authority) (hauthorizer : key ≠ .authorizer) :
    (supply r snapshot).container.get? key = r.container.get? key := by
  -- The set is provided member by member, the authorizer last.
  exact (Wiring.Container.get?_provide_of_ne hauthorizer _ _).trans
    (Wiring.Container.get?_provide_of_ne hauthority _ _)

theorem holds_supply (r : Registry) (snapshot : Snapshot) :
    Holds (supply r snapshot).container snapshot where
  authority := by
    have hne : Key.authority ≠ .authorizer := by decide
    refine ⟨⟨r.container.issued, snapshot.authority⟩, ?_, rfl⟩
    exact (Wiring.Container.get?_provide_of_ne hne _ _).trans
      (Wiring.Container.get?_provide_self _ _)
  authorizer :=
    ⟨⟨r.container.issued + 1, snapshot.authorizer⟩, Wiring.Container.get?_provide_self _ _, rfl⟩

/-! ## Applying the tree of a service -/

theorem apply_of_ok {s : Service} {snapshot : Snapshot}
    (h : Snapshot.ofTree s.tree.root = .ok snapshot) :
    s.apply.value = (.ok (supply s.registry snapshot).container.size,
      { s with registry := supply s.registry snapshot }) := by
  unfold apply
  rw [applyTree_of_ok h]
  rfl

theorem apply_of_error {s : Service} {fault : ConfigurationFault}
    (h : Snapshot.ofTree s.tree.root = .error fault) : s.apply.value = (.error fault, s) := by
  unfold apply
  rw [applyTree_of_error h]
  rfl

/-- A configuration that was applied was derived from the tree. -/
theorem eq_supply_of_apply {s s' : Service} {count : Nat} (h : s.apply.value = (.ok count, s')) :
    ∃ snapshot, Snapshot.ofTree s.tree.root = .ok snapshot ∧
      s' = { s with registry := supply s.registry snapshot } := by
  cases hsnapshot : Snapshot.ofTree s.tree.root with
  | error fault =>
    rw [apply_of_error hsnapshot] at h
    cases h
  | ok snapshot =>
    rw [apply_of_ok hsnapshot] at h
    exact ⟨snapshot, rfl, (Prod.mk.inj h).2.symm⟩

/-! ## The turn of a reloader -/

theorem reloadTurn_of_ok {s : Service} {snapshot : Snapshot}
    (h : Snapshot.ofTree s.tree.root = .ok snapshot) :
    s.reloadTurn = ⟨{ s with registry := supply s.registry snapshot },
      [snapshot.applying, .reloaded s.tree.version]⟩ := by
  unfold reloadTurn
  rw [applyTree_of_ok h]
  rfl

theorem reloadTurn_of_error {s : Service} {fault : ConfigurationFault}
    (h : Snapshot.ofTree s.tree.root = .error fault) :
    s.reloadTurn = ⟨s, [.reloadFailed s.tree.version (.configuration fault)]⟩ := by
  unfold reloadTurn
  rw [applyTree_of_error h]
  rfl

section SettleOne

variable {receiver : Tree.Receiver} {s : Service}

theorem settleOne_of_unchanged (h : s.tree.changed receiver = false) :
    settleOne receiver s = ⟨(receiver, s), []⟩ := by
  unfold settleOne
  rw [h]
  rfl

theorem settleOne_of_ok {snapshot : Snapshot} (h : s.tree.changed receiver = true)
    (hsnapshot : Snapshot.ofTree s.tree.root = .ok snapshot) :
    settleOne receiver s =
      ⟨(s.tree.subscribe, { s with registry := supply s.registry snapshot }),
        [snapshot.applying, .reloaded s.tree.version]⟩ := by
  unfold settleOne
  rw [h, reloadTurn_of_ok hsnapshot]
  rfl

theorem settleOne_of_error {fault : ConfigurationFault} (h : s.tree.changed receiver = true)
    (hfault : Snapshot.ofTree s.tree.root = .error fault) :
    settleOne receiver s =
      ⟨(s.tree.subscribe, s), [.reloadFailed s.tree.version (.configuration fault)]⟩ := by
  unfold settleOne
  rw [h, reloadTurn_of_error hfault]
  rfl

end SettleOne

end Service

end DeviceIdentity
