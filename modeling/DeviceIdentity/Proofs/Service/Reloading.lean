import DeviceIdentity.Proofs.Service.Applying
import DeviceIdentity.Service.Run

/-!
# Reloading

What stays true while the tree changes under a reloader. Of all trees that were looked at, the
instances of the configuration are always those of the last valid one, and the reloader is due
whenever the tree is not the one that it looked at last. Changes and turns come in any order; a turn
makes up for all changes since the one before.
-/
namespace DeviceIdentity.Service

/-- A service with one reloader, and the roots of the trees that were looked at in order to apply
them, the last one first. -/
structure Reloading where
  service : Service
  receiver : Tree.Receiver
  looked : List Json

namespace Reloading

/-- What happens while a reloader runs: a change of the tree, or a turn if one is due. -/
inductive Action where
  | change (m : Tree.Mutation)
  | turn

/-- A reloader that has just subscribed to the tree, which was applied. -/
def begin (s : Service) : Reloading := ⟨s, s.tree.subscribe, [s.tree.root]⟩

/-- Whether the reloader is told that the tree has changed. -/
def due (x : Reloading) : Bool := x.service.tree.changed x.receiver

/-- One action. -/
def perform (x : Reloading) : Action → Logged Reloading
  | .change m => do
    let (_, service) ← x.service.mutate m
    return { x with service }
  | .turn => do
    let (receiver, service) ← settleOne x.receiver x.service
    let looked := if x.due then x.service.tree.root :: x.looked else x.looked
    return ⟨service, receiver, looked⟩

/-- Several actions, one after the other. -/
def run (x : Reloading) : List Action → Logged Reloading
  | [] => return x
  | action :: actions => do
    let x ← x.perform action
    x.run actions

/-- The root of the last tree that was looked at and was valid. -/
def accepted? (x : Reloading) : Option Json :=
  x.looked.find? fun root => (Snapshot.ofTree root).isOk

/-! ## What an action does -/

theorem perform_change_of_error {x : Reloading} {m : Tree.Mutation} {fault : TreeFault}
    (h : x.service.tree.mutate m = .error fault) : x.perform (.change m) = ⟨x, []⟩ := by
  simp only [perform, mutate, h]
  rfl

theorem perform_change_of_ok {x : Reloading} {m : Tree.Mutation} {tree : Tree}
    (h : x.service.tree.mutate m = .ok tree) :
    x.perform (.change m) =
      ⟨{ x with service := { x.service with tree } }, [.treeChanged m.handle tree.version]⟩ := by
  simp only [perform, mutate, h]
  rfl

theorem perform_turn_of_not_due {x : Reloading} (h : x.due = false) :
    x.perform .turn = ⟨x, []⟩ := by
  simp only [perform, settleOne_of_unchanged h, h]
  rfl

theorem perform_turn_of_ok {x : Reloading} {snapshot : Snapshot} (h : x.due = true)
    (hsnapshot : Snapshot.ofTree x.service.tree.root = .ok snapshot) :
    x.perform .turn =
      ⟨⟨{ x.service with registry := supply x.service.registry snapshot },
          x.service.tree.subscribe, x.service.tree.root :: x.looked⟩,
        [snapshot.applying, .reloaded x.service.tree.version]⟩ := by
  simp only [perform, settleOne_of_ok h hsnapshot, h]
  rfl

theorem perform_turn_of_error {x : Reloading} {fault : ConfigurationFault} (h : x.due = true)
    (hfault : Snapshot.ofTree x.service.tree.root = .error fault) :
    x.perform .turn =
      ⟨⟨x.service, x.service.tree.subscribe, x.service.tree.root :: x.looked⟩,
        [.reloadFailed x.service.tree.version (.configuration fault)]⟩ := by
  simp only [perform, settleOne_of_error h hfault, h]
  rfl

theorem change_cases (x : Reloading) (m : Tree.Mutation) :
    (∃ fault, x.service.tree.mutate m = .error fault ∧ x.perform (.change m) = ⟨x, []⟩) ∨
    (∃ tree, x.service.tree.mutate m = .ok tree ∧
      x.perform (.change m) =
        ⟨{ x with service := { x.service with tree } },
          [.treeChanged m.handle tree.version]⟩) := by
  cases hm : x.service.tree.mutate m with
  | error fault => exact .inl ⟨fault, rfl, perform_change_of_error hm⟩
  | ok tree => exact .inr ⟨tree, rfl, perform_change_of_ok hm⟩

/-- A turn is not due, or fails on a tree with a fault, or applies a valid tree. -/
theorem turn_cases (x : Reloading) :
    (x.due = false ∧ x.perform .turn = ⟨x, []⟩) ∨
    (x.due = true ∧ ∃ fault, Snapshot.ofTree x.service.tree.root = .error fault ∧
      x.perform .turn =
        ⟨⟨x.service, x.service.tree.subscribe, x.service.tree.root :: x.looked⟩,
          [.reloadFailed x.service.tree.version (.configuration fault)]⟩) ∨
    (x.due = true ∧ ∃ snapshot, Snapshot.ofTree x.service.tree.root = .ok snapshot ∧
      x.perform .turn =
        ⟨⟨{ x.service with registry := supply x.service.registry snapshot },
            x.service.tree.subscribe, x.service.tree.root :: x.looked⟩,
          [snapshot.applying, .reloaded x.service.tree.version]⟩) := by
  cases hdue : x.due with
  | false => exact .inl ⟨rfl, perform_turn_of_not_due hdue⟩
  | true =>
    cases hsnapshot : Snapshot.ofTree x.service.tree.root with
    | error fault => exact .inr (.inl ⟨rfl, fault, rfl, perform_turn_of_error hdue hsnapshot⟩)
    | ok snapshot => exact .inr (.inr ⟨rfl, snapshot, rfl, perform_turn_of_ok hdue hsnapshot⟩)

/-! ## The steps of the service -/

/-- The step of the service that an action is. -/
def Action.step : Action → Step
  | change m => .mutate m
  | turn => .settle

/-- The service, with this reloader as the only one that runs. -/
def asService (x : Reloading) : Service :=
  { x.service with reloader := some x.receiver, earlier := [] }

theorem value_settle_asService (x : Reloading) :
    x.asService.settle.value =
      { (settleOne x.receiver x.asService).value.2 with
        reloader := some (settleOne x.receiver x.asService).value.1
        earlier := [] } := rfl

theorem notes_settle_asService (x : Reloading) :
    x.asService.settle.notes = (settleOne x.receiver x.asService).notes :=
  List.append_nil _

/-- An action of the reloader is a step of the service, with what it logs. -/
theorem perform_asService (x : Reloading) (action : Action) :
    (x.asService.perform action.step).value.2 = (x.perform action).value.asService ∧
      (x.asService.perform action.step).notes = (x.perform action).notes := by
  cases action with
  | change m =>
    obtain ⟨fault, hm, hchange⟩ | ⟨tree, hm, hchange⟩ := x.change_cases m
    · simp only [hchange, Action.step, Service.perform, mutate, asService, hm]
      exact ⟨rfl, rfl⟩
    · simp only [hchange, Action.step, Service.perform, mutate, asService, hm]
      exact ⟨rfl, rfl⟩
  | turn =>
    -- No other reloader runs, so settling is one turn of this one.
    have hnotes : (x.asService.perform Action.turn.step).notes = x.asService.settle.notes :=
      List.append_nil _
    rw [hnotes, notes_settle_asService]
    have hvalue := value_settle_asService x
    obtain ⟨hdue, hturn⟩ | ⟨hdue, fault, hfault, hturn⟩ | ⟨hdue, snapshot, hsnapshot, hturn⟩ :=
      x.turn_cases
    · have hchanged : x.asService.tree.changed x.receiver = false := hdue
      rw [settleOne_of_unchanged hchanged] at hvalue ⊢
      rw [hturn]
      exact ⟨hvalue, rfl⟩
    · have hchanged : x.asService.tree.changed x.receiver = true := hdue
      have hfault : Snapshot.ofTree x.asService.tree.root = .error fault := hfault
      rw [settleOne_of_error hchanged hfault] at hvalue ⊢
      rw [hturn]
      exact ⟨hvalue, rfl⟩
    · have hchanged : x.asService.tree.changed x.receiver = true := hdue
      have hsnapshot : Snapshot.ofTree x.asService.tree.root = .ok snapshot := hsnapshot
      rw [settleOne_of_ok hchanged hsnapshot] at hvalue ⊢
      rw [hturn]
      exact ⟨hvalue, rfl⟩

theorem run_asService (x : Reloading) (actions : List Action) :
    (x.asService.run (actions.map Action.step)).value.2 = (x.run actions).value.asService ∧
      (x.asService.run (actions.map Action.step)).notes = (x.run actions).notes := by
  induction actions generalizing x with
  | nil => exact ⟨rfl, rfl⟩
  | cons action actions ih =>
    obtain ⟨hstep, hstepNotes⟩ := x.perform_asService action
    obtain ⟨hrun, hrunNotes⟩ := ih (x.perform action).value
    rw [← hstep] at hrun hrunNotes
    refine ⟨hrun, ?_⟩
    simp only [List.map_cons, Service.run, run, Noted.notes_bind, Noted.notes_pure,
      List.append_nil, hstepNotes, hrunNotes]

/-! ## What every action keeps -/

/-- The container holds what was derived from the last valid tree that was looked at, and the
receiver has seen the version under which the last tree was looked at. -/
structure Sound (x : Reloading) : Prop where
  seen : x.receiver.seen ≤ x.service.tree.version
  current : x.receiver.seen = x.service.tree.version →
    x.looked.head? = some x.service.tree.root
  holds : ∃ root snapshot, x.accepted? = some root ∧ Snapshot.ofTree root = .ok snapshot ∧
    Holds x.service.registry.container snapshot

theorem due_eq_false_iff {x : Reloading} :
    x.due = false ↔ x.receiver.seen = x.service.tree.version := by
  unfold due Tree.changed
  exact bne_eq_false_iff_eq

theorem accepted?_cons_of_ok {root : Json} {snapshot : Snapshot} (s : Service)
    (receiver : Tree.Receiver) (looked : List Json) (h : Snapshot.ofTree root = .ok snapshot) :
    accepted? ⟨s, receiver, root :: looked⟩ = some root := by
  unfold accepted?
  rw [List.find?_cons_of_pos]
  rw [h]
  rfl

theorem accepted?_cons_of_error {root : Json} {fault : ConfigurationFault} (s : Service)
    (receiver : Tree.Receiver) (looked : List Json) (h : Snapshot.ofTree root = .error fault) :
    accepted? ⟨s, receiver, root :: looked⟩ = accepted? ⟨s, receiver, looked⟩ := by
  unfold accepted?
  rw [List.find?_cons_of_neg]
  rw [h]
  exact Bool.false_ne_true

theorem sound_begin {s : Service} {snapshot : Snapshot}
    (h : Snapshot.ofTree s.tree.root = .ok snapshot)
    (hholds : Holds s.registry.container snapshot) : (begin s).Sound where
  seen := Nat.le_refl _
  current := fun _ => rfl
  holds := ⟨s.tree.root, snapshot, accepted?_cons_of_ok _ _ _ h, h, hholds⟩

namespace Sound

/-- A change that takes place counts beyond what the receiver has seen. -/
theorem change {x : Reloading} {tree : Tree} (h : x.Sound)
    (hversion : tree.version = x.service.tree.version + 1) :
    Sound { x with service := { x.service with tree } } where
  seen := by
    have hseen := h.seen
    show x.receiver.seen ≤ tree.version
    omega
  current := by
    -- The receiver cannot have seen a version that did not exist yet.
    intro heq
    have hseen := h.seen
    have heq : x.receiver.seen = tree.version := heq
    omega
  holds := h.holds

theorem turn {x : Reloading} (h : x.Sound) : (x.perform .turn).value.Sound := by
  obtain ⟨-, hturn⟩ | ⟨-, fault, hfault, hturn⟩ | ⟨-, snapshot, hsnapshot, hturn⟩ := x.turn_cases
  · rw [hturn]
    exact h
  · -- The tree was looked at, and what was accepted before it still counts.
    rw [hturn]
    obtain ⟨root, snapshot, haccepted, hroot, hholds⟩ := h.holds
    refine ⟨Nat.le_refl _, fun _ => rfl, root, snapshot, ?_, hroot, hholds⟩
    exact (accepted?_cons_of_error _ _ _ hfault).trans haccepted
  · rw [hturn]
    refine ⟨Nat.le_refl _, fun _ => rfl, x.service.tree.root, snapshot, ?_, hsnapshot, ?_⟩
    · exact accepted?_cons_of_ok _ _ _ hsnapshot
    · exact holds_supply _ _

theorem perform {x : Reloading} (h : x.Sound) (action : Action) :
    (x.perform action).value.Sound := by
  cases action with
  | change m =>
    obtain ⟨fault, -, hchange⟩ | ⟨tree, hm, hchange⟩ := x.change_cases m
    · rw [hchange]
      exact h
    · rw [hchange]
      exact h.change (Tree.version_mutate hm)
  | turn => exact h.turn

theorem run {x : Reloading} (h : x.Sound) (actions : List Action) :
    (x.run actions).value.Sound := by
  induction actions generalizing x with
  | nil => exact h
  | cons action actions ih => exact ih (h.perform action)

/-- Where nothing is due, the current tree is the one that was looked at last. -/
theorem holds_of_not_due {x : Reloading} (h : x.Sound) (hdue : x.due = false) :
    x.looked.head? = some x.service.tree.root ∧
      ∀ snapshot, Snapshot.ofTree x.service.tree.root = .ok snapshot →
        Holds x.service.registry.container snapshot := by
  have hhead := h.current (due_eq_false_iff.1 hdue)
  refine ⟨hhead, ?_⟩
  intro snapshot hsnapshot
  obtain ⟨root, accepted, haccepted, hroot, hholds⟩ := h.holds
  -- The last tree that was looked at is valid, so it is the last valid one.
  obtain ⟨looked, hlooked⟩ := List.head?_eq_some_iff.1 hhead
  have hcurrent : x.accepted? = some x.service.tree.root := by
    unfold accepted?
    rw [hlooked, List.find?_cons_of_pos]
    rw [hsnapshot]
    rfl
  have heq : root = x.service.tree.root := Option.some.inj (haccepted.symm.trans hcurrent)
  rw [heq, hsnapshot] at hroot
  rw [Except.ok.inj hroot]
  exact hholds

theorem due_change {x : Reloading} (h : x.Sound) {m : Tree.Mutation} {tree : Tree}
    (hm : x.service.tree.mutate m = .ok tree) : (x.perform (.change m)).value.due = true := by
  rw [perform_change_of_ok hm]
  have hseen := h.seen
  have hversion := Tree.version_mutate hm
  simp only [due, Tree.changed, bne_iff_ne, ne_eq]
  omega

end Sound

/-! ## Coalescing -/

theorem looked_run_change (x : Reloading) (ms : List Tree.Mutation) :
    (x.run (ms.map .change)).value.looked = x.looked := by
  induction ms generalizing x with
  | nil => rfl
  | cons m ms ih => exact ih _

/-- After a turn nothing is due. -/
theorem due_turn (x : Reloading) : (x.perform .turn).value.due = false := by
  obtain ⟨hdue, hturn⟩ | ⟨-, fault, -, hturn⟩ | ⟨-, snapshot, -, hturn⟩ := x.turn_cases
  · rw [hturn]
    exact hdue
  · rw [hturn]
    exact due_eq_false_iff.2 rfl
  · rw [hturn]
    exact due_eq_false_iff.2 rfl

theorem looked_turn {x : Reloading} (h : x.due = true) :
    (x.perform .turn).value.looked = x.service.tree.root :: x.looked := by
  obtain ⟨hdue, -⟩ | ⟨-, fault, -, hturn⟩ | ⟨-, snapshot, -, hturn⟩ := x.turn_cases
  · rw [h] at hdue
    cases hdue
  · rw [hturn]
  · rw [hturn]

/-! ## Failures -/

/-- Only a turn on a tree with a fault logs a failure. -/
theorem of_reloadFailed_mem {x : Reloading} {action : Action} {version : Nat} {fault : Fault}
    (h : .reloadFailed version fault ∈ (x.perform action).notes) :
    action = .turn ∧ x.due = true ∧ version = x.service.tree.version ∧
      ∃ found, Snapshot.ofTree x.service.tree.root = .error found ∧
        fault = .configuration found := by
  cases action with
  | change m =>
    obtain ⟨fault', -, hchange⟩ | ⟨tree, -, hchange⟩ := x.change_cases m
    · rw [hchange] at h
      cases h
    · rw [hchange] at h
      cases List.mem_singleton.1 h
  | turn =>
    obtain ⟨-, hturn⟩ | ⟨hdue, found, hfound, hturn⟩ | ⟨-, snapshot, -, hturn⟩ := x.turn_cases
    · rw [hturn] at h
      cases h
    · rw [hturn] at h
      cases List.mem_singleton.1 h
      exact ⟨rfl, hdue, rfl, found, hfound, rfl⟩
    · rw [hturn] at h
      simp [Snapshot.applying] at h

/-! ## The law of reloading -/

/-- At every point of a run that begins when a tree was applied, the container holds what was
derived from the last tree that was looked at and was valid. Every change that takes place makes a
turn due, and where none is due, the current tree is the one that was looked at last. A turn makes
up for any number of changes. On a tree with a fault it logs this fault and leaves the service as it
is; nothing else logs such a fault. A service with this reloader alone goes through the same states
and logs the same. -/
theorem holds_accepted_run {s s' : Service} {count : Nat} (h : s.apply.value = (.ok count, s'))
    {actions : List Action} {x : Reloading} (hx : ((begin s').run actions).value = x) :
    (∃ root snapshot, x.accepted? = some root ∧ Snapshot.ofTree root = .ok snapshot ∧
      Holds x.service.registry.container snapshot) ∧
    (x.due = false → x.looked.head? = some x.service.tree.root ∧
      ∀ snapshot, Snapshot.ofTree x.service.tree.root = .ok snapshot →
        Holds x.service.registry.container snapshot) ∧
    (x.due = false → x.perform .turn = ⟨x, []⟩) ∧
    (∀ m tree, x.service.tree.mutate m = .ok tree → (x.perform (.change m)).value.due = true) ∧
    (∀ (ms : List Tree.Mutation) y, (x.run (ms.map .change)).value = y → y.looked = x.looked ∧
      (y.due = true → (y.perform .turn).value.looked = y.service.tree.root :: x.looked) ∧
      (y.perform .turn).value.due = false) ∧
    (∀ fault, x.due = true → Snapshot.ofTree x.service.tree.root = .error fault →
      (x.perform .turn).value.service = x.service ∧
      (x.perform .turn).notes =
        [.reloadFailed x.service.tree.version (.configuration fault)]) ∧
    (∀ action version fault, .reloadFailed version fault ∈ (x.perform action).notes →
      action = .turn ∧ x.due = true ∧ version = x.service.tree.version ∧
        ∃ found, Snapshot.ofTree x.service.tree.root = .error found ∧
          fault = .configuration found) ∧
    ((begin s').asService.run (actions.map Action.step)).value.2 = x.asService ∧
    ((begin s').asService.run (actions.map Action.step)).notes =
      ((begin s').run actions).notes := by
  obtain ⟨snapshot, hsnapshot, rfl⟩ := eq_supply_of_apply h
  have hbegin : (begin { s with registry := supply s.registry snapshot }).Sound :=
    sound_begin hsnapshot (holds_supply _ _)
  have hsound : x.Sound := hx ▸ hbegin.run actions
  refine ⟨hsound.holds, hsound.holds_of_not_due, perform_turn_of_not_due, ?_, ?_, ?_, ?_, ?_⟩
  · intro m tree hm
    exact hsound.due_change hm
  · rintro ms y rfl
    have hlooked := looked_run_change x ms
    refine ⟨hlooked, ?_, due_turn _⟩
    intro hdue
    rw [looked_turn hdue, hlooked]
  · intro fault hdue hfault
    rw [perform_turn_of_error hdue hfault]
    exact ⟨rfl, rfl⟩
  · intro action version fault hmem
    exact of_reloadFailed_mem hmem
  · exact hx ▸ run_asService _ actions

/-- A service that is given a valid tree, which replaces both instances, and then one with a fault,
which replaces neither. -/
theorem holds_accepted_run_fault :
    ∃ (s : Service) (valid : Json) (x y : Reloading) (snapshot : Snapshot),
      s = (start (.object []) ⟨[]⟩ true).apply.value.2 ∧
      valid = .object [("services", .object [("a", .object [("configuration",
        .object [("accessControl", .object [(authService, .object [("p", .object [
          ("operations", .array [.string "*"]), ("resources", .array [.string "*"])])])])])])])] ∧
      x = ((begin s).run [.change (.replace [] valid), .turn]).value ∧
      y = (x.run [.change (.update [] ["services", "b", "configuration", "accessControl"] .null),
        .turn]).value ∧
      Snapshot.ofTree valid = .ok snapshot ∧
      x.accepted? = some valid ∧ Holds x.service.registry.container snapshot ∧
      y.accepted? = some valid ∧ Holds y.service.registry.container snapshot ∧
      (s.registry.container.get? .authority).map (·.number) ≠
        (x.service.registry.container.get? .authority).map (·.number) ∧
      (s.registry.container.get? .authorizer).map (·.number) ≠
        (x.service.registry.container.get? .authorizer).map (·.number) ∧
      y.service.registry.container = x.service.registry.container := by
  have happly : (start (.object []) ⟨[]⟩ true).apply.value =
      (.ok 4, (start (.object []) ⟨[]⟩ true).apply.value.2) := rfl
  obtain ⟨⟨root, snapshot, haccepted, hsnapshot, hholds⟩, -⟩ := @holds_accepted_run _ _ _ happly
    [.change (.replace [] (.object [("services", .object [("a", .object [("configuration",
      .object [("accessControl", .object [(authService, .object [("p", .object [
        ("operations", .array [.string "*"]), ("resources", .array [.string "*"])])])])])])])])),
      .turn] _ rfl
  cases haccepted
  refine ⟨_, _, _, _, snapshot, rfl, rfl, rfl, rfl, hsnapshot, rfl, hholds, rfl, hholds, ?_, ?_,
    rfl⟩
  all_goals decide +kernel

end Reloading

end DeviceIdentity.Service
