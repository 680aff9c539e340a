import DeviceIdentity.Proofs.Configuration.Extraction
import DeviceIdentity.Proofs.Service.Provisions

/-!
# The tree of a service

The tree of a service is what the changes of it lead to: no other step touches it. A file holds a
value in order, and what else a tree is changed to is in order wherever it comes from a text. So the
tree stays in order, and the policies that it declares are those that are extracted from it.
-/
namespace DeviceIdentity

/-! ## Changes that keep the order -/

namespace Tree

/-- What a change sets a node to is in order. A file holds nothing else. -/
def Mutation.Ordered : Mutation → Prop
  | update _ _ value | replace _ value => value.Ordered
  | reload _ _ => True

theorem ordered_of_readTree {file : Option Entry} {value : Json} (h : readTree file = .ok value) :
    value.Ordered := by
  simp only [readTree, bind_eq_ok_iff, mapError_eq_ok_iff] at h
  obtain ⟨text, -, value', hvalue, hobject⟩ := h
  cases value' with
  | object members =>
    cases hobject
    exact Json.ordered_of_ofText hvalue
  | null | bool | number | string | array => cases hobject

theorem ordered_replace {t : Tree} {value : Json} (h : t.root.Ordered) (hvalue : value.Ordered)
    (handle : Handle) : (t.replace handle value).root.Ordered := by
  unfold replace
  split
  · exact hvalue
  · exact h.setNode hvalue _

theorem ordered_mutate {t t' : Tree} {m : Mutation} (h : t.root.Ordered) (hm : m.Ordered)
    (hmutate : t.mutate m = .ok t') : t'.root.Ordered := by
  cases m with
  | update handle path value =>
    cases hmutate
    exact h.setNode hm _
  | replace handle value =>
    cases hmutate
    exact ordered_replace h hm handle
  | reload handle file =>
    simp only [mutate, reload] at hmutate
    cases hfile : readTree file with
    | error fault =>
      rw [hfile] at hmutate
      cases hmutate
    | ok value =>
      rw [hfile] at hmutate
      cases hmutate
      exact ordered_replace h (ordered_of_readTree hfile) handle

end Tree

namespace Service

/-! ## Steps and runs -/

/-- The change of the tree that a step makes, if it makes one. -/
def Step.change? : Step → Option Tree.Mutation
  | .mutate m => some m
  | .update path value => some (.update [] path value)
  | .replace handle value => some (.replace handle value)
  | .reloadFile file => some (.reload [] file)
  | _ => none

variable {s : Service}

theorem tree_mutate (s : Service) (m : Tree.Mutation) :
    (s.mutate m).value.2.tree = (s.tree.mutate m).toOption.getD s.tree := by
  unfold mutate
  cases s.tree.mutate m <;> rfl

theorem tree_apply (s : Service) : s.apply.value.2.tree = s.tree := by
  cases hsnapshot : Snapshot.ofTree s.tree.root with
  | error fault => rw [apply_of_error hsnapshot]
  | ok snapshot => rw [apply_of_ok hsnapshot]

theorem tree_provideStore (s : Service) (ref : StoreRef) : (s.provideStore ref).tree = s.tree := by
  unfold provideStore
  split <;> rfl

/-- A step leads to the tree that its change leads to, if it makes one that takes place. -/
theorem tree_perform (s : Service) (step : Step) :
    (s.perform step).value.2.tree =
      (step.change?.bind fun m => (s.tree.mutate m).toOption).getD s.tree := by
  cases step with
  | mutate m => exact tree_mutate s m
  | update path value => exact tree_mutate s _
  | replace handle value => exact tree_mutate s _
  | reloadFile file => exact tree_mutate s _
  | apply => exact tree_apply s
  | settle =>
    obtain ⟨registry, reloader, earlier, hsettle, -⟩ := exists_settle s
    simp only [perform, Noted.value_bind, hsettle]
    rfl
  | provideStore ref => exact tree_provideStore s ref
  | newStore => exact tree_provideStore s.makeStore _
  | register backing | seed backing => cases backing <;> rfl
  | request backing r =>
    simp only [perform, request, Noted.value_bind]
    split <;> rfl
  | verify backing caller payload =>
    simp only [perform]
    have hverifier : (s.verifier backing).2.tree = s.tree := rfl
    rcases heq : s.verifier backing with ⟨fault | verifier, s'⟩
    · rwa [heq] at hverifier
    · rwa [heq] at hverifier
  -- The remaining steps leave the tree alone.
  | startReloader | stopReloader | registerIn | lookup | makeStore | provideDatabase | describe
  | get | clear => rfl

/-- Whatever steps are taken, the tree stays in order if all that it is changed to is. -/
theorem ordered_run (h : s.tree.root.Ordered) {steps : List Step}
    (hsteps : ∀ step ∈ steps, ∀ m, step.change? = some m → m.Ordered) :
    (s.run steps).value.2.tree.root.Ordered := by
  induction steps generalizing s with
  | nil => exact h
  | cons step steps ih =>
    obtain ⟨hstep, hsteps⟩ := List.forall_mem_cons.1 hsteps
    refine ih ?_ hsteps
    rw [tree_perform]
    cases hchange : step.change? with
    | none => exact h
    | some m =>
      cases hmutate : s.tree.mutate m with
      | error fault => simpa [hmutate, Except.toOption] using h
      | ok tree =>
        simpa [hmutate, Except.toOption] using Tree.ordered_mutate h (hstep m hchange) hmutate

/-- At every point of a run, the policies that are extracted from the tree are those that its
services declare. -/
theorem mem_policies_run_iff {root : Json} {tokens : Tokens} {wired : Bool} {steps : List Step}
    (hs : ((start root tokens wired).run steps).value.2 = s) (hroot : root.Ordered)
    (hsteps : ∀ step ∈ steps, ∀ m, step.change? = some m → m.Ordered) {services : Json}
    (hservices : Snapshot.services s.tree.root = some services) {policies : List Policy}
    (hpolicies : AccessControl.policies (some services) = .ok policies) (p : Policy) :
    p ∈ policies ↔ AccessControl.Declares services p := by
  have hstart : (start root tokens wired).tree.root.Ordered := by cases wired <;> exact hroot
  have hordered : s.tree.root.Ordered := hs ▸ ordered_run hstart hsteps
  have hgathers := AccessControl.gathers_policies (hordered.of_node? hservices)
  rw [hpolicies] at hgathers
  exact hgathers.of_ok.2.2 p

end Service

end DeviceIdentity
