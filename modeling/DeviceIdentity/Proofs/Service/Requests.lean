import DeviceIdentity.Proofs.Boundary.Answering
import DeviceIdentity.Proofs.Service.Applying
import DeviceIdentity.Proofs.Wiring.Identity
import DeviceIdentity.Service.Run

/-!
# Requests

What a request works with. Use cases are kept from one request to the next, and yet every request is
answered by what the container holds at that moment: in a service that was reached by its own steps,
every instance has a number of its own, so a use case that was built from other instances is never
taken for one that is up to date.
-/
namespace DeviceIdentity.Service

/-! ## Instances in a service -/

/-- The instances of the stores in memory. -/
def handleSet (s : Service) : Set (Σ key : Key, Wiring.Instance key.Content) :=
  {e | ∃ i ∈ s.handles, e = ⟨.memoryStore, i⟩}

/-- All instances of the service were issued under numbers of their own. -/
def Tracked (s : Service) : Prop := s.registry.Tracked s.handleSet

namespace Tracked

variable {s : Service}

theorem supply (h : s.Tracked) (snapshot : Snapshot) :
    Tracked { s with registry := Service.supply s.registry snapshot } :=
  Wiring.Registry.Tracked.provideNewSet h _

theorem get (h : s.Tracked) (useCase : UseCase) : (s.get useCase).2.Tracked :=
  Wiring.Registry.Tracked.get h useCase

theorem makeStore (h : s.Tracked) : s.makeStore.Tracked := by
  refine Wiring.Registry.Tracked.mono (Wiring.Registry.Tracked.issue h _) ?_
  rintro e ⟨i, hi, rfl⟩
  rcases List.mem_append.1 hi with hi | hi
  · exact .inr ⟨i, hi, rfl⟩
  · rw [List.mem_singleton.1 hi]
    exact .inl rfl

theorem provideStore (h : s.Tracked) (ref : StoreRef) : (s.provideStore ref).Tracked := by
  unfold Service.provideStore
  split
  · exact h
  · next handle hhandle =>
    have hmem : handle ∈ s.handles := List.mem_of_getElem? hhandle
    exact Wiring.Registry.Tracked.provide h ⟨handle, hmem, rfl⟩

theorem provideDatabase (h : s.Tracked) (database : Database) :
    (s.provideDatabase database).Tracked :=
  Wiring.Registry.Tracked.mono (Wiring.Registry.Tracked.provideNew h _) (Set.subset_insert _ _)

theorem mutate (h : s.Tracked) (m : Tree.Mutation) : (s.mutate m).value.2.Tracked := by
  unfold Service.mutate
  split
  · exact h
  · exact h

theorem apply (h : s.Tracked) : s.apply.value.2.Tracked := by
  cases hsnapshot : Snapshot.ofTree s.tree.root with
  | error fault =>
    rw [apply_of_error hsnapshot]
    exact h
  | ok snapshot =>
    rw [apply_of_ok hsnapshot]
    exact h.supply snapshot

theorem settleOne (h : s.Tracked) (receiver : Tree.Receiver) :
    (Service.settleOne receiver s).value.2.Tracked := by
  cases hchanged : s.tree.changed receiver with
  | false =>
    rw [settleOne_of_unchanged hchanged]
    exact h
  | true =>
    cases hsnapshot : Snapshot.ofTree s.tree.root with
    | error fault =>
      rw [settleOne_of_error hchanged hsnapshot]
      exact h
    | ok snapshot =>
      rw [settleOne_of_ok hchanged hsnapshot]
      exact h.supply snapshot

theorem settleEach (h : s.Tracked) (receivers : List Tree.Receiver) :
    (Service.settleEach receivers s).value.2.Tracked := by
  induction receivers generalizing s with
  | nil => exact h
  | cons receiver receivers ih => exact ih (h.settleOne receiver)

theorem settle (h : s.Tracked) : s.settle.value.Tracked := by
  have hearlier := h.settleEach s.earlier
  unfold Service.settle
  simp only [Noted.value_bind]
  split
  · exact hearlier.settleOne _
  · exact hearlier

theorem request (h : s.Tracked) (backing : Backing) (r : Net.Request) :
    (s.request backing r).value.2.Tracked := by
  unfold Service.request
  simp only [Noted.value_bind]
  split
  · exact h
  · exact h.get (.verify backing)

theorem perform (h : s.Tracked) (step : Step) : (s.perform step).value.2.Tracked := by
  -- Steps on the tree, on the reloaders and on the contents of stores leave the registry alone.
  cases step with
  | mutate m => exact h.mutate m
  | update path value => exact h.mutate _
  | replace handle value => exact h.mutate _
  | reloadFile file => exact h.mutate _
  | apply => exact h.apply
  | startReloader => exact h
  | stopReloader => exact h
  | settle => exact h.settle
  | register backing c thing => cases backing <;> exact h
  | registerIn ref c thing => exact h
  | lookup backing c => exact h
  | newStore => exact h.makeStore.provideStore _
  | makeStore => exact h.makeStore
  | provideStore ref => exact h.provideStore ref
  | provideDatabase database => exact h.provideDatabase database
  | seed backing root path => cases backing <;> exact h
  | request backing r => exact h.request backing r
  | describe => exact h.get .describe
  | verify backing caller payload =>
    have hget : (s.verifier backing).2.Tracked := h.get (.verify backing)
    simp only [Service.perform]
    rcases hverifier : s.verifier backing with ⟨fault | verifier, s'⟩
    · rw [hverifier] at hget
      exact hget
    · rw [hverifier] at hget
      exact hget
  | get useCase => exact h.get useCase
  | clear => exact Wiring.Registry.Tracked.clear h

theorem run (h : s.Tracked) (steps : List Step) : (s.run steps).value.2.Tracked := by
  induction steps generalizing s with
  | nil => exact h
  | cons step steps ih => exact ih (h.perform step)

end Tracked

theorem tracked_start (root : Json) (tokens : Tokens) (wired : Bool) :
    (start root tokens wired).Tracked := by
  have hempty : Tracked ⟨.ofRoot root, tokens, .empty, [], [], ⟨0⟩, none, []⟩ := by
    refine Wiring.Registry.tracked_empty.mono ?_
    rintro e ⟨i, hi, -⟩
    exact absurd hi List.not_mem_nil
  -- The database has no handle: nothing but the container holds its instance.
  cases wired with
  | false => exact hempty.makeStore
  | true => exact (hempty.makeStore.provideStore _).provideDatabase _

/-! ## The collaborators of a verification -/

/-- How certificates are looked up in the store that the container holds. -/
def heldLookup (c : Container) (stores : Stores) :
    Backing → Except (Wiring.Fault String)
      (Certificate → Logged (Except Fault (Option CertificateId)))
  | .memory =>
    match c.get? .memoryStore with
    | some (i : Wiring.Instance StoreRef) => .ok (i.value.store stores).lookup
    | none => .error (.missing Key.memoryStore.name)
  | .database =>
    match c.get? .database with
    | some (i : Wiring.Instance Database) => .ok i.value.lookup
    | none => .error (.missing Key.database.name)

/-- The collaborators of a verification that the container holds. -/
def heldVerifier (c : Container) (stores : Stores) (backing : Backing) :
    Except (Wiring.Fault String) Verifier :=
  match c.get? .authorizer with
  | some (i : Wiring.Instance Authorizer) =>
    (heldLookup c stores backing).map fun lookup => ⟨i.value.decide, lookup⟩
  | none => .error (.missing Key.authorizer.name)

theorem heldLookup_eq_ok_iff {c : Container} (htyped : c.entries.WellTyped) {stores : Stores}
    {backing : Backing} :
    (∃ lookup, heldLookup c stores backing = .ok lookup) ↔ c.contains backing.key = true := by
  rw [← Wiring.Container.isSome_get? htyped]
  cases backing with
  | memory =>
    simp only [heldLookup, Backing.key]
    cases c.get? .memoryStore <;> simp
  | database =>
    simp only [heldLookup, Backing.key]
    cases c.get? .database <;> simp

theorem heldVerifier_eq_ok {c : Container} {stores : Stores} {backing : Backing} {v : Verifier}
    (h : heldVerifier c stores backing = .ok v) :
    ∃ (i : Wiring.Instance Authorizer) (lookup : _), c.get? .authorizer = some i ∧
      heldLookup c stores backing = .ok lookup ∧ v = ⟨i.value.decide, lookup⟩ := by
  unfold heldVerifier at h
  split at h
  · next i hauthorizer =>
    cases hlookup : heldLookup c stores backing with
    | error fault =>
      rw [hlookup] at h
      cases h
    | ok lookup =>
      rw [hlookup] at h
      cases h
      exact ⟨i, lookup, hauthorizer, rfl, rfl⟩
  · cases h

theorem verifierOf_eq (stores : Stores) (backing : Backing) (b : Built (.verify backing)) :
    verifierOf stores backing b = verifierOf stores backing ⟨0, b.dependencies⟩ := by
  cases backing <;> rfl

theorem heldVerifier_eq {c : Container} (htyped : c.entries.WellTyped) (stores : Stores)
    (backing : Backing) :
    heldVerifier c stores backing =
      ((c.resolveSet (UseCase.needs (.verify backing))).mapError namedFault).map
        fun dependencies => verifierOf stores backing ⟨0, dependencies⟩ := by
  unfold heldVerifier
  cases backing with
  | memory =>
    simp only [heldLookup, UseCase.needs, Wiring.Container.resolveSet,
      Wiring.Container.resolve_eq htyped]
    cases c.get? .authorizer with
    | none => rfl
    | some i => cases c.get? .memoryStore <;> rfl
  | database =>
    simp only [heldLookup, UseCase.needs, Wiring.Container.resolveSet,
      Wiring.Container.resolve_eq htyped]
    cases c.get? .authorizer with
    | none => rfl
    | some i => cases c.get? .database <;> rfl

/-- A verification works with what the container holds, whatever is kept. -/
theorem Tracked.verifier {s : Service} (h : s.Tracked) (backing : Backing) :
    (s.verifier backing).1 = heldVerifier s.registry.container s.stores backing := by
  have hverifier : (s.verifier backing).1 =
      ((s.registry.get (.verify backing)).value.1.mapError namedFailure).map
        (verifierOf s.stores backing) := rfl
  rw [hverifier, heldVerifier_eq h.typed.entries]
  cases hb : (s.registry.get (.verify backing)).value.1 with
  | error failure =>
    obtain ⟨fault, hfault, rfl⟩ := (Wiring.Registry.Tracked.get_eq_error_iff h).1 hb
    rw [hfault]
    rfl
  | ok b =>
    -- What was kept and what is built now have one set of dependencies, if not one number.
    rw [Wiring.Registry.Tracked.resolveSet_of_get h hb]
    exact congrArg Except.ok (verifierOf_eq s.stores backing b)

/-! ## Providing stores -/

theorem get?_provideStore_of_ne (s : Service) (ref : StoreRef) {key : Key}
    (h : key ≠ .memoryStore) :
    (s.provideStore ref).registry.container.get? key = s.registry.container.get? key := by
  unfold provideStore
  split
  · rfl
  · exact Wiring.Container.get?_provide_of_ne h _ _

theorem contains_provideStore {s : Service} {key : Key}
    (h : s.registry.container.contains key = true) (ref : StoreRef) :
    (s.provideStore ref).registry.container.contains key = true := by
  unfold provideStore
  split
  · exact h
  · exact Wiring.Container.contains_provide h _

theorem tokens_provideStore (s : Service) (ref : StoreRef) :
    (s.provideStore ref).tokens = s.tokens := by
  unfold provideStore
  split <;> rfl

theorem get?_provideDatabase_of_ne (s : Service) (database : Database) {key : Key}
    (h : key ≠ .database) :
    (s.provideDatabase database).registry.container.get? key = s.registry.container.get? key :=
  Wiring.Container.get?_provide_of_ne h _ _

theorem contains_provideDatabase_self (s : Service) (database : Database) :
    (s.provideDatabase database).registry.container.contains .database = true :=
  Wiring.Container.contains_of_get? (Wiring.Container.get?_provide_self _ _)

theorem contains_provideDatabase {s : Service} {key : Key}
    (h : s.registry.container.contains key = true) (database : Database) :
    (s.provideDatabase database).registry.container.contains key = true :=
  Wiring.Container.contains_provide h _

/-! ## Responses -/

section Responses

variable {s : Service} {backing : Backing} {r : Net.Request}

theorem value_request_of_unknown (hpost : r.method = "POST") (hroute : r.path = Boundary.route)
    (h : Boundary.component? s.tokens r = none) :
    (s.request backing r).value = (Boundary.refused notAuthorizedMessage, s) := by
  unfold request
  rw [Noted.value_bind, Boundary.value_admission_of_unknown hpost hroute h]
  simp only [Noted.value_pure, Boundary.sent_of_post hpost]

theorem value_request_of_known {caller : String} (hpost : r.method = "POST")
    (hroute : r.path = Boundary.route) (h : Boundary.component? s.tokens r = some caller) :
    (s.request backing r).value =
      ((Boundary.complete caller (Boundary.payload r) (s.verifier backing).1).value,
        (s.verifier backing).2) := by
  unfold request
  rw [Noted.value_bind, Boundary.value_admission_of_known hpost hroute h]
  simp only [Noted.value_bind, Noted.value_pure, Boundary.sent_of_post hpost]

/-- What the response to a request depends on: the tokens, and what the container holds. -/
theorem Tracked.response_of_known {caller : String} (hs : s.Tracked) (hpost : r.method = "POST")
    (hroute : r.path = Boundary.route) (h : Boundary.component? s.tokens r = some caller) :
    (s.request backing r).value.1 =
      (Boundary.complete caller (Boundary.payload r)
        (heldVerifier s.registry.container s.stores backing)).value := by
  rw [value_request_of_known hpost hroute h, hs.verifier backing]

end Responses

end DeviceIdentity.Service
