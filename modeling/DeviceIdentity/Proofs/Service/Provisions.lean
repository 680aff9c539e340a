import DeviceIdentity.Proofs.Service.Applying
import DeviceIdentity.Proofs.Wiring.History
import DeviceIdentity.Service.Run

/-!
# What a service was provided with

Which types of instances the container of a service holds is told by the steps that were taken:
applying a tree without a fault provides both parts of the configuration, and so does a reloader
that is due; stores are provided on their own. No step takes anything away.
-/
namespace DeviceIdentity.Service

/-! ## Steps that provide -/

/-- A type of instance is part of the configuration, and can be derived from the tree. -/
def Configures (root : Json) (key : Key) : Prop :=
  (∃ snapshot, Snapshot.ofTree root = .ok snapshot) ∧ (key = .authority ∨ key = .authorizer)

/-- A step provides an instance of a type. -/
def Provides (s : Service) (key : Key) : Step → Prop
  | .apply => Configures s.tree.root key
  | .settle =>
    (∃ receiver ∈ s.earlier ++ s.reloader.toList, s.tree.changed receiver = true) ∧
      Configures s.tree.root key
  | .newStore => key = .memoryStore
  | .provideStore ref => ref.index < s.handles.length ∧ key = .memoryStore
  | .provideDatabase _ => key = .database
  | _ => False

/-- A step of a run provides an instance of a type. -/
def ProvidedDuring (s : Service) (steps : List Step) (key : Key) : Prop :=
  ∃ before step after, steps = before ++ step :: after ∧
    Provides (s.run before).value.2 key step

/-- Something was provided for a type when the service was started, or since. -/
def Provided (root : Json) (tokens : Tokens) (wired : Bool) (steps : List Step) (key : Key) :
    Prop :=
  wired = true ∧ (key = .memoryStore ∨ key = .database) ∨
    ProvidedDuring (start root tokens wired) steps key

/-! ## Configurations -/

section Configuring

variable {s : Service} {key : Key}

theorem contains_supply_iff {r : Registry} {snapshot : Snapshot} :
    (supply r snapshot).container.contains key = true ↔
      r.container.contains key = true ∨ key = .authority ∨ key = .authorizer := by
  have hset : (supply r snapshot).container.contains key = true ↔
      key = .authorizer ∨ key = .authority ∨ r.container.contains key = true :=
    Wiring.Container.contains_provide_iff.trans
      (or_congr_right Wiring.Container.contains_provide_iff)
  rw [hset]
  tauto

theorem contains_apply_iff :
    s.apply.value.2.registry.container.contains key = true ↔
      s.registry.container.contains key = true ∨ Configures s.tree.root key := by
  unfold Configures
  cases hsnapshot : Snapshot.ofTree s.tree.root with
  | error fault => simp [apply_of_error hsnapshot]
  | ok snapshot => simp [apply_of_ok hsnapshot, contains_supply_iff]

/-- A reloader changes the registry only, and provides a configuration if it is due. -/
theorem exists_settleOne (receiver : Tree.Receiver) (s : Service) :
    ∃ registry, (settleOne receiver s).value.2 = { s with registry } ∧
      ∀ key, registry.container.contains key = true ↔
        s.registry.container.contains key = true ∨
          s.tree.changed receiver = true ∧ Configures s.tree.root key := by
  unfold Configures
  cases hchanged : s.tree.changed receiver with
  | false => exact ⟨s.registry, by simp [settleOne_of_unchanged hchanged], by simp⟩
  | true =>
    cases hsnapshot : Snapshot.ofTree s.tree.root with
    | error fault => exact ⟨s.registry, by simp [settleOne_of_error hchanged hsnapshot], by simp⟩
    | ok snapshot =>
      refine ⟨supply s.registry snapshot, by simp [settleOne_of_ok hchanged hsnapshot], ?_⟩
      simp [contains_supply_iff]

theorem exists_settleEach (receivers : List Tree.Receiver) (s : Service) :
    ∃ registry, (settleEach receivers s).value.2 = { s with registry } ∧
      ∀ key, registry.container.contains key = true ↔
        s.registry.container.contains key = true ∨
          (∃ receiver ∈ receivers, s.tree.changed receiver = true) ∧
            Configures s.tree.root key := by
  induction receivers generalizing s with
  | nil => exact ⟨s.registry, rfl, by simp⟩
  | cons receiver receivers ih =>
    obtain ⟨first, hfirst, hcontains⟩ := exists_settleOne receiver s
    obtain ⟨registry, hrest, hcontains'⟩ := ih { s with registry := first }
    refine ⟨registry, ?_, fun key => ?_⟩
    · rw [← hrest, ← hfirst]
      rfl
    · rw [hcontains' key, hcontains key]
      simp only [List.mem_cons, exists_eq_or_imp]
      tauto

/-- What reloaders provide when they are settled. -/
theorem exists_settle (s : Service) :
    ∃ registry reloader earlier, s.settle.value = { s with registry, reloader, earlier } ∧
      ∀ key, registry.container.contains key = true ↔
        s.registry.container.contains key = true ∨ Provides s key .settle := by
  obtain ⟨each, heach, hcontains⟩ := exists_settleEach s.earlier s
  unfold Provides settle
  simp only [Noted.value_bind, heach]
  cases hreloader : s.reloader with
  | none => exact ⟨each, none, (settleEach s.earlier s).value.1, rfl, by simpa using hcontains⟩
  | some receiver =>
    obtain ⟨registry, hone, hcontains'⟩ := exists_settleOne receiver { s with registry := each }
    refine ⟨registry, some (settleOne receiver { s with registry := each }).value.1,
      (settleEach s.earlier s).value.1, ?_, fun key => ?_⟩
    · rw [hreloader] at hone ⊢
      simp only [Noted.value_bind, Noted.value_pure, hone]
    · rw [hcontains' key, hcontains key]
      simp only [List.mem_append, Option.mem_toList, Option.some.injEq, or_and_right, exists_or,
        exists_eq_left', or_assoc]

end Configuring

/-! ## Stores -/

/-- What a service keeps in the course of a run: its tokens, and one instance for each store. -/
structure Steady (tokens : Tokens) (s : Service) : Prop where
  tokens : s.tokens = tokens
  length_handles : s.handles.length = s.stores.length

namespace Steady

variable {tokens : Tokens} {s : Service}

theorem makeStore (h : Steady tokens s) : Steady tokens s.makeStore :=
  ⟨h.tokens, by simp [Service.makeStore, h.length_handles]⟩

theorem provideStore (h : Steady tokens s) (ref : StoreRef) :
    Steady tokens (s.provideStore ref) := by
  unfold Service.provideStore
  split
  · exact h
  · exact ⟨h.tokens, h.length_handles⟩

theorem setStore (h : Steady tokens s) (ref : StoreRef) (store : Store) :
    Steady tokens (s.setStore ref store) :=
  ⟨h.tokens, by simp [Service.setStore, h.length_handles]⟩

theorem mutate (h : Steady tokens s) (m : Tree.Mutation) :
    Steady tokens (s.mutate m).value.2 := by
  unfold Service.mutate
  split
  · exact h
  · exact ⟨h.tokens, h.length_handles⟩

theorem apply (h : Steady tokens s) : Steady tokens s.apply.value.2 := by
  cases hsnapshot : Snapshot.ofTree s.tree.root with
  | error fault => rwa [apply_of_error hsnapshot]
  | ok snapshot =>
    rw [apply_of_ok hsnapshot]
    exact ⟨h.tokens, h.length_handles⟩

theorem settle (h : Steady tokens s) : Steady tokens s.settle.value := by
  obtain ⟨registry, reloader, earlier, hsettle, -⟩ := exists_settle s
  rw [hsettle]
  exact ⟨h.tokens, h.length_handles⟩

theorem get (h : Steady tokens s) (useCase : UseCase) : Steady tokens (s.get useCase).2 :=
  ⟨h.tokens, h.length_handles⟩

theorem request (h : Steady tokens s) (backing : Backing) (r : Net.Request) :
    Steady tokens (s.request backing r).value.2 := by
  unfold Service.request
  simp only [Noted.value_bind]
  split
  · exact h
  · exact h.get (.verify backing)

theorem perform (h : Steady tokens s) (step : Step) : Steady tokens (s.perform step).value.2 := by
  cases step with
  | mutate m => exact h.mutate m
  | update path value => exact h.mutate _
  | replace handle value => exact h.mutate _
  | reloadFile file => exact h.mutate _
  | apply => exact h.apply
  | startReloader => exact ⟨h.tokens, h.length_handles⟩
  | stopReloader => exact ⟨h.tokens, h.length_handles⟩
  | settle => exact h.settle
  | register backing c thing =>
    cases backing with
    | memory => exact h.setStore _ _
    | database => exact h
  | registerIn ref c thing => exact h.setStore _ _
  | lookup backing c => exact h
  | newStore => exact h.makeStore.provideStore _
  | makeStore => exact h.makeStore
  | provideStore ref => exact h.provideStore ref
  | provideDatabase database => exact ⟨h.tokens, h.length_handles⟩
  | seed backing root path =>
    cases backing with
    | memory => exact h.setStore _ _
    | database => exact h
  | request backing r => exact h.request backing r
  | describe => exact h.get .describe
  | verify backing caller payload =>
    have hget : Steady tokens (s.verifier backing).2 := h.get (.verify backing)
    simp only [Service.perform]
    rcases hverifier : s.verifier backing with ⟨fault | verifier, s'⟩
    · rwa [hverifier] at hget
    · rwa [hverifier] at hget
  | get useCase => exact h.get useCase
  | clear => exact ⟨h.tokens, h.length_handles⟩

theorem run (h : Steady tokens s) (steps : List Step) :
    Steady tokens (s.run steps).value.2 := by
  induction steps generalizing s with
  | nil => exact h
  | cons step steps ih => exact ih (h.perform step)

end Steady

theorem steady_start (root : Json) (tokens : Tokens) (wired : Bool) :
    Steady tokens (start root tokens wired) := by
  cases wired <;> exact ⟨rfl, rfl⟩

section Storing

variable {s : Service} {key : Key}

theorem contains_provideStore_iff {ref : StoreRef} :
    (s.provideStore ref).registry.container.contains key = true ↔
      s.registry.container.contains key = true ∨
        ref.index < s.handles.length ∧ key = .memoryStore := by
  unfold provideStore
  cases hhandle : s.handles[ref.index]? with
  | none =>
    have hle : s.handles.length ≤ ref.index := List.getElem?_eq_none_iff.1 hhandle
    simp [Nat.not_lt_of_le hle]
  | some handle =>
    obtain ⟨hlt, -⟩ := List.getElem?_eq_some_iff.1 hhandle
    simp only [hlt, true_and, or_comm (b := key = .memoryStore)]
    exact Wiring.Container.contains_provide_iff

theorem contains_newStore_iff (h : s.handles.length = s.stores.length) :
    s.newStore.registry.container.contains key = true ↔
      s.registry.container.contains key = true ∨ key = .memoryStore := by
  have hlt : s.stores.length < s.makeStore.handles.length := by
    simp [makeStore, h]
  exact contains_provideStore_iff.trans (or_congr_right (and_iff_right hlt))

theorem contains_provideDatabase_iff {database : Database} :
    (s.provideDatabase database).registry.container.contains key = true ↔
      s.registry.container.contains key = true ∨ key = .database :=
  Wiring.Container.contains_provide_iff.trans or_comm

end Storing

/-! ## Runs -/

section Running

variable {s : Service} {key : Key}

theorem container_mutate (m : Tree.Mutation) :
    (s.mutate m).value.2.registry.container = s.registry.container := by
  unfold mutate
  split <;> rfl

theorem container_request (backing : Backing) (r : Net.Request) :
    (s.request backing r).value.2.registry.container = s.registry.container := by
  unfold request
  simp only [Noted.value_bind]
  split
  · rfl
  · exact Wiring.Registry.container_get _ _

/-- One step adds what it provides, and takes nothing away. -/
theorem contains_perform_iff {tokens : Tokens} (h : Steady tokens s) (step : Step) :
    (s.perform step).value.2.registry.container.contains key = true ↔
      s.registry.container.contains key = true ∨ Provides s key step := by
  have hsame : ∀ s' : Service, s'.registry.container = s.registry.container →
      (s'.registry.container.contains key = true ↔
        s.registry.container.contains key = true ∨ False) := by
    intro s' hcontainer
    rw [hcontainer, or_false]
  cases step with
  | mutate m => exact hsame _ (container_mutate m)
  | update path value => exact hsame _ (container_mutate _)
  | replace handle value => exact hsame _ (container_mutate _)
  | reloadFile file => exact hsame _ (container_mutate _)
  | apply => exact contains_apply_iff
  | startReloader => exact hsame _ rfl
  | stopReloader => exact hsame _ rfl
  | settle =>
    obtain ⟨registry, reloader, earlier, hsettle, hcontains⟩ := exists_settle s
    have hperform : (s.perform .settle).value.2 = s.settle.value := rfl
    rw [hperform, hsettle]
    exact hcontains key
  | register backing c thing =>
    cases backing with
    | memory => exact hsame _ rfl
    | database => exact hsame _ rfl
  | registerIn ref c thing => exact hsame _ rfl
  | lookup backing c => exact hsame _ rfl
  | newStore => exact contains_newStore_iff h.length_handles
  | makeStore => exact (or_iff_left not_false).symm
  | provideStore ref => exact contains_provideStore_iff
  | provideDatabase database => exact contains_provideDatabase_iff
  | seed backing root path =>
    cases backing with
    | memory => exact hsame _ rfl
    | database => exact hsame _ rfl
  | request backing r => exact hsame _ (container_request backing r)
  | describe => exact hsame _ (Wiring.Registry.container_get _ _)
  | verify backing caller payload =>
    have hget : (s.verifier backing).2.registry.container = s.registry.container :=
      Wiring.Registry.container_get _ _
    refine hsame _ ?_
    simp only [perform]
    rcases hverifier : s.verifier backing with ⟨fault | verifier, s'⟩
    · rwa [hverifier] at hget
    · rwa [hverifier] at hget
  | get useCase => exact hsame _ (Wiring.Registry.container_get _ _)
  | clear => exact hsame _ rfl

theorem providedDuring_cons {step : Step} {steps : List Step} :
    ProvidedDuring s (step :: steps) key ↔
      Provides s key step ∨ ProvidedDuring (s.perform step).value.2 steps key := by
  constructor
  · rintro ⟨before, step', after, hsteps, hprovides⟩
    cases before with
    | nil =>
      cases hsteps
      exact .inl hprovides
    | cons first before =>
      cases hsteps
      exact .inr ⟨before, step', after, rfl, hprovides⟩
  · rintro (hprovides | ⟨before, step', after, rfl, hprovides⟩)
    · exact ⟨[], step, steps, rfl, hprovides⟩
    · exact ⟨step :: before, step', after, rfl, hprovides⟩

theorem contains_run_iff {tokens : Tokens} (h : Steady tokens s) (steps : List Step) :
    (s.run steps).value.2.registry.container.contains key = true ↔
      s.registry.container.contains key = true ∨ ProvidedDuring s steps key := by
  induction steps generalizing s with
  | nil => simp [run, ProvidedDuring]
  | cons step steps ih =>
    rw [providedDuring_cons, ← or_assoc, ← contains_perform_iff h step]
    exact ih (h.perform step)

theorem contains_start_iff {root : Json} {tokens : Tokens} {wired : Bool} :
    (start root tokens wired).registry.container.contains key = true ↔
      wired = true ∧ (key = .memoryStore ∨ key = .database) := by
  cases wired with
  | false =>
    have hnone : (start root tokens false).registry.container.contains key = false := rfl
    simp [hnone]
  | true =>
    let empty : Service := ⟨.ofRoot root, tokens, .empty, [], [], ⟨0⟩, none, []⟩
    have hnone : empty.registry.container.contains key = false := rfl
    have hstore : empty.newStore.registry.container.contains key = true ↔ key = .memoryStore := by
      rw [contains_newStore_iff rfl, hnone]
      simp
    rw [← hstore, and_iff_right rfl]
    exact contains_provideDatabase_iff

/-- The container holds an instance of a type if and only if one was provided. -/
theorem contains_iff_provided {root : Json} {tokens : Tokens} {wired : Bool} {steps : List Step} :
    ((start root tokens wired).run steps).value.2.registry.container.contains key = true ↔
      Provided root tokens wired steps key := by
  rw [contains_run_iff (steady_start root tokens wired), contains_start_iff]
  rfl

end Running

end DeviceIdentity.Service
