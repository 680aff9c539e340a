import Mathlib.Data.Set.Insert
import DeviceIdentity.Proofs.Wiring.Typing

/-!
# Identity of instances

Two instances of one registry that bear one number are the same instance. The invariant behind this
is `Registry.Tracked`: everything that the container holds, that a kept use case was built from, or
that somebody else has a hold of, was issued under a number of its own, and all of it is of the type
that its key stands for. Each operation of a registry keeps it, since only `Container.issue` makes
instances, and it never repeats a number.
-/
namespace DeviceIdentity.Wiring

variable {κ υ : Type} {β : κ → Type} {needs : υ → List κ}

/-! ## Instances and their numbers -/

/-- A set of instances that were issued under numbers below `n`, no two of them under one. -/
structure Issued (n : Nat) (known : Set (Σ key, Instance (β key))) : Prop where
  lt : ∀ e ∈ known, e.2.number < n
  eq_of_number : ∀ e ∈ known, ∀ e' ∈ known, e.2.number = e'.2.number → e = e'

namespace Issued

variable {n : Nat} {known : Set (Σ key, Instance (β key))}

theorem empty : Issued n (∅ : Set (Σ key, Instance (β key))) :=
  ⟨fun _ h => absurd h (Set.notMem_empty _), fun _ h => absurd h (Set.notMem_empty _)⟩

theorem mono {m : Nat} {known' : Set (Σ key, Instance (β key))} (h : Issued n known)
    (hn : n ≤ m) (hsub : known' ⊆ known) : Issued m known' where
  lt e he := Nat.lt_of_lt_of_le (h.lt e (hsub he)) hn
  eq_of_number e he e' he' := h.eq_of_number e (hsub he) e' (hsub he')

/-- The next number belongs to a new instance. -/
theorem insert_next {key : κ} (h : Issued n known) (value : β key) :
    Issued (n + 1) (insert ⟨key, ⟨n, value⟩⟩ known) := by
  refine ⟨?_, ?_⟩
  · rintro e (rfl | he)
    · exact Nat.lt_succ_self n
    · exact Nat.lt_succ_of_lt (h.lt e he)
  · rintro e (rfl | he) e' (rfl | he') hnum
    · rfl
    · exact absurd hnum.symm (Nat.ne_of_lt (h.lt e' he'))
    · exact absurd hnum (Nat.ne_of_lt (h.lt e he))
    · exact h.eq_of_number e he e' he' hnum

/-- Sets of instances for the same keys are equal as soon as their numbers are. -/
theorem resolved_eq_of_numbers (h : Issued n known) {keys : List κ} (r r' : Resolved β keys)
    (hr : ∀ e ∈ r.toList, e ∈ known) (hr' : ∀ e ∈ r'.toList, e ∈ known)
    (hnum : r.numbers = r'.numbers) : r = r' := by
  induction r with
  | nil =>
    cases r' with
    | nil => rfl
  | cons first rest ih =>
    cases r' with
    | cons first' rest' =>
      simp only [Resolved.numbers_cons, List.cons.injEq] at hnum
      simp only [Resolved.toList_cons, List.forall_mem_cons] at hr hr'
      have hfirst := h.eq_of_number _ hr.1 _ hr'.1 hnum.1
      simp only [Sigma.mk.injEq, heq_eq_eq, true_and] at hfirst
      rw [hfirst, ih rest' hr.2 hr'.2 hnum.2]

end Issued

@[simp] theorem Resolved.length_numbers {keys : List κ} (r : Resolved β keys) :
    r.numbers.length = keys.length := by
  induction r with
  | nil => rfl
  | cons first rest ih => simp [ih]

/-! ## Containers -/

namespace Container

variable [DecidableEq κ]

/-- Nothing that was provided is ever missing again. -/
theorem contains_provide {key other : κ} {c : Container κ β} (h : c.contains other = true)
    (i : Instance (β key)) : (c.provide i).contains other = true := by
  unfold contains provide at *
  rw [Table.isSome_get?_iff] at h ⊢
  exact Table.mem_keys_set_iff.2 (.inr h)

theorem resolveSet_cons_eq_ok_iff {c : Container κ β} {key : κ} {keys : List κ}
    {r : Resolved β (key :: keys)} :
    c.resolveSet (key :: keys) = .ok r ↔
      ∃ first rest, c.get? key = some first ∧ c.resolveSet keys = .ok rest ∧
        r = .cons first rest := by
  simp only [resolveSet, ← resolve_eq_ok_iff, bind, Except.bind, pure, Except.pure]
  cases c.resolve key with
  | error fault => simp
  | ok first =>
    cases c.resolveSet keys with
    | error fault => simp
    | ok rest => simp [eq_comm]

/-- A set that is resolved holds for each key what the container holds for it. -/
theorem get?_of_resolveSet {c : Container κ β} {keys : List κ} {r : Resolved β keys}
    (h : c.resolveSet keys = .ok r) : ∀ e ∈ r.toList, c.get? e.1 = some e.2 := by
  induction keys with
  | nil =>
    cases r with
    | nil => simp
  | cons key keys ih =>
    obtain ⟨first, rest, hfirst, hrest, rfl⟩ := resolveSet_cons_eq_ok_iff.1 h
    simp only [Resolved.toList_cons, List.forall_mem_cons]
    exact ⟨hfirst, ih hrest⟩

theorem mem_entries_of_resolveSet {c : Container κ β} {keys : List κ} {r : Resolved β keys}
    (h : c.resolveSet keys = .ok r) : ∀ e ∈ r.toList, ∃ key, (key, e) ∈ c.entries :=
  fun e he => ⟨e.1, get?_mem (get?_of_resolveSet h e he)⟩

/-- The number of the instance that is held for a key. -/
def identity? (c : Container κ β) (key : κ) : Option Nat := (c.get? key).map (·.number)

theorem numbers_of_resolveSet {c : Container κ β} {keys : List κ} {r : Resolved β keys}
    (h : c.resolveSet keys = .ok r) : r.numbers.map some = keys.map c.identity? := by
  induction keys with
  | nil =>
    cases r with
    | nil => rfl
  | cons key keys ih =>
    obtain ⟨first, rest, hfirst, hrest, rfl⟩ := resolveSet_cons_eq_ok_iff.1 h
    simp [identity?, hfirst, ih hrest]

/-- Two resolved sets bear the same numbers if and only if each key had the same instance. -/
theorem numbers_eq_iff {c c' : Container κ β} {keys : List κ} {r r' : Resolved β keys}
    (h : c.resolveSet keys = .ok r) (h' : c'.resolveSet keys = .ok r') :
    r.numbers = r'.numbers ↔ ∀ key ∈ keys, c.identity? key = c'.identity? key := by
  rw [← List.map_inj_right (fun _ _ => Option.some.inj), numbers_of_resolveSet h,
    numbers_of_resolveSet h', List.map_inj_left]

end Container

/-! ## Registries -/

namespace Registry

/-- The instances that the container holds, or that a kept use case was built from. -/
def instances (r : Registry κ υ β needs) : Set (Σ key, Instance (β key)) :=
  {e | (∃ key, (key, e) ∈ r.container.entries) ∨ ∃ k ∈ r.cache, e ∈ k.2.2.dependencies.toList}

/-- All instances in a registry, and those that somebody else has a hold of, were issued under
numbers of their own, what is kept was built before, and everything is of the type that its key
stands for. -/
structure Tracked (r : Registry κ υ β needs) (handles : Set (Σ key, Instance (β key))) : Prop where
  issued : Issued r.container.issued (r.instances ∪ handles)
  built : ∀ k ∈ r.cache, k.2.2.number < r.built
  typed : r.WellTyped

theorem tracked_empty : (empty : Registry κ υ β needs).Tracked ∅ where
  issued := by
    refine Issued.empty.mono (Nat.le_refl _) ?_
    rintro e ((⟨key, he⟩ | ⟨k, hk, -⟩) | he)
    · exact absurd he List.not_mem_nil
    · exact absurd hk List.not_mem_nil
    · exact he
  built := fun _ hk => absurd hk List.not_mem_nil
  typed := ⟨Table.wellTyped_nil, Table.wellTyped_nil⟩

variable [DecidableEq κ] [DecidableEq υ] {r : Registry κ υ β needs}

omit [DecidableEq υ] in
/-- Providing leaves what is kept as it is. -/
theorem kept_provideSet (r : Registry κ υ β needs) (set : List (Σ key, Instance (β key))) :
    (r.provideSet set).value.cache = r.cache ∧ (r.provideSet set).value.built = r.built := by
  induction set generalizing r with
  | nil => exact ⟨rfl, rfl⟩
  | cons e rest ih => exact ih _

omit [DecidableEq υ] in
theorem building_notMem_provideSet (r : Registry κ υ β needs)
    (set : List (Σ key, Instance (β key))) (u : υ) (n : Nat) :
    .building u n ∉ (r.provideSet set).notes := by
  induction set generalizing r with
  | nil => exact List.not_mem_nil
  | cons e rest ih =>
    intro h
    rcases List.mem_append.1 h with h | h
    · cases List.mem_singleton.1 h
    · exact ih _ h

/-! ### What a get does -/

/-- Why a get fails: a dependency cannot be resolved, or another type is kept for the use case. -/
inductive Fails (r : Registry κ υ β needs) (u : υ) : Failure κ υ → Prop where
  | dependency {fault : Fault κ} (h : r.container.resolveSet (needs u) = .error fault) :
      Fails r u (.dependency fault)
  | mismatch {v : Dynamic fun u => Built β (needs u)} (hv : r.cache.get? u = some v)
      (htype : v.1 ≠ u) : Fails r u (.mismatch u)

/-- Where everything is of the type that its key stands for, no get fails at the use case. -/
theorem Fails.exists_dependency {u : υ} {failure : Failure κ υ} (h : r.Fails u failure)
    (htyped : r.WellTyped) :
    ∃ fault, r.container.resolveSet (needs u) = .error fault ∧ failure = .dependency fault := by
  cases h with
  | dependency h => exact ⟨_, h, rfl⟩
  | mismatch hv htype => exact absurd (htyped.cache _ (Table.mem_of_get? hv)) htype

theorem get_of_error {u : υ} {fault : Fault κ}
    (h : r.container.resolveSet (needs u) = .error fault) :
    r.get u = pure (.error (.dependency fault), r) := by
  simp [get, h]

/-- A use case is kept as long as each of its dependencies is the same instance. -/
theorem get_of_kept {u : υ} {d : Resolved β (needs u)} {b : Built β (needs u)}
    (h : r.container.resolveSet (needs u) = .ok d) (hk : r.kept? u = some b)
    (hnum : b.dependencies.numbers = d.numbers) : r.get u = pure (.ok b, r) := by
  simp [get, h, kept?_eq_some_iff.1 hk, hnum]

/-- A use case that is not kept, or was built from other instances, is built. -/
theorem get_of_not_kept {u : υ} {d : Resolved β (needs u)}
    (h : r.container.resolveSet (needs u) = .ok d)
    (hk : ∀ v, r.cache.get? u = some v → v.2.dependencies.numbers ≠ d.numbers) :
    r.get u =
      ⟨(.ok ⟨r.built, d⟩, { r with
          cache := r.cache.set u ⟨u, ⟨r.built, d⟩⟩
          built := r.built + 1 }),
        [.building u d.numbers.length]⟩ := by
  cases hv : r.cache.get? u with
  | none => simp [get, h, hv, build]
  | some v => simp [get, h, hv, hk v hv, build]

/-- A get leaves everything as it is, or keeps the use case that it builds. -/
theorem get_cases (r : Registry κ υ β needs) (u : υ) :
    (∃ failure, r.Fails u failure ∧ r.get u = pure (.error failure, r)) ∨
    (∃ b d, r.container.resolveSet (needs u) = .ok d ∧ r.kept? u = some b ∧
      b.dependencies.numbers = d.numbers ∧ r.get u = pure (.ok b, r)) ∨
    (∃ d, r.container.resolveSet (needs u) = .ok d ∧
      (∀ v, r.cache.get? u = some v → v.2.dependencies.numbers ≠ d.numbers) ∧
      r.get u =
        ⟨(.ok ⟨r.built, d⟩, { r with
            cache := r.cache.set u ⟨u, ⟨r.built, d⟩⟩
            built := r.built + 1 }),
          [.building u d.numbers.length]⟩) := by
  cases h : r.container.resolveSet (needs u) with
  | error fault => exact .inl ⟨_, .dependency h, get_of_error h⟩
  | ok d =>
    by_cases hk : ∃ v, r.cache.get? u = some v ∧ v.2.dependencies.numbers = d.numbers
    · obtain ⟨v, hv, hnum⟩ := hk
      cases hb : v.downcast? u with
      | none =>
        have hget : r.get u = pure (.error (.mismatch u), r) := by simp [get, h, hv, hnum, hb]
        exact .inl ⟨_, .mismatch hv (Dynamic.downcast?_eq_none_iff.1 hb), hget⟩
      | some b =>
        obtain rfl := Dynamic.downcast?_eq_some_iff.1 hb
        have hkept : r.kept? u = some b := kept?_eq_some_iff.2 hv
        exact .inr (.inl ⟨b, d, rfl, hkept, hnum, get_of_kept h hkept hnum⟩)
    · have hk : ∀ v, r.cache.get? u = some v → v.2.dependencies.numbers ≠ d.numbers :=
        fun v hv hnum => hk ⟨v, hv, hnum⟩
      exact .inr (.inr ⟨d, rfl, hk, get_of_not_kept h hk⟩)

@[simp] theorem container_get (r : Registry κ υ β needs) (u : υ) :
    (r.get u).value.2.container = r.container := by
  obtain ⟨failure, -, hget⟩ | ⟨b, d, -, -, -, hget⟩ | ⟨d, -, -, hget⟩ := get_cases r u <;>
    simp [hget]

theorem built_le_get (r : Registry κ υ β needs) (u : υ) :
    r.built ≤ (r.get u).value.2.built := by
  obtain ⟨failure, -, hget⟩ | ⟨b, d, -, -, -, hget⟩ | ⟨d, -, -, hget⟩ := get_cases r u <;>
    simp [hget]

/-- A use case that was had is kept. -/
theorem kept?_get_self {u : υ} {b : Built β (needs u)} (h : (r.get u).value.1 = .ok b) :
    (r.get u).value.2.kept? u = some b := by
  obtain ⟨failure, -, hget⟩ | ⟨b', d, -, hb, -, hget⟩ | ⟨d, -, -, hget⟩ := get_cases r u
  · simp [hget] at h
  · simp only [hget, Noted.value_pure, Except.ok.injEq] at h ⊢
    exact h ▸ hb
  · simp only [hget, Except.ok.injEq, kept?_eq_some_iff] at h ⊢
    exact h ▸ Table.get?_set_self _ _ _

/-- A get that fails changes nothing. -/
theorem get_eq_of_error {u : υ} (h : ∀ b, (r.get u).value.1 ≠ .ok b) : (r.get u).value.2 = r := by
  obtain ⟨failure, -, hget⟩ | ⟨b, d, -, -, -, hget⟩ | ⟨d, -, -, hget⟩ := get_cases r u
  · simp [hget]
  · simp [hget]
  · exact absurd (by simp [hget]) (h ⟨r.built, d⟩)

theorem get?_cache_get_of_ne {u other : υ} (h : other ≠ u) (r : Registry κ υ β needs) :
    (r.get u).value.2.cache.get? other = r.cache.get? other := by
  obtain ⟨failure, -, hget⟩ | ⟨b, d, -, -, -, hget⟩ | ⟨d, -, -, hget⟩ := get_cases r u
  · simp [hget]
  · simp [hget]
  · simp only [hget]
    exact Table.get?_set_of_ne h _ _

theorem kept?_get_of_ne {u other : υ} (h : other ≠ u) (r : Registry κ υ β needs) :
    (r.get u).value.2.kept? other = r.kept? other := by
  unfold kept?
  rw [get?_cache_get_of_ne h]

theorem instances_get (r : Registry κ υ β needs) (u : υ) :
    (r.get u).value.2.instances ⊆ r.instances := by
  obtain ⟨failure, -, hget⟩ | ⟨b, d, -, -, -, hget⟩ | ⟨d, hd, -, hget⟩ := get_cases r u
  · simp [hget]
  · simp [hget]
  · simp only [hget]
    rintro e (he | ⟨k, hk, he⟩)
    · exact .inl he
    · rcases Table.mem_set hk with rfl | hk
      · exact .inl (Container.mem_entries_of_resolveSet hd e he)
      · exact .inr ⟨k, hk, he⟩

/-! ### What keeps a registry tracked -/

namespace Tracked

variable {handles : Set (Σ key, Instance (β key))}

omit [DecidableEq κ] [DecidableEq υ] in
theorem mono {handles' : Set (Σ key, Instance (β key))} (h : r.Tracked handles)
    (hsub : handles' ⊆ handles) : r.Tracked handles' where
  issued := h.issued.mono (Nat.le_refl _) (Set.union_subset_union_right _ hsub)
  built := h.built
  typed := h.typed

omit [DecidableEq υ] in
theorem provide {key : κ} {i : Instance (β key)} (h : r.Tracked handles)
    (hi : ⟨key, i⟩ ∈ handles) : (r.provide i).value.Tracked handles where
  issued := by
    refine h.issued.mono (Nat.le_refl _) ?_
    rintro e ((⟨other, he⟩ | hk) | he)
    · rcases Table.mem_set he with he | he
      · cases he
        exact .inr hi
      · exact .inl (.inl ⟨other, he⟩)
    · exact .inl (.inr hk)
    · exact .inr he
  built := h.built
  typed := ⟨h.typed.entries.set key i, h.typed.cache⟩

omit [DecidableEq υ] in
theorem provideSet {set : List (Σ key, Instance (β key))} (h : r.Tracked handles)
    (hset : ∀ e ∈ set, e ∈ handles) : (r.provideSet set).value.Tracked handles := by
  induction set generalizing r with
  | nil => exact h
  | cons e rest ih =>
    simp only [List.forall_mem_cons] at hset
    exact ih (h.provide hset.1) hset.2

omit [DecidableEq κ] [DecidableEq υ] in
/-- An instance that is issued can be handed around like those before. -/
theorem issue {key : κ} (h : r.Tracked handles) (value : β key) :
    Tracked { r with container := (r.container.issue value).2 }
      (insert ⟨key, (r.container.issue value).1⟩ handles) where
  issued := by
    refine (h.issued.insert_next value).mono (Nat.le_refl _) ?_
    rintro e (he | rfl | he)
    · exact .inr (.inl he)
    · exact .inl rfl
    · exact .inr (.inr he)
  built := h.built
  typed := ⟨h.typed.entries, h.typed.cache⟩

omit [DecidableEq υ] in
theorem provideNew {key : κ} (h : r.Tracked handles) (value : β key) :
    (r.provideNew key value).value.2.Tracked
      (insert ⟨key, (r.provideNew key value).value.1⟩ handles) :=
  (h.issue value).provide (Set.mem_insert _ _)

omit [DecidableEq κ] [DecidableEq υ] in
theorem issueSet (values : List (Σ key, β key)) (h : r.Tracked handles) :
    Tracked { r with container := (r.container.issueSet values).2 }
      ({e | e ∈ (r.container.issueSet values).1} ∪ handles) := by
  induction values generalizing r handles with
  | nil => exact h.mono (by simp [Container.issueSet])
  | cons v rest ih =>
    obtain ⟨key, value⟩ := v
    refine (ih (h.issue value)).mono ?_
    rintro e (he | he)
    · rcases List.mem_cons.1 he with rfl | he
      · exact .inr (Set.mem_insert _ _)
      · exact .inl he
    · exact .inr (.inr he)

omit [DecidableEq υ] in
theorem provideNewSet (h : r.Tracked handles) (values : List (Σ key, β key)) :
    (r.provideNewSet values).value.Tracked handles :=
  ((h.issueSet values).provideSet fun _ he => .inl he).mono Set.subset_union_right

theorem get (h : r.Tracked handles) (u : υ) : (r.get u).value.2.Tracked handles where
  issued := by
    refine h.issued.mono (by simp) ?_
    exact Set.union_subset_union_left _ (instances_get r u)
  built := by
    obtain ⟨failure, -, hget⟩ | ⟨b, d, -, -, -, hget⟩ | ⟨d, -, -, hget⟩ := get_cases r u
    · simpa [hget] using h.built
    · simpa [hget] using h.built
    · simp only [hget]
      intro k hk
      rcases Table.mem_set hk with rfl | hk
      · exact Nat.lt_succ_self _
      · exact Nat.lt_succ_of_lt (h.built k hk)
  typed := by
    obtain ⟨failure, -, hget⟩ | ⟨b, d, -, -, -, hget⟩ | ⟨d, -, -, hget⟩ := get_cases r u
    · simpa [hget] using h.typed
    · simpa [hget] using h.typed
    · rw [hget]
      exact ⟨h.typed.entries, h.typed.cache.set u _⟩

omit [DecidableEq κ] [DecidableEq υ] in
theorem clear (h : r.Tracked handles) : r.clear.Tracked handles where
  issued := by
    refine h.issued.mono (Nat.le_refl _) (Set.union_subset_union_left _ ?_)
    rintro e (he | ⟨k, hk, -⟩)
    · exact .inl he
    · exact absurd hk List.not_mem_nil
  built := fun _ hk => absurd hk List.not_mem_nil
  typed := ⟨h.typed.entries, Table.wellTyped_nil⟩

/-- What is had was built from exactly what the container holds now. -/
theorem resolveSet_of_get (h : r.Tracked handles) {u : υ} {b : Built β (needs u)}
    (hb : (r.get u).value.1 = .ok b) :
    r.container.resolveSet (needs u) = .ok b.dependencies := by
  obtain ⟨failure, -, hget⟩ | ⟨b', d, hd, hk, hnum, hget⟩ | ⟨d, hd, -, hget⟩ := get_cases r u
  · simp [hget] at hb
  · simp only [hget, Noted.value_pure, Except.ok.injEq] at hb
    subst hb
    have heq : b'.dependencies = d :=
      h.issued.resolved_eq_of_numbers _ _
        (fun e he => .inl (.inr ⟨_, kept?_mem hk, he⟩))
        (fun e he => .inl (.inl (Container.mem_entries_of_resolveSet hd e he))) hnum
    rw [hd, heq]
  · simp only [hget, Except.ok.injEq] at hb
    subst hb
    exact hd

/-- A get fails exactly if resolving the dependencies does. -/
theorem get_eq_error_iff (h : r.Tracked handles) {u : υ} {failure : Failure κ υ} :
    (r.get u).value.1 = .error failure ↔
      ∃ fault, r.container.resolveSet (needs u) = .error fault ∧ failure = .dependency fault := by
  obtain ⟨failure', hfails, hget⟩ | ⟨b, d, hd, -, -, hget⟩ | ⟨d, hd, -, hget⟩ := get_cases r u
  · obtain ⟨fault, hfault, rfl⟩ := hfails.exists_dependency h.typed
    simp [hget, hfault, eq_comm]
  · simp [hget, hd]
  · simp [hget, hd]

/-- What is had was built before the next use case is. -/
theorem number_lt_of_get (h : r.Tracked handles) {u : υ} {b : Built β (needs u)}
    (hb : (r.get u).value.1 = .ok b) : b.number < (r.get u).value.2.built :=
  (h.get u).built _ (kept?_mem (kept?_get_self hb))

end Tracked

end Registry

end DeviceIdentity.Wiring
