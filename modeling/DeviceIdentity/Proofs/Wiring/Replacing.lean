import DeviceIdentity.Proofs.Wiring.Identity

/-!
# Replacing instances

What becomes of the use cases that are kept when some instances are replaced. One that depends on a
replaced instance is built anew when it is asked for next, whatever the new instance holds; one that
does not is handed out as before. Between the replacement and the get there may be gets of other use
cases.
-/
namespace DeviceIdentity.Wiring

variable {κ υ : Type} {β : κ → Type} {needs : υ → List κ}

theorem Resolved.numbers_eq_map {keys : List κ} (r : Resolved β keys) :
    r.numbers = r.toList.map (·.2.number) := by
  induction r with
  | nil => rfl
  | cons first rest ih => rw [numbers_cons, toList_cons, List.map_cons, ih]

namespace Container

variable [DecidableEq κ]

theorem resolveSet_cons_of_error {c : Container κ β} {key : κ} {keys : List κ} {fault : Fault κ}
    {i : Instance (β key)} (hi : c.get? key = some i) (h : c.resolveSet keys = .error fault) :
    c.resolveSet (key :: keys) = .error fault := by
  rw [resolveSet, resolve_eq_ok_iff.2 hi, h]
  rfl

/-- Where something cannot be resolved, a key that is missing is told. -/
theorem exists_missing_of_resolveSet {c : Container κ β} (htyped : c.entries.WellTyped)
    {keys : List κ} {fault : Fault κ} (h : c.resolveSet keys = .error fault) :
    ∃ key ∈ keys, c.contains key = false ∧ fault = .missing key := by
  induction keys with
  | nil => cases h
  | cons key keys ih =>
    cases hfirst : c.get? key with
    | none =>
      rw [resolveSet, resolve_eq htyped, hfirst] at h
      cases h
      refine ⟨key, List.mem_cons_self, ?_, rfl⟩
      rw [← isSome_get? htyped, hfirst, Option.isSome_none]
    | some i =>
      cases hrest : c.resolveSet keys with
      | ok rest =>
        have hok := resolveSet_cons_eq_ok_iff.2 ⟨i, rest, hfirst, hrest, rfl⟩
        rw [hok] at h
        cases h
      | error fault' =>
        rw [resolveSet_cons_of_error hfirst hrest] at h
        cases h
        obtain ⟨other, hmem, hother⟩ := ih hrest
        exact ⟨other, List.mem_cons_of_mem _ hmem, hother⟩

/-- What is resolved depends on the instances for these keys alone. -/
theorem resolveSet_congr {c c' : Container κ β} {keys : List κ} {d : Resolved β keys}
    (h : ∀ key ∈ keys, c'.get? key = c.get? key) (hd : c.resolveSet keys = .ok d) :
    c'.resolveSet keys = .ok d := by
  induction keys with
  | nil => exact hd
  | cons key keys ih =>
    rw [List.forall_mem_cons] at h
    obtain ⟨first, rest, hfirst, hrest, rfl⟩ := resolveSet_cons_eq_ok_iff.1 hd
    exact resolveSet_cons_eq_ok_iff.2 ⟨first, rest, h.1.trans hfirst, ih h.2 hrest, rfl⟩

theorem number_mem_of_resolveSet {c : Container κ β} {keys : List κ} {d : Resolved β keys}
    (h : c.resolveSet keys = .ok d) {key : κ} (hkey : key ∈ keys) {i : Instance (β key)}
    (hi : c.get? key = some i) : i.number ∈ d.numbers := by
  have hmem : c.identity? key ∈ d.numbers.map some := by
    rw [numbers_of_resolveSet h]
    exact List.mem_map_of_mem hkey
  obtain ⟨n, hn, heq⟩ := List.mem_map.1 hmem
  rw [identity?, hi, Option.map_some, Option.some.injEq] at heq
  exact heq ▸ hn

end Container

namespace Registry

variable [DecidableEq κ] [DecidableEq υ] {r : Registry κ υ β needs}
  {handles : Set (Σ key, Instance (β key))}

/-! ## Use cases that are up to date -/

/-- A use case is kept that was built from what the container holds now. -/
structure UpToDate (r : Registry κ υ β needs) (u : υ) (b : Built β (needs u)) : Prop where
  kept : r.kept? u = some b
  current : r.container.resolveSet (needs u) = .ok b.dependencies

/-- What is up to date is handed out as it is, and nothing is built or logged. -/
theorem UpToDate.get_eq {u : υ} {b : Built β (needs u)} (h : r.UpToDate u b) :
    r.get u = pure (.ok b, r) :=
  get_of_kept h.current h.kept rfl

/-- The registry after several use cases were asked for, one after the other. -/
def getEach (r : Registry κ υ β needs) (us : List υ) : Registry κ υ β needs :=
  us.foldl (fun r u => (r.get u).value.2) r

@[simp] theorem container_getEach (r : Registry κ υ β needs) (us : List υ) :
    (r.getEach us).container = r.container := by
  induction us generalizing r with
  | nil => rfl
  | cons u us ih => exact (ih _).trans (container_get r u)

theorem get?_cache_getEach_of_notMem {u : υ} {us : List υ} (h : u ∉ us)
    (r : Registry κ υ β needs) : (r.getEach us).cache.get? u = r.cache.get? u := by
  induction us generalizing r with
  | nil => rfl
  | cons u' us ih =>
    rw [List.mem_cons, not_or] at h
    exact (ih h.2 _).trans (get?_cache_get_of_ne h.1 r)

theorem UpToDate.get {u : υ} {b : Built β (needs u)} (h : r.UpToDate u b) (u' : υ) :
    (r.get u').value.2.UpToDate u b := by
  by_cases hu : u = u'
  · subst hu
    rw [h.get_eq]
    exact h
  · refine ⟨(kept?_get_of_ne hu r).trans h.kept, ?_⟩
    rw [container_get]
    exact h.current

/-- Asking for use cases, in any order, makes none of them out of date. -/
theorem UpToDate.getEach {u : υ} {b : Built β (needs u)} (h : r.UpToDate u b) (us : List υ) :
    (r.getEach us).UpToDate u b := by
  induction us generalizing r with
  | nil => exact h
  | cons u' us ih => exact ih (h.get u')

/-! ## Use cases with a replaced dependency -/

/-- What a get does that builds: the use case is a new one, from what the container holds, and that
it is built is logged once. -/
structure Builds (r : Registry κ υ β needs) (u : υ) (b : Built β (needs u)) : Prop where
  answered : (r.get u).value.1 = .ok b
  current : r.container.resolveSet (needs u) = .ok b.dependencies
  new : b.number = r.built
  logged : (r.get u).notes = [.building u (needs u).length]

theorem builds_of_outdated {u : υ} {d : Resolved β (needs u)}
    (h : r.container.resolveSet (needs u) = .ok d)
    (hk : ∀ v, r.cache.get? u = some v → v.2.dependencies.numbers ≠ d.numbers) :
    r.Builds u ⟨r.built, d⟩ := by
  have hget := get_of_not_kept h hk
  refine ⟨?_, h, rfl, ?_⟩
  · rw [hget]
  · rw [hget, Resolved.length_numbers]

/-- A use case that was not built from the instance that is held for one of its dependencies is
built anew, unless another dependency is missing. -/
theorem builds_of_replaced (htyped : r.container.entries.WellTyped) {u : υ} {key : κ}
    (hkey : key ∈ needs u) {i : Instance (β key)} (hi : r.container.get? key = some i)
    (hk : ∀ v, r.cache.get? u = some v → i.number ∉ v.2.dependencies.numbers) :
    (∃ b, r.Builds u b) ∨
      ∃ other ∈ needs u, r.container.contains other = false ∧
        (r.get u).value.1 = .error (.dependency (.missing other)) := by
  cases hd : r.container.resolveSet (needs u) with
  | ok d =>
    have hmem := Container.number_mem_of_resolveSet hd hkey hi
    refine .inl ⟨_, builds_of_outdated hd ?_⟩
    intro v hv heq
    exact hk v hv (heq ▸ hmem)
  | error fault =>
    obtain ⟨other, hother, hmissing, rfl⟩ := Container.exists_missing_of_resolveSet htyped hd
    refine .inr ⟨other, hother, hmissing, ?_⟩
    rw [get_of_error hd]
    rfl

omit [DecidableEq κ] in
/-- No use case that is kept was built from an instance that has not been issued. -/
theorem Tracked.number_notMem_of_get? (h : r.Tracked handles) {u : υ}
    {v : Dynamic fun u => Built β (needs u)} (hv : r.cache.get? u = some v) {n : Nat}
    (hn : r.container.issued ≤ n) : n ∉ v.2.dependencies.numbers := by
  rw [Resolved.numbers_eq_map]
  intro hmem
  obtain ⟨e, he, rfl⟩ := List.mem_map.1 hmem
  have hlt := h.issued.lt e (.inl (.inr ⟨_, Table.mem_of_get? hv, he⟩))
  exact absurd hlt (Nat.not_lt_of_le hn)

end Registry

end DeviceIdentity.Wiring
