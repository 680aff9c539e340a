import DeviceIdentity.Wiring.Registry

/-!
# Types of entries

Nothing about a table says that its entries are of the types that their keys stand for. They are all
the same, since whatever is entered is entered under its own type. Such a table is `WellTyped`, and
cannot be told from one whose entries are typed by their keys: the typed view `Container.get?` has
everything that is provided (`Container.resolve_eq`), `Registry.kept?` has everything that is kept
(`Registry.WellTyped.get_eq`), and no downcast fails.
-/
namespace DeviceIdentity.Wiring

/-! ## Tables -/

namespace Table

variable {κ : Type} {F : κ → Type} {t : Table κ (Dynamic F)}

/-- Each entry is of the type that its key stands for. -/
def WellTyped (t : Table κ (Dynamic F)) : Prop := ∀ e ∈ t, e.2.1 = e.1

theorem wellTyped_nil : WellTyped ([] : Table κ (Dynamic F)) := fun _ h => absurd h List.not_mem_nil

variable [DecidableEq κ]

/-- What is entered under its own type is of the type that its key stands for. -/
theorem WellTyped.set (h : t.WellTyped) (key : κ) (a : F key) :
    (Table.set key ⟨key, a⟩ t).WellTyped := by
  intro e he
  rcases mem_set he with rfl | he
  · rfl
  · exact h e he

theorem WellTyped.exists_eq_mk (h : t.WellTyped) {key : κ} {v : Dynamic F}
    (hv : t.get? key = some v) : ∃ a, v = ⟨key, a⟩ := by
  obtain ⟨type, a⟩ := v
  cases h _ (mem_of_get? hv)
  exact ⟨a, rfl⟩

end Table

variable {κ υ : Type} {β : κ → Type} {needs : υ → List κ} [DecidableEq κ]

/-! ## Containers -/

namespace Container

variable {c : Container κ β}

theorem get?_eq_some_iff {key : κ} {i : Instance (β key)} :
    c.get? key = some i ↔ c.entries.get? key = some ⟨key, i⟩ := by
  simp only [get?, Option.bind_eq_some_iff, Dynamic.downcast?_eq_some_iff, exists_eq_right]

theorem get?_mem {key : κ} {i : Instance (β key)} (h : c.get? key = some i) :
    (key, ⟨key, i⟩) ∈ c.entries :=
  Table.mem_of_get? (get?_eq_some_iff.1 h)

theorem contains_of_get? {key : κ} {i : Instance (β key)} (h : c.get? key = some i) :
    c.contains key = true := by
  rw [contains, get?_eq_some_iff.1 h, Option.isSome_some]

theorem resolve_eq_ok_iff {key : κ} {i : Instance (β key)} :
    c.resolve key = .ok i ↔ c.get? key = some i := by
  unfold resolve get?
  cases c.entries.get? key with
  | none => simp
  | some held =>
    simp only [Option.bind_some]
    cases held.downcast? key <;> simp

theorem isSome_get? (h : c.entries.WellTyped) (key : κ) : (c.get? key).isSome = c.contains key := by
  unfold get? contains
  cases hkey : c.entries.get? key with
  | none => rfl
  | some held =>
    obtain ⟨i, rfl⟩ := h.exists_eq_mk hkey
    simp

/-- Resolving has the same result as if the entries were typed by their keys. -/
theorem resolve_eq (h : c.entries.WellTyped) (key : κ) :
    c.resolve key =
      match c.get? key with
      | some i => .ok i
      | none => .error (.missing key) := by
  unfold resolve get?
  cases hkey : c.entries.get? key with
  | none => rfl
  | some held =>
    obtain ⟨i, rfl⟩ := h.exists_eq_mk hkey
    simp

/-- An entry under the key of another type would be found, and refused. -/
example : (⟨[(true, ⟨false, ⟨0, 7⟩⟩)], 1⟩ : Container Bool fun _ => Nat).resolve true =
    .error (.mismatch true) := rfl

end Container

/-! ## Registries -/

namespace Registry

variable [DecidableEq υ] {r : Registry κ υ β needs}

omit [DecidableEq κ] in
theorem kept?_eq_some_iff {u : υ} {b : Built β (needs u)} :
    r.kept? u = some b ↔ r.cache.get? u = some ⟨u, b⟩ := by
  simp only [kept?, Option.bind_eq_some_iff, Dynamic.downcast?_eq_some_iff, exists_eq_right]

omit [DecidableEq κ] in
theorem kept?_mem {u : υ} {b : Built β (needs u)} (h : r.kept? u = some b) :
    (u, ⟨u, b⟩) ∈ r.cache :=
  Table.mem_of_get? (kept?_eq_some_iff.1 h)

/-- What a registry holds and keeps is all of the types that the keys stand for. -/
structure WellTyped (r : Registry κ υ β needs) : Prop where
  entries : r.container.entries.WellTyped
  cache : r.cache.WellTyped

/-- A get has the same result as if what is kept were typed by its key. -/
theorem WellTyped.get_eq (h : r.WellTyped) (u : υ) :
    r.get u =
      match r.container.resolveSet (needs u) with
      | .error fault => pure (.error (.dependency fault), r)
      | .ok d =>
        match r.kept? u with
        | some b => if b.dependencies.numbers = d.numbers then pure (.ok b, r) else r.build u d
        | none => r.build u d := by
  unfold get kept?
  cases r.container.resolveSet (needs u) with
  | error fault => rfl
  | ok d =>
    cases hkept : r.cache.get? u with
    | none => rfl
    | some v =>
      obtain ⟨b, rfl⟩ := h.cache.exists_eq_mk hkept
      simp

end Registry

end DeviceIdentity.Wiring
