/-!
# Tables

Tables with entries of any type. The type of an entry is a value of its own that stands next to the
key, and nothing about a table says that it is the type that the key stands for: whoever takes an
entry out asks for a type, and gets nothing if the entry is of another one.
-/
namespace DeviceIdentity.Wiring

/-! ## Values that carry their types -/

/-- A value of one of the types in a family, with the index of its type. -/
abbrev Dynamic {ι : Type} (F : ι → Type) := Σ type, F type

namespace Dynamic

variable {ι : Type} {F : ι → Type} [DecidableEq ι]

/-- The value, if it is of the type that is asked for. -/
def downcast? (type : ι) (v : Dynamic F) : Option (F type) :=
  if h : v.1 = type then some (h ▸ v.2) else none

@[simp] theorem downcast?_mk {type : ι} (a : F type) : downcast? type ⟨type, a⟩ = some a :=
  dif_pos rfl

theorem downcast?_eq_some_iff {type : ι} {v : Dynamic F} {a : F type} :
    downcast? type v = some a ↔ v = ⟨type, a⟩ := by
  obtain ⟨type', a'⟩ := v
  unfold downcast?
  constructor
  · intro h
    split at h
    · next heq =>
      subst heq
      exact congrArg _ (Option.some.inj h)
    · cases h
  · rintro ⟨⟩
    exact dif_pos rfl

theorem downcast?_eq_none_iff {type : ι} {v : Dynamic F} :
    downcast? type v = none ↔ v.1 ≠ type :=
  dite_eq_right_iff.trans (by simp)

end Dynamic

/-! ## Entries by key -/

/-- Entries with their keys. -/
abbrev Table (κ α : Type) := List (κ × α)

namespace Table

variable {κ α : Type}

/-- The keys that have an entry. -/
def keys (t : Table κ α) : List κ := t.map (·.1)

@[simp] theorem keys_nil : keys ([] : Table κ α) = [] := rfl

@[simp] theorem keys_cons (key : κ) (a : α) (t : Table κ α) :
    keys ((key, a) :: t) = key :: keys t := rfl

variable [DecidableEq κ]

/-- The entry for a key. -/
def get? (key : κ) : Table κ α → Option α
  | [] => none
  | (k, a) :: rest => if k = key then some a else get? key rest

/-- The table with the entry for one key set, in its place or at the end. -/
def set (key : κ) (a : α) : Table κ α → Table κ α
  | [] => [(key, a)]
  | (k, b) :: rest => if k = key then (key, a) :: rest else (k, b) :: set key a rest

@[simp] theorem get?_set_self (key : κ) (a : α) (t : Table κ α) :
    get? key (set key a t) = some a := by
  induction t with
  | nil => simp [set, get?]
  | cons e rest ih =>
    obtain ⟨k, b⟩ := e
    simp only [set]
    split
    · simp [get?]
    · next h => simp [get?, h, ih]

theorem get?_set_of_ne {key other : κ} (h : other ≠ key) (a : α) (t : Table κ α) :
    get? other (set key a t) = get? other t := by
  induction t with
  | nil => simp [set, get?, Ne.symm h]
  | cons e rest ih =>
    obtain ⟨k, b⟩ := e
    simp only [set]
    split
    · next hk => simp [get?, hk, Ne.symm h]
    · simp [get?, ih]

theorem mem_of_get? {key : κ} {a : α} {t : Table κ α} (h : get? key t = some a) :
    (key, a) ∈ t := by
  induction t with
  | nil => cases h
  | cons e rest ih =>
    obtain ⟨k, b⟩ := e
    simp only [get?] at h
    split at h
    · next hk =>
      cases h
      exact hk ▸ List.mem_cons_self
    · exact List.mem_cons_of_mem _ (ih h)

theorem mem_set {key : κ} {a : α} {t : Table κ α} {e : κ × α} (h : e ∈ set key a t) :
    e = (key, a) ∨ e ∈ t := by
  induction t with
  | nil => exact .inl (List.mem_singleton.1 h)
  | cons e' rest ih =>
    obtain ⟨k, b⟩ := e'
    simp only [set] at h
    split at h
    · exact (List.mem_cons.1 h).imp_right (List.mem_cons_of_mem _)
    · rcases List.mem_cons.1 h with h | h
      · exact .inr (h ▸ List.mem_cons_self)
      · exact (ih h).imp_right (List.mem_cons_of_mem _)

theorem isSome_get?_iff {key : κ} {t : Table κ α} : (get? key t).isSome = true ↔ key ∈ keys t := by
  induction t with
  | nil => simp [get?]
  | cons e rest ih =>
    obtain ⟨k, b⟩ := e
    simp only [get?, keys_cons, List.mem_cons]
    split
    · next hk => simp [hk]
    · next hk => rw [ih, or_iff_right (Ne.symm hk)]

theorem mem_keys_set_iff {key other : κ} {a : α} {t : Table κ α} :
    other ∈ keys (set key a t) ↔ other = key ∨ other ∈ keys t := by
  rw [← isSome_get?_iff, ← isSome_get?_iff]
  by_cases h : other = key
  · subst h
    simp
  · rw [get?_set_of_ne h, or_iff_right h]

theorem nodup_keys_set {t : Table κ α} (h : (keys t).Nodup) (key : κ) (a : α) :
    (keys (set key a t)).Nodup := by
  induction t with
  | nil => simp [set]
  | cons e rest ih =>
    obtain ⟨k, b⟩ := e
    rw [keys_cons, List.nodup_cons] at h
    simp only [set]
    split
    · next hk =>
      rw [keys_cons, List.nodup_cons, ← hk]
      exact h
    · next hk =>
      rw [keys_cons, List.nodup_cons, mem_keys_set_iff, not_or]
      exact ⟨⟨hk, h.1⟩, ih h.2⟩

end Table

end DeviceIdentity.Wiring
