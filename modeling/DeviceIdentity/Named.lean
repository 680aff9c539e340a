/-!
# Values by name

Finite maps from names to values, kept as lists in the order of the names. Only `Named.set` adds to
a list, and it keeps the order, so what is set in which order cannot be told from the result.
-/
namespace DeviceIdentity

/-- Values by name. -/
abbrev Named (α : Type) := List (String × α)

namespace Named

variable {α : Type}

/-- The value of that name. -/
def get? (name : String) : Named α → Option α
  | [] => none
  | (n, v) :: rest => if n = name then some v else get? name rest

/-- The values with one of them set: replaced where it is, or put before the first greater name. -/
def set (name : String) (value : α) : Named α → Named α
  | [] => [(name, value)]
  | (n, v) :: rest =>
    if n = name then (n, value) :: rest
    else if name < n then (name, value) :: (n, v) :: rest
    else (n, v) :: set name value rest

/-- Values in any order, put in order; of equal names the last one counts. -/
def ofList (entries : List (String × α)) : Named α :=
  entries.foldl (fun named (n, v) => set n v named) []

/-- The names, in order. -/
def names (named : Named α) : List String := named.map (·.1)

@[simp] theorem get?_nil (name : String) : get? name ([] : Named α) = none := rfl

theorem get?_cons (name n : String) (v : α) (rest : Named α) :
    get? name ((n, v) :: rest) = if n = name then some v else get? name rest := rfl

@[simp] theorem get?_set_self (name : String) (value : α) (named : Named α) :
    get? name (set name value named) = some value := by
  induction named with
  | nil => simp [set, get?]
  | cons m rest ih =>
    obtain ⟨n, v⟩ := m
    simp only [set]
    split
    · next h => simp [get?, h]
    · next h =>
      split
      · simp [get?]
      · simp [get?, h, ih]

theorem get?_set_of_ne {name other : String} (h : other ≠ name) (value : α) (named : Named α) :
    get? other (set name value named) = get? other named := by
  induction named with
  | nil => simp [set, get?, Ne.symm h]
  | cons m rest ih =>
    obtain ⟨n, v⟩ := m
    simp only [set]
    split
    · next hn => subst hn; simp [get?, Ne.symm h]
    · split
      · simp [get?, Ne.symm h]
      · simp [get?, ih]

end Named

end DeviceIdentity
