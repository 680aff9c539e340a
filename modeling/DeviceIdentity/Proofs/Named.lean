import Mathlib.Data.List.Induction
import Mathlib.Data.List.Sort
import DeviceIdentity.Named

/-!
# Order of names

Lists in the order of the names of their items, with no name twice. Two such lists with the same
items are the same list, however they came about; so are two lists of values by name with the same
value under each name. Values can be set under different names in either order, and of those that
are set under one name the last one counts.
-/
namespace DeviceIdentity

/-- The items stand in the order of their names, and no name stands twice. -/
def OrderedBy {α : Type} (name : α → String) (l : List α) : Prop :=
  l.Pairwise fun a b => name a < name b

namespace OrderedBy

variable {α : Type} {name : α → String} {a b : α} {l l' : List α}

theorem nil : OrderedBy name [] := List.Pairwise.nil

theorem singleton (a : α) : OrderedBy name [a] := List.pairwise_singleton _ a

theorem cons_iff : OrderedBy name (a :: l) ↔ (∀ b ∈ l, name a < name b) ∧ OrderedBy name l :=
  List.pairwise_cons

/-- An item may stand before all others as soon as it may stand before the first. -/
theorem cons_of_lt (h : OrderedBy name (b :: l)) (hlt : name a < name b) :
    OrderedBy name (a :: b :: l) := by
  refine cons_iff.2 ⟨?_, h⟩
  intro c hc
  rcases List.mem_cons.1 hc with rfl | hc
  · exact hlt
  · exact String.lt_trans hlt ((cons_iff.1 h).1 c hc)

/-- Two lists in order are the same if they have the same items. -/
theorem ext (h : OrderedBy name l) (h' : OrderedBy name l') (hmem : ∀ a, a ∈ l ↔ a ∈ l') :
    l = l' := by
  have : Std.Irrefl fun a b : α => name a < name b := ⟨fun a => String.lt_irrefl (name a)⟩
  have : Std.Antisymm fun a b : α => name a < name b :=
    ⟨fun a b hlt hgt => absurd hgt (String.lt_asymm hlt)⟩
  exact List.Pairwise.eq_of_mem_iff h h' hmem

end OrderedBy

namespace Named

variable {α : Type} {named named' : Named α}

/-- The names stand in order, and none of them twice. -/
def Ordered (named : Named α) : Prop := OrderedBy Prod.fst named

/-- The values under all names but one. -/
def others (name : String) (named : Named α) : Named α := named.filter fun m => m.1 ≠ name

/-! ## Setting at the front -/

theorem set_cons_self (name : String) (value v : α) (rest : Named α) :
    set name value ((name, v) :: rest) = (name, value) :: rest := by
  simp only [set, ↓reduceIte]

theorem set_cons_of_lt {name n : String} (h : name < n) (value v : α) (rest : Named α) :
    set name value ((n, v) :: rest) = (name, value) :: (n, v) :: rest := by
  have hne : n ≠ name := fun heq => String.lt_irrefl name (heq ▸ h)
  simp only [set, hne, h, ↓reduceIte]

theorem set_cons_of_gt {name n : String} (h : n < name) (value v : α) (rest : Named α) :
    set name value ((n, v) :: rest) = (n, v) :: set name value rest := by
  have hne : n ≠ name := fun heq => String.lt_irrefl name (heq ▸ h)
  simp only [set, hne, String.lt_asymm h, ↓reduceIte]

/-! ## Setting twice -/

/-- Of two values that are set under one name the last one counts. -/
theorem set_set (name : String) (first value : α) (named : Named α) :
    set name value (set name first named) = set name value named := by
  induction named with
  | nil => exact set_cons_self name value first []
  | cons m rest ih =>
    obtain ⟨n, v⟩ := m
    rcases Std.lt_trichotomy n name with hlt | rfl | hgt
    · rw [set_cons_of_gt hlt, set_cons_of_gt hlt, set_cons_of_gt hlt, ih]
    · rw [set_cons_self, set_cons_self, set_cons_self]
    · rw [set_cons_of_lt hgt, set_cons_of_lt hgt, set_cons_self]

theorem set_comm_of_lt {name other : String} (h : name < other) (value value' : α)
    (named : Named α) :
    set name value (set other value' named) = set other value' (set name value named) := by
  induction named with
  | nil =>
    show set name value [(other, value')] = set other value' [(name, value)]
    rw [set_cons_of_lt h, set_cons_of_gt h]
    rfl
  | cons m rest ih =>
    obtain ⟨n, v⟩ := m
    -- Where the greater name goes decides what the smaller one finds behind itself.
    rcases Std.lt_trichotomy n other with hlt | rfl | hgt
    · rw [set_cons_of_gt hlt]
      rcases Std.lt_trichotomy n name with hlt' | rfl | hgt'
      · rw [set_cons_of_gt hlt', set_cons_of_gt hlt', set_cons_of_gt hlt, ih]
      · rw [set_cons_self, set_cons_self, set_cons_of_gt h]
      · rw [set_cons_of_lt hgt', set_cons_of_lt hgt', set_cons_of_gt h, set_cons_of_gt hlt]
    · rw [set_cons_self, set_cons_of_lt h, set_cons_of_lt h, set_cons_of_gt h, set_cons_self]
    · have hname : name < n := String.lt_trans h hgt
      rw [set_cons_of_lt hgt, set_cons_of_lt h, set_cons_of_lt hname, set_cons_of_gt h,
        set_cons_of_lt hgt]

/-- Under different names it does not matter which value is set first. -/
theorem set_comm {name other : String} (h : name ≠ other) (value value' : α) (named : Named α) :
    set name value (set other value' named) = set other value' (set name value named) := by
  rcases Std.lt_trichotomy name other with hlt | heq | hgt
  · exact set_comm_of_lt hlt value value' named
  · exact absurd heq h
  · exact (set_comm_of_lt hgt value' value named).symm

theorem others_set (name : String) (value : α) (named : Named α) :
    (set name value named).others name = named.others name := by
  induction named with
  | nil => simp [set, others]
  | cons m rest ih =>
    obtain ⟨n, v⟩ := m
    rcases Std.lt_trichotomy n name with hlt | rfl | hgt
    · rw [set_cons_of_gt hlt]
      simp only [others, List.filter_cons] at ih ⊢
      rw [ih]
    · rw [set_cons_self]
      simp [others]
    · rw [set_cons_of_lt hgt]
      simp [others]

theorem mem_set {name : String} {value : α} {m : String × α} (h : m ∈ set name value named) :
    m = (name, value) ∨ m ∈ named := by
  induction named with
  | nil => exact .inl (List.mem_singleton.1 h)
  | cons first rest ih =>
    obtain ⟨n, v⟩ := first
    simp only [set] at h
    split at h
    · next hn =>
      subst hn
      exact (List.mem_cons.1 h).imp_right (List.mem_cons_of_mem _)
    · split at h
      · exact List.mem_cons.1 h
      · rcases List.mem_cons.1 h with h | h
        · exact .inr (h ▸ List.mem_cons_self)
        · exact (ih h).imp_right (List.mem_cons_of_mem _)

namespace Ordered

theorem set (h : named.Ordered) (name : String) (value : α) : (named.set name value).Ordered := by
  induction named with
  | nil => exact OrderedBy.singleton _
  | cons first rest ih =>
    obtain ⟨n, v⟩ := first
    obtain ⟨hfirst, hrest⟩ := OrderedBy.cons_iff.1 h
    simp only [Named.set]
    split
    · exact OrderedBy.cons_iff.2 ⟨hfirst, hrest⟩
    · next hne =>
      split
      · next hlt => exact OrderedBy.cons_of_lt h hlt
      · next hle =>
        refine OrderedBy.cons_iff.2 ⟨?_, ih hrest⟩
        intro m hm
        rcases mem_set hm with rfl | hm
        · exact Std.lt_of_le_of_ne (String.not_lt.1 hle) hne
        · exact hfirst m hm

theorem get?_eq_some_iff (h : named.Ordered) {name : String} {value : α} :
    named.get? name = some value ↔ (name, value) ∈ named := by
  induction named with
  | nil => simp
  | cons first rest ih =>
    obtain ⟨n, v⟩ := first
    obtain ⟨hfirst, hrest⟩ := OrderedBy.cons_iff.1 h
    rw [get?_cons, List.mem_cons, Prod.mk.injEq]
    by_cases hn : n = name
    · subst hn
      have hnotMem : (n, value) ∉ rest := fun hmem => String.lt_irrefl n (hfirst _ hmem)
      simp [hnotMem, eq_comm]
    · have hne : ¬ name = n := Ne.symm hn
      simp [hn, hne, ih hrest]

theorem ext (h : named.Ordered) (h' : named'.Ordered)
    (hget : ∀ name, named.get? name = named'.get? name) : named = named' := by
  refine OrderedBy.ext h h' ?_
  rintro ⟨name, value⟩
  rw [← h.get?_eq_some_iff, ← h'.get?_eq_some_iff, hget]

theorem get?_eq_none_of_lt {name : String} (h : named.Ordered) (hlt : ∀ m ∈ named, name < m.1) :
    named.get? name = none := by
  rw [Option.eq_none_iff_forall_ne_some]
  intro value hvalue
  exact String.lt_irrefl name (hlt _ (h.get?_eq_some_iff.1 hvalue))

/-- What is added to the list under a name is added to what all lists hold. -/
theorem perm_set_concat {lists : Named (List α)} (h : lists.Ordered) (name : String) (a : α) :
    ((lists.set name ((lists.get? name).getD [] ++ [a])).flatMap fun (_, l) => l).Perm
      (a :: lists.flatMap fun (_, l) => l) := by
  induction lists with
  | nil => exact List.Perm.refl _
  | cons first rest ih =>
    obtain ⟨n, l⟩ := first
    obtain ⟨hfirst, hrest⟩ := OrderedBy.cons_iff.1 h
    rcases Std.lt_trichotomy n name with hlt | rfl | hgt
    · have hne : n ≠ name := fun heq => String.lt_irrefl name (heq ▸ hlt)
      rw [get?_cons, if_neg hne, set_cons_of_gt hlt, List.flatMap_cons, List.flatMap_cons]
      exact ((ih hrest).append_left l).trans List.perm_middle
    · rw [get?_cons, if_pos rfl, set_cons_self, List.flatMap_cons, List.flatMap_cons,
        Option.getD_some, List.append_assoc]
      exact List.perm_middle
    · have hnone : get? name ((n, l) :: rest) = none := by
        refine h.get?_eq_none_of_lt fun m hm => ?_
        rcases List.mem_cons.1 hm with rfl | hm
        · exact hgt
        · exact String.lt_trans hgt (hfirst m hm)
      rw [hnone, set_cons_of_lt hgt, List.flatMap_cons]
      exact List.Perm.refl _

end Ordered

/-! ## What is put in order -/

theorem set_perm_cons {name : String} (h : name ∉ named.names) (value : α) :
    (set name value named).Perm ((name, value) :: named) := by
  induction named with
  | nil => exact List.Perm.refl _
  | cons m rest ih =>
    obtain ⟨n, v⟩ := m
    rw [names, List.map_cons, List.mem_cons, not_or] at h
    obtain ⟨hne, hrest⟩ := h
    rcases Std.lt_trichotomy n name with hlt | heq | hgt
    · rw [set_cons_of_gt hlt]
      exact ((ih hrest).cons (n, v)).trans (List.Perm.swap _ _ rest)
    · exact absurd heq.symm hne
    · rw [set_cons_of_lt hgt]

/-- Putting values in order loses none of them, unless two stand under one name. -/
theorem ofList_perm {entries : List (String × α)} (h : (entries.map Prod.fst).Nodup) :
    (ofList entries).Perm entries := by
  induction entries using List.reverseRecOn with
  | nil => exact List.Perm.refl _
  | append_singleton entries m ih =>
    rw [List.map_append, List.nodup_append_comm, List.nodup_append] at h
    obtain ⟨-, hentries, hnew⟩ := h
    have hperm := ih hentries
    have hname : m.1 ∉ (ofList entries).names := by
      intro hmem
      exact hnew m.1 (by simp) m.1 ((hperm.map Prod.fst).mem_iff.1 hmem) rfl
    have hset : ofList (entries ++ [m]) = set m.1 m.2 (ofList entries) :=
      List.foldl_append
    rw [hset]
    exact (set_perm_cons hname m.2).trans ((hperm.cons m).trans
      (List.perm_append_singleton m entries).symm)

end Named

end DeviceIdentity
