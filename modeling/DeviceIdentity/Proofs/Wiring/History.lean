import Mathlib.Data.Finset.Card
import Mathlib.Data.List.Sigma
import DeviceIdentity.Proofs.Wiring.Caching

/-!
# What was provided

A container answers by its history: the instances that were provided, in their order, whether each
on its own or several as one set. For each key the last one counts, and a key is missing as long as
the history has no instance for it. That a container `Reflects` its history is kept by every
provision, and so by every operation of a session, which adds its `provisions` to the history.
-/
namespace DeviceIdentity.Wiring

variable {κ υ : Type} {β : κ → Type} {needs : υ → List κ}

/-- There are as many entries as keys, if no key comes twice. -/
theorem Table.length_eq_card {κ α : Type} [DecidableEq κ] {t : Table κ α} {keys : List κ}
    (h : t.keys.Nodup) (hkeys : ∀ key, key ∈ t.keys ↔ key ∈ keys) :
    t.length = keys.toFinset.card := by
  have heq : t.keys.toFinset = keys.toFinset := by
    ext key
    rw [List.mem_toFinset, List.mem_toFinset, hkeys]
  calc t.length = t.keys.length := (List.length_map _).symm
    _ = t.keys.toFinset.card := (List.toFinset_card_of_nodup h).symm
    _ = keys.toFinset.card := by rw [heq]

/-! ## Histories -/

/-- Instances with their keys, in the order in which they were provided. -/
abbrev History (β : κ → Type) := List (Σ key, Instance (β key))

namespace History

/-- The instance is the one that was provided last for the key. -/
def IsLast (history : History β) (key : κ) (i : Instance (β key)) : Prop :=
  ∃ before after, history = before ++ ⟨key, i⟩ :: after ∧ key ∉ after.keys

theorem not_isLast_nil {key : κ} {i : Instance (β key)} : ¬ IsLast ([] : History β) key i := by
  rintro ⟨before, after, h, -⟩
  simp at h

theorem isLast_concat_iff {history : History β} {e : Σ key, Instance (β key)} {key : κ}
    {i : Instance (β key)} :
    IsLast (history ++ [e]) key i ↔ e = ⟨key, i⟩ ∨ e.1 ≠ key ∧ IsLast history key i := by
  constructor
  · rintro ⟨before, after, h, hkey⟩
    obtain rfl | ⟨rest, last, rfl⟩ := List.eq_nil_or_concat after
    · exact .inl (List.singleton_inj.1 (List.append_inj' h rfl).2)
    · rw [List.concat_eq_append, ← List.cons_append, ← List.append_assoc] at h
      obtain ⟨hhistory, hlast⟩ := List.append_inj' h rfl
      cases List.singleton_inj.1 hlast
      simp only [List.concat_eq_append, List.keys_append, List.mem_append, not_or] at hkey
      refine .inr ⟨?_, before, rest, hhistory, hkey.1⟩
      simpa [eq_comm] using hkey.2
  · rintro (rfl | ⟨hne, before, after, rfl, hkey⟩)
    · exact ⟨history, [], rfl, List.not_mem_nil⟩
    · refine ⟨before, after ++ [e], by simp, ?_⟩
      simp [hkey, Ne.symm hne]

/-- A key was provided for if and only if some instance was the last one. -/
theorem exists_isLast_iff {history : History β} {key : κ} :
    (∃ i, IsLast history key i) ↔ key ∈ history.keys := by
  induction history using List.reverseRecOn with
  | nil => simp [not_isLast_nil]
  | append_singleton history e ih =>
    simp only [isLast_concat_iff, List.keys_append, List.mem_append, List.keys_cons, List.keys_nil,
      List.mem_singleton]
    constructor
    · rintro ⟨i, rfl | ⟨-, hi⟩⟩
      · exact .inr rfl
      · exact .inl (ih.1 ⟨i, hi⟩)
    · intro hkey
      by_cases he : e.1 = key
      · subst he
        exact ⟨e.2, .inl rfl⟩
      · obtain ⟨i, hi⟩ := ih.2 (hkey.resolve_right (Ne.symm he))
        exact ⟨i, .inr ⟨he, hi⟩⟩

variable [DecidableEq κ]

/-- What the log tells when these instances are provided, after those for the keys `seen`: each one
replaces another if its key was provided for before. -/
def announced (seen : List κ) : History β → List (Event κ υ)
  | [] => []
  | e :: rest => .provided e.1 (decide (e.1 ∈ seen)) :: announced (seen ++ [e.1]) rest

theorem announced_append (seen : List κ) (history history' : History β) :
    (announced seen (history ++ history') : List (Event κ υ)) =
      announced seen history ++ announced (seen ++ history.keys) history' := by
  induction history generalizing seen with
  | nil => simp [announced]
  | cons e rest ih => simp [announced, ih]

end History

/-! ## Containers and their history -/

namespace Container

variable [DecidableEq κ] {history : History β} {c : Container κ β}

theorem contains_iff_mem_keys (c : Container κ β) (key : κ) :
    c.contains key = true ↔ key ∈ c.entries.keys :=
  Table.isSome_get?_iff

theorem contains_provide_iff {key other : κ} {i : Instance (β key)} :
    (c.provide i).contains other = true ↔ other = key ∨ c.contains other = true := by
  rw [contains_iff_mem_keys, contains_iff_mem_keys]
  exact Table.mem_keys_set_iff

/-- The container holds what was provided last for each key, under its own type, and has no key
twice. -/
structure Reflects (history : History β) (c : Container κ β) : Prop where
  get?_eq_some_iff : ∀ key i, c.get? key = some i ↔ history.IsLast key i
  typed : c.entries.WellTyped
  nodup_keys : c.entries.keys.Nodup

theorem reflects_empty : Reflects [] (empty : Container κ β) where
  get?_eq_some_iff _ _ := iff_of_false nofun History.not_isLast_nil
  typed := Table.wellTyped_nil
  nodup_keys := List.nodup_nil

namespace Reflects

/-- Issuing instances is not part of the history. -/
theorem congr {c' : Container κ β} (h : Reflects history c) (hentries : c'.entries = c.entries) :
    Reflects history c' where
  get?_eq_some_iff := by
    intro key i
    rw [get?, hentries]
    exact h.get?_eq_some_iff key i
  typed := hentries ▸ h.typed
  nodup_keys := hentries ▸ h.nodup_keys

theorem provide (h : Reflects history c) (e : Σ key, Instance (β key)) :
    Reflects (history ++ [e]) (c.provide e.2) where
  get?_eq_some_iff := by
    obtain ⟨key, i⟩ := e
    intro other j
    rw [History.isLast_concat_iff]
    by_cases hkey : other = key
    · subst hkey
      simp
    · simp [get?_provide_of_ne hkey, h.get?_eq_some_iff, Ne.symm hkey]
  typed := h.typed.set e.1 e.2
  nodup_keys := Table.nodup_keys_set h.nodup_keys _ _

theorem provideSet (h : Reflects history c) (set : History β) :
    Reflects (history ++ set) (c.provideSet set) := by
  induction set generalizing history c with
  | nil => simpa [Container.provideSet] using h
  | cons e rest ih =>
    rw [List.append_cons]
    exact ih (h.provide e)

theorem contains_iff (h : Reflects history c) (key : κ) :
    c.contains key = true ↔ key ∈ history.keys := by
  rw [← isSome_get? h.typed]
  simp only [Option.isSome_iff_exists, h.get?_eq_some_iff, History.exists_isLast_iff]

theorem get?_eq_none_iff (h : Reflects history c) (key : κ) :
    c.get? key = none ↔ key ∉ history.keys := by
  rw [← h.contains_iff, ← isSome_get? h.typed, Option.not_isSome_iff_eq_none]

end Reflects

/-- A container that answers by its history: with the very instance that was provided last for a
key, or with the first key that nothing was provided for. -/
structure LastWriteWins (history : History β) (c : Container κ β) : Prop where
  resolve_eq_ok_iff : ∀ key i, c.resolve key = .ok i ↔ history.IsLast key i
  resolve_eq_error_iff : ∀ key fault,
    c.resolve key = .error fault ↔ key ∉ history.keys ∧ fault = .missing key
  /-- Several keys are resolved one by one, up to the first that fails. -/
  resolveSet_eq : ∀ keys, (c.resolveSet keys).map Resolved.toList =
    keys.mapM fun key => (c.resolve key).map (Sigma.mk key)
  contains_iff : ∀ key, c.contains key = true ↔ key ∈ history.keys
  size_eq : c.size = history.keys.toFinset.card

theorem Reflects.resolve_eq_error_iff (h : Reflects history c) {key : κ} {fault : Fault κ} :
    c.resolve key = .error fault ↔ key ∉ history.keys ∧ fault = .missing key := by
  rw [resolve_eq h.typed, ← h.get?_eq_none_iff]
  cases c.get? key <;> simp [eq_comm]

theorem map_toList_resolveSet (c : Container κ β) (keys : List κ) :
    (c.resolveSet keys).map Resolved.toList =
      keys.mapM fun key => (c.resolve key).map (Sigma.mk key) := by
  induction keys with
  | nil => rfl
  | cons key keys ih =>
    rw [List.mapM_cons, ← ih, resolveSet]
    cases c.resolve key with
    | error fault => rfl
    | ok i => cases c.resolveSet keys <;> rfl

theorem Reflects.lastWriteWins (h : Reflects history c) : LastWriteWins history c where
  resolve_eq_ok_iff _ _ := resolve_eq_ok_iff.trans (h.get?_eq_some_iff _ _)
  resolve_eq_error_iff _ _ := h.resolve_eq_error_iff
  resolveSet_eq := map_toList_resolveSet c
  contains_iff := h.contains_iff
  size_eq := by
    refine Table.length_eq_card h.nodup_keys fun key => ?_
    rw [← contains_iff_mem_keys, h.contains_iff]

/-! ### Sets -/

omit [DecidableEq κ] in
theorem entries_issueSet (c : Container κ β) (values : List (Σ key, β key)) :
    (c.issueSet values).2.entries = c.entries := by
  induction values generalizing c with
  | nil => rfl
  | cons v rest ih => exact ih _

/-- Issuing instances does not depend on what is provided. -/
theorem issueSet_provide (c : Container κ β) {key : κ} (i : Instance (β key))
    (values : List (Σ key, β key)) :
    (c.provide i).issueSet values = ((c.issueSet values).1, (c.issueSet values).2.provide i) := by
  induction values generalizing c with
  | nil => rfl
  | cons v rest ih =>
    have hrest := ih (c.issue v.2).2
    exact congrArg (fun issued => (⟨v.1, (c.issue v.2).1⟩ :: issued.1, issued.2)) hrest

end Container

namespace Registry

variable [DecidableEq κ]

theorem container_provideSet (r : Registry κ υ β needs) (set : History β) :
    (r.provideSet set).value.container = r.container.provideSet set := by
  induction set generalizing r with
  | nil => rfl
  | cons e rest ih => exact ih _

/-- New instances are provided as one set like one after the other. -/
theorem provideNewSet_cons (r : Registry κ υ β needs) (v : Σ key, β key)
    (rest : List (Σ key, β key)) :
    r.provideNewSet (v :: rest) = r.provideNew v.1 v.2 >>= fun x => x.2.provideNewSet rest := by
  have hissue := Container.issueSet_provide (r.container.issue v.2).2 (r.container.issue v.2).1 rest
  have hcontains : ((r.container.issue v.2).2.issueSet rest).2.contains v.1 =
      (r.container.issue v.2).2.contains v.1 := by
    unfold Container.contains
    rw [Container.entries_issueSet]
  simp only [provideNewSet, provideNew, Container.issueSet, provideSet, provide, hcontains]
  simp only [bind, pure]
  rw [hissue]
  rfl

theorem notes_provide {r : Registry κ υ β needs} {history : History β}
    (h : r.container.Reflects history) (e : Σ key, Instance (β key)) :
    (r.provide e.2).notes = History.announced history.keys [e] := by
  have hcontains : r.container.contains e.1 = decide (e.1 ∈ history.keys) := by
    rw [Bool.eq_iff_iff, h.contains_iff, decide_eq_true_iff]
  rw [History.announced, ← hcontains]
  rfl

theorem notes_provideSet {r : Registry κ υ β needs} {history : History β}
    (h : r.container.Reflects history) (set : History β) :
    (r.provideSet set).notes = History.announced history.keys set := by
  induction set generalizing r history with
  | nil => rfl
  | cons e rest ih =>
    have hrest := ih (r := (r.provide e.2).value) (h.provide e)
    calc (r.provideSet (e :: rest)).notes
      _ = (r.provide e.2).notes ++ ((r.provide e.2).value.provideSet rest).notes := rfl
      _ = History.announced history.keys [e] ++ History.announced (history ++ [e]).keys rest := by
        rw [notes_provide h, hrest]
      _ = History.announced history.keys (e :: rest) := by
        rw [List.keys_append]
        rfl

end Registry

/-! ## Sessions -/

/-- The event tells that an instance was provided. -/
def Event.isProvided : Event κ υ → Bool
  | provided _ _ => true
  | building _ _ => false

theorem History.filter_announced [DecidableEq κ] (seen : List κ) (history : History β) :
    (announced seen history : List (Event κ υ)).filter Event.isProvided =
      announced seen history := by
  induction history generalizing seen with
  | nil => rfl
  | cons e rest ih => exact congrArg _ (ih _)

namespace Session

variable [DecidableEq κ] [DecidableEq υ] {s : Session κ υ β needs} {history : History β}

/-- The instances that an operation provides, in their order. -/
def provisions (s : Session κ υ β needs) : Operation β υ → History β
  | .provide key value _ => [⟨key, (s.registry.container.issue value).1⟩]
  | .provideSlot slot => (s.slots.get? slot).toList
  | .provideSet values => (s.registry.container.issueSet values).1
  | .provideSlots slots => slots.filterMap s.slots.get?
  | .make _ _ _ | .get _ | .clear => []

/-- The instances that several operations provide. -/
def provisionsOf (s : Session κ υ β needs) : List (Operation β υ) → History β
  | [] => []
  | op :: ops => s.provisions op ++ provisionsOf (s.perform op).value.2 ops

theorem reflects_perform (h : s.registry.container.Reflects history) (op : Operation β υ) :
    (s.perform op).value.2.registry.container.Reflects (history ++ s.provisions op) := by
  cases op with
  | provide key value slot =>
    have hissued : (s.registry.container.issue value).2.Reflects history := h.congr rfl
    exact hissued.provide ⟨key, _⟩
  | provideSlot slot =>
    simp only [perform, provisions]
    cases s.slots.get? slot with
    | none => simpa using h
    | some e => exact h.provide e
  | provideSet values =>
    have hissued := h.congr (Container.entries_issueSet s.registry.container values)
    simpa only [perform, provisions, Registry.provideNewSet, Noted.value_bind, Noted.value_pure,
      Registry.container_provideSet] using hissued.provideSet _
  | make key value slot =>
    have hissued : (s.registry.container.issue value).2.Reflects history := h.congr rfl
    rw [provisions, List.append_nil]
    exact hissued
  | provideSlots slots =>
    simpa only [perform, provisions, Noted.value_bind, Noted.value_pure,
      Registry.container_provideSet] using h.provideSet _
  | get u =>
    simpa only [registry_perform_get, Registry.container_get, provisions, List.append_nil] using h
  | clear =>
    rw [provisions, List.append_nil]
    exact h

theorem reflects_run (h : s.registry.container.Reflects history) (ops : List (Operation β υ)) :
    (s.run ops).value.2.registry.container.Reflects (history ++ s.provisionsOf ops) := by
  induction ops generalizing s history with
  | nil =>
    rw [provisionsOf, List.append_nil]
    exact h
  | cons op ops ih =>
    have hrest := ih (reflects_perform h op)
    rwa [List.append_assoc] at hrest

/-- What an operation logs of the instances that it provides. -/
theorem filter_notes_perform (h : s.registry.container.Reflects history) (op : Operation β υ) :
    (s.perform op).notes.filter Event.isProvided =
      History.announced history.keys (s.provisions op) := by
  cases op with
  | provide key value slot =>
    have hissued : (s.registry.container.issue value).2.Reflects history := h.congr rfl
    simp only [perform, provisions, Registry.provideNew, bind_pure_comp, Noted.notes_map]
    rw [Registry.notes_provide hissued ⟨key, _⟩]
    exact History.filter_announced _ _
  | provideSlot slot =>
    simp only [perform, provisions]
    cases s.slots.get? slot with
    | none => rfl
    | some e =>
      simp only [bind_pure_comp, Noted.notes_map, Option.toList_some]
      rw [Registry.notes_provide h, History.filter_announced]
  | provideSet values =>
    have hissued := h.congr (Container.entries_issueSet s.registry.container values)
    simp only [perform, provisions, Registry.provideNewSet, bind_pure_comp, Noted.notes_map]
    rw [Registry.notes_provideSet hissued, History.filter_announced]
  | make key value slot => rfl
  | provideSlots slots =>
    simp only [perform, provisions, bind_pure_comp, Noted.notes_map]
    rw [Registry.notes_provideSet h, History.filter_announced]
  | get u =>
    rw [notes_perform_get]
    obtain ⟨fault, -, hget⟩ | ⟨b, d, -, -, -, hget⟩ | ⟨d, -, -, hget⟩ :=
      Registry.get_cases s.registry u <;> rw [hget] <;> rfl
  | clear => rfl

theorem filter_notes_run (h : s.registry.container.Reflects history) (ops : List (Operation β υ)) :
    (s.run ops).notes.filter Event.isProvided =
      History.announced history.keys (s.provisionsOf ops) := by
  induction ops generalizing s history with
  | nil => rfl
  | cons op ops ih =>
    calc (s.run (op :: ops)).notes.filter Event.isProvided
      _ = (s.perform op).notes.filter Event.isProvided ++
          ((s.perform op).value.2.run ops).notes.filter Event.isProvided := by
        simp only [run, bind_pure_comp, Noted.notes_bind, Noted.notes_map, List.filter_append]
      _ = History.announced history.keys (s.provisions op) ++
          History.announced (history ++ s.provisions op).keys
            ((s.perform op).value.2.provisionsOf ops) := by
        rw [filter_notes_perform h, ih (reflects_perform h op)]
      _ = History.announced history.keys (s.provisionsOf (op :: ops)) := by
        rw [provisionsOf, History.announced_append, List.keys_append]

/-! ### Sets -/

theorem snd_run_cons (s : Session κ υ β needs) (op : Operation β υ) (ops : List (Operation β υ)) :
    Prod.snd <$> s.run (op :: ops) = s.perform op >>= fun x => Prod.snd <$> x.2.run ops := by
  simp [run]

/-- Instances in slots are provided as one set like one after the other. -/
theorem snd_perform_provideSlots (s : Session κ υ β needs) (slots : List String) :
    Prod.snd <$> s.perform (.provideSlots slots) =
      Prod.snd <$> s.run (slots.map .provideSlot) := by
  induction slots generalizing s with
  | nil => rfl
  | cons slot slots ih =>
    rw [List.map_cons, snd_run_cons]
    simp only [← ih]
    cases hslot : s.slots.get? slot with
    | none => simp [perform, hslot]
    | some e => simp [perform, hslot, Registry.provideSet]

/-- New instances are provided as one set like one after the other. -/
theorem snd_perform_provideSet (s : Session κ υ β needs) (values : List (Σ key, β key)) :
    Prod.snd <$> s.perform (.provideSet values) =
      Prod.snd <$> s.run (values.map fun v => .provide v.1 v.2 none) := by
  induction values generalizing s with
  | nil => rfl
  | cons v rest ih =>
    rw [List.map_cons, snd_run_cons]
    simp only [← ih]
    simp [perform, Registry.provideNewSet_cons]

/-! ## The law of provisions -/

/-- The instances that operations provide from the beginning on. -/
def provided (needs : υ → List κ) (ops : List (Operation β υ)) : History β :=
  (start : Session κ υ β needs).provisionsOf ops

omit [DecidableEq υ] in
theorem reflects_start : (start : Session κ υ β needs).registry.container.Reflects [] :=
  Container.reflects_empty

theorem reflects_after (ops : List (Operation β υ)) :
    (after needs ops).registry.container.Reflects (provided needs ops) :=
  reflects_run reflects_start ops

/-- After any operations the container answers by what was provided: for each key with the very
instance that was provided last. The log tells of every provision, and whether something had been
provided for its key before. Several instances that are provided as one set leave the same session
behind and the same log as if they were provided one after the other. -/
theorem lastWriteWins_after (ops : List (Operation β υ)) :
    (after needs ops).registry.container.LastWriteWins (provided needs ops) ∧
    ((start : Session κ υ β needs).run ops).notes.filter Event.isProvided =
      History.announced [] (provided needs ops) ∧
    (∀ slots, Prod.snd <$> (after needs ops).perform (.provideSlots slots) =
      Prod.snd <$> (after needs ops).run (slots.map .provideSlot)) ∧
    (∀ values, Prod.snd <$> (after needs ops).perform (.provideSet values) =
      Prod.snd <$> (after needs ops).run (values.map fun v => .provide v.1 v.2 none)) := by
  refine ⟨(reflects_after ops).lastWriteWins, ?_, ?_, ?_⟩
  · exact filter_notes_run reflects_start ops
  · exact snd_perform_provideSlots _
  · exact snd_perform_provideSet _

/-- Of a set that names a key twice, the later instance counts. -/
example :
    ((after (fun _ : Unit => []) [.provideSet [⟨true, 1⟩, ⟨false, 2⟩, ⟨true, 3⟩]] :
        Session Bool Unit (fun _ => Nat) _).registry.container.resolve true) = .ok ⟨2, 3⟩ :=
  rfl

end Session

end DeviceIdentity.Wiring
