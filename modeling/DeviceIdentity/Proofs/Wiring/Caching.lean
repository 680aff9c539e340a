import Mathlib.Data.List.Induction
import DeviceIdentity.Proofs.Wiring.Identity
import DeviceIdentity.Wiring.Session

/-!
# What is kept

When a use case that is asked for again is the one that was handed out before. The operations of a
session change what is kept of a use case in three ways only: a successful get of this use case, a
get of it that builds it anew, and clearing. So what is kept was handed out by the last successful
get, and it is handed out again as long as each of its dependencies is the same instance.
-/
namespace DeviceIdentity.Wiring.Session

variable {κ υ : Type} {β : κ → Type} {needs : υ → List κ} [DecidableEq κ] [DecidableEq υ]

/-! ## Runs -/

theorem run_append (s : Session κ υ β needs) (ops ops' : List (Operation β υ)) :
    (s.run (ops ++ ops')).value.2 = ((s.run ops).value.2.run ops').value.2 := by
  induction ops generalizing s with
  | nil => rfl
  | cons op ops ih => exact ih _

/-- What operations lead to from the beginning. -/
def after (needs : υ → List κ) (ops : List (Operation β υ)) : Session κ υ β needs :=
  (start.run ops).value.2

/-- What asking for a use case answers after some operations. -/
def had (needs : υ → List κ) (ops : List (Operation β υ)) (u : υ) :
    Except (Failure κ υ) (Built β (needs u)) :=
  ((after needs ops).registry.get u).value.1

theorem after_append (ops ops' : List (Operation β υ)) :
    after needs (ops ++ ops') = ((after needs ops).run ops').value.2 :=
  run_append start ops ops'

theorem after_append_cons (ops : List (Operation β υ)) (op : Operation β υ)
    (ops' : List (Operation β υ)) :
    after needs (ops ++ op :: ops') =
      ((((after needs ops).perform op).value.2).run ops').value.2 :=
  run_append start ops (op :: ops')

@[simp] theorem registry_perform_get (s : Session κ υ β needs) (u : υ) :
    (s.perform (.get u)).value.2.registry = (s.registry.get u).value.2 := rfl

@[simp] theorem notes_perform_get (s : Session κ υ β needs) (u : υ) :
    (s.perform (.get u)).notes = (s.registry.get u).notes := by
  simp [perform]

/-! ## Instances in a session -/

/-- The instances that are kept in slots. -/
def handles (s : Session κ υ β needs) : Set (Σ key, Instance (β key)) :=
  {e | ∃ name, s.slots.get? name = some e}

/-- All instances of the session were issued under numbers of their own. -/
def Tracked (s : Session κ υ β needs) : Prop := s.registry.Tracked s.handles

omit [DecidableEq κ] [DecidableEq υ] in
theorem handles_set_subset (slots : Named (Σ key, Instance (β key))) (name : String)
    (e : Σ key, Instance (β key)) :
    {e' | ∃ n, (slots.set name e).get? n = some e'} ⊆
      insert e {e' | ∃ n, slots.get? n = some e'} := by
  rintro e' ⟨n, hn⟩
  by_cases hname : n = name
  · subst hname
    rw [Named.get?_set_self, Option.some.injEq] at hn
    exact .inl hn.symm
  · rw [Named.get?_set_of_ne hname] at hn
    exact .inr ⟨n, hn⟩

theorem Tracked.perform {s : Session κ υ β needs} (h : s.Tracked) (op : Operation β υ) :
    (s.perform op).value.2.Tracked := by
  cases op with
  | provide key value slot =>
    have hnew := Registry.Tracked.provideNew h value
    cases slot with
    | none => exact hnew.mono (Set.subset_insert _ _)
    | some name => exact hnew.mono (handles_set_subset _ _ _)
  | provideSlot slot =>
    cases hslot : s.slots.get? slot with
    | none =>
      simp only [Session.perform, hslot]
      exact h
    | some e =>
      simp only [Session.perform, hslot]
      exact Registry.Tracked.provide h ⟨slot, hslot⟩
  | provideSet values => exact Registry.Tracked.provideNewSet h values
  | make key value slot =>
    exact (Registry.Tracked.issue h value).mono (handles_set_subset _ _ _)
  | provideSlots slots =>
    refine Registry.Tracked.provideSet h ?_
    intro e he
    obtain ⟨slot, -, hslot⟩ := List.mem_filterMap.1 he
    exact ⟨slot, hslot⟩
  | get u => exact Registry.Tracked.get h u
  | clear => exact Registry.Tracked.clear h

theorem Tracked.run {s : Session κ υ β needs} (h : s.Tracked) (ops : List (Operation β υ)) :
    (s.run ops).value.2.Tracked := by
  induction ops generalizing s with
  | nil => exact h
  | cons op ops ih => exact ih (h.perform op)

theorem tracked_after (ops : List (Operation β υ)) : (after needs ops).Tracked := by
  refine Tracked.run ?_ ops
  refine Registry.tracked_empty.mono ?_
  rintro e ⟨name, hname⟩
  cases hname

/-! ## What happens to a kept use case -/

/-- Only a get and clearing touch what is kept. -/
theorem kept_perform (s : Session κ υ β needs) {op : Operation β υ} (hget : ∀ u, op ≠ .get u)
    (hclear : op ≠ .clear) :
    (s.perform op).value.2.registry.cache = s.registry.cache ∧
      (s.perform op).value.2.registry.built = s.registry.built := by
  cases op with
  | provide key value slot => exact ⟨rfl, rfl⟩
  | provideSlot slot =>
    simp only [perform]
    cases s.slots.get? slot with
    | none => exact ⟨rfl, rfl⟩
    | some e => exact ⟨rfl, rfl⟩
  | provideSet values => exact Registry.kept_provideSet _ _
  | make key value slot => exact ⟨rfl, rfl⟩
  | provideSlots slots => exact Registry.kept_provideSet _ _
  | get u => exact absurd rfl (hget u)
  | clear => exact absurd rfl hclear

theorem built_le_perform (s : Session κ υ β needs) (op : Operation β υ) :
    s.registry.built ≤ (s.perform op).value.2.registry.built := by
  by_cases hget : ∃ u, op = .get u
  · obtain ⟨u, rfl⟩ := hget
    exact Registry.built_le_get _ _
  by_cases hclear : op = .clear
  · subst hclear
    exact Nat.le_refl _
  exact Nat.le_of_eq (kept_perform s (fun u h => hget ⟨u, h⟩) hclear).2.symm

theorem built_le_run (s : Session κ υ β needs) (ops : List (Operation β υ)) :
    s.registry.built ≤ (s.run ops).value.2.registry.built := by
  induction ops generalizing s with
  | nil => exact Nat.le_refl _
  | cons op ops ih => exact Nat.le_trans (built_le_perform s op) (ih _)

/-- No use case is handed out twice under different numbers, or under the number of another. -/
theorem number_lt_of_had {before between : List (Operation β υ)} {u : υ} {b : Built β (needs u)}
    (h : had needs before u = .ok b) :
    b.number < (after needs (before ++ .get u :: between)).registry.built := by
  rw [after_append_cons]
  have hget : b.number < ((after needs before).perform (.get u)).value.2.registry.built :=
    Registry.Tracked.number_lt_of_get (tracked_after before) h
  exact Nat.lt_of_lt_of_le hget (built_le_run _ _)

/-- No get of the use case succeeds in the course of these operations. -/
def NeverHad (s : Session κ υ β needs) (u : υ) (ops : List (Operation β υ)) : Prop :=
  ∀ mid rest, ops = mid ++ .get u :: rest →
    ∀ b, ((s.run mid).value.2.registry.get u).value.1 ≠ .ok b

theorem NeverHad.nil {s : Session κ υ β needs} {u : υ} : s.NeverHad u [] :=
  fun _ _ h => absurd h (by simp)

theorem NeverHad.tail {s : Session κ υ β needs} {u : υ} {op : Operation β υ}
    {ops : List (Operation β υ)} (h : s.NeverHad u (op :: ops)) :
    (s.perform op).value.2.NeverHad u ops :=
  fun mid rest hops => h (op :: mid) rest (by rw [hops, List.cons_append])

/-- Without a successful get of the use case, what is kept of it stays, unless all is cleared. -/
theorem NeverHad.kept?_perform {s : Session κ υ β needs} {u : υ} {op : Operation β υ}
    {ops : List (Operation β υ)} (h : s.NeverHad u (op :: ops)) (hclear : op ≠ .clear) :
    (s.perform op).value.2.registry.kept? u = s.registry.kept? u := by
  by_cases hget : ∃ u', op = .get u'
  · obtain ⟨u', rfl⟩ := hget
    by_cases hu : u = u'
    · subst hu
      have hfails : ∀ b, (s.registry.get u).value.1 ≠ .ok b := h [] ops rfl
      rw [registry_perform_get, Registry.get_eq_of_error hfails]
    · exact Registry.kept?_get_of_ne hu _
  · unfold Registry.kept?
    rw [(kept_perform s (fun u' h => hget ⟨u', h⟩) hclear).1]

theorem NeverHad.kept?_run {s : Session κ υ β needs} {u : υ} {ops : List (Operation β υ)}
    (h : s.NeverHad u ops) :
    (.clear ∉ ops → (s.run ops).value.2.registry.kept? u = s.registry.kept? u) ∧
      (.clear ∈ ops ∨ s.registry.kept? u = none →
        (s.run ops).value.2.registry.kept? u = none) := by
  induction ops generalizing s with
  | nil => exact ⟨fun _ => rfl, fun h => h.resolve_left List.not_mem_nil⟩
  | cons op ops ih =>
    obtain ⟨ihkept, ihnone⟩ := ih h.tail
    refine ⟨?_, ?_⟩
    · intro hclear
      rw [List.mem_cons, not_or] at hclear
      exact (ihkept hclear.2).trans (h.kept?_perform (Ne.symm hclear.1))
    · intro hclear
      by_cases hop : op = .clear
      · subst hop
        exact ihnone (.inr rfl)
      · refine ihnone (hclear.imp (fun hmem => ?_) fun hnone => ?_)
        · exact (List.mem_cons.1 hmem).resolve_left (Ne.symm hop)
        · rw [h.kept?_perform hop, hnone]

/-! ## The last get -/

/-- A use case was handed out after the operations `before`, and not once more in the course of the
operations `between` that followed the get. -/
structure LastHad (needs : υ → List κ) (u : υ) (before between : List (Operation β υ))
    (b : Built β (needs u)) : Prop where
  answered : had needs before u = .ok b
  neverHad : (((after needs before).perform (.get u)).value.2).NeverHad u between

/-- The use case is the one that the last successful get in these operations handed out. -/
def HandedOut (needs : υ → List κ) (ops : List (Operation β υ)) (u : υ) (b : Built β (needs u)) :
    Prop :=
  ∃ before between, ops = before ++ .get u :: between ∧ LastHad needs u before between b

theorem LastHad.kept? {u : υ} {before between : List (Operation β υ)} {b : Built β (needs u)}
    (h : LastHad needs u before between b) :
    (.clear ∉ between →
        (after needs (before ++ .get u :: between)).registry.kept? u = some b) ∧
      (.clear ∈ between →
        (after needs (before ++ .get u :: between)).registry.kept? u = none) := by
  rw [after_append_cons]
  obtain ⟨hkept, hnone⟩ := h.neverHad.kept?_run
  exact ⟨fun hclear => (hkept hclear).trans (Registry.kept?_get_self h.answered),
    fun hclear => hnone (.inl hclear)⟩

theorem NeverHad.append_singleton {s : Session κ υ β needs} {u : υ} {op : Operation β υ}
    {ops : List (Operation β υ)} (h : s.NeverHad u ops)
    (hop : op = .get u → ∀ b, ((s.run ops).value.2.registry.get u).value.1 ≠ .ok b) :
    s.NeverHad u (ops ++ [op]) := by
  intro mid rest heq
  obtain rfl | ⟨rest, last, rfl⟩ := List.eq_nil_or_concat rest
  · obtain ⟨rfl, hlast⟩ := List.append_inj' heq rfl
    exact hop (List.singleton_inj.1 hlast)
  · rw [List.concat_eq_append, ← List.cons_append, ← List.append_assoc] at heq
    exact h mid rest (List.append_inj' heq rfl).1

/-- Whatever is kept of a use case was handed out by the last successful get of it. -/
theorem handedOut_of_kept? {ops : List (Operation β υ)} {u : υ} {b : Built β (needs u)}
    (h : (after needs ops).registry.kept? u = some b) : HandedOut needs ops u b := by
  induction ops using List.reverseRecOn with
  | nil => cases h
  | append_singleton ops op ih =>
    have hafter : after needs (ops ++ [op]) = ((after needs ops).perform op).value.2 :=
      after_append ops [op]
    by_cases hget : op = .get u ∧ ∃ b', had needs ops u = .ok b'
    · -- The use case was handed out just now.
      obtain ⟨rfl, b', hb'⟩ := hget
      rw [hafter, registry_perform_get, Registry.kept?_get_self hb', Option.some.injEq] at h
      subst h
      exact ⟨ops, [], rfl, hb', NeverHad.nil⟩
    · have hfails : op = .get u → ∀ b', had needs ops u ≠ .ok b' :=
        fun hop b' hb' => hget ⟨hop, b', hb'⟩
      have hsince : (after needs ops).NeverHad u [op] := NeverHad.nil.append_singleton hfails
      have hclear : op ≠ .clear := by
        rintro rfl
        rw [hafter] at h
        cases h
      rw [hafter, hsince.kept?_perform hclear] at h
      obtain ⟨before, between, rfl, hlast⟩ := ih h
      refine ⟨before, between ++ [op], by simp, hlast.answered, ?_⟩
      refine hlast.neverHad.append_singleton fun hop b' => ?_
      rw [← after_append_cons]
      exact hfails hop b'

/-- A get that hands out nothing that was kept builds, under a number that is new. -/
theorem had_cases {ops : List (Operation β υ)} {u : υ} {b : Built β (needs u)}
    (hb : had needs ops u = .ok b) :
    (after needs ops).registry.kept? u = some b ∧
        ((after needs ops).perform (.get u)).notes = [] ∨
      b.number = (after needs ops).registry.built ∧
        ((after needs ops).perform (.get u)).notes = [.building u (needs u).length] := by
  rw [notes_perform_get]
  unfold had at hb
  obtain ⟨failure, -, hget⟩ | ⟨b', d, -, hk, -, hget⟩ | ⟨d, -, -, hget⟩ :=
    Registry.get_cases (after needs ops).registry u
  · simp [hget] at hb
  · simp only [hget, Noted.value_pure, Except.ok.injEq] at hb
    subst hb
    exact .inl ⟨hk, by simp [hget]⟩
  · simp only [hget, Except.ok.injEq] at hb
    subst hb
    exact .inr ⟨rfl, by simp [hget]⟩

/-- The last use case that was handed out is handed out again if and only if nothing was cleared
since and each of its dependencies is the same instance. -/
theorem LastHad.had_eq_iff {ops before between : List (Operation β υ)} {u : υ}
    {b prev : Built β (needs u)} (h : LastHad needs u before between prev)
    (hops : ops = before ++ .get u :: between) (hb : had needs ops u = .ok b) :
    b = prev ↔ .clear ∉ between ∧ ∀ key ∈ needs u,
      (after needs before).registry.container.identity? key =
        (after needs ops).registry.container.identity? key := by
  have hprev := Registry.Tracked.resolveSet_of_get (tracked_after before) h.answered
  have hnow := Registry.Tracked.resolveSet_of_get (tracked_after ops) hb
  rw [← Container.numbers_eq_iff hprev hnow]
  have hlt : prev.number < (after needs ops).registry.built := hops ▸ number_lt_of_had h.answered
  obtain ⟨hkept, hnone⟩ := h.kept?
  rw [← hops] at hkept hnone
  constructor
  · rintro rfl
    refine ⟨fun hclear => ?_, rfl⟩
    obtain ⟨hk, -⟩ | ⟨hnum, -⟩ := had_cases hb
    · rw [hnone hclear] at hk
      cases hk
    · exact absurd hnum (Nat.ne_of_lt hlt)
  · rintro ⟨hclear, hnum⟩
    have hget := Registry.get_of_kept hnow (hkept hclear) hnum
    rw [had, hget] at hb
    exact (Except.ok.inj hb).symm

/-- Only a get logs that a use case is built. -/
theorem building_mem_notes {s : Session κ υ β needs} {op : Operation β υ} {u : υ} {n : Nat}
    (h : .building u n ∈ (s.perform op).notes) : op = .get u := by
  cases op with
  | provide key value slot => cases List.mem_singleton.1 h
  | provideSlot slot =>
    cases hslot : s.slots.get? slot with
    | none =>
      simp only [perform, hslot] at h
      cases h
    | some e =>
      simp only [perform, hslot] at h
      cases List.mem_singleton.1 h
  | provideSet values =>
    simp only [perform, Registry.provideNewSet, bind_pure_comp, Noted.notes_map] at h
    exact absurd h (Registry.building_notMem_provideSet _ _ u n)
  | make key value slot => cases h
  | provideSlots slots =>
    simp only [perform, bind_pure_comp, Noted.notes_map] at h
    exact absurd h (Registry.building_notMem_provideSet _ _ u n)
  | get u' =>
    rw [notes_perform_get] at h
    obtain ⟨failure, -, hget⟩ | ⟨b, d, -, -, -, hget⟩ | ⟨d, -, -, hget⟩ :=
      Registry.get_cases s.registry u'
    · simp [hget] at h
    · simp [hget] at h
    · simp only [hget, List.mem_singleton, Event.building.injEq] at h
      rw [h.1]
  | clear => cases h

/-! ## The law of handing out -/

/-- An instance that is provided anew differs from the one that was held before. -/
theorem identity?_provide_ne (s : Session κ υ β needs) (h : s.Tracked) {key : κ} (value : β key)
    (slot : Option String) :
    (s.perform (.provide key value slot)).value.2.registry.container.identity? key ≠
      s.registry.container.identity? key := by
  have hnew : (s.perform (.provide key value slot)).value.2.registry.container.get? key =
      some (s.registry.container.issue value).1 :=
    Container.get?_provide_self _ _
  unfold Container.identity?
  rw [hnew]
  intro heq
  obtain ⟨i, hi, hnum⟩ := Option.map_eq_some_iff.1 heq.symm
  exact absurd hnum (Nat.ne_of_lt (h.issued.lt _ (.inl (.inl ⟨key, Container.get?_mem hi⟩))))

/-- A dependency that is provided anew forces the use case to be built anew. -/
theorem had_provide_ne {ops : List (Operation β υ)} {u : υ} {b b' : Built β (needs u)}
    (hb : had needs ops u = .ok b) {key : κ} (hkey : key ∈ needs u) (value : β key)
    (slot : Option String)
    (hb' : had needs (ops ++ [.get u, .provide key value slot]) u = .ok b') : b' ≠ b := by
  have hlast : LastHad needs u ops [.provide key value slot] b :=
    ⟨hb, NeverHad.nil.append_singleton fun h => absurd h (by simp)⟩
  have htracked : ((after needs ops).perform (.get u)).value.2.Tracked :=
    (tracked_after ops).perform _
  intro heq
  have hsame := ((hlast.had_eq_iff rfl hb').1 heq).2 key hkey
  rw [after_append_cons] at hsame
  refine identity?_provide_ne _ htracked value slot ?_
  rw [registry_perform_get, Registry.container_get]
  exact hsame.symm

/-- What a get hands out was built from exactly what the container holds then. It is what the last
successful get handed out if and only if nothing was cleared since and each dependency is the same
instance, which it is not after another one was provided. Otherwise it is new, and that it is built
is logged once; nothing else logs this. -/
theorem had_eq_last_iff {ops : List (Operation β υ)} {u : υ} {b : Built β (needs u)}
    (hb : had needs ops u = .ok b) :
    (after needs ops).registry.container.resolveSet (needs u) = .ok b.dependencies ∧
    (∀ before between prev, ops = before ++ .get u :: between →
      LastHad needs u before between prev →
        (b = prev ↔ .clear ∉ between ∧ ∀ key ∈ needs u,
          (after needs before).registry.container.identity? key =
            (after needs ops).registry.container.identity? key)) ∧
    (∀ key ∈ needs u, ∀ value slot b',
      had needs (ops ++ [.get u, .provide key value slot]) u = .ok b' → b' ≠ b) ∧
    (HandedOut needs ops u b ∧ ((after needs ops).perform (.get u)).notes = [] ∨
      ¬ HandedOut needs ops u b ∧
        ((after needs ops).perform (.get u)).notes = [.building u (needs u).length] ∧
        ∀ before between u' (b' : Built β (needs u')), ops = before ++ .get u' :: between →
          had needs before u' = .ok b' → b'.number ≠ b.number) ∧
    ∀ op u' n, .building u' n ∈ ((after needs ops).perform op).notes → op = .get u' := by
  refine ⟨Registry.Tracked.resolveSet_of_get (tracked_after ops) hb, ?_, ?_, ?_, ?_⟩
  · intro before between prev hops hlast
    exact hlast.had_eq_iff hops hb
  · intro key hkey value slot b' hb'
    exact had_provide_ne hb hkey value slot hb'
  · obtain ⟨hkept, hnotes⟩ | ⟨hnum, hnotes⟩ := had_cases hb
    · exact .inl ⟨handedOut_of_kept? hkept, hnotes⟩
    · -- What was handed out before bears a smaller number than what is built now.
      have hfresh : ∀ before between u' (b' : Built β (needs u')),
          ops = before ++ .get u' :: between → had needs before u' = .ok b' →
            b'.number ≠ b.number := by
        rintro before between u' b' rfl hb'
        rw [hnum]
        exact Nat.ne_of_lt (number_lt_of_had hb')
      refine .inr ⟨?_, hnotes, hfresh⟩
      rintro ⟨before, between, hops, hlast⟩
      exact hfresh before between u b hops hlast.answered rfl
  · intro op u' n
    exact building_mem_notes

/-- A use case with a repeated dependency, of which an instance was replaced and then restored. -/
theorem had_eq_last_iff_restored :
    had (fun _ : Unit => [true, false, true])
        [.provide true 7 (some "a"), .provide false 7 none, .get (), .provide true 7 none,
          .provideSlot "a"] () =
      .ok (⟨0, .cons ⟨0, 7⟩ (.cons ⟨1, 7⟩ (.cons ⟨0, 7⟩ .nil))⟩ : Built (fun _ => Nat) _) ∧
    (after (fun _ : Unit => [true, false, true])
        [.provide true 7 (some "a"), .provide false 7 none, .get (), .provide true 7 none,
          .provideSlot "a"]).registry.container.resolveSet [true, false, true] =
      .ok (.cons ⟨0, 7⟩ (.cons ⟨1, 7⟩ (.cons ⟨0, 7⟩ .nil)) : Resolved (fun _ => Nat) _) :=
  ⟨rfl, (@had_eq_last_iff Bool Unit (fun _ => Nat) (fun _ => [true, false, true]) _ _
    [.provide true 7 (some "a"), .provide false 7 none, .get (), .provide true 7 none,
      .provideSlot "a"] () ⟨0, .cons ⟨0, 7⟩ (.cons ⟨1, 7⟩ (.cons ⟨0, 7⟩ .nil))⟩ rfl).1⟩

end DeviceIdentity.Wiring.Session
