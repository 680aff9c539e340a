import Mathlib.Data.List.DropRight
import DeviceIdentity.Proofs.Wiring.History

/-!
# Missing dependencies

When a use case cannot be had: exactly as long as nothing was provided for one of its dependencies.
Asking for it then leaves no trace. Since nothing that was provided is taken away, a use case that
was had can be had ever after. Those that are kept are the ones that were had since all were
cleared, each of them once (`Registry.Keeps`).
-/
namespace DeviceIdentity.Wiring

variable {κ υ : Type} {β : κ → Type} {needs : υ → List κ} [DecidableEq κ]

namespace Container

variable {c : Container κ β} {history : History β}

/-- Several keys cannot be resolved if one of them is missing, and the first one is told. -/
theorem Reflects.resolveSet_eq_error_iff (h : Reflects history c) {keys : List κ}
    {fault : Fault κ} :
    c.resolveSet keys = .error fault ↔
      ∃ key, keys.find? (fun key => key ∉ history.keys) = some key ∧ fault = .missing key := by
  induction keys with
  | nil => simp [resolveSet]
  | cons key keys ih =>
    by_cases hkey : key ∈ history.keys
    · obtain ⟨i, hi⟩ := History.exists_isLast_iff.2 hkey
      have hresolve : c.resolve key = .ok i :=
        resolve_eq_ok_iff.2 ((h.get?_eq_some_iff key i).2 hi)
      rw [List.find?_cons_of_neg (by simpa using hkey), ← ih, resolveSet, hresolve]
      cases c.resolveSet keys <;> simp [bind, Except.bind, pure, Except.pure]
    · have hmissing : c.resolve key = .error (.missing key) :=
        h.resolve_eq_error_iff.2 ⟨hkey, rfl⟩
      rw [List.find?_cons_of_pos (by simpa using hkey), resolveSet, hmissing]
      simp [bind, Except.bind, eq_comm]

end Container

namespace Registry

variable [DecidableEq υ] {r : Registry κ υ β needs}

/-! ## What is kept -/

/-- Exactly these use cases are kept, each of them once. -/
structure Keeps (us : List υ) (r : Registry κ υ β needs) : Prop where
  mem_keys_iff : ∀ u, u ∈ r.cache.keys ↔ u ∈ us
  nodup_keys : r.cache.keys.Nodup

omit [DecidableEq κ] in
theorem Keeps.cached_eq {us : List υ} (h : Keeps us r) : r.cached = us.toFinset.card :=
  Table.length_eq_card h.nodup_keys h.mem_keys_iff

/-- A use case that is had is kept from then on. -/
theorem Keeps.get {us : List υ} (h : Keeps us r) {u : υ} {b : Built β (needs u)}
    (hb : (r.get u).value.1 = .ok b) : Keeps (us ++ [u]) (r.get u).value.2 := by
  obtain ⟨failure, -, hget⟩ | ⟨b', d, -, hk, -, hget⟩ | ⟨d, -, -, hget⟩ := get_cases r u
  · simp [hget] at hb
  · have hmem : u ∈ us := (h.mem_keys_iff u).1 (List.mem_map_of_mem (kept?_mem hk))
    refine ⟨fun other => ?_, ?_⟩
    · simp only [hget, Noted.value_pure, h.mem_keys_iff, List.mem_append, List.mem_singleton]
      exact ⟨.inl, fun hother => hother.elim id (· ▸ hmem)⟩
    · simpa only [hget, Noted.value_pure] using h.nodup_keys
  · refine ⟨fun other => ?_, ?_⟩
    · simp only [hget, Table.mem_keys_set_iff, h.mem_keys_iff, List.mem_append,
        List.mem_singleton, or_comm]
    · simpa only [hget] using Table.nodup_keys_set h.nodup_keys _ _

end Registry

/-! ## Use cases that were had -/

namespace Outcome

/-- The use case that was had, if one was. -/
def had? : Outcome β needs → Option υ
  | got u (.ok _) => some u
  | _ => none

/-- All use cases were cleared. -/
def isCleared : Outcome β needs → Bool
  | cleared => true
  | _ => false

/-- The use cases that were had since all were cleared the last time. -/
def hadSinceClear (outcomes : List (Outcome β needs)) : List υ :=
  (outcomes.rtakeWhile fun o => !o.isCleared).filterMap had?

omit [DecidableEq κ] in
theorem hadSinceClear_concat (outcomes : List (Outcome β needs)) (o : Outcome β needs) :
    hadSinceClear (outcomes ++ [o]) =
      if o.isCleared then [] else hadSinceClear outcomes ++ o.had?.toList := by
  unfold hadSinceClear
  rw [List.rtakeWhile_concat]
  cases o.isCleared with
  | true => rfl
  | false => cases ho : o.had? <;> simp [ho]

end Outcome

namespace Session

variable [DecidableEq υ]

theorem outcomes_run_concat (s : Session κ υ β needs) (ops : List (Operation β υ))
    (op : Operation β υ) :
    (s.run (ops ++ [op])).value.1 =
      (s.run ops).value.1 ++ [((s.run ops).value.2.perform op).value.1] := by
  induction ops generalizing s with
  | nil => rfl
  | cons op' ops ih => exact congrArg _ (ih _)

/-- Other operations than a get and clearing have nothing to do with what is kept. -/
theorem hadSinceClear_perform {s : Session κ υ β needs} {op : Operation β υ}
    (hget : ∀ u, op ≠ .get u) (hclear : op ≠ .clear) (outcomes : List (Outcome β needs)) :
    Outcome.hadSinceClear (outcomes ++ [(s.perform op).value.1]) =
      Outcome.hadSinceClear outcomes := by
  have hother : (s.perform op).value.1.isCleared = false ∧ (s.perform op).value.1.had? = none := by
    cases op with
    | provide key value slot => exact ⟨rfl, rfl⟩
    | provideSlot slot =>
      simp only [perform]
      cases s.slots.get? slot <;> exact ⟨rfl, rfl⟩
    | provideSet values => exact ⟨rfl, rfl⟩
    | make key value slot => exact ⟨rfl, rfl⟩
    | provideSlots slots => exact ⟨rfl, rfl⟩
    | get u => exact absurd rfl (hget u)
    | clear => exact absurd rfl hclear
  rw [Outcome.hadSinceClear_concat, hother.1, hother.2]
  simp

theorem keeps_perform {s : Session κ υ β needs} {outcomes : List (Outcome β needs)}
    (h : s.registry.Keeps (Outcome.hadSinceClear outcomes)) (op : Operation β υ) :
    (s.perform op).value.2.registry.Keeps
      (Outcome.hadSinceClear (outcomes ++ [(s.perform op).value.1])) := by
  by_cases hget : ∃ u, op = .get u
  · obtain ⟨u, rfl⟩ := hget
    have houtcome : (s.perform (.get u)).value.1 = .ofGet u (s.registry.get u).value.1 := rfl
    rw [houtcome, Outcome.hadSinceClear_concat, registry_perform_get]
    cases hb : (s.registry.get u).value.1 with
    | error failure =>
      -- A get that fails leaves the registry as it is, whatever the failure.
      rw [Registry.get_eq_of_error (by simp [hb])]
      cases failure <;> simpa [Outcome.ofGet, Outcome.isCleared, Outcome.had?] using h
    | ok b => exact h.get hb
  by_cases hclear : op = .clear
  · subst hclear
    -- The record of what was had starts anew, and so does what is kept.
    have houtcome : (s.perform .clear).value.1 = .cleared := rfl
    rw [houtcome, Outcome.hadSinceClear_concat]
    exact ⟨fun _ => Iff.rfl, List.nodup_nil⟩
  · have hop : ∀ u, op ≠ .get u := fun u hu => hget ⟨u, hu⟩
    rw [hadSinceClear_perform hop hclear]
    have hcache := (kept_perform s hop hclear).1
    exact ⟨hcache ▸ h.mem_keys_iff, hcache ▸ h.nodup_keys⟩

theorem keeps_after (ops : List (Operation β υ)) :
    (after needs ops).registry.Keeps
      (Outcome.hadSinceClear ((start : Session κ υ β needs).run ops).value.1) := by
  induction ops using List.reverseRecOn with
  | nil => exact ⟨fun _ => Iff.rfl, List.nodup_nil⟩
  | append_singleton ops op ih =>
    rw [outcomes_run_concat, after_append]
    exact keeps_perform ih op

/-! ## The law of missing dependencies -/

theorem provisionsOf_append (s : Session κ υ β needs) (ops ops' : List (Operation β υ)) :
    s.provisionsOf (ops ++ ops') = s.provisionsOf ops ++ (s.run ops).value.2.provisionsOf ops' := by
  induction ops generalizing s with
  | nil => rfl
  | cons op ops ih =>
    rw [List.cons_append, provisionsOf, provisionsOf, ih, List.append_assoc]
    rfl

theorem had_eq_error_iff (ops : List (Operation β υ)) (u : υ) (failure : Failure κ υ) :
    had needs ops u = .error failure ↔
      ∃ key, (needs u).find? (fun key => key ∉ (provided needs ops).keys) = some key ∧
        failure = .dependency (.missing key) := by
  refine (Registry.Tracked.get_eq_error_iff (tracked_after ops)).trans ?_
  simp only [(reflects_after ops).resolveSet_eq_error_iff]
  constructor
  · rintro ⟨fault, ⟨key, hfind, rfl⟩, rfl⟩
    exact ⟨key, hfind, rfl⟩
  · rintro ⟨key, hfind, rfl⟩
    exact ⟨_, ⟨key, hfind, rfl⟩, rfl⟩

theorem exists_had_eq_ok_iff (ops : List (Operation β υ)) (u : υ) :
    (∃ b, had needs ops u = .ok b) ↔ ∀ key ∈ needs u, key ∈ (provided needs ops).keys := by
  cases hb : had needs ops u with
  | error failure =>
    obtain ⟨key, hfind, -⟩ := (had_eq_error_iff ops u failure).1 hb
    have hkey : key ∉ (provided needs ops).keys := by simpa using List.find?_some hfind
    simp only [reduceCtorEq, exists_false, false_iff]
    exact fun hall => hkey (hall key (List.mem_of_find?_eq_some hfind))
  | ok b =>
    refine iff_of_true ⟨b, rfl⟩ fun key hmem => ?_
    by_contra hkey
    cases hfind : (needs u).find? (fun key => key ∉ (provided needs ops).keys) with
    | none => simpa [hkey] using List.find?_eq_none.1 hfind key hmem
    | some first =>
      have herror := (had_eq_error_iff ops u _).2 ⟨first, hfind, rfl⟩
      rw [hb] at herror
      cases herror

/-- Whatever could be had can be had after more operations. -/
theorem exists_had_append {ops : List (Operation β υ)} {u : υ} {b : Built β (needs u)}
    (hb : had needs ops u = .ok b) (ops' : List (Operation β υ)) :
    ∃ b', had needs (ops ++ ops') u = .ok b' := by
  rw [exists_had_eq_ok_iff]
  intro key hmem
  have hkey := (exists_had_eq_ok_iff ops u).1 ⟨b, hb⟩ key hmem
  rw [provided, provisionsOf_append, List.keys_append]
  exact List.mem_append_left _ hkey

/-- A get that fails leaves no trace: neither in the session nor in the log. -/
theorem perform_get_of_error {ops : List (Operation β υ)} {u : υ} {failure : Failure κ υ}
    (h : had needs ops u = .error failure) :
    (after needs ops).perform (.get u) = pure (.ofGet u (.error failure), after needs ops) := by
  obtain ⟨fault, hfault, rfl⟩ := (Registry.Tracked.get_eq_error_iff (tracked_after ops)).1 h
  simp only [perform, Registry.get_of_error hfault]
  rfl

/-- When a use case can be had after some operations, and what it leaves behind to ask for one that
cannot. -/
structure HadOnceProvided (needs : υ → List κ) (ops : List (Operation β υ)) (u : υ) : Prop where
  fails_iff : (∃ failure, had needs ops u = .error failure) ↔
    ∃ key ∈ needs u, key ∉ (provided needs ops).keys
  /-- The first key in the order of declaration is told for which nothing was provided. -/
  eq_missing : ∀ failure, had needs ops u = .error failure →
    ∃ key, (needs u).find? (fun key => key ∉ (provided needs ops).keys) = some key ∧
      failure = .dependency (.missing key)
  /-- What is held for a dependency and what is kept are never of another type. -/
  not_mismatch : (∀ key, had needs ops u ≠ .error (.dependency (.mismatch key))) ∧
    ∀ u', had needs ops u ≠ .error (.mismatch u')
  /-- Whatever is done later has the same answers, the same log and the same session in the end. -/
  run_eq : ∀ failure, had needs ops u = .error failure → ∀ ops',
    (after needs ops).run (.get u :: ops') =
      (fun x => (.ofGet u (.error failure) :: x.1, x.2)) <$> (after needs ops).run ops'
  of_needs_nil : needs u = [] → ∃ b, had needs ops u = .ok b
  had_append : ∀ b, had needs ops u = .ok b → ∀ ops', ∃ b', had needs (ops ++ ops') u = .ok b'

theorem hadOnceProvided (ops : List (Operation β υ)) (u : υ) : HadOnceProvided needs ops u where
  fails_iff := by
    have hok : (¬ ∃ b, had needs ops u = .ok b) ↔
        ¬ ∀ key ∈ needs u, key ∈ (provided needs ops).keys :=
      not_congr (exists_had_eq_ok_iff ops u)
    simp only [not_forall, exists_prop] at hok
    rw [← hok]
    cases had needs ops u <;> simp
  eq_missing _ := (had_eq_error_iff ops u _).1
  not_mismatch := by
    constructor
    · intro key hmismatch
      obtain ⟨first, -, hfailure⟩ := (had_eq_error_iff ops u _).1 hmismatch
      cases hfailure
    · intro u' hmismatch
      obtain ⟨first, -, hfailure⟩ := (had_eq_error_iff ops u _).1 hmismatch
      cases hfailure
  run_eq := by
    intro failure hfails ops'
    simp only [run, perform_get_of_error hfails, pure_bind, bind_pure_comp]
  of_needs_nil := by
    intro hneeds
    rw [exists_had_eq_ok_iff, hneeds]
    exact List.forall_mem_nil _
  had_append _ := exists_had_append

/-- After any operations, a use case can be had if and only if something was provided for each of
its dependencies; and those that are kept are the ones that were had since all were cleared the last
time, each of them counted once. Whatever the container holds and whatever is kept is of the type
that its key stands for, so nothing is ever resolved to an instance of another type. -/
theorem hadOnceProvided_after (ops : List (Operation β υ)) :
    (∀ u, HadOnceProvided needs ops u) ∧
    (after needs ops).registry.cached =
      (Outcome.hadSinceClear
        ((start : Session κ υ β needs).run ops).value.1).toFinset.card ∧
    (∀ e ∈ (after needs ops).registry.container.entries, e.2.1 = e.1) ∧
    (∀ k ∈ (after needs ops).registry.cache, k.2.1 = k.1) ∧
    ∀ key other, (after needs ops).registry.container.resolve key ≠ .error (.mismatch other) := by
  have htyped : (after needs ops).registry.WellTyped := (tracked_after ops).typed
  refine ⟨hadOnceProvided ops, (keeps_after ops).cached_eq, htyped.entries, htyped.cache, ?_⟩
  intro key other hmismatch
  obtain ⟨-, hfault⟩ := (reflects_after ops).resolve_eq_error_iff.1 hmismatch
  cases hfault

end Session

end DeviceIdentity.Wiring
