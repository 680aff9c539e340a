import Mathlib.Data.List.Induction
import DeviceIdentity.Proofs.Store.Registering

/-!
# Histories of a store

What a store in memory answers after any calls, and what it holds. Both depend only on which
certificates were registered for which things, told by the fingerprints of what the texts decode to:
not on how the texts are laid out, on the order of the registrations, or on how often each was made.
-/
namespace DeviceIdentity

namespace Store

/-! ## Runs -/

/-- A call of a store. -/
inductive Call where
  | register (c : Certificate) (thing : Option Thing)
  | lookup (c : Certificate)

/-- What a call answers. -/
inductive Answer where
  | registered (result : Except Fault CertificateId)
  | found (result : Except Fault (Option CertificateId))

/-- One call. -/
def perform (s : Store) : Call → Logged (Answer × Store)
  | .register c thing => do
    let (result, s) ← s.register c thing
    return (.registered result, s)
  | .lookup c => do
    let result ← s.lookup c
    return (.found result, s)

/-- The id that a call registers, for a thing or for none. -/
def Call.registers? : Call → Option (CertificateId × Option Thing)
  | .register c thing => c.id.toOption.map fun id => (id, thing)
  | .lookup _ => none

theorem Call.registers?_register_eq_some_iff {c : Certificate} {given thing : Option Thing}
    {id : CertificateId} :
    (register c given).registers? = some (id, thing) ↔ c.id = .ok id ∧ given = thing := by
  cases hid : c.id <;> simp [registers?, hid, Except.toOption]

/-- A call leaves the store as it is, or registers what it is to register. -/
theorem value_perform (s : Store) (call : Call) :
    (s.perform call).value.2 =
      match call.registers? with
      | some (id, thing) => s.add id thing
      | none => s := by
  cases call with
  | lookup c => rfl
  | register c thing =>
    simp only [perform, Noted.value_bind, Noted.value_pure, register, Call.registers?]
    cases c.id <;> rfl

/-- Several calls, one after the other. -/
def run (s : Store) : List Call → Logged (List Answer × Store)
  | [] => return ([], s)
  | call :: calls => do
    let (answer, s) ← s.perform call
    let (answers, s) ← s.run calls
    return (answer :: answers, s)

/-- The store that calls lead to from an empty one. -/
def after (calls : List Call) : Store := (empty.run calls).value.2

/-- Each call of a run is answered by the store that the calls before it lead to. -/
theorem getElem?_answers_run (s : Store) (before : List Call) (call : Call) (rest : List Call) :
    (s.run (before ++ call :: rest)).value.1[before.length]? =
      some ((s.run before).value.2.perform call).value.1 := by
  induction before generalizing s with
  | nil => rfl
  | cons first before ih => exact ih _

/-- The store after a run, call by call. -/
theorem value_run (s : Store) (calls : List Call) :
    (s.run calls).value.2 = calls.foldl (fun s call => (s.perform call).value.2) s := by
  induction calls generalizing s with
  | nil => rfl
  | cons call calls ih => exact ih _

theorem value_run_append (s : Store) (calls calls' : List Call) :
    (s.run (calls ++ calls')).value.2 = ((s.run calls).value.2.run calls').value.2 := by
  rw [value_run, value_run, value_run, List.foldl_append]

theorem after_concat (calls : List Call) (call : Call) :
    after (calls ++ [call]) = ((after calls).perform call).value.2 :=
  value_run_append empty calls [call]

/-! ## Order and repetition -/

theorem perform_comm (s : Store) (call call' : Call) :
    ((s.perform call).value.2.perform call').value.2 =
      ((s.perform call').value.2.perform call).value.2 := by
  simp only [value_perform]
  cases call.registers? with
  | none => rfl
  | some p =>
    cases call'.registers? with
    | none => rfl
    | some p' => exact add_comm s p.1 p'.1 p.2 p'.2

theorem perform_perform (s : Store) (call : Call) :
    ((s.perform call).value.2.perform call).value.2 = (s.perform call).value.2 := by
  simp only [value_perform]
  cases call.registers? with
  | none => rfl
  | some p => exact add_add_self s p.1 p.2

/-- It does not matter to what is held in which order calls are made. -/
theorem value_run_perm {calls calls' : List Call} (h : calls.Perm calls') (s : Store) :
    (s.run calls).value.2 = (s.run calls').value.2 := by
  rw [value_run, value_run]
  exact h.foldl_eq' (fun call _ call' _ s => perform_comm s call call') s

/-- Making the same calls again changes nothing. -/
theorem value_run_run (s : Store) (calls : List Call) :
    ((s.run calls).value.2.run calls).value.2 = (s.run calls).value.2 := by
  rw [← value_run_append]
  induction calls generalizing s with
  | nil => rfl
  | cons call calls ih =>
    -- The second making of each call can be moved up to the first one.
    have hperm : (call :: calls ++ call :: calls).Perm (call :: call :: (calls ++ calls)) :=
      List.perm_middle.cons call
    calc (s.run (call :: calls ++ call :: calls)).value.2
      _ = (((s.perform call).value.2.perform call).value.2.run (calls ++ calls)).value.2 :=
        value_run_perm hperm s
      _ = ((s.perform call).value.2.run (calls ++ calls)).value.2 := by rw [perform_perform]
      _ = ((s.perform call).value.2.run calls).value.2 := ih _

/-! ## What was registered -/

/-- Among the calls, a certificate with this id was registered, for this thing or for none. -/
def Registers (calls : List Call) (id : CertificateId) (thing : Option Thing) : Prop :=
  ∃ c contents, .register c thing ∈ calls ∧ Pem.readCertificate c.text = .ok contents ∧
    id = ⟨Digest.hexDigest contents⟩

theorem registers_iff {calls : List Call} {id : CertificateId} {thing : Option Thing} :
    Registers calls id thing ↔ ∃ c, .register c thing ∈ calls ∧ c.id = .ok id := by
  unfold Registers
  simp only [Certificate.id_eq_ok_iff, exists_and_left]

theorem not_registers_nil (id : CertificateId) (thing : Option Thing) :
    ¬ Registers [] id thing := by
  rintro ⟨c, contents, hmem, -⟩
  exact List.not_mem_nil hmem

theorem registers_concat {calls : List Call} {call : Call} {id : CertificateId}
    {thing : Option Thing} :
    Registers (calls ++ [call]) id thing ↔
      Registers calls id thing ∨ call.registers? = some (id, thing) := by
  simp only [registers_iff, List.mem_append, List.mem_singleton, or_and_right, exists_or]
  refine or_congr_right ?_
  cases call with
  | lookup c => simp [Call.registers?]
  | register c given =>
    rw [Call.registers?_register_eq_some_iff]
    constructor
    · rintro ⟨c', hcall, hid⟩
      cases hcall
      exact ⟨hid, rfl⟩
    · rintro ⟨hid, rfl⟩
      exact ⟨c, rfl, hid⟩

/-! ## What is gained -/

/-- A store after calls: what was registered among them is held besides what was held before. Under
an id for which nothing was registered all is as it was, and under the others stands an active
registration. -/
structure Gains (s : Store) (calls : List Call) (s' : Store) : Prop where
  kept : ∀ id, (∀ thing, ¬ Registers calls id thing) → s'.get? id = s.get? id
  gained : ∀ id thing, Registers calls id thing → ∃ r, s'.get? id = some r ∧ r.status = .active
  mem_things_iff : ∀ id t, t ∈ s'.things id ↔ Registers calls id (some t) ∨ t ∈ s.things id

theorem gains_nil (s : Store) : s.Gains [] s where
  kept := fun _ _ => rfl
  gained := fun id thing h => absurd h (not_registers_nil id thing)
  mem_things_iff := fun id t => (or_iff_right (not_registers_nil id (some t))).symm

namespace Gains

variable {s s' : Store} {calls : List Call} {call : Call}

theorem concat_none (h : s.Gains calls s') (hcall : call.registers? = none) :
    s.Gains (calls ++ [call]) s' := by
  have hconcat : ∀ id thing, Registers (calls ++ [call]) id thing ↔ Registers calls id thing := by
    intro id thing
    rw [registers_concat, hcall]
    simp only [reduceCtorEq, or_false]
  constructor
  · intro id hid
    exact h.kept id fun thing hthing => hid thing ((hconcat id thing).2 hthing)
  · intro id thing hthing
    exact h.gained id thing ((hconcat id thing).1 hthing)
  · intro id t
    rw [h.mem_things_iff, hconcat]

theorem concat_some {id : CertificateId} {thing : Option Thing} (h : s.Gains calls s')
    (hcall : call.registers? = some (id, thing)) :
    s.Gains (calls ++ [call]) (s'.add id thing) := by
  have hconcat : ∀ other thing', Registers (calls ++ [call]) other thing' ↔
      Registers calls other thing' ∨ (id = other ∧ thing = thing') := by
    intro other thing'
    rw [registers_concat, hcall, Option.some.injEq, Prod.mk.injEq]
  constructor
  · intro other hother
    have hne : other ≠ id := by
      rintro rfl
      exact hother thing ((hconcat other thing).2 (.inr ⟨rfl, rfl⟩))
    rw [get?_add_of_ne hne]
    exact h.kept other fun thing' hthing => hother thing' ((hconcat other thing').2 (.inl hthing))
  · intro other thing' hthing
    by_cases hother : other = id
    · subst hother
      exact ⟨_, get?_add_self s' other thing, rfl⟩
    · rw [get?_add_of_ne hother]
      rcases (hconcat other thing').1 hthing with hthing | ⟨heq, -⟩
      · exact h.gained other thing' hthing
      · exact absurd heq.symm hother
  · -- What the call attaches counts among what was registered, not among what was there before.
    intro other t
    rw [mem_things_add, h.mem_things_iff, hconcat, or_comm, or_right_comm]

/-- Each call keeps the store and the record of calls in step. -/
theorem perform (h : s.Gains calls s') (call : Call) :
    s.Gains (calls ++ [call]) (s'.perform call).value.2 := by
  rw [value_perform]
  cases hcall : call.registers? with
  | none => exact h.concat_none hcall
  | some p => exact h.concat_some hcall

end Gains

theorem gains_run (s : Store) (calls : List Call) : s.Gains calls (s.run calls).value.2 := by
  induction calls using List.reverseRecOn with
  | nil => exact gains_nil s
  | append_singleton calls call ih =>
    rw [value_run_append]
    exact ih.perform call

theorem Ordered.run {s : Store} (h : s.Ordered) (calls : List Call) :
    (s.run calls).value.2.Ordered := by
  induction calls generalizing s with
  | nil => exact h
  | cons call calls ih =>
    refine ih ?_
    rw [value_perform]
    cases call.registers? with
    | none => exact h
    | some p => exact h.add p.1 p.2

/-! ## What is held -/

/-- The store holds exactly what was registered among the calls: an active registration under each
id, for exactly the things that were given. -/
structure Records (s : Store) (calls : List Call) : Prop where
  ordered : s.records.Ordered
  isSome_get?_iff : ∀ id, (s.get? id).isSome = true ↔ ∃ thing, Registers calls id thing
  active : ∀ id r, s.get? id = some r → r.status = .active
  things_ordered : ∀ id r, s.get? id = some r → OrderedBy Thing.name r.things
  mem_things_iff : ∀ id r, s.get? id = some r → ∀ t, t ∈ r.things ↔ Registers calls id (some t)

/-- What an empty store gains is all that is held then. -/
theorem Gains.records {s : Store} {calls : List Call} (h : empty.Gains calls s)
    (hordered : s.Ordered) : s.Records calls := by
  have hsome : ∀ id, (s.get? id).isSome = true ↔ ∃ thing, Registers calls id thing := by
    intro id
    constructor
    · intro hid
      by_contra hnone
      rw [h.kept id (not_exists.1 hnone)] at hid
      cases hid
    · rintro ⟨thing, hthing⟩
      obtain ⟨r, hr, -⟩ := h.gained id thing hthing
      rw [hr]
      rfl
  refine ⟨hordered.records, hsome, ?_, ?_, ?_⟩
  · intro id r hr
    obtain ⟨thing, hthing⟩ := (hsome id).1 (Option.isSome_of_eq_some hr)
    obtain ⟨r', hr', hactive⟩ := h.gained id thing hthing
    cases hr.symm.trans hr'
    exact hactive
  · intro id r hr
    rw [← things_of_get? hr]
    exact hordered.things id
  · intro id r hr t
    rw [← things_of_get? hr, h.mem_things_iff, things_empty]
    exact or_iff_left List.not_mem_nil

namespace Records

variable {s s' : Store} {calls calls' : List Call}

/-- What is held depends on what was registered only. -/
theorem congr (h : s.Records calls)
    (hcalls : ∀ id thing, Registers calls' id thing ↔ Registers calls id thing) :
    s.Records calls' where
  ordered := h.ordered
  isSome_get?_iff := by
    intro id
    rw [h.isSome_get?_iff id]
    exact exists_congr fun thing => (hcalls id thing).symm
  active := h.active
  things_ordered := h.things_ordered
  mem_things_iff := by
    intro id r hr t
    rw [h.mem_things_iff id r hr, hcalls]

/-- Two stores that hold the same registrations are the same. -/
theorem unique (h : s.Records calls) (h' : s'.Records calls) : s = s' := by
  obtain ⟨records⟩ := s
  obtain ⟨records'⟩ := s'
  refine congrArg Store.mk (h.ordered.ext h'.ordered ?_)
  intro name
  have hsome : ((Store.mk records).get? ⟨name⟩).isSome = ((Store.mk records').get? ⟨name⟩).isSome :=
    by rw [Bool.eq_iff_iff, h.isSome_get?_iff, h'.isSome_get?_iff]
  show (Store.mk records).get? ⟨name⟩ = (Store.mk records').get? ⟨name⟩
  cases hr : (Store.mk records).get? ⟨name⟩ with
  | none =>
    rw [hr] at hsome
    exact (Option.isNone_iff_eq_none.1 (by rw [← Option.not_isSome, ← hsome]; rfl)).symm
  | some r =>
    rw [hr] at hsome
    obtain ⟨r', hr'⟩ := Option.isSome_iff_exists.1 hsome.symm
    rw [hr']
    have hstatus : r.status = r'.status :=
      (h.active _ r hr).trans (h'.active _ r' hr').symm
    have hthings : r.things = r'.things := by
      refine OrderedBy.ext (h.things_ordered _ r hr) (h'.things_ordered _ r' hr') ?_
      intro t
      rw [h.mem_things_iff _ r hr, h'.mem_things_iff _ r' hr']
    cases r
    cases r'
    cases hstatus
    cases hthings
    rfl

end Records

theorem records_after (calls : List Call) : (after calls).Records calls :=
  (gains_run empty calls).records (ordered_empty.run calls)

/-! ## What a call answers -/

/-- A lookup never fails, and finds the ids that were registered. -/
theorem Records.value_lookup {s : Store} {calls : List Call} (h : s.Records calls)
    (c : Certificate) : ∃ found, (s.lookup c).value = .ok found ∧
      ∀ id, found = some id ↔ c.id = .ok id ∧ ∃ thing, Registers calls id thing := by
  refine ⟨_, value_lookup_of_active h.active c, ?_⟩
  intro id
  rw [Option.filter_eq_some_iff, h.isSome_get?_iff]
  refine and_congr_left fun _ => ?_
  cases c.id with
  | error fault => simp only [Except.toOption, reduceCtorEq]
  | ok id' => simp only [Except.toOption, Option.some.injEq, Except.ok.injEq]

theorem register_of_error {c : Certificate} {fault : Pem.CertificateFault}
    (h : Pem.readCertificate c.text = .error fault) (s : Store) (thing : Option Thing) :
    (s.register c thing).value = (.error (.certificate fault), s) := by
  unfold register
  rw [Certificate.id_of_error h]
  rfl

theorem register_of_ok {c : Certificate} {contents : List UInt8}
    (h : Pem.readCertificate c.text = .ok contents) (s : Store) (thing : Option Thing) :
    (s.register c thing).value.1 = .ok ⟨Digest.hexDigest contents⟩ := by
  unfold register
  rw [Certificate.id_of_ok h]
  rfl

/-- After any calls of a store that was empty, a lookup never fails, and finds an id if and only if
it is the fingerprint of what the text decodes to and was registered before. A registration fails if
and only if its text cannot be decoded, and then changes nothing. Under an id stands what was
registered for it: all of the things that were given and no others. So what is held depends neither
on the order of the registrations nor on how often each was made. -/
theorem answers_and_records_after :
    (∀ before c rest, ∃ found,
      (empty.run (before ++ .lookup c :: rest)).value.1[before.length]? =
          some (.found (.ok found)) ∧
        ∀ id, found = some id ↔
          (∃ contents, Pem.readCertificate c.text = .ok contents ∧
            id = ⟨Digest.hexDigest contents⟩) ∧
          ∃ thing, Registers before id thing) ∧
    (∀ before c thing rest fault, Pem.readCertificate c.text = .error fault →
      (empty.run (before ++ .register c thing :: rest)).value.1[before.length]? =
          some (.registered (.error (.certificate fault))) ∧
        after (before ++ [.register c thing]) = after before) ∧
    (∀ before c thing rest contents, Pem.readCertificate c.text = .ok contents →
      (empty.run (before ++ .register c thing :: rest)).value.1[before.length]? =
        some (.registered (.ok ⟨Digest.hexDigest contents⟩))) ∧
    (∀ calls id, ((after calls).get? id).isSome = true ↔ ∃ thing, Registers calls id thing) ∧
    (∀ calls id r, (after calls).get? id = some r →
      r.status = .active ∧ OrderedBy Thing.name r.things ∧
        ∀ t, t ∈ r.things ↔ Registers calls id (some t)) ∧
    (∀ calls calls', (∀ id thing, Registers calls' id thing ↔ Registers calls id thing) →
      after calls = after calls') := by
  refine ⟨?_, ?_, ?_, ?_, ?_, ?_⟩
  · intro before c rest
    obtain ⟨found, hvalue, hfound⟩ := (records_after before).value_lookup c
    refine ⟨found, ?_, ?_⟩
    · rw [getElem?_answers_run]
      exact congrArg (fun result => some (Answer.found result)) hvalue
    · intro id
      rw [hfound id, Certificate.id_eq_ok_iff]
  · intro before c thing rest fault h
    have hvalue := register_of_error h (after before) thing
    constructor
    · rw [getElem?_answers_run]
      exact congrArg (fun result => some (Answer.registered result.1)) hvalue
    · rw [after_concat]
      exact congrArg Prod.snd hvalue
  · intro before c thing rest contents h
    rw [getElem?_answers_run]
    exact congrArg (fun result => some (Answer.registered result))
      (register_of_ok h (after before) thing)
  · intro calls
    exact (records_after calls).isSome_get?_iff
  · intro calls id r hr
    have h := records_after calls
    exact ⟨h.active id r hr, h.things_ordered id r hr, h.mem_things_iff id r hr⟩
  · intro calls calls' h
    exact ((records_after calls).congr h).unique (records_after calls')

end Store

end DeviceIdentity
