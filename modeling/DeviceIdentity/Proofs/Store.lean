import DeviceIdentity.Store

/-!
# What a store knows

A store in memory knows exactly the certificates that were registered in it. They are told apart by
the fingerprints of what they decode to, so it does not matter how their texts are laid out.
-/
namespace DeviceIdentity

namespace Certificate

/-- Whether two certificates decode to contents with the same fingerprint. -/
def same (c c' : Certificate) : Bool :=
  match Pem.readCertificate c.text, Pem.readCertificate c'.text with
  | .ok contents, .ok contents' => Digest.hexDigest contents = Digest.hexDigest contents'
  | _, _ => false

theorem id_of_error {c : Certificate} {fault : Pem.CertificateFault}
    (h : Pem.readCertificate c.text = .error fault) : c.id = .error fault := by
  unfold id Pem.fingerprint
  rw [h]
  rfl

theorem id_of_ok {c : Certificate} {contents : List UInt8}
    (h : Pem.readCertificate c.text = .ok contents) :
    c.id = .ok ⟨Digest.hexDigest contents⟩ := by
  unfold id Pem.fingerprint
  rw [h]
  rfl

theorem id_eq_ok_iff {c : Certificate} {id : CertificateId} :
    c.id = .ok id ↔
      ∃ contents, Pem.readCertificate c.text = .ok contents ∧ id = ⟨Digest.hexDigest contents⟩ := by
  cases h : Pem.readCertificate c.text with
  | error fault => simp [id_of_error h]
  | ok contents => simp [id_of_ok h, eq_comm]

theorem same_iff {c c' : Certificate} :
    c.same c' = true ↔ ∃ id, c.id = .ok id ∧ c'.id = .ok id := by
  unfold same
  cases h : Pem.readCertificate c.text with
  | error fault => simp [id_of_error h]
  | ok contents =>
    cases h' : Pem.readCertificate c'.text with
    | error fault => simp [id_of_error h']
    | ok contents' => simp [id_of_ok h, id_of_ok h', eq_comm]

end Certificate

namespace Store

/-- Where every registration is active, a lookup finds what is registered, and never fails. -/
theorem value_lookup_of_active {s : Store} (h : ∀ id r, s.get? id = some r → r.status = .active)
    (c : Certificate) :
    (s.lookup c).value = .ok (c.id.toOption.filter fun id => (s.get? id).isSome) := by
  unfold lookup
  cases hid : c.id with
  | error fault => rfl
  | ok id =>
    cases hget : s.get? id with
    | none => simp [Except.toOption, Option.filter, hget]
    | some r => simp [Except.toOption, Option.filter, hget, h id r hget]

/-- Exactly these certificates are registered, as far as they can be decoded, and all of them are
active. -/
structure HasExactly (s : Store) (certificates : List Certificate) : Prop where
  known_iff : ∀ id, (s.get? id).isSome = true ↔ ∃ c ∈ certificates, c.id = .ok id
  active : ∀ id r, s.get? id = some r → r.status = .active

theorem hasExactly_empty : empty.HasExactly [] where
  known_iff := by
    intro id
    constructor
    · intro h
      cases h
    · rintro ⟨c, hc, -⟩
      exact absurd hc List.not_mem_nil
  active := by
    intro id r h
    cases h

namespace HasExactly

variable {s : Store} {certificates : List Certificate}

theorem register_of_error {c : Certificate} {fault : Pem.CertificateFault}
    (h : s.HasExactly certificates) (hid : c.id = .error fault) :
    s.HasExactly (c :: certificates) where
  known_iff := by
    -- A text that cannot be decoded belongs to no id.
    intro id
    rw [h.known_iff id]
    simp only [List.mem_cons, exists_eq_or_imp, hid, reduceCtorEq, false_or]
  active := h.active

theorem add {c : Certificate} {id : CertificateId} (h : s.HasExactly certificates)
    (hid : c.id = .ok id) (thing : Option Thing) :
    (s.add id thing).HasExactly (c :: certificates) where
  known_iff := by
    intro other
    simp only [List.mem_cons, exists_eq_or_imp, hid, Except.ok.injEq]
    by_cases hother : other = id
    · subst hother
      simp only [get?_add_self, Option.isSome_some, true_or]
    · have hne : ¬ id = other := Ne.symm hother
      rw [get?_add_of_ne hother, h.known_iff other]
      simp only [hne, false_or]
  active := by
    intro other r hr
    by_cases hother : other = id
    · subst hother
      rw [get?_add_self] at hr
      cases hr
      rfl
    · rw [get?_add_of_ne hother] at hr
      exact h.active other r hr

theorem register (h : s.HasExactly certificates) (c : Certificate) (thing : Option Thing) :
    (s.register c thing).value.2.HasExactly (c :: certificates) := by
  unfold Store.register
  cases hid : c.id with
  | error fault => exact h.register_of_error hid
  | ok id => exact h.add hid thing

theorem isSome_get?_of_id {c : Certificate} {id : CertificateId} (h : s.HasExactly certificates)
    (hid : c.id = .ok id) : (s.get? id).isSome = certificates.any c.same := by
  rw [Bool.eq_iff_iff, h.known_iff id, List.any_eq_true]
  refine exists_congr fun c' => and_congr_right fun _ => ?_
  rw [Certificate.same_iff, hid]
  constructor
  · intro hid'
    exact ⟨id, rfl, hid'⟩
  · rintro ⟨id', heq, hid'⟩
    cases heq
    exact hid'

/-- A lookup never fails, and finds a certificate if and only if one with the same fingerprint was
registered. -/
theorem value_lookup (h : s.HasExactly certificates) (c : Certificate) :
    ∃ found, (s.lookup c).value = .ok found ∧ found.isSome = certificates.any c.same := by
  refine ⟨_, value_lookup_of_active h.active c, ?_⟩
  cases hid : c.id with
  | error fault =>
    have hnone : ∀ c' ∈ certificates, ¬ c.same c' = true := by
      intro c' _ hsame
      obtain ⟨id, hok, -⟩ := Certificate.same_iff.1 hsame
      rw [hid] at hok
      cases hok
    exact (List.any_eq_false.2 hnone).symm
  | ok id =>
    rw [← h.isSome_get?_of_id hid]
    cases hget : (s.get? id).isSome <;> simp [Except.toOption, Option.filter, hget]

end HasExactly

end Store

end DeviceIdentity
