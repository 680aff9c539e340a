import DeviceIdentity.Boundary.Credential
import DeviceIdentity.Proofs.Boundary.Answering
import DeviceIdentity.Proofs.Json.Grammar

/-!
# What a request presents

The certificate that a device presents is found in the body of the request: an object with the
member `credential`, which is an object with the member `clientDeviceCertificate`. Which bodies are
of this form is told by a grammar, and so is what each request presents (`Presents`): a certificate,
or what is wrong. The payload of a request is shown to be what it presents.
-/
namespace DeviceIdentity.Boundary

open Json (Grammar)
open Json.Lexeme (skipSpace)
open Text (Glyph)

/-! ## Bodies -/

/-- The credential in the body of a request, and the certificate in it, where there are any. -/
def CredentialAt : Grammar (Option (Option String)) :=
  Json.OneField "credential" (Json.OneField "clientDeviceCertificate" Json.TextAt)

/-- A text is the body of a request with this credential, from its beginning to its end. -/
def IsBody (text : List Glyph) (credential : Option (Option String)) : Prop :=
  ∃ rest, CredentialAt text credential rest ∧ skipSpace rest = []

theorem isReadBy_credential :
    (Json.OneField "clientDeviceCertificate" Json.TextAt).IsReadBy fun rest => do
      let (parts, rest) ← credentialRecord.reader rest
      return (parts .certificate, rest) := by
  intro text a rest
  have hrecord := @Json.Record.exists_reader_eq_ok_iff _ _ _ credentialRecord .certificate _ rfl rfl
    (Json.isReadBy_optional Json.isReadBy_text) Json.shortens_textAt text rest a
  refine Iff.trans ?_ hrecord
  simp only [bind_eq_ok_iff, pure_eq_ok_iff]
  constructor
  · rintro ⟨⟨parts, behind⟩, hreader, heq⟩
    cases heq
    exact ⟨parts, hreader, rfl⟩
  · rintro ⟨parts, hreader, rfl⟩
    exact ⟨_, hreader, rfl⟩

/-- The payload of a body with this credential. -/
def payloadOf : Option (Option String) → Payload
  | some certificate => .present certificate
  | none => .missing

theorem requestReader_eq (text : List Glyph) :
    requestReader text = do
      let (parts, rest) ← requestRecord.reader text
      return (payloadOf (parts .credential), rest) := by
  unfold requestReader
  refine bind_congr fun ⟨parts, rest⟩ => ?_
  dsimp only
  cases parts .credential <;> rfl

theorem requestReader_eq_ok_iff {text rest : List Glyph} {p : Payload} :
    requestReader text = .ok (p, rest) ↔
      ∃ credential, CredentialAt text credential rest ∧ p = payloadOf credential := by
  -- The reader keeps nothing of the record but the one field, which the grammar speaks of.
  have hrecord : ∀ credential, (∃ parts, requestRecord.reader text = .ok (parts, rest) ∧
      parts .credential = credential) ↔ CredentialAt text credential rest :=
    fun credential => @Json.Record.exists_reader_eq_ok_iff _ _ _ requestRecord .credential _ rfl rfl
      (Json.isReadBy_optional isReadBy_credential) (Json.shortens_oneField Json.shortens_textAt)
      text rest credential
  simp only [requestReader_eq, bind_eq_ok_iff, pure_eq_ok_iff, ← hrecord]
  constructor
  · rintro ⟨⟨parts, behind⟩, hreader, heq⟩
    cases heq
    exact ⟨_, ⟨parts, hreader, rfl⟩, rfl⟩
  · rintro ⟨credential, ⟨parts, hreader, rfl⟩, rfl⟩
    exact ⟨_, hreader, rfl⟩

theorem finish_eq_ok_iff {rest : List Glyph} : Json.finish rest = .ok () ↔ skipSpace rest = [] := by
  unfold Json.finish
  split
  · next hend => simp [hend]
  · next hmore => simpa using hmore

/-- A body is accepted if and only if it is of the form that the grammar describes. -/
theorem whole_requestReader_eq_ok_iff {text : List Glyph} {p : Payload} :
    Json.whole requestReader text = .ok p ↔
      ∃ credential, IsBody text credential ∧ p = payloadOf credential := by
  simp only [Json.whole, bind_eq_ok_iff, pure_eq_ok_iff]
  constructor
  · rintro ⟨⟨p', rest⟩, hreader, ⟨⟩, hfinish, rfl⟩
    obtain ⟨credential, hat, hp⟩ := requestReader_eq_ok_iff.1 hreader
    exact ⟨credential, ⟨rest, hat, finish_eq_ok_iff.1 hfinish⟩, hp⟩
  · rintro ⟨credential, ⟨rest, hat, hend⟩, rfl⟩
    exact ⟨_, requestReader_eq_ok_iff.2 ⟨credential, hat, rfl⟩, (), finish_eq_ok_iff.2 hend, rfl⟩

/-! ## Requests -/

/-- What a request presents: a certificate, or what is wrong with it. The content type is looked at
first, then the size, then the body. -/
inductive Presents (r : Net.Request) : Except String Certificate → Prop where
  | notJson (htype : Net.MediaType.announcesJson r.headers = false) :
      Presents r (.error "Expected request with `Content-Type: application/json`")
  | tooLarge (htype : Net.MediaType.announcesJson r.headers = true)
      (hsize : 2097152 < r.body.length) :
      Presents r (.error "Failed to buffer the request body: length limit exceeded")
  | undecodable (htype : Net.MediaType.announcesJson r.headers = true)
      (hsize : r.body.length ≤ 2097152)
      (hbody : ∀ credential, ¬ IsBody (Glyph.ofBytes r.body) credential) {fault : Json.Failure}
      (hfault : Json.whole requestReader (Glyph.ofBytes r.body) = .error fault) :
      Presents r (.error (bodyFault (Glyph.ofBytes r.body) fault))
  | noCredential (htype : Net.MediaType.announcesJson r.headers = true)
      (hsize : r.body.length ≤ 2097152) (hbody : IsBody (Glyph.ofBytes r.body) none) :
      Presents r (.error "Client device credential is required")
  | noCertificate {certificate : Option String}
      (htype : Net.MediaType.announcesJson r.headers = true) (hsize : r.body.length ≤ 2097152)
      (hbody : IsBody (Glyph.ofBytes r.body) (some certificate))
      (hnone : certificate = none ∨ certificate = some "") :
      Presents r (.error "Client device certificate is required")
  | certificate {c : Certificate} (htype : Net.MediaType.announcesJson r.headers = true)
      (hsize : r.body.length ≤ 2097152)
      (hbody : IsBody (Glyph.ofBytes r.body) (some (some c.text))) : Presents r (.ok c)

section Payloads

variable {r : Net.Request}

theorem payload_of_notJson (htype : Net.MediaType.announcesJson r.headers = false) :
    payload r = .malformed "Expected request with `Content-Type: application/json`" := by
  simp [payload, htype]

theorem payload_of_tooLarge (htype : Net.MediaType.announcesJson r.headers = true)
    (hsize : 2097152 < r.body.length) :
    payload r = .malformed "Failed to buffer the request body: length limit exceeded" := by
  have hlimit : bodyLimit < r.body.length := hsize
  simp [payload, htype, hlimit]

theorem payload_of_json (htype : Net.MediaType.announcesJson r.headers = true)
    (hsize : r.body.length ≤ 2097152) :
    payload r =
      match Json.whole requestReader (Glyph.ofBytes r.body) with
      | .ok payload => payload
      | .error fault => .malformed (bodyFault (Glyph.ofBytes r.body) fault) := by
  have hlimit : ¬ bodyLimit < r.body.length := Nat.not_lt_of_le hsize
  exact (if_neg (not_not_intro htype)).trans (if_neg hlimit)

theorem payload_of_isBody (htype : Net.MediaType.announcesJson r.headers = true)
    (hsize : r.body.length ≤ 2097152) {credential : Option (Option String)}
    (hbody : IsBody (Glyph.ofBytes r.body) credential) : payload r = payloadOf credential := by
  rw [payload_of_json htype hsize, whole_requestReader_eq_ok_iff.2 ⟨credential, hbody, rfl⟩]

/-- The payload of a request is what it presents. -/
theorem presents_payload (r : Net.Request) :
    Presents r ((payload r).certificate.mapError VerificationFault.message) := by
  cases htype : Net.MediaType.announcesJson r.headers with
  | false =>
    rw [payload_of_notJson htype]
    exact .notJson htype
  | true =>
    rcases Nat.lt_or_ge 2097152 r.body.length with hsize | hsize
    · rw [payload_of_tooLarge htype hsize]
      exact .tooLarge htype hsize
    cases hwhole : Json.whole requestReader (Glyph.ofBytes r.body) with
    | error fault =>
      -- What the reader refuses is not in the grammar, since it accepts all that is.
      rw [payload_of_json htype hsize, hwhole]
      refine .undecodable htype hsize (fun credential hbody => ?_) hwhole
      rw [whole_requestReader_eq_ok_iff.2 ⟨credential, hbody, rfl⟩] at hwhole
      cases hwhole
    | ok p =>
      obtain ⟨credential, hbody, -⟩ := whole_requestReader_eq_ok_iff.1 hwhole
      rw [payload_of_isBody htype hsize hbody]
      match credential with
      | none => exact .noCredential htype hsize hbody
      | some none => exact .noCertificate htype hsize hbody (.inl rfl)
      | some (some text) =>
        by_cases hempty : text = ""
        · subst hempty
          exact .noCertificate htype hsize hbody (.inr rfl)
        · have hcertificate : (Payload.present (some text)).certificate = .ok ⟨text, hempty⟩ :=
            Payload.certificate_eq_ok_iff.2 rfl
          simp only [payloadOf, hcertificate]
          exact .certificate htype hsize hbody

/-- A request presents one thing only, and this is its payload. -/
theorem presents_iff {presented : Except String Certificate} :
    Presents r presented ↔
      presented = (payload r).certificate.mapError VerificationFault.message := by
  refine ⟨fun h => ?_, fun h => h ▸ presents_payload r⟩
  cases h with
  | notJson htype =>
    rw [payload_of_notJson htype]
    rfl
  | tooLarge htype hsize =>
    rw [payload_of_tooLarge htype hsize]
    rfl
  | undecodable htype hsize hbody hfault =>
    rw [payload_of_json htype hsize, hfault]
    rfl
  | noCredential htype hsize hbody =>
    rw [payload_of_isBody htype hsize hbody]
    rfl
  | noCertificate htype hsize hbody hnone =>
    rw [payload_of_isBody htype hsize hbody]
    rcases hnone with rfl | rfl <;> rfl
  | @certificate c htype hsize hbody =>
    have hcertificate : (payloadOf (some (some c.text))).certificate = .ok c :=
      Payload.certificate_eq_ok_iff.2 rfl
    rw [payload_of_isBody htype hsize hbody, hcertificate]
    rfl

end Payloads

end DeviceIdentity.Boundary
