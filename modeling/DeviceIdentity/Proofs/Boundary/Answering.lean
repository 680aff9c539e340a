import DeviceIdentity.Boundary.Endpoint

/-!
# Answering

What a request for a verification is answered, apart from what is logged on the way. The token alone
decides who the caller is, the authorizer alone whether the caller is refused, and only then does
the payload count.
-/
namespace DeviceIdentity

namespace Verifier

/-- Why a caller is refused, if it is. -/
def refusal? (v : Verifier) (caller : String) : Option String :=
  match (v.authorize authService (permissionOf caller)).value with
  | .ok true => none
  | .ok false => some notAuthorizedMessage
  | .error denial => some denial.message

/-- No reason is given to a caller that is authorized, and to no other one. -/
theorem refusal?_eq_none_iff {v : Verifier} {caller : String} :
    v.refusal? caller = none ↔
      (v.authorize authService (permissionOf caller)).value = .ok true := by
  unfold refusal?
  split
  · next h => simp [h]
  · next h => simp [h]
  · next denial h => simp [h]

end Verifier

namespace Collaborators

/-- Collaborators that may take notes of any kind answer like those of a verifier. -/
structure Answers {ε : Type} (c : Collaborators (Noted ε)) (v : Verifier) : Prop where
  authorize : ∀ scope permission,
    (c.authorize scope permission).value = (v.authorize scope permission).value
  lookup : ∀ certificate, (c.lookup certificate).value = (v.lookup certificate).value

namespace Answers

variable {ε : Type} {c : Collaborators (Noted ε)} {v : Verifier}

theorem value_authorizeCaller (h : c.Answers v) (caller : String) :
    (c.authorizeCaller caller).value =
      match v.refusal? caller with
      | some reason => .error (.unauthorized reason)
      | none => .ok () := by
  unfold authorizeCaller Verifier.refusal?
  simp only [Noted.value_bind, h.authorize]
  rcases (v.authorize authService (Verifier.permissionOf caller)).value with denial | allowed
  · rfl
  · cases allowed <;> rfl

theorem value_lookupCertificate (h : c.Answers v) (caller : String) (certificate : Certificate) :
    (c.lookupCertificate caller certificate).value =
      match (v.lookup certificate).value with
      | .ok id => .ok id.isSome
      | .error _ => .error .serviceError := by
  unfold lookupCertificate
  simp only [Noted.value_bind, h.lookup]
  cases (v.lookup certificate).value <;> rfl

/-- What a verification answers: the refusal comes before the payload, the payload before the
store. -/
theorem value_verify (h : c.Answers v) (caller : String) (payload : Payload) :
    (c.verify caller payload).value =
      match v.refusal? caller with
      | some reason => .error (.unauthorized reason)
      | none =>
        match payload.certificate with
        | .error fault => .error fault
        | .ok certificate =>
          match (v.lookup certificate).value with
          | .ok id => .ok id.isSome
          | .error _ => .error .serviceError := by
  simp only [verify, Noted.value_bind, h.value_authorizeCaller]
  cases v.refusal? caller with
  | some reason => rfl
  | none =>
    cases payload.certificate with
    | error fault => rfl
    | ok certificate => exact h.value_lookupCertificate caller certificate

end Answers

end Collaborators

theorem Verifier.answers_logging (v : Verifier) : v.logging.Answers v :=
  ⟨fun _ _ => rfl, fun _ => rfl⟩

/-- A payload without a certificate is the fault of the caller. -/
theorem Payload.certificate_eq_error {payload : Payload} {fault : VerificationFault}
    (h : payload.certificate = .error fault) : ∃ reason, fault = .invalidArgument reason := by
  cases payload with
  | missing =>
    cases h
    exact ⟨_, rfl⟩
  | malformed detail =>
    cases h
    exact ⟨_, rfl⟩
  | present text =>
    simp only [certificate] at h
    cases hc : text.bind Certificate.ofText with
    | none =>
      rw [hc] at h
      cases h
      exact ⟨_, rfl⟩
    | some c =>
      rw [hc] at h
      cases h

/-- A payload has the certificate that it holds as text, unless the text is empty. -/
theorem Payload.certificate_eq_ok_iff {payload : Payload} {c : Certificate} :
    payload.certificate = .ok c ↔ payload = .present (some c.text) := by
  cases payload with
  | missing => simp [certificate]
  | malformed detail => simp [certificate]
  | present text =>
    cases text with
    | none => simp [certificate]
    | some text =>
      obtain ⟨text', hne⟩ := c
      by_cases htext : text = ""
      · subst htext
        simp [certificate, hne.symm]
      · simp [certificate, Certificate.ofText_of_ne htext]

namespace Boundary

/-- The component that the token of a request was issued to. -/
def component? (tokens : Tokens) (r : Net.Request) : Option String :=
  (Bearer.token r.headers).toOption.bind tokens.identify

/-- The response to a caller that is not served, with the reason. -/
def refused (reason : String) : Response := (Rejection.unauthorized reason).response

/-- The response to any failure inside the service. -/
def failed : Response := (Rejection.serviceError serviceErrorMessage).response

@[simp] theorem status_failed : failed.status = 500 := rfl

theorem value_caller? (tokens : Tokens) (r : Net.Request) :
    (caller? tokens r).value = component? tokens r := by
  unfold caller? component?
  cases Bearer.token r.headers <;> rfl

/-- Only the first `Authorization` header tells the component. -/
theorem component?_congr (tokens : Tokens) {r r' : Net.Request}
    (h : Net.firstHeader? "Authorization" r.headers =
      Net.firstHeader? "Authorization" r'.headers) :
    component? tokens r = component? tokens r' := by
  unfold component? Bearer.token
  rw [h]

theorem value_admission_of_unknown {tokens : Tokens} {r : Net.Request} (hpost : r.method = "POST")
    (hroute : r.path = route) (h : component? tokens r = none) :
    (admission tokens r).value = .answered (refused notAuthorizedMessage) := by
  simp only [admission, authenticate, hroute, hpost, ne_eq, not_true_eq_false, ↓reduceIte,
    Noted.value_bind, value_caller?, h]
  rfl

theorem value_admission_of_known {tokens : Tokens} {r : Net.Request} {caller : String}
    (hpost : r.method = "POST") (hroute : r.path = route)
    (h : component? tokens r = some caller) :
    (admission tokens r).value = .admitted caller (payload r) := by
  simp only [admission, authenticate, hroute, hpost, ne_eq, not_true_eq_false, ↓reduceIte,
    Noted.value_bind, value_caller?, h]
  rfl

theorem sent_of_post {r : Net.Request} (hpost : r.method = "POST") (response : Response) :
    sent r response = response := by
  unfold sent
  rw [hpost]
  rfl

/-! ## Completing -/

theorem value_complete_of_error (caller : String) (payload : Payload)
    (fault : Wiring.Fault String) : (complete caller payload (.error fault)).value = failed := rfl

theorem value_complete_of_ok (caller : String) (payload : Payload) (v : Verifier) :
    (complete caller payload (.ok v)).value = (answer (v.run caller payload).value).value := rfl

/-- A caller that is refused is told the reason, whatever its payload. -/
theorem value_complete_of_refusal {v : Verifier} {caller reason : String}
    (h : v.refusal? caller = some reason) (payload : Payload) :
    (complete caller payload (.ok v)).value = refused reason := by
  rw [value_complete_of_ok, Verifier.run, v.answers_logging.value_verify, h]
  rfl

theorem value_complete_of_no_certificate {v : Verifier} {caller : String} {payload : Payload}
    {fault : VerificationFault} (h : v.refusal? caller = none)
    (hpayload : payload.certificate = .error fault) :
    (complete caller payload (.ok v)).value = (Rejection.ofVerification fault).response := by
  rw [value_complete_of_ok, Verifier.run, v.answers_logging.value_verify, h, hpayload]
  rfl

theorem value_complete_of_certificate {v : Verifier} {caller : String} {payload : Payload}
    {c : Certificate} (h : v.refusal? caller = none) (hpayload : payload.certificate = .ok c) :
    (complete caller payload (.ok v)).value =
      match (v.lookup c).value with
      | .ok id => .json 200 (.ofMembers [("isValidClientDevice", .bool id.isSome)])
      | .error _ => failed := by
  rw [value_complete_of_ok, Verifier.run, v.answers_logging.value_verify, h, hpayload]
  dsimp only
  cases (v.lookup c).value <;> rfl

/-- A response with status 401 to an admitted request means that the caller was refused. -/
theorem refusal_of_complete {useCase : Except (Wiring.Fault String) Verifier} {caller : String}
    {payload : Payload} (h : (complete caller payload useCase).value.status = 401) :
    ∃ v reason, useCase = .ok v ∧ v.refusal? caller = some reason := by
  cases useCase with
  | error fault =>
    rw [value_complete_of_error, status_failed] at h
    cases h
  | ok v =>
    cases hrefusal : v.refusal? caller with
    | some reason => exact ⟨v, reason, rfl, hrefusal⟩
    | none =>
      -- Whatever comes after the authorization is answered with another status.
      exfalso
      cases hpayload : payload.certificate with
      | error fault =>
        obtain ⟨reason, rfl⟩ := Payload.certificate_eq_error hpayload
        rw [value_complete_of_no_certificate hrefusal hpayload] at h
        cases h
      | ok c =>
        rw [value_complete_of_certificate hrefusal hpayload] at h
        cases hlookup : (v.lookup c).value with
        | error fault =>
          rw [hlookup] at h
          cases h
        | ok id =>
          rw [hlookup] at h
          cases h

end Boundary

end DeviceIdentity
