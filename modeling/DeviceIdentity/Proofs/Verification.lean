import DeviceIdentity.Proofs.Boundary.Answering

/-!
# What a verification asks

A verification asks the authorizer before anything else, and only once. The store is asked if the
caller is authorized and presents a certificate, and then once, for that certificate. What the
collaborators answer decides the outcome, whatever they are. The questions are those of which the
collaborators themselves have taken a note.
-/
namespace DeviceIdentity.Verifier

/-- Whether a step is a question to a collaborator. -/
def Step.isQuestion : Step → Bool
  | authorize _ _ => true
  | lookup _ => true
  | event _ => false

/-- The questions that are asked during a verification, in order. -/
def questions (v : Verifier) (caller : String) (payload : Payload) : List Step :=
  (v.verify caller payload).notes.filter Step.isQuestion

/-- How a verification goes on after the answer of the authorizer: the certificates that the store
is asked for, and the outcome. -/
inductive Sequel (v : Verifier) :
    Except Denial Bool → Payload → List Certificate → Except VerificationFault Bool → Prop
  | denied {denial : Denial} {payload : Payload} :
      Sequel v (.error denial) payload [] (.error (.unauthorized denial.message))
  | notGranted {payload : Payload} :
      Sequel v (.ok false) payload [] (.error (.unauthorized "Not Authorized"))
  | malformed {detail : String} :
      Sequel v (.ok true) (.malformed detail) [] (.error (.invalidArgument detail))
  | missing :
      Sequel v (.ok true) .missing []
        (.error (.invalidArgument "Client device credential is required"))
  | noCertificate {payload : Payload}
      (hpayload : payload = .present none ∨ payload = .present (some "")) :
      Sequel v (.ok true) payload []
        (.error (.invalidArgument "Client device certificate is required"))
  | known {c : Certificate} {id : CertificateId} (hlookup : (v.lookup c).value = .ok (some id)) :
      Sequel v (.ok true) (.present (some c.text)) [c] (.ok true)
  | unknown {c : Certificate} (hlookup : (v.lookup c).value = .ok none) :
      Sequel v (.ok true) (.present (some c.text)) [c] (.ok false)
  | failed {c : Certificate} {fault : Fault} (hlookup : (v.lookup c).value = .error fault) :
      Sequel v (.ok true) (.present (some c.text)) [c] (.error .serviceError)

/-- How a verification goes: the questions that it asks, and its outcome. The first question is
always the one to the authorizer. -/
def Course (v : Verifier) (caller : String) (payload : Payload) (asked : List Step)
    (outcome : Except VerificationFault Bool) : Prop :=
  ∃ certificates : List Certificate,
    asked = .authorize "aws.greengrass.clientdevices.Auth"
        ⟨caller, "aws.greengrass#VerifyClientDeviceIdentity", "*"⟩ ::
      certificates.map .lookup ∧
    Sequel v
      (v.authorize "aws.greengrass.clientdevices.Auth"
        ⟨caller, "aws.greengrass#VerifyClientDeviceIdentity", "*"⟩).value
      payload certificates outcome

variable {v : Verifier} {caller : String} {payload : Payload}

/-! ## Questions -/

theorem answers_recording (v : Verifier) : v.recording.Answers v :=
  ⟨fun _ _ => rfl, fun _ => rfl⟩

theorem filter_events (events : List Event) : (events.map Step.event).filter Step.isQuestion = [] :=
  List.filter_eq_nil_iff.2 (by simp [Step.isQuestion])

theorem questions_authorizeCaller (v : Verifier) (caller : String) :
    (v.recording.authorizeCaller caller).notes.filter Step.isQuestion =
      [.authorize authService (permissionOf caller)] := by
  simp only [Collaborators.authorizeCaller, recording, Noted.notes_bind, Noted.notes_note,
    Noted.notes_mapNotes, Noted.value_bind, Noted.value_mapNotes, List.filter_append, filter_events]
  rcases (v.authorize authService (permissionOf caller)).value with denial | granted
  · rfl
  · cases granted <;> rfl

theorem questions_lookupCertificate (v : Verifier) (caller : String) (c : Certificate) :
    (v.recording.lookupCertificate caller c).notes.filter Step.isQuestion = [.lookup c] := by
  simp only [Collaborators.lookupCertificate, recording, Noted.notes_bind, Noted.notes_note,
    Noted.notes_mapNotes, Noted.value_bind, Noted.value_mapNotes, List.filter_append, filter_events]
  cases (v.lookup c).value <;> rfl

/-- A caller that is refused ends the verification, whatever its payload. -/
theorem verify_of_refusal {reason : String} (h : v.refusal? caller = some reason)
    (payload : Payload) :
    v.verify caller payload =
      ⟨.error (.unauthorized reason), (v.recording.authorizeCaller caller).notes⟩ := by
  have hvalue := v.answers_recording.value_authorizeCaller caller
  rw [h] at hvalue
  simp [verify, Collaborators.verify, bind, hvalue, pure]

/-- The store is asked for the certificate of the payload, unless the caller is refused. -/
theorem questions_eq (v : Verifier) (caller : String) (payload : Payload) :
    v.questions caller payload =
      match v.refusal? caller with
      | some _ => [.authorize authService (permissionOf caller)]
      | none =>
        match payload.certificate with
        | .error _ => [.authorize authService (permissionOf caller)]
        | .ok c => [.authorize authService (permissionOf caller), .lookup c] := by
  simp only [questions, verify, Collaborators.verify, Noted.notes_bind, List.filter_append,
    questions_authorizeCaller, v.answers_recording.value_authorizeCaller]
  cases v.refusal? caller with
  | some reason => rfl
  | none =>
    cases payload.certificate with
    | error fault => rfl
    | ok c => exact congrArg (List.cons _) (questions_lookupCertificate v caller c)

/-! ## The record and the log -/

theorem chooseNotes_mapNotes_event {α : Type} (x : Logged α) :
    (x.mapNotes Step.event).chooseNotes Step.event? = x := by
  have hnotes : (x.notes.map Step.event).filterMap Step.event? = x.notes := by
    rw [List.filterMap_map]
    exact List.filterMap_some
  exact congrArg (Noted.mk x.value) hnotes

/-- A question leaves the events behind that the collaborator logs, besides the note of it. -/
theorem chooseNotes_asked {α : Type} {question : Step} (h : question.event? = none)
    (x : Logged α) :
    (do
      .note question
      x.mapNotes Step.event : Noted Step α).chooseNotes Step.event? = x := by
  have hquestion : (Noted.note question).chooseNotes Step.event? = pure () := by
    simp [Noted.note, Noted.chooseNotes, h, pure]
  rw [Noted.chooseNotes_bind, hquestion, pure_bind, chooseNotes_mapNotes_event]

theorem chooseNotes_authorizeCaller (v : Verifier) (caller : String) :
    (v.recording.authorizeCaller caller).chooseNotes Step.event? =
      v.logging.authorizeCaller caller := by
  simp only [Collaborators.authorizeCaller, Noted.chooseNotes_bind]
  refine congr (congrArg _ (chooseNotes_asked rfl _)) (funext fun answer => ?_)
  rcases answer with denial | granted
  · rfl
  · cases granted <;> rfl

theorem chooseNotes_lookupCertificate (v : Verifier) (caller : String) (c : Certificate) :
    (v.recording.lookupCertificate caller c).chooseNotes Step.event? =
      v.logging.lookupCertificate caller c := by
  simp only [Collaborators.lookupCertificate, Noted.chooseNotes_bind]
  refine congr (congrArg _ (chooseNotes_asked rfl _)) (funext fun answer => ?_)
  cases answer <;> rfl

/-- What the service runs is the verification of which a record is kept, without the record. -/
theorem run_eq_chooseNotes (v : Verifier) (caller : String) (payload : Payload) :
    v.run caller payload = (v.verify caller payload).chooseNotes Step.event? := by
  simp only [run, verify, Collaborators.verify, Noted.chooseNotes_bind,
    chooseNotes_authorizeCaller]
  refine congrArg _ (funext fun result => ?_)
  cases result with
  | error fault => rfl
  | ok granted =>
    cases payload.certificate with
    | error fault => rfl
    | ok c => exact (chooseNotes_lookupCertificate v caller c).symm

/-! ## Courses -/

theorem value_verify (v : Verifier) (caller : String) (payload : Payload) :
    (v.verify caller payload).value =
      match v.refusal? caller with
      | some reason => .error (.unauthorized reason)
      | none =>
        match payload.certificate with
        | .error fault => .error fault
        | .ok c =>
          match (v.lookup c).value with
          | .ok id => .ok id.isSome
          | .error _ => .error .serviceError :=
  v.answers_recording.value_verify caller payload

theorem refusal?_of_error {denial : Denial}
    (h : (v.authorize authService (permissionOf caller)).value = .error denial) :
    v.refusal? caller = some denial.message := by
  simp only [refusal?, h]

theorem refusal?_of_not_granted
    (h : (v.authorize authService (permissionOf caller)).value = .ok false) :
    v.refusal? caller = some "Not Authorized" := by
  simp only [refusal?, h]
  rfl

theorem certificate_of_no_text (h : payload = .present none ∨ payload = .present (some "")) :
    payload.certificate = .error (.invalidArgument "Client device certificate is required") := by
  rcases h with rfl | rfl <;> rfl

/-- A verification goes no other way than its course. -/
theorem Course.eq {asked : List Step} {outcome : Except VerificationFault Bool}
    (h : Course v caller payload asked outcome) :
    v.questions caller payload = asked ∧ (v.verify caller payload).value = outcome := by
  obtain ⟨certificates, rfl, h⟩ := h
  generalize hanswer : (v.authorize _ _).value = answer at h
  rw [questions_eq, value_verify]
  cases h with
  | denied =>
    rw [refusal?_of_error hanswer]
    exact ⟨rfl, rfl⟩
  | notGranted =>
    rw [refusal?_of_not_granted hanswer]
    exact ⟨rfl, rfl⟩
  | malformed =>
    rw [refusal?_eq_none_iff.2 hanswer]
    exact ⟨rfl, rfl⟩
  | missing =>
    rw [refusal?_eq_none_iff.2 hanswer]
    exact ⟨rfl, rfl⟩
  | noCertificate hpayload =>
    rw [refusal?_eq_none_iff.2 hanswer, certificate_of_no_text hpayload]
    exact ⟨rfl, rfl⟩
  | known hlookup =>
    rw [refusal?_eq_none_iff.2 hanswer, Payload.certificate_eq_ok_iff.2 rfl]
    exact ⟨rfl, by simp only [hlookup, Option.isSome_some]⟩
  | unknown hlookup =>
    rw [refusal?_eq_none_iff.2 hanswer, Payload.certificate_eq_ok_iff.2 rfl]
    exact ⟨rfl, by simp only [hlookup, Option.isSome_none]⟩
  | failed hlookup =>
    rw [refusal?_eq_none_iff.2 hanswer, Payload.certificate_eq_ok_iff.2 rfl]
    exact ⟨rfl, by simp only [hlookup]⟩

theorem exists_sequel_of_granted (v : Verifier) (payload : Payload) :
    ∃ certificates outcome, Sequel v (.ok true) payload certificates outcome := by
  cases payload with
  | missing => exact ⟨_, _, .missing⟩
  | malformed detail => exact ⟨_, _, .malformed⟩
  | present text =>
    cases text with
    | none => exact ⟨_, _, .noCertificate (.inl rfl)⟩
    | some text =>
      by_cases hempty : text = ""
      · subst hempty
        exact ⟨_, _, .noCertificate (.inr rfl)⟩
      · cases hlookup : (v.lookup ⟨text, hempty⟩).value with
        | error fault => exact ⟨_, _, .failed hlookup⟩
        | ok id =>
          cases id with
          | none => exact ⟨_, _, .unknown hlookup⟩
          | some id => exact ⟨_, _, .known hlookup⟩

theorem exists_sequel (v : Verifier) (answer : Except Denial Bool) (payload : Payload) :
    ∃ certificates outcome, Sequel v answer payload certificates outcome := by
  cases answer with
  | error denial => exact ⟨_, _, .denied⟩
  | ok granted =>
    cases granted with
    | false => exact ⟨_, _, .notGranted⟩
    | true => exact exists_sequel_of_granted v payload

theorem course_iff {asked : List Step} {outcome : Except VerificationFault Bool} :
    Course v caller payload asked outcome ↔
      v.questions caller payload = asked ∧ (v.verify caller payload).value = outcome := by
  constructor
  · exact Course.eq
  · rintro ⟨rfl, rfl⟩
    obtain ⟨certificates, outcome, hsequel⟩ := exists_sequel v _ payload
    have hcourse : Course v caller payload _ outcome := ⟨certificates, rfl, hsequel⟩
    rwa [hcourse.eq.1, hcourse.eq.2]

/-- The store is asked for a certificate exactly when the caller is granted the permission and
presents the certificate. -/
theorem lookup_mem_notes_iff {c : Certificate} :
    .lookup c ∈ (v.verify caller payload).notes ↔
      (v.authorize authService (permissionOf caller)).value = .ok true ∧
        payload = .present (some c.text) := by
  have hquestions : .lookup c ∈ v.questions caller payload ↔
      .lookup c ∈ (v.verify caller payload).notes := by
    simp [questions, Step.isQuestion]
  rw [← hquestions, questions_eq, ← refusal?_eq_none_iff, ← Payload.certificate_eq_ok_iff]
  cases v.refusal? caller with
  | some reason => simp
  | none =>
    cases payload.certificate with
    | error fault => simp
    | ok c' => simp [eq_comm]

/-- Only whether the store fails counts, not how. -/
theorem value_verify_congr {v' : Verifier} (hauthorize : v'.authorize = v.authorize)
    (hlookup : ∀ c, (v'.lookup c).value.toOption = (v.lookup c).value.toOption) (caller : String)
    (payload : Payload) : (v'.verify caller payload).value = (v.verify caller payload).value := by
  have hrefusal : v'.refusal? caller = v.refusal? caller := by
    rw [refusal?, refusal?, hauthorize]
  rw [value_verify, value_verify, hrefusal]
  cases v.refusal? caller with
  | some reason => rfl
  | none =>
    cases payload.certificate with
    | error fault => rfl
    | ok c =>
      have hc := hlookup c
      dsimp only
      generalize (v'.lookup c).value = found' at hc ⊢
      generalize (v.lookup c).value = found at hc ⊢
      cases found <;> cases found' <;> cases hc <;> rfl

/-- Whatever the collaborators are, a verification goes as its course says, by the record that they
keep: the authorizer is asked first and once, and the store at most once, exactly when the caller is
granted the permission and presents a certificate, and for that one. A caller that is not granted
the permission cannot tell from the outcome what its payload was, and no caller how the store has
failed. Apart from the record, it is the verification that the service runs. -/
theorem verify_course (v : Verifier) (caller : String) (payload : Payload) :
    v.run caller payload = (v.verify caller payload).chooseNotes Step.event? ∧
    (∀ asked outcome, Course v caller payload asked outcome ↔
      v.questions caller payload = asked ∧ (v.verify caller payload).value = outcome) ∧
    (v.verify caller payload).notes.head? =
      some (.authorize "aws.greengrass.clientdevices.Auth"
        ⟨caller, "aws.greengrass#VerifyClientDeviceIdentity", "*"⟩) ∧
    (∀ c, .lookup c ∈ (v.verify caller payload).notes ↔
      (v.authorize "aws.greengrass.clientdevices.Auth"
          ⟨caller, "aws.greengrass#VerifyClientDeviceIdentity", "*"⟩).value = .ok true ∧
        payload = .present (some c.text)) ∧
    ((v.authorize "aws.greengrass.clientdevices.Auth"
          ⟨caller, "aws.greengrass#VerifyClientDeviceIdentity", "*"⟩).value ≠ .ok true →
      ∀ payload', v.verify caller payload' = v.verify caller payload) ∧
    ∀ v' : Verifier, v'.authorize = v.authorize →
      (∀ c, (v'.lookup c).value.toOption = (v.lookup c).value.toOption) →
        (v'.verify caller payload).value = (v.verify caller payload).value := by
  refine ⟨v.run_eq_chooseNotes caller payload, fun asked outcome => course_iff, rfl,
    fun c => lookup_mem_notes_iff, ?_, ?_⟩
  · intro hanswer payload'
    cases hrefusal : v.refusal? caller with
    | none => exact absurd (refusal?_eq_none_iff.1 hrefusal) hanswer
    | some reason => rw [verify_of_refusal hrefusal, verify_of_refusal hrefusal]
  · intro v' hauthorize hlookup
    exact value_verify_congr hauthorize hlookup caller payload

end DeviceIdentity.Verifier
