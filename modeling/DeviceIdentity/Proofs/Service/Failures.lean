import DeviceIdentity.Proofs.Authorizer
import DeviceIdentity.Proofs.Service.Provisions
import DeviceIdentity.Proofs.Service.Requests

/-!
# Failures inside the service

What a caller is told when the service fails. A use case that cannot be had and a store that cannot
be asked reach the caller on different ways, and end in one response: neither which of them it was
nor the words of the fault can be told from it.
-/
namespace DeviceIdentity

namespace Boundary

/-- Answering an admitted request fails inside the service: there is no use case, or its store
cannot be asked. -/
def FailsInside (caller : String) (payload : Payload) :
    Except (Wiring.Fault String) Verifier → Prop
  | .error _ => True
  | .ok v => v.refusal? caller = none ∧ ∃ c : Certificate, payload = .present (some c.text) ∧
      ∃ fault, (v.lookup c).value = .error fault

section Completing

variable {caller : String} {payload : Payload} {useCase : Except (Wiring.Fault String) Verifier}

/-- No part of a fault reaches the caller. -/
theorem value_complete_of_failsInside (h : FailsInside caller payload useCase) :
    (complete caller payload useCase).value = failed := by
  cases useCase with
  | error fault => exact value_complete_of_error caller payload fault
  | ok v =>
    obtain ⟨hrefusal, c, hpayload, fault, hlookup⟩ := h
    rw [value_complete_of_certificate hrefusal (Payload.certificate_eq_ok_iff.2 hpayload), hlookup]

/-- Nothing but a failure inside the service is answered with status 500. -/
theorem failsInside_of_complete (h : (complete caller payload useCase).value.status = 500) :
    FailsInside caller payload useCase := by
  cases useCase with
  | error fault => trivial
  | ok v =>
    cases hrefusal : v.refusal? caller with
    | some reason =>
      rw [value_complete_of_refusal hrefusal] at h
      cases h
    | none =>
      refine ⟨hrefusal, ?_⟩
      cases hpayload : payload.certificate with
      | error fault =>
        obtain ⟨reason, rfl⟩ := Payload.certificate_eq_error hpayload
        rw [value_complete_of_no_certificate hrefusal hpayload] at h
        cases h
      | ok c =>
        refine ⟨c, Payload.certificate_eq_ok_iff.1 hpayload, ?_⟩
        rw [value_complete_of_certificate hrefusal hpayload] at h
        cases hlookup : (v.lookup c).value with
        | error fault => exact ⟨fault, rfl⟩
        | ok id =>
          rw [hlookup] at h
          cases h

end Completing

end Boundary

namespace Service

/-! ## Where a verification fails -/

/-- The authorizer that the container holds grants the caller what it asks for. -/
def Authorized (s : Service) (caller : String) : Prop :=
  ∃ i : Wiring.Instance Authorizer, s.registry.container.get? .authorizer = some i ∧
    (i.value.decide authService (Verifier.permissionOf caller)).value = .ok true

/-- The store that the container holds fails when a certificate is looked up. -/
def LookupFails (s : Service) (backing : Backing) (c : Certificate) : Prop :=
  ∃ lookup fault, heldLookup s.registry.container s.stores backing = .ok lookup ∧
    (lookup c).value = .error fault

/-- A verification can be had unless something that it needs is not held. -/
theorem heldVerifier_eq_error_iff {c : Container} (htyped : c.entries.WellTyped) {stores : Stores}
    {backing : Backing} :
    (∃ fault, heldVerifier c stores backing = .error fault) ↔
      ∃ key ∈ UseCase.needs (.verify backing), ¬ c.contains key = true := by
  have hneeds : UseCase.needs (.verify backing) = [.authorizer, backing.key] := by
    cases backing <;> rfl
  simp only [hneeds, List.mem_cons, List.not_mem_nil, or_false, exists_eq_or_imp, exists_eq_left]
  rw [← Wiring.Container.isSome_get? htyped, ← @heldLookup_eq_ok_iff c htyped stores backing]
  unfold heldVerifier
  cases c.get? .authorizer with
  | none => simp
  | some i => cases heldLookup c stores backing <;> simp [Except.map]

section Failing

variable {s : Service} {backing : Backing}

theorem failsInside_heldVerifier_iff (hs : s.Tracked) {caller : String} {payload : Payload} :
    Boundary.FailsInside caller payload
        (heldVerifier s.registry.container s.stores backing) ↔
      (∃ key ∈ UseCase.needs (.verify backing), ¬ s.registry.container.contains key = true) ∨
        s.Authorized caller ∧ ∃ c : Certificate, payload = .present (some c.text) ∧
          s.LookupFails backing c := by
  rw [← @heldVerifier_eq_error_iff _ hs.typed.entries s.stores backing]
  cases hverifier : heldVerifier s.registry.container s.stores backing with
  | error fault => exact iff_of_true trivial (.inl ⟨fault, rfl⟩)
  | ok v =>
    obtain ⟨i, lookup, hauthorizer, hlookup, rfl⟩ := heldVerifier_eq_ok hverifier
    have hauthorized : s.Authorized caller ↔
        (i.value.decide authService (Verifier.permissionOf caller)).value = .ok true := by
      refine ⟨?_, fun h => ⟨i, hauthorizer, h⟩⟩
      rintro ⟨j, hj, h⟩
      cases hauthorizer.symm.trans hj
      exact h
    have hfails : ∀ c, s.LookupFails backing c ↔ ∃ fault, (lookup c).value = .error fault := by
      simp [LookupFails, hlookup]
    simp only [Boundary.FailsInside, Verifier.refusal?_eq_none_iff, hauthorized, hfails,
      reduceCtorEq, exists_false, false_or]

/-! ## The law of failures -/

/-- A request with a known token is answered with status 500 exactly if the verification fails
inside the service, and then always alike. -/
theorem Tracked.failed_iff {caller : String} {r : Net.Request} (hs : s.Tracked)
    (hpost : r.method = "POST") (hroute : r.path = Boundary.route)
    (hcaller : Boundary.component? s.tokens r = some caller) :
    ((s.request backing r).value.1.status = 500 →
      (s.request backing r).value.1 = Boundary.failed) ∧
    ((s.request backing r).value.1.status = 500 ↔
      Boundary.FailsInside caller (Boundary.payload r)
        (heldVerifier s.registry.container s.stores backing)) := by
  rw [hs.response_of_known hpost hroute hcaller]
  refine ⟨fun h => ?_, Boundary.failsInside_of_complete, fun h => ?_⟩
  · exact Boundary.value_complete_of_failsInside (Boundary.failsInside_of_complete h)
  · rw [Boundary.value_complete_of_failsInside h, Boundary.status_failed]

/-- In every state that a service can reach, whatever it was configured with and whatever its stores
answer: all requests for a verification that are answered with status 500 are answered alike. This
happens exactly if the token is known, and either something that the verification needs was never
provided, or the caller is authorized, there is a certificate in the payload and looking it up
fails. -/
theorem status_eq_internal_iff {root : Json} {tokens : Tokens} {wired : Bool} {steps : List Step}
    {s : Service} (hs : ((start root tokens wired).run steps).value.2 = s) {backing : Backing}
    {r : Net.Request} (hpost : r.method = "POST") (hroute : r.path = Boundary.route) :
    ((s.request backing r).value.1.status = 500 →
      (s.request backing r).value.1 = .json 500 (.ofMembers [
        ("type", .string "https://httpstatuses.io/500"), ("title", .string "Internal Server Error"),
        ("status", .ofInt 500), ("detail", .string serviceErrorMessage)])) ∧
    ((s.request backing r).value.1.status = 500 ↔
      ∃ caller, Boundary.component? tokens r = some caller ∧
        ((∃ key ∈ UseCase.needs (.verify backing), ¬ Provided root tokens wired steps key) ∨
          s.Authorized caller ∧ ∃ c : Certificate, Boundary.payload r = .present (some c.text) ∧
            s.LookupFails backing c)) := by
  have htracked : s.Tracked := hs ▸ (tracked_start root tokens wired).run steps
  have htokens : s.tokens = tokens := (hs ▸ (steady_start root tokens wired).run steps).tokens
  have hprovided : ∀ key, s.registry.container.contains key = true ↔
      Provided root tokens wired steps key := fun key => hs ▸ contains_iff_provided
  cases hcaller : Boundary.component? tokens r with
  | none =>
    have hunknown : (s.request backing r).value.1 = Boundary.refused notAuthorizedMessage := by
      rw [value_request_of_unknown hpost hroute (htokens ▸ hcaller)]
    rw [hunknown]
    have hstatus : (Boundary.refused notAuthorizedMessage).status ≠ 500 := by decide
    exact ⟨fun h => absurd h hstatus, iff_of_false hstatus (by simp)⟩
  | some caller =>
    have hknown : Boundary.component? s.tokens r = some caller := htokens ▸ hcaller
    obtain ⟨hfailed, hiff⟩ := htracked.failed_iff hpost hroute hknown
    refine ⟨hfailed, hiff.trans ?_⟩
    rw [failsInside_heldVerifier_iff htracked]
    simp only [hprovided, Option.some.injEq, exists_eq_left']

/-- A component with a policy, whose certificate a database fails to look up. -/
theorem status_eq_internal_iff_database :
    ∃ (s : Service) (r : Net.Request),
      s = ((start (.object [("services", .object [("a", .object [("configuration",
        .object [("accessControl", .object [(authService, .object [("p", .object [
          ("operations", .array [.string "*"]), ("resources", .array [.string "*"])])])])])])])])
        ⟨[("a", "t")]⟩ true).run
          [.apply, .provideDatabase ⟨fun _ =>
            return .error (.file (.other "disk on fire"))⟩]).value.2 ∧
      r = ⟨"POST", "/verify-client-device-identity",
        [⟨"authorization", Text.utf8 "Bearer t"⟩,
          ⟨"content-type", Text.utf8 "application/json"⟩],
        Text.utf8 "\x7b\"credential\":\x7b\"clientDeviceCertificate\":\"x\"\x7d\x7d", none⟩ ∧
      (s.request .database r).value.1.status = 500 ∧
      (s.request .database r).value.1 = .json 500 (.ofMembers [
        ("type", .string "https://httpstatuses.io/500"), ("title", .string "Internal Server Error"),
        ("status", .ofInt 500), ("detail", .string serviceErrorMessage)]) := by
  have hgrants : (Policy.mk "p" "a" authService ["*"] ["*"]).grants
      (Verifier.permissionOf "a") = true :=
    Policy.grants_of_stars (by decide) _ _ _ _
  have hdecide : ((Authorizer.ofPolicies [⟨"p", "a", authService, ["*"], ["*"]⟩]).decide
      authService (Verifier.permissionOf "a")).value = .ok true := by
    rw [Authorizer.value_decide_ofPolicies, if_pos ⟨_, List.mem_singleton_self _, rfl, hgrants⟩]
  refine ⟨_, _, rfl, rfl, ?status, (status_eq_internal_iff rfl (by decide) (by decide)).1 ?status⟩
  refine (status_eq_internal_iff rfl (by decide) (by decide)).2.2
    ⟨"a", by decide +kernel, .inr ⟨⟨⟨3, _⟩, rfl, hdecide⟩, ⟨"x", by decide⟩, ?_, _, _, rfl, rfl⟩⟩
  -- The reading of glyphs does not evaluate, but that of ASCII characters is known.
  unfold Boundary.payload
  rw [Text.Glyph.ofBytes_of_ascii (by decide +kernel)]
  decide +kernel

end Failing

end Service

end DeviceIdentity
