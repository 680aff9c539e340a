import Mathlib.Data.List.GetD
import DeviceIdentity.Proofs.Authorizer
import DeviceIdentity.Proofs.Boundary.Body
import DeviceIdentity.Proofs.Service.Requests
import DeviceIdentity.Proofs.Store

/-!
# Verdicts

What every request for a verification is answered in the course of a run. Besides the request
itself, the response depends on three things only: the component that the token was issued to, the
policies of the last tree that was accepted, and the certificates that were registered in the store
that is provided. An `Account` keeps a record of these, by what was done and not by what the service
holds, and the service is shown to agree with it after every operation.
-/
namespace DeviceIdentity.Service

/-- The response that tells a problem. -/
def problem (status : Nat) (title detail : String) : Response :=
  .json status (.ofMembers [("type", .string ("https://httpstatuses.io/" ++ toString status)),
    ("title", .string title), ("status", .ofInt status), ("detail", .string detail)])

/-- The policies let a component have identities verified. -/
def Granted (policies : List Policy) (caller : String) : Prop :=
  ∃ p ∈ policies, p.scope = "aws.greengrass.clientdevices.Auth" ∧
    p.grants ⟨caller, "aws.greengrass#VerifyClientDeviceIdentity", "*"⟩ = true

/-- A certificate decodes to contents with the fingerprint of one that is registered. -/
def Known (registered : List Certificate) (c : Certificate) : Prop :=
  ∃ contents, Pem.readCertificate c.text = .ok contents ∧
    ∃ c' ∈ registered, ∃ contents', Pem.readCertificate c'.text = .ok contents' ∧
      Digest.hexDigest contents' = Digest.hexDigest contents

/-- What a request is answered, by the policies in force, the certificates that are registered, and
the component that it comes from. What it presents counts only for a component that is granted the
verification. -/
inductive Verdict (policies : List Policy) (registered : List Certificate) (r : Net.Request) :
    (component : Option String) → Response → Prop where
  | unknown : Verdict policies registered r none (problem 401 "Unauthorized" "Not Authorized")
  | denied {caller : String} (hdenied : ¬ Granted policies caller) :
      Verdict policies registered r (some caller)
        (problem 401 "Unauthorized" ("Principal " ++ caller ++
          " is not authorized to perform aws.greengrass.clientdevices.Auth:" ++
          "aws.greengrass#VerifyClientDeviceIdentity on resource *"))
  | invalid {caller detail : String} (hgranted : Granted policies caller)
      (hpresents : Boundary.Presents r (.error detail)) :
      Verdict policies registered r (some caller) (problem 400 "Bad Request" detail)
  | verified {caller : String} {c : Certificate} {valid : Bool} (hgranted : Granted policies caller)
      (hpresents : Boundary.Presents r (.ok c)) (hvalid : valid = true ↔ Known registered c) :
      Verdict policies registered r (some caller)
        (.json 200 (.ofMembers [("isValidClientDevice", .bool valid)]))

/-- There is one verdict on a request. -/
theorem Verdict.unique {policies : List Policy} {registered : List Certificate} {r : Net.Request}
    {component : Option String} {response response' : Response}
    (h : Verdict policies registered r component response)
    (h' : Verdict policies registered r component response') : response = response' := by
  have hpresents : ∀ {presented presented'}, Boundary.Presents r presented →
      Boundary.Presents r presented' → presented = presented' := fun hp hp' =>
    (Boundary.presents_iff.1 hp).trans (Boundary.presents_iff.1 hp').symm
  cases h with
  | unknown =>
    cases h'
    rfl
  | denied hdenied =>
    cases h' with
    | denied => rfl
    | invalid hgranted => exact absurd hgranted hdenied
    | verified hgranted => exact absurd hgranted hdenied
  | invalid hgranted hp =>
    cases h' with
    | denied hdenied => exact absurd hgranted hdenied
    | invalid _ hp' =>
      cases hpresents hp hp'
      rfl
    | verified _ hp' => cases hpresents hp hp'
  | verified hgranted hp hvalid =>
    cases h' with
    | denied hdenied => exact absurd hgranted hdenied
    | invalid _ hp' => cases hpresents hp hp'
    | verified _ hp' hvalid' =>
      cases hpresents hp hp'
      rw [Bool.eq_iff_iff.2 (hvalid.trans hvalid'.symm)]

/-! ## Accounts -/

/-- What can be done to a service in the course of a run. -/
inductive Operation where
  | change (m : Tree.Mutation)
  | apply
  | makeStore
  | provideStore (ref : StoreRef)
  | register (ref : StoreRef) (c : Certificate) (thing : Option Thing)
  | request (r : Net.Request)

/-- The step of the service that an operation is. -/
def Operation.step : Operation → Step
  | change m => .mutate m
  | apply => .apply
  | makeStore => .makeStore
  | provideStore ref => .provideStore ref
  | register ref c thing => .registerIn ref c thing
  | request r => .request .memory r

/-- An account of what was done: the tree, the root that was accepted last, the certificates that
were registered in each store, and the number of the store that was provided last. -/
structure Account where
  tree : Tree
  accepted : Option Json
  registered : List (List Certificate)
  provided : Option Nat

namespace Account

/-- The account of a service that has just been started. -/
def start (root : Json) (wired : Bool) : Account :=
  ⟨.ofRoot root, none, [[]], if wired then some 0 else none⟩

/-- A change of the tree, if it takes place. -/
def change (a : Account) (m : Tree.Mutation) : Account :=
  match a.tree.mutate m with
  | .ok tree => { a with tree }
  | .error _ => a

/-- The tree is applied, and accepted if it has no fault. -/
def apply (a : Account) : Account :=
  match Snapshot.ofTree a.tree.root with
  | .ok _ => { a with accepted := some a.tree.root }
  | .error _ => a

/-- A store is provided, if it was made. -/
def provideStore (a : Account) (ref : StoreRef) : Account :=
  if ref.index < a.registered.length then { a with provided := some ref.index } else a

/-- The account after an operation. -/
def perform (a : Account) : Operation → Account
  | .change m => a.change m
  | .apply => a.apply
  | .makeStore => { a with registered := a.registered ++ [[]] }
  | .provideStore ref => a.provideStore ref
  -- What is registered in a store that was not made is registered nowhere.
  | .register ref c _ => { a with registered := a.registered.modify ref.index (c :: ·) }
  | .request _ => a

/-- The account after several operations. -/
def run (a : Account) (operations : List Operation) : Account := operations.foldl perform a

end Account

/-! ## Stores and their account -/

theorem getD_concat_default {α : Type} (l : List α) (default : α) (n : Nat) :
    (l ++ [default]).getD n default = l.getD n default := by
  rcases Nat.lt_or_ge n l.length with hlt | hge
  · exact List.getD_append _ _ _ _ hlt
  · rw [List.getD_append_right _ _ _ _ hge, List.getD_eq_default _ _ hge]
    cases n - l.length <;> rfl

theorem StoreRef.store_set_self {ref : StoreRef} {stores : Stores}
    (h : ref.index < stores.length) (store : Store) :
    ref.store (stores.set ref.index store) = store := by
  unfold StoreRef.store
  rw [List.getD_eq_getElem?_getD, List.getElem?_set_self h]
  rfl

theorem StoreRef.store_set_of_ne {ref other : StoreRef} (h : ref.index ≠ other.index)
    (stores : Stores) (store : Store) :
    other.store (stores.set ref.index store) = other.store stores := by
  unfold StoreRef.store
  rw [List.getD_eq_getElem?_getD, List.getElem?_set_ne h, ← List.getD_eq_getElem?_getD]

theorem getD_modify_cons_self {registered : List (List Certificate)} {n : Nat}
    (h : n < registered.length) (c : Certificate) :
    (registered.modify n (c :: ·)).getD n [] = c :: registered.getD n [] := by
  rw [List.getD_eq_getElem?_getD, List.getElem?_modify_eq, List.getElem?_eq_getElem h,
    List.getD_eq_getElem _ _ h]
  rfl

theorem getD_modify_cons_of_ne {n m : Nat} (h : n ≠ m) (registered : List (List Certificate))
    (c : Certificate) :
    (registered.modify n (c :: ·)).getD m [] = registered.getD m [] := by
  rw [List.getD_eq_getElem?_getD, List.getElem?_modify_ne _ _ h, ← List.getD_eq_getElem?_getD]

/-- Each store knows the certificates that were registered in it, and is provided under its own
number. -/
structure Filed (stores : Stores) (handles : List (Wiring.Instance (Key.Content .memoryStore)))
    (registered : List (List Certificate)) : Prop where
  length_stores : stores.length = registered.length
  length_handles : handles.length = registered.length
  hasExactly : ∀ ref : StoreRef,
    (ref.store stores).HasExactly (registered.getD ref.index [])
  handle : ∀ n i, handles[n]? = some i → i.value = (⟨n⟩ : StoreRef)

namespace Filed

variable {stores : Stores} {handles : List (Wiring.Instance (Key.Content .memoryStore))}
  {registered : List (List Certificate)}

theorem make (h : Filed stores handles registered)
    {i : Wiring.Instance (Key.Content .memoryStore)}
    (hi : i.value = (⟨stores.length⟩ : StoreRef)) :
    Filed (stores ++ [.empty]) (handles ++ [i]) (registered ++ [[]]) where
  length_stores := by simp [h.length_stores]
  length_handles := by simp [h.length_handles]
  hasExactly := by
    intro ref
    -- A store that was not made yet counts as empty before, too.
    unfold StoreRef.store
    rw [getD_concat_default, getD_concat_default]
    exact h.hasExactly ref
  handle := by
    intro n j hn
    rcases Nat.lt_trichotomy n handles.length with hlt | rfl | hgt
    · rw [List.getElem?_append_left hlt] at hn
      exact h.handle n j hn
    · rw [List.getElem?_concat_length, Option.some.injEq] at hn
      rw [← hn, hi, h.length_stores, h.length_handles]
    · rw [List.getElem?_eq_none (by simpa using Nat.succ_le_of_lt hgt)] at hn
      cases hn

theorem register (h : Filed stores handles registered) (ref : StoreRef) (c : Certificate)
    (thing : Option Thing) :
    Filed (stores.set ref.index ((ref.store stores).register c thing).value.2) handles
      (registered.modify ref.index (c :: ·)) where
  length_stores := by simp [h.length_stores]
  length_handles := by simp [h.length_handles]
  hasExactly := by
    intro other
    rcases Nat.lt_or_ge ref.index registered.length with hlt | hge
    · have hlt' : ref.index < stores.length := h.length_stores ▸ hlt
      by_cases hindex : ref.index = other.index
      · obtain rfl : ref = other := by
          cases ref
          cases other
          exact congrArg StoreRef.mk hindex
        rw [StoreRef.store_set_self hlt', getD_modify_cons_self hlt]
        exact (h.hasExactly ref).register c thing
      · rw [StoreRef.store_set_of_ne hindex, getD_modify_cons_of_ne hindex]
        exact h.hasExactly other
    · -- Where there is no such store, nothing is registered.
      rw [List.set_eq_of_length_le (h.length_stores ▸ hge), List.modify_eq_self hge]
      exact h.hasExactly other
  handle := h.handle

end Filed

/-! ## Services and their account -/

/-- A service with these tokens holds what the account says. -/
structure Represents (tokens : Tokens) (s : Service) (a : Account) : Prop where
  tracked : s.Tracked
  tokens : s.tokens = tokens
  tree : s.tree = a.tree
  accepted : ∀ root, a.accepted = some root → ∃ snapshot, Snapshot.ofTree root = .ok snapshot ∧
    Holds s.registry.container snapshot
  filed : Filed s.stores s.handles a.registered
  provided : ∀ n, a.provided = some n → ∃ i : Wiring.Instance StoreRef,
    s.registry.container.get? .memoryStore = some i ∧ i.value = ⟨n⟩

namespace Represents

variable {tokens : Tokens} {s : Service} {a : Account}

theorem change (h : Represents tokens s a) (m : Tree.Mutation) :
    Represents tokens (s.mutate m).value.2 (a.change m) := by
  unfold mutate Account.change
  rw [h.tree]
  cases a.tree.mutate m with
  | error fault => exact h
  | ok tree => exact ⟨h.tracked, h.tokens, rfl, h.accepted, h.filed, h.provided⟩

theorem apply (h : Represents tokens s a) : Represents tokens s.apply.value.2 a.apply := by
  unfold Account.apply
  cases hsnapshot : Snapshot.ofTree s.tree.root with
  | error fault =>
    rw [apply_of_error hsnapshot, ← h.tree, hsnapshot]
    exact h
  | ok snapshot =>
    rw [apply_of_ok hsnapshot, ← h.tree, hsnapshot]
    refine ⟨h.tracked.supply snapshot, h.tokens, rfl, ?_, h.filed, ?_⟩
    · intro root hroot
      cases hroot
      exact ⟨snapshot, hsnapshot, holds_supply _ _⟩
    · intro n hn
      obtain ⟨i, hi, hvalue⟩ := h.provided n hn
      refine ⟨i, ?_, hvalue⟩
      rw [← hi]
      exact get?_supply_of_ne _ _ (by decide) (by decide)

theorem makeStore (h : Represents tokens s a) :
    Represents tokens s.makeStore (a.perform .makeStore) where
  tracked := h.tracked.makeStore
  tokens := h.tokens
  tree := h.tree
  accepted := by
    intro root hroot
    obtain ⟨snapshot, hsnapshot, hholds⟩ := h.accepted root hroot
    exact ⟨snapshot, hsnapshot, hholds.congr rfl rfl⟩
  filed := h.filed.make rfl
  provided := h.provided

theorem provideStore (h : Represents tokens s a) (ref : StoreRef) :
    Represents tokens (s.provideStore ref) (a.provideStore ref) := by
  have htracked := h.tracked.provideStore ref
  unfold Service.provideStore at htracked ⊢
  unfold Account.provideStore
  rcases Nat.lt_or_ge ref.index a.registered.length with hlt | hge
  · have hlt' : ref.index < s.handles.length := h.filed.length_handles ▸ hlt
    rw [List.getElem?_eq_getElem hlt'] at htracked ⊢
    rw [if_pos hlt]
    refine ⟨htracked, h.tokens, h.tree, ?_, h.filed, ?_⟩
    · -- The configuration is held under other types than stores are.
      intro root hroot
      obtain ⟨snapshot, hsnapshot, hholds⟩ := h.accepted root hroot
      refine ⟨snapshot, hsnapshot, hholds.congr ?_ ?_⟩
      · exact Wiring.Container.get?_provide_of_ne (by decide) _ _
      · exact Wiring.Container.get?_provide_of_ne (by decide) _ _
    · intro n hn
      cases hn
      refine ⟨s.handles[ref.index], Wiring.Container.get?_provide_self _ _, ?_⟩
      exact h.filed.handle ref.index _ (List.getElem?_eq_getElem hlt')
  · have hge' : s.handles.length ≤ ref.index := h.filed.length_handles ▸ hge
    rw [List.getElem?_eq_none hge', if_neg (Nat.not_lt.2 hge)]
    exact h

theorem register (h : Represents tokens s a) (ref : StoreRef) (c : Certificate)
    (thing : Option Thing) :
    Represents tokens (s.registerIn ref c thing).value.2 (a.perform (.register ref c thing)) where
  tracked := h.tracked
  tokens := h.tokens
  tree := h.tree
  accepted := h.accepted
  filed := h.filed.register ref c thing
  provided := h.provided

theorem get (h : Represents tokens s a) (useCase : UseCase) :
    Represents tokens (s.get useCase).2 a := by
  -- Asking for a use case may build it, and provides nothing.
  have hcontainer : (s.get useCase).2.registry.container = s.registry.container :=
    Wiring.Registry.container_get s.registry useCase
  refine ⟨h.tracked.get useCase, h.tokens, h.tree, ?_, h.filed, ?_⟩
  · rw [hcontainer]
    exact h.accepted
  · rw [hcontainer]
    exact h.provided

theorem request (h : Represents tokens s a) (backing : Backing) (r : Net.Request) :
    Represents tokens (s.request backing r).value.2 a := by
  unfold Service.request
  simp only [Noted.value_bind]
  split
  · exact h
  · exact h.get (.verify backing)

theorem perform (h : Represents tokens s a) (operation : Operation) :
    Represents tokens (s.perform operation.step).value.2 (a.perform operation) := by
  cases operation with
  | change m => exact h.change m
  | apply => exact h.apply
  | makeStore => exact h.makeStore
  | provideStore ref => exact h.provideStore ref
  | register ref c thing => exact h.register ref c thing
  | request r => exact h.request .memory r

theorem run (h : Represents tokens s a) (operations : List Operation) :
    Represents tokens (s.run (operations.map Operation.step)).value.2 (a.run operations) := by
  induction operations generalizing s a with
  | nil => exact h
  | cons operation operations ih => exact ih (h.perform operation)

end Represents

theorem represents_start (root : Json) (tokens : Tokens) (wired : Bool) :
    Represents tokens (start root tokens wired) (Account.start root wired) where
  tracked := tracked_start root tokens wired
  tokens := by cases wired <;> rfl
  tree := by cases wired <;> rfl
  accepted := by
    intro accepted h
    cases h
  filed := by
    have hnone : Filed [] [] [] :=
      ⟨rfl, rfl, fun _ => Store.hasExactly_empty, fun _ _ h => by cases h⟩
    have hmade := hnone.make (i := ⟨0, ⟨0⟩⟩) rfl
    cases wired <;> exact hmade
  provided := by
    intro n h
    cases wired with
    | false => cases h
    | true =>
      cases h
      exact ⟨⟨0, ⟨0⟩⟩, rfl, rfl⟩

/-! ## The law of verdicts -/

theorem any_same_iff {registered : List Certificate} {c : Certificate} :
    registered.any c.same = true ↔ Known registered c := by
  simp only [List.any_eq_true, Certificate.same_iff, Certificate.id_eq_ok_iff, Known]
  constructor
  · rintro ⟨c', hmem, id, ⟨contents, hcontents, rfl⟩, contents', hcontents', heq⟩
    exact ⟨contents, hcontents, c', hmem, contents', hcontents', (CertificateId.mk.inj heq).symm⟩
  · rintro ⟨contents, hcontents, c', hmem, contents', hcontents', heq⟩
    exact ⟨c', hmem, _, ⟨contents, hcontents, rfl⟩, contents', hcontents', by rw [heq]⟩

theorem message_denial (caller : String) :
    (Denial.ofPermission authService (Verifier.permissionOf caller)).message =
      "Principal " ++ caller ++
        " is not authorized to perform aws.greengrass.clientdevices.Auth:" ++
        "aws.greengrass#VerifyClientDeviceIdentity on resource *" := by
  -- The texts around the caller are put together first, each of them then is a constant.
  have hassoc (a b c d e f g h : String) :
      a ++ b ++ c ++ d ++ e ++ f ++ g ++ h = a ++ b ++ (c ++ d ++ e) ++ (f ++ g ++ h) := by
    simp only [String.append_assoc]
  exact hassoc _ _ _ _ _ _ _ _

/-- A known component is answered by the policies, by what is registered and by what it presents. -/
theorem verdict_complete {store : Store} {registered : List Certificate}
    (hstore : store.HasExactly registered) (caller : String) (policies : List Policy)
    (r : Net.Request) :
    Verdict policies registered r (some caller)
      (Boundary.complete caller (Boundary.payload r)
        (.ok ⟨(Authorizer.ofPolicies policies).decide, store.lookup⟩)).value := by
  have hdecide := Authorizer.value_decide_ofPolicies policies authService
    (Verifier.permissionOf caller)
  by_cases hgranted : Granted policies caller
  · have hrefusal : Verifier.refusal?
        ⟨(Authorizer.ofPolicies policies).decide, store.lookup⟩ caller = none := by
      simp only [Verifier.refusal?, hdecide.trans (if_pos hgranted)]
    have hpresents := Boundary.presents_payload r
    cases hpayload : (Boundary.payload r).certificate with
    | error fault =>
      -- A payload is never found to be a failure of the service.
      obtain ⟨reason, rfl⟩ := Payload.certificate_eq_error hpayload
      rw [hpayload] at hpresents
      rw [Boundary.value_complete_of_no_certificate hrefusal hpayload]
      exact .invalid hgranted hpresents
    | ok c =>
      rw [hpayload] at hpresents
      obtain ⟨found, hfound, hsome⟩ := hstore.value_lookup c
      rw [Boundary.value_complete_of_certificate hrefusal hpayload, hfound]
      refine .verified hgranted hpresents ?_
      rw [hsome, any_same_iff]
  · have hreason : Verifier.refusal?
        ⟨(Authorizer.ofPolicies policies).decide, store.lookup⟩ caller =
          some ("Principal " ++ caller ++
            " is not authorized to perform aws.greengrass.clientdevices.Auth:" ++
            "aws.greengrass#VerifyClientDeviceIdentity on resource *") := by
      simp only [Verifier.refusal?, hdecide.trans (if_neg hgranted), message_denial]
    rw [Boundary.value_complete_of_refusal hreason]
    exact .denied hgranted

/-- The collaborators of a verification are those that the account tells of. -/
theorem Represents.heldVerifier_eq {tokens : Tokens} {s : Service} {a : Account}
    (h : Represents tokens s a) {accepted : Json} {n : Nat} (haccepted : a.accepted = some accepted)
    (hprovided : a.provided = some n) :
    ∃ policies, AccessControl.policies (Snapshot.services accepted) = .ok policies ∧
      heldVerifier s.registry.container s.stores .memory =
        .ok ⟨(Authorizer.ofPolicies policies).decide,
          ((⟨n⟩ : StoreRef).store s.stores).lookup⟩ := by
  obtain ⟨snapshot, hsnapshot, hholds⟩ := h.accepted accepted haccepted
  obtain ⟨-, policies, hpolicies, hauthorizer⟩ := Snapshot.ofTree_eq_ok_iff.1 hsnapshot
  obtain ⟨i, hi, hauthority⟩ := hholds.authorizer
  obtain ⟨j, hj, hstore⟩ := h.provided n hprovided
  refine ⟨policies, hpolicies, ?_⟩
  simp only [heldVerifier, heldLookup, hi, hj, hauthority, hauthorizer, hstore]
  rfl

/-- At every point of a run at which a tree was accepted and a store is provided, a request for a
verification is answered by the verdict on the component that its token was issued to, under the
policies of the tree that was accepted last, by the certificates that were registered in the store
that is provided. -/
theorem response_eq_verdict {root : Json} {tokens : Tokens} {wired : Bool}
    {operations : List Operation} {s : Service} {a : Account}
    (hs : ((start root tokens wired).run (operations.map Operation.step)).value.2 = s)
    (ha : (Account.start root wired).run operations = a) {accepted : Json} {n : Nat}
    (haccepted : a.accepted = some accepted) (hprovided : a.provided = some n)
    {r : Net.Request} (hpost : r.method = "POST") (hroute : r.path = Boundary.route) :
    ∃ policies, AccessControl.policies (Snapshot.services accepted) = .ok policies ∧
      Verdict policies (a.registered.getD n []) r (Boundary.component? tokens r)
        (s.request .memory r).value.1 := by
  have h : Represents tokens s a := hs ▸ ha ▸ (represents_start root tokens wired).run operations
  obtain ⟨policies, hpolicies, hverifier⟩ := h.heldVerifier_eq haccepted hprovided
  refine ⟨policies, hpolicies, ?_⟩
  have htokens := congrArg (Boundary.component? · r) h.tokens
  cases hcaller : Boundary.component? tokens r with
  | none =>
    rw [value_request_of_unknown hpost hroute (htokens.trans hcaller)]
    exact .unknown
  | some caller =>
    rw [h.tracked.response_of_known hpost hroute (htokens.trans hcaller), hverifier]
    exact verdict_complete (h.filed.hasExactly ⟨n⟩) caller policies r

/-- A component is refused until a change of the tree that grants it the verification is applied. A
later change is not accepted, and the store is replaced by one in which the certificate that it
presents is registered. Then it is answered that its device is valid. -/
theorem response_eq_verdict_valid :
    ∃ (pem : Certificate) (r : Net.Request) (before operations : List Operation) (s s' : Service),
      pem.text = "-----BEGIN CERTIFICATE-----\nREVG\n-----END CERTIFICATE-----\n" ∧
      r = ⟨"POST", "/verify-client-device-identity",
        [⟨"authorization", Text.utf8 "Bearer t"⟩,
          ⟨"content-type", Text.utf8 "application/json; charset=utf-8"⟩],
        Text.utf8 ("\x7b\"version\": [1, null], \"credential\":\x7b" ++
          "\"clientDeviceCertificate\":\"-----BEGIN CERTIFICATE-----\\nREVG\\n" ++
          "-----END CERTIFICATE-----\\n\"\x7d\x7d"), none⟩ ∧
      before = [.apply,
        .change (.update [] ["services", "a", "configuration", "accessControl",
          "aws.greengrass.clientdevices.Auth", "p"] (.object [
            ("operations", .array [.string "*"]), ("resources", .array [.string "*"])]))] ∧
      operations = before ++ [.request r, .apply,
        .change (.update [] ["services", "b", "configuration", "accessControl"] .null), .apply,
        .makeStore, .register ⟨1⟩ pem none, .provideStore ⟨1⟩] ∧
      s = ((start (.object []) ⟨[("a", "t")]⟩ true).run (before.map Operation.step)).value.2 ∧
      s' = ((start (.object []) ⟨[("a", "t")]⟩ true).run (operations.map Operation.step)).value.2 ∧
      (s.request .memory r).value.1 = problem 401 "Unauthorized"
        ("Principal a is not authorized to perform aws.greengrass.clientdevices.Auth:" ++
          "aws.greengrass#VerifyClientDeviceIdentity on resource *") ∧
      (s'.request .memory r).value.1 =
        .json 200 (.ofMembers [("isValidClientDevice", .bool true)]) := by
  refine ⟨⟨_, by decide⟩, _, _, _, _, _, rfl, rfl, rfl, rfl, rfl, rfl, ?_, ?_⟩
  · refine Exists.elim (@response_eq_verdict _ _ _ _ _ _ rfl rfl ?accepted 0 ?haccepted ?hprovided _
      ?hpost ?hroute) fun policies h => h.2.unique ?verdict
    case haccepted => rfl
    case hprovided => rfl
    case hpost => rfl
    case hroute => decide
    case verdict =>
      obtain ⟨hpolicies, -⟩ := h
      cases hpolicies
      generalize hcomponent : Boundary.component? _ _ = component
      obtain rfl : component = some "a" := hcomponent.symm.trans (by decide +kernel)
      have hdenied : ¬ Granted [] "a" := fun ⟨_, hmem, _⟩ => absurd hmem List.not_mem_nil
      exact .denied hdenied
  · refine Exists.elim (@response_eq_verdict _ _ _ _ _ _ rfl rfl ?changed 1 ?hchanged ?hreplaced _
      ?hpost' ?hroute') fun policies h => h.2.unique ?verdict'
    case hchanged => rfl
    case hreplaced => rfl
    case hpost' => rfl
    case hroute' => decide
    case verdict' =>
      obtain ⟨hpolicies, -⟩ := h
      cases hpolicies
      have hgranted : Granted [⟨"p", "a", "aws.greengrass.clientdevices.Auth", ["*"], ["*"]⟩] "a" :=
        ⟨_, List.mem_singleton_self _, rfl, Policy.grants_of_stars (by decide) _ _ _ _⟩
      generalize hcomponent : Boundary.component? _ _ = component
      obtain rfl : component = some "a" := hcomponent.symm.trans (by decide +kernel)
      refine .verified hgranted
        (c := ⟨"-----BEGIN CERTIFICATE-----\nREVG\n-----END CERTIFICATE-----\n", by decide⟩)
        (Boundary.presents_iff.2 ?_) ?_
      · unfold Boundary.payload
        rw [Text.Glyph.ofBytes_of_ascii (by decide +kernel)]
        decide +kernel
      · refine iff_of_true rfl ⟨[68, 69, 70], ?_, _, List.mem_singleton_self _, _, ?_, rfl⟩
        all_goals decide +kernel

end DeviceIdentity.Service
