import DeviceIdentity.Proofs.Service.Requests

/-!
# Refusals

What a refusal may depend on. A caller that is not authorized is answered by its token and by the
policies alone: neither what it sends along nor what is registered makes a difference.
-/
namespace DeviceIdentity.Service

/-- Two services agree on what a refusal depends on: the tokens, the policies, and that some store
is wired. -/
structure AgreeOnCallers (s : Service) (backing : Backing) (s' : Service) (backing' : Backing) :
    Prop where
  tokens : s'.tokens = s.tokens
  authorizer :
    s'.registry.container.get? .authorizer = s.registry.container.get? .authorizer
  wired : s.registry.container.contains backing.key = true →
    s'.registry.container.contains backing'.key = true

/-- The reasons of an authorizer do not depend on the store. -/
theorem AgreeOnCallers.refusal {s s' : Service} {backing backing' : Backing}
    (h : AgreeOnCallers s backing s' backing') (hs : s.Tracked) (hs' : s'.Tracked)
    {v : Verifier} {caller reason : String}
    (hv : heldVerifier s.registry.container s.stores backing = .ok v)
    (hreason : v.refusal? caller = some reason) :
    ∃ v', heldVerifier s'.registry.container s'.stores backing' = .ok v' ∧
      v'.refusal? caller = some reason := by
  obtain ⟨i, lookup, hauthorizer, hlookup, rfl⟩ := heldVerifier_eq_ok hv
  have hwired := h.wired ((heldLookup_eq_ok_iff hs.typed.entries).1 ⟨lookup, hlookup⟩)
  obtain ⟨lookup', hlookup'⟩ := (heldLookup_eq_ok_iff hs'.typed.entries).2 hwired
  -- The two verifications differ in how they look certificates up, which no refusal asks for.
  refine ⟨⟨i.value.decide, lookup'⟩, ?_, hreason⟩
  unfold heldVerifier
  rw [h.authorizer, hauthorizer, hlookup']
  rfl

/-- Of two requests with one token, in services that agree on callers, both are refused alike or
none is. -/
theorem AgreeOnCallers.response_eq {s s' : Service} {backing backing' : Backing}
    (h : AgreeOnCallers s backing s' backing') (hs : s.Tracked) (hs' : s'.Tracked)
    {r r' : Net.Request} (hpost : r.method = "POST") (hroute : r.path = Boundary.route)
    (hpost' : r'.method = "POST") (hroute' : r'.path = Boundary.route)
    (hheader : Net.firstHeader? "Authorization" r'.headers =
      Net.firstHeader? "Authorization" r.headers)
    (hstatus : (s.request backing r).value.1.status = 401) :
    (s'.request backing' r').value.1 = (s.request backing r).value.1 := by
  have hcomponent : Boundary.component? s'.tokens r' = Boundary.component? s.tokens r := by
    rw [h.tokens, Boundary.component?_congr s.tokens hheader]
  cases hcaller : Boundary.component? s.tokens r with
  | none =>
    rw [value_request_of_unknown hpost hroute hcaller,
      value_request_of_unknown hpost' hroute' (hcomponent.trans hcaller)]
  | some caller =>
    rw [hs.response_of_known hpost hroute hcaller] at hstatus ⊢
    rw [hs'.response_of_known hpost' hroute' (hcomponent.trans hcaller)]
    -- The caller was refused by the authorizer, which the other service holds as well.
    obtain ⟨v, reason, hv, hreason⟩ := Boundary.refusal_of_complete hstatus
    obtain ⟨v', hv', hreason'⟩ := h.refusal hs hs' hv hreason
    rw [hv, hv', Boundary.value_complete_of_refusal hreason,
      Boundary.value_complete_of_refusal hreason']

/-! ## Another store -/

/-- The service with a new store of these contents wired in place of the one before. -/
def withStore (s : Service) (store : Store) : Service :=
  (s.makeStore.setStore ⟨s.stores.length⟩ store).provideStore ⟨s.stores.length⟩

/-- The stores have other contents, or another store is wired. -/
inductive Rewired (s : Service) : Service → Prop where
  | contents (stores : Stores) : Rewired s { s with stores }
  | made (ref : StoreRef) : Rewired s (s.provideStore ref)
  | new (store : Store) : Rewired s (s.withStore store)
  | database (database : Database) : Rewired s (s.provideDatabase database)

theorem Rewired.tracked {s s' : Service} (h : Rewired s s') (hs : s.Tracked) : s'.Tracked := by
  cases h with
  | contents stores => exact hs
  | made ref => exact hs.provideStore ref
  | new store =>
    have hmade : (s.makeStore.setStore ⟨s.stores.length⟩ store).Tracked := hs.makeStore
    exact hmade.provideStore _
  | database database => exact hs.provideDatabase database

theorem Rewired.agreeOnCallers {s s' : Service} (h : Rewired s s') (backing : Backing) :
    AgreeOnCallers s backing s' backing := by
  cases h with
  | contents stores => exact ⟨rfl, rfl, id⟩
  | made ref =>
    refine ⟨tokens_provideStore s ref, get?_provideStore_of_ne s ref (by decide), ?_⟩
    intro hwired
    exact contains_provideStore hwired ref
  | new store =>
    refine ⟨tokens_provideStore _ _, get?_provideStore_of_ne _ _ (by decide), ?_⟩
    intro hwired
    have hmade : (s.makeStore.setStore ⟨s.stores.length⟩ store).registry.container.contains
        backing.key = true := hwired
    exact contains_provideStore hmade _
  | database database =>
    refine ⟨rfl, get?_provideDatabase_of_ne s database (by decide), ?_⟩
    intro hwired
    exact contains_provideDatabase hwired database

/-! ## The law of refusals -/

/-- In every state that a service can reach: if a request for a verification is answered with status
401, then every other one with the same first `Authorization` header is answered alike, whatever its
body and its other headers, also when the stores have other contents or another store is wired, and
when certificates are looked up in a database that answers in any way or not at all. -/
theorem response_eq_of_unauthorized {root : Json} {tokens : Tokens} {wired : Bool}
    {steps : List Step} {s : Service} (hs : ((start root tokens wired).run steps).value.2 = s)
    {backing : Backing} {r r' : Net.Request} (hpost : r.method = "POST")
    (hroute : r.path = Boundary.route) (hpost' : r'.method = "POST")
    (hroute' : r'.path = Boundary.route)
    (hheader : Net.firstHeader? "Authorization" r'.headers =
      Net.firstHeader? "Authorization" r.headers)
    (hstatus : (s.request backing r).value.1.status = 401) :
    (s.request backing r').value.1 = (s.request backing r).value.1 ∧
    (∀ s', Rewired s s' → (s'.request backing r').value.1 = (s.request backing r).value.1) ∧
    (∀ database, ((s.provideDatabase database).request .database r').value.1 =
      (s.request backing r).value.1) := by
  have htracked : s.Tracked := hs ▸ (tracked_start root tokens wired).run steps
  have hrewired : ∀ s', Rewired s s' →
      (s'.request backing r').value.1 = (s.request backing r).value.1 := by
    intro s' h
    exact (h.agreeOnCallers backing).response_eq htracked (h.tracked htracked) hpost hroute hpost'
      hroute' hheader hstatus
  refine ⟨hrewired s (.contents s.stores), hrewired, ?_⟩
  intro database
  have hagree : AgreeOnCallers s backing (s.provideDatabase database) .database :=
    ⟨rfl, get?_provideDatabase_of_ne s database (by decide),
      fun _ => contains_provideDatabase_self s database⟩
  exact hagree.response_eq htracked (htracked.provideDatabase database) hpost hroute hpost'
    hroute' hheader hstatus

/-- A component without a policy is denied before it is looked at what it sends: an empty body of no
type, or a certificate, which another store knows and a database fails to look up. -/
theorem response_eq_of_unauthorized_denied :
    ∃ (s : Service) (r r' : Net.Request) (pem : Certificate) (database : Database),
      s = ((start (.object []) ⟨[("a", "t")]⟩ true).run [.apply]).value.2 ∧
      r = ⟨"POST", "/verify-client-device-identity",
        [⟨"authorization", Text.utf8 "Bearer t"⟩], [], none⟩ ∧
      r' = ⟨"POST", "/verify-client-device-identity",
        [⟨"content-type", Text.utf8 "application/json"⟩,
          ⟨"x-forwarded-for", Text.utf8 "10.0.0.1"⟩,
          ⟨"authorization", Text.utf8 "Bearer t"⟩, ⟨"authorization", Text.utf8 "Bearer u"⟩],
        Text.utf8 ("\x7b\"credential\":\x7b\"clientDeviceCertificate\":\"-----BEGIN " ++
          "CERTIFICATE-----\\nREVG\\n-----END CERTIFICATE-----\\n\"\x7d\x7d"), none⟩ ∧
      pem.text = "-----BEGIN CERTIFICATE-----\nREVG\n-----END CERTIFICATE-----\n" ∧
      database = ⟨fun _ => return .error (.database .poolClosed)⟩ ∧
      (s.request .memory r).value.1.status = 401 ∧
      (s.request .memory r').value.1 = (s.request .memory r).value.1 ∧
      ((s.withStore (Store.empty.register pem none).value.2).request .memory r').value.1 =
        (s.request .memory r).value.1 ∧
      ((s.provideDatabase database).request .database r').value.1 =
        (s.request .memory r).value.1 := by
  refine ⟨_, _, _, ⟨_, by decide⟩, _, rfl, rfl, rfl, rfl, rfl, ?status,
    And.imp_right (fun h => ⟨h.1 _ (.new _), h.2 _⟩)
      (response_eq_of_unauthorized rfl ?post ?route ?post' ?route' ?header ?status)⟩
  case status => decide +kernel
  case header => rfl
  all_goals decide

end DeviceIdentity.Service
