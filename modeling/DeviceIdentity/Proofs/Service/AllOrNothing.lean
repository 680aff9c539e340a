import DeviceIdentity.Proofs.Service.Requests
import DeviceIdentity.Proofs.Wiring.Caching
import DeviceIdentity.Proofs.Wiring.Replacing

/-!
# All or nothing

A configuration is applied as a whole or not at all. If anything in the tree has a fault, nothing is
replaced; otherwise exactly the two instances that are derived from it are. The wiring that a
configuration is applied to may hold any other types and serve any use cases: `Places` says where in
it the two instances go, and the wiring of the service is one such wiring.
-/
namespace DeviceIdentity.Service

open Wiring (Fault Instance)

/-- Where in a wiring the two instances that a configuration consists of have their places. -/
structure Places (κ : Type) (β : κ → Type) where
  authority : κ
  authorizer : κ
  distinct : authority ≠ authorizer
  ofAuthority : Authority → β authority
  ofAuthorizer : Authorizer → β authorizer

/-- The places in the wiring of the service. -/
def Places.service : Places Key Key.Content :=
  ⟨.authority, .authorizer, by decide, id, id⟩

variable {κ υ : Type} {β : κ → Type} {needs : υ → List κ} [DecidableEq κ]

/-- The wiring with new instances of what a snapshot consists of, provided as one set. -/
def supplied (p : Places κ β) (snapshot : Snapshot) (r : Wiring.Registry κ υ β needs) :
    Wiring.Registry κ υ β needs :=
  (r.provideNewSet
    [⟨p.authority, p.ofAuthority snapshot.authority⟩,
      ⟨p.authorizer, p.ofAuthorizer snapshot.authorizer⟩]).value

/-- Applies a configuration tree to any wiring. A tree with a fault changes nothing. -/
def applyTo (p : Places κ β) (root : Json) (r : Wiring.Registry κ υ β needs) :
    Logged (Except ConfigurationFault Unit × Wiring.Registry κ υ β needs) :=
  match Snapshot.ofTree root with
  | .error fault => return (.error fault, r)
  | .ok snapshot => do
    .note snapshot.applying
    return (.ok (), supplied p snapshot r)

/-- What the service does to its registry is the same. -/
theorem apply_eq_applyTo (s : Service) :
    s.apply =
      (fun a => (a.1.map fun _ => a.2.container.size, { s with registry := a.2 })) <$>
        applyTo .service s.tree.root s.registry := by
  unfold apply applyTree applyTo
  cases Snapshot.ofTree s.tree.root with
  | error fault => rfl
  | ok snapshot => rfl

/-! ## When applying fails -/

/-- The settings of the certificate authority in a tree. -/
def settings (root : Json) : Except ConfigurationFault Authority :=
  Authority.ofService ((Snapshot.services root).bind (Json.node? [authService]))

/-- The policies that the components declare in a tree. -/
def policies (root : Json) : Except ConfigurationFault (List Policy) :=
  AccessControl.policies (Snapshot.services root)

theorem ofTree_eq_error_iff {root : Json} {fault : ConfigurationFault} :
    Snapshot.ofTree root = .error fault ↔
      settings root = .error fault ∨
        ∃ authority, settings root = .ok authority ∧ policies root = .error fault := by
  unfold Snapshot.ofTree settings policies
  simp only [bind, Except.bind, pure, Except.pure]
  cases Authority.ofService ((Snapshot.services root).bind (Json.node? [authService])) with
  | error fault' => simp
  | ok authority =>
    cases AccessControl.policies (Snapshot.services root) with
    | error fault' => simp
    | ok found => simp

theorem ofTree_eq_ok_iff {root : Json} {snapshot : Snapshot} :
    Snapshot.ofTree root = .ok snapshot ↔
      settings root = .ok snapshot.authority ∧
        ∃ found, policies root = .ok found ∧ snapshot.authorizer = .ofPolicies found :=
  Snapshot.ofTree_eq_ok_iff

section Applying

variable {p : Places κ β} {root : Json} {snapshot : Snapshot} {r : Wiring.Registry κ υ β needs}

theorem applyTo_of_error {fault : ConfigurationFault} (h : Snapshot.ofTree root = .error fault) :
    applyTo p root r = ⟨(.error fault, r), []⟩ := by
  unfold applyTo
  rw [h]
  rfl

theorem applyTo_of_ok (h : Snapshot.ofTree root = .ok snapshot) :
    applyTo p root r = ⟨(.ok (), supplied p snapshot r), [snapshot.applying]⟩ := by
  unfold applyTo
  rw [h]
  rfl

/-- Applying fails if and only if the settings or the policies have a fault. The fault of the
settings comes first. -/
theorem error_applyTo_iff {fault : ConfigurationFault} :
    (applyTo p root r).value.1 = .error fault ↔
      settings root = .error fault ∨
        ∃ authority, settings root = .ok authority ∧ policies root = .error fault := by
  rw [← ofTree_eq_error_iff]
  cases h : Snapshot.ofTree root with
  | error fault' =>
    rw [applyTo_of_error h, Except.error.injEq, Except.error.injEq]
  | ok snapshot =>
    rw [applyTo_of_ok h]
    constructor
    · intro hfails
      cases hfails
    · intro hfails
      cases hfails

/-! ## What applying replaces -/

theorem get?_authority_supplied :
    (supplied p snapshot r).container.get? p.authority =
      some ⟨r.container.issued, p.ofAuthority snapshot.authority⟩ :=
  -- The set is provided member by member, the authorizer last.
  (Wiring.Container.get?_provide_of_ne p.distinct _ _).trans
    (Wiring.Container.get?_provide_self _ _)

theorem get?_authorizer_supplied :
    (supplied p snapshot r).container.get? p.authorizer =
      some ⟨r.container.issued + 1, p.ofAuthorizer snapshot.authorizer⟩ :=
  Wiring.Container.get?_provide_self _ _

theorem get?_supplied_of_ne {key : κ} (hauthority : key ≠ p.authority)
    (hauthorizer : key ≠ p.authorizer) :
    (supplied p snapshot r).container.get? key = r.container.get? key :=
  (Wiring.Container.get?_provide_of_ne hauthorizer _ _).trans
    (Wiring.Container.get?_provide_of_ne hauthority _ _)

variable [DecidableEq υ]

omit [DecidableEq υ] in
theorem cache_supplied : (supplied p snapshot r).cache = r.cache :=
  (Wiring.Registry.kept_provideSet _ _).1

theorem kept?_supplied (u : υ) : (supplied p snapshot r).kept? u = r.kept? u := by
  unfold Wiring.Registry.kept?
  rw [cache_supplied]

/-- Nothing was replaced: whatever is asked for is answered as it would have been, and what was up
to date is handed out again. -/
structure Untouched (r r' : Wiring.Registry κ υ β needs) : Prop where
  eq : r' = r
  get_eq : ∀ us u b, r.UpToDate u b → (r'.getEach us).get u = pure (.ok b, r'.getEach us)

/-- Exactly the two instances of a configuration were replaced, by new ones. A use case that depends
on one of them is built anew by the next get, from the new instance; one that depends on neither is
handed out as before. There may be gets of other use cases before that get. -/
structure Replaced (p : Places κ β) (authority : Authority) (found : List Policy)
    (known : Set (Σ key, Instance (β key))) (r r' : Wiring.Registry κ υ β needs) : Prop where
  authority : ∃ i, r'.container.get? p.authority = some i ∧ i.value = p.ofAuthority authority ∧
    ∀ e ∈ known, e.2.number ≠ i.number
  authorizer : ∃ i, r'.container.get? p.authorizer = some i ∧
    i.value = p.ofAuthorizer (.ofPolicies found) ∧ ∀ e ∈ known, e.2.number ≠ i.number
  others : ∀ key, key ≠ p.authority → key ≠ p.authorizer →
    r'.container.get? key = r.container.get? key
  kept? : ∀ u, r'.kept? u = r.kept? u
  builds : ∀ us u, p.authority ∈ needs u ∨ p.authorizer ∈ needs u → u ∉ us →
    (∃ b, (r'.getEach us).Builds u b) ∨
      ∃ other ∈ needs u, r'.container.contains other = false ∧
        ((r'.getEach us).get u).value.1 = .error (.dependency (.missing other))
  get_eq : ∀ us u b, p.authority ∉ needs u → p.authorizer ∉ needs u → r.UpToDate u b →
    (r'.getEach us).get u = pure (.ok b, r'.getEach us)

variable {known : Set (Σ key, Instance (β key))}

theorem builds_supplied (h : r.Tracked known) {us : List υ} {u : υ} (hu : u ∉ us) {key : κ}
    (hkey : key ∈ needs u) {i : Instance (β key)}
    (hi : (supplied p snapshot r).container.get? key = some i)
    (hnew : r.container.issued ≤ i.number) :
    (∃ b, ((supplied p snapshot r).getEach us).Builds u b) ∨
      ∃ other ∈ needs u, (supplied p snapshot r).container.contains other = false ∧
        (((supplied p snapshot r).getEach us).get u).value.1 =
          .error (.dependency (.missing other)) := by
  have hheld : ((supplied p snapshot r).getEach us).container.get? key = some i := by
    rw [Wiring.Registry.container_getEach]
    exact hi
  have hold : ∀ v, ((supplied p snapshot r).getEach us).cache.get? u = some v →
      i.number ∉ v.2.dependencies.numbers := by
    intro v hv
    rw [Wiring.Registry.get?_cache_getEach_of_notMem hu, cache_supplied] at hv
    exact h.number_notMem_of_get? hv hnew
  have htyped : ((supplied p snapshot r).getEach us).container.entries.WellTyped := by
    rw [Wiring.Registry.container_getEach]
    exact (Wiring.Registry.Tracked.provideNewSet h _).typed.entries
  have hbuilds := Wiring.Registry.builds_of_replaced htyped hkey hheld hold
  rw [Wiring.Registry.container_getEach] at hbuilds
  exact hbuilds

theorem upToDate_supplied {u : υ} {b : Wiring.Built β (needs u)}
    (hauthority : p.authority ∉ needs u) (hauthorizer : p.authorizer ∉ needs u)
    (h : r.UpToDate u b) :
    (supplied p snapshot r).UpToDate u b := by
  refine ⟨(kept?_supplied u).trans h.kept, ?_⟩
  refine Wiring.Container.resolveSet_congr (fun key hkey => get?_supplied_of_ne ?_ ?_) h.current
  · rintro rfl
    exact hauthority hkey
  · rintro rfl
    exact hauthorizer hkey

theorem replaced_supplied (h : r.Tracked known) {authority : Authority} {found : List Policy}
    (hauthority : snapshot.authority = authority)
    (hauthorizer : snapshot.authorizer = .ofPolicies found) :
    Replaced p authority found (r.instances ∪ known) r (supplied p snapshot r) where
  authority := by
    refine ⟨_, get?_authority_supplied, by rw [hauthority], ?_⟩
    intro e he
    exact Nat.ne_of_lt (h.issued.lt e he)
  authorizer := by
    refine ⟨_, get?_authorizer_supplied, by rw [hauthorizer], ?_⟩
    intro e he
    exact Nat.ne_of_lt (Nat.lt_succ_of_lt (h.issued.lt e he))
  others := fun _ => get?_supplied_of_ne
  kept? := kept?_supplied
  builds := by
    rintro us u (hkey | hkey) hu
    · exact builds_supplied h hu hkey get?_authority_supplied (Nat.le_refl _)
    · exact builds_supplied h hu hkey get?_authorizer_supplied (Nat.le_succ _)
  get_eq := by
    intro us u b hauthority hauthorizer hb
    exact ((upToDate_supplied hauthority hauthorizer hb).getEach us).get_eq

end Applying

/-! ## The law of applying -/

/-- What applying a configuration tree does to a wiring: it fails exactly if a part of the tree has
a fault, and nothing was touched then; otherwise both instances, and only these, were replaced. -/
structure AllOrNothing [DecidableEq υ] (p : Places κ β) (root : Json)
    (known : Set (Σ key, Instance (β key))) (r : Wiring.Registry κ υ β needs) : Prop where
  error_iff : ∀ fault, (applyTo p root r).value.1 = .error fault ↔
    settings root = .error fault ∨
      ∃ authority, settings root = .ok authority ∧ policies root = .error fault
  untouched : ∀ fault, (applyTo p root r).value.1 = .error fault →
    Untouched r (applyTo p root r).value.2
  replaced : (applyTo p root r).value.1 = .ok () →
    ∃ authority found, settings root = .ok authority ∧ policies root = .ok found ∧
      Replaced p authority found known r (applyTo p root r).value.2

theorem allOrNothing [DecidableEq υ] (p : Places κ β) (root : Json)
    {r : Wiring.Registry κ υ β needs} {known : Set (Σ key, Instance (β key))}
    (h : r.Tracked known) :
    AllOrNothing p root (r.instances ∪ known) r where
  error_iff := fun _ => error_applyTo_iff
  untouched := by
    intro fault hfails
    cases hsnapshot : Snapshot.ofTree root with
    | error fault' =>
      rw [applyTo_of_error hsnapshot]
      exact ⟨rfl, fun us _ _ hb => (hb.getEach us).get_eq⟩
    | ok snapshot =>
      rw [applyTo_of_ok hsnapshot] at hfails
      cases hfails
  replaced := by
    intro hok
    cases hsnapshot : Snapshot.ofTree root with
    | error fault =>
      rw [applyTo_of_error hsnapshot] at hok
      cases hok
    | ok snapshot =>
      rw [applyTo_of_ok hsnapshot]
      obtain ⟨hauthority, found, hfound, hauthorizer⟩ := ofTree_eq_ok_iff.1 hsnapshot
      exact ⟨_, found, hauthority, hfound, replaced_supplied h rfl hauthorizer⟩

/-- Applying a configuration tree is all or nothing in every wiring that operations can lead to,
with any other types in it and any use cases, and in every state of the service. -/
theorem allOrNothing_after [DecidableEq υ] (p : Places κ β)
    (ops : List (Wiring.Operation β υ)) (root : Json) :
    AllOrNothing p root
        ((Wiring.Session.after needs ops).registry.instances ∪
          (Wiring.Session.after needs ops).handles)
        (Wiring.Session.after needs ops).registry ∧
      ∀ root' tokens wired steps s, s = ((start root' tokens wired).run steps).value.2 →
        AllOrNothing .service root (s.registry.instances ∪ s.handleSet) s.registry ∧
        s.apply =
          (fun a => (a.1.map fun _ => a.2.container.size, { s with registry := a.2 })) <$>
            applyTo .service s.tree.root s.registry := by
  refine ⟨allOrNothing p root (Wiring.Session.tracked_after ops), ?_⟩
  rintro root' tokens wired steps s rfl
  have htracked := (tracked_start root' tokens wired).run steps
  exact ⟨allOrNothing .service root htracked, apply_eq_applyTo _⟩

end DeviceIdentity.Service
