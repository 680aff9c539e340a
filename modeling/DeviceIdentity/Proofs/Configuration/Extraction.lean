import DeviceIdentity.Configuration.AccessControl
import DeviceIdentity.Proofs.Gathering
import DeviceIdentity.Proofs.Json.Ordered

/-!
# Which policies are extracted

What a component declares has a shape: an object of namespaces, each an object of policies, each
with its two lists of texts. If all components keep to it, the policies are exactly those that stand
in their declarations, in the order of components, namespaces and ids. Otherwise the fault is what
is wrong at the first place, in the same order, where something is wrong.
-/
namespace DeviceIdentity.AccessControl

/-! ## The shape of a declaration -/

/-- The lists that a policy has. -/
def listNames : List String := ["operations", "resources"]

/-- The declaration is an object of namespaces, which are objects of policies, which have lists of
texts. -/
def WellFormed (declaration : Json) : Prop :=
  ∃ scopes, declaration = .object scopes ∧
    ∀ scope node, (scope, node) ∈ scopes → ∃ policies, node = .object policies ∧
      ∀ id policy, (id, policy) ∈ policies →
        ∀ key ∈ listNames, ∃ ss, policy.get? key = some (.ofStrings ss)

/-- What is wrong with what is found as a list of a policy. -/
inductive ListFault (id key : String) : Option Json → AccessControlFault → Prop
  | missing {found : Option Json} (h : ∀ items, found ≠ some (.array items)) :
      ListFault id key found (.listMissing id key)
  | entry {items : List Json} {item : Json} (hmem : item ∈ items) (h : ∀ s, item ≠ .string s) :
      ListFault id key (some (.array items)) (.entryNotText id key)

/-- What is wrong in a namespace, and where. -/
inductive ScopeFault (scope : String) (node : Json) : List String → AccessControlFault → Prop
  | notObject (h : ∀ policies, node ≠ .object policies) :
      ScopeFault scope node [] (.scopeNotObject scope)
  | list {id key : String} {policy : Json} {fault : AccessControlFault}
      (hpolicy : node.get? id = some policy) (hkey : key ∈ listNames)
      (h : ListFault id key (policy.get? key) fault) : ScopeFault scope node [id, key] fault

/-- What is wrong in a declaration, and where. -/
inductive DeclarationFault (declaration : Json) : List String → AccessControlFault → Prop
  | notObject (h : ∀ scopes, declaration ≠ .object scopes) :
      DeclarationFault declaration [] .notObject
  | scope {scope : String} {node : Json} {rest : List String} {fault : AccessControlFault}
      (hnode : declaration.get? scope = some node) (h : ScopeFault scope node rest fault) :
      DeclarationFault declaration (scope :: rest) fault

/-- What is wrong in the declarations of all components, and where. -/
inductive Violates (services : Json) : List String → ConfigurationFault → Prop
  | declaration {component : String} {declaration : Json} {rest : List String}
      {fault : AccessControlFault}
      (hdeclaration : services.node? (component :: path) = some declaration)
      (h : DeclarationFault declaration rest fault) :
      Violates services (component :: rest) (.accessControl component fault)

/-- The lists of a policy stand in the node at a path. -/
def HasLists (value : Json) (path : List String) (p : Policy) : Prop :=
  value.node? (path ++ ["operations"]) = some (.ofStrings p.operations) ∧
    value.node? (path ++ ["resources"]) = some (.ofStrings p.resources)

/-- The policy stands in what its principal declares, in its namespace and under its id. -/
def Declares (services : Json) (p : Policy) : Prop :=
  HasLists services (p.principal :: path ++ [p.scope, p.id]) p

theorem hasLists_nil {value : Json} {p : Policy} :
    HasLists value [] p ↔
      value.get? "operations" = some (.ofStrings p.operations) ∧
        value.get? "resources" = some (.ofStrings p.resources) := by
  have hbind : ∀ found : Option Json, found.bind (Json.node? []) = found := by
    intro found
    cases found <;> rfl
  simp only [HasLists, List.nil_append, Json.node?_cons, hbind]

theorem hasLists_append {value : Json} {front back : List String} {p : Policy} :
    HasLists value (front ++ back) p ↔
      ∃ node, value.node? front = some node ∧ HasLists node back p := by
  simp only [HasLists, List.append_assoc, Json.node?_append front]
  cases value.node? front with
  | none => simp
  | some node => simp

theorem hasLists_cons {value : Json} {name : String} {back : List String} {p : Policy} :
    HasLists value (name :: back) p ↔
      ∃ node, value.get? name = some node ∧ HasLists node back p := by
  simp only [HasLists, List.cons_append, Json.node?_cons]
  cases value.get? name with
  | none => simp
  | some node => simp

/-! ## Lists -/

theorem ofStrings_injective : Function.Injective Json.ofStrings := fun _ _ h =>
  List.map_injective_iff.2 (fun _ _ => Json.string.inj) (Json.array.inj h)

theorem texts_cases (fault : AccessControlFault) (items : List Json) :
    (∃ ss, items = ss.map .string ∧ texts fault items = .ok ss) ∨
      (∃ item ∈ items, ∀ s, item ≠ .string s) ∧ texts fault items = .error fault := by
  induction items with
  | nil => exact .inl ⟨[], rfl, rfl⟩
  | cons item items ih =>
    cases item with
    | string s =>
      rcases ih with ⟨ss, rfl, hok⟩ | ⟨⟨item, hmem, hitem⟩, herror⟩
      · exact .inl ⟨s :: ss, rfl, by rw [texts, hok]; rfl⟩
      · exact .inr ⟨⟨item, List.mem_cons_of_mem _ hmem, hitem⟩, by rw [texts, herror]; rfl⟩
    | null | bool | number | array | object =>
      exact .inr ⟨⟨_, List.mem_cons_self, nofun⟩, rfl⟩

theorem textList_cases (id : String) (policy : Json) (key : String) :
    (∃ ss, policy.get? key = some (.ofStrings ss) ∧ textList id policy key = .ok ss) ∨
      ∃ fault, ListFault id key (policy.get? key) fault ∧
        textList id policy key = .error fault := by
  unfold textList
  cases hfound : policy.get? key with
  | none => exact .inr ⟨_, .missing nofun, rfl⟩
  | some found =>
    cases found with
    | array items =>
      rcases texts_cases (.entryNotText id key) items with ⟨ss, rfl, hok⟩ |
        ⟨⟨item, hmem, hitem⟩, herror⟩
      · exact .inl ⟨ss, rfl, hok⟩
      · exact .inr ⟨_, .entry hmem hitem, herror⟩
    | null | bool | number | string | object =>
      exact .inr ⟨_, .missing nofun, rfl⟩

theorem ListFault.unique {id key : String} {found : Option Json} {fault fault' : AccessControlFault}
    (h : ListFault id key found fault) (h' : ListFault id key found fault') : fault = fault' := by
  cases h with
  | missing h =>
    cases h' with
    | missing => rfl
    | entry => exact absurd rfl (h _)
  | entry hmem h =>
    cases h' with
    | missing h' => exact absurd rfl (h' _)
    | entry => rfl

theorem not_listFault_ofStrings {id key : String} {ss : List String} {fault : AccessControlFault} :
    ¬ ListFault id key (some (.ofStrings ss)) fault := by
  intro h
  cases h with
  | missing h => exact h _ rfl
  | entry hmem h =>
    obtain ⟨s, -, rfl⟩ := List.mem_map.1 hmem
    exact h s rfl

/-- A list is a list of texts if and only if nothing is wrong with it. -/
theorem exists_ofStrings_iff {id key : String} {policy : Json} :
    (∃ ss, policy.get? key = some (.ofStrings ss)) ↔
      ∀ fault, ¬ ListFault id key (policy.get? key) fault := by
  constructor
  · rintro ⟨ss, hss⟩ fault h
    rw [hss] at h
    exact not_listFault_ofStrings h
  · intro h
    rcases textList_cases id policy key with ⟨ss, hss, -⟩ | ⟨fault, hfault, -⟩
    · exact ⟨ss, hss⟩
    · exact absurd hfault (h fault)

/-! ## Policies, namespaces, components -/

section Levels

variable {component scope id : String} {node declaration services : Json}

/-- A policy is extracted from its node: the operations come before the resources. -/
theorem gathers_policy (component scope id : String) (node : Json) :
    Gathers (fun _ => [])
      (fun place fault => ∃ key ∈ listNames, place = [key] ∧ ListFault id key (node.get? key) fault)
      (fun p => p.principal = component ∧ p.scope = scope ∧ p.id = id ∧ HasLists node [] p)
      ((policy component scope id node).map fun p => [p]) := by
  unfold policy
  rcases textList_cases id node "operations" with ⟨operations, hoperations, hread⟩ |
    ⟨fault, hfault, hread⟩
  · rw [hread]
    have hright : ∀ fault, ¬ ListFault id "operations" (node.get? "operations") fault :=
      exists_ofStrings_iff.1 ⟨operations, hoperations⟩
    rcases textList_cases id node "resources" with ⟨resources, hresources, hread'⟩ |
      ⟨fault, hfault, hread'⟩
    · rw [hread']
      have hright' : ∀ fault, ¬ ListFault id "resources" (node.get? "resources") fault :=
        exists_ofStrings_iff.1 ⟨resources, hresources⟩
      refine .ok ?_ (List.pairwise_singleton _ _) fun p => ?_
      · rintro place fault ⟨key, hkey, rfl, hfault⟩
        rcases List.mem_pair.1 hkey with rfl | rfl
        · exact hright fault hfault
        · exact hright' fault hfault
      · rw [List.mem_singleton, hasLists_nil, hoperations, hresources, Option.some.injEq,
          Option.some.injEq, ofStrings_injective.eq_iff, ofStrings_injective.eq_iff]
        constructor
        · rintro rfl
          exact ⟨rfl, rfl, rfl, rfl, rfl⟩
        · rintro ⟨rfl, rfl, rfl, rfl, rfl⟩
          rfl
    · -- The resources are looked at only when nothing is wrong with the operations.
      rw [hread']
      refine .error ⟨"resources", by simp [listNames], rfl, hfault⟩ ?_
      rintro place' fault' ⟨key, hkey, rfl, hfault'⟩
      rcases List.mem_pair.1 hkey with rfl | rfl
      · exact absurd hfault' (hright fault')
      · exact .inl rfl
  · rw [hread]
    refine .error ⟨"operations", by simp [listNames], rfl, hfault⟩ ?_
    rintro place' fault' ⟨key, hkey, rfl, -⟩
    rcases List.mem_pair.1 hkey with rfl | rfl
    · exact .inl rfl
    · exact .inr (List.Lex.rel (by decide))

theorem gathers_ofScope (component scope : String) (h : node.Ordered) :
    Gathers (fun p => [p.id]) (ScopeFault scope node)
      (fun p => p.principal = component ∧ p.scope = scope ∧ HasLists node [p.id] p)
      (ofScope component scope node) := by
  cases node with
  | object policies =>
    -- A policy under each id: one item for each name, from the place of that name itself.
    rw [ofScope, Gathers.mapM_eq_flatten_mapM]
    have hpolicies := fun id node (_ : (id, node) ∈ policies) =>
      gathers_policy component scope id node
    refine (Gathers.mapM h.members hpolicies ?_).congr ?_ ?_
    · rintro id node p ⟨-, -, rfl, -⟩
      rfl
    · intro place fault
      constructor
      · rintro (h' | ⟨hpolicy, hkey, hlist⟩)
        · exact absurd rfl (h' policies)
        · exact ⟨_, _, _, h.get?_eq_some_iff.1 hpolicy, rfl, _, hkey, rfl, hlist⟩
      · rintro ⟨id, policy, rest, hmem, rfl, key, hkey, rfl, hlist⟩
        exact .list (h.get?_eq_some_iff.2 hmem) hkey hlist
    · intro p
      simp only [hasLists_cons, h.get?_eq_some_iff]
      constructor
      · rintro ⟨hprincipal, hscope, policy, hmem, hlists⟩
        exact ⟨p.id, policy, hmem, hprincipal, hscope, rfl, hlists⟩
      · rintro ⟨id, policy, hmem, hprincipal, hscope, rfl, hlists⟩
        exact ⟨hprincipal, hscope, policy, hmem, hlists⟩
  | null | bool | number | string | array =>
    exact .error (.notObject nofun) fun place' fault' _ => eq_nil_or_before place'

theorem gathers_ofDeclaration (component : String) (h : declaration.Ordered) :
    Gathers (fun p => [p.scope, p.id]) (DeclarationFault declaration)
      (fun p => p.principal = component ∧ HasLists declaration [p.scope, p.id] p)
      (ofDeclaration component declaration) := by
  cases declaration with
  | object scopes =>
    have hscopes := fun scope node (hmem : (scope, node) ∈ scopes) =>
      gathers_ofScope component scope (h.of_mem_members hmem)
    refine (Gathers.mapM h.members hscopes ?_).congr ?_ ?_
    · rintro scope node p ⟨-, rfl, -⟩
      rfl
    · intro place fault
      constructor
      · rintro (h' | ⟨hnode, hscope⟩)
        · exact absurd rfl (h' scopes)
        · exact ⟨_, _, _, h.get?_eq_some_iff.1 hnode, rfl, hscope⟩
      · rintro ⟨scope, node, rest, hmem, rfl, hscope⟩
        exact .scope (h.get?_eq_some_iff.2 hmem) hscope
    · intro p
      rw [hasLists_cons]
      simp only [h.get?_eq_some_iff]
      constructor
      · rintro ⟨hprincipal, node, hmem, hlists⟩
        exact ⟨p.scope, node, hmem, hprincipal, rfl, hlists⟩
      · rintro ⟨scope, node, hmem, hprincipal, rfl, hlists⟩
        exact ⟨hprincipal, node, hmem, hlists⟩
  | null | bool | number | string | array =>
    exact .error (.notObject nofun) fun place' fault' _ => eq_nil_or_before place'

/-- Nothing is extracted from a component without a declaration. -/
theorem gathers_ofComponent (component : String) (h : node.Ordered) :
    Gathers (fun p => [p.scope, p.id])
      (fun place fault => ∃ declaration inner, node.node? path = some declaration ∧
        DeclarationFault declaration place inner ∧ fault = .accessControl component inner)
      (fun p => p.principal = component ∧ HasLists node (path ++ [p.scope, p.id]) p)
      (ofComponent component node) := by
  unfold ofComponent
  simp only [hasLists_append]
  cases hdeclaration : node.node? path with
  | none => exact .nil (by simp) (by simp)
  | some declaration =>
    have hgathers := (gathers_ofDeclaration component (h.of_node? hdeclaration)).mapError
      (ConfigurationFault.accessControl component)
    refine hgathers.congr ?_ ?_
    · simp
    · simp

theorem gathers_policies (h : services.Ordered) :
    Gathers (fun p => [p.principal, p.scope, p.id]) (Violates services) (Declares services)
      (policies (some services)) := by
  have hcomponents := fun component node (hmem : (component, node) ∈ services.members) =>
    gathers_ofComponent component (h.of_mem_members hmem)
  refine (Gathers.mapM h.members hcomponents ?_).congr ?_ ?_
  · rintro scope node p ⟨rfl, -⟩
    rfl
  · intro place fault
    constructor
    · rintro ⟨hdeclaration, hfault⟩
      obtain ⟨node, hnode, hdeclaration⟩ := Option.bind_eq_some_iff.1 hdeclaration
      exact ⟨_, node, _, h.get?_eq_some_iff.1 hnode, rfl, _, _, hdeclaration, hfault, rfl⟩
    · rintro ⟨component, node, rest, hmem, rfl, declaration, inner, hdeclaration, hfault, rfl⟩
      refine .declaration ?_ hfault
      rw [Json.node?_cons, h.get?_eq_some_iff.2 hmem, Option.bind_some, hdeclaration]
  · intro p
    rw [Declares, List.cons_append, hasLists_cons]
    simp only [h.get?_eq_some_iff]
    constructor
    · rintro ⟨node, hmem, hlists⟩
      exact ⟨p.principal, node, hmem, rfl, hlists⟩
    · rintro ⟨component, node, hmem, rfl, hlists⟩
      exact ⟨node, hmem, hlists⟩

end Levels

/-! ## What is extracted -/

section Extraction

variable {services declaration : Json}

/-- A declaration has its shape if and only if nothing is wrong in it. -/
theorem wellFormed_iff (h : declaration.Ordered) :
    WellFormed declaration ↔ ∀ place fault, ¬ DeclarationFault declaration place fault := by
  constructor
  · rintro ⟨scopes, rfl, hscopes⟩ place fault hfault
    cases hfault with
    | notObject hobject => exact hobject scopes rfl
    | scope hnode hscope =>
      obtain ⟨policies, rfl, hpolicies⟩ := hscopes _ _ (h.get?_eq_some_iff.1 hnode)
      have hordered := h.of_get? hnode
      cases hscope with
      | notObject hobject => exact hobject policies rfl
      | list hpolicy hkey hlist =>
        have htexts := hpolicies _ _ (hordered.get?_eq_some_iff.1 hpolicy) _ hkey
        exact exists_ofStrings_iff.1 htexts _ hlist
  · intro hright
    have hscopes : ∃ scopes, declaration = .object scopes := by
      by_contra hne
      exact hright _ _ (.notObject fun scopes heq => hne ⟨scopes, heq⟩)
    obtain ⟨scopes, rfl⟩ := hscopes
    refine ⟨scopes, rfl, fun scope node hmem => ?_⟩
    have hnode := h.get?_eq_some_iff.2 hmem
    have hpolicies : ∃ policies, node = .object policies := by
      by_contra hne
      exact hright _ _ (.scope hnode (.notObject fun policies heq => hne ⟨policies, heq⟩))
    obtain ⟨policies, rfl⟩ := hpolicies
    refine ⟨policies, rfl, fun id policy hmem' key hkey => ?_⟩
    have hpolicy := (h.of_get? hnode).get?_eq_some_iff.2 hmem'
    exact exists_ofStrings_iff.2 fun fault hlist =>
      hright _ _ (.scope hnode (.list hpolicy hkey hlist))

theorem ScopeFault.unique {scope : String} {node : Json} {place : List String}
    {fault fault' : AccessControlFault} (h : ScopeFault scope node place fault)
    (h' : ScopeFault scope node place fault') : fault = fault' := by
  cases h with
  | notObject =>
    cases h' with
    | notObject => rfl
  | list hpolicy _ hlist =>
    cases h' with
    | list hpolicy' _ hlist' =>
      cases Option.some.inj (hpolicy.symm.trans hpolicy')
      exact hlist.unique hlist'

theorem DeclarationFault.unique {place : List String} {fault fault' : AccessControlFault}
    (h : DeclarationFault declaration place fault)
    (h' : DeclarationFault declaration place fault') : fault = fault' := by
  cases h with
  | notObject =>
    cases h' with
    | notObject => rfl
  | scope hnode hscope =>
    cases h' with
    | scope hnode' hscope' =>
      cases Option.some.inj (hnode.symm.trans hnode')
      exact hscope.unique hscope'

/-- Only one thing is wrong at a place. -/
theorem Violates.unique {place : List String} {fault fault' : ConfigurationFault}
    (h : Violates services place fault) (h' : Violates services place fault') : fault = fault' := by
  cases h with
  | declaration hdeclaration hfault =>
    cases h' with
    | declaration hdeclaration' hfault' =>
      cases Option.some.inj (hdeclaration.symm.trans hdeclaration')
      rw [hfault.unique hfault']

theorem not_violates_iff (h : services.Ordered) :
    (∀ place fault, ¬ Violates services place fault) ↔
      ∀ component declaration, services.node? (component :: path) = some declaration →
        WellFormed declaration := by
  constructor
  · intro hright component declaration hdeclaration
    refine (wellFormed_iff (h.of_node? hdeclaration)).2 fun place fault hfault => ?_
    exact hright _ _ (.declaration hdeclaration hfault)
  · rintro hshape place fault ⟨hdeclaration, hfault⟩
    exact (wellFormed_iff (h.of_node? hdeclaration)).1 (hshape _ _ hdeclaration) _ _ hfault

/-- Where nothing is wrong, a policy is declared wherever there is a node for it. -/
theorem exists_declares (hright : ∀ place fault, ¬ Violates services place fault)
    {component scope id : String} {policy : Json}
    (hpolicy : services.node? (component :: path ++ [scope, id]) = some policy) :
    ∃ p, Declares services p ∧ p.principal = component ∧ p.scope = scope ∧ p.id = id := by
  have htexts : ∀ key ∈ listNames, ∃ ss, policy.get? key = some (.ofStrings ss) := by
    intro key hkey
    rw [Json.node?_append] at hpolicy
    obtain ⟨declaration, hdeclaration, hpolicy⟩ := Option.bind_eq_some_iff.1 hpolicy
    obtain ⟨node, hnode, hpolicy⟩ := Option.bind_eq_some_iff.1 hpolicy
    obtain ⟨policy', hpolicy, heq⟩ := Option.bind_eq_some_iff.1 hpolicy
    cases heq
    have hlists : ∀ fault, ¬ ListFault id key (policy.get? key) fault := fun fault hlist =>
      hright _ _ (.declaration hdeclaration (.scope hnode (.list hpolicy hkey hlist)))
    exact exists_ofStrings_iff.2 hlists
  obtain ⟨operations, hoperations⟩ := htexts "operations" (by simp [listNames])
  obtain ⟨resources, hresources⟩ := htexts "resources" (by simp [listNames])
  refine ⟨⟨id, component, scope, operations, resources⟩, ?_, rfl, rfl, rfl⟩
  rw [Declares, ← List.append_nil (_ :: path ++ _)]
  exact hasLists_append.2 ⟨policy, hpolicy, hasLists_nil.2 ⟨hoperations, hresources⟩⟩

theorem Declares.unique {p q : Policy} (hp : Declares services p) (hq : Declares services q)
    (hprincipal : p.principal = q.principal) (hscope : p.scope = q.scope) (hid : p.id = q.id) :
    p = q := by
  cases p
  cases q
  cases hprincipal
  cases hscope
  cases hid
  have hoperations := ofStrings_injective (Option.some.inj (hp.1.symm.trans hq.1))
  have hresources := ofStrings_injective (Option.some.inj (hp.2.symm.trans hq.2))
  cases hoperations
  cases hresources
  rfl

/-- From services in order, the policies are extracted if and only if every declaration has its
shape. Then they are exactly those that are declared, with their lists as they stand there: one for
each component, namespace and id, and in the order of these. Otherwise the fault is the one of the
first place at which something is wrong. -/
theorem policies_eq_of_ordered (h : services.Ordered) :
    ((∃ ps, policies (some services) = .ok ps) ↔
      ∀ component declaration, services.node? (component :: path) = some declaration →
        WellFormed declaration) ∧
    (∀ ps, policies (some services) = .ok ps →
      (∀ p, p ∈ ps ↔ Declares services p) ∧
      (ps.Pairwise fun p q => Before [p.principal, p.scope, p.id] [q.principal, q.scope, q.id]) ∧
      ∀ component scope id policy,
        services.node? (component :: path ++ [scope, id]) = some policy →
          ∃! p, p ∈ ps ∧ p.principal = component ∧ p.scope = scope ∧ p.id = id) ∧
    ∀ fault, policies (some services) = .error fault ↔
      ∃ place, Violates services place fault ∧
        ∀ place' fault', Violates services place' fault' →
          place' = place ∨ Before place place' := by
  have hgathers := gathers_policies h
  refine ⟨hgathers.ok_iff.trans (not_violates_iff h), ?_, ?_⟩
  · intro ps hps
    rw [hps] at hgathers
    obtain ⟨hright, hordered, hmem⟩ := hgathers.of_ok
    refine ⟨hmem, hordered, ?_⟩
    intro component scope id policy hpolicy
    obtain ⟨p, hp, rfl, rfl, rfl⟩ := exists_declares hright hpolicy
    refine ⟨p, ⟨(hmem p).2 hp, rfl, rfl, rfl⟩, ?_⟩
    rintro q ⟨hq, hprincipal, hscope, hid⟩
    exact ((hmem q).1 hq).unique hp hprincipal hscope hid
  · intro fault
    exact hgathers.error_iff fun place fault fault' => Violates.unique

/-- Services that are read from a text, two of which declare a policy, and services with three
things wrong: both lists of a policy, and a declaration that comes behind it. -/
theorem policies_eq_of_ordered_firstFault :
    ∃ (text : String) (right wrong : Json),
      text =
        "\x7b\"door\":\x7b\"configuration\":\x7b\"accessControl\":\x7b\"mqtt\":\x7b\"tell\":" ++
        "\x7b\"resources\":[\"*\"],\"operations\":[\"publish\"]\x7d\x7d\x7d\x7d\x7d," ++
        "\"bell\":\x7b\"configuration\":\x7b\"accessControl\":\x7b\"mqtt\":\x7b\"ring\":" ++
        "\x7b\"operations\":[],\"resources\":[]\x7d\x7d\x7d\x7d\x7d\x7d" ∧
      Json.ofText text = .ok right ∧
      wrong = (((Json.object []).setNode ["bell", "configuration", "accessControl"] .null).setNode
        ["bed", "configuration", "accessControl", "mqtt", "tell", "resources"]
          (.string "*")).setNode
        ["bed", "configuration", "accessControl", "mqtt", "tell", "operations"]
          (.array [.string "publish", .null]) ∧
      (∀ p, p ∈ [⟨"ring", "bell", "mqtt", [], []⟩, ⟨"tell", "door", "mqtt", ["publish"], ["*"]⟩] ↔
        Declares right p) ∧
      Violates wrong ["bed", "mqtt", "tell", "operations"]
        (.accessControl "bed" (.entryNotText "tell" "operations")) ∧
      Violates wrong ["bed", "mqtt", "tell", "resources"]
        (.accessControl "bed" (.listMissing "tell" "resources")) ∧
      Violates wrong ["bell"] (.accessControl "bell" .notObject) ∧
      ∀ place fault, Violates wrong place fault →
        place = ["bed", "mqtt", "tell", "operations"] ∨
          Before ["bed", "mqtt", "tell", "operations"] place := by
  have hpolicies : ((Json.ofText (
      "\x7b\"door\":\x7b\"configuration\":\x7b\"accessControl\":\x7b\"mqtt\":\x7b\"tell\":" ++
        "\x7b\"resources\":[\"*\"],\"operations\":[\"publish\"]\x7d\x7d\x7d\x7d\x7d," ++
        "\"bell\":\x7b\"configuration\":\x7b\"accessControl\":\x7b\"mqtt\":\x7b\"ring\":" ++
        "\x7b\"operations\":[],\"resources\":[]\x7d\x7d\x7d\x7d\x7d\x7d")).toOption.map
          fun right => policies (some right)) =
      some (.ok [⟨"ring", "bell", "mqtt", [], []⟩,
        ⟨"tell", "door", "mqtt", ["publish"], ["*"]⟩]) := by
    decide +kernel
  generalize htext : Json.ofText _ = read at hpolicies
  cases read with
  | error fault => cases hpolicies
  | ok right =>
    have hright := policies_eq_of_ordered (Json.ordered_of_ofText htext)
    have hlist : (Json.array [.string "publish", .null]).Ordered :=
      .array (by simp [Json.Ordered.string, Json.Ordered.null])
    have hwrong := ((Json.Ordered.empty.setNode .null
      ["bell", "configuration", "accessControl"]).setNode (.string "*")
      ["bed", "configuration", "accessControl", "mqtt", "tell", "resources"]).setNode hlist
      ["bed", "configuration", "accessControl", "mqtt", "tell", "operations"]
    refine ⟨_, right, _, rfl, htext, rfl, ?_, ?_, ?_, ?_, ?_⟩
    · exact (hright.2.1 _ (Option.some.inj hpolicies)).1
    · exact .declaration rfl (.scope rfl (.list rfl (by simp [listNames])
        (.entry (by simp) (nofun : ∀ s, Json.null ≠ .string s))))
    · exact .declaration rfl (.scope rfl (.list rfl (by simp [listNames]) (.missing nofun)))
    · exact .declaration rfl (.notObject nofun)
    · -- The fault tells where it is, but for the namespace, and there is one namespace only.
      obtain ⟨place, ⟨hdeclaration, hfault⟩, hfirst⟩ :=
        ((policies_eq_of_ordered hwrong).2.2 _).1 rfl
      cases hfault with
      | scope hnode hscope =>
        have hmem := (hwrong.of_node? hdeclaration).get?_eq_some_iff.1 hnode
        cases hdeclaration
        obtain ⟨rfl, -⟩ := Prod.mk.inj (List.mem_singleton.1 hmem)
        cases hscope with
        | list hpolicy hkey hlist =>
          generalize Json.get? _ _ = found at hlist
          cases hlist
          exact hfirst

end Extraction

end DeviceIdentity.AccessControl
