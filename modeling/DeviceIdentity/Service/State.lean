import DeviceIdentity.Boundary.Endpoint
import DeviceIdentity.Service.Keys
import DeviceIdentity.Tree

/-!
# The service

The whole service: the configuration tree, the registry with everything that is wired, the stores,
and the reloaders, which apply the configuration again after it has changed. The configuration is
applied as a whole or not at all. Starting a reloader does not end one that runs; each of them then
applies the configuration.
-/
namespace DeviceIdentity

/-- The state of the service. A reloader is a receiver of the tree, while it runs. -/
structure Service where
  tree : Tree
  tokens : Tokens
  registry : Service.Registry
  stores : Service.Stores
  /-- The instances of these stores, which they are provided under whenever they are. -/
  handles : List (Wiring.Instance (Service.Key.Content .memoryStore))
  /-- The store in memory that was made last. -/
  current : Service.StoreRef
  /-- The reloader that was started last, unless it was stopped. -/
  reloader : Option Tree.Receiver
  /-- The reloaders that ran when it was started. They run on, and nothing stops them. -/
  earlier : List Tree.Receiver

namespace Service

/-! ## Configuration -/

/-- The registry with the instances of a configuration tree provided, as one set. A tree with a
fault changes nothing. -/
def applyTree (root : Json) (registry : Registry) : Logged (Except ConfigurationFault Registry) :=
  match Snapshot.ofTree root with
  | .error fault => return .error fault
  | .ok snapshot => do
    .note snapshot.applying
    return .ok
      (registry.provideNewSet
        [⟨.authority, snapshot.authority⟩, ⟨.authorizer, snapshot.authorizer⟩]).value

/-- Applies the configuration. Answers the number of types that something is provided for. -/
def apply (s : Service) : Logged (Except ConfigurationFault Nat × Service) := do
  match ← applyTree s.tree.root s.registry with
  | .error fault => return (.error fault, s)
  | .ok registry => return (.ok registry.container.size, { s with registry })

/-- What a reloader does in one turn: it looks at the tree and applies it. -/
def reloadTurn (s : Service) : Logged Service := do
  let version := s.tree.version
  match ← applyTree s.tree.root s.registry with
  | .ok registry =>
    .note (.reloaded version)
    return { s with registry }
  | .error fault =>
    .note (.reloadFailed version (.configuration fault))
    return s

/-- Lets a reloader do what is due: one turn, if the tree has changed since it last looked. After
that nothing is due any longer. -/
def settleOne (receiver : Tree.Receiver) (s : Service) : Logged (Tree.Receiver × Service) :=
  if s.tree.changed receiver then do
    let s ← s.reloadTurn
    return (s.tree.subscribe, s)
  else return (receiver, s)

/-- Lets reloaders do what is due, one after the other. -/
def settleEach : List Tree.Receiver → Service → Logged (List Tree.Receiver × Service)
  | [], s => return ([], s)
  | receiver :: receivers, s => do
    let (receiver, s) ← settleOne receiver s
    let (receivers, s) ← settleEach receivers s
    return (receiver :: receivers, s)

/-- Lets all reloaders do what is due. -/
def settle (s : Service) : Logged Service := do
  let (earlier, s) ← settleEach s.earlier s
  match s.reloader with
  | some receiver =>
    let (receiver, s) ← settleOne receiver s
    return { s with reloader := some receiver, earlier }
  | none => return { s with earlier }

/-- Starts a reloader. It has seen the tree as it is. -/
def startReloader (s : Service) : Service :=
  { s with reloader := some s.tree.subscribe, earlier := s.earlier ++ s.reloader.toList }

/-- Stops the reloader that was started last. -/
def stopReloader (s : Service) : Service := { s with reloader := none }

/-! ## The tree -/

/-- The service after a change of the tree through a handle. -/
def withTree (s : Service) (handle : Handle) (tree : Tree) : Logged Service := do
  .note (.treeChanged handle tree.version)
  return { s with tree }

/-- Changes the tree. A change that does not take place leaves the service as it is. -/
def mutate (s : Service) (m : Tree.Mutation) : Logged (Except TreeFault Unit × Service) :=
  match s.tree.mutate m with
  | .error fault => return (.error fault, s)
  | .ok tree => do
    let s ← s.withTree m.handle tree
    return (.ok (), s)

/-! ## Stores -/

/-- The store in memory that was made last. -/
def currentStore (s : Service) : Store := s.current.store s.stores

/-- The service with the contents of a store set. -/
def setStore (s : Service) (ref : StoreRef) (store : Store) : Service :=
  { s with stores := s.stores.set ref.index store }

/-- Makes an empty store, which is not provided yet. -/
def makeStore (s : Service) : Service :=
  let ref : StoreRef := ⟨s.stores.length⟩
  -- The store has one instance from now on, however often it is provided.
  let made : Wiring.Instance (Key.Content .memoryStore) × Container :=
    s.registry.container.issue ref
  { s with
    registry := { s.registry with container := made.2 }
    stores := s.stores ++ [.empty]
    handles := s.handles ++ [made.1]
    current := ref }

/-- Provides a store that was made before, in place of the one that is provided. -/
def provideStore (s : Service) (ref : StoreRef) : Service :=
  match s.handles[ref.index]? with
  | none => s
  | some handle => { s with registry := (s.registry.provide handle).value }

/-- Makes an empty store and provides it. -/
def newStore (s : Service) : Service := s.makeStore.provideStore ⟨s.stores.length⟩

/-- Provides a database. -/
def provideDatabase (s : Service) (database : Database) : Service :=
  { s with registry := (s.registry.provideNew Key.database database).value.2 }

/-- Registers a certificate in a store in memory. -/
def registerIn (s : Service) (ref : StoreRef) (c : Certificate) (thing : Option Thing) :
    Logged (Except Fault CertificateId × Service) := do
  let (result, store) ← (ref.store s.stores).register c thing
  return (result, s.setStore ref store)

/-- Registers a certificate. -/
def register (s : Service) (backing : Backing) (c : Certificate) (thing : Option Thing) :
    Logged (Except Fault CertificateId × Service) :=
  match backing with
  | .memory => s.registerIn s.current c thing
  | .database => do
    let (result, _) ← ClosedDatabase.register ⟨⟩ c thing
    return (result, s)

/-- Looks a certificate up. -/
def lookup (s : Service) (backing : Backing) (c : Certificate) :
    Logged (Except Fault (Option CertificateId)) :=
  match backing with
  | .memory => s.currentStore.lookup c
  | .database => ClosedDatabase.lookup ⟨⟩ c

/-- Registers the certificates of the directory that a path leads to. -/
def seed (s : Service) (backing : Backing) (root : Entry) (path : String) :
    Logged (Except Fault Nat × Service) :=
  match backing with
  | .memory => do
    let (result, store) ← Seeding.load root path s.currentStore
    return (result, s.setStore s.current store)
  | .database => do
    let (result, _) ← Seeding.load root path ({} : ClosedDatabase)
    return (result, s)

/-! ## The beginning -/

/-- A service with this configuration and these tokens, on which nothing has been applied. It has an
empty store in memory and a database that cannot be reached, which are wired if `wired` says so. -/
def start (root : Json) (tokens : Tokens) (wired : Bool) : Service :=
  let s : Service := ⟨.ofRoot root, tokens, .empty, [], [], ⟨0⟩, none, []⟩
  if wired then s.newStore.provideDatabase .closed else s.makeStore

/-! ## Use cases -/

/-- A use case from the registry. -/
def get (s : Service) (useCase : UseCase) :
    Except (Wiring.Fault String) (Built useCase) × Service :=
  let (result, registry) := (s.registry.get useCase).value
  (result.mapError namedFailure, { s with registry })

/-- Keeps no use case any longer. -/
def clear (s : Service) : Service := { s with registry := s.registry.clear }

/-- Describes the certificate authority. -/
def describe (s : Service) : Except (Wiring.Fault String) Authority × Service :=
  let (result, s) := s.get .describe
  (result.map described, s)

/-- The collaborators of a verification, from the registry. -/
def verifier (s : Service) (backing : Backing) :
    Except (Wiring.Fault String) Verifier × Service :=
  let (result, s) := s.get (.verify backing)
  (result.map (Service.verifierOf s.stores backing), s)

/-- Answers a request. The use case is taken from the registry only if the request is admitted. -/
def request (s : Service) (backing : Backing) (r : Net.Request) : Logged (Response × Service) := do
  match ← Boundary.admission s.tokens r with
  | .answered response => return (Boundary.sent r response, s)
  | .admitted caller payload =>
    let (verifier, s) := s.verifier backing
    let response ← Boundary.complete caller payload verifier
    return (Boundary.sent r response, s)

end Service

end DeviceIdentity
