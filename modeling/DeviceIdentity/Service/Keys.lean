import DeviceIdentity.Seeding
import DeviceIdentity.Verification
import DeviceIdentity.Wiring.Registry

/-!
# What is wired

The instances that the service is put together from, and the use cases that are built from them. A
store in memory is wired by reference, since registering a certificate must be seen by the use cases
that were built before.
-/
namespace DeviceIdentity.Service

/-- The types of instances. -/
inductive Key where
  | authority
  | authorizer
  | memoryStore
  | database
deriving DecidableEq, Repr

/-- The name of a type of instance. -/
def Key.name : Key → String
  | authority => "CdaConfiguration"
  | authorizer => "PolicyAuthorizationHandler"
  | memoryStore => "InMemoryCertificateStore"
  | database => "PgCertificateStore"

/-- A reference to a store in memory. -/
structure StoreRef where
  index : Nat
deriving DecidableEq, Repr

/-- What an instance of each type is. -/
def Key.Content : Key → Type
  | authority => Authority
  | authorizer => Authorizer
  | memoryStore => StoreRef
  | database => Database

/-- The kinds of stores that certificates are looked up in. -/
inductive Backing where
  | memory
  | database
deriving DecidableEq, Repr

/-- The type of instance that a kind of store is. -/
def Backing.key : Backing → Key
  | memory => .memoryStore
  | database => .database

/-- The use cases: describing the certificate authority, and verifying identities. -/
inductive UseCase where
  | describe
  | verify (backing : Backing)
deriving DecidableEq, Repr

/-- The name of a type of use case. -/
def UseCase.name : UseCase → String
  | describe => "DescribeCertificateAuthorityUseCase"
  | verify backing =>
    "VerifyClientDeviceIdentityUseCase<" ++ Key.authorizer.name ++ ", " ++ backing.key.name ++ ">"

/-- The dependencies of each use case, in their order. -/
def UseCase.needs : UseCase → List Key
  | describe => [.authority]
  | verify .memory => [.authorizer, .memoryStore]
  | verify .database => [.authorizer, .database]

/-- The container of the service. -/
abbrev Container := Wiring.Container Key Key.Content

/-- The registry of the service. -/
abbrev Registry := Wiring.Registry Key UseCase Key.Content UseCase.needs

/-- A use case of the service that was built. -/
abbrev Built (useCase : UseCase) := Wiring.Built Key.Content useCase.needs

/-- Stores in memory by their references. -/
abbrev Stores := List Store

/-- The store that a reference stands for. -/
def StoreRef.store (ref : StoreRef) (stores : Stores) : Store := stores.getD ref.index .empty

/-- The settings that a use case describes. -/
def described (b : Built .describe) : Authority :=
  match b.dependencies with
  | .cons authority .nil => authority.value

/-- The collaborators of a verification, with the stores as they are now. -/
def verifierOf (stores : Stores) : (backing : Backing) → Built (.verify backing) → Verifier
  | .memory, b =>
    match b.dependencies with
    | .cons (authorizer : Wiring.Instance Authorizer)
        (.cons (ref : Wiring.Instance StoreRef) .nil) =>
      ⟨authorizer.value.decide, (ref.value.store stores).lookup⟩
  | .database, b =>
    match b.dependencies with
    | .cons (authorizer : Wiring.Instance Authorizer)
        (.cons (database : Wiring.Instance Database) .nil) =>
      ⟨authorizer.value.decide, database.value.lookup⟩

/-- A wiring fault with the names of its types. -/
def namedFault (fault : Wiring.Fault Key) : Wiring.Fault String := fault.map Key.name

/-- Why a use case cannot be had, with the names of the types. -/
def namedFailure : Wiring.Failure Key UseCase → Wiring.Fault String
  | .dependency fault => namedFault fault
  | .mismatch useCase => .mismatch useCase.name

end DeviceIdentity.Service
