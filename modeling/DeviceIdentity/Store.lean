import DeviceIdentity.Event

/-!
# Stores

Which certificates are registered, and for which things. A certificate is registered under its id,
never as text. A text that cannot be decoded belongs to no registered certificate: looking it up is
no failure.
-/
namespace DeviceIdentity

/-- A place where certificates are registered and looked up. -/
class CertificateStore (σ : Type) where
  /-- Registers a certificate as active, perhaps for a thing. -/
  register : σ → Certificate → Option Thing → Logged (Except Fault CertificateId × σ)
  /-- The id of a certificate, if it is registered and active. -/
  lookup : σ → Certificate → Logged (Except Fault (Option CertificateId))

/-- A registered certificate: its status, and the things it is attached to, in order. -/
structure Registration where
  status : Status
  things : List Thing
deriving DecidableEq, Repr

namespace Registration

/-- Things in order with one more, unless it is there already. -/
def insertThing (thing : Thing) : List Thing → List Thing
  | [] => [thing]
  | t :: rest =>
    if t.name = thing.name then t :: rest
    else if thing.name < t.name then thing :: t :: rest
    else t :: insertThing thing rest

/-- A certificate that has just been registered. -/
def fresh : Registration := ⟨.active, []⟩

/-- The registration made active, and attached to a thing if one is given. -/
def renew (r : Registration) (thing : Option Thing) : Registration :=
  ⟨.active, match thing with
    | some thing => insertThing thing r.things
    | none => r.things⟩

end Registration

/-- A store in memory: registrations by the digits of their ids. -/
structure Store where
  records : Named Registration
deriving DecidableEq, Repr

namespace Store

/-- A store in which nothing is registered. -/
def empty : Store := ⟨[]⟩

/-- The registration under an id. -/
def get? (s : Store) (id : CertificateId) : Option Registration := s.records.get? id.digits

/-- The store with a certificate registered under its id. -/
def add (s : Store) (id : CertificateId) (thing : Option Thing) : Store :=
  ⟨s.records.set id.digits (((s.get? id).getD .fresh).renew thing)⟩

/-- Registers a certificate. One that cannot be decoded changes nothing. -/
def register (s : Store) (c : Certificate) (thing : Option Thing) :
    Logged (Except Fault CertificateId × Store) :=
  match c.id with
  | .error fault => return (.error (.certificate fault), s)
  | .ok id => do
    .note (.registered id)
    return (.ok id, s.add id thing)

/-- The id of a certificate that is registered and active. -/
def lookup (s : Store) (c : Certificate) : Logged (Except Fault (Option CertificateId)) :=
  match c.id with
  | .error fault => do
    .note (.undecodable fault)
    return .ok none
  | .ok id =>
    match s.get? id with
    | some r => return .ok (if r.status = .active then some id else none)
    | none => return .ok none

instance : CertificateStore Store where
  register := register
  lookup := lookup

@[simp] theorem get?_add_self (s : Store) (id : CertificateId) (thing : Option Thing) :
    (s.add id thing).get? id = some (((s.get? id).getD .fresh).renew thing) := by
  simp [add, get?]

theorem get?_add_of_ne {id other : CertificateId} (h : other ≠ id) (s : Store)
    (thing : Option Thing) : (s.add id thing).get? other = s.get? other := by
  have : other.digits ≠ id.digits := fun he => h (by cases id; cases other; simp_all)
  simp [add, get?, Named.get?_set_of_ne this]

end Store

/-- A store in a database that cannot be reached: its pool of connections is closed. -/
structure ClosedDatabase where
deriving DecidableEq, Repr

namespace ClosedDatabase

/-- Fails, after decoding the certificate. -/
def register (d : ClosedDatabase) (c : Certificate) (_ : Option Thing) :
    Logged (Except Fault CertificateId × ClosedDatabase) :=
  match c.id with
  | .error fault => return (.error (.certificate fault), d)
  | .ok _ => return (.error (.database .poolClosed), d)

/-- Fails, unless the certificate cannot be decoded: then there is nothing to ask for. -/
def lookup (_ : ClosedDatabase) (c : Certificate) :
    Logged (Except Fault (Option CertificateId)) :=
  match c.id with
  | .error fault => do
    .note (.undecodable fault)
    return .ok none
  | .ok _ => return .error (.database .poolClosed)

instance : CertificateStore ClosedDatabase where
  register := register
  lookup := lookup

end ClosedDatabase

/-- A store in a database, by what it answers when a certificate is looked up. -/
structure Database where
  lookup : Certificate → Logged (Except Fault (Option CertificateId))

/-- The database that cannot be reached. -/
def Database.closed : Database := ⟨ClosedDatabase.lookup ⟨⟩⟩

end DeviceIdentity
