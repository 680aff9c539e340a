import DeviceIdentity.Store

/-!
# Seeding

Registering the certificates of a directory: each file that is named after a thing, with the
extension `pem`, holds the certificate of that thing. A file with another name is passed over, and
one without a certificate is skipped with a warning; what cannot be listed, read or registered ends
the loading.
-/
namespace DeviceIdentity.Seeding

/-- The name of a file without its extension, if the extension is `pem`. A point at the very
beginning starts no extension. -/
def pemStem? (name : String) : Option String :=
  let reversed := name.toList.reverse
  let extension := (reversed.takeWhile (· ≠ '.')).reverse
  match reversed.dropWhile (· ≠ '.') with
  | '.' :: stem =>
    if extension = "pem".toList ∧ stem ≠ [] then some (String.ofList stem.reverse) else none
  | _ => none

/-- What becomes of a file. -/
inductive Finding where
  /-- No certificate is looked for under that name. -/
  | ignored
  | skipped (event : Event)
  | unreadable (fault : FileFault)
  | certificate (thing : Thing) (c : Certificate)

/-- What becomes of an entry of a directory. -/
def find (directory name : String) (entry : Entry) : Finding :=
  let path := Entry.pathOf directory name
  match pemStem? name with
  | none => .ignored
  | some stem =>
    match Thing.ofName stem with
    | .error fault => .skipped (.skippedName path fault)
    | .ok thing =>
      match entry.textAt path with
      | .error fault => .unreadable fault
      | .ok text =>
        match Certificate.ofText text with
        | none => .skipped (.skippedEmpty path)
        | some c =>
          match c.id with
          | .error fault => .skipped (.skippedCertificate path fault)
          | .ok _ => .certificate thing c

variable {σ : Type} [CertificateStore σ]

/-- Registers what is found among entries; `count` certificates were registered before. -/
def loadEntries (directory : String) (count : Nat) (store : σ) :
    List (String × Entry) → Logged (Except Fault Nat × σ)
  | [] => return (.ok count, store)
  | (name, entry) :: rest =>
    match find directory name entry with
    | .ignored => loadEntries directory count store rest
    | .skipped event => do
      .note event
      loadEntries directory count store rest
    | .unreadable fault => return (.error (.file fault), store)
    | .certificate thing c => do
      match ← CertificateStore.register store c (some thing) with
      | (.ok _, store) => loadEntries directory (count + 1) store rest
      | (.error fault, store) => return (.error fault, store)

/-- Registers the certificates of the directory that a path leads to. Answers how many there
were. -/
def load (root : Entry) (directory : String) (store : σ) : Logged (Except Fault Nat × σ) := do
  match root.follow directory >>= Entry.listing with
  | .error fault => return (.error (.file fault), store)
  | .ok (entries, ending) =>
    match ← loadEntries directory 0 store entries, ending with
    | (.error fault, store), _ => return (.error fault, store)
    | (.ok _, store), some fault => return (.error (.file fault), store)
    | (.ok count, store), none => do
      .note (.seeded directory count)
      return (.ok count, store)

end DeviceIdentity.Seeding
