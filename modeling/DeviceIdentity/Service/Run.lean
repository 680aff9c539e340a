import DeviceIdentity.Service.State

/-!
# Runs of the service

What can be done to the service, one step at a time, in any order and any number of times.
-/
namespace DeviceIdentity.Service

/-- A step of a run. -/
inductive Step where
  -- the tree
  | mutate (m : Tree.Mutation)
  | update (path : List String) (value : Json)
  | replace (handle : Handle) (value : Json)
  | reloadFile (file : Option Entry)
  -- the configuration
  | apply
  | startReloader
  | stopReloader
  /-- Lets the reloaders do what is due. -/
  | settle
  -- the stores
  | register (backing : Backing) (c : Certificate) (thing : Option Thing)
  | registerIn (ref : StoreRef) (c : Certificate) (thing : Option Thing)
  | lookup (backing : Backing) (c : Certificate)
  | newStore
  | makeStore
  | provideStore (ref : StoreRef)
  | provideDatabase (database : Database)
  | seed (backing : Backing) (root : Entry) (path : String)
  -- the use cases
  | request (backing : Backing) (r : Net.Request)
  | describe
  | verify (backing : Backing) (caller : String) (payload : Payload)
  | get (useCase : UseCase)
  | clear

/-- What a step answers. -/
inductive Outcome where
  | done
  | reloadedFile (result : Except TreeFault Unit)
  | applied (result : Except ConfigurationFault Nat)
  | registered (result : Except Fault CertificateId)
  | found (result : Except Fault (Option CertificateId))
  | seeded (result : Except Fault Nat)
  | responded (response : Response)
  | described (result : Except (Wiring.Fault String) Authority)
  | verified (result : Except (Wiring.Fault String) (Except VerificationFault Bool))
  /-- The number of the use case that was had. -/
  | got (result : Except (Wiring.Fault String) Nat)

/-- One step. -/
def perform (s : Service) : Step → Logged (Outcome × Service)
  | .mutate m => do
    let (result, s) ← s.mutate m
    return (.reloadedFile result, s)
  | .update path value => do return (.done, (← s.mutate (.update [] path value)).2)
  | .replace handle value => do return (.done, (← s.mutate (.replace handle value)).2)
  | .reloadFile file => do
    let (result, s) ← s.mutate (.reload [] file)
    return (.reloadedFile result, s)
  | .apply => do
    let (result, s) ← s.apply
    return (.applied result, s)
  | .startReloader => return (.done, s.startReloader)
  | .stopReloader => return (.done, s.stopReloader)
  | .settle => do return (.done, ← s.settle)
  | .register backing c thing => do
    let (result, s) ← s.register backing c thing
    return (.registered result, s)
  | .registerIn ref c thing => do
    let (result, s) ← s.registerIn ref c thing
    return (.registered result, s)
  | .lookup backing c => do return (.found (← s.lookup backing c), s)
  | .newStore => return (.done, s.newStore)
  | .makeStore => return (.done, s.makeStore)
  | .provideStore ref => return (.done, s.provideStore ref)
  | .provideDatabase database => return (.done, s.provideDatabase database)
  | .seed backing root path => do
    let (result, s) ← s.seed backing root path
    return (.seeded result, s)
  | .request backing r => do
    let (response, s) ← s.request backing r
    return (.responded response, s)
  | .describe =>
    let (result, s) := s.describe
    return (.described result, s)
  | .verify backing caller payload =>
    match s.verifier backing with
    | (.error fault, s) => return (.verified (.error fault), s)
    | (.ok verifier, s) => do
      let result ← verifier.run caller payload
      return (.verified (.ok result), s)
  | .get useCase =>
    let (result, s) := s.get useCase
    return (.got (result.map (·.number)), s)
  | .clear => return (.done, s.clear)

/-- Several steps, one after the other. -/
def run (s : Service) : List Step → Logged (List Outcome × Service)
  | [] => return ([], s)
  | step :: steps => do
    let (outcome, s) ← s.perform step
    let (outcomes, s) ← s.run steps
    return (outcome :: outcomes, s)

end DeviceIdentity.Service
