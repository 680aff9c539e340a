import DeviceIdentity.Files
import DeviceIdentity.Json.Reader
import DeviceIdentity.Text.Quoted

/-!
# Tree

The tree that holds the configuration. A handle is a path in it; everything is looked up and changed
through handles. Each change counts in the version, and a receiver has seen the version that was
current when it was made or last marked.
-/
namespace DeviceIdentity

/-- A configuration tree and the number of changes that were made to it. -/
structure Tree where
  root : Json
  version : Nat
deriving Repr

/-- A path from the root of the tree. -/
abbrev Handle := List String

/-- The handle of a child, which need not be there yet. -/
def Handle.child (handle : Handle) (name : String) : Handle := handle ++ [name]

/-- Why a tree cannot be loaded from a file. -/
inductive TreeFault where
  | file (fault : FileFault)
  | notJson (text : String)
  | notObject
deriving DecidableEq, Repr

/-- The text of a fault. -/
def TreeFault.message : TreeFault → String
  | file fault => "Failed to read configuration file: " ++ fault.message
  | notJson text => "Configuration file is not valid JSON: " ++ text
  | notObject => "Configuration root must be a JSON object"

/-- The object that a file holds. -/
def readTree (file : Option Entry) : Except TreeFault Json := do
  let text ← (Entry.readText file).mapError .file
  let value ← (Json.ofText text).mapError .notJson
  match value with
  | .object _ => return value
  | _ => .error .notObject

namespace Tree

/-- A tree with this root, not changed yet. -/
def ofRoot (root : Json) : Tree := ⟨root, 0⟩

/-- A tree without nodes. -/
def empty : Tree := ofRoot (.object [])

/-- A tree loaded from a file. -/
def ofFile (file : Option Entry) : Except TreeFault Tree :=
  (readTree file).map ofRoot

/-! ## Looking up -/

/-- The node at a path from a handle. -/
def lookup (t : Tree) (handle : Handle) (path : List String) : Option Json :=
  t.root.node? (handle ++ path)

/-- The text at a path from a handle. The empty text counts as absent. -/
def lookupText (t : Tree) (handle : Handle) (path : List String) : Option String :=
  match t.lookup handle path with
  | some (.string s) => if s = "" then none else some s
  | _ => none

/-- The names of the nodes under a handle. -/
def childNames (t : Tree) (handle : Handle) : List String :=
  ((t.lookup handle []).map fun n => n.members.names).getD []

/-- The node of a handle, or `null`. -/
def node (t : Tree) (handle : Handle) : Json :=
  (t.lookup handle []).getD .null

/-- A handle as text. -/
def shown (t : Tree) (handle : Handle) : String :=
  "Topics \x7b path: " ++ Text.quotedList handle ++ ", version: " ++ toString t.version ++ " \x7d"

/-! ## Changing -/

/-- The tree with the node at a path from a handle set. -/
def update (t : Tree) (handle : Handle) (path : List String) (value : Json) : Tree :=
  ⟨t.root.setNode (handle ++ path) value, t.version + 1⟩

/-- The tree with the node of a handle set; at the root, with another root. -/
def replace (t : Tree) (handle : Handle) (value : Json) : Tree :=
  if handle = [] then ⟨value, t.version + 1⟩ else t.update handle [] value

/-- The tree with the node of a handle set to what a file holds. -/
def reload (t : Tree) (handle : Handle) (file : Option Entry) : Except TreeFault Tree :=
  (readTree file).map (t.replace handle)

/-- A change of a tree through one of its handles. -/
inductive Mutation where
  | update (handle : Handle) (path : List String) (value : Json)
  | replace (handle : Handle) (value : Json)
  | reload (handle : Handle) (file : Option Entry)

/-- The handle that a change is made through. -/
def Mutation.handle : Mutation → Handle
  | update handle _ _ => handle
  | replace handle _ => handle
  | reload handle _ => handle

/-- The tree after a change. Only a file can keep a change from taking place. -/
def mutate (t : Tree) : Mutation → Except TreeFault Tree
  | .update handle path value => .ok (t.update handle path value)
  | .replace handle value => .ok (t.replace handle value)
  | .reload handle file => t.reload handle file

@[simp] theorem version_update (t : Tree) (handle : Handle) (path : List String) (value : Json) :
    (t.update handle path value).version = t.version + 1 := rfl

@[simp] theorem version_replace (t : Tree) (handle : Handle) (value : Json) :
    (t.replace handle value).version = t.version + 1 := by
  unfold replace
  split <;> rfl

/-- A change that takes place counts once. -/
theorem version_mutate {t t' : Tree} {m : Mutation} (h : t.mutate m = .ok t') :
    t'.version = t.version + 1 := by
  cases m with
  | update handle path value =>
    cases h
    rfl
  | replace handle value =>
    cases h
    exact version_replace t handle value
  | reload handle file =>
    simp only [mutate, reload] at h
    cases hfile : readTree file with
    | error fault =>
      rw [hfile] at h
      cases h
    | ok value =>
      rw [hfile] at h
      cases h
      exact version_replace t handle value

/-! ## Receivers -/

/-- Someone who is told whether the tree has changed. -/
structure Receiver where
  seen : Nat
deriving DecidableEq, Repr

/-- A receiver that has seen the tree as it is. -/
def subscribe (t : Tree) : Receiver := ⟨t.version⟩

/-- Whether the tree has changed since the receiver saw it. -/
def changed (t : Tree) (r : Receiver) : Bool := r.seen != t.version

end Tree

end DeviceIdentity
