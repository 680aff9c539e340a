import DeviceIdentity.Named
import DeviceIdentity.Tree

/-!
# Tree sessions

Runs of operations on one tree, with receivers that are kept by name.
-/
namespace DeviceIdentity.Tree

/-- A tree and the receivers that were subscribed to it. -/
structure Session where
  tree : Tree
  receivers : Named Receiver

/-- What can be done to a tree. -/
inductive Operation where
  | update (handle : Handle) (path : List String) (value : Json)
  | replace (handle : Handle) (value : Json)
  | reload (handle : Handle) (file : Option Entry)
  | lookup (handle : Handle) (path : List String)
  | subscribe (name : String)
  /-- Marks what the receiver of that name has seen. -/
  | mark (name : String)

/-- What an operation answers. -/
inductive Outcome where
  | done
  | reloaded (result : Except TreeFault Unit)
  | found (node : Option Json)

namespace Session

/-- A session that begins with a tree. -/
def start (tree : Tree) : Session := ⟨tree, []⟩

/-- Whether a receiver is marked changed; none has that name otherwise. -/
def changed? (s : Session) (name : String) : Option Bool :=
  (s.receivers.get? name).map s.tree.changed

/-- One operation. -/
def perform (s : Session) : Operation → Outcome × Session
  | .update handle path value => (.done, { s with tree := s.tree.update handle path value })
  | .replace handle value => (.done, { s with tree := s.tree.replace handle value })
  | .reload handle file =>
    match s.tree.reload handle file with
    | .ok tree => (.reloaded (.ok ()), { s with tree })
    | .error fault => (.reloaded (.error fault), s)
  | .lookup handle path => (.found (s.tree.lookup handle path), s)
  | .subscribe name => (.done, { s with receivers := s.receivers.set name s.tree.subscribe })
  | .mark name =>
    match s.receivers.get? name with
    | some _ => (.done, { s with receivers := s.receivers.set name s.tree.subscribe })
    | none => (.done, s)

/-- Several operations, one after the other. -/
def run (s : Session) : List Operation → Session
  | [] => s
  | op :: ops => (s.perform op).2.run ops

end Session

end DeviceIdentity.Tree
