import DeviceIdentity.Json.Value
import DeviceIdentity.Proofs.Named

/-!
# Nodes of a value

What is found at the paths of a value in which one node was set: at and under the path what the node
was set to, on the way to it objects that keep their other members, and anywhere else what was there
before. Nodes that do not lie under one another can be set in either order, and setting a node makes
up for whatever was set at it or under it.
-/
namespace DeviceIdentity

/-- Neither of two paths leads on from the other, so neither node lies under the other. -/
def Apart (path other : List String) : Prop := ¬ path <+: other ∧ ¬ other <+: path

namespace Apart

variable {path other : List String}

theorem symm (h : Apart path other) : Apart other path := And.symm h

theorem ne_nil (h : Apart path other) : path ≠ [] := by
  rintro rfl
  exact h.1 List.nil_prefix

/-- Paths that begin alike are apart behind the beginning that they share. -/
theorem tail {name : String} (h : Apart (name :: path) (name :: other)) : Apart path other :=
  ⟨fun hp => h.1 (List.cons_prefix_cons.2 ⟨rfl, hp⟩),
    fun hp => h.2 (List.cons_prefix_cons.2 ⟨rfl, hp⟩)⟩

end Apart

namespace Json

variable (value new new' : Json)

@[simp] theorem node?_cons (name : String) (path : List String) :
    node? (name :: path) value = (value.get? name).bind (node? path) := rfl

theorem setNode_cons (name : String) (path : List String) :
    value.setNode (name :: path) new =
      object (value.members.set name (((value.get? name).getD null).setNode path new)) := by
  cases value <;> rfl

theorem get?_setNode_cons_self (name : String) (path : List String) :
    (value.setNode (name :: path) new).get? name =
      some (((value.get? name).getD null).setNode path new) := by
  rw [setNode_cons, get?_object, Named.get?_set_self]

theorem get?_setNode_cons_of_ne {name other : String} (h : other ≠ name) (path : List String) :
    (value.setNode (name :: path) new).get? other = value.get? other := by
  rw [setNode_cons, get?_object, Named.get?_set_of_ne h]
  rfl

/-! ## Looking up after setting -/

/-- Where there is no node, there is nothing to find but a node that counts as `null`. -/
theorem getD_bind_node? (found : Option Json) (path : List String) :
    (found.bind (node? path)).getD null = (node? path (found.getD null)).getD null := by
  cases found with
  | some v => rfl
  | none => cases path <;> rfl

/-- On the way to a node that is set, each node has the rest of the path set in it. -/
theorem node?_setNode_front (front rest : List String) :
    node? front (value.setNode (front ++ rest) new) =
      some (((node? front value).getD null).setNode rest new) := by
  induction front generalizing value with
  | nil => rfl
  | cons name front ih =>
    rw [List.cons_append, node?_cons, get?_setNode_cons_self, Option.bind_some, ih, node?_cons,
      getD_bind_node?]

theorem node?_setNode_under (path rest : List String) :
    node? (path ++ rest) (value.setNode path new) = node? rest new := by
  have hpath := node?_setNode_front value new path []
  rw [List.append_nil, setNode_nil] at hpath
  rw [node?_append, hpath, Option.bind_some]

/-- A node that lies neither above nor under the one that is set stays what it was. -/
theorem node?_setNode_apart {path other : List String} (h : Apart path other) :
    node? other (value.setNode path new) = node? other value := by
  induction path generalizing value other with
  | nil => exact absurd rfl h.ne_nil
  | cons name path ih =>
    cases other with
    | nil => exact absurd rfl h.symm.ne_nil
    | cons name' other =>
      by_cases hname : name' = name
      · subst hname
        have htail := h.tail
        simp only [node?_cons, get?_setNode_cons_self, Option.bind_some, ih _ htail]
        cases value.get? name' with
        | some v => rfl
        | none =>
          -- Under a node that was not there nothing is found, but what counts as that node itself.
          obtain ⟨name, rest, rfl⟩ := List.exists_cons_of_ne_nil htail.symm.ne_nil
          rfl
      · simp only [node?_cons, get?_setNode_cons_of_ne value new hname]

/-- On the way to a node that is set are objects, which keep their other members. -/
theorem exists_object_setNode (front rest : List String) (name : String) :
    ∃ members, node? front (value.setNode (front ++ name :: rest) new) = some (object members) ∧
      Named.others name members =
        Named.others name ((node? front value).getD null).members := by
  rw [node?_setNode_front, setNode_cons]
  exact ⟨_, rfl, Named.others_set _ _ _⟩

/-! ## Setting after setting -/

theorem setNode_setNode_cons_self (name : String) (path path' : List String) :
    (value.setNode (name :: path) new).setNode (name :: path') new' =
      object (value.members.set name
        ((((value.get? name).getD null).setNode path new).setNode path' new')) := by
  rw [setNode_cons, get?_setNode_cons_self, Option.getD_some, setNode_cons, members,
    Named.set_set]

theorem setNode_setNode_cons_of_ne {name name' : String} (h : name' ≠ name)
    (path path' : List String) :
    (value.setNode (name :: path) new).setNode (name' :: path') new' =
      object ((value.members.set name (((value.get? name).getD null).setNode path new)).set name'
        (((value.get? name').getD null).setNode path' new')) := by
  rw [setNode_cons, get?_setNode_cons_of_ne value new h, setNode_cons, members]

/-- Setting a node makes up for what was set at it or under it before. -/
theorem setNode_setNode_append (path rest : List String) :
    (value.setNode (path ++ rest) new).setNode path new' = value.setNode path new' := by
  induction path generalizing value with
  | nil => rw [setNode_nil, setNode_nil]
  | cons name path ih => rw [List.cons_append, setNode_setNode_cons_self, ih, setNode_cons]

/-- Nodes that do not lie under one another can be set in either order. -/
theorem setNode_comm {path path' : List String} (h : Apart path path') :
    (value.setNode path new).setNode path' new' = (value.setNode path' new').setNode path new := by
  induction path generalizing value path' with
  | nil => exact absurd rfl h.ne_nil
  | cons name path ih =>
    cases path' with
    | nil => exact absurd rfl h.symm.ne_nil
    | cons name' path' =>
      by_cases hname : name' = name
      · subst hname
        simp only [setNode_setNode_cons_self, ih _ h.tail]
      · simp only [setNode_setNode_cons_of_ne _ _ _ hname,
          setNode_setNode_cons_of_ne _ _ _ (Ne.symm hname), Named.set_comm hname]

end Json

end DeviceIdentity
