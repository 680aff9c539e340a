import DeviceIdentity.Proofs.Json.Nodes
import DeviceIdentity.Tree

/-!
# Changing a tree

What a change of a node does to all nodes of a tree, seen through any handles, and what several
changes come to. Only the path from the root matters, not which part of it belongs to the handle.
-/
namespace DeviceIdentity

theorem Handle.foldl_child (handle : Handle) (names : List String) :
    names.foldl child handle = handle ++ names := by
  induction names generalizing handle with
  | nil => exact (List.append_nil handle).symm
  | cons name names ih => exact (ih _).trans (List.append_cons handle name names).symm

namespace Tree

/-! ## One change -/

/-- One tree came from another by setting the node at a path, and nothing else was changed. -/
structure SetAt (path : List String) (value : Json) (before after : Tree) : Prop where
  /-- At the path and under it is what the node was set to. -/
  under : ∀ handle path' rest, handle ++ path' = path ++ rest →
    after.lookup handle path' = value.node? rest
  /-- Nodes that lie neither above it nor under it are what they were. -/
  apart : ∀ handle path', Apart path (handle ++ path') →
    after.lookup handle path' = before.lookup handle path'
  /-- The nodes above it are objects. They keep their other members, if they were objects before,
  and have no others, if they were anything else or were not there. -/
  above : ∀ handle path' name rest, path = handle ++ path' ++ name :: rest →
    ∃ members, after.lookup handle path' = some (.object members) ∧
      (∀ members', before.lookup handle path' = some (.object members') →
        Named.others name members = Named.others name members') ∧
      ((∀ members', before.lookup handle path' ≠ some (.object members')) →
        Named.others name members = [])

theorem setAt_of_root {t t' : Tree} {path : List String} {value : Json}
    (h : t'.root = t.root.setNode path value) : SetAt path value t t' where
  under := by
    intro handle path' rest hpath
    rw [lookup, hpath, h]
    exact Json.node?_setNode_under _ _ _ _
  apart := by
    intro handle path' hapart
    rw [lookup, h]
    exact Json.node?_setNode_apart _ _ hapart
  above := by
    rintro handle path' name rest rfl
    obtain ⟨members, hmembers, hothers⟩ :=
      Json.exists_object_setNode t.root value (handle ++ path') rest name
    refine ⟨members, by rw [lookup, h, hmembers], ?_, ?_⟩
    · intro members' hbefore
      rw [lookup] at hbefore
      rw [hothers, hbefore]
      rfl
    · intro hbefore
      rw [hothers]
      -- What is no object has no members, and what is not there counts as `null`.
      cases hnode : t.root.node? (handle ++ path') with
      | none => rfl
      | some node =>
        cases node with
        | object members' => exact absurd hnode (hbefore members')
        | null | bool | number | string | array => rfl

theorem replace_eq_update (t : Tree) (handle : Handle) (value : Json) :
    t.replace handle value = t.update handle [] value := by
  unfold replace
  split
  · next h =>
    subst h
    exact congrArg (Tree.mk · (t.version + 1)) (Json.setNode_nil value t.root).symm
  · rfl

/-- Setting a node through a handle sets the node at the path of the handle with the given path
behind it, and nothing else; it does not matter where the handle ends and the given path begins, or
by which children the handle was reached. Replacing the node of a handle, which may be the root, is
setting it through the handle itself. -/
theorem setAt_update (t : Tree) (handle : Handle) (path : List String) (value : Json) :
    SetAt (handle ++ path) value t (t.update handle path value) ∧
    (∀ handle' path', handle' ++ path' = handle ++ path →
      t.update handle' path' value = t.update handle path value) ∧
    (∀ names, t.update (names.foldl Handle.child handle) path value =
      t.update handle (names ++ path) value) ∧
    t.replace handle value = t.update handle [] value := by
  refine ⟨setAt_of_root rfl, ?_, ?_, replace_eq_update t handle value⟩
  · intro handle' path' hpath
    simp only [update, hpath]
  · intro names
    simp only [update, Handle.foldl_child, List.append_assoc]

/-! ## Several changes -/

/-- A node that is to be set, by its path from a handle. -/
structure Setting where
  handle : Handle
  path : List String
  value : Json

/-- The path of the node from the root. -/
def Setting.target (u : Setting) : List String := u.handle ++ u.path

/-- The tree with several nodes set, one after the other. -/
def setEach (t : Tree) : List Setting → Tree
  | [] => t
  | u :: us => (t.update u.handle u.path u.value).setEach us

theorem version_setEach (t : Tree) (us : List Setting) :
    (t.setEach us).version = t.version + us.length := by
  induction us generalizing t with
  | nil => rfl
  | cons u us ih =>
    simp only [setEach, ih, version_update, List.length_cons]
    omega

/-- A node that is set makes up for whatever was set at it or under it before. -/
theorem setNode_root_setEach (t : Tree) {path : List String} {us : List Setting}
    (h : ∀ u ∈ us, path <+: u.target) (value : Json) :
    (t.setEach us).root.setNode path value = t.root.setNode path value := by
  induction us generalizing t with
  | nil => rfl
  | cons u us ih =>
    obtain ⟨hu, hus⟩ := List.forall_mem_cons.1 h
    obtain ⟨rest, hrest⟩ := hu
    calc (t.setEach (u :: us)).root.setNode path value
      _ = (t.root.setNode u.target u.value).setNode path value := ih _ hus
      _ = (t.root.setNode (path ++ rest) u.value).setNode path value := by rw [hrest]
      _ = t.root.setNode path value := Json.setNode_setNode_append _ _ _ _ _

/-- Nodes of which neither lies under the other can be set in either order, and the whole tree comes
out the same. A node that is set leaves the same tree whatever was set at it or under it before.
Each change counts once all the same. -/
theorem update_comm_and_update_setEach (t : Tree) :
    (∀ handle path value handle' path' value', Apart (handle ++ path) (handle' ++ path') →
      (t.update handle path value).update handle' path' value' =
        (t.update handle' path' value').update handle path value ∧
      ((t.update handle path value).update handle' path' value').version = t.version + 2) ∧
    (∀ handle path value earlier, (∀ u ∈ earlier, handle ++ path <+: Setting.target u) →
      ((t.setEach earlier).update handle path value).root = (t.update handle path value).root ∧
      ((t.setEach earlier).update handle path value).version =
        t.version + earlier.length + 1) := by
  refine ⟨?_, ?_⟩
  · intro handle path value handle' path' value' hapart
    refine ⟨?_, rfl⟩
    exact congrArg (Tree.mk · (t.version + 2)) (Json.setNode_comm t.root value value' hapart)
  · intro handle path value earlier hearlier
    refine ⟨setNode_root_setEach t hearlier value, ?_⟩
    simp only [version_update, version_setEach]

/-- Two nodes are set under one that was no object, in either order; then that one is set itself. -/
theorem update_comm_and_update_setEach_shared :
    ∃ t, t = ofRoot (.object [("a", .bool true)]) ∧
      (t.update ["a"] ["b"] .null).update [] ["a", "c"] (.bool false) =
        (t.update [] ["a", "c"] (.bool false)).update ["a"] ["b"] .null ∧
      ((t.setEach [⟨["a"], ["b"], .null⟩, ⟨[], ["a"], .bool false⟩]).update [] ["a"] .null).root =
        (t.update [] ["a"] .null).root := by
  refine ⟨_, rfl, ?_, ?_⟩
  · have hapart : Apart (["a"] ++ ["b"]) ([] ++ ["a", "c"]) := ⟨by decide, by decide⟩
    exact ((update_comm_and_update_setEach _).1 _ _ _ _ _ _ hapart).1
  · refine ((update_comm_and_update_setEach _).2 _ _ _ _ ?_).1
    simp [Setting.target]

end Tree

end DeviceIdentity
