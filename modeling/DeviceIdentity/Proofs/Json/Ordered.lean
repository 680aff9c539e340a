import DeviceIdentity.Json.Reader
import DeviceIdentity.Proofs.Json.Nodes
import DeviceIdentity.Proofs.Outcome

/-!
# Values whose objects are in order

A value is in order if each object in it has its members in the order of their names, and no name
twice. Every value that is read from a text is in order, and stays so when a node of it is set to a
value in order.
-/
namespace DeviceIdentity.Json

/-- The members of every object in a value stand in the order of their names, and no name twice. -/
inductive Ordered : Json → Prop
  | null : Ordered null
  | bool (b : Bool) : Ordered (bool b)
  | number (n : Number) : Ordered (number n)
  | string (s : String) : Ordered (string s)
  | array {items : List Json} (hitems : ∀ v ∈ items, Ordered v) : Ordered (array items)
  | object {members : Members} (hnames : members.Ordered)
      (hmembers : ∀ name v, (name, v) ∈ members → Ordered v) : Ordered (object members)

namespace Ordered

variable {value new v : Json} {name : String}

theorem members (h : value.Ordered) : value.members.Ordered := by
  cases h with
  | object hnames => exact hnames
  | _ => exact OrderedBy.nil

theorem of_mem_members (h : value.Ordered) (hmem : (name, v) ∈ value.members) : v.Ordered := by
  cases h with
  | object _ hmembers => exact hmembers name v hmem
  | _ => cases hmem

theorem get?_eq_some_iff (h : value.Ordered) :
    value.get? name = some v ↔ (name, v) ∈ value.members :=
  h.members.get?_eq_some_iff

theorem of_get? (h : value.Ordered) (hget : value.get? name = some v) : v.Ordered :=
  h.of_mem_members (h.get?_eq_some_iff.1 hget)

theorem of_node? (h : value.Ordered) {path : List String} (hnode : value.node? path = some v) :
    v.Ordered := by
  induction path generalizing value with
  | nil =>
    cases hnode
    exact h
  | cons name path ih =>
    obtain ⟨child, hchild, hnode⟩ := Option.bind_eq_some_iff.1 hnode
    exact ih (h.of_get? hchild) hnode

theorem empty : (Json.object []).Ordered :=
  .object OrderedBy.nil fun _ _ h => absurd h List.not_mem_nil

theorem ofStrings (ss : List String) : (Json.ofStrings ss).Ordered := by
  refine .array fun v hv => ?_
  obtain ⟨s, -, rfl⟩ := List.mem_map.1 hv
  exact .string s

theorem object_set {members : Members} (h : (Json.object members).Ordered) (hv : v.Ordered)
    (name : String) : (Json.object (members.set name v)).Ordered := by
  refine .object (h.members.set name v) fun name' v' hmem => ?_
  rcases Named.mem_set hmem with heq | hmem
  · cases heq
    exact hv
  · exact h.of_mem_members hmem

theorem setNode (h : value.Ordered) (hnew : new.Ordered) (path : List String) :
    (value.setNode path new).Ordered := by
  induction path generalizing value with
  | nil =>
    rw [setNode_nil]
    exact hnew
  | cons name path ih =>
    have hmembers : (Json.object value.members).Ordered :=
      .object h.members fun name v hmem => h.of_mem_members hmem
    have hchild : ((value.get? name).getD Json.null).Ordered := by
      cases hget : value.get? name with
      | none => exact .null
      | some child => exact h.of_get? hget
    rw [setNode_cons]
    exact hmembers.object_set (ih hchild) name

end Ordered

/-! ## Reading -/

section Reading

open Text (Glyph)

variable {read : Reader Json} {v : Json} {rest rest' : List Glyph}

/-- A reader that reads values in order only. -/
def ReadsOrdered (read : Reader Json) : Prop :=
  ∀ rest v rest', read rest = .ok (v, rest') → v.Ordered

theorem ordered_of_itemsAfter (hread : ReadsOrdered read) {before vs : List Json}
    {fuel : List Glyph} (hbefore : ∀ v ∈ before, v.Ordered)
    (h : itemsAfter read before fuel rest = .ok (vs, rest')) : ∀ v ∈ vs, v.Ordered := by
  induction fuel generalizing before rest with
  | nil => cases h
  | cons g fuel ih =>
    simp only [itemsAfter, bind_eq_ok_iff] at h
    obtain ⟨next, -, h⟩ := h
    cases next with
    | done rest =>
      cases h
      intro v hv
      exact hbefore v (List.mem_reverse.1 hv)
    | more rest =>
      simp only at h
      cases hv : read rest with
      | error fault =>
        rw [hv] at h
        cases h
      | ok result =>
        rw [hv] at h
        refine ih (fun v' hv' => ?_) h
        rcases List.mem_cons.1 hv' with rfl | hv'
        · exact hread _ _ _ hv
        · exact hbefore v' hv'

theorem ordered_of_membersAfter (hread : ReadsOrdered read) {before members : Members}
    {first : Bool} {fuel : List Glyph} (hbefore : (object before).Ordered)
    (h : membersAfter read before first fuel rest = .ok (members, rest')) :
    (object members).Ordered := by
  induction fuel generalizing before first rest with
  | nil => cases h
  | cons g fuel ih =>
    simp only [membersAfter, bind_eq_ok_iff] at h
    obtain ⟨next, -, h⟩ := h
    cases next with
    | done rest =>
      cases h
      exact hbefore
    | more rest =>
      simp only [bind_eq_ok_iff] at h
      obtain ⟨⟨name, rest⟩, -, rest, -, ⟨v, rest⟩, hv, h⟩ := h
      exact ih (hbefore.object_set (hread _ _ _ hv) name) h

theorem readsOrdered_scalarOr {array object : Reader Json} (harray : ReadsOrdered array)
    (hobject : ReadsOrdered object) : ReadsOrdered (scalarOr array object) := by
  intro rest v rest' h
  unfold scalarOr at h
  split at h
  · cases h
  · -- What the first character starts: a literal, a text, a number, an array or an object.
    split_ifs at h
    all_goals try simp only [bind_eq_ok_iff, pure_eq_ok_iff, Prod.mk.injEq] at h
    · obtain ⟨-, -, rfl, -⟩ := h
      exact .null
    · obtain ⟨-, -, rfl, -⟩ := h
      exact .bool true
    · obtain ⟨-, -, rfl, -⟩ := h
      exact .bool false
    · obtain ⟨⟨s, -⟩, -, rfl, -⟩ := h
      exact .string s
    · obtain ⟨⟨n, -⟩, -, rfl, -⟩ := h
      exact .number n
    · exact harray _ _ _ h
    · exact hobject _ _ _ h

theorem readsOrdered_value (depth : Nat) : ReadsOrdered (value depth) := by
  induction depth with
  | zero =>
    have htooDeep : ReadsOrdered fun rest => .error (.before rest .tooDeep) := by
      intro rest v rest' h
      cases h
    exact readsOrdered_scalarOr htooDeep htooDeep
  | succ depth ih =>
    refine readsOrdered_scalarOr ?_ ?_
    · intro rest v rest' h
      simp only [bind_eq_ok_iff, pure_eq_ok_iff] at h
      obtain ⟨⟨vs, rest⟩, hitems, heq⟩ := h
      cases heq
      exact .array (ordered_of_itemsAfter ih (by simp) hitems)
    · intro rest v rest' h
      simp only [bind_eq_ok_iff, pure_eq_ok_iff] at h
      obtain ⟨⟨members, rest⟩, hmembers, heq⟩ := h
      cases heq
      exact ordered_of_membersAfter ih .empty hmembers

/-- Every value that is read from a text is in order. -/
theorem ordered_of_ofText {text : String} (h : ofText text = .ok v) : v.Ordered := by
  simp only [ofText, decode, mapError_eq_ok_iff, whole, bind_eq_ok_iff, pure_eq_ok_iff] at h
  obtain ⟨⟨v, rest⟩, hv, -, -, rfl⟩ := h
  exact readsOrdered_value depthLimit _ _ _ hv

end Reading

end DeviceIdentity.Json
