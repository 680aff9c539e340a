import DeviceIdentity.Proofs.Named
import DeviceIdentity.Proofs.Store

/-!
# Registrations

How registrations in a store in memory go together. Whatever the store holds, two of them can be
made in either order, and one that is made again changes nothing: this is so for the things under
an id, and for the ids. What stands in order stays in order.
-/
namespace DeviceIdentity

namespace Registration

/-! ## Things -/

section Things

variable {thing t : Thing} {things things' : List Thing}

theorem mem_insertThing : t ∈ insertThing thing things ↔ t = thing ∨ t ∈ things := by
  induction things with
  | nil => simp [insertThing]
  | cons first rest ih =>
    simp only [insertThing]
    split
    · next hname =>
      have hfirst : first = thing := Thing.eq_of_name_eq hname
      subst hfirst
      simp
    · split
      · exact List.mem_cons
      · rw [List.mem_cons, ih, List.mem_cons]
        exact or_left_comm

/-- Things by their names. -/
def byName (things : List Thing) : Named Thing := things.map fun t => (t.name, t)

theorem eq_of_byName_eq (h : byName things = byName things') : things = things' :=
  List.map_injective_iff.2 (fun _ _ heq => congrArg Prod.snd heq) h

theorem ordered_byName_iff : (byName things).Ordered ↔ OrderedBy Thing.name things :=
  List.pairwise_map

/-- A thing is put where it would be set under its name. -/
theorem byName_insertThing (thing : Thing) (things : List Thing) :
    byName (insertThing thing things) = (byName things).set thing.name thing := by
  induction things with
  | nil => rfl
  | cons first rest ih =>
    have hcons : byName (first :: rest) = (first.name, first) :: byName rest := rfl
    rw [hcons]
    simp only [insertThing, Named.set]
    split
    · next hname =>
      -- A thing is its name, so the one that is there can stay.
      rw [hcons, Thing.eq_of_name_eq hname]
    · split
      · rfl
      · rw [← ih]
        rfl

theorem ordered_insertThing (h : OrderedBy Thing.name things) (thing : Thing) :
    OrderedBy Thing.name (insertThing thing things) := by
  rw [← ordered_byName_iff] at h ⊢
  rw [byName_insertThing]
  exact h.set _ _

theorem insertThing_insertThing (thing : Thing) (things : List Thing) :
    insertThing thing (insertThing thing things) = insertThing thing things := by
  apply eq_of_byName_eq
  rw [byName_insertThing, byName_insertThing, Named.set_set]

theorem insertThing_comm (thing thing' : Thing) (things : List Thing) :
    insertThing thing (insertThing thing' things) =
      insertThing thing' (insertThing thing things) := by
  by_cases hname : thing.name = thing'.name
  · rw [Thing.eq_of_name_eq hname]
  · apply eq_of_byName_eq
    simp only [byName_insertThing]
    exact Named.set_comm hname thing thing' (byName things)

end Things

/-! ## Renewal -/

section Renewal

variable {r : Registration} {t : Thing}

theorem mem_things_renew {thing : Option Thing} :
    t ∈ (r.renew thing).things ↔ thing = some t ∨ t ∈ r.things := by
  cases thing with
  | none => simp [renew]
  | some thing =>
    simp only [renew, mem_insertThing, Option.some.injEq]
    rw [eq_comm]

theorem ordered_things_renew (h : OrderedBy Thing.name r.things) (thing : Option Thing) :
    OrderedBy Thing.name (r.renew thing).things := by
  cases thing with
  | none => exact h
  | some thing => exact ordered_insertThing h thing

theorem renew_renew (r : Registration) (thing : Option Thing) :
    (r.renew thing).renew thing = r.renew thing := by
  cases thing with
  | none => rfl
  | some thing => exact congrArg (Registration.mk .active) (insertThing_insertThing thing r.things)

theorem renew_comm (r : Registration) (thing thing' : Option Thing) :
    (r.renew thing).renew thing' = (r.renew thing').renew thing := by
  cases thing with
  | none => cases thing' <;> rfl
  | some thing =>
    cases thing' with
    | none => rfl
    | some thing' =>
      exact congrArg (Registration.mk .active) (insertThing_comm thing' thing r.things)

end Renewal

end Registration

namespace Store

/-! ## Registering under an id -/

theorem add_add_self (s : Store) (id : CertificateId) (thing : Option Thing) :
    (s.add id thing).add id thing = s.add id thing := by
  refine congrArg Store.mk ?_
  rw [get?_add_self, Option.getD_some, Registration.renew_renew]
  exact Named.set_set _ _ _ _

theorem add_comm (s : Store) (id id' : CertificateId) (thing thing' : Option Thing) :
    (s.add id thing).add id' thing' = (s.add id' thing').add id thing := by
  refine congrArg Store.mk ?_
  by_cases hid : id' = id
  · -- Under one id the second registration renews what the first one has renewed.
    subst hid
    rw [get?_add_self, get?_add_self, Option.getD_some, Option.getD_some, Registration.renew_comm]
    exact (Named.set_set _ _ _ _).trans (Named.set_set _ _ _ _).symm
  · rw [get?_add_of_ne hid, get?_add_of_ne (Ne.symm hid)]
    have hdigits : id'.digits ≠ id.digits := by
      intro heq
      cases id
      cases id'
      cases heq
      exact hid rfl
    exact Named.set_comm hdigits _ _ _

/-- The things that are attached to the certificate with an id; none if it is not registered. -/
def things (s : Store) (id : CertificateId) : List Thing :=
  match s.get? id with
  | some r => r.things
  | none => []

@[simp] theorem things_empty (id : CertificateId) : empty.things id = [] := rfl

theorem things_of_get? {s : Store} {id : CertificateId} {r : Registration}
    (h : s.get? id = some r) : s.things id = r.things := by
  simp only [things, h]

theorem things_getD (s : Store) (id : CertificateId) :
    ((s.get? id).getD .fresh).things = s.things id := by
  unfold things
  cases s.get? id <;> rfl

theorem things_add_of_ne {id other : CertificateId} (h : other ≠ id) (s : Store)
    (thing : Option Thing) : (s.add id thing).things other = s.things other := by
  simp only [things, get?_add_of_ne h]

theorem mem_things_add {s : Store} {id other : CertificateId} {thing : Option Thing} {t : Thing} :
    t ∈ (s.add id thing).things other ↔
      (id = other ∧ thing = some t) ∨ t ∈ s.things other := by
  by_cases hother : other = id
  · subst hother
    rw [things_of_get? (get?_add_self s other thing), Registration.mem_things_renew, things_getD]
    simp only [true_and]
  · simp only [things_add_of_ne hother, Ne.symm hother, false_and, false_or]

/-- No id stands twice, and no thing twice under an id: the ids stand in order, and so do the things
under each of them. -/
structure Ordered (s : Store) : Prop where
  records : s.records.Ordered
  things : ∀ id, OrderedBy Thing.name (s.things id)

theorem ordered_empty : empty.Ordered where
  records := OrderedBy.nil
  things := fun _ => OrderedBy.nil

theorem Ordered.add {s : Store} (h : s.Ordered) (id : CertificateId) (thing : Option Thing) :
    (s.add id thing).Ordered where
  records := h.records.set _ _
  things := by
    intro other
    by_cases hother : other = id
    · subst hother
      rw [things_of_get? (get?_add_self s other thing)]
      apply Registration.ordered_things_renew
      rw [things_getD]
      exact h.things other
    · rw [things_add_of_ne hother]
      exact h.things other

end Store

end DeviceIdentity
