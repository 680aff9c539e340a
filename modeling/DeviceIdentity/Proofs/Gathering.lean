import DeviceIdentity.Proofs.Named
import DeviceIdentity.Proofs.Outcome

/-!
# Gathering from places

Computations that go through places in their order and gather an item here and there. A place is a
path of names, and paths are in the order of their names. If something is wrong at a place the
computation fails, and what is wrong at the first such place is the failure. Gathering under each of
some names is gathering again, from places that are one name longer.
-/
namespace DeviceIdentity

/-- The order of places: by the first name that is another one. A place comes before those that lie
under it. -/
def Before (p q : List String) : Prop := List.Lex (fun name name' => name < name') p q

theorem eq_nil_or_before (p : List String) : p = [] ∨ Before [] p := by
  cases p with
  | nil => exact .inl rfl
  | cons => exact .inr List.Lex.nil

theorem not_before_of_before {p q : List String} (h : Before p q) : ¬ Before q p := by
  intro h'
  induction h with
  | nil => cases h'
  | cons _ ih =>
    cases h' with
    | cons h' => exact ih h'
    | rel hlt => exact String.lt_irrefl _ hlt
  | rel hlt =>
    cases h' with
    | cons => exact String.lt_irrefl _ hlt
    | rel hgt => exact String.lt_asymm hlt hgt

variable {ε ε' α β : Type}

/-- How a computation ends that gathers items in the order of their places: with all items, if
nothing is wrong anywhere, and otherwise with what is wrong at the first place. -/
inductive Gathers (place : β → List String) (Wrong : List String → ε → Prop) (Item : β → Prop) :
    Except ε (List β) → Prop
  | ok {items : List β} (hright : ∀ p fault, ¬ Wrong p fault)
      (hordered : items.Pairwise fun a b => Before (place a) (place b))
      (hmem : ∀ a, a ∈ items ↔ Item a) :
      Gathers place Wrong Item (.ok items)
  | error {p : List String} {fault : ε} (hwrong : Wrong p fault)
      (hfirst : ∀ p' fault', Wrong p' fault' → p' = p ∨ Before p p') :
      Gathers place Wrong Item (.error fault)

namespace Gathers

variable {place : β → List String} {Wrong Wrong' : List String → ε → Prop} {Item Item' : β → Prop}
  {x : Except ε (List β)}

theorem congr (h : Gathers place Wrong Item x) (hwrong : ∀ p fault, Wrong' p fault ↔ Wrong p fault)
    (hitem : ∀ a, Item' a ↔ Item a) : Gathers place Wrong' Item' x := by
  cases h with
  | ok hright hordered hmem =>
    exact .ok (fun p fault h => hright p fault ((hwrong p fault).1 h)) hordered
      fun a => (hmem a).trans (hitem a).symm
  | error h hfirst =>
    exact .error ((hwrong _ _).2 h) fun p' fault' h' => hfirst p' fault' ((hwrong _ _).1 h')

theorem mapError (h : Gathers place Wrong Item x) (f : ε → ε') :
    Gathers place (fun p fault' => ∃ fault, Wrong p fault ∧ fault' = f fault) Item
      (x.mapError f) := by
  cases h with
  | ok hright hordered hmem =>
    exact .ok (fun p fault' ⟨fault, h, _⟩ => hright p fault h) hordered hmem
  | error h hfirst =>
    exact .error ⟨_, h, rfl⟩ fun p' fault' ⟨fault, h', _⟩ => hfirst p' fault h'

theorem ok_iff (h : Gathers place Wrong Item x) :
    (∃ items, x = .ok items) ↔ ∀ p fault, ¬ Wrong p fault := by
  cases h with
  | ok hright => exact ⟨fun _ => hright, fun _ => ⟨_, rfl⟩⟩
  | @error p fault hwrong =>
    refine ⟨?_, fun hright => absurd hwrong (hright p fault)⟩
    rintro ⟨items, hitems⟩
    cases hitems

theorem of_ok {items : List β} (h : Gathers place Wrong Item (.ok items)) :
    (∀ p fault, ¬ Wrong p fault) ∧ (items.Pairwise fun a b => Before (place a) (place b)) ∧
      ∀ a, a ∈ items ↔ Item a := by
  cases h with
  | ok hright hordered hmem => exact ⟨hright, hordered, hmem⟩

/-- The failure is what is wrong at the first place, if only one thing is wrong at a place. -/
theorem error_iff (h : Gathers place Wrong Item x)
    (hunique : ∀ p fault fault', Wrong p fault → Wrong p fault' → fault = fault') {fault : ε} :
    x = .error fault ↔
      ∃ p, Wrong p fault ∧ ∀ p' fault', Wrong p' fault' → p' = p ∨ Before p p' := by
  cases h with
  | ok hright =>
    refine ⟨nofun, ?_⟩
    rintro ⟨p, hwrong, -⟩
    exact absurd hwrong (hright p fault)
  | @error p fault' hwrong hfirst =>
    constructor
    · intro heq
      cases heq
      exact ⟨p, hwrong, hfirst⟩
    · rintro ⟨p', hwrong', hfirst'⟩
      have hp : p' = p := by
        rcases hfirst p' fault hwrong' with hp | hbefore
        · exact hp
        · exact (hfirst' p fault' hwrong).elim Eq.symm (absurd · (not_before_of_before hbefore))
      subst hp
      rw [hunique p' fault' fault hwrong hwrong']

/-- Nothing is gathered where there are no places. -/
theorem nil (hwrong : ∀ p fault, ¬ Wrong p fault) (hitem : ∀ a, ¬ Item a) :
    Gathers place Wrong Item (.ok []) :=
  .ok hwrong List.Pairwise.nil fun a => ⟨fun h => absurd h List.not_mem_nil, (absurd · (hitem a))⟩

/-- Gathering from places under a name. -/
theorem under {inner : β → List String} {name : String} (h : Gathers inner Wrong Item x)
    (hplace : ∀ a, Item a → place a = name :: inner a) :
    Gathers place (fun p fault => ∃ rest, p = name :: rest ∧ Wrong rest fault) Item x := by
  cases h with
  | ok hright hordered hmem =>
    refine .ok (fun p fault ⟨rest, _, h⟩ => hright rest fault h) ?_ hmem
    refine hordered.imp_of_mem fun {a b} ha hb hlt => ?_
    rw [hplace a ((hmem a).1 ha), hplace b ((hmem b).1 hb)]
    exact List.Lex.cons hlt
  | error hwrong hfirst =>
    refine .error ⟨_, rfl, hwrong⟩ ?_
    rintro p' fault' ⟨rest, rfl, hwrong'⟩
    exact (hfirst rest fault' hwrong').imp (congrArg (List.cons name)) List.Lex.cons

/-- Gathering from some places and then from places behind them. -/
theorem append {y : Except ε (List β)} (hx : Gathers place Wrong Item x)
    (hy : Gathers place Wrong' Item' y)
    (hwrong : ∀ p fault p' fault', Wrong p fault → Wrong' p' fault' → Before p p')
    (hitem : ∀ a b, Item a → Item' b → Before (place a) (place b)) :
    Gathers place (fun p fault => Wrong p fault ∨ Wrong' p fault) (fun a => Item a ∨ Item' a)
      (do return (← x) ++ (← y)) := by
  cases hx with
  | error h hfirst =>
    -- What is wrong behind is never looked at, and comes later anyway.
    exact .error (.inl h) fun p' fault' h' =>
      h'.elim (hfirst p' fault') fun h' => .inr (hwrong _ _ _ _ h h')
  | @ok items hright hordered hmem =>
    cases hy with
    | error h hfirst =>
      exact .error (.inr h) fun p' fault' h' =>
        h'.elim (fun h' => absurd h' (hright p' fault')) (hfirst p' fault')
    | @ok more hright' hordered' hmem' =>
      refine .ok (fun p fault h => h.elim (hright p fault) (hright' p fault)) ?_ fun a => ?_
      · refine List.pairwise_append.2 ⟨hordered, hordered', ?_⟩
        intro a ha b hb
        exact hitem a b ((hmem a).1 ha) ((hmem' b).1 hb)
      · rw [List.mem_append, hmem, hmem']

theorem flatten_mapM_cons (f : α → Except ε (List β)) (a : α) (l : List α) :
    (do return (← (a :: l).mapM f).flatten) =
      (do return (← f a) ++ (← (do return (← l.mapM f).flatten)) : Except ε (List β)) := by
  rw [List.mapM_cons]
  cases f a with
  | error fault => rfl
  | ok items => cases l.mapM f <;> rfl

/-- One item for each part of a list is one list of items for each. -/
theorem mapM_eq_flatten_mapM (f : α → Except ε β) (l : List α) :
    l.mapM f = (do return (← l.mapM fun a => (f a).map fun b => [b]).flatten) := by
  induction l with
  | nil => rfl
  | cons a l ih =>
    rw [flatten_mapM_cons, ← ih, List.mapM_cons]
    cases f a with
    | error fault => rfl
    | ok b => cases l.mapM f <;> rfl

/-- Gathering under one name after the other. -/
theorem mapM {f : String → α → Except ε (List β)} {Wrong : String → α → List String → ε → Prop}
    {Item : String → α → β → Prop} {inner : β → List String} {named : Named α}
    (hordered : named.Ordered)
    (h : ∀ name a, (name, a) ∈ named → Gathers inner (Wrong name a) (Item name a) (f name a))
    (hplace : ∀ name a b, Item name a b → place b = name :: inner b) :
    Gathers place
      (fun p fault => ∃ name a rest, (name, a) ∈ named ∧ p = name :: rest ∧ Wrong name a rest fault)
      (fun b => ∃ name a, (name, a) ∈ named ∧ Item name a b)
      (do return (← named.mapM fun (name, a) => f name a).flatten) := by
  induction named with
  | nil => exact .nil (by simp) (by simp)
  | cons first named ih =>
    obtain ⟨name, a⟩ := first
    obtain ⟨hlt, hordered⟩ := OrderedBy.cons_iff.1 hordered
    -- The places under the first name come before all others, for the names are in order.
    have hhere := (h name a List.mem_cons_self).under (hplace name a)
    have hbehind := ih hordered fun name a hmem => h name a (List.mem_cons_of_mem _ hmem)
    rw [flatten_mapM_cons]
    refine (hhere.append hbehind ?_ ?_).congr ?_ ?_
    · rintro p fault p' fault' ⟨rest, rfl, -⟩ ⟨name', a', rest', hmem, rfl, -⟩
      exact List.Lex.rel (hlt _ hmem)
    · rintro b b' hb ⟨name', a', hmem, hb'⟩
      rw [hplace name a b hb, hplace name' a' b' hb']
      exact List.Lex.rel (hlt _ hmem)
    · intro p fault
      simp only [List.mem_cons, Prod.mk.injEq]
      constructor
      · rintro ⟨name', a', rest, ⟨rfl, rfl⟩ | hmem, hp, hwrong⟩
        · exact .inl ⟨rest, hp, hwrong⟩
        · exact .inr ⟨name', a', rest, hmem, hp, hwrong⟩
      · rintro (⟨rest, hp, hwrong⟩ | ⟨name', a', rest, hmem, hp, hwrong⟩)
        · exact ⟨name, a, rest, .inl ⟨rfl, rfl⟩, hp, hwrong⟩
        · exact ⟨name', a', rest, .inr hmem, hp, hwrong⟩
    · intro b
      simp only [List.mem_cons, Prod.mk.injEq]
      constructor
      · rintro ⟨name', a', ⟨rfl, rfl⟩ | hmem, hb⟩
        · exact .inl hb
        · exact .inr ⟨name', a', hmem, hb⟩
      · rintro (hb | ⟨name', a', hmem, hb⟩)
        · exact ⟨name, a, .inl ⟨rfl, rfl⟩, hb⟩
        · exact ⟨name', a', .inr hmem, hb⟩

end Gathers

end DeviceIdentity
