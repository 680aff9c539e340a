import Mathlib.Data.List.Forall2
import DeviceIdentity.Proofs.Boundary.Table

/-!
# Owners of tokens

Which component a token belongs to. The table is searched by comparing all bytes of all tokens; what
comes out is the component of the first entry with that token. No token of a table that was parsed
is empty or has blanks at its ends.
-/
namespace DeviceIdentity

/-! ## Comparing -/

theorem foldl_or_xor_eq_zero_iff (acc : UInt8) (pairs : List (UInt8 × UInt8)) :
    pairs.foldl (fun acc (x, y) => acc ||| (x ^^^ y)) acc = 0 ↔
      acc = 0 ∧ ∀ x y, (x, y) ∈ pairs → x = y := by
  induction pairs generalizing acc with
  | nil => simp
  | cons pair pairs ih =>
    obtain ⟨a, b⟩ := pair
    rw [List.foldl_cons, ih, UInt8.or_eq_zero_iff, UInt8.xor_eq_zero_iff, and_assoc]
    refine and_congr_right fun _ => ?_
    simp only [List.mem_cons, Prod.mk.injEq]
    constructor
    · rintro ⟨rfl, hpairs⟩ x y (⟨rfl, rfl⟩ | hmem)
      · rfl
      · exact hpairs x y hmem
    · intro h
      exact ⟨h a b (.inl ⟨rfl, rfl⟩), fun x y hmem => h x y (.inr hmem)⟩

/-- The comparison that looks at all bytes tells whether they are the same. -/
theorem sameBytes_iff {a b : List UInt8} : sameBytes a b = true ↔ a = b := by
  have hequal : a = b ↔ List.Forall₂ (· = ·) a b := by
    rw [List.forall₂_eq_eq_eq]
  rw [hequal, List.forall₂_iff_zip, sameBytes, Bool.and_eq_true, beq_iff_eq, beq_iff_eq,
    foldl_or_xor_eq_zero_iff]
  simp only [true_and]

theorem sameBytes_utf8 (s t : String) :
    sameBytes (Text.utf8 s) (Text.utf8 t) = decide (s = t) := by
  rw [Bool.eq_iff_iff, sameBytes_iff, decide_eq_true_iff, Text.utf8_injective.eq_iff]

namespace Tokens

/-! ## Searching -/

/-- The component that a token was issued to, if to several then the first one in the table. -/
def FirstOwner (t : Tokens) (token component : String) : Prop :=
  ∃ before after, t.entries = before ++ (component, token) :: after ∧ ∀ e ∈ before, e.2 ≠ token

theorem FirstOwner.mem {t : Tokens} {token component : String} (h : t.FirstOwner token component) :
    (component, token) ∈ t.entries := by
  obtain ⟨before, after, hentries, -⟩ := h
  rw [hentries]
  exact List.mem_append_right _ List.mem_cons_self

/-- The search goes through all entries, and keeps what it has found. -/
theorem foldl_search (token : String) (entries : List (String × String)) (found : Option String) :
    entries.foldl
        (fun found (component, expected) =>
          if sameBytes (Text.utf8 expected) (Text.utf8 token) && found.isNone then some component
          else found)
        found =
      found.or ((entries.find? fun e => e.2 = token).map Prod.fst) := by
  induction entries generalizing found with
  | nil => cases found <;> rfl
  | cons e entries ih =>
    obtain ⟨component, expected⟩ := e
    rw [List.foldl_cons, ih, List.find?_cons]
    simp only [sameBytes_utf8]
    cases found with
    | some c => simp only [Option.isNone_some, Bool.and_false, Bool.false_eq_true, ↓reduceIte,
        Option.some_or]
    | none =>
      by_cases h : expected = token
      · simp only [h, decide_true, Option.isNone_none, Bool.and_self, ↓reduceIte, Option.some_or,
          Option.none_or, Option.map_some]
      · simp only [h, decide_false, Bool.false_and, Bool.false_eq_true, ↓reduceIte,
          Option.none_or]

theorem identify_eq_find? (t : Tokens) (token : String) :
    t.identify token = (t.entries.find? fun e => e.2 = token).map Prod.fst :=
  foldl_search token t.entries none

theorem identify_eq_some_iff {t : Tokens} {token component : String} :
    t.identify token = some component ↔ t.FirstOwner token component := by
  rw [identify_eq_find?, Option.map_eq_some_iff]
  constructor
  · rintro ⟨⟨c, expected⟩, hfind, rfl⟩
    obtain ⟨htoken, before, after, hentries, hbefore⟩ := List.find?_eq_some_iff_append.1 hfind
    cases of_decide_eq_true htoken
    refine ⟨before, after, hentries, ?_⟩
    intro e he heq
    have hnot := hbefore e he
    rw [decide_eq_true heq] at hnot
    cases hnot
  · rintro ⟨before, after, hentries, hbefore⟩
    refine ⟨(component, token), List.find?_eq_some_iff_append.2 ⟨?_, before, after, hentries, ?_⟩,
      rfl⟩
    · exact decide_eq_true rfl
    · intro e he
      rw [decide_eq_false (hbefore e he)]
      rfl

/-- Every token of the table has a first owner. -/
theorem exists_firstOwner {t : Tokens} {e : String × String} (h : e ∈ t.entries) :
    ∃ component, t.FirstOwner e.2 component := by
  have hfound : (t.entries.find? fun e' => e'.2 = e.2).isSome = true :=
    List.find?_isSome.2 ⟨e, h, decide_eq_true rfl⟩
  obtain ⟨first, hfirst⟩ := Option.isSome_iff_exists.1 hfound
  refine ⟨first.1, identify_eq_some_iff.1 ?_⟩
  rw [identify_eq_find?, hfirst]
  rfl

/-! ## Parsing -/

/-- The tokens of the table are not empty and have no blanks at their ends. -/
def Wellformed (t : Tokens) : Prop :=
  ∀ e ∈ t.entries, e.2 ≠ "" ∧ Text.Trimmed e.2.toList

theorem wellformed_of_parse {text : String} {t : Tokens} (h : parse text = .ok t) :
    t.Wellformed := by
  obtain ⟨pieces, -, hwritten⟩ := parse_eq_ok_iff.1 h
  intro e he
  have hwritable := hwritten.writable e he
  exact ⟨hwritable.token_ne, hwritable.token_trimmed⟩

end Tokens

end DeviceIdentity
