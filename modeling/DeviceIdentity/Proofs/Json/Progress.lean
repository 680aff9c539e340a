import DeviceIdentity.Json.Ignored
import DeviceIdentity.Proofs.Outcome

/-!
# Readers make progress

What a reader leaves over is never longer than the text that it was given, and shorter if a lexeme
was read. A reader of several members can therefore be bounded by the length of its text, and the
bound is never reached.
-/
namespace DeviceIdentity.Json

open Text (Glyph)
open Lexeme (skipSpace)

theorem length_skipSpace_le (text : List Glyph) : (skipSpace text).length ≤ text.length :=
  (List.dropWhile_sublist _).length_le

theorem length_le_of_skipSpace {text rest : List Glyph} (h : skipSpace text = rest) :
    rest.length ≤ text.length :=
  h ▸ length_skipSpace_le text

theorem length_lt_of_skipSpace {g : Glyph} {text rest : List Glyph}
    (h : skipSpace text = g :: rest) : rest.length < text.length :=
  length_le_of_skipSpace h

/-! ## Lexemes -/

namespace Lexeme

theorem length_le_of_literal {cs : List Char} {text rest : List Glyph}
    (h : literal cs text = .ok rest) : rest.length ≤ text.length := by
  induction cs generalizing text with
  | nil =>
    cases h
    exact Nat.le_refl _
  | cons c cs ih =>
    cases text with
    | nil => cases h
    | cons g text =>
      simp only [literal] at h
      split at h
      · exact Nat.le_succ_of_le (ih h)
      · cases h

theorem length_lt_of_stringBody {before : List Char} {strays skip : Nat} {text rest : List Glyph}
    {s : String} (h : stringBody before strays skip text = .ok (s, rest)) :
    rest.length < text.length := by
  induction text generalizing before strays skip with
  | nil => cases h
  | cons g text ih =>
    cases skip with
    | succ n => exact Nat.lt_succ_of_lt (ih h)
    | zero =>
      cases g with
      | stray byte => exact Nat.lt_succ_of_lt (ih h)
      | char c =>
        simp only [stringBody] at h
        split at h
        · split at h
          · cases h
            exact Nat.lt_succ_self _
          · cases h
        · split at h
          · split at h
            · exact Nat.lt_succ_of_lt (ih h)
            · cases h
          · split at h
            · cases h
            · exact Nat.lt_succ_of_lt (ih h)

theorem length_lt_of_string {text rest : List Glyph} {s : String}
    (h : string text = .ok (s, rest)) : rest.length < text.length :=
  length_lt_of_stringBody h

theorem length_digitsAfter_le (before : List Nat) (text : List Glyph) :
    (digitsAfter before text).2.length ≤ text.length := by
  induction text generalizing before with
  | nil => exact Nat.le_refl _
  | cons g text ih =>
    simp only [digitsAfter]
    split
    · exact Nat.le_succ_of_le (ih _)
    · exact Nat.le_refl _

theorem length_le_of_digits {text rest : List Glyph} {ds : List Nat}
    (h : digits text = (ds, rest)) : rest.length ≤ text.length := by
  have hle := length_digitsAfter_le [] text
  rwa [← digits, h] at hle

theorem length_le_of_wholePart {atEnd : Cause} {text rest : List Glyph} {ds : List Nat}
    (h : wholePart atEnd text = .ok (ds, rest)) : rest.length ≤ text.length := by
  unfold wholePart at h
  split at h
  · cases h
  · cases h
  · cases h
  · next hdigits =>
    cases h
    exact length_le_of_digits hdigits

theorem length_le_of_fractionPart {atEnd : Cause} {text rest : List Glyph} {ds : List Nat}
    (h : fractionPart atEnd text = .ok (ds, rest)) : rest.length ≤ text.length := by
  unfold fractionPart at h
  split at h
  · split at h
    · cases h
    · cases h
    · next hdigits =>
      cases h
      exact Nat.le_succ_of_le (length_le_of_digits hdigits)
  · cases h
    exact Nat.le_refl _

theorem length_le_of_exponentDigits {atEnd : Cause} {text rest : List Glyph} {e : Bool × List Nat}
    (h : exponentDigits atEnd text = .ok (e, rest)) : rest.length ≤ text.length := by
  unfold exponentDigits at h
  split at h
  next negative signed heq =>
    -- No more than a sign has been taken before the digits.
    have hsigned : signed.length ≤ text.length := by
      split at heq <;> cases heq <;> simp
    split at h
    · cases h
    · cases h
    · next hdigits =>
      cases h
      exact Nat.le_trans (length_le_of_digits hdigits) hsigned

theorem length_le_of_exponentPart {atEnd : Cause} {text rest : List Glyph}
    {e : Option (Bool × List Nat)} (h : exponentPart atEnd text = .ok (e, rest)) :
    rest.length ≤ text.length := by
  unfold exponentPart at h
  split at h
  · simp only [bind_eq_ok_iff, pure_eq_ok_iff] at h
    obtain ⟨⟨e', rest'⟩, he, h⟩ := h
    cases h
    exact Nat.le_succ_of_le (length_le_of_exponentDigits he)
  · simp only [bind_eq_ok_iff, pure_eq_ok_iff] at h
    obtain ⟨⟨e', rest'⟩, he, h⟩ := h
    cases h
    exact Nat.le_succ_of_le (length_le_of_exponentDigits he)
  · cases h
    exact Nat.le_refl _

theorem length_le_of_numberText {atEnd : Cause} {text rest : List Glyph} {n : NumberText}
    (h : numberText atEnd text = .ok (n, rest)) : rest.length ≤ text.length := by
  unfold numberText at h
  split at h
  next negative signed heq =>
    have hsigned : signed.length ≤ text.length := by
      split at heq <;> cases heq <;> simp
    simp only [bind_eq_ok_iff, pure_eq_ok_iff] at h
    obtain ⟨⟨whole, rest₁⟩, hwhole, ⟨fraction, rest₂⟩, hfraction, ⟨exponent, rest₃⟩, hexponent,
      h⟩ := h
    cases h
    calc rest₃.length
      _ ≤ rest₂.length := length_le_of_exponentPart hexponent
      _ ≤ rest₁.length := length_le_of_fractionPart hfraction
      _ ≤ signed.length := length_le_of_wholePart hwhole
      _ ≤ text.length := hsigned

end Lexeme

/-! ## Brackets -/

theorem length_lt_of_colon {text rest : List Glyph} (h : colon text = .ok rest) :
    rest.length < text.length := by
  unfold colon at h
  split at h
  · cases h
  · next heq =>
    cases h
    exact length_lt_of_skipSpace heq
  · cases h

/-! ## Ignored values -/

namespace Ignored

theorem length_lt_of_string {skip : Nat} {text rest : List Glyph}
    (h : string skip text = .ok rest) : rest.length < text.length := by
  induction text generalizing skip with
  | nil => cases h
  | cons g text ih =>
    cases skip with
    | succ n => exact Nat.lt_succ_of_lt (ih h)
    | zero =>
      cases g with
      | stray byte => exact Nat.lt_succ_of_lt (ih h)
      | char c =>
        simp only [string] at h
        split at h
        · cases h
          exact Nat.lt_succ_self _
        · split at h
          · split at h
            · exact Nat.lt_succ_of_lt (ih h)
            · cases h
          · split at h
            · cases h
            · exact Nat.lt_succ_of_lt (ih h)

theorem length_le_of_name {text rest : List Glyph} (h : name text = .ok rest) :
    rest.length ≤ text.length := by
  unfold name at h
  split at h
  · cases h
  · next behind heq =>
    obtain ⟨named, hnamed, hcolon⟩ := bind_eq_ok_iff.1 h
    calc rest.length
      _ ≤ named.length := Nat.le_of_lt (length_lt_of_colon hcolon)
      _ ≤ behind.length := Nat.le_of_lt (length_lt_of_string hnamed)
      _ ≤ text.length := Nat.le_of_lt (length_lt_of_skipSpace heq)
  · cases h

theorem length_le_of_nextValue {bracket : Bracket} {text rest : List Glyph}
    (h : nextValue bracket text = .ok rest) : rest.length ≤ text.length := by
  cases bracket with
  | array =>
    cases h
    exact Nat.le_refl _
  | object => exact length_le_of_name h

theorem length_le_of_afterValue {closing left : List Bracket} {text rest : List Glyph}
    (h : afterValue closing text = .ok (left, rest)) : rest.length ≤ text.length := by
  induction closing generalizing text with
  | nil =>
    cases h
    exact Nat.le_refl _
  | cons b outer ih =>
    simp only [afterValue] at h
    split at h
    · cases h
    · next g behind heq =>
      have hbehind := Nat.le_of_lt (length_lt_of_skipSpace heq)
      split at h
      · exact Nat.le_trans (ih h) hbehind
      · split at h
        · simp only [bind_eq_ok_iff, pure_eq_ok_iff] at h
          obtain ⟨next, hnext, h⟩ := h
          cases h
          exact Nat.le_trans (length_le_of_nextValue hnext) hbehind
        · cases h

/-- What is left behind an opening bracket or a value. -/
def Passed.rest : Passed → List Glyph
  | opened _ rest | passed rest => rest

theorem length_le_of_pass {text : List Glyph} {p : Passed} (h : pass text = .ok p) :
    p.rest.length ≤ text.length := by
  unfold pass at h
  split at h
  · cases h
  · next g behind heq =>
    have hbehind := length_lt_of_skipSpace heq
    -- `null`, `true` and `false` differ in their letters only.
    have hliteral : ∀ cs, (do return Passed.passed (← Lexeme.literal cs behind)) = Except.ok p →
        p.rest.length ≤ text.length := by
      intro cs h
      obtain ⟨rest, hrest, h⟩ := bind_eq_ok_iff.1 h
      cases h
      exact Nat.le_trans (Lexeme.length_le_of_literal hrest) (Nat.le_of_lt hbehind)
    split at h
    · exact hliteral _ h
    split at h
    · exact hliteral _ h
    split at h
    · exact hliteral _ h
    split at h
    · obtain ⟨rest, hrest, h⟩ := bind_eq_ok_iff.1 h
      cases h
      exact Nat.le_of_lt (Nat.lt_trans (length_lt_of_string hrest) hbehind)
    split at h
    · obtain ⟨⟨n, rest⟩, hrest, h⟩ := bind_eq_ok_iff.1 h
      cases h
      exact Nat.le_trans (Lexeme.length_le_of_numberText hrest) hbehind
    split at h
    · cases h
      exact Nat.le_of_lt hbehind
    split at h
    · cases h
      exact Nat.le_of_lt hbehind
    · cases h

/-- What is left after brackets that close is what goes on from there leaves. -/
theorem length_le_of_afterValue_bind {closing : List Bracket} {text rest : List Glyph}
    {next : List Bracket × List Glyph → Reading (List Glyph)}
    (h : afterValue closing text >>= next = .ok rest)
    (hnext : ∀ left behind, next (left, behind) = .ok rest → rest.length ≤ behind.length) :
    rest.length ≤ text.length := by
  obtain ⟨⟨left, behind⟩, hafter, h⟩ := bind_eq_ok_iff.1 h
  exact Nat.le_trans (hnext left behind h) (length_le_of_afterValue hafter)

theorem length_le_of_values {fuel : List Glyph} {outer : List Bracket} {text rest : List Glyph}
    (h : values fuel outer text = .ok rest) : rest.length ≤ text.length := by
  induction fuel generalizing outer text with
  | nil => cases h
  | cons g fuel ih =>
    simp only [values] at h
    obtain ⟨p, hp, h⟩ := bind_eq_ok_iff.1 h
    have hpassed := length_le_of_pass hp
    cases p with
    | passed behind =>
      refine Nat.le_trans (length_le_of_afterValue_bind h fun left next hvalues => ?_) hpassed
      cases left with
      | nil =>
        cases hvalues
        exact Nat.le_refl _
      | cons b left => exact ih hvalues
    | opened b behind =>
      simp only at h
      split at h
      · cases h
      · next g' inner heq =>
        have hinner := Nat.le_trans (length_le_of_skipSpace heq) hpassed
        split at h
        · refine Nat.le_trans (length_le_of_afterValue_bind h fun left next hvalues => ?_)
            (Nat.le_trans (Nat.le_succ _) hinner)
          cases left with
          | nil =>
            cases hvalues
            exact Nat.le_refl _
          | cons b left => exact ih hvalues
        · obtain ⟨next, hnext, hvalues⟩ := bind_eq_ok_iff.1 h
          exact Nat.le_trans (ih hvalues) (Nat.le_trans (length_le_of_nextValue hnext) hinner)

theorem length_le_of_value {text rest : List Glyph} (h : value text = .ok rest) :
    rest.length ≤ text.length :=
  length_le_of_values h

end Ignored

end DeviceIdentity.Json
