import DeviceIdentity.Json.Typed

/-!
# Strings there and back

A string that is written in JSON text is read back, whatever characters it has: those that JSON does
not allow as they are have been written as escapes, and each escape stands for its character again.
-/
namespace DeviceIdentity.Json

open Text (Glyph hexDigit hexValue?)
open Lexeme

/-- The characters of a string behind its opening quote, in front of a text. -/
def openString (s : String) (after : List Char) : List Char :=
  s.toList.foldr (fun c text => escape c ++ text) ('"' :: after)

/-! ## Escapes -/

theorem hexValue?_hexDigit (n : Nat) : hexValue? (hexDigit n) = some (n % 16) := by
  have hall : ∀ n : Fin 16, hexValue? (Nat.digitChar n) = some n.val := by decide
  exact hall ⟨n % 16, Nat.mod_lt n (by decide)⟩

theorem utf8Size_hexDigit (n : Nat) : (hexDigit n).utf8Size = 1 := by
  have hall : ∀ n : Fin 16, (Nat.digitChar n).utf8Size = 1 := by decide
  exact hall ⟨n % 16, Nat.mod_lt n (by decide)⟩

/-- The code point of a control character is read from two digits, behind two zeros. -/
theorem escapeSequence_control {c : Char} (h : c.toNat < 0x20) (rest : List Glyph) :
    escapeSequence (.char 'u' :: .char '0' :: .char '0' :: .char (hexDigit (c.toNat / 16)) ::
      .char (hexDigit c.toNat) :: rest) = .ok (c, 5) := by
  have hsize : Glyph.bytesOf [.char '0', .char '0', .char (hexDigit (c.toNat / 16)),
      .char (hexDigit c.toNat)] = 4 := by
    simp only [Glyph.bytesOf, List.foldl_cons, List.foldl_nil, Glyph.byteSize, utf8Size_hexDigit]
    rfl
  have hzero : hexValue? '0' = some 0 := by decide
  have hunit : ((0 * 16 + 0) * 16 + c.toNat / 16 % 16) * 16 + c.toNat % 16 = c.toNat := by omega
  have hcode : codeUnit (.char '0' :: .char '0' :: .char (hexDigit (c.toNat / 16)) ::
      .char (hexDigit c.toNat) :: rest) = .ok c.toNat := by
    simp only [codeUnit, List.take, hsize, fourDigits?, hzero, hexValue?_hexDigit, bind,
      Option.bind, hunit]
    rfl
  have hpair : pairedUnit c.toNat rest = .ok (c, 0) := by
    have hlow : ¬ (0xDC00 ≤ c.toNat ∧ c.toNat < 0xE000) := by omega
    have hhigh : c.toNat < 0xD800 ∨ 0xE000 ≤ c.toNat := by omega
    unfold pairedUnit
    rw [if_neg hlow, if_pos hhigh, Char.ofNat_toNat]
  simp only [escapeSequence, hcode, bind, Except.bind, List.drop, hpair]
  rfl

/-- A character that is written in a string is the next one that is read. -/
theorem stringBody_escape (c : Char) (before text : List Char) :
    stringBody before 0 0 ((escape c ++ text).map .char) =
      stringBody (c :: before) 0 0 (text.map .char) := by
  -- A case for each way in which a character is written; only the last one needs no escape.
  unfold escape
  split
  · next h => subst h; rfl
  split
  · next h => subst h; rfl
  split
  · next h => subst h; rfl
  split
  · next h => subst h; rfl
  split
  · next h => subst h; rfl
  split
  · next h => subst h; rfl
  split
  · next h => subst h; rfl
  split
  · next h =>
    have hescape := escapeSequence_control h (text.map .char)
    simp only [List.cons_append, List.nil_append, List.map_cons]
    rw [stringBody]
    simp only [Char.reduceEq, ↓reduceIte, hescape, straysWith]
    rfl
  · next hquote hbackslash _ _ _ _ _ hcontrol =>
    simp [stringBody, hquote, hbackslash, hcontrol, straysWith]

/-! ## Strings -/

theorem stringBody_openString (s : List Char) (before after : List Char) :
    stringBody before 0 0
        ((s.foldr (fun c text => escape c ++ text) ('"' :: after)).map .char) =
      .ok (String.ofList (before.reverse ++ s), after.map .char) := by
  induction s generalizing before with
  | nil => simp [stringBody]
  | cons c s ih =>
    rw [List.foldr_cons, stringBody_escape, ih, List.reverse_cons, List.append_assoc]
    rfl

/-- A string is read back from behind its opening quote. -/
theorem string_openString (s : String) (after : List Char) :
    Lexeme.string ((openString s after).map .char) = .ok (s, after.map .char) := by
  have hread := stringBody_openString s.toList [] after
  rwa [List.reverse_nil, List.nil_append, String.ofList_toList] at hread

/-- A string is read back. -/
theorem text_printString (s : String) (after : List Char) :
    Json.text ((printString s after).map .char) = .ok (s, after.map .char) :=
  string_openString s after

theorem length_lt_length_printString (s : String) (after : List Char) :
    after.length < (printString s after).length := by
  unfold printString
  induction s.toList with
  | nil => simp only [List.foldr_nil, List.length_cons]; omega
  | cons c cs ih =>
    simp only [List.foldr_cons, List.length_cons, List.length_append] at ih ⊢
    omega

end DeviceIdentity.Json
