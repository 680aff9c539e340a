import Mathlib.Data.List.DropRight
import DeviceIdentity.Text.Blank
import DeviceIdentity.Text.Glyph
import DeviceIdentity.Text.Pieces

/-!
# Texts and their bytes

What is left of a text when the blanks around it are gone, how a text is cut at a separator, and how
its characters can be told from its bytes.
-/
namespace DeviceIdentity.Text

/-! ## Trimming -/

/-- The text has no blanks at its ends. -/
structure Trimmed (cs : List Char) : Prop where
  start : trimStart cs = cs
  finish : trimEnd cs = cs

variable {cs left right : List Char}

theorem trimStart_append (h : ∀ c ∈ left, isBlank c = true) (cs : List Char) :
    trimStart (left ++ cs) = trimStart cs :=
  List.dropWhile_append_of_pos h

theorem trimEnd_append (h : ∀ c ∈ right, isBlank c = true) (cs : List Char) :
    trimEnd (cs ++ right) = trimEnd cs := by
  have hreverse : ∀ c ∈ right.reverse, isBlank c = true := fun c hc => h c (List.mem_reverse.1 hc)
  rw [trimEnd, List.reverse_append, List.dropWhile_append_of_pos hreverse]
  rfl

/-- A text is what is left of it and the blanks around that. -/
theorem exists_append_trim (cs : List Char) :
    ∃ left right, (∀ c ∈ left ++ right, isBlank c = true) ∧ cs = left ++ trim cs ++ right := by
  refine ⟨cs.takeWhile isBlank, (trimStart cs).rtakeWhile isBlank, ?_, ?_⟩
  · intro c hc
    exact (List.mem_append.1 hc).elim List.mem_takeWhile_imp List.mem_rtakeWhile_imp
  · calc cs = cs.takeWhile isBlank ++ trimStart cs := List.takeWhile_append_dropWhile.symm
      _ = cs.takeWhile isBlank ++ (trim cs ++ (trimStart cs).rtakeWhile isBlank) :=
          congrArg (cs.takeWhile isBlank ++ ·) List.rdropWhile_append_rtakeWhile.symm
      _ = cs.takeWhile isBlank ++ trim cs ++ (trimStart cs).rtakeWhile isBlank :=
          (List.append_assoc _ _ _).symm

theorem trimStart_of_prefix {part : List Char} (hpart : part <+: cs) (h : trimStart cs = cs) :
    trimStart part = part := by
  cases part with
  | nil => rfl
  | cons c more =>
    obtain ⟨rest, rfl⟩ := hpart
    have hc := List.dropWhile_eq_self_iff.1 h (Nat.succ_pos _)
    exact trimStart_cons_of_not_blank (Bool.eq_false_iff.2 hc) more

theorem trimmed_trim (cs : List Char) : Trimmed (trim cs) where
  start := trimStart_of_prefix (List.rdropWhile_prefix _ _) (List.dropWhile_idempotent _ _)
  finish := List.rdropWhile_idempotent _ _

/-- Blanks in front of a text do not count. -/
theorem trim_append_left (h : ∀ c ∈ left, isBlank c = true) (cs : List Char) :
    trim (left ++ cs) = trim cs := by
  rw [trim, trimStart_append h]
  rfl

/-- Blanks behind a text do not count. -/
theorem trim_append_right (h : ∀ c ∈ right, isBlank c = true) (cs : List Char) :
    trim (cs ++ right) = trim cs := by
  rw [trim, trimStart, List.dropWhile_append]
  split
  · next hnone =>
    -- Of a text that is all blank nothing is left, whatever blanks come behind it.
    rw [List.isEmpty_iff] at hnone
    rw [List.dropWhile_eq_nil_iff.2 h, trim, trimStart, hnone]
  · exact trimEnd_append h _

/-- Trimming takes away blanks around a text without blanks at its ends, and nothing else. -/
theorem Trimmed.trim_append (h : Trimmed cs) (hblank : ∀ c ∈ left ++ right, isBlank c = true) :
    trim (left ++ cs ++ right) = cs := by
  obtain ⟨hleft, hright⟩ := List.forall_mem_append.1 hblank
  rw [trim_append_right hright, trim_append_left hleft, trim, h.start, h.finish]

theorem mem_of_mem_trim {c : Char} (h : c ∈ trim cs) : c ∈ cs := by
  obtain ⟨left, right, -, hcs⟩ := exists_append_trim cs
  rw [hcs]
  exact List.mem_append_left _ (List.mem_append_right _ h)

theorem trim_of_blank (h : ∀ c ∈ cs, isBlank c = true) : trim cs = [] := by
  rw [trim, trimStart, List.dropWhile_eq_nil_iff.2 h]
  rfl

/-- Only a text that is all blank has nothing left. -/
theorem trim_eq_nil_iff : trim cs = [] ↔ ∀ c ∈ cs, isBlank c = true := by
  refine ⟨fun h => ?_, trim_of_blank⟩
  obtain ⟨left, right, hblank, hcs⟩ := exists_append_trim cs
  rw [h, List.append_nil] at hcs
  exact hcs ▸ hblank

/-! ## Cutting -/

theorem splitOnce_append {sep : Char} {before : List Char} (h : sep ∉ before) (after : List Char) :
    splitOnce sep (before ++ sep :: after) = some (before, after) := by
  induction before with
  | nil => simp [splitOnce]
  | cons c before ih =>
    have hc : c ≠ sep := fun he => h (he ▸ List.mem_cons_self)
    rw [List.cons_append, splitOnce, if_neg hc, ih fun hmem => h (List.mem_cons_of_mem _ hmem)]
    rfl

theorem splitOnce_eq_none_iff {sep : Char} : splitOnce sep cs = none ↔ sep ∉ cs := by
  constructor
  · intro h hmem
    obtain ⟨before, after, rfl, hbefore⟩ := List.eq_append_cons_of_mem hmem
    rw [splitOnce_append hbefore] at h
    cases h
  · intro h
    cases hsplit : splitOnce sep cs with
    | none => rfl
    | some parts =>
      obtain ⟨rfl, -⟩ := splitOnce_eq_some hsplit
      exact absurd (List.mem_append_right _ List.mem_cons_self) h

/-- The text is these pieces with a separator between each two, and has no other separators. -/
def CutInto (sep : Char) (cs : List Char) (ps : List (List Char)) : Prop :=
  ps ≠ [] ∧ (∀ p ∈ ps, sep ∉ p) ∧ cs = joinPieces sep ps

theorem notMem_of_mem_pieces {sep : Char} {p : List Char} (h : p ∈ pieces sep cs) : sep ∉ p := by
  induction cs generalizing p with
  | nil =>
    cases List.mem_singleton.1 h
    exact List.not_mem_nil
  | cons c cs ih =>
    simp only [pieces] at h
    split at h
    · rcases List.mem_cons.1 h with rfl | h
      · exact List.not_mem_nil
      · exact ih h
    · next hc =>
      cases hps : pieces sep cs with
      | nil => exact absurd hps (pieces_ne_nil sep cs)
      | cons q qs =>
        rw [hps] at h ih
        rcases List.mem_cons.1 h with rfl | h
        · exact List.not_mem_cons_of_ne_of_not_mem (Ne.symm hc) (ih List.mem_cons_self)
        · exact ih (List.mem_cons_of_mem _ h)

theorem pieces_of_notMem {sep : Char} (h : sep ∉ cs) : pieces sep cs = [cs] := by
  induction cs with
  | nil => rfl
  | cons c cs ih =>
    obtain ⟨hc, hcs⟩ := List.ne_and_not_mem_of_not_mem_cons h
    rw [pieces, if_neg (Ne.symm hc), ih hcs]

theorem pieces_append {sep : Char} {p : List Char} (h : sep ∉ p) (cs : List Char) :
    pieces sep (p ++ sep :: cs) = p :: pieces sep cs := by
  induction p with
  | nil => rw [List.nil_append, pieces, if_pos rfl]
  | cons c p ih =>
    obtain ⟨hc, hp⟩ := List.ne_and_not_mem_of_not_mem_cons h
    rw [List.cons_append, pieces, if_neg (Ne.symm hc), ih hp]

theorem pieces_joinPieces {sep : Char} {ps : List (List Char)} (hne : ps ≠ [])
    (h : ∀ p ∈ ps, sep ∉ p) : pieces sep (joinPieces sep ps) = ps := by
  induction ps with
  | nil => exact absurd rfl hne
  | cons p ps ih =>
    obtain ⟨hp, hps⟩ := List.forall_mem_cons.1 h
    cases ps with
    | nil => exact pieces_of_notMem hp
    | cons q ps => rw [joinPieces, pieces_append hp, ih (List.cons_ne_nil q ps) hps]

/-- There is one way to cut a text at all its separators. -/
theorem cutInto_iff {sep : Char} {ps : List (List Char)} :
    CutInto sep cs ps ↔ pieces sep cs = ps := by
  constructor
  · rintro ⟨hne, hps, rfl⟩
    exact pieces_joinPieces hne hps
  · rintro rfl
    exact ⟨pieces_ne_nil sep cs, fun p => notMem_of_mem_pieces, (joinPieces_pieces sep cs).symm⟩

/-! ## Bytes -/

theorem utf8_ofList (cs : List Char) : utf8 (String.ofList cs) = cs.flatMap String.utf8EncodeChar :=
  congrArg (·.flatMap String.utf8EncodeChar) String.toList_ofList

/-- Two texts with the same bytes are the same. -/
theorem utf8_injective : Function.Injective utf8 := by
  intro s t h
  refine String.toByteArray_inj.1 ?_
  rw [← String.utf8Encode_toList, ← String.utf8Encode_toList, List.utf8Encode, List.utf8Encode]
  exact congrArg List.toByteArray h

/-- The characters of bytes that are characters of their own. -/
def ascii (bytes : List UInt8) : List Char := bytes.map fun b => Char.ofNat b.toNat

theorem toNat_ofNat {n : Nat} (h : n < 128) : (Char.ofNat n).toNat = n := by
  have hall : ∀ n : Fin 128, (Char.ofNat n).toNat = n := by decide
  exact hall ⟨n, h⟩

theorem utf8EncodeChar_ofNat {b : UInt8} (h : b < 128) :
    String.utf8EncodeChar (Char.ofNat b.toNat) = [b] := by
  have hall : ∀ n : Fin 128, String.utf8EncodeChar (Char.ofNat n) = [UInt8.ofNat n] := by decide
  have hb := hall ⟨b.toNat, h⟩
  rwa [UInt8.ofNat_toNat] at hb

theorem utf8_ofList_ascii {bytes : List UInt8} (h : ∀ b ∈ bytes, b < 128) :
    utf8 (String.ofList (ascii bytes)) = bytes := by
  rw [utf8_ofList, ascii, List.flatMap_map]
  induction bytes with
  | nil => rfl
  | cons b bytes ih =>
    rw [List.flatMap_cons, utf8EncodeChar_ofNat (h b List.mem_cons_self),
      ih fun b' hb' => h b' (List.mem_cons_of_mem _ hb')]
    rfl

theorem notMem_ascii {b : UInt8} {bytes : List UInt8} (hb : b < 128)
    (hbytes : ∀ b ∈ bytes, b < 128) (h : b ∉ bytes) : Char.ofNat b.toNat ∉ ascii bytes := by
  intro hmem
  obtain ⟨b', hb', hchar⟩ := List.mem_map.1 hmem
  have hbyte : [b'] = [b] := by
    rw [← utf8EncodeChar_ofNat (hbytes b' hb'), hchar, utf8EncodeChar_ofNat hb]
  exact h (List.singleton_inj.1 hbyte ▸ hb')

end DeviceIdentity.Text
