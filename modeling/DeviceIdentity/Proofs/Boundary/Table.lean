import DeviceIdentity.Boundary.Tokens
import DeviceIdentity.Proofs.Text

/-!
# How a table is written

A table of tokens is written with commas between its pieces. A piece is blank, or it is an entry: a
component and a token with an equals sign between them, and with any blanks around each. What can be
written so is read as it was written, and nothing else is read; otherwise the number of the first
piece that is no entry is reported.
-/
namespace DeviceIdentity.Tokens

/-- A text of nothing but blanks. -/
def Blank (cs : List Char) : Prop := ∀ c ∈ cs, Text.isBlank c = true

instance (cs : List Char) : Decidable (Blank cs) :=
  inferInstanceAs (Decidable (∀ c ∈ cs, _))

/-- An entry that can be written: neither part is empty or has blanks at its ends or a comma in it,
and the component has no equals sign. -/
structure Writable (e : String × String) : Prop where
  component_ne : e.1 ≠ ""
  component_trimmed : Text.Trimmed e.1.toList
  component_chars : ',' ∉ e.1.toList ∧ '=' ∉ e.1.toList
  token_ne : e.2 ≠ ""
  token_trimmed : Text.Trimmed e.2.toList
  token_chars : ',' ∉ e.2.toList

/-- The piece is the entry with blanks around its parts. -/
def Spells (piece : List Char) (e : String × String) : Prop :=
  ∃ a b c d, Blank (a ++ b) ∧ Blank (c ++ d) ∧
    piece = (a ++ e.1.toList ++ b) ++ '=' :: (c ++ e.2.toList ++ d)

/-- The pieces are the entries in their order, with blank pieces anywhere between them. -/
inductive Written : List (List Char) → List (String × String) → Prop
  | nil : Written [] []
  | blank {piece : List Char} {pieces : List (List Char)} {entries : List (String × String)}
      (hpiece : Blank piece) (hrest : Written pieces entries) : Written (piece :: pieces) entries
  | entry {piece : List Char} {pieces : List (List Char)} {e : String × String}
      {entries : List (String × String)} (he : Writable e) (hpiece : Spells piece e)
      (hrest : Written pieces entries) : Written (piece :: pieces) (e :: entries)

/-- The piece is neither blank nor an entry: it has no equals sign, or nothing but blanks on one
side of the first one. -/
def Faulty (piece : List Char) : Prop :=
  ¬ Blank piece ∧ ('=' ∉ piece ∨
    ∃ before after, piece = before ++ '=' :: after ∧ '=' ∉ before ∧ (Blank before ∨ Blank after))

/-- The first faulty piece of the text has this number among the pieces that are not blank. -/
def FirstFaulty (text : String) (number : Nat) : Prop :=
  ∃ before piece after, Text.CutInto ',' text.toList (before ++ piece :: after) ∧
    (∀ p ∈ before, ¬ Faulty p) ∧ Faulty piece ∧ number = before.countP (¬ Blank ·) + 1

variable {piece : List Char} {pieces : List (List Char)} {e : String × String}
  {entries : List (String × String)} {number : Nat} {fault : ConfigurationFault}

/-! ## Pieces -/

theorem entry?_append {before : List Char} (h : '=' ∉ before) (after : List Char) :
    entry? (before ++ '=' :: after) =
      if Text.trim before ≠ [] ∧ Text.trim after ≠ [] then
        some (String.ofList (Text.trim before), String.ofList (Text.trim after))
      else none := by
  unfold entry?
  rw [Text.splitOnce_append h]

theorem entry?_of_notMem (h : '=' ∉ piece) : entry? piece = none := by
  unfold entry?
  rw [Text.splitOnce_eq_none_iff.2 h]

theorem notMem_of_blank {cs : List Char} {c : Char} (hc : Text.isBlank c = false) (h : Blank cs) :
    c ∉ cs := by
  intro hmem
  rw [h c hmem] at hc
  cases hc

theorem eq_notMem_of_blank (h : Blank piece) : '=' ∉ piece := notMem_of_blank (by decide) h

/-- The blanks around an entry do not count, for those around its parts do not. -/
theorem entry?_trim (piece : List Char) : entry? (Text.trim piece) = entry? piece := by
  obtain ⟨left, right, hblank, hpiece⟩ := Text.exists_append_trim piece
  obtain ⟨hleft, hright⟩ := List.forall_mem_append.1 hblank
  generalize Text.trim piece = cs at hpiece
  subst hpiece
  by_cases hmem : '=' ∈ cs
  · obtain ⟨before, after, rfl, hbefore⟩ := List.eq_append_cons_of_mem hmem
    have hnotMem : '=' ∉ left ++ before :=
      List.not_mem_append (eq_notMem_of_blank hleft) hbefore
    have hcut : left ++ (before ++ '=' :: after) ++ right =
        (left ++ before) ++ '=' :: (after ++ right) := by
      simp only [List.append_assoc, List.cons_append]
    rw [hcut, entry?_append hnotMem, entry?_append hbefore, Text.trim_append_left hleft,
      Text.trim_append_right hright]
  · have hnotMem : '=' ∉ left ++ cs ++ right :=
      List.not_mem_append (List.not_mem_append (eq_notMem_of_blank hleft) hmem)
        (eq_notMem_of_blank hright)
    rw [entry?_of_notMem hnotMem, entry?_of_notMem hmem]

/-- The parts of an entry that is read can be written. -/
theorem writable_of_trim {before after : List Char} (hcomma : ',' ∉ before ++ '=' :: after)
    (hbefore : '=' ∉ before) (hcomponent : Text.trim before ≠ []) (htoken : Text.trim after ≠ []) :
    Writable (String.ofList (Text.trim before), String.ofList (Text.trim after)) where
  component_ne := mt String.ofList_eq_empty_iff.1 hcomponent
  component_trimmed := by
    rw [String.toList_ofList]
    exact Text.trimmed_trim before
  component_chars := by
    rw [String.toList_ofList]
    exact ⟨fun h => hcomma (List.mem_append_left _ (Text.mem_of_mem_trim h)),
      fun h => hbefore (Text.mem_of_mem_trim h)⟩
  token_ne := mt String.ofList_eq_empty_iff.1 htoken
  token_trimmed := by
    rw [String.toList_ofList]
    exact Text.trimmed_trim after
  token_chars := by
    rw [String.toList_ofList]
    exact fun h =>
      hcomma (List.mem_append_right _ (List.mem_cons_of_mem _ (Text.mem_of_mem_trim h)))

theorem entry?_of_spells (he : Writable e) (h : Spells piece e) : entry? piece = some e := by
  obtain ⟨a, b, c, d, hab, hcd, rfl⟩ := h
  obtain ⟨ha, hb⟩ := List.forall_mem_append.1 hab
  have hnotMem : '=' ∉ a ++ e.1.toList ++ b :=
    List.not_mem_append (List.not_mem_append (eq_notMem_of_blank ha) he.component_chars.2)
      (eq_notMem_of_blank hb)
  have hcomponent : e.1.toList ≠ [] := mt String.toList_eq_nil_iff.1 he.component_ne
  have htoken : e.2.toList ≠ [] := mt String.toList_eq_nil_iff.1 he.token_ne
  rw [entry?_append hnotMem, he.component_trimmed.trim_append hab, he.token_trimmed.trim_append hcd,
    if_pos ⟨hcomponent, htoken⟩, String.ofList_toList, String.ofList_toList]

/-- A piece that is read as an entry is written as that entry. -/
theorem writable_and_spells_of_entry? (hcomma : ',' ∉ piece) (h : entry? piece = some e) :
    Writable e ∧ Spells piece e := by
  have hmem : '=' ∈ piece := by
    by_contra hnotMem
    rw [entry?_of_notMem hnotMem] at h
    cases h
  obtain ⟨before, after, rfl, hbefore⟩ := List.eq_append_cons_of_mem hmem
  rw [entry?_append hbefore] at h
  split at h
  · next hne =>
    cases h
    obtain ⟨a, b, hab, hcomponent⟩ := Text.exists_append_trim before
    obtain ⟨c, d, hcd, htoken⟩ := Text.exists_append_trim after
    refine ⟨writable_of_trim hcomma hbefore hne.1 hne.2, a, b, c, d, hab, hcd, ?_⟩
    rw [String.toList_ofList, String.toList_ofList, ← hcomponent, ← htoken]
  · cases h

/-- A piece that is no entry is blank or faulty. -/
theorem entry?_eq_none_iff : entry? piece = none ↔ Blank piece ∨ Faulty piece := by
  by_cases hmem : '=' ∈ piece
  · have hnotBlank : ¬ Blank piece := fun hblank => eq_notMem_of_blank hblank hmem
    obtain ⟨before, after, rfl, hbefore⟩ := List.eq_append_cons_of_mem hmem
    have hparts : entry? (before ++ '=' :: after) = none ↔ Blank before ∨ Blank after := by
      rw [entry?_append hbefore, Blank, Blank, ← Text.trim_eq_nil_iff, ← Text.trim_eq_nil_iff]
      split
      · next hne => simp [hne.1, hne.2]
      · next hne => simpa [← or_iff_not_imp_left] using hne
    rw [hparts]
    constructor
    · intro h
      exact .inr ⟨hnotBlank, .inr ⟨before, after, rfl, hbefore, h⟩⟩
    · rintro (hblank | ⟨-, hnotMem | ⟨before', after', hpiece, hbefore', h⟩⟩)
      · exact absurd hblank hnotBlank
      · exact absurd hmem hnotMem
      · -- The first equals sign is the same one.
        have hsplit := Text.splitOnce_append hbefore after
        rw [hpiece, Text.splitOnce_append hbefore' after'] at hsplit
        cases hsplit
        exact h
  · rw [entry?_of_notMem hmem]
    simp only [true_iff]
    by_cases hblank : Blank piece
    · exact .inl hblank
    · exact .inr ⟨hblank, .inl hmem⟩

/-! ## Tables -/

/-- What is read from pieces, when the next one that is not blank has this number. -/
def parsePieces (number : Nat) (pieces : List (List Char)) :
    Except ConfigurationFault (List (String × String)) :=
  parseEntries number ((pieces.map Text.trim).filter (· ≠ []))

theorem parse_eq_parsePieces (text : String) :
    parse text = (parsePieces 1 (Text.pieces ',' text.toList)).map .mk := rfl

theorem parsePieces_of_blank (h : Blank piece) (number : Nat) (pieces : List (List Char)) :
    parsePieces number (piece :: pieces) = parsePieces number pieces := by
  simp [parsePieces, Text.trim_of_blank h]

theorem parsePieces_of_not_blank (h : ¬ Blank piece) (number : Nat) (pieces : List (List Char)) :
    parsePieces number (piece :: pieces) =
      match entry? piece with
      | none => .error (.tokenEntry number)
      | some e => (parsePieces (number + 1) pieces).map (e :: ·) := by
  have hne : Text.trim piece ≠ [] := mt Text.trim_eq_nil_iff.1 h
  simp only [parsePieces, List.map_cons, hne, ne_eq, not_false_eq_true, decide_true,
    List.filter_cons_of_pos, parseEntries, entry?_trim]
  rfl

/-- What is written is read as it was written. -/
theorem Written.parsePieces_eq (h : Written pieces entries) (number : Nat) :
    parsePieces number pieces = .ok entries := by
  induction h generalizing number with
  | nil => rfl
  | blank hpiece hrest ih => rw [parsePieces_of_blank hpiece, ih]
  | entry he hpiece hrest ih =>
    have hentry := entry?_of_spells he hpiece
    have hblank : ¬ Blank _ := fun hblank => by
      rw [entry?_eq_none_iff.2 (.inl hblank)] at hentry
      cases hentry
    rw [parsePieces_of_not_blank hblank, hentry]
    simp only [ih]
    rfl

/-- The first faulty piece is reported by its number. -/
theorem parsePieces_of_faulty {before : List (List Char)} (hbefore : ∀ p ∈ before, ¬ Faulty p)
    (hpiece : Faulty piece) (number : Nat) (after : List (List Char)) :
    parsePieces number (before ++ piece :: after) =
      .error (.tokenEntry (number + before.countP (¬ Blank ·))) := by
  induction before generalizing number with
  | nil =>
    rw [List.nil_append, parsePieces_of_not_blank hpiece.1, entry?_eq_none_iff.2 (.inr hpiece)]
    rfl
  | cons p before ih =>
    obtain ⟨hp, hbefore⟩ := List.forall_mem_cons.1 hbefore
    by_cases hblank : Blank p
    · rw [List.cons_append, parsePieces_of_blank hblank, ih hbefore,
        List.countP_cons_of_neg (by simpa using hblank)]
    · rw [List.cons_append, parsePieces_of_not_blank hblank, ih hbefore,
        List.countP_cons_of_pos (by simpa using hblank)]
      cases hentry : entry? p with
      | none => exact absurd (entry?_eq_none_iff.1 hentry) (not_or.2 ⟨hblank, hp⟩)
      | some e =>
        rw [Nat.add_right_comm]
        rfl

/-- Pieces without commas are written as entries, or one of them is the first faulty one. -/
theorem written_or_faulty (hcomma : ∀ p ∈ pieces, ',' ∉ p) :
    (∃ entries, Written pieces entries) ∨
      ∃ before piece after, pieces = before ++ piece :: after ∧ (∀ p ∈ before, ¬ Faulty p) ∧
        Faulty piece := by
  induction pieces with
  | nil => exact .inl ⟨[], .nil⟩
  | cons p pieces ih =>
    obtain ⟨hp, hpieces⟩ := List.forall_mem_cons.1 hcomma
    by_cases hfaulty : Faulty p
    · exact .inr ⟨[], p, pieces, rfl, by simp, hfaulty⟩
    · rcases ih hpieces with ⟨entries, hwritten⟩ | ⟨before, piece, after, rfl, hbefore, hpiece⟩
      · cases hentry : entry? p with
        | none =>
          have hblank := (entry?_eq_none_iff.1 hentry).resolve_right hfaulty
          exact .inl ⟨entries, .blank hblank hwritten⟩
        | some e =>
          obtain ⟨he, hspells⟩ := writable_and_spells_of_entry? hp hentry
          exact .inl ⟨e :: entries, .entry he hspells hwritten⟩
      · exact .inr ⟨p :: before, piece, after, rfl, List.forall_mem_cons.2 ⟨hfaulty, hbefore⟩,
          hpiece⟩

/-! ## Texts -/

theorem comma_notMem_of_spells (he : Writable e) (h : Spells piece e) : ',' ∉ piece := by
  obtain ⟨a, b, c, d, hab, hcd, rfl⟩ := h
  have hcomma : ∀ {cs : List Char}, Blank cs → ',' ∉ cs := notMem_of_blank (by decide)
  obtain ⟨ha, hb⟩ := List.forall_mem_append.1 hab
  obtain ⟨hc, hd⟩ := List.forall_mem_append.1 hcd
  simp [he.component_chars.1, he.token_chars, hcomma ha, hcomma hb, hcomma hc, hcomma hd]

theorem Written.comma_notMem (h : Written pieces entries) : ∀ p ∈ pieces, ',' ∉ p := by
  induction h with
  | nil => exact fun p hp => absurd hp List.not_mem_nil
  | blank hpiece hrest ih =>
    exact List.forall_mem_cons.2 ⟨notMem_of_blank (by decide) hpiece, ih⟩
  | entry he hpiece hrest ih =>
    exact List.forall_mem_cons.2 ⟨comma_notMem_of_spells he hpiece, ih⟩

theorem Written.writable (h : Written pieces entries) : ∀ e ∈ entries, Writable e := by
  induction h with
  | nil => exact fun e he => absurd he List.not_mem_nil
  | blank hpiece hrest ih => exact ih
  | entry he hpiece hrest ih => exact List.forall_mem_cons.2 ⟨he, ih⟩

theorem Written.not_faulty (h : Written pieces entries) : ∀ p ∈ pieces, ¬ Faulty p := by
  induction h with
  | nil => exact fun p hp => absurd hp List.not_mem_nil
  | blank hpiece hrest ih => exact List.forall_mem_cons.2 ⟨fun hfaulty => hfaulty.1 hpiece, ih⟩
  | entry he hpiece hrest ih =>
    refine List.forall_mem_cons.2 ⟨fun hfaulty => ?_, ih⟩
    have hentry := entry?_of_spells he hpiece
    rw [entry?_eq_none_iff.2 (.inr hfaulty)] at hentry
    cases hentry

theorem parse_of_written {text : String} (htext : text.toList = Text.joinPieces ',' pieces)
    (h : Written pieces entries) : parse text = .ok ⟨entries⟩ := by
  have hpieces : parsePieces 1 (Text.pieces ',' text.toList) = .ok entries := by
    rw [htext]
    by_cases hne : pieces = []
    · -- No pieces at all are written like one blank piece.
      subst hne
      cases h
      rfl
    · rw [Text.pieces_joinPieces hne h.comma_notMem]
      exact h.parsePieces_eq 1
  rw [parse_eq_parsePieces, hpieces]
  rfl

theorem parse_of_firstFaulty {text : String} (h : FirstFaulty text number) :
    parse text = .error (.tokenEntry number) := by
  obtain ⟨before, piece, after, hcut, hbefore, hpiece, rfl⟩ := h
  rw [parse_eq_parsePieces, Text.cutInto_iff.1 hcut, parsePieces_of_faulty hbefore hpiece,
    Nat.add_comm]
  rfl

/-- Every text is a table as it is written, or has a first faulty piece. -/
theorem written_or_firstFaulty (text : String) :
    (∃ pieces entries, text.toList = Text.joinPieces ',' pieces ∧ Written pieces entries) ∨
      ∃ number, FirstFaulty text number := by
  have hcut : Text.CutInto ',' text.toList (Text.pieces ',' text.toList) := Text.cutInto_iff.2 rfl
  rcases written_or_faulty hcut.2.1 with ⟨entries, h⟩ | ⟨before, piece, after, hpieces, hfirst⟩
  · exact .inl ⟨_, entries, hcut.2.2, h⟩
  · rw [hpieces] at hcut
    exact .inr ⟨_, before, piece, after, hcut, hfirst.1, hfirst.2, rfl⟩

theorem parse_eq_ok_iff {text : String} :
    parse text = .ok ⟨entries⟩ ↔
      ∃ pieces, text.toList = Text.joinPieces ',' pieces ∧ Written pieces entries := by
  constructor
  · intro hparse
    rcases written_or_firstFaulty text with ⟨pieces, entries', htext, h⟩ | ⟨number, h⟩
    · rw [parse_of_written htext h] at hparse
      cases hparse
      exact ⟨pieces, htext, h⟩
    · rw [parse_of_firstFaulty h] at hparse
      cases hparse
  · rintro ⟨pieces, htext, h⟩
    exact parse_of_written htext h

theorem parse_eq_error_iff {text : String} :
    parse text = .error fault ↔ ∃ number, FirstFaulty text number ∧ fault = .tokenEntry number := by
  constructor
  · intro hparse
    rcases written_or_firstFaulty text with ⟨pieces, entries', htext, h⟩ | ⟨number, h⟩
    · rw [parse_of_written htext h] at hparse
      cases hparse
    · rw [parse_of_firstFaulty h] at hparse
      cases hparse
      exact ⟨number, h, rfl⟩
  · rintro ⟨number, h, rfl⟩
    exact parse_of_firstFaulty h

/-- A text has a first faulty piece if and only if it has any. -/
theorem exists_firstFaulty_iff {text : String} :
    (∃ number, FirstFaulty text number) ↔
      ∃ pieces, Text.CutInto ',' text.toList pieces ∧ ∃ p ∈ pieces, Faulty p := by
  constructor
  · rintro ⟨number, before, piece, after, hcut, -, hpiece, -⟩
    exact ⟨_, hcut, piece, by simp, hpiece⟩
  · rintro ⟨pieces, hcut, p, hp, hfaulty⟩
    rcases written_or_faulty hcut.2.1 with ⟨entries, h⟩ | ⟨before, piece, after, rfl, hfirst⟩
    · exact absurd hfaulty (h.not_faulty p hp)
    · exact ⟨_, before, piece, after, hcut, hfirst.1, hfirst.2, rfl⟩

/-- The text of entries with nothing around them. -/
def plainText (entries : List (String × String)) : String :=
  String.ofList (Text.joinPieces ',' (entries.map fun e => e.1.toList ++ '=' :: e.2.toList))

theorem written_plain (h : ∀ e ∈ entries, Writable e) :
    Written (entries.map fun e => e.1.toList ++ '=' :: e.2.toList) entries := by
  induction entries with
  | nil => exact .nil
  | cons e entries ih =>
    obtain ⟨he, hentries⟩ := List.forall_mem_cons.1 h
    have hblank : Blank [] := fun c hc => absurd hc List.not_mem_nil
    exact .entry he ⟨[], [], [], [], hblank, hblank, by simp⟩ (ih hentries)

/-- Entries that can be written are read from every text that they are written as, in their order:
with any blanks around their parts, and with blank pieces anywhere. Nothing else is read, so what is
read can be written. A text is refused if and only if a piece of it is faulty, and then the fault
tells the number of the first faulty piece among those that are not blank, and nothing else. -/
theorem parse_iff_written :
    (∀ entries, (∀ e ∈ entries, Writable e) → parse (plainText entries) = .ok ⟨entries⟩) ∧
    (∀ text entries, parse text = .ok ⟨entries⟩ ↔
      ∃ pieces, text.toList = Text.joinPieces ',' pieces ∧ Written pieces entries) ∧
    (∀ text entries, parse text = .ok ⟨entries⟩ → ∀ e ∈ entries, Writable e) ∧
    (∀ text, (∃ fault, parse text = .error fault) ↔
      ∃ pieces, Text.CutInto ',' text.toList pieces ∧ ∃ p ∈ pieces, Faulty p) ∧
    (∀ text fault, parse text = .error fault ↔
      ∃ number, FirstFaulty text number ∧ fault = .tokenEntry number) ∧
    ∀ text text' number, FirstFaulty text number → FirstFaulty text' number →
      parse text = parse text' := by
  refine ⟨?_, fun text entries => parse_eq_ok_iff, ?_, ?_, fun text fault => parse_eq_error_iff, ?_⟩
  · intro entries h
    exact parse_of_written String.toList_ofList (written_plain h)
  · intro text entries h
    obtain ⟨pieces, -, hwritten⟩ := parse_eq_ok_iff.1 h
    exact hwritten.writable
  · intro text
    rw [← exists_firstFaulty_iff]
    simp only [parse_eq_error_iff]
    exact exists_comm.trans (exists_congr fun number => by simp)
  · intro text text' number h h'
    rw [parse_of_firstFaulty h, parse_of_firstFaulty h']

end DeviceIdentity.Tokens
