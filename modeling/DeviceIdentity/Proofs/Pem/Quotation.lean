import Mathlib.Data.List.Flatten
import DeviceIdentity.Proofs.Pem.Origin
import DeviceIdentity.Proofs.Text

/-!
# What a fault quotes

A text without a certificate is refused with a fault, and some faults quote a part of the text: a
line that starts like the beginning of a section and does not end like one is quoted as a whole, and
of a section that never ends the label is quoted. A quoted line is the whole text only if the text
is a single line, and a label is never the whole text.
-/
namespace DeviceIdentity.Pem

/-- The text is a single line, and one that starts like the beginning of a section and does not end
like one. -/
def Botched (text : List Char) : Prop :=
  (∀ c ∈ text, endsLine c = false) ∧ beginMarker.isPrefixOf text = true ∧
    label? (text.drop beginMarker.length) = none

instance (text : List Char) : Decidable (Botched text) := inferInstanceAs (Decidable (_ ∧ _ ∧ _))

/-! ## Lines and labels are parts of their text -/

theorem flatten_linesAfter (line text : List Char) :
    (linesAfter [] line text).flatten = line.reverse ++ text.filter fun c => !endsLine c := by
  induction text generalizing line with
  | nil =>
    simp only [linesAfter]
    split <;> simp [*]
  | cons c cs ih =>
    cases hends : endsLine c with
    | true =>
      have hlines : linesAfter [] line (c :: cs) = line.reverse :: linesAfter [] [] cs := by
        rw [linesAfter, if_pos hends, linesAfter_eq_append]
        rfl
      simp [hlines, hends, ih]
    | false => simp [linesAfter, hends, ih]

/-- The lines of a text are what is left of it without the line endings. -/
theorem flatten_lines (text : List Char) :
    (lines text).flatten = text.filter fun c => !endsLine c :=
  flatten_linesAfter [] text

theorem sublist_of_mem_lines {line text : List Char} (h : line ∈ lines text) :
    line.Sublist (text.filter fun c => !endsLine c) :=
  flatten_lines text ▸ List.sublist_flatten_of_mem h

theorem lines_of_whole {text : List Char} (hne : text ≠ []) (h : ∀ c ∈ text, endsLine c = false) :
    lines text = [text] := by
  have hlines := linesAfter_whole h [] [] []
  simpa [lines, linesAfter, hne] using hlines

theorem dashes_cases (count : Nat) (after cs : List Char) :
    (dashes count after cs).2 = after ∨ (dashes count after cs).2 <:+ cs := by
  induction cs generalizing count after with
  | nil => exact .inl rfl
  | cons c cs ih =>
    simp only [dashes]
    split
    · rcases ih (count + 1) cs with h | h
      · rw [h]
        exact .inr (List.suffix_cons c cs)
      · exact .inr (h.trans (List.suffix_cons c cs))
    · split
      · rcases ih count after with h | h
        · exact .inl h
        · exact .inr (h.trans (List.suffix_cons c cs))
      · exact .inl rfl

/-- A label stands at the front of what is behind the marker. -/
theorem prefix_of_label? {line label : List Char} (h : label? line = some label) :
    label <+: line := by
  unfold label? at h
  split at h
  · next after hdashes =>
    cases h
    have hsuffix : after <:+ line.reverse := by
      rcases dashes_cases 0 line.reverse line.reverse with heq | hsuffix
      · rw [hdashes] at heq
        exact heq ▸ List.suffix_refl _
      · rwa [hdashes] at hsuffix
    simpa using List.reverse_prefix.2 hsuffix
  · cases h

/-! ## Faults -/

/-- Why a text is refused, and where the quoted part stands in its lines. -/
inductive FaultCases (ls : List (List Char)) : SectionFault → Prop
  | illegalStart {line : List Char} (hmem : line ∈ ls)
      (hbegin : beginMarker.isPrefixOf line = true)
      (hlabel : label? (line.drop beginMarker.length) = none) : FaultCases ls (.illegalStart line)
  | unclosed {label line : List Char} (hmem : line ∈ ls) (hbegins : Begins label line) :
      FaultCases ls (.unclosed label)
  | base64 (fault : Base64.Fault) : FaultCases ls (.base64 fault)

theorem readLine_eq_error_cases {c : Collected} {line : List Char} {fault : SectionFault}
    (h : readLine c line = .error fault) :
    (beginMarker.isPrefixOf line = true ∧ label? (line.drop beginMarker.length) = none ∧
      fault = .illegalStart line) ∨
    ∃ base64Fault, fault = .base64 base64Fault := by
  unfold readLine at h
  split at h
  · next hbegin =>
    split at h
    · cases h
    · next hlabel =>
      cases h
      exact .inl ⟨hbegin, hlabel, rfl⟩
  · split at h
    · cases h
    · split at h
      · split at h
        · split at h
          · cases h
          · next base64Fault _ =>
            cases h
            exact .inr ⟨base64Fault, rfl⟩
        · cases h
      · cases h

theorem Leaves.exists_begins {front : List (List Char)} {c : Collected} {label : List Char}
    (h : Leaves front c) (hlabel : c.label = some label) : ∃ line ∈ front, Begins label line := by
  cases h with
  | outside => cases hlabel
  | inside before abandoned f hfront =>
    cases hlabel
    exact ⟨f.first, by simp [hfront, Fragment.lines], f.begins⟩

theorem faultCases_of_firstSection {wanted : List Char} {front ls : List (List Char)}
    {c : Collected} {fault : SectionFault} (h : Leaves front c)
    (hfault : firstSection wanted c ls = .error fault) : FaultCases (front ++ ls) fault := by
  induction ls generalizing front c with
  | nil =>
    rw [firstSection] at hfault
    split at hfault
    · next label hlabel =>
      cases hfault
      obtain ⟨line, hmem, hbegins⟩ := h.exists_begins hlabel
      exact .unclosed (List.mem_append_left _ hmem) hbegins
    · cases hfault
  | cons line rest ih =>
    rw [firstSection] at hfault
    split at hfault
    · next lineFault hline =>
      cases hfault
      rcases readLine_eq_error_cases hline with ⟨hbegin, hlabel, rfl⟩ | ⟨base64Fault, rfl⟩
      · exact .illegalStart (by simp) hbegin hlabel
      · exact .base64 base64Fault
    · next hline =>
      rw [List.append_cons]
      exact ih (h.readLine hline) hfault
    · split at hfault
      · cases hfault
      · rw [List.append_cons]
        exact ih .outside hfault

theorem faultCases_of_readCertificate {text : String} {fault : SectionFault}
    (h : readCertificate text = .error (.malformed fault)) :
    FaultCases (lines text.toList) fault := by
  have hnone : Leaves [] .none := .outside
  unfold readCertificate at h
  split at h
  · next hfault =>
    cases h
    exact faultCases_of_firstSection hnone hfault
  · cases h
  · cases h
  · cases h

/-- A text that is a single botched line is quoted as a whole. -/
theorem readCertificate_of_botched {text : String} (h : Botched text.toList) :
    readCertificate text = .error (.malformed (.illegalStart text.toList)) := by
  obtain ⟨hwhole, hbegin, hlabel⟩ := h
  have hne : text.toList ≠ [] := by
    intro hnil
    rw [hnil] at hbegin
    cases hbegin
  have hsection : firstSection certificateLabel .none (lines text.toList) =
      .error (.illegalStart text.toList) := by
    simp only [lines_of_whole hne hwhole, firstSection, readLine, hbegin, hlabel, ↓reduceIte]
  simp only [readCertificate, hsection]

/-! ## Sizes -/

/-- The number of bytes of some characters. -/
def byteSize (cs : List Char) : Nat := (cs.flatMap String.utf8EncodeChar).length

theorem byteSize_append (cs cs' : List Char) :
    byteSize (cs ++ cs') = byteSize cs + byteSize cs' := by
  simp [byteSize]

theorem byteSize_le_of_sublist {cs cs' : List Char} (h : cs.Sublist cs') :
    byteSize cs ≤ byteSize cs' :=
  (h.flatMap String.utf8EncodeChar).length_le

theorem length_le_byteSize (cs : List Char) : cs.length ≤ byteSize cs := by
  induction cs with
  | nil => exact Nat.le_refl 0
  | cons c cs ih =>
    have hpos := Char.utf8Size_pos c
    simp only [byteSize, List.flatMap_cons, List.length_append, String.length_utf8EncodeChar,
      List.length_cons] at ih ⊢
    omega

/-- A part that is as large as the whole is the whole. -/
theorem eq_of_sublist_of_byteSize_le {cs cs' : List Char} (h : cs.Sublist cs')
    (hle : byteSize cs' ≤ byteSize cs) : cs = cs' := by
  have hbytes := (h.flatMap String.utf8EncodeChar).eq_of_length_le hle
  have htexts : Text.utf8 (String.ofList cs) = Text.utf8 (String.ofList cs') := by
    rw [Text.utf8_ofList, Text.utf8_ofList, hbytes]
  simpa using congrArg String.toList (Text.utf8_injective htexts)

/-- A line that is quoted is smaller than the text, unless the text is nothing but this line. -/
theorem byteSize_lt_or_botched {text line : List Char} (hmem : line ∈ lines text)
    (hbegin : beginMarker.isPrefixOf line = true)
    (hlabel : label? (line.drop beginMarker.length) = none) :
    byteSize line < byteSize text ∨ Botched text := by
  have hsublist := sublist_of_mem_lines hmem
  rcases Nat.lt_or_ge (byteSize line) (byteSize text) with hlt | hge
  · exact .inl hlt
  · have heq := eq_of_sublist_of_byteSize_le (hsublist.trans List.filter_sublist) hge
    subst heq
    refine .inr ⟨fun c hc => ?_, hbegin, hlabel⟩
    simpa using List.of_mem_filter (hsublist.subset hc)

/-- A label is smaller than the text. -/
theorem byteSize_label_lt {text line label : List Char} (hmem : line ∈ lines text)
    (hbegins : Begins label line) : byteSize label < byteSize text := by
  obtain ⟨hbegin, hlabel⟩ := hbegins
  obtain ⟨rest, rfl⟩ := List.isPrefixOf_iff_prefix.1 hbegin
  rw [List.drop_left] at hlabel
  have hrest := byteSize_le_of_sublist (prefix_of_label? hlabel).sublist
  have htext := byteSize_le_of_sublist ((sublist_of_mem_lines hmem).trans List.filter_sublist)
  have hmarker : 0 < byteSize beginMarker := by decide
  rw [byteSize_append] at htext
  omega

end DeviceIdentity.Pem
