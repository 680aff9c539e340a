import DeviceIdentity.Proofs.Pem.Origin
import DeviceIdentity.Proofs.Pem.RoundTrip

/-!
# What does not matter to the reader

Two changes that leave what is read from any text as it is, whether the text is well formed or not.
Empty lines do not count, so line feeds can be written as any other line ending. And once a section
has been found, nothing that comes behind the text is looked at, not even if it makes the last line
longer.
-/
namespace DeviceIdentity.Pem

variable {wanted : List Char}

/-! ## Empty lines -/

/-- The readers are in a section of the same label, and have gathered the same characters, though
perhaps in other lines. -/
structure Collected.Alike (c c' : Collected) : Prop where
  label : c.label = c'.label
  text : c.text = c'.text

theorem Collected.Alike.cons {c c' : Collected} (h : Alike c c') (label : Option (List Char))
    (line : List Char) : Alike ⟨label, line :: c.body⟩ ⟨label, line :: c'.body⟩ where
  label := rfl
  text := by
    have htext : c.body.reverse.flatten = c'.body.reverse.flatten := h.text
    simp only [Collected.text, List.reverse_cons, List.flatten_append, htext]

/-- Only the characters that have been gathered count, not how they stand in lines. -/
theorem firstSection_congr {c c' : Collected} (h : c.Alike c') (ls : List (List Char)) :
    firstSection wanted c ls = firstSection wanted c' ls := by
  induction ls generalizing c c' with
  | nil => simp only [firstSection, h.label]
  | cons line rest ih =>
    cases hbegin : beginMarker.isPrefixOf line with
    | true =>
      cases hlabel : label? (line.drop beginMarker.length) with
      | none => simp [firstSection, readLine, hbegin, hlabel]
      | some label =>
        simp only [firstSection, readLine, hbegin, hlabel, ↓reduceIte]
        exact ih ⟨rfl, h.text⟩
    | false =>
      cases hc : c.label with
      | none =>
        have hc' : c'.label = none := h.label ▸ hc
        simp only [firstSection, readLine, hbegin, hc, hc', Bool.false_eq_true, ↓reduceIte]
        exact ih h
      | some label =>
        have hc' : c'.label = some label := h.label ▸ hc
        cases hend : (endMarker label).isPrefixOf line with
        | true => simp [firstSection, readLine, hbegin, hc, hc', hend, h.text]
        | false =>
          simp only [firstSection, readLine, hbegin, hc, hc', hend, Bool.false_eq_true,
            ↓reduceIte]
          exact ih (h.cons (some label) line)

/-- An empty line is passed over, outside of sections and in them. -/
theorem firstSection_empty_cons (c : Collected) (rest : List (List Char)) :
    firstSection wanted c ([] :: rest) = firstSection wanted c rest := by
  have hbegin : beginMarker.isPrefixOf [] = false := by decide
  cases hc : c.label with
  | none => simp [firstSection, readLine, hbegin, hc]
  | some label =>
    have hend : (endMarker label).isPrefixOf [] = false := by simp [endMarker_eq]
    have halike : Collected.Alike ⟨some label, [] :: c.body⟩ c :=
      ⟨hc.symm, by simp [Collected.text]⟩
    simp only [firstSection, readLine, hbegin, hc, hend, Bool.false_eq_true, ↓reduceIte]
    exact firstSection_congr halike rest

/-- The lines that are not empty. -/
def nonempty (ls : List (List Char)) : List (List Char) := ls.filter fun line => line ≠ []

theorem firstSection_nonempty (c : Collected) (ls : List (List Char)) :
    firstSection wanted c (nonempty ls) = firstSection wanted c ls := by
  induction ls generalizing c with
  | nil => rfl
  | cons line rest ih =>
    cases line with
    | nil =>
      calc firstSection wanted c (nonempty ([] :: rest))
          = firstSection wanted c (nonempty rest) := by simp [nonempty]
        _ = firstSection wanted c rest := ih c
        _ = firstSection wanted c ([] :: rest) := (firstSection_empty_cons c rest).symm
    | cons ch line =>
      have hcons : nonempty ((ch :: line) :: rest) = (ch :: line) :: nonempty rest := by
        simp [nonempty]
      simp only [hcons, firstSection, ih]

/-- What is read from a text depends on its lines that are not empty, and on nothing else. -/
theorem readCertificate_congr {text text' : String}
    (h : nonempty (lines text.toList) = nonempty (lines text'.toList)) :
    readCertificate text = readCertificate text' := by
  have hsection : firstSection certificateLabel .none (lines text.toList) =
      firstSection certificateLabel .none (lines text'.toList) := by
    rw [← firstSection_nonempty, h, firstSection_nonempty]
  simp only [readCertificate, hsection]

/-! ## Line endings -/

/-- A character, or the given ending in place of a line feed. -/
def Ending.spell (ending : Ending) (c : Char) : List Char :=
  if c = '\n' then ending.chars else [c]

/-- The text with that ending in place of each line feed. -/
def Ending.respell (ending : Ending) (text : String) : String :=
  String.ofList (text.toList.flatMap ending.spell)

theorem nonempty_append (ls ls' : List (List Char)) :
    nonempty (ls ++ ls') = nonempty ls ++ nonempty ls' :=
  List.filter_append ls ls'

theorem Ending.nonempty_lines (ending : Ending) : nonempty ending.lines = [] := by
  cases ending <;> rfl

/-- An ending that takes two characters puts an empty line between them, and no other line. -/
theorem nonempty_linesAfter_spell (ending : Ending) (line cs : List Char) :
    nonempty (linesAfter [] line (cs.flatMap ending.spell)) =
      nonempty (linesAfter [] line cs) := by
  induction cs generalizing line with
  | nil => rfl
  | cons c cs ih =>
    by_cases hfeed : c = '\n'
    · subst hfeed
      have hspell : ('\n' :: cs).flatMap ending.spell =
          ending.chars ++ cs.flatMap ending.spell := rfl
      -- Either way the line so far ends here; the other ending may put an empty line behind it.
      have hlines : linesAfter [] line ('\n' :: cs) = [line.reverse] ++ lines cs :=
        linesAfter_ending_append line .lf cs
      have hrest : nonempty (lines (cs.flatMap ending.spell)) = nonempty (lines cs) := ih []
      calc nonempty (linesAfter [] line (('\n' :: cs).flatMap ending.spell))
          = nonempty ([line.reverse] ++ (ending.lines ++ lines (cs.flatMap ending.spell))) := by
            rw [hspell, linesAfter_ending_append]
            rfl
        _ = nonempty [line.reverse] ++ nonempty (lines cs) := by
            rw [nonempty_append, nonempty_append, ending.nonempty_lines, hrest, List.nil_append]
        _ = nonempty (linesAfter [] line ('\n' :: cs)) := by
            rw [hlines, nonempty_append]
    · have hspell : (c :: cs).flatMap ending.spell = c :: cs.flatMap ending.spell := by
        simp [Ending.spell, hfeed]
      rw [hspell]
      cases hends : endsLine c with
      | true =>
        have hafter (text : List Char) :
            linesAfter [] line (c :: text) = [line.reverse] ++ linesAfter [] [] text := by
          rw [linesAfter, if_pos hends]
          exact linesAfter_eq_append [line.reverse] [] text
        simp only [hafter, nonempty_append, ih]
      | false =>
        simp only [linesAfter, hends, Bool.false_eq_true, ↓reduceIte]
        exact ih (c :: line)

theorem nonempty_lines_respell (ending : Ending) (text : String) :
    nonempty (lines (ending.respell text).toList) = nonempty (lines text.toList) := by
  rw [Ending.respell, String.toList_ofList]
  exact nonempty_linesAfter_spell ending [] text.toList

/-! ## More text -/

/-- Lines that have become more: others come behind them, and the last of them may have become
longer. -/
inductive Grown : List (List Char) → List (List Char) → Prop where
  | nil (more : List (List Char)) : Grown [] more
  | last (line tail : List Char) (more : List (List Char)) : Grown [line] ((line ++ tail) :: more)
  | cons (line : List Char) {ls ls' : List (List Char)} (h : Grown ls ls') :
      Grown (line :: ls) (line :: ls')

theorem grown_linesAfter_append (line text more : List Char) :
    Grown (linesAfter [] line text) (linesAfter [] line (text ++ more)) := by
  induction text generalizing line with
  | nil =>
    cases line with
    | nil => exact .nil _
    | cons c line =>
      obtain ⟨tail, behind, hlines⟩ := exists_linesAfter (List.cons_ne_nil c line) more
      rw [List.nil_append, hlines]
      exact .last (c :: line).reverse tail behind
  | cons c cs ih =>
    simp only [List.cons_append, linesAfter]
    split
    · rw [linesAfter_eq_append, linesAfter_eq_append [line.reverse]]
      exact .cons line.reverse (ih [])
    · exact ih (c :: line)

/-- A line that ends the section still ends it when it becomes longer. -/
theorem readLine_append_of_decoded {c : Collected} {line label : List Char} {contents : List UInt8}
    (h : readLine c line = .ok (.decoded label contents)) (tail : List Char) :
    readLine c (line ++ tail) = .ok (.decoded label contents) := by
  rcases readLine_cases h with ⟨_, -, heq⟩ | ⟨-, heq⟩ | ⟨label', hlabel, hend, hdecoded⟩ |
    ⟨_, -, -, -, heq⟩
  · cases heq
  · cases heq
  · rcases hdecoded with heq | ⟨contents', hcontents, heq⟩
    · cases heq
    · cases heq
      obtain ⟨more, rfl⟩ := List.isPrefixOf_iff_prefix.1 hend
      calc readLine c (endMarker label ++ more ++ tail)
          = readLine c (endMarker label ++ (more ++ tail)) := by rw [List.append_assoc]
        _ = .ok (if label ∈ knownLabels then .decoded label contents else .going .none) :=
            readLine_endMarker hlabel hcontents (more ++ tail)
        _ = readLine c (endMarker label ++ more) := (readLine_endMarker hlabel hcontents more).symm
        _ = .ok (.decoded label contents) := h
  · cases heq

/-- A section that is found in some lines is found in more lines. -/
theorem firstSection_of_grown {ls ls' : List (List Char)} (hgrown : Grown ls ls') {c : Collected}
    {contents : List UInt8} (h : firstSection wanted c ls = .ok (some contents)) :
    firstSection wanted c ls' = .ok (some contents) := by
  have hend (c : Collected) : firstSection wanted c [] ≠ .ok (some contents) := by
    simp only [firstSection]
    split <;> simp
  -- The lines in front of the last one are the same, and so is what has been gathered from them.
  induction hgrown generalizing c with
  | nil more => exact absurd h (hend c)
  | last line tail more =>
    rw [firstSection] at h
    split at h
    · cases h
    · -- No section is found behind the last line, so it is found at it.
      exact absurd h (hend _)
    · next label contents' hline =>
      split at h
      · next hlabel =>
        simp only [firstSection, readLine_append_of_decoded hline tail, hlabel, ↓reduceIte]
        exact h
      · exact absurd h (hend _)
  | cons line hgrown ih =>
    simp only [firstSection] at h ⊢
    split at h
    · cases h
    · exact ih h
    · split at h
      · next hlabel =>
        simp only [hlabel, ↓reduceIte]
        exact h
      · next hlabel =>
        simp only [hlabel, ↓reduceIte]
        exact ih h

theorem readCertificate_append {text : String} {contents : List UInt8}
    (h : readCertificate text = .ok contents) (more : String) :
    readCertificate (text ++ more) = .ok contents := by
  have hgrown : Grown (lines text.toList) (lines (text ++ more).toList) := by
    rw [String.toList_append]
    exact grown_linesAfter_append [] text.toList more.toList
  have hfound := firstSection_of_grown hgrown (firstSection_of_readCertificate h)
  have hne : contents ≠ [] := by
    rintro rfl
    have hempty := readCertificate_of_firstSection (firstSection_of_readCertificate h)
    rw [h] at hempty
    cases hempty
  rw [readCertificate_of_firstSection hfound, if_neg hne]

/-- Whatever stands in a text, well formed or not, the line feeds in it can be written as any other
line ending, and what is read stays the same, be it a certificate or a fault. A certificate that is
read is still read when more text comes behind, wherever the text ends. -/
theorem readCertificate_respell_and_append (text : String) :
    (∀ ending : Ending, readCertificate (ending.respell text) = readCertificate text) ∧
    ∀ contents : List UInt8, readCertificate text = .ok contents →
      ∀ more : String, readCertificate (text ++ more) = .ok contents :=
  ⟨fun ending => readCertificate_congr (nonempty_lines_respell ending text),
    fun _ h more => readCertificate_append h more⟩

/-- A certificate whose last line has no ending, before a line that does not even begin anew. -/
theorem readCertificate_respell_and_append_unfinishedLine :
    readCertificate "-----BEGIN CERTIFICATE-----\nAQI=\n-----END CERTIFICATE-----" = .ok [1, 2] ∧
      readCertificate ("-----BEGIN CERTIFICATE-----\nAQI=\n-----END CERTIFICATE-----" ++
        "-----BEGIN CERTIFICATE") = .ok [1, 2] := by
  have hread : readCertificate "-----BEGIN CERTIFICATE-----\nAQI=\n-----END CERTIFICATE-----" =
      .ok [1, 2] := rfl
  exact ⟨hread, (readCertificate_respell_and_append _).2 [1, 2] hread "-----BEGIN CERTIFICATE"⟩

end DeviceIdentity.Pem
