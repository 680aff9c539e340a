import DeviceIdentity.Pem.Section
import DeviceIdentity.Proofs.Pem.Base64

/-!
# Sections in lines

What the line reader makes of a text that is put together from lines, whichever way each of them
ends. Lines outside of sections leave the reader as it is, a section without the wanted label leaves
it as it was before, and the first one with that label is what is found.
-/
namespace DeviceIdentity.Pem

/-! ## Lines -/

/-- How a line ends. -/
inductive Ending where
  | lf
  | cr
  | crlf

namespace Ending

/-- The characters of an ending. -/
def chars : Ending → List Char
  | lf => ['\n']
  | cr => ['\r']
  | crlf => ['\r', '\n']

/-- The lines that the reader sees inside of an ending: both characters of the long one end a
line. -/
def lines : Ending → List (List Char)
  | lf => []
  | cr => []
  | crlf => [[]]

end Ending

theorem whole_of_all {cs : List Char} (h : (cs.all fun c => !endsLine c) = true) :
    ∀ c ∈ cs, endsLine c = false := by
  intro c hc
  have hc := List.all_eq_true.1 h c hc
  rwa [Bool.not_eq_true'] at hc

/-- A complete line: characters that end no line, and an ending. -/
structure Line where
  content : List Char
  ending : Ending
  whole : ∀ c ∈ content, endsLine c = false

namespace Line

/-- The characters of a line. -/
def chars (l : Line) : List Char := l.content ++ l.ending.chars

/-- The lines that the reader sees. -/
def lines (l : Line) : List (List Char) := l.content :: l.ending.lines

theorem flatten_lines (l : Line) : l.lines.flatten = l.content := by
  cases hending : l.ending <;> simp [lines, hending, Ending.lines]

end Line

theorem linesAfter_eq_append (before : List (List Char)) (line text : List Char) :
    linesAfter before line text = before.reverse ++ linesAfter [] line text := by
  induction text generalizing before line with
  | nil =>
    unfold linesAfter
    split <;> simp
  | cons c cs ih =>
    unfold linesAfter
    split
    · rw [ih, ih [line.reverse]]
      simp
    · exact ih before (c :: line)

theorem linesAfter_whole {content : List Char} (h : ∀ c ∈ content, endsLine c = false)
    (before : List (List Char)) (line rest : List Char) :
    linesAfter before line (content ++ rest) =
      linesAfter before (content.reverse ++ line) rest := by
  induction content generalizing line with
  | nil => rfl
  | cons c cs ih =>
    have hc := h c List.mem_cons_self
    rw [List.cons_append, linesAfter, hc]
    simp only [Bool.false_eq_true, ↓reduceIte, List.reverse_cons, List.append_assoc]
    exact ih (fun c' hc' => h c' (List.mem_cons_of_mem _ hc')) (c :: line)

theorem linesAfter_ending_append (line : List Char) (ending : Ending) (rest : List Char) :
    linesAfter [] line (ending.chars ++ rest) = line.reverse :: (ending.lines ++ lines rest) := by
  cases ending with
  | lf => exact linesAfter_eq_append [line.reverse] [] rest
  | cr => exact linesAfter_eq_append [line.reverse] [] rest
  | crlf => exact linesAfter_eq_append [[], line.reverse] [] rest

/-- A complete line is read apart from what comes after it. -/
theorem lines_line_append (l : Line) (rest : List Char) :
    lines (l.chars ++ rest) = l.lines ++ lines rest := by
  rw [lines, Line.chars, List.append_assoc, linesAfter_whole l.whole, List.append_nil,
    linesAfter_ending_append, List.reverse_reverse]
  rfl

theorem lines_flatMap_append (ls : List Line) (rest : List Char) :
    lines (ls.flatMap Line.chars ++ rest) = ls.flatMap Line.lines ++ lines rest := by
  induction ls with
  | nil => rfl
  | cons l ls ih =>
    rw [List.flatMap_cons, List.append_assoc, lines_line_append, ih, List.flatMap_cons,
      List.append_assoc]

/-- A line that has begun is the first one, whatever comes after it. -/
theorem exists_linesAfter {line : List Char} (h : line ≠ []) (rest : List Char) :
    ∃ tail more, linesAfter [] line rest = (line.reverse ++ tail) :: more := by
  induction rest generalizing line with
  | nil =>
    refine ⟨[], [], ?_⟩
    simp [linesAfter, h]
  | cons c cs ih =>
    unfold linesAfter
    split
    · refine ⟨[], lines cs, ?_⟩
      rw [linesAfter_eq_append]
      simp [lines]
    · obtain ⟨tail, more, hlines⟩ := ih (List.cons_ne_nil c line)
      refine ⟨c :: tail, more, ?_⟩
      rw [hlines, List.reverse_cons, List.append_assoc]
      rfl

theorem exists_lines_append {content : List Char} (hne : content ≠ [])
    (h : ∀ c ∈ content, endsLine c = false) (rest : List Char) :
    ∃ tail more, lines (content ++ rest) = (content ++ tail) :: more := by
  obtain ⟨tail, more, hlines⟩ :=
    exists_linesAfter (mt List.reverse_eq_nil_iff.1 hne) rest
  refine ⟨tail, more, ?_⟩
  rw [lines, linesAfter_whole h, List.append_nil, hlines, List.reverse_reverse]

/-! ## Markers -/

theorem dashes_of_notMem {cs : List Char} (h : '-' ∉ cs) (count : Nat) (after : List Char) :
    dashes count after cs = (count, after) := by
  induction cs with
  | nil => rfl
  | cons c cs ih =>
    have hc : c ≠ '-' := fun he => h (he ▸ List.mem_cons_self)
    rw [dashes, if_neg hc]
    split
    · exact ih (fun hmem => h (List.mem_cons_of_mem _ hmem))
    · rfl

/-- The label of a line that begins a section. -/
theorem label?_append {label : List Char} (h : '-' ∉ label) :
    label? (label ++ "-----".toList) = some label := by
  have hreverse : (label ++ "-----".toList).reverse =
      '-' :: '-' :: '-' :: '-' :: '-' :: label.reverse := by
    simp
  have hdashes := dashes_of_notMem (mt List.mem_reverse.1 h) 5 label.reverse
  simp only [label?, hreverse, dashes, ↓reduceIte, hdashes, List.reverse_reverse]

theorem beginMarker_eq :
    beginMarker = ['-', '-', '-', '-', '-', 'B', 'E', 'G', 'I', 'N', ' '] := by
  decide

theorem endMarker_eq (label : List Char) :
    endMarker label =
      ['-', '-', '-', '-', '-', 'E', 'N', 'D', ' '] ++ label ++ "-----".toList := by
  refine congrArg (fun cs => cs ++ label ++ "-----".toList) ?_
  decide

/-- The line that begins a section with that label. -/
def beginLine (label : List Char) : List Char := beginMarker ++ label ++ "-----".toList

theorem beginMarker_isPrefixOf_beginLine (label : List Char) :
    beginMarker.isPrefixOf (beginLine label) = true := by
  rw [List.isPrefixOf_iff_prefix, beginLine, List.append_assoc]
  exact List.prefix_append _ _

theorem beginMarker_not_isPrefixOf_endMarker (label tail : List Char) :
    beginMarker.isPrefixOf (endMarker label ++ tail) = false := by
  rw [beginMarker_eq, endMarker_eq]
  rfl

theorem not_isPrefixOf_of_dash {marker line : List Char} (hmarker : '-' ∈ marker)
    (hline : '-' ∉ line) : marker.isPrefixOf line = false := by
  rw [Bool.eq_false_iff]
  intro hmarked
  exact hline ((List.isPrefixOf_iff_prefix.1 hmarked).subset hmarker)

/-! ## Reading -/

theorem readLine_beginLine {label : List Char} (h : '-' ∉ label) (c : Collected) :
    readLine c (beginLine label) = .ok (.going { c with label := some label }) := by
  have hdrop : (beginLine label).drop beginMarker.length = label ++ "-----".toList := by
    rw [beginLine, List.append_assoc, List.drop_left]
  rw [readLine, beginMarker_isPrefixOf_beginLine, if_pos rfl, hdrop, label?_append h]

theorem readLine_outside {line : List Char} (h : beginMarker.isPrefixOf line = false) :
    readLine .none line = .ok (.going .none) := by
  rw [readLine, h]
  rfl

theorem readLine_inside {line : List Char} (h : '-' ∉ line) (label : List Char)
    (body : List (List Char)) :
    readLine ⟨some label, body⟩ line = .ok (.going ⟨some label, line :: body⟩) := by
  have hbegin : beginMarker.isPrefixOf line = false :=
    not_isPrefixOf_of_dash (by decide) h
  have hend : (endMarker label).isPrefixOf line = false :=
    not_isPrefixOf_of_dash (by rw [endMarker_eq]; exact List.mem_cons_self) h
  simp only [readLine, hbegin, hend, Bool.false_eq_true, ↓reduceIte]

/-- The line that ends a section. What has been gathered is decoded if the label is known, and
dropped otherwise. -/
theorem readLine_endMarker {c : Collected} {label contents : List _} (hlabel : c.label = some label)
    (h : Base64.decode c.text = .ok contents) (tail : List Char) :
    readLine c (endMarker label ++ tail) =
      .ok (if label ∈ knownLabels then .decoded label contents else .going .none) := by
  have hend : (endMarker label).isPrefixOf (endMarker label ++ tail) = true :=
    List.isPrefixOf_iff_prefix.2 (List.prefix_append _ _)
  simp only [readLine, beginMarker_not_isPrefixOf_endMarker, hlabel, hend, h, Bool.false_eq_true,
    ↓reduceIte]
  split <;> rfl

variable {wanted : List Char}

/-- Lines outside of sections are passed over. -/
theorem firstSection_outside {ls : List (List Char)}
    (h : ∀ line ∈ ls, beginMarker.isPrefixOf line = false) (rest : List (List Char)) :
    firstSection wanted .none (ls ++ rest) = firstSection wanted .none rest := by
  induction ls with
  | nil => rfl
  | cons line ls ih =>
    rw [List.cons_append, firstSection, readLine_outside (h line List.mem_cons_self)]
    exact ih fun line' hline' => h line' (List.mem_cons_of_mem _ hline')

/-- Lines without dashes are gathered inside of a section. -/
theorem firstSection_inside {ls : List (List Char)} (h : ∀ line ∈ ls, '-' ∉ line)
    (label : List Char) (body rest : List (List Char)) :
    firstSection wanted ⟨some label, body⟩ (ls ++ rest) =
      firstSection wanted ⟨some label, ls.reverse ++ body⟩ rest := by
  induction ls generalizing body with
  | nil => rfl
  | cons line ls ih =>
    rw [List.cons_append, firstSection, readLine_inside (h line List.mem_cons_self),
      List.reverse_cons, List.append_assoc]
    exact ih (fun line' hline' => h line' (List.mem_cons_of_mem _ hline')) (line :: body)

/-- A section whose lines spell its contents is what is looked for, or the reader is after it as it
was before. -/
theorem firstSection_beginLine {label : List Char} {contents : List UInt8} {ls : List (List Char)}
    (hknown : wanted ∈ knownLabels) (hlabel : '-' ∉ label)
    (h : Base64.Spells ls.flatten contents) (tail : List Char) (rest : List (List Char)) :
    firstSection wanted .none (beginLine label :: (ls ++ (endMarker label ++ tail) :: rest)) =
      if label = wanted then .ok (some contents) else firstSection wanted .none rest := by
  have hinside : ∀ line ∈ ls, '-' ∉ line := fun line hline hmem =>
    h.dash_notMem (List.mem_flatten.2 ⟨line, hline, hmem⟩)
  have htext : Collected.text ⟨some label, ls.reverse ++ []⟩ = ls.flatten := by
    rw [Collected.text, List.append_nil, List.reverse_reverse]
  rw [firstSection, readLine_beginLine hlabel]
  simp only [Collected.none, firstSection_inside hinside]
  rw [firstSection, readLine_endMarker rfl (htext ▸ h.decode_eq_ok)]
  by_cases hwanted : label = wanted
  · subst hwanted
    simp only [hknown, ↓reduceIte]
  · by_cases hlabelKnown : label ∈ knownLabels
    · simp only [hlabelKnown, hwanted, ↓reduceIte]
      rfl
    · simp only [hlabelKnown, hwanted, ↓reduceIte]
      rfl

end DeviceIdentity.Pem
