import DeviceIdentity.Pem.Base64

/-!
# Base64 there and back

Reading the base64 text of bytes gives the bytes back, wherever blanks are put into the text. The
symbols of a text stand between the two: a text spells bytes if it is made of their symbols, and
each four symbols are three bytes, with fewer bytes in the last four.
-/
namespace DeviceIdentity.Pem.Base64

/-! ## Symbols and characters -/

namespace Symbol

/-- The character of a symbol. -/
def char : Symbol → Char
  | bits n => letter n
  | padding => '='

/-- There is a character of the symbol. -/
def Writable : Symbol → Prop
  | bits n => n < 64
  | padding => True

/-- Each character is read as the symbol that it was written for. It is no blank, and no dash. -/
theorem Writable.read {s : Symbol} (h : s.Writable) :
    symbol? s.char = some s ∧ isBlank s.char = false ∧ s.char ≠ '-' := by
  have hletters : ∀ n : Fin 64,
      symbol? (letter n) = some (.bits n) ∧ isBlank (letter n) = false ∧ letter n ≠ '-' := by
    decide
  cases s with
  | bits n => exact hletters ⟨n, h⟩
  | padding => decide

end Symbol

/-- The symbols that stand for bytes. -/
def symbols : List UInt8 → List Symbol
  | [] => []
  | [a] => [.bits (a.toNat / 4), .bits (a.toNat % 4 * 16), .padding, .padding]
  | [a, b] =>
    [.bits (a.toNat / 4), .bits (a.toNat % 4 * 16 + b.toNat / 16), .bits (b.toNat % 16 * 4),
      .padding]
  | a :: b :: c :: rest =>
    .bits (a.toNat / 4) :: .bits (a.toNat % 4 * 16 + b.toNat / 16) ::
      .bits (b.toNat % 16 * 4 + c.toNat / 64) :: .bits (c.toNat % 64) :: symbols rest

theorem encode_eq_map_symbols (bytes : List UInt8) :
    encode bytes = (symbols bytes).map Symbol.char := by
  fun_induction encode bytes with
  | case1 => rfl
  | case2 a => rfl
  | case3 a b => rfl
  | case4 a b c rest ih => simp only [symbols, List.map_cons, Symbol.char, ih]

theorem writable_of_mem_symbols {bytes : List UInt8} {s : Symbol} (h : s ∈ symbols bytes) :
    s.Writable := by
  fun_induction symbols bytes with
  | case1 => cases h
  | case2 a =>
    have ha := a.toNat_lt
    simp only [List.mem_cons, List.not_mem_nil, or_false] at h
    rcases h with rfl | rfl | rfl | rfl <;> simp only [Symbol.Writable] <;> omega
  | case3 a b =>
    have ha := a.toNat_lt
    have hb := b.toNat_lt
    simp only [List.mem_cons, List.not_mem_nil, or_false] at h
    rcases h with rfl | rfl | rfl | rfl <;> simp only [Symbol.Writable] <;> omega
  | case4 a b c rest ih =>
    have ha := a.toNat_lt
    have hb := b.toNat_lt
    have hc := c.toNat_lt
    simp only [List.mem_cons] at h
    rcases h with rfl | rfl | rfl | rfl | h
    · simp only [Symbol.Writable]; omega
    · simp only [Symbol.Writable]; omega
    · simp only [Symbol.Writable]; omega
    · simp only [Symbol.Writable]; omega
    · exact ih h

/-! ## Texts -/

/-- The text is the base64 text of the bytes, with blanks anywhere in it. -/
def Spells (text : List Char) (bytes : List UInt8) : Prop :=
  text.filter (fun c => !isBlank c) = encode bytes

instance (text : List Char) (bytes : List UInt8) : Decidable (Spells text bytes) :=
  inferInstanceAs (Decidable (text.filter (fun c => !isBlank c) = encode bytes))

theorem symbolsAfter_eq {text : List Char} {written : List Symbol}
    (h : text.filter (fun c => !isBlank c) = written.map Symbol.char)
    (hwritable : ∀ s ∈ written, s.Writable) (before : List Symbol) :
    symbolsAfter before text = (before.reverse ++ written, none) := by
  induction text generalizing before written with
  | nil =>
    have hnil : written = [] := List.map_eq_nil_iff.1 h.symm
    rw [hnil, List.append_nil]
    rfl
  | cons c cs ih =>
    cases hc : isBlank c with
    | true =>
      rw [List.filter_cons_of_neg (by simp [hc])] at h
      simp only [symbolsAfter, hc, ↓reduceIte]
      exact ih h hwritable before
    | false =>
      rw [List.filter_cons_of_pos (by simp [hc])] at h
      obtain ⟨s, rest, rfl, rfl, hrest⟩ := List.map_eq_cons_iff.1 h.symm
      have hs := (hwritable s List.mem_cons_self).read
      simp only [symbolsAfter, hc, Bool.false_eq_true, ↓reduceIte, hs.1]
      rw [ih hrest.symm (fun s' hs' => hwritable s' (List.mem_cons_of_mem _ hs')) (s :: before),
        List.reverse_cons, List.append_assoc]
      rfl

namespace Spells

variable {text : List Char} {bytes : List UInt8}

theorem symbolsAfter_nil (h : Spells text bytes) :
    symbolsAfter [] text = (symbols bytes, none) :=
  symbolsAfter_eq (h.trans (encode_eq_map_symbols bytes)) (fun _ => writable_of_mem_symbols) []

/-- A text that spells bytes has no dash, so no line of it is taken for a marker. -/
theorem dash_notMem (h : Spells text bytes) : '-' ∉ text := by
  intro hmem
  have hfilter : '-' ∈ text.filter fun c => !isBlank c := List.mem_filter.2 ⟨hmem, rfl⟩
  rw [show text.filter _ = encode bytes from h, encode_eq_map_symbols] at hfilter
  obtain ⟨s, hs, hchar⟩ := List.mem_map.1 hfilter
  exact (writable_of_mem_symbols hs).read.2.2 hchar

end Spells

/-- The base64 text of bytes spells them. -/
theorem spells_encode (bytes : List UInt8) : Spells (encode bytes) bytes := by
  refine List.filter_eq_self.2 ?_
  intro c hc
  rw [encode_eq_map_symbols] at hc
  obtain ⟨s, hs, rfl⟩ := List.mem_map.1 hc
  rw [(writable_of_mem_symbols hs).read.2.1]
  rfl

/-! ## Bytes -/

theorem threeBytes_eq (a b c : UInt8) :
    threeBytes (a.toNat / 4) (a.toNat % 4 * 16 + b.toNat / 16) (b.toNat % 16 * 4 + c.toNat / 64)
      (c.toNat % 64) = [a, b, c] := by
  have ha := a.toNat_lt
  have hb := b.toNat_lt
  have hc := c.toNat_lt
  have h₁ : a.toNat / 4 * 4 + (a.toNat % 4 * 16 + b.toNat / 16) / 16 = a.toNat := by omega
  have h₂ : (a.toNat % 4 * 16 + b.toNat / 16) % 16 * 16 + (b.toNat % 16 * 4 + c.toNat / 64) / 4 =
      b.toNat := by omega
  have h₃ : (b.toNat % 16 * 4 + c.toNat / 64) % 4 * 64 + c.toNat % 64 = c.toNat := by omega
  simp only [threeBytes, h₁, h₂, h₃, UInt8.ofNat_toNat]

theorem quad_symbols (a b c : UInt8) : quad (symbols [a, b, c]) = .ok [a, b, c] :=
  congrArg Except.ok (threeBytes_eq a b c)

/-- Of the last four symbols, padding stands for the bytes that are missing. -/
theorem lastQuad_symbols {bytes : List UInt8} (h : bytes.length ≤ 3) :
    lastQuad (symbols bytes) = .ok bytes := by
  match bytes, h with
  | [], _ => rfl
  | [a], _ => exact congrArg (fun bytes => Except.ok (bytes.take 1)) (threeBytes_eq a 0 0)
  | [a, b], _ => exact congrArg (fun bytes => Except.ok (bytes.take 2)) (threeBytes_eq a b 0)
  | [a, b, c], _ => exact congrArg Except.ok (threeBytes_eq a b c)

/-- More than three bytes are three bytes and others. -/
theorem exists_three_of_lt_length {bytes : List UInt8} (h : 3 < bytes.length) :
    ∃ a b c rest, bytes = a :: b :: c :: rest ∧ rest ≠ [] := by
  match bytes, h with
  | a :: b :: c :: d :: rest, _ => exact ⟨a, b, c, d :: rest, rfl, List.cons_ne_nil d rest⟩

theorem length_symbols_of_le_three {bytes : List UInt8} (h : bytes.length ≤ 3) :
    (symbols bytes).length ≤ 4 := by
  match bytes, h with
  | [], _ => exact Nat.zero_le 4
  | [a], _ => exact Nat.le_refl 4
  | [a, b], _ => exact Nat.le_refl 4
  | [a, b, c], _ => exact Nat.le_refl 4

theorem length_symbols_pos {bytes : List UInt8} (h : bytes ≠ []) : 0 < (symbols bytes).length := by
  match bytes, h with
  | [a], _ => exact Nat.succ_pos _
  | [a, b], _ => exact Nat.succ_pos _
  | a :: b :: c :: rest, _ => exact Nat.succ_pos _

theorem length_symbols_of_le_six {bytes : List UInt8} (h : bytes.length ≤ 6) :
    (symbols bytes).length ≤ 8 := by
  by_cases hthree : bytes.length ≤ 3
  · exact Nat.le_trans (length_symbols_of_le_three hthree) (by omega)
  · obtain ⟨a, b, c, rest, rfl, -⟩ := exists_three_of_lt_length (Nat.lt_of_not_le hthree)
    simp only [List.length_cons] at h
    have hrest : rest.length ≤ 3 := by omega
    have hlength := length_symbols_of_le_three hrest
    simp only [symbols, List.length_cons]
    omega

theorem lastBlock_symbols {bytes : List UInt8} (h : bytes.length ≤ 6) :
    lastBlock (symbols bytes) = .ok bytes := by
  by_cases hthree : bytes.length ≤ 3
  · rw [lastBlock, if_pos (length_symbols_of_le_three hthree)]
    exact lastQuad_symbols hthree
  · obtain ⟨a, b, c, rest, rfl, hrest⟩ := exists_three_of_lt_length (Nat.lt_of_not_le hthree)
    simp only [List.length_cons] at h
    have hlength : ¬ (symbols (a :: b :: c :: rest)).length ≤ 4 := by
      have hpos := length_symbols_pos hrest
      simp only [symbols, List.length_cons]
      omega
    have htake : (symbols (a :: b :: c :: rest)).take 4 = symbols [a, b, c] := rfl
    have hdrop : (symbols (a :: b :: c :: rest)).drop 4 = symbols rest := rfl
    rw [lastBlock, if_neg hlength, htake, hdrop, quad_symbols, lastQuad_symbols (by omega)]
    rfl

theorem blocksAfter_of_length_le {written : List Symbol} (h : written.length ≤ 8)
    (before : List UInt8) : blocksAfter before written = .ok (before.reverse, written) := by
  rw [blocksAfter]
  rintro a b c d e f g h' next rest rfl
  simp only [List.length_cons] at h
  omega

/-- A block that is not the last one is six bytes. -/
theorem blocksAfter_block (a b c d e f : UInt8) {rest : List UInt8} (h : rest ≠ [])
    (before : List UInt8) :
    blocksAfter before (symbols (a :: b :: c :: d :: e :: f :: rest)) =
      blocksAfter ([a, b, c, d, e, f].reverse ++ before) (symbols rest) := by
  obtain ⟨next, more, hmore⟩ := List.exists_cons_of_length_pos (length_symbols_pos h)
  have habc := quad_symbols a b c
  have hdef := quad_symbols d e f
  simp only [symbols] at habc hdef
  simp only [symbols, hmore, blocksAfter, habc, hdef]
  rfl

/-- The blocks of a text are read six bytes at a time, and what is left over is at most one block
more. -/
theorem blocksAfter_symbols (bytes before : List UInt8) :
    ∃ first last, blocksAfter before (symbols bytes) = .ok (before.reverse ++ first, symbols last) ∧
      bytes = first ++ last ∧ last.length ≤ 6 := by
  by_cases hsix : bytes.length ≤ 6
  · refine ⟨[], bytes, ?_, rfl, hsix⟩
    rw [blocksAfter_of_length_le (length_symbols_of_le_six hsix), List.append_nil]
  · have hbytes : 3 < bytes.length := by omega
    obtain ⟨a, b, c, more, rfl, -⟩ := exists_three_of_lt_length hbytes
    simp only [List.length_cons] at hsix
    have hmore : 3 < more.length := by omega
    obtain ⟨d, e, f, rest, rfl, hrest⟩ := exists_three_of_lt_length hmore
    obtain ⟨first, last, hblocks, rfl, hlast⟩ :=
      blocksAfter_symbols rest ([a, b, c, d, e, f].reverse ++ before)
    refine ⟨[a, b, c, d, e, f] ++ first, last, ?_, rfl, hlast⟩
    rw [blocksAfter_block a b c d e f hrest, hblocks, List.reverse_append, List.reverse_reverse,
      List.append_assoc]
termination_by bytes.length

/-- A text that spells bytes is decoded to them. -/
theorem Spells.decode_eq_ok {text : List Char} {bytes : List UInt8} (h : Spells text bytes) :
    decode text = .ok bytes := by
  obtain ⟨first, last, hblocks, rfl, hlast⟩ := blocksAfter_symbols bytes []
  simp only [decode, h.symbolsAfter_nil, hblocks, bind, Except.bind, lastBlock_symbols hlast]
  rfl

end DeviceIdentity.Pem.Base64
