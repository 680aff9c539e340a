import DeviceIdentity.Pem.Base64
import DeviceIdentity.Proofs.Outcome

/-!
# How much a text holds

The symbols of a base64 text tell how many bytes it stands for: three for each four letters, and two
or one for those that are left over. So a text holds more bytes as soon as one symbol more stands in
front of it, if it can be decoded at all: only blanks can be put there unnoticed.
-/
namespace DeviceIdentity.Pem.Base64

/-! ## Symbols -/

/-- The symbols stand for that many bytes. -/
inductive Holds : List Symbol → Nat → Prop where
  | nil : Holds [] 0
  | one (a b : Nat) (padding : List Symbol) (h : padding = [] ∨ padding = [.padding, .padding]) :
      Holds (.bits a :: .bits b :: padding) 1
  | two (a b c : Nat) (padding : List Symbol) (h : padding = [] ∨ padding = [.padding]) :
      Holds (.bits a :: .bits b :: .bits c :: padding) 2
  | three (a b c d : Nat) {rest : List Symbol} {size : Nat} (h : Holds rest size) :
      Holds (.bits a :: .bits b :: .bits c :: .bits d :: rest) (size + 3)

/-- A symbol that is no padding. -/
def Symbol.isBits : Symbol → Bool
  | bits _ => true
  | padding => false

/-- The number of bytes decides how many letters there are. -/
theorem Holds.countP_eq {symbols : List Symbol} {size : Nat} (h : Holds symbols size) :
    symbols.countP Symbol.isBits = (4 * size + 2) / 3 := by
  induction h with
  | nil => rfl
  | one a b padding h => rcases h with rfl | rfl <;> simp [List.countP_cons, Symbol.isBits]
  | two a b c padding h => rcases h with rfl | rfl <;> simp [List.countP_cons, Symbol.isBits]
  | three a b c d h ih =>
    simp only [List.countP_cons, Symbol.isBits, ↓reduceIte]
    omega

/-- Padding comes behind letters only. -/
theorem Holds.isBits_of_cons {s : Symbol} {rest : List Symbol} {size : Nat}
    (h : Holds (s :: rest) size) : s.isBits = true := by
  cases h <;> rfl

/-- If symbols stand for as many bytes as some that end them, nothing stands in front of these. -/
theorem Holds.eq_nil_of_append {first symbols : List Symbol} {size : Nat}
    (h : Holds (first ++ symbols) size) (h' : Holds symbols size) : first = [] := by
  have hnone : first.countP Symbol.isBits = 0 := by
    have hcount := h.countP_eq
    rw [List.countP_append, h'.countP_eq] at hcount
    omega
  -- Without letters there could only be padding, but no text begins with padding.
  cases first with
  | nil => rfl
  | cons s first => exact absurd h.isBits_of_cons (List.countP_eq_zero.1 hnone s List.mem_cons_self)

/-! ## Reading symbols -/

theorem symbolsAfter_eq_append (before : List Symbol) (text : List Char) :
    symbolsAfter before text =
      (before.reverse ++ (symbolsAfter [] text).1, (symbolsAfter [] text).2) := by
  induction text generalizing before with
  | nil => simp [symbolsAfter]
  | cons c cs ih =>
    simp only [symbolsAfter]
    split
    · exact ih before
    · split
      · next s _ =>
        rw [ih (s :: before), ih [s]]
        simp
      · simp

/-- What stands behind a text is read if the text itself was read to its end. -/
theorem symbolsAfter_append (before : List Symbol) (text more : List Char) :
    symbolsAfter before (text ++ more) =
      match symbolsAfter before text with
      | (symbols, none) => symbolsAfter symbols.reverse more
      | (symbols, some c) => (symbols, some c) := by
  induction text generalizing before with
  | nil => simp only [List.nil_append, symbolsAfter, List.reverse_reverse]
  | cons c cs ih =>
    simp only [List.cons_append, symbolsAfter]
    split
    · exact ih before
    · split
      · exact ih _
      · rfl

theorem symbolsAfter_of_blank {text : List Char} (h : ∀ c ∈ text, isBlank c = true)
    (before : List Symbol) : symbolsAfter before text = (before.reverse, none) := by
  induction text with
  | nil => rfl
  | cons c cs ih =>
    rw [symbolsAfter, if_pos (h c List.mem_cons_self)]
    exact ih fun c' hc' => h c' (List.mem_cons_of_mem _ hc')

/-- A text without symbols is blank. -/
theorem blank_of_symbolsAfter {text : List Char} (h : symbolsAfter [] text = ([], none)) :
    ∀ c ∈ text, isBlank c = true := by
  induction text with
  | nil => exact nofun
  | cons c cs ih =>
    simp only [symbolsAfter] at h
    split at h
    · next hblank => exact List.forall_mem_cons.2 ⟨hblank, ih h⟩
    · split at h
      · next s _ =>
        rw [symbolsAfter_eq_append] at h
        simp at h
      · cases h

/-! ## Decoding -/

theorem holds_of_quad {symbols : List Symbol} {bytes : List UInt8} (h : quad symbols = .ok bytes)
    {rest : List Symbol} {size : Nat} (hrest : Holds rest size) :
    Holds (symbols ++ rest) (bytes.length + size) := by
  unfold quad at h
  split at h
  · cases h
    rw [Nat.add_comm]
    exact .three _ _ _ _ hrest
  · cases h

theorem holds_of_lastQuad {symbols : List Symbol} {bytes : List UInt8}
    (h : lastQuad symbols = .ok bytes) : Holds symbols bytes.length := by
  unfold lastQuad at h
  split at h
  · cases h
    exact .nil
  · cases h
    exact .three _ _ _ _ .nil
  · cases h
    exact .two _ _ _ _ (.inr rfl)
  · cases h
    exact .two _ _ _ _ (.inl rfl)
  · cases h
    exact .one _ _ _ (.inr rfl)
  · cases h
    exact .one _ _ _ (.inl rfl)
  · cases h

theorem holds_of_lastBlock {symbols : List Symbol} {bytes : List UInt8}
    (h : lastBlock symbols = .ok bytes) : Holds symbols bytes.length := by
  unfold lastBlock at h
  split at h
  · exact holds_of_lastQuad h
  · simp only [bind_eq_ok_iff, pure_eq_ok_iff] at h
    obtain ⟨first, hfirst, last, hlast, rfl⟩ := h
    have hholds := holds_of_quad hfirst (holds_of_lastQuad hlast)
    rwa [List.take_append_drop, ← List.length_append] at hholds

/-- Each block stands for its own bytes, whatever the last one holds. -/
theorem holds_of_blocksAfter {before bytes : List UInt8} {symbols last : List Symbol}
    (h : blocksAfter before symbols = .ok (bytes, last)) :
    ∃ first, bytes.length = before.length + first ∧
      ∀ {size}, Holds last size → Holds symbols (first + size) := by
  fun_induction blocksAfter before symbols with
  | case1 before a b c d e f g h' next rest ih =>
    simp only [bind_eq_ok_iff] at h
    obtain ⟨front, hfront, back, hback, hrest⟩ := h
    obtain ⟨first, hlength, hholds⟩ := ih _ _ hrest
    refine ⟨front.length + back.length + first, ?_, ?_⟩
    · rw [hlength]
      simp only [List.length_append, List.length_reverse]
      omega
    · intro size hsize
      rw [Nat.add_assoc, Nat.add_assoc]
      exact holds_of_quad hfront (holds_of_quad hback (hholds hsize))
  | case2 before last' _ =>
    cases h
    exact ⟨0, by simp, fun hlast => by rwa [Nat.zero_add]⟩

/-- The symbols of a text that is decoded stand for its bytes. -/
theorem holds_of_decode {text : List Char} {bytes : List UInt8} (h : decode text = .ok bytes) :
    ∃ symbols, symbolsAfter [] text = (symbols, none) ∧ Holds symbols bytes.length := by
  simp only [decode, bind_eq_ok_iff] at h
  obtain ⟨⟨front, last⟩, hblocks, h⟩ := h
  cases hsymbols : symbolsAfter [] text with
  | mk symbols invalid =>
    rw [hsymbols] at hblocks h
    cases invalid with
    | some c => cases h
    | none =>
      simp only [bind_eq_ok_iff, pure_eq_ok_iff] at h
      obtain ⟨back, hback, rfl⟩ := h
      obtain ⟨size, hsize, hholds⟩ := holds_of_blocksAfter hblocks
      refine ⟨symbols, rfl, ?_⟩
      rw [List.length_append, hsize, List.length_nil, Nat.zero_add]
      exact hholds (holds_of_lastBlock hback)

/-- In front of a text that is decoded, blanks change nothing, and nothing else can stand there
without changing what the text holds. -/
theorem decode_eq_ok_iff_blank {front text : List Char} {bytes : List UInt8}
    (h : decode (front ++ text) = .ok bytes) :
    decode text = .ok bytes ↔ ∀ c ∈ front, isBlank c = true := by
  constructor
  · intro htext
    obtain ⟨symbols, hsymbols, hholds⟩ := holds_of_decode h
    obtain ⟨symbols', hsymbols', hholds'⟩ := holds_of_decode htext
    cases hfront : symbolsAfter [] front with
    | mk first invalid =>
      cases invalid with
      | some c =>
        rw [symbolsAfter_append, hfront] at hsymbols
        cases hsymbols
      | none =>
        have happend : first ++ symbols' = symbols := by
          rw [symbolsAfter_append, hfront] at hsymbols
          simp only [symbolsAfter_eq_append first.reverse, hsymbols', List.reverse_reverse,
            Prod.mk.injEq, and_true] at hsymbols
          exact hsymbols
        have hnil : first = [] := (happend ▸ hholds).eq_nil_of_append hholds'
        exact blank_of_symbolsAfter (hnil ▸ hfront)
  · intro hblank
    have hsame : symbolsAfter [] (front ++ text) = symbolsAfter [] text := by
      rw [symbolsAfter_append, symbolsAfter_of_blank hblank]
      rfl
    rw [← h]
    simp only [decode, hsame]

end DeviceIdentity.Pem.Base64
