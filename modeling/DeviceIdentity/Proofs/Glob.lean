import DeviceIdentity.Attribute

/-!
# What an expression accepts

An expression accepts the texts that it becomes when characters are put in place of its stars, of
each star its own, and no others. `filled` is such a text, and `Fits` says the same of what is left
of an expression and of a value.

The comparison tries the last star only. What it may still find is `Open`: what is left fits, or it
fits behind the last star for an attempt further on. Every move keeps this, also the one that
forgets a star for the next one, since behind the forgotten star the expression is `Aligned` with
the value: whatever fits for a later attempt fits with the new star taking more instead.
-/
namespace DeviceIdentity.Glob

/-! ## Filling the stars -/

/-- The text that an expression becomes with the characters of `fill i` in place of a star at
position `i`. -/
def filled (fill : Nat → List Char) (expression : List Char) : List Char :=
  (expression.mapIdx fun i c => if c = '*' then fill i else [c]).flatten

/-- The value can be had from the expression by putting characters in place of each star. -/
inductive Fits : List Char → List Char → Prop where
  | nil : Fits [] []
  | star (taken : List Char) {expression value : List Char} (rest : Fits expression value) :
      Fits ('*' :: expression) (taken ++ value)
  | char {c : Char} (hc : c ≠ '*') {expression value : List Char} (rest : Fits expression value) :
      Fits (c :: expression) (c :: value)

theorem filled_cons (fill : Nat → List Char) (c : Char) (expression : List Char) :
    filled fill (c :: expression) =
      (if c = '*' then fill 0 else [c]) ++ filled (fun i => fill (i + 1)) expression := by
  simp only [filled, List.mapIdx_cons, List.flatten_cons]

theorem fits_filled (fill : Nat → List Char) (expression : List Char) :
    Fits expression (filled fill expression) := by
  induction expression generalizing fill with
  | nil => exact .nil
  | cons c expression ih =>
    rw [filled_cons]
    by_cases hc : c = '*'
    · subst hc
      exact .star (fill 0) (ih _)
    · rw [if_neg hc]
      exact .char hc (ih _)

theorem Fits.exists_filled {expression value : List Char} (h : Fits expression value) :
    ∃ fill, value = filled fill expression := by
  induction h with
  | nil => exact ⟨fun _ => [], rfl⟩
  | star taken rest ih =>
    obtain ⟨fill, rfl⟩ := ih
    refine ⟨fun i => if i = 0 then taken else fill (i - 1), ?_⟩
    simp [filled_cons]
  | char hc rest ih =>
    obtain ⟨fill, rfl⟩ := ih
    refine ⟨fun i => fill (i - 1), ?_⟩
    simp [filled_cons, hc]

theorem fits_iff_filled {expression value : List Char} :
    Fits expression value ↔ ∃ fill, value = filled fill expression := by
  constructor
  · exact Fits.exists_filled
  · rintro ⟨fill, rfl⟩
    exact fits_filled fill expression

/-! ## What is left of an expression -/

section Fits

variable {expression value : List Char} {c : Char}

theorem fits_nil_iff : Fits [] value ↔ value = [] := by
  constructor
  · intro h
    cases h
    rfl
  · rintro rfl
    exact .nil

/-- A star may take any number of characters. -/
theorem fits_star_iff :
    Fits ('*' :: expression) value ↔ ∃ n ≤ value.length, Fits expression (value.drop n) := by
  constructor
  · intro h
    cases h with
    | star taken rest =>
      refine ⟨taken.length, by simp, ?_⟩
      rwa [List.drop_left]
    | char hc => exact absurd rfl hc
  · rintro ⟨n, -, h⟩
    exact List.take_append_drop n value ▸ .star (value.take n) h

/-- Any other character stands for itself. -/
theorem fits_char_iff (hc : c ≠ '*') :
    Fits (c :: expression) value ↔ ∃ rest, value = c :: rest ∧ Fits expression rest := by
  constructor
  · intro h
    cases h with
    | star => exact absurd rfl hc
    | char _ rest => exact ⟨_, rfl, rest⟩
  · rintro ⟨rest, rfl, h⟩
    exact .char hc h

/-- With nothing left of the value, only stars may be left. -/
theorem fits_nil_right_iff : Fits expression [] ↔ ∀ c ∈ expression, c = '*' := by
  induction expression with
  | nil => exact ⟨fun _ _ h => absurd h List.not_mem_nil, fun _ => .nil⟩
  | cons c expression ih =>
    rw [List.forall_mem_cons, ← ih]
    by_cases hc : c = '*'
    · subst hc
      simp [fits_star_iff]
    · simp [fits_char_iff hc, hc]

/-- Without stars, all characters stand for themselves. -/
theorem fits_plain_iff (hplain : '*' ∉ expression) :
    Fits expression value ↔ value = expression := by
  induction expression generalizing value with
  | nil => exact fits_nil_iff
  | cons c expression ih =>
    rw [List.mem_cons, not_or] at hplain
    simp only [fits_char_iff (Ne.symm hplain.1), ih hplain.2, exists_eq_right]

end Fits

/-! ## What is left at a position -/

variable (pattern value : Array Char)

/-- What is left of the expression from one position on fits what is left of the value from
another. -/
def FitsFrom (p v : Nat) : Prop := Fits (pattern.toList.drop p) (value.toList.drop v)

variable {pattern value} {p v : Nat}

theorem drop_eq_cons {xs : Array Char} {i : Nat} {c : Char} (h : xs[i]? = some c) :
    xs.toList.drop i = c :: xs.toList.drop (i + 1) := by
  have hi : i < xs.toList.length := lt_size_of_getElem?_eq h
  have hc : xs.toList[i] = c := by simpa [Array.getElem?_eq_getElem hi] using h
  rw [List.drop_eq_getElem_cons hi, hc]

/-- A star fits if what is behind it fits here or further on. -/
theorem fitsFrom_star_iff (hp : pattern[p]? = some '*') (hv : v ≤ value.size) :
    FitsFrom pattern value p v ↔
      ∃ n, v ≤ n ∧ n ≤ value.size ∧ FitsFrom pattern value (p + 1) n := by
  unfold FitsFrom
  rw [drop_eq_cons hp, fits_star_iff]
  simp only [List.drop_drop, List.length_drop, Array.length_toList]
  constructor
  · rintro ⟨n, hn, h⟩
    exact ⟨v + n, by omega, by omega, h⟩
  · rintro ⟨n, hvn, hn, h⟩
    refine ⟨n - v, by omega, ?_⟩
    rwa [Nat.add_sub_of_le hvn]

/-- Any other character fits if it is the next one and what is behind it fits behind that. -/
theorem fitsFrom_char_iff (hp : pattern[p]? ≠ some '*') (hv : v < value.size) :
    FitsFrom pattern value p v ↔
      (p < pattern.size ∧ pattern[p]? = value[v]?) ∧ FitsFrom pattern value (p + 1) (v + 1) := by
  have hvalue : value[v]? = some value[v] := Array.getElem?_eq_getElem hv
  unfold FitsFrom
  rw [drop_eq_cons hvalue, hvalue]
  by_cases hlt : p < pattern.size
  · have hpattern : pattern[p]? = some pattern[p] := Array.getElem?_eq_getElem hlt
    have hc : pattern[p] ≠ '*' := fun h => hp (h ▸ hpattern)
    rw [drop_eq_cons hpattern, fits_char_iff hc, hpattern]
    simp only [hlt, List.cons.injEq, Option.some.injEq, true_and]
    constructor
    · rintro ⟨rest, ⟨heq, rfl⟩, h⟩
      exact ⟨heq.symm, h⟩
    · rintro ⟨heq, h⟩
      exact ⟨_, ⟨heq.symm, rfl⟩, h⟩
  · have hnil : pattern.toList.drop p = [] := List.drop_eq_nil_of_le (Nat.le_of_not_lt hlt)
    simp [hnil, fits_nil_iff, hlt]

theorem fitsFrom_end_iff (hv : value.size ≤ v) :
    FitsFrom pattern value p v ↔ ∀ c ∈ pattern.toList.drop p, c = '*' := by
  have hnil : value.toList.drop v = [] := List.drop_eq_nil_of_le hv
  unfold FitsFrom
  rw [hnil, fits_nil_right_iff]

/-- Along a stretch without stars, as many characters of the value are used up. -/
theorem FitsFrom.forward (h : FitsFrom pattern value p v) (hv : v ≤ value.size) (n : Nat)
    (hn : p + n ≤ pattern.size) (hplain : ∀ i, p ≤ i → i < p + n → pattern[i]? ≠ some '*') :
    v + n ≤ value.size ∧ FitsFrom pattern value (p + n) (v + n) := by
  induction n with
  | zero => exact ⟨hv, h⟩
  | succ n ih =>
    obtain ⟨hvn, hfits⟩ :=
      ih (by omega) fun i hi hlt => hplain i hi (by omega)
    have hchar : pattern[p + n]? ≠ some '*' := hplain (p + n) (by omega) (by omega)
    rcases Nat.lt_or_ge (v + n) value.size with hlt | hge
    · exact ⟨hlt, ((fitsFrom_char_iff hchar hlt).1 hfits).2⟩
    · -- Of the value nothing is left, but the next character is no star.
      have hpn : pattern[p + n]? = some pattern[p + n] := Array.getElem?_eq_getElem hn
      have hall := (fitsFrom_end_iff hge).1 hfits
      rw [drop_eq_cons hpn] at hall
      exact absurd (hall _ List.mem_cons_self ▸ hpn) hchar

/-! ## What a comparison may still find -/

variable (pattern value)

/-- The comparison may still hold: what is left fits, or it fits behind the last star for a later
attempt. -/
def Open (s : State) : Prop :=
  FitsFrom pattern value s.p s.v ∨
    ∃ star, s.star = some star ∧
      ∃ v, star.tried < v ∧ v ≤ value.size ∧ FitsFrom pattern value (star.position + 1) v

/-- Behind the last star there is no other one up to the position in the expression, which is as far
from the star as the position in the value is from where the last attempt began. -/
structure Aligned (s : State) : Prop where
  ahead : ∀ star, s.star = some star → star.position + 1 + s.v = s.p + star.tried
  plain : ∀ star, s.star = some star → ∀ i, star.position < i → i < s.p → pattern[i]? ≠ some '*'

variable {pattern value} {s t : State}

theorem aligned_start : Aligned pattern .start where
  ahead _ h := by cases h
  plain _ h := by cases h

/-- What a later attempt finds from the star on, it finds from the present position on, too. -/
theorem Aligned.fitsFrom_of_later (h : Aligned pattern s) (hs : Within pattern value s)
    {star : Star} (hstar : s.star = some star) (htried : star.tried < v) (hv : v ≤ value.size)
    (hfits : FitsFrom pattern value (star.position + 1) v) :
    ∃ n, s.v < n ∧ n ≤ value.size ∧ FitsFrom pattern value s.p n := by
  have hahead := h.ahead star hstar
  have hle := hs.tried_le star hstar
  have hp := hs.p_le
  have hposition : star.position + 1 + (s.v - star.tried) = s.p := by omega
  obtain ⟨hn, hfits⟩ := hfits.forward hv (s.v - star.tried) (by omega)
    fun i hi hlt => h.plain star hstar i hi (by omega)
  exact ⟨_, by omega, hn, hposition ▸ hfits⟩

/-- If nothing is found from the present position on for more of the value, no attempt is left. -/
theorem Aligned.open_iff (h : Aligned pattern s) (hs : Within pattern value s)
    (hlater : ∀ n, s.v < n → n ≤ value.size → FitsFrom pattern value s.p n →
      FitsFrom pattern value s.p s.v) :
    Open pattern value s ↔ FitsFrom pattern value s.p s.v := by
  refine ⟨?_, .inl⟩
  rintro (hfits | ⟨star, hstar, v, htried, hv, hfits⟩)
  · exact hfits
  · obtain ⟨n, hlt, hn, hfits⟩ := h.fitsFrom_of_later hs hstar htried hv hfits
    exact hlater n hlt hn hfits

/-! ## Moves -/

/-- A move passes a star, passes the same character in both texts, or goes back to the last star. -/
theorem step_cases (hstep : step pattern value s = some t) :
    (pattern[s.p]? = some '*' ∧ t = ⟨s.p + 1, s.v, some ⟨s.p, s.v⟩⟩) ∨
    (pattern[s.p]? ≠ some '*' ∧ (s.p < pattern.size ∧ pattern[s.p]? = value[s.v]?) ∧
      t = ⟨s.p + 1, s.v + 1, s.star⟩) ∨
    (pattern[s.p]? ≠ some '*' ∧ ¬ (s.p < pattern.size ∧ pattern[s.p]? = value[s.v]?) ∧
      ∃ star, s.star = some star ∧
        t = ⟨star.position + 1, star.tried + 1, some ⟨star.position, star.tried + 1⟩⟩) := by
  unfold step at hstep
  split at hstep
  · next hp => exact .inl ⟨hp, (Option.some.inj hstep).symm⟩
  · next hp =>
    split at hstep
    · next hsame => exact .inr (.inl ⟨hp, hsame, (Option.some.inj hstep).symm⟩)
    · next hdiffer =>
      split at hstep
      · next star hstar =>
        exact .inr (.inr ⟨hp, hdiffer, star, hstar, (Option.some.inj hstep).symm⟩)
      · cases hstep

/-- Without a move, the next characters differ and no star was passed. -/
theorem differ_of_step_eq_none (hstep : step pattern value s = none) :
    pattern[s.p]? ≠ some '*' ∧ ¬ (s.p < pattern.size ∧ pattern[s.p]? = value[s.v]?) ∧
      s.star = none := by
  unfold step at hstep
  split at hstep
  · cases hstep
  · next hp =>
    split at hstep
    · cases hstep
    · next hdiffer =>
      split at hstep
      · cases hstep
      · next hstar => exact ⟨hp, hdiffer, hstar⟩

theorem Aligned.step (h : Aligned pattern s) (hstep : Glob.step pattern value s = some t) :
    Aligned pattern t := by
  obtain ⟨-, rfl⟩ | ⟨hp, -, rfl⟩ | ⟨-, -, star, -, rfl⟩ := step_cases hstep
  · refine ⟨?_, ?_⟩
    · rintro _ ⟨⟩
      rfl
    · rintro _ ⟨⟩ i hi hlt
      simp only at hi hlt
      omega
  · refine ⟨fun star hstar => ?_, fun star hstar i hi hlt => ?_⟩
    · have hahead := h.ahead star hstar
      simp only
      omega
    · rcases Nat.lt_succ_iff_lt_or_eq.1 hlt with hlt | rfl
      · exact h.plain star hstar i hi hlt
      · exact hp
  · refine ⟨?_, ?_⟩
    · rintro _ ⟨⟩
      rfl
    · rintro _ ⟨⟩ i hi hlt
      simp only at hi hlt
      omega

/-- Right behind a star, everything is open that begins here or further on. -/
theorem open_behind_star_iff {q n : Nat} (hn : n ≤ value.size) :
    Open pattern value ⟨q + 1, n, some ⟨q, n⟩⟩ ↔
      ∃ m, n ≤ m ∧ m ≤ value.size ∧ FitsFrom pattern value (q + 1) m := by
  constructor
  · rintro (hfits | ⟨_, ⟨⟩, m, hlt, hm, hfits⟩)
    · exact ⟨n, Nat.le_refl n, hn, hfits⟩
    · exact ⟨m, Nat.le_of_lt hlt, hm, hfits⟩
  · rintro ⟨m, hle, hm, hfits⟩
    rcases Nat.lt_or_eq_of_le hle with hlt | rfl
    · exact .inr ⟨_, rfl, m, hlt, hm, hfits⟩
    · exact .inl hfits

/-- A move loses nothing that may still be found, and adds nothing to it. -/
theorem open_step_iff (hs : Within pattern value s) (h : Aligned pattern s)
    (hv : s.v < value.size) (hstep : Glob.step pattern value s = some t) :
    Open pattern value t ↔ Open pattern value s := by
  obtain ⟨hp, rfl⟩ | ⟨hp, hsame, rfl⟩ | ⟨hp, hdiffer, star, hstar, rfl⟩ := step_cases hstep
  · -- Whatever fits further on fits here, with the star that is passed taking more.
    have hlater : ∀ n, s.v < n → n ≤ value.size → FitsFrom pattern value s.p n →
        FitsFrom pattern value s.p s.v := by
      intro n hlt hn hfits
      obtain ⟨m, hnm, hm⟩ := (fitsFrom_star_iff hp hn).1 hfits
      exact (fitsFrom_star_iff hp hs.v_le).2 ⟨m, by omega, hm⟩
    calc Open pattern value ⟨s.p + 1, s.v, some ⟨s.p, s.v⟩⟩
      _ ↔ ∃ m, s.v ≤ m ∧ m ≤ value.size ∧ FitsFrom pattern value (s.p + 1) m :=
        open_behind_star_iff hs.v_le
      _ ↔ FitsFrom pattern value s.p s.v := (fitsFrom_star_iff hp hs.v_le).symm
      _ ↔ Open pattern value s := (h.open_iff hs hlater).symm
  · have hfits : FitsFrom pattern value (s.p + 1) (s.v + 1) ↔ FitsFrom pattern value s.p s.v := by
      rw [fitsFrom_char_iff hp hv, and_iff_right hsame]
    exact or_congr_left hfits
  · have hfits : ¬ FitsFrom pattern value s.p s.v :=
      fun hfits => hdiffer ((fitsFrom_char_iff hp hv).1 hfits).1
    rw [open_behind_star_iff (Nat.lt_of_le_of_lt (hs.tried_le star hstar) hv), Open,
      or_iff_right hfits, hstar]
    constructor
    · intro hlater
      exact ⟨star, rfl, hlater⟩
    · rintro ⟨_, ⟨⟩, hlater⟩
      exact hlater

theorem not_open_of_step_eq_none (hv : s.v < value.size)
    (hstep : Glob.step pattern value s = none) : ¬ Open pattern value s := by
  obtain ⟨hp, hdiffer, hstar⟩ := differ_of_step_eq_none hstep
  rintro (hfits | ⟨star, hsome, -⟩)
  · exact hdiffer ((fitsFrom_char_iff hp hv).1 hfits).1
  · rw [hstar] at hsome
    cases hsome

/-! ## The whole comparison -/

theorem run_of_step (h : Within pattern value s) (hv : s.v < value.size)
    (hs : step pattern value s = some t) :
    run pattern value s h = run pattern value t (h.step hv hs) := by
  rw [run, dif_pos hv]
  split
  · next t' ht' =>
    cases hs.symm.trans ht'
    rfl
  · next hnone => cases hs.symm.trans hnone

theorem run_of_stuck (h : Within pattern value s) (hv : s.v < value.size)
    (hs : step pattern value s = none) : run pattern value s h = false := by
  rw [run, dif_pos hv]
  split
  · next t' ht' => cases hs.symm.trans ht'
  · rfl

theorem run_of_end (h : Within pattern value s) (hv : ¬ s.v < value.size) :
    run pattern value s h = (pattern.toList.drop s.p).all (· = '*') := by
  rw [run, dif_neg hv]

/-- The comparison holds exactly if something can still be found. -/
theorem run_eq_true_iff (s : State) (hs : Within pattern value s) (h : Aligned pattern s) :
    run pattern value s hs = true ↔ Open pattern value s := by
  induction s, hs using run.induct with
  | case1 s hs hv t hstep ih =>
    rw [run_of_step hs hv hstep, ih (h.step hstep), open_step_iff hs h hv hstep]
  | case2 s hs hv hstep =>
    rw [run_of_stuck hs hv hstep]
    simp [not_open_of_step_eq_none hv hstep]
  | case3 s hs hv =>
    have hend : value.size ≤ s.v := Nat.le_of_not_lt hv
    have hopen : Open pattern value s ↔ FitsFrom pattern value s.p s.v :=
      h.open_iff hs fun n hlt hn _ => absurd hlt (by omega)
    rw [run_of_end hs hv, hopen, fitsFrom_end_iff hend]
    simp

theorem accepts_iff_fits (expression text : String) :
    accepts expression text = true ↔ Fits expression.toList text.toList := by
  unfold accepts
  rw [run_eq_true_iff .start within_start aligned_start]
  constructor
  · rintro (hfits | ⟨_, hstar, -⟩)
    · exact hfits
    · cases hstar
  · exact .inl

/-- An expression without stars accepts itself and nothing else. -/
theorem accepts_of_plain {expression : String} (hplain : '*' ∉ expression.toList) (text : String) :
    accepts expression text = decide (expression = text) := by
  rw [Bool.eq_iff_iff, accepts_iff_fits, fits_plain_iff hplain, decide_eq_true_iff,
    String.toList_inj]
  exact eq_comm

/-- A star alone accepts any text. -/
@[simp] theorem accepts_star (text : String) : accepts "*" text = true := by
  have hfits : Fits ['*'] (text.toList ++ []) := .star text.toList .nil
  rw [List.append_nil] at hfits
  exact (accepts_iff_fits "*" text).2 hfits

/-- An expression accepts exactly the texts that it becomes when characters are put in place of its
stars, of each star its own; every other character stands for itself alone. So does an attribute
with this text, and an expression without stars accepts itself only. -/
theorem accepts_iff_filled (expression text : String) :
    (accepts expression text = true ↔
      ∃ fill, text.toList = filled fill expression.toList) ∧
    (Attribute.literal text).satisfies expression = accepts expression text ∧
    ('*' ∉ expression.toList → (accepts expression text = true ↔ text = expression)) := by
  refine ⟨?_, rfl, ?_⟩
  · exact (accepts_iff_fits expression text).trans fits_iff_filled
  · intro hplain
    rw [accepts_of_plain hplain, decide_eq_true_iff]
    exact eq_comm

end DeviceIdentity.Glob
