import DeviceIdentity.Proofs.Glob

/-!
# The comparison as a loop over positions

The comparison once more, as a loop that looks at characters by their positions and breaks off where
a text has no such position, and that may take only so many turns. It never breaks off and always
comes to an end: at the beginning of every turn the positions are `Within` their texts, and every
turn lowers the `rank` of the state. The rank counts, for each attempt that the last star may still
get, how far the two positions can go forward, since a new attempt takes both of them back.
-/
namespace DeviceIdentity.Glob

/-! ## The loop -/

/-- Why the loop gives no answer. -/
inductive Stop where
  /-- A text has no such position. -/
  | outOfRange (position : Nat)
  /-- All turns have been taken. -/
  | unfinished
deriving DecidableEq, Repr

/-- The character at a position that has to be there. -/
def charAt (xs : Array Char) (i : Nat) : Except Stop Char :=
  match xs[i]? with
  | some c => .ok c
  | none => .error (.outOfRange i)

/-- The characters from a position on that must not be behind the end. -/
def charsFrom (xs : Array Char) (i : Nat) : Except Stop (List Char) :=
  if i ≤ xs.size then .ok (xs.toList.drop i) else .error (.outOfRange i)

/-- Back to the last star, which takes one character more; nothing if there is none. -/
def State.back (s : State) : Option State :=
  s.star.map fun star => ⟨star.position + 1, star.tried + 1, some ⟨star.position, star.tried + 1⟩⟩

variable (pattern value : Array Char)

/-- One turn of the loop. The position in the value is not checked again: there is no turn at the
end of the value. -/
def turn (s : State) : Except Stop (Option State) := do
  if s.p < pattern.size then
    let c ← charAt pattern s.p
    if c = '*' then return some ⟨s.p + 1, s.v, some ⟨s.p, s.v⟩⟩
    else
      let d ← charAt value s.v
      if c = d then return some ⟨s.p + 1, s.v + 1, s.star⟩
      else return s.back
  else return s.back

/-- The loop with a number of turns that it may begin. -/
def loop : Nat → State → Except Stop Bool
  | 0, _ => .error .unfinished
  | turns + 1, s =>
    if s.v < value.size then do
      match ← turn pattern value s with
      | some t => loop turns t
      | none => return false
    else do
      let left ← charsFrom pattern s.p
      return left.all (· = '*')

/-- So many turns lead from a state to another. -/
inductive Turns : Nat → State → State → Prop where
  | refl (s : State) : Turns 0 s s
  | next {n : Nat} {s t u : State} (h : Turns n s t) (hv : t.v < value.size)
      (hturn : turn pattern value t = .ok (some u)) : Turns (n + 1) s u

variable {pattern value}

/-! ## Positions -/

theorem charAt_of_lt {xs : Array Char} {i : Nat} (h : i < xs.size) : charAt xs i = .ok xs[i] := by
  simp [charAt, h]

theorem step_eq_back {s : State} (hstar : pattern[s.p]? ≠ some '*')
    (hdiffer : ¬ (s.p < pattern.size ∧ pattern[s.p]? = value[s.v]?)) :
    step pattern value s = s.back := by
  rw [step, if_neg hstar, if_neg hdiffer, State.back]
  cases s.star <;> rfl

/-- A turn looks at no position that is not there, and is a move of the comparison. -/
theorem turn_eq_step {s : State} (hv : s.v < value.size) :
    turn pattern value s = .ok (step pattern value s) := by
  by_cases hp : s.p < pattern.size
  · have hc : pattern[s.p]? = some pattern[s.p] := Array.getElem?_eq_getElem hp
    have hd : value[s.v]? = some value[s.v] := Array.getElem?_eq_getElem hv
    simp only [turn, if_pos hp, charAt_of_lt hp, charAt_of_lt hv, bind, Except.bind]
    split
    · next hstar => simp only [step, hc, hstar, ↓reduceIte, pure, Except.pure]
    · next hstar =>
      have hstar' : pattern[s.p]? ≠ some '*' := by simpa [hc] using hstar
      split
      · next hsame =>
        have hsame' : s.p < pattern.size ∧ pattern[s.p]? = value[s.v]? :=
          ⟨hp, by rw [hc, hd, hsame]⟩
        simp only [step, if_neg hstar', if_pos hsame', pure, Except.pure]
      · next hdiffer =>
        rw [step_eq_back hstar' (by simpa [hp, hc, hd] using hdiffer)]
        rfl
  · have hnone : pattern[s.p]? = none := Array.getElem?_eq_none (Nat.le_of_not_lt hp)
    rw [turn, if_neg hp, step_eq_back (by simp [hnone]) (by simp [hp])]
    rfl

theorem charsFrom_of_within {s : State} (h : Within pattern value s) :
    charsFrom pattern s.p = .ok (pattern.toList.drop s.p) := by
  simp [charsFrom, h.p_le]

/-! ## Turns -/

variable (pattern value)

/-- How many turns may follow a state: for each attempt of the last star that is left, as far as the
positions can go forward. -/
def rank (s : State) : Nat :=
  untried value s * (value.size + pattern.size + 1) + ahead pattern value s

/-- No comparison takes that many turns. -/
def turnLimit : Nat := (value.size + 2) * (value.size + pattern.size + 1)

variable {pattern value}

theorem rank_start_lt : rank pattern value .start < turnLimit pattern value := by
  have hahead : ahead pattern value .start = value.size + pattern.size := by
    simp [ahead, State.start]
  have huntried : untried value .start = value.size + 1 := rfl
  calc rank pattern value .start
      = (value.size + 1) * (value.size + pattern.size + 1) + (value.size + pattern.size) := by
        rw [rank, hahead, huntried]
    _ < (value.size + 1) * (value.size + pattern.size + 1) + (value.size + pattern.size + 1) := by
        omega
    _ = turnLimit pattern value := (Nat.succ_mul _ _).symm

/-- Whether the star is tried further on or the positions go forward, the rank goes down. -/
theorem Within.rank_lt {s t : State} (h : Within pattern value s) (hv : s.v < value.size)
    (hstep : Glob.step pattern value s = some t) : rank pattern value t < rank pattern value s := by
  obtain huntried | ⟨huntried, hahead⟩ := h.step_decreases hv hstep
  · have hmul := Nat.mul_le_mul_right (value.size + pattern.size + 1) huntried
    have hsucc := Nat.succ_mul (untried value t) (value.size + pattern.size + 1)
    have hle : ahead pattern value t ≤ value.size + pattern.size := by
      simp only [ahead]
      omega
    simp only [rank]
    omega
  · simp only [rank, huntried]
    omega

/-- What holds before a number of turns holds behind them, and each has taken from the rank. -/
theorem Turns.within {n : Nat} {s t : State} (h : Turns pattern value n s t)
    (hs : Within pattern value s) :
    Within pattern value t ∧ rank pattern value t + n ≤ rank pattern value s := by
  induction h with
  | refl => exact ⟨hs, Nat.le_refl _⟩
  | next _ hv hturn ih =>
    obtain ⟨hwithin, hrank⟩ := ih hs
    rw [turn_eq_step hv] at hturn
    have hstep := Except.ok.inj hturn
    have hlt := hwithin.rank_lt hv hstep
    exact ⟨hwithin.step hv hstep, by omega⟩

/-- With more turns than the rank of the state, the loop ends with the answer of the comparison. -/
theorem loop_eq_run {turns : Nat} {s : State} (hs : Within pattern value s)
    (hturns : rank pattern value s < turns) :
    loop pattern value turns s = .ok (run pattern value s hs) := by
  induction turns generalizing s with
  | zero => cases hturns
  | succ turns ih =>
    by_cases hv : s.v < value.size
    · simp only [loop, if_pos hv, turn_eq_step hv, bind, Except.bind]
      cases hstep : step pattern value s with
      | some t =>
        have hlt := hs.rank_lt hv hstep
        rw [run_of_step hs hv hstep]
        exact ih (hs.step hv hstep) (by omega)
      | none =>
        rw [run_of_stuck hs hv hstep]
        rfl
    · simp only [loop, if_neg hv, charsFrom_of_within hs, bind, Except.bind]
      rw [run_of_end hs hv]
      rfl

/-- At the beginning of every turn the positions lie within their texts: the one in the expression
and the one in the value not behind the end, the last star before the end of the expression, and its
attempt not ahead of the position in the value. Fewer turns are taken than there are by the limit,
and so the loop, allowed that many or more, looks at no position that is not there and gives the
answer of the comparison. -/
theorem turns_within_and_loop_eq (expression text : String) :
    let pattern := expression.toList.toArray
    let value := text.toList.toArray
    (∀ (n : Nat) (s : State), Turns pattern value n .start s →
      (s.p ≤ pattern.size ∧ s.v ≤ value.size ∧
        ∀ star ∈ s.star, star.position < pattern.size ∧ star.tried ≤ s.v) ∧
      n < turnLimit pattern value) ∧
    ∀ n, turnLimit pattern value ≤ n →
      loop pattern value n .start = .ok (accepts expression text) := by
  intro pattern value
  have hstart : rank pattern value .start < turnLimit pattern value := rank_start_lt
  refine ⟨?_, ?_⟩
  · intro n s hturns
    obtain ⟨hwithin, hrank⟩ := hturns.within within_start
    refine ⟨⟨hwithin.p_le, hwithin.v_le, ?_⟩, by omega⟩
    intro star hstar
    exact ⟨hwithin.position_lt star hstar, hwithin.tried_le star hstar⟩
  · intro n hn
    exact loop_eq_run within_start (by omega)

/-- Behind a star and an attempt of it that failed, the star is tried one character further on. -/
theorem turns_within_and_loop_eq_retried :
    Turns "*b".toList.toArray "ab".toList.toArray 2 .start ⟨1, 1, some ⟨0, 1⟩⟩ ∧
      (1 ≤ 2 ∧ 1 ≤ 2 ∧ ∀ star ∈ some (Star.mk 0 1), star.position < 2 ∧ star.tried ≤ 1) ∧
      2 < turnLimit "*b".toList.toArray "ab".toList.toArray ∧
      loop "*b".toList.toArray "ab".toList.toArray 20 .start = .ok (accepts "*b" "ab") := by
  have hturns : Turns "*b".toList.toArray "ab".toList.toArray 2 .start ⟨1, 1, some ⟨0, 1⟩⟩ :=
    .next (.next (.refl _) (by decide) rfl) (by decide) rfl
  obtain ⟨hwithin, hloop⟩ := turns_within_and_loop_eq "*b" "ab"
  obtain ⟨hbounds, hlimit⟩ := hwithin 2 _ hturns
  exact ⟨hturns, hbounds, hlimit, hloop 20 (by decide)⟩

end DeviceIdentity.Glob
