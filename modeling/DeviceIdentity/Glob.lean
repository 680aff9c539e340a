/-!
# Expressions with stars

An expression is a text in which each `*` stands for any characters, also none. A value is compared
with it from left to right; where they differ, the comparison goes back to the last star and lets
it stand for one character more. No earlier star has to be tried again, since the last one can take
over whatever an earlier one would gain.

`Glob.step` is one move of the comparison, `Glob.Within` what holds before and after every move,
and `Glob.accepts` the whole comparison, which ends because each move either tries the star further
on or brings the two positions forward.
-/
namespace DeviceIdentity.Glob

/-- A star that was passed, and where in the value its last attempt began. -/
structure Star where
  position : Nat
  tried : Nat
deriving DecidableEq, Repr

/-- A comparison under way: positions in the expression and in the value, and the last star. -/
structure State where
  p : Nat
  v : Nat
  star : Option Star
deriving DecidableEq, Repr

/-- A comparison that has not begun. -/
def State.start : State := ⟨0, 0, none⟩

variable (pattern value : Array Char)

/-- The next state while the value is not used up, or none if it differs from the expression. -/
def step (s : State) : Option State :=
  -- A star is passed before anything is compared, also where the value has a star of its own.
  if pattern[s.p]? = some '*' then some ⟨s.p + 1, s.v, some ⟨s.p, s.v⟩⟩
  else if s.p < pattern.size ∧ pattern[s.p]? = value[s.v]? then some ⟨s.p + 1, s.v + 1, s.star⟩
  else
    -- The last star takes one character more, and the comparison goes on behind it.
    match s.star with
    | some star => some ⟨star.position + 1, star.tried + 1, some ⟨star.position, star.tried + 1⟩⟩
    | none => none

/-- All positions lie within their text, and the last attempt of the star is not ahead. -/
structure Within (s : State) : Prop where
  p_le : s.p ≤ pattern.size
  v_le : s.v ≤ value.size
  position_lt : ∀ star ∈ s.star, star.position < pattern.size
  tried_le : ∀ star ∈ s.star, star.tried ≤ s.v

variable {pattern value}

theorem within_start : Within pattern value .start :=
  ⟨Nat.zero_le _, Nat.zero_le _, by simp [State.start], by simp [State.start]⟩

theorem lt_size_of_getElem?_eq {xs : Array Char} {i : Nat} {c : Char} (h : xs[i]? = some c) :
    i < xs.size := by
  rcases Nat.lt_or_ge i xs.size with hi | hi
  · exact hi
  · simp [Array.getElem?_eq_none hi] at h

/-- A move keeps the positions within their texts. -/
theorem Within.step {s t : State} (h : Within pattern value s) (hv : s.v < value.size)
    (hs : step pattern value s = some t) : Within pattern value t := by
  unfold Glob.step at hs
  split at hs
  · next hp =>
    have hp := lt_size_of_getElem?_eq hp
    cases hs
    exact ⟨hp, h.v_le, by simpa using hp, by simp⟩
  · split at hs
    · next hp =>
      cases hs
      exact ⟨hp.1, hv, h.position_lt, fun star hm => Nat.le_succ_of_le (h.tried_le star hm)⟩
    · split at hs
      · next star hstar =>
        have hp := h.position_lt star hstar
        have ht := h.tried_le star hstar
        cases hs
        exact ⟨hp, Nat.lt_of_le_of_lt ht hv, by simpa using hp, by simp⟩
      · cases hs

variable (pattern value)

/-- How much of the value the last star has not been tried on; more than all of it if there is no
star. -/
def untried (s : State) : Nat :=
  match s.star with
  | some star => value.size - star.tried
  | none => value.size + 1

/-- How far both positions are from the ends of their texts. -/
def ahead (s : State) : Nat := (value.size - s.v) + (pattern.size - s.p)

variable {pattern value}

/-- A move tries the star further on, or brings the positions forward. -/
theorem Within.step_decreases {s t : State} (h : Within pattern value s) (hv : s.v < value.size)
    (hs : Glob.step pattern value s = some t) :
    untried value t < untried value s ∨
      untried value t = untried value s ∧ ahead pattern value t < ahead pattern value s := by
  unfold Glob.step at hs
  split at hs
  · next hp =>
    have hp := lt_size_of_getElem?_eq hp
    cases hs
    cases hstar : s.star with
    | none => left; simp only [untried, hstar]; omega
    | some star =>
      have ht := h.tried_le star hstar
      simp only [untried, ahead, hstar]
      omega
  · split at hs
    · next hp =>
      have hp := hp.1
      cases hs
      right
      simp only [untried, ahead]
      exact ⟨trivial, by omega⟩
    · split at hs
      · next star hstar =>
        have ht := h.tried_le star hstar
        cases hs
        left
        simp only [untried, hstar]
        omega
      · cases hs

variable (pattern value)

/-- The comparison from a state on: it holds if the value is used up and only stars are left. -/
def run (s : State) (h : Within pattern value s) : Bool :=
  if hv : s.v < value.size then
    match hs : step pattern value s with
    | some t => run t (h.step hv hs)
    | none => false
  else (pattern.toList.drop s.p).all (· = '*')
termination_by (untried value s, ahead pattern value s)
decreasing_by
  rcases h.step_decreases hv hs with h | ⟨h, h'⟩
  · exact Prod.Lex.left _ _ h
  · rw [h]; exact Prod.Lex.right _ h'

/-- Whether the value can be had from the expression by putting characters in place of each star. -/
def accepts (expression text : String) : Bool :=
  run expression.toList.toArray text.toList.toArray .start within_start

end DeviceIdentity.Glob
