import DeviceIdentity.Json.Record
import DeviceIdentity.Proofs.Json.Progress

/-!
# Grammars

Which texts stand for which values, told without a reader. A `Grammar` relates what is at the front
of a text to the text behind it. Those of texts and of records with a single field are given here,
and it is shown that the readers of this form accept exactly what the grammar does, with the value
that it gives.
-/
namespace DeviceIdentity.Json

open Text (Glyph)
open Lexeme (skipSpace)

/-- Which values stand at the front of a text, and what is behind them. -/
abbrev Grammar (α : Type) := List Glyph → α → List Glyph → Prop

/-- A reader accepts what a grammar does. -/
def Grammar.IsReadBy {α : Type} (value : Grammar α) (read : Reader α) : Prop :=
  ∀ text a rest, read text = .ok (a, rest) ↔ value text a rest

/-- What is behind a value is shorter than the text was. -/
def Grammar.Shortens {α : Type} (value : Grammar α) : Prop :=
  ∀ text a rest, value text a rest → rest.length ≤ text.length

variable {α : Type}

/-! ## Grammars of values -/

/-- A text in quotes. -/
inductive TextAt : Grammar String where
  | quoted {text inner rest : List Glyph} {s : String} (hopen : skipSpace text = .char '"' :: inner)
      (hstring : Lexeme.string inner = .ok (s, rest)) : TextAt text s rest

/-- `null`, or a value that does not start like it. -/
inductive OrNull (value : Grammar α) : Grammar (Option α) where
  | null {text rest : List Glyph}
      (h : skipSpace text = .char 'n' :: .char 'u' :: .char 'l' :: .char 'l' :: rest) :
      OrNull value text none rest
  | some {text rest : List Glyph} {a : α} (hfront : (skipSpace text).head? ≠ some (.char 'n'))
      (hvalue : value (skipSpace text) a rest) : OrNull value text (some a) rest

/-- Where the name of the next member of an object starts, behind its opening quote. Each member but
the first is set off by a comma. -/
inductive NameStarts : (first : Bool) → (text inner : List Glyph) → Prop where
  | first {text inner : List Glyph} (hopen : skipSpace text = .char '"' :: inner) :
      NameStarts true text inner
  | next {text behind inner : List Glyph} (hcomma : skipSpace text = .char ',' :: behind)
      (hopen : skipSpace behind = .char '"' :: inner) : NameStarts false text inner

/-- The name of the next member of an object, and what is behind its colon. -/
inductive NameAt (first : Bool) : Grammar String where
  | named {text inner behind rest : List Glyph} {name : String}
      (hstarts : NameStarts first text inner) (hname : Lexeme.string inner = .ok (name, behind))
      (hcolon : skipSpace behind = .char ':' :: rest) : NameAt first text name rest

/-- The members of an object, up to its closing brace, of which the one with the name that is asked
for is looked at. It may come once. The values of all others are passed over. -/
inductive MembersAt (asked : String) (value : Grammar α) :
    (first : Bool) → (before : Option α) → Grammar (Option α) where
  | done {first : Bool} {before : Option α} {text rest : List Glyph}
      (hclose : skipSpace text = .char '}' :: rest) :
      MembersAt asked value first before text before rest
  | asked {first : Bool} {text behind next rest : List Glyph} {a : α} {found : Option α}
      (hname : NameAt first text asked behind) (hvalue : value behind a next)
      (hmore : MembersAt asked value false (some a) next found rest) :
      MembersAt asked value first none text found rest
  | other {first : Bool} {before : Option α} {text behind next rest : List Glyph} {name : String}
      {found : Option α} (hname : NameAt first text name behind) (hne : name ≠ asked)
      (hvalue : Ignored.value behind = .ok next)
      (hmore : MembersAt asked value false before next found rest) :
      MembersAt asked value first before text found rest

/-- A record with one field, which may be `null` or left out: an object in which it is a member, or
an array with it as the only item. -/
inductive OneField (asked : String) (value : Grammar α) : Grammar (Option α) where
  | object {text inner rest : List Glyph} {found : Option (Option α)}
      (hopen : skipSpace text = .char '{' :: inner)
      (hmembers : MembersAt asked (OrNull value) true none inner found rest) :
      OneField asked value text found.join rest
  | array {text inner front behind rest : List Glyph} {g : Glyph} {a : Option α}
      (hopen : skipSpace text = .char '[' :: inner) (hitem : skipSpace inner = g :: front)
      (hfront : g ≠ .char ']') (hvalue : OrNull value (g :: front) a behind)
      (hclose : skipSpace behind = .char ']' :: rest) : OneField asked value text a rest

/-! ## What is behind a value -/

theorem shortens_textAt : Grammar.Shortens TextAt := by
  rintro text s rest ⟨hopen, hstring⟩
  exact Nat.le_of_lt
    (Nat.lt_trans (Lexeme.length_lt_of_string hstring) (length_lt_of_skipSpace hopen))

theorem shortens_orNull {value : Grammar α} (h : value.Shortens) : (OrNull value).Shortens := by
  intro text a rest hvalue
  cases hvalue with
  | null hnull =>
    have hle := length_skipSpace_le text
    rw [hnull] at hle
    simp only [List.length_cons] at hle
    omega
  | some hfront hvalue => exact Nat.le_trans (h _ _ _ hvalue) (length_skipSpace_le text)

theorem length_lt_of_nameStarts {first : Bool} {text inner : List Glyph}
    (h : NameStarts first text inner) : inner.length < text.length := by
  cases h with
  | first hopen => exact length_lt_of_skipSpace hopen
  | next hcomma hopen =>
    exact Nat.lt_trans (length_lt_of_skipSpace hopen) (length_lt_of_skipSpace hcomma)

theorem length_lt_of_nameAt {first : Bool} {text rest : List Glyph} {name : String}
    (h : NameAt first text name rest) : rest.length < text.length := by
  obtain ⟨hstarts, hname, hcolon⟩ := h
  calc rest.length
    _ < _ := length_lt_of_skipSpace hcolon
    _ < _ := Lexeme.length_lt_of_string hname
    _ < text.length := length_lt_of_nameStarts hstarts

theorem shortens_membersAt {asked : String} {value : Grammar α} (h : value.Shortens)
    (first : Bool) (before : Option α) : (MembersAt asked value first before).Shortens := by
  intro text found rest hmembers
  induction hmembers with
  | done hclose => exact Nat.le_of_lt (length_lt_of_skipSpace hclose)
  | asked hname hvalue hmore ih =>
    have hname := length_lt_of_nameAt hname
    have hvalue := h _ _ _ hvalue
    omega
  | other hname hne hvalue hmore ih =>
    have hname := length_lt_of_nameAt hname
    have hvalue := Ignored.length_le_of_value hvalue
    omega

theorem shortens_oneField {asked : String} {value : Grammar α} (h : value.Shortens) :
    (OneField asked value).Shortens := by
  intro text a rest hfield
  cases hfield with
  | object hopen hmembers =>
    have hopen := length_lt_of_skipSpace hopen
    have hmembers := shortens_membersAt (shortens_orNull h) _ _ _ _ _ hmembers
    omega
  | array hopen hitem hfront hvalue hclose =>
    have hopen := length_lt_of_skipSpace hopen
    have hitem := length_le_of_skipSpace hitem
    have hvalue := shortens_orNull h _ _ _ hvalue
    have hclose := length_lt_of_skipSpace hclose
    omega

/-! ## Readers of texts and of `null` -/

theorem isReadBy_text : Grammar.IsReadBy TextAt text := by
  intro text s rest
  constructor
  · intro h
    unfold Json.text at h
    split at h
    · cases h
    · next inner hopen => exact .quoted hopen h
    · cases h
  · rintro ⟨hopen, hstring⟩
    unfold Json.text
    rw [hopen]
    exact hstring

theorem literal_eq_ok_iff {cs : List Char} {text rest : List Glyph} :
    Lexeme.literal cs text = .ok rest ↔ text = cs.map .char ++ rest := by
  induction cs generalizing text with
  | nil => simp [Lexeme.literal]
  | cons c cs ih =>
    cases text with
    | nil => simp [Lexeme.literal]
    | cons g text =>
      simp only [Lexeme.literal, List.map_cons, List.cons_append, List.cons.injEq]
      split
      · next hg => simp [ih, hg]
      · next hg => simp [hg]

theorem isReadBy_optional {value : Grammar α} {read : Reader α} (h : value.IsReadBy read) :
    (OrNull value).IsReadBy (optional read) := by
  intro text a rest
  unfold optional
  split
  · next inner hopen =>
    simp only [bind_eq_ok_iff, pure_eq_ok_iff, literal_eq_ok_iff]
    constructor
    · rintro ⟨behind, hinner, heq⟩
      cases heq
      refine .null ?_
      rw [hopen, hinner]
      rfl
    · rintro (hnull | ⟨hfront, -⟩)
      · refine ⟨rest, ?_, rfl⟩
        rw [hopen] at hnull
        exact (List.cons.inj hnull).2
      · rw [hopen] at hfront
        exact absurd rfl hfront
  · next inner hopen =>
    simp only [bind_eq_ok_iff, pure_eq_ok_iff]
    constructor
    · rintro ⟨⟨b, behind⟩, hread, heq⟩
      cases heq
      refine .some ?_ ((h _ _ _).1 hread)
      intro hfront
      obtain ⟨behind, hbehind⟩ := List.head?_eq_some_iff.1 hfront
      exact hopen behind hbehind
    · rintro (hnull | ⟨-, hvalue⟩)
      -- The reader has seen that the text does not start with an `n`.
      · exact absurd hnull (hopen _)
      · exact ⟨_, (h _ _ _).2 hvalue, rfl⟩

/-! ## Readers of records with one field -/

theorem nextMember_eq_done_iff {first : Bool} {text rest : List Glyph} :
    nextMember first text = .ok (.done rest) ↔ skipSpace text = .char '}' :: rest := by
  unfold nextMember
  split
  · next hend => simp [hend]
  · next behind hclose => simp [hclose]
  · next g behind hne hfront =>
    have hopen : skipSpace text ≠ .char '}' :: rest := by
      rw [hfront]
      intro heq
      exact hne (List.cons.inj heq).1
    refine iff_of_false ?_ hopen
    split
    · split <;> simp
    · split
      · split <;> simp
      · simp

theorem nextMember_eq_more_iff {first : Bool} {text inner : List Glyph} :
    nextMember first text = .ok (.more inner) ↔ NameStarts first text inner := by
  constructor
  · intro h
    unfold nextMember at h
    split at h
    · cases h
    · cases h
    · next g behind hne hfront =>
      cases first with
      | true =>
        simp only [↓reduceIte] at h
        split at h
        · next hg =>
          cases h
          exact .first (hg ▸ hfront)
        · cases h
      | false =>
        simp only [Bool.false_eq_true, ↓reduceIte] at h
        split at h
        · next hg =>
          split at h
          · cases h
          · next hopen =>
            cases h
            exact .next (hg ▸ hfront) hopen
          · cases h
          · cases h
        · cases h
  · rintro (hopen | ⟨hcomma, hopen⟩)
    · simp [nextMember, hopen]
    · simp [nextMember, hcomma, hopen]

theorem nextItem_first_eq_more_iff {text item : List Glyph} :
    nextItem true text = .ok (.more item) ↔
      ∃ g front, skipSpace text = g :: front ∧ g ≠ .char ']' ∧ item = g :: front := by
  unfold nextItem
  split
  · next hend => simp [hend]
  · next behind hclose => simp [hclose]
  · next g front hne hitem =>
    simp only [↓reduceIte, Except.ok.injEq, Next.more.injEq]
    constructor
    · rintro rfl
      exact ⟨g, front, hitem, hne, rfl⟩
    · rintro ⟨g', front', hitem', -, rfl⟩
      exact hitem.symm.trans hitem'

theorem colon_eq_ok_iff {text rest : List Glyph} :
    colon text = .ok rest ↔ skipSpace text = .char ':' :: rest := by
  unfold colon
  split
  · next hend => simp [hend]
  · next behind hcolon => simp [hcolon]
  · next behind hne hfront => simpa using hfront rest

theorem closeArray_eq_ok_iff {text rest : List Glyph} :
    closeArray text = .ok rest ↔ skipSpace text = .char ']' :: rest := by
  unfold closeArray
  split
  · next hend => simp [hend]
  · next behind hclose => simp [hclose]
  · next behind hcomma =>
    rw [hcomma]
    split <;> simp
  · next behind hne hfront => simpa using hne rest

namespace Record

section Members

variable {F : Type} {β : F → Type} [DecidableEq F] {r : Record F β}

/-- One turn of the reader of the members: the object ends, or the next member is read as a field
that is still missing, or passed over because no field has its name. -/
theorem members_cons_eq_ok_iff {g : Glyph} {fuel : List Glyph} {first : Bool}
    {fields found : Fields β} {text rest : List Glyph} :
    r.members (g :: fuel) first fields text = .ok (found, rest) ↔
      (skipSpace text = .char '}' :: rest ∧ found = fields) ∨
      ∃ name behind next, NameAt first text name behind ∧
        ((∃ f a, r.fields.find? (fun f => r.name f = name) = some f ∧ fields f = none ∧
            r.read f behind = .ok (a, next) ∧
            r.members fuel false (fields.set f a) next = .ok (found, rest)) ∨
          (r.fields.find? (fun f => r.name f = name) = none ∧ Ignored.value behind = .ok next ∧
            r.members fuel false fields next = .ok (found, rest))) := by
  constructor
  · intro h
    simp only [members] at h
    split at h
    · cases h
    · next hdone =>
      cases h
      exact .inl ⟨nextMember_eq_done_iff.1 hdone, rfl⟩
    next inner hmore =>
    split at h
    · cases h
    next name behind hname =>
    -- Whatever becomes of the member, its name is followed by a colon.
    have hat : ∀ {next}, colon behind = .ok next → NameAt first text name next := fun hcolon =>
      .named (nextMember_eq_more_iff.1 hmore) hname (colon_eq_ok_iff.1 hcolon)
    refine .inr ?_
    split at h
    · next f hfind =>
      split at h
      · cases h
      next hnew =>
      split at h
      · cases h
      next hcolon =>
      split at h
      · next hvalue =>
        exact ⟨name, _, _, hat hcolon, .inl ⟨f, _, hfind, by simpa using hnew, hvalue, h⟩⟩
      · cases h
    · next hfind =>
      split at h
      · cases h
      next hcolon =>
      split at h
      · next hvalue => exact ⟨name, _, _, hat hcolon, .inr ⟨hfind, hvalue, h⟩⟩
      · cases h
  · rintro (⟨hclose, rfl⟩ | ⟨name, behind, next, ⟨hstarts, hname, hcolon⟩, hmember⟩)
    · simp only [members, nextMember_eq_done_iff.2 hclose]
    · simp only [members, nextMember_eq_more_iff.2 hstarts, hname, colon_eq_ok_iff.2 hcolon]
      obtain ⟨f, a, hfind, hnew, hvalue, hmore⟩ | ⟨hfind, hvalue, hmore⟩ := hmember
      · simp only [hfind, hnew, Option.isSome_none, Bool.false_eq_true, if_false, hvalue, hmore]
      · simp only [hfind, hvalue, hmore]

end Members

variable {F : Type} [DecidableEq F] {r : Record F fun _ => Option α} {f : F} {value : Grammar α}

omit [DecidableEq F] in
/-- The only field is the one that is asked for by its name. -/
theorem find?_name_singleton (hfields : r.fields = [f]) (name : String) :
    r.fields.find? (fun g => r.name g = name) = if r.name f = name then some f else none := by
  rw [hfields]
  split
  · next h => simp [h]
  · next h => simp [h]

/-- What the reader of the members accepts is in the grammar. -/
theorem membersAt_of_members (hfields : r.fields = [f])
    (hread : (OrNull value).IsReadBy (r.read f)) {fuel : List Glyph} {first : Bool}
    {fields found : Fields fun _ => Option α} {text rest : List Glyph}
    (h : r.members fuel first fields text = .ok (found, rest)) :
    MembersAt (r.name f) (OrNull value) first (fields f) text (found f) rest := by
  induction fuel generalizing first fields text with
  | nil => cases h
  | cons g fuel ih =>
    obtain ⟨hclose, rfl⟩ | ⟨name, behind, next, hat, hmember⟩ := members_cons_eq_ok_iff.1 h
    · exact .done hclose
    -- With one field only, a member has its name or that of no field.
    rw [find?_name_singleton hfields] at hmember
    by_cases hname : r.name f = name
    · subst hname
      simp only [if_pos] at hmember
      obtain ⟨_, a, ⟨⟩, hnone, hvalue, hmore⟩ | ⟨⟨⟩, -⟩ := hmember
      rw [hnone]
      refine .asked hat ((hread _ _ _).1 hvalue) ?_
      have hrest := ih hmore
      rwa [Fields.set_self] at hrest
    · simp only [if_neg hname] at hmember
      obtain ⟨_, _, ⟨⟩, -⟩ | ⟨-, hvalue, hmore⟩ := hmember
      exact .other hat (Ne.symm hname) hvalue (ih hmore)

/-- A text that something is taken from leaves fuel for one more turn, and for what is behind it. -/
theorem exists_fuel_eq_cons {text next fuel : List Glyph} (hlt : next.length < text.length)
    (hfuel : text.length ≤ fuel.length) :
    ∃ g fuel', fuel = g :: fuel' ∧ next.length ≤ fuel'.length := by
  cases fuel with
  | nil => exact absurd (Nat.lt_of_lt_of_le hlt hfuel) (Nat.not_lt_zero _)
  | cons g fuel => exact ⟨g, fuel, rfl, Nat.le_of_lt_succ (Nat.lt_of_lt_of_le hlt hfuel)⟩

/-- What is in the grammar is accepted by the reader of the members. Each member takes more of the
text than of the fuel. -/
theorem exists_members_of_membersAt (hfields : r.fields = [f])
    (hread : (OrNull value).IsReadBy (r.read f)) (hshortens : value.Shortens) {first : Bool}
    {before found : Option (Option α)} {text rest : List Glyph}
    (h : MembersAt (r.name f) (OrNull value) first before text found rest) {fuel : List Glyph}
    (hfuel : text.length ≤ fuel.length) {fields : Fields fun _ => Option α}
    (hbefore : fields f = before) :
    ∃ fields', r.members fuel first fields text = .ok (fields', rest) ∧ fields' f = found := by
  induction h generalizing fuel fields with
  | done hclose =>
    obtain ⟨g, fuel, rfl, -⟩ := exists_fuel_eq_cons (length_lt_of_skipSpace hclose) hfuel
    exact ⟨fields, members_cons_eq_ok_iff.2 (.inl ⟨hclose, rfl⟩), hbefore⟩
  | @asked first text behind next rest a found hat hvalue hmore ih =>
    have hlt : next.length < text.length :=
      Nat.lt_of_le_of_lt (shortens_orNull hshortens _ _ _ hvalue) (length_lt_of_nameAt hat)
    obtain ⟨g, fuel, rfl, hnext⟩ := exists_fuel_eq_cons hlt hfuel
    obtain ⟨fields', hmembers, hfound⟩ := ih hnext (Fields.set_self fields f a)
    have hfind : r.fields.find? (fun f' => r.name f' = r.name f) = some f :=
      (find?_name_singleton hfields _).trans (if_pos rfl)
    refine ⟨fields', members_cons_eq_ok_iff.2 (.inr ⟨_, _, next, hat, .inl ?_⟩), hfound⟩
    exact ⟨f, a, hfind, hbefore, (hread _ _ _).2 hvalue, hmembers⟩
  | @other first before text behind next rest name found hat hne hvalue hmore ih =>
    have hlt : next.length < text.length :=
      Nat.lt_of_le_of_lt (Ignored.length_le_of_value hvalue) (length_lt_of_nameAt hat)
    obtain ⟨g, fuel, rfl, hnext⟩ := exists_fuel_eq_cons hlt hfuel
    obtain ⟨fields', hmembers, hfound⟩ := ih hnext hbefore
    have hfind : r.fields.find? (fun f' => r.name f' = name) = none :=
      (find?_name_singleton hfields _).trans (if_neg hne.symm)
    refine ⟨fields', members_cons_eq_ok_iff.2 (.inr ⟨_, _, next, hat, .inr ?_⟩), hfound⟩
    exact ⟨hfind, hvalue, hmembers⟩

theorem items_nil_eq_ok_iff (r : Record F fun _ => Option α) (index : Nat)
    {fields found : Fields fun _ => Option α} {behind rest : List Glyph} :
    r.items index [] fields behind = .ok (found, rest) ↔
      skipSpace behind = .char ']' :: rest ∧ found = fields := by
  simp only [items, bind_eq_ok_iff, pure_eq_ok_iff, closeArray_eq_ok_iff, Prod.mk.injEq]
  constructor
  · rintro ⟨behind', hclose, rfl, rfl⟩
    exact ⟨hclose, rfl⟩
  · rintro ⟨hclose, rfl⟩
    exact ⟨rest, hclose, rfl, rfl⟩

/-- What is in the grammar of an array with one item is what the reader of the items accepts. -/
theorem items_eq_ok_iff (hfields : r.fields = [f]) (hread : (OrNull value).IsReadBy (r.read f))
    {inner rest : List Glyph} {found : Fields fun _ => Option α} :
    r.items 0 r.fields .none inner = .ok (found, rest) ↔
      ∃ g front a behind, skipSpace inner = g :: front ∧ g ≠ .char ']' ∧
        OrNull value (g :: front) a behind ∧ skipSpace behind = .char ']' :: rest ∧
        found = Fields.set .none f a := by
  rw [hfields]
  simp only [items, bind_eq_ok_iff, beq_self_eq_true]
  constructor
  · rintro ⟨next, hnext, h⟩
    cases next with
    | done => cases h
    | more item =>
      obtain ⟨g, front, hitem, hne, rfl⟩ := nextItem_first_eq_more_iff.1 hnext
      simp only at h
      split at h
      · next a behind hvalue =>
        obtain ⟨hclose, hfound⟩ := (r.items_nil_eq_ok_iff 1).1 h
        exact ⟨g, front, a, behind, hitem, hne, (hread _ _ _).1 hvalue, hclose, hfound⟩
      · cases h
  · rintro ⟨g, front, a, behind, hitem, hne, hvalue, hclose, hfound⟩
    refine ⟨.more (g :: front), nextItem_first_eq_more_iff.2 ⟨g, front, hitem, hne, rfl⟩, ?_⟩
    simp only [(hread _ _ _).2 hvalue]
    exact (r.items_nil_eq_ok_iff 1).2 ⟨hclose, hfound⟩

omit [DecidableEq F] in
/-- A record with one field that may be left out is always complete. -/
theorem exists_complete_eq_ok (hfields : r.fields = [f]) (habsent : r.absent f = some none)
    (fields : Fields fun _ => Option α) :
    ∃ v, r.complete fields = .ok v ∧ v f = (fields f).join := by
  have hheld : r.held fields f = some (fields f).join := by
    rw [held, habsent]
    cases fields f <;> rfl
  unfold complete
  split
  · next g hg =>
    rw [hfields] at hg
    have hmissing := List.find?_some hg
    obtain rfl : g = f := List.mem_singleton.1 (List.mem_of_find?_eq_some hg)
    simp [hheld] at hmissing
  · refine ⟨_, rfl, ?_⟩
    simp only [hheld, Option.get_some]

/-- The reader of a record with one field that may be left out accepts what the grammar does. -/
theorem exists_reader_eq_ok_iff (hfields : r.fields = [f]) (habsent : r.absent f = some none)
    (hread : (OrNull value).IsReadBy (r.read f)) (hshortens : value.Shortens)
    {text rest : List Glyph} {a : Option α} :
    (∃ v, r.reader text = .ok (v, rest) ∧ v f = a) ↔ OneField (r.name f) value text a rest := by
  constructor
  · rintro ⟨v, h, rfl⟩
    unfold reader at h
    split at h
    · cases h
    · next inner hopen =>
      obtain ⟨⟨fields, behind⟩, hmembers, h⟩ := bind_eq_ok_iff.1 h
      obtain ⟨v', hcomplete, hv'⟩ := exists_complete_eq_ok hfields habsent fields
      simp only [hcomplete] at h
      cases h
      rw [hv']
      exact .object hopen (membersAt_of_members hfields hread hmembers)
    · next inner hopen =>
      obtain ⟨⟨fields, behind⟩, hitems, h⟩ := bind_eq_ok_iff.1 h
      obtain ⟨v', hcomplete, hv'⟩ := exists_complete_eq_ok hfields habsent fields
      simp only [hcomplete] at h
      cases h
      rw [hv']
      obtain ⟨g, front, a, behind, hitem, hne, hvalue, hclose, rfl⟩ :=
        (items_eq_ok_iff hfields hread).1 hitems
      rw [Fields.set_self]
      exact .array hopen hitem hne hvalue hclose
    · cases h
  · rintro (⟨hopen, hmembers⟩ | ⟨hopen, hitem, hne, hvalue, hclose⟩)
    · obtain ⟨fields, haccepted, rfl⟩ := exists_members_of_membersAt hfields hread hshortens
        hmembers (Nat.le_refl _) (Fields.none_apply f)
      obtain ⟨v, hcomplete, hv⟩ := exists_complete_eq_ok hfields habsent fields
      refine ⟨v, ?_, hv⟩
      simp only [reader, hopen, haccepted, bind, Except.bind, hcomplete]
      rfl
    · have hitems := (items_eq_ok_iff hfields hread).2
        ⟨_, _, _, _, hitem, hne, hvalue, hclose, rfl⟩
      obtain ⟨v, hcomplete, hv⟩ := exists_complete_eq_ok hfields habsent (Fields.set .none f _)
      rw [Fields.set_self] at hv
      refine ⟨v, ?_, hv⟩
      simp only [reader, hopen, hitems, bind, Except.bind, hcomplete]
      rfl

end Record

end DeviceIdentity.Json
