import Mathlib.Data.List.Permutation
import DeviceIdentity.Json.Record
import DeviceIdentity.Json.Tagged
import DeviceIdentity.Proofs.Json.Strings
import DeviceIdentity.Proofs.Named

/-!
# Values there and back

What is written for a text, a list of texts, a record or a tagged value is read back as what it was
written for, in front of any text. The members of an object may be written in any order.
-/
namespace DeviceIdentity.Json

open Text (Glyph)
open Lexeme (skipSpace)

/-- The reader takes what is written for a value off the front of any text, and answers the
value. -/
def Reads {α : Type} (read : Reader α) (v : α) (written : Json) : Prop :=
  ∀ after : List Char, read ((print after written).map .char) = .ok (v, after.map .char)

/-- What comes between an item or a member and those that were written before it. -/
def separator (first : Bool) : List Char :=
  if first then [] else [',']

section Basic

variable {α β : Type} {read : Reader α} {v : α} {written : Json}

/-- A value of another type that is made from one that is read. -/
theorem Reads.map (h : Reads read v written) (g : α → β) :
    Reads (fun rest => do
      let (v, rest) ← read rest
      return (g v, rest)) (g v) written := by
  intro after
  simp only [h after, bind, Except.bind]
  rfl

/-- What is written alone is the whole text. -/
theorem Reads.decode_compact (h : Reads read v written) :
    decode read written.compact = .ok v := by
  have hglyphs : Glyph.ofString written.compact = (print [] written).map .char := by
    rw [Glyph.ofString, compact, String.toList_ofList]
  have hread : read (Glyph.ofString written.compact) = .ok (v, []) := by
    rw [hglyphs]
    exact h []
  have hwhole : whole read (Glyph.ofString written.compact) = .ok v := by
    simp only [whole, hread, bind, Except.bind]
    rfl
  simp only [decode, hwhole]
  rfl

theorem reads_text (s : String) : Reads text s (.string s) := by
  intro after
  rw [print]
  exact text_printString s after

/-- Behind a quote stands a string, whatever may be read between brackets. -/
theorem scalarOr_quote {rest behind : List Glyph} (h : skipSpace rest = .char '"' :: behind)
    (array object : Reader Json) :
    scalarOr array object rest =
      (do
        let (s, rest) ← Lexeme.string behind
        return (.string s, rest)) := by
  rw [scalarOr, h]
  rfl

theorem value_quote {rest behind : List Glyph} (h : skipSpace rest = .char '"' :: behind)
    (depth : Nat) :
    value depth rest =
      (do
        let (s, rest) ← Lexeme.string behind
        return (.string s, rest)) := by
  cases depth with
  | zero => exact scalarOr_quote h (fun rest => .error (.before rest .tooDeep)) _
  | succ depth =>
    rw [value]
    exact scalarOr_quote h _ _

/-- A text is also read back as a value of any kind, within any number of brackets. -/
theorem reads_value_string (depth : Nat) (s : String) :
    Reads (value depth) (.string s) (.string s) := by
  intro after
  have hquote : skipSpace ((printString s after).map .char) =
      .char '"' :: (openString s after).map .char := rfl
  rw [print, value_quote hquote, string_openString]
  rfl

end Basic

/-! ## Lengths -/

mutual

/-- What is written in front of a text does not shorten it. -/
theorem length_le_length_print (after : List Char) : ∀ v : Json,
    after.length ≤ (print after v).length
  | .null | .bool true | .bool false | .number _ => by
    simp only [print, List.length_append]
    omega
  | .string s => by
    rw [print]
    exact Nat.le_of_lt (length_lt_length_printString s after)
  | .array items => by
    have hle := length_le_length_printItems (']' :: after) items
    rw [print]
    simp only [List.length_cons] at hle ⊢
    omega
  | .object ms => by
    have hle := length_le_length_printMembers ('}' :: after) ms
    rw [print]
    simp only [List.length_cons] at hle ⊢
    omega

theorem length_le_length_printItems (after : List Char) : ∀ vs : List Json,
    after.length ≤ (printItems after vs).length
  | [] => Nat.le_refl _
  | [v] => length_le_length_print after v
  | v :: w :: rest => by
    have hrest := length_le_length_printItems after (w :: rest)
    have hle := length_le_length_print (',' :: printItems after (w :: rest)) v
    rw [printItems]
    rw [List.length_cons] at hle
    omega

theorem length_le_length_printMembers (after : List Char) : ∀ ms : List (String × Json),
    after.length ≤ (printMembers after ms).length
  | [] => Nat.le_refl _
  | [m] => length_le_length_printMember after m
  | m :: m' :: rest => by
    have hrest := length_le_length_printMembers after (m' :: rest)
    have hle := length_le_length_printMember (',' :: printMembers after (m' :: rest)) m
    rw [printMembers]
    rw [List.length_cons] at hle
    omega

theorem length_le_length_printMember (after : List Char) : ∀ m : String × Json,
    after.length ≤ (printMember after m).length
  | (name, v) => by
    have hle := length_le_length_print after v
    have hname := length_lt_length_printString name (':' :: print after v)
    rw [printMember]
    rw [List.length_cons] at hname
    omega

end

/-! ## Lists -/

/-- What stands behind the items that have been written: the others, and the end of the list.
`first` says that none has been. -/
def itemsFrom (after : List Char) (first : Bool) : List String → List Char
  | [] => ']' :: after
  | s :: ss => separator first ++ printString s (itemsFrom after false ss)

theorem print_ofStrings (ss : List String) (after : List Char) :
    print after (ofStrings ss) = '[' :: itemsFrom after true ss := by
  have hitems : ∀ ss : List String,
      printItems (']' :: after) (ss.map string) = itemsFrom after true ss := by
    intro ss
    induction ss with
    | nil => rfl
    | cons s ss ih =>
      cases ss with
      | nil => simp only [List.map_cons, List.map_nil, printItems, print]; rfl
      | cons t ss =>
        simp only [List.map_cons] at ih ⊢
        rw [printItems, ih, print]
        rfl
  rw [ofStrings, print, hitems]

theorem nextItem_itemsFrom_nil (after : List Char) (first : Bool) :
    nextItem first ((itemsFrom after first []).map .char) = .ok (.done (after.map .char)) := rfl

theorem nextItem_separator (first : Bool) (s : String) (after : List Char) :
    nextItem first ((separator first ++ printString s after).map .char) =
      .ok (.more ((printString s after).map .char)) := by
  cases first <;> rfl

theorem length_lt_length_itemsFrom (after : List Char) (first : Bool) (ss : List String) :
    after.length + ss.length < (itemsFrom after first ss).length := by
  induction ss generalizing first with
  | nil => simp [itemsFrom]
  | cons s ss ih =>
    have hrest := ih false
    have hlt := length_lt_length_printString s (itemsFrom after false ss)
    simp only [itemsFrom, List.length_append, List.length_cons]
    omega

/-- The items are read to the end of the list, given enough glyphs to count them by. -/
theorem itemsAfter_itemsFrom (before ss : List String) (after : List Char) {fuel : List Glyph}
    (hfuel : ss.length < fuel.length) :
    itemsAfter text before fuel ((itemsFrom after before.isEmpty ss).map .char) =
      .ok (before.reverse ++ ss, after.map .char) := by
  -- Each item takes one glyph of the fuel, and the end of the list takes another.
  induction ss generalizing before fuel with
  | nil =>
    cases fuel with
    | nil => cases hfuel
    | cons g fuel =>
      simp only [itemsAfter, nextItem_itemsFrom_nil, bind, Except.bind, List.append_nil]
      rfl
  | cons s ss ih =>
    cases fuel with
    | nil => cases hfuel
    | cons g fuel =>
      have hrest := ih (s :: before) (Nat.lt_of_succ_lt_succ hfuel)
      rw [List.isEmpty_cons] at hrest
      simp only [itemsAfter, itemsFrom, nextItem_separator, bind, Except.bind, text_printString,
        hrest, List.reverse_cons, List.append_assoc, List.singleton_append]

theorem reads_list (ss : List String) : Reads (list text) ss (ofStrings ss) := by
  intro after
  have hlt := length_lt_length_itemsFrom after true ss
  have hfuel : ss.length < ((itemsFrom after true ss).map Glyph.char).length := by
    rw [List.length_map]
    omega
  rw [print_ofStrings]
  exact itemsAfter_itemsFrom [] ss after hfuel

/-! ## Members -/

/-- What stands behind the members that have been written: the others, and the end of the object.
`first` says that none has been. -/
def membersFrom (after : List Char) (first : Bool) : List (String × Json) → List Char
  | [] => '}' :: after
  | (name, v) :: ms =>
    separator first ++ printString name (':' :: print (membersFrom after false ms) v)

theorem membersFrom_cons (after : List Char) (first : Bool) (name : String) (v : Json)
    (ms : List (String × Json)) :
    membersFrom after first ((name, v) :: ms) =
      separator first ++ printString name (':' :: print (membersFrom after false ms) v) := rfl

theorem print_object (ms : List (String × Json)) (after : List Char) :
    print after (object ms) = '{' :: membersFrom after true ms := by
  have hmembers : printMembers ('}' :: after) ms = membersFrom after true ms := by
    induction ms with
    | nil => rfl
    | cons m ms ih =>
      cases ms with
      | nil => rw [printMembers, printMember]; rfl
      | cons m' ms => rw [printMembers, ih, printMember]; rfl
  rw [print, hmembers]

theorem nextMember_membersFrom_nil (after : List Char) (first : Bool) :
    nextMember first ((membersFrom after first []).map .char) =
      .ok (.done (after.map .char)) := rfl

theorem nextMember_separator (first : Bool) (name : String) (after : List Char) :
    nextMember first ((separator first ++ printString name after).map .char) =
      .ok (.more ((openString name after).map .char)) := by
  cases first <;> rfl

theorem colon_cons (rest : List Glyph) : colon (.char ':' :: rest) = .ok rest := rfl

theorem length_lt_length_membersFrom (after : List Char) (first : Bool)
    (ms : List (String × Json)) :
    after.length + ms.length < (membersFrom after first ms).length := by
  induction ms generalizing first with
  | nil => simp [membersFrom]
  | cons m ms ih =>
    obtain ⟨name, v⟩ := m
    have hrest := ih false
    have hle := length_le_length_print (membersFrom after false ms) v
    have hlt := length_lt_length_printString name (':' :: print (membersFrom after false ms) v)
    rw [List.length_cons] at hlt
    simp only [membersFrom, List.length_append, List.length_cons]
    omega

/-! ## Records -/

/-- Where the values of a function at some arguments are put in another order, the arguments can be
put in that order. -/
theorem exists_map_eq_of_perm_map {α β : Type} {f : α → β} {l : List α} {l' : List β}
    (h : l'.Perm (l.map f)) : ∃ order : List α, order.Perm l ∧ order.map f = l' := by
  have hmap : List.Forall₂ (fun b a => f a = b) (l.map f) l :=
    List.forall₂_map_left_iff.2 (List.forall₂_same.2 fun _ _ => rfl)
  obtain ⟨order, horder, hperm⟩ := List.perm_comp_forall₂ h hmap
  have heq : List.Forall₂ (· = ·) (order.map f) l' := List.forall₂_map_left_iff.2 horder.flip
  rw [List.forall₂_eq_eq_eq] at heq
  exact ⟨order, hperm, heq⟩

namespace Record

variable {F : Type} {β : F → Type} {r : Record F β} {v : (f : F) → β f}

/-- A record is complete once each field has been read. -/
theorem complete_of_forall {fields : Fields β} (h : ∀ f, fields f = some (v f)) :
    r.complete fields = .ok v := by
  have hheld : ∀ f, r.held fields f = some (v f) := by
    intro f
    rw [held, h f, Option.some_or]
  unfold complete
  split
  · next f hf =>
    have hmissing := List.find?_some hf
    simp [hheld f] at hmissing
  · simp only [hheld, Option.get_some]

theorem find?_name_eq (hname : Function.Injective r.name) (f : F) :
    r.fields.find? (fun g => r.name g = r.name f) = some f := by
  cases hfound : r.fields.find? (fun g => r.name g = r.name f) with
  | none =>
    have hself := List.find?_eq_none.1 hfound f (r.all_fields f)
    simp at hself
  | some g =>
    have hsome := List.find?_some hfound
    rw [hname (of_decide_eq_true hsome)]

variable [DecidableEq F] {written : F → Json}

theorem reader_brace (r : Record F β) (rest : List Glyph) :
    r.reader (.char '{' :: rest) =
      (do
        let (fields, rest) ← r.members rest true .none rest
        match r.complete fields with
        | .ok v => return (v, rest)
        | .error f => .error (.before rest (.missingMember (r.name f)))) := rfl

/-- The members of the fields in `order` are read to the end of the object, and are the fields that
are read on the way. The fuel is any text with a glyph for each member and for the end. -/
theorem members_membersFrom (hname : Function.Injective r.name)
    (hread : ∀ f, Reads (r.read f) (v f) (written f)) {order : List F} (hnodup : order.Nodup)
    (after : List Char) (first : Bool) {fields : Fields β} (hnew : ∀ f ∈ order, fields f = none)
    {fuel : List Glyph} (hfuel : order.length < fuel.length) :
    ∃ fields' : Fields β,
      r.members fuel first fields
          ((membersFrom after first (order.map fun f => (r.name f, written f))).map .char) =
        .ok (fields', after.map .char) ∧
      (∀ f ∈ order, fields' f = some (v f)) ∧
      ∀ f, f ∉ order → fields' f = fields f := by
  induction order generalizing first fields fuel with
  | nil =>
    cases fuel with
    | nil => cases hfuel
    | cons g fuel =>
      refine ⟨fields, ?_, fun f hf => absurd hf List.not_mem_nil, fun f _ => rfl⟩
      simp only [List.map_nil, members, nextMember_membersFrom_nil]
  | cons f order ih =>
    cases fuel with
    | nil => cases hfuel
    | cons g fuel =>
      obtain ⟨hf, hnodup⟩ := List.nodup_cons.1 hnodup
      -- No field comes twice, so those that are left have not been read after `f` has.
      have hrest : ∀ f' ∈ order, (fields.set f (v f)) f' = none := by
        intro f' hf'
        have hne : f ≠ f' := fun heq => hf (heq ▸ hf')
        rw [Fields.set_of_ne hne]
        exact hnew f' (List.mem_cons_of_mem f hf')
      obtain ⟨fields', hmembers, hheld, hkept⟩ :=
        ih hnodup false hrest (Nat.lt_of_succ_lt_succ hfuel)
      refine ⟨fields', ?_, ?_, ?_⟩
      · have hunread : (fields f).isSome = false := by
          rw [hnew f List.mem_cons_self]
          rfl
        have hvalue : ∀ after : List Char, r.read f ((print after (written f)).map .char) =
            .ok (v f, after.map .char) := hread f
        simp only [List.map_cons, membersFrom, members, nextMember_separator, string_openString,
          find?_name_eq hname, hunread, Bool.false_eq_true, ↓reduceIte, colon_cons,
          hvalue, hmembers]
      · intro f' hf'
        rcases List.mem_cons.1 hf' with rfl | hf'
        · rw [hkept f' hf, Fields.set_self]
        · exact hheld f' hf'
      · intro f' hf'
        have hne : f ≠ f' := fun heq => hf' (heq ▸ List.mem_cons_self)
        rw [hkept f' fun hmem => hf' (List.mem_cons_of_mem f hmem), Fields.set_of_ne hne]

/-- The whole record is read back from the object of its members, in whatever order they stand
there. -/
theorem reads_reader (hname : Function.Injective r.name)
    (hread : ∀ f, Reads (r.read f) (v f) (written f)) (hnodup : r.fields.Nodup)
    {ms : List (String × Json)}
    (hms : ms.Perm (ofMembers (r.fields.map fun f => (r.name f, written f))).members) :
    Reads r.reader v (.object ms) := by
  intro after
  have hnames : ((r.fields.map fun f => (r.name f, written f)).map Prod.fst).Nodup := by
    rw [List.map_map]
    exact hnodup.map hname
  obtain ⟨order, horder, rfl⟩ :=
    exists_map_eq_of_perm_map (hms.trans (Named.ofList_perm hnames))
  have hlt := length_lt_length_membersFrom after true
    (order.map fun f => (r.name f, written f))
  have hfuel : order.length <
      ((membersFrom after true (order.map fun f => (r.name f, written f))).map
        Glyph.char).length := by
    rw [List.length_map] at hlt ⊢
    omega
  have hnone : ∀ f ∈ order, (Fields.none : Fields β) f = none := fun f _ => rfl
  obtain ⟨fields, hmembers, hheld, -⟩ :=
    members_membersFrom hname hread (horder.nodup_iff.2 hnodup) after true hnone hfuel
  have hcomplete : r.complete fields = .ok v :=
    complete_of_forall fun f => hheld f (horder.mem_iff.2 (r.all_fields f))
  rw [print_object, List.map_cons, reader_brace, hmembers]
  simp only [bind, Except.bind, hcomplete]
  rfl

end Record

/-! ## Tagged values -/

theorem reads_oneOf {α : Type} {cases : List (String × α)} {name : String} {v : α}
    (h : cases.lookup name = some v) : Reads (oneOf cases) v (.string name) := by
  intro after
  have hname : caseName cases ((printString name after).map .char) =
      (do
        let (name, rest) ← Lexeme.string ((openString name after).map .char)
        return (← namedCase cases name rest, rest)) := rfl
  rw [print]
  refine Eq.trans hname ?_
  simp only [string_openString, namedCase, h, bind, Except.bind]
  rfl

namespace Tagged

variable {α : Type} {t : Tagged α} {name : String} {case : TaggedCase α} {a : α} {written : Json}

theorem members_tag (g : Glyph) (fuel : List Glyph) (first : Bool) (seen : Seen α)
    (after : List Char) :
    t.members (g :: fuel) first seen ((separator first ++ printString t.tag after).map .char) =
      (do
        let (seen, rest) ← t.seeTag seen (after.map .char)
        t.members fuel false seen rest) := by
  simp only [members, nextMember_separator, string_openString, bind, Except.bind, ↓reduceIte]

theorem members_content (ht : t.tag ≠ t.content) (g : Glyph) (fuel : List Glyph) (first : Bool)
    (seen : Seen α) (after : List Char) :
    t.members (g :: fuel) first seen ((separator first ++ printString t.content after).map .char) =
      (do
        let (seen, rest) ← t.seeContent seen (after.map .char)
        t.members fuel false seen rest) := by
  simp only [members, nextMember_separator, string_openString, bind, Except.bind, Ne.symm ht,
    ↓reduceIte]

theorem members_end (g : Glyph) (fuel : List Glyph) (first : Bool) (a : α) (after : List Char) :
    t.members (g :: fuel) first (.both a) ((membersFrom after first []).map .char) =
      .ok (a, after.map .char) := rfl

theorem seeTag_nothing (hcase : t.cases.lookup name = some case) (after : List Char) :
    t.seeTag .nothing ((':' :: print after (.string name)).map .char) =
      .ok (.tagged case, after.map .char) := by
  have hname : oneOf t.cases ((print after (.string name)).map .char) =
      .ok (case, after.map .char) := reads_oneOf hcase after
  simp only [seeTag, List.map_cons, colon_cons, hname, bind, Except.bind]
  rfl

theorem seeTag_kept (hcase : t.cases.lookup name = some case) (htake : case.take written = .ok a)
    (after : List Char) :
    t.seeTag (.kept written) ((':' :: print after (.string name)).map .char) =
      .ok (.both a, after.map .char) := by
  have hname : oneOf t.cases ((print after (.string name)).map .char) =
      .ok (case, after.map .char) := reads_oneOf hcase after
  simp only [seeTag, List.map_cons, colon_cons, hname, htake, bind, Except.bind]
  rfl

theorem seeContent_nothing (hkept : Reads (value (depthLimit - 1)) written written)
    (after : List Char) :
    t.seeContent .nothing ((':' :: print after written).map .char) =
      .ok (.kept written, after.map .char) := by
  have hvalue : value (depthLimit - 1) ((print after written).map .char) =
      .ok (written, after.map .char) := hkept after
  simp only [seeContent, List.map_cons, colon_cons, hvalue, bind, Except.bind]
  rfl

theorem seeContent_tagged (hread : Reads case.read a written) (after : List Char) :
    t.seeContent (.tagged case) ((':' :: print after written).map .char) =
      .ok (.both a, after.map .char) := by
  have hvalue : case.read ((print after written).map .char) = .ok (a, after.map .char) :=
    hread after
  simp only [seeContent, List.map_cons, colon_cons, hvalue, bind, Except.bind]
  rfl

/-- A tagged value is read back, whether its name was written first or last. -/
theorem reads_reader (ht : t.tag ≠ t.content) (hcase : t.cases.lookup name = some case)
    (hread : Reads case.read a written)
    (hkept : Reads (value (depthLimit - 1)) written written) (htake : case.take written = .ok a)
    {ms : List (String × Json)}
    (hms : ms.Perm (ofMembers [(t.tag, .string name), (t.content, written)]).members) :
    Reads t.reader a (.object ms) := by
  intro after
  have hnames : [t.tag, t.content].Nodup := by simp [ht]
  have hms := hms.trans (Named.ofList_perm hnames)
  have hmembers : ∀ fuel : List Glyph, 2 < fuel.length →
      t.members fuel true .nothing ((membersFrom after true ms).map .char) =
        .ok (a, after.map .char) := by
    intro fuel hfuel
    match fuel, hfuel with
    | g :: g' :: g'' :: fuel, _ =>
      rcases List.perm_pair.1 hms with rfl | rfl
      -- The name first: the case reads the value itself.
      · simp only [membersFrom_cons, members_tag, seeTag_nothing hcase, members_content ht,
          seeContent_tagged hread, members_end, bind, Except.bind]
      -- The value first: it is kept as it is, and the case takes it from there.
      · simp only [membersFrom_cons, members_content ht, seeContent_nothing hkept, members_tag,
          seeTag_kept hcase htake, members_end, bind, Except.bind]
  have hlt := length_lt_length_membersFrom after true ms
  have hfuel : 2 < ((membersFrom after true ms).map Glyph.char).length := by
    have hlength : ms.length = 2 := hms.length_eq
    rw [List.length_map]
    omega
  rw [print_object]
  exact hmembers _ hfuel

end Tagged

end DeviceIdentity.Json
