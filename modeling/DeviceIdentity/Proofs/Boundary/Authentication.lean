import DeviceIdentity.Proofs.Boundary.Answering
import DeviceIdentity.Proofs.Boundary.Tokens

/-!
# Who is let in

A request comes from the component that its token was issued to. The table and the header are cut
and trimmed apart from each other, one as text and the other as bytes; here both are told by what
they are put together from.
-/
namespace DeviceIdentity

namespace Net

/-- A byte that may stand in the text of a header: a printable ASCII character, a space or a tab. -/
def Visible (b : UInt8) : Prop := 32 ≤ b ∧ b < 127 ∨ b = 9

/-- A space or a tab. -/
def Space (b : UInt8) : Prop := b = 32 ∨ b = 9

instance (b : UInt8) : Decidable (Visible b) := inferInstanceAs (Decidable (_ ∨ _))

instance (b : UInt8) : Decidable (Space b) := inferInstanceAs (Decidable (_ ∨ _))

theorem visible_of_all {bytes : List UInt8} (h : (bytes.all fun b => Visible b) = true) :
    ∀ b ∈ bytes, Visible b := by
  intro b hb
  exact of_decide_eq_true (List.all_eq_true.1 h b hb)

theorem visible_iff {b : UInt8} :
    Visible b ↔ 32 ≤ b.toNat ∧ b.toNat < 127 ∨ b.toNat = 9 := by
  rw [Visible, UInt8.le_iff_toNat_le, UInt8.lt_iff_toNat_lt, ← UInt8.toNat_inj]
  rfl

theorem space_iff {b : UInt8} : Space b ↔ b.toNat = 32 ∨ b.toNat = 9 := by
  rw [Space, ← UInt8.toNat_inj, ← UInt8.toNat_inj]
  rfl

theorem Visible.lt {b : UInt8} (h : Visible b) : b < 128 := by
  have hb := visible_iff.1 h
  rw [UInt8.lt_iff_toNat_lt, show (128 : UInt8).toNat = 128 from rfl]
  omega

theorem Space.visible {b : UInt8} (h : Space b) : Visible b := by
  have hb := space_iff.1 h
  rw [visible_iff]
  omega

/-- The blanks among visible characters are the space and the tab. -/
theorem Visible.isBlank_iff {b : UInt8} (h : Visible b) :
    Text.isBlank (Char.ofNat b.toNat) = true ↔ Space b := by
  have hb := visible_iff.1 h
  have hchar := Text.toNat_ofNat (n := b.toNat) h.lt
  simp only [space_iff, Text.isBlank, hchar, Bool.or_eq_true, Bool.and_eq_true, decide_eq_true_eq,
    beq_iff_eq]
  omega

/-- The text of a header is the one with its bytes, if all of them are visible. -/
theorem visibleText?_eq_some_iff {value : List UInt8} {text : List Char} :
    visibleText? value = some text ↔
      (∀ b ∈ value, Visible b) ∧ Text.utf8 (String.ofList text) = value := by
  have hall : (value.all fun b => (32 ≤ b && b < 127) || b == 9) = true ↔
      ∀ b ∈ value, Visible b := by
    rw [List.all_eq_true]
    refine forall₂_congr fun b _ => ?_
    simp [Visible]
  unfold visibleText?
  by_cases hvisible : ∀ b ∈ value, Visible b
  · have hbytes : Text.utf8 (String.ofList (Text.ascii value)) = value :=
      Text.utf8_ofList_ascii fun b hb => (hvisible b hb).lt
    rw [if_pos (hall.2 hvisible), Option.some.injEq]
    constructor
    · rintro rfl
      exact ⟨hvisible, hbytes⟩
    · rintro ⟨-, htext⟩
      exact String.ofList_injective (Text.utf8_injective (hbytes.trans htext.symm))
  · rw [if_neg (mt hall.1 hvisible)]
    constructor
    · intro h
      cases h
    · rintro ⟨h, -⟩
      exact absurd h hvisible

theorem eq_ascii_of_visibleText? {value : List UInt8} {text : List Char}
    (h : visibleText? value = some text) : text = Text.ascii value := by
  unfold visibleText? at h
  split at h
  · cases h
    rfl
  · cases h

/-- Visible blanks are spaces and tabs in bytes. -/
theorem space_of_blank {value : List UInt8} {cs : List Char} (hvisible : ∀ b ∈ value, Visible b)
    (hcs : ∀ c ∈ cs, c ∈ Text.ascii value) (hblank : ∀ c ∈ cs, Text.isBlank c = true) :
    ∀ b ∈ cs.flatMap String.utf8EncodeChar, Space b := by
  intro b hb
  obtain ⟨c, hc, hbc⟩ := List.mem_flatMap.1 hb
  obtain ⟨b', hb', rfl⟩ := List.mem_map.1 (hcs c hc)
  have hvisible' := hvisible b' hb'
  rw [Text.utf8EncodeChar_ofNat hvisible'.lt, List.mem_singleton] at hbc
  subst hbc
  exact hvisible'.isBlank_iff.1 (hblank _ hc)

theorem blank_of_space {bytes : List UInt8} (h : ∀ b ∈ bytes, Space b) :
    ∀ c ∈ Text.ascii bytes, Text.isBlank c = true := by
  intro c hc
  obtain ⟨b, hb, rfl⟩ := List.mem_map.1 hc
  exact (h b hb).visible.isBlank_iff.2 (h b hb)

end Net

namespace Bearer

/-- The text has the word `bearer` in any case, a space, and the token with blanks around it. -/
theorem ofText?_eq_some_iff {text token : List Char} :
    ofText? text = some token ↔
      (∃ scheme left right, text = scheme ++ ' ' :: (left ++ token ++ right) ∧
        scheme.map Char.toLower = "bearer".toList ∧
        ∀ c ∈ left ++ right, Text.isBlank c = true) ∧
      Text.Trimmed token ∧ token ≠ [] := by
  constructor
  · intro h
    unfold ofText? at h
    cases hsplit : Text.splitOnce ' ' text with
    | none =>
      rw [hsplit] at h
      cases h
    | some parts =>
      obtain ⟨scheme, rest⟩ := parts
      rw [hsplit] at h
      simp only at h
      split at h
      · next hscheme =>
        cases h
        obtain ⟨left, right, hblank, hrest⟩ := Text.exists_append_trim rest
        obtain ⟨rfl, -⟩ := Text.splitOnce_eq_some hsplit
        refine ⟨⟨scheme, left, right, ?_, hscheme.1, hblank⟩, Text.trimmed_trim rest, hscheme.2⟩
        exact congrArg (fun rest => scheme ++ ' ' :: rest) hrest
      · cases h
  · rintro ⟨⟨scheme, left, right, rfl, hscheme, hblank⟩, htrimmed, hne⟩
    have hspace : ' ' ∉ scheme := by
      intro hmem
      have hlower : ' ' ∈ "bearer".toList := hscheme ▸ List.mem_map.2 ⟨' ', hmem, rfl⟩
      revert hlower
      decide
    rw [ofText?, Text.splitOnce_append hspace]
    simp only [htrimmed.trim_append hblank, hscheme, hne, ne_eq, not_false_eq_true, and_self,
      ↓reduceIte]

/-- The value of a header carries the token: all of its bytes are visible, and they are the word
`bearer` in any case, a space, and the bytes of the token with spaces and tabs around them. -/
def Carries (value : List UInt8) (token : String) : Prop :=
  (∀ b ∈ value, Net.Visible b) ∧ ∃ scheme left right,
    value = Text.utf8 scheme ++ 32 :: (left ++ Text.utf8 token ++ right) ∧
    Net.sameName scheme "bearer" = true ∧ ∀ b ∈ left ++ right, Net.Space b

theorem utf8_text (scheme left token right : List Char) :
    Text.utf8 (String.ofList (scheme ++ ' ' :: (left ++ token ++ right))) =
      scheme.flatMap String.utf8EncodeChar ++ 32 ::
        (left.flatMap String.utf8EncodeChar ++ token.flatMap String.utf8EncodeChar ++
          right.flatMap String.utf8EncodeChar) := by
  have hspace : String.utf8EncodeChar ' ' = [32] := by decide
  simp only [Text.utf8_ofList, List.flatMap_append, List.flatMap_cons, hspace, List.cons_append,
    List.nil_append]

theorem sameName_bearer_iff {scheme : String} :
    Net.sameName scheme "bearer" = true ↔ scheme.toList.map Char.toLower = "bearer".toList := by
  have hlower : "bearer".toList.map Char.toLower = "bearer".toList := by decide
  rw [Net.sameName, hlower, beq_iff_eq]

theorem carries_of_text {value : List UInt8} {text : List Char} {token : String}
    (htext : Net.visibleText? value = some text) (h : ofText? text = some token.toList) :
    Carries value token := by
  obtain ⟨hvisible, hvalue⟩ := Net.visibleText?_eq_some_iff.1 htext
  have hascii := Net.eq_ascii_of_visibleText? htext
  obtain ⟨⟨scheme, left, right, rfl, hscheme, hblank⟩, -, -⟩ := ofText?_eq_some_iff.1 h
  refine ⟨hvisible, String.ofList scheme, left.flatMap String.utf8EncodeChar,
    right.flatMap String.utf8EncodeChar, ?_, ?_, ?_⟩
  · rw [← hvalue, utf8_text, Text.utf8_ofList]
    rfl
  · rw [sameName_bearer_iff, String.toList_ofList]
    exact hscheme
  · rw [← List.flatMap_append]
    refine Net.space_of_blank hvisible ?_ hblank
    intro c hc
    rw [← hascii]
    rcases List.mem_append.1 hc with hc | hc <;> simp [hc]

theorem text_of_carries {value : List UInt8} {token : String} (h : Carries value token)
    (htrimmed : Text.Trimmed token.toList) (hne : token.toList ≠ []) :
    ∃ text, Net.visibleText? value = some text ∧ ofText? text = some token.toList := by
  obtain ⟨hvisible, scheme, left, right, hvalue, hscheme, hspace⟩ := h
  have hbytes : ∀ bytes : List UInt8, (∀ b ∈ bytes, Net.Space b) →
      (Text.ascii bytes).flatMap String.utf8EncodeChar = bytes := by
    intro bytes hspace
    rw [← Text.utf8_ofList]
    exact Text.utf8_ofList_ascii fun b hb => (hspace b hb).visible.lt
  refine ⟨scheme.toList ++ ' ' :: (Text.ascii left ++ token.toList ++ Text.ascii right), ?_, ?_⟩
  · refine Net.visibleText?_eq_some_iff.2 ⟨hvisible, ?_⟩
    rw [utf8_text, hbytes left fun b hb => hspace b (List.mem_append_left _ hb),
      hbytes right fun b hb => hspace b (List.mem_append_right _ hb), hvalue]
    rfl
  · refine ofText?_eq_some_iff.2 ⟨⟨_, _, _, rfl, sameName_bearer_iff.1 hscheme, ?_⟩, htrimmed, hne⟩
    have hblank := Net.blank_of_space hspace
    rw [Text.ascii, List.map_append] at hblank
    exact hblank

/-- The token of a request is what its first `Authorization` header carries. -/
theorem token_eq_ok_iff {headers : List Net.Header} {token : String} :
    Bearer.token headers = .ok token ↔
      ∃ value, Net.firstHeader? "Authorization" headers = some value ∧ Carries value token ∧
        Text.Trimmed token.toList ∧ token ≠ "" := by
  unfold Bearer.token
  cases hvalue : Net.firstHeader? "Authorization" headers with
  | none => simp
  | some value =>
    simp only [Option.some.injEq, exists_eq_left']
    constructor
    · intro h
      cases htoken : (Net.visibleText? value).bind ofText? with
      | none =>
        rw [htoken] at h
        cases h
      | some cs =>
        rw [htoken] at h
        cases h
        obtain ⟨text, htext, hcs⟩ := Option.bind_eq_some_iff.1 htoken
        rw [← String.toList_ofList (l := cs)] at hcs
        obtain ⟨-, htrimmed, hne⟩ := ofText?_eq_some_iff.1 hcs
        exact ⟨carries_of_text htext hcs, htrimmed, mt String.toList_eq_nil_iff.2 hne⟩
    · rintro ⟨hcarries, htrimmed, hne⟩
      obtain ⟨text, htext, hcs⟩ :=
        text_of_carries hcarries htrimmed (mt String.toList_eq_nil_iff.1 hne)
      simp only [htext, Option.bind_some, hcs, String.ofList_toList]

/-- The word `Bearer`, a space, and a visible token with spaces and tabs around it. -/
theorem carries_bearer {token : String} {left right : List UInt8}
    (hvisible : ∀ b ∈ Text.utf8 token, Net.Visible b) (hspace : ∀ b ∈ left ++ right, Net.Space b) :
    Carries (Text.utf8 "Bearer" ++ 32 :: (left ++ Text.utf8 token ++ right)) token := by
  refine ⟨?_, "Bearer", left, right, rfl, by decide, hspace⟩
  have hscheme : ∀ b ∈ Text.utf8 "Bearer", Net.Visible b := Net.visible_of_all (by decide)
  have hleft : ∀ b ∈ left, Net.Visible b := fun b hb =>
    (hspace b (List.mem_append_left _ hb)).visible
  have hright : ∀ b ∈ right, Net.Visible b := fun b hb =>
    (hspace b (List.mem_append_right _ hb)).visible
  have hthirtyTwo : Net.Visible 32 := .inl (by decide)
  simp only [List.forall_mem_append, List.forall_mem_cons]
  exact ⟨hscheme, hthirtyTwo, ⟨hleft, hvisible⟩, hright⟩

theorem ofText?_of_spaces {scheme spaces : List UInt8} {text : List Char}
    (htext : Net.visibleText? (scheme ++ 32 :: spaces) = some text) (hscheme : 32 ∉ scheme)
    (hspaces : ∀ b ∈ spaces, Net.Space b) : ofText? text = none := by
  obtain ⟨hvisible, -⟩ := Net.visibleText?_eq_some_iff.1 htext
  have hsplit : text = Text.ascii scheme ++ ' ' :: Text.ascii spaces := by
    rw [Net.eq_ascii_of_visibleText? htext, Text.ascii, List.map_append]
    rfl
  have hnotMem : ' ' ∉ Text.ascii scheme :=
    Text.notMem_ascii (by decide) (fun b hb => (hvisible b (List.mem_append_left _ hb)).lt) hscheme
  rw [ofText?, hsplit, Text.splitOnce_append hnotMem]
  simp only [Text.trim_of_blank (Net.blank_of_space hspaces), ne_eq, not_true_eq_false, and_false,
    ↓reduceIte]

/-- A header with nothing but spaces and tabs after its first space carries no token. -/
theorem token_of_spaces {headers : List Net.Header} {scheme spaces : List UInt8}
    (hvalue : Net.firstHeader? "Authorization" headers = some (scheme ++ 32 :: spaces))
    (hscheme : 32 ∉ scheme) (hspaces : ∀ b ∈ spaces, Net.Space b) :
    Bearer.token headers = .error .malformed := by
  have hnone : (Net.visibleText? (scheme ++ 32 :: spaces)).bind ofText? = none := by
    cases htext : Net.visibleText? (scheme ++ 32 :: spaces) with
    | none => rfl
    | some text => exact ofText?_of_spaces htext hscheme hspaces
  rw [Bearer.token, hvalue]
  simp only [hnone]

end Bearer

namespace Boundary

theorem value_authenticate (tokens : Tokens) (r : Net.Request) :
    (authenticate tokens r).value =
      match component? tokens r with
      | some c => .ok c
      | none => .error (refused notAuthorizedMessage) := by
  simp only [authenticate, Noted.value_bind, value_caller?]
  cases component? tokens r <;> rfl

theorem authenticate_eq_ok_iff {tokens : Tokens} {r : Net.Request} {c : String} :
    (authenticate tokens r).value = .ok c ↔ component? tokens r = some c := by
  rw [value_authenticate]
  cases component? tokens r with
  | none => simp only [reduceCtorEq]
  | some c' => simp only [Except.ok.injEq, Option.some.injEq]

theorem component?_eq_some_iff {tokens : Tokens} (h : tokens.Wellformed) {r : Net.Request}
    {c : String} :
    component? tokens r = some c ↔
      ∃ value token, Net.firstHeader? "Authorization" r.headers = some value ∧
        Bearer.Carries value token ∧ tokens.FirstOwner token c := by
  constructor
  · intro hc
    obtain ⟨token, htoken, hidentify⟩ := Option.bind_eq_some_iff.1 hc
    have hok : Bearer.token r.headers = .ok token := by
      cases hbearer : Bearer.token r.headers with
      | error fault =>
        rw [hbearer] at htoken
        cases htoken
      | ok token' =>
        rw [hbearer] at htoken
        cases htoken
        rfl
    obtain ⟨value, hvalue, hcarries, -, -⟩ := Bearer.token_eq_ok_iff.1 hok
    exact ⟨value, token, hvalue, hcarries, Tokens.identify_eq_some_iff.1 hidentify⟩
  · rintro ⟨value, token, hvalue, hcarries, howner⟩
    obtain ⟨hne, htrimmed⟩ := h _ howner.mem
    have hok := Bearer.token_eq_ok_iff.2 ⟨value, hvalue, hcarries, htrimmed, hne⟩
    rw [component?, hok]
    exact Tokens.identify_eq_some_iff.2 howner

/-- A caller that is not known is answered with status 401, whatever the method. -/
theorem admission_of_unknown {tokens : Tokens} {r : Net.Request} (hroute : r.path = route)
    (h : component? tokens r = none) :
    ∃ response, (admission tokens r).value = .answered response ∧ response.status = 401 := by
  simp only [admission, hroute, ne_eq, not_true_eq_false, ↓reduceIte, Noted.value_bind,
    value_authenticate, h]
  refine ⟨_, rfl, ?_⟩
  split <;> rfl

/-- With a table that was parsed, a request is let in as a component if and only if its first
`Authorization` header carries, byte for byte, a token whose first owner in the table is that
component. Such a token is not empty and has no blanks at its ends, so it is the header that decides
which token it is. Hence a token that can stand in a header lets in its first owner, with any spaces
and tabs around it; a header without a token lets in nobody; and whoever is not let in is answered
with status 401. -/
theorem authenticate_of_parse {text : String} {tokens : Tokens}
    (h : Tokens.parse text = .ok tokens) :
    (∀ r c, (authenticate tokens r).value = .ok c ↔
      ∃ value token, Net.firstHeader? "Authorization" r.headers = some value ∧
        Bearer.Carries value token ∧ tokens.FirstOwner token c) ∧
    (∀ e ∈ tokens.entries, e.2 ≠ "" ∧ Text.Trimmed e.2.toList) ∧
    (∀ e ∈ tokens.entries, (∀ b ∈ Text.utf8 e.2, Net.Visible b) →
      ∀ left right, (∀ b ∈ left ++ right, Net.Space b) →
      ∀ r : Net.Request, Net.firstHeader? "Authorization" r.headers =
          some (Text.utf8 "Bearer" ++ 32 :: (left ++ Text.utf8 e.2 ++ right)) →
        ∃ c, tokens.FirstOwner e.2 c ∧ (authenticate tokens r).value = .ok c) ∧
    (∀ (r : Net.Request) scheme spaces,
      Net.firstHeader? "Authorization" r.headers = some (scheme ++ 32 :: spaces) →
      32 ∉ scheme → (∀ b ∈ spaces, Net.Space b) → ∀ c, (authenticate tokens r).value ≠ .ok c) ∧
    (∀ r, (∀ c, (authenticate tokens r).value ≠ .ok c) →
      (authenticate tokens r).value = .error (refused notAuthorizedMessage) ∧
        (refused notAuthorizedMessage).status = 401 ∧
        (r.path = route → ∃ response,
          (admission tokens r).value = .answered response ∧ response.status = 401)) := by
  have hwell := Tokens.wellformed_of_parse h
  refine ⟨?_, hwell, ?_, ?_, ?_⟩
  · intro r c
    rw [authenticate_eq_ok_iff, component?_eq_some_iff hwell]
  · intro e he hvisible left right hspace r hvalue
    obtain ⟨c, howner⟩ := Tokens.exists_firstOwner he
    refine ⟨c, howner, ?_⟩
    rw [authenticate_eq_ok_iff, component?_eq_some_iff hwell]
    exact ⟨_, e.2, hvalue, Bearer.carries_bearer hvisible hspace, howner⟩
  · intro r scheme spaces hvalue hscheme hspaces c hc
    rw [authenticate_eq_ok_iff, component?,
      Bearer.token_of_spaces hvalue hscheme hspaces] at hc
    cases hc
  · intro r hr
    have hnone : component? tokens r = none := by
      rw [Option.eq_none_iff_forall_ne_some]
      intro c hc
      exact hr c (authenticate_eq_ok_iff.2 hc)
    refine ⟨?_, rfl, fun hroute => admission_of_unknown hroute hnone⟩
    rw [value_authenticate, hnone]

/-- Of two components with one token, which has an equals sign and a space in it, the first one is
let in. -/
theorem authenticate_of_parse_shared_token :
    Tokens.parse " broker = t=1 x ,, bridge=t=1 x," =
        .ok ⟨[("broker", "t=1 x"), ("bridge", "t=1 x")]⟩ ∧
      (authenticate ⟨[("broker", "t=1 x"), ("bridge", "t=1 x")]⟩
        ⟨"POST", route, [⟨"authorization", Text.utf8 "bEaReR  t=1 x\t"⟩], [], none⟩).value =
          .ok "broker" := by
  have hparse : Tokens.parse " broker = t=1 x ,, bridge=t=1 x," =
      .ok ⟨[("broker", "t=1 x"), ("bridge", "t=1 x")]⟩ := by
    decide +kernel
  refine ⟨hparse, ((authenticate_of_parse hparse).1 _ "broker").2 ?_⟩
  refine ⟨Text.utf8 "bEaReR  t=1 x\t", "t=1 x", by decide +kernel,
    ⟨Net.visible_of_all (by decide +kernel), ?_⟩, ?_⟩
  · exact ⟨"bEaReR", [32], [9], by decide +kernel, by decide +kernel, by simp [Net.Space]⟩
  · refine ⟨[], [("bridge", "t=1 x")], rfl, ?_⟩
    intro e he
    exact absurd he List.not_mem_nil

end Boundary

end DeviceIdentity
