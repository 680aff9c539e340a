import DeviceIdentity.Proofs.Pem.Quotation
import DeviceIdentity.Proofs.Seeding

/-!
# What the log tells of a certificate

A certificate is never to be seen in the log in full, neither as text nor as the list of its bytes.
The only events that quote a certificate at all are those of a text that cannot be decoded, and a
quotation is part of a list of bytes. What is quoted is as large as the text only if the text is a
single line that starts like the beginning of a section and does not end like one, so these texts
are told in full, and no others are.

Dashes and commas decide: no event that is looked at here has a dash, and a list of bytes has a
comma between each two.
-/
namespace DeviceIdentity

/-! ## Showing a text -/

/-- The decimal numbers of bytes, with a separator between each two. -/
def decimals (separator : String) (bytes : List UInt8) : String :=
  separator.intercalate (bytes.map fun b => toString b.toNat)

/-- The whole text is a part of another one, as it is or as the list of its bytes. -/
def Shows (shown text : String) : Prop :=
  text.toList <:+: shown.toList ∨
    ∃ separator ∈ [",", ", "], (decimals separator (Text.utf8 text)).toList <:+: shown.toList

/-- The texts of a record: its messages, and what its fields hold other than paths. -/
def Record.texts (r : Record) : List String :=
  r.messages ++ (r.fields.filter fun field => field.1 ≠ "path" ∧ field.1 ≠ "dir").map fun field =>
    match field.2 with
    | .string s => s
    | v => v.compact

/-- One of the texts of the event shows the whole text. -/
def Event.Reveals (e : Event) (text : String) : Prop := ∃ shown ∈ e.record.texts, Shows shown text

/-! ## Dashes and commas -/

/-- A text without dashes and with no more than so many commas. -/
def Bare (commas : Nat) (s : String) : Prop :=
  '-' ∉ s.toList ∧ s.toList.count ',' ≤ commas

instance (commas : Nat) (s : String) : Decidable (Bare commas s) :=
  inferInstanceAs (Decidable (_ ∧ _))

theorem Bare.append {n m : Nat} {s t : String} (hs : Bare n s) (ht : Bare m t) :
    Bare (n + m) (s ++ t) := by
  obtain ⟨hdash, hcomma⟩ := hs
  obtain ⟨hdash', hcomma'⟩ := ht
  refine ⟨by simp [hdash, hdash'], ?_⟩
  rw [String.toList_append, List.count_append]
  omega

theorem Bare.behind {n : Nat} {s front : String} (h : Bare n s) (hfront : Bare 0 front) :
    Bare n (front ++ s) :=
  Nat.zero_add n ▸ hfront.append h

theorem bare_of_notMem {s : String} (hdash : '-' ∉ s.toList) (hcomma : ',' ∉ s.toList) :
    Bare 0 s :=
  ⟨hdash, Nat.le_of_eq (List.count_eq_zero.2 hcomma)⟩

/-- A number has neither dashes nor commas. -/
theorem bare_repr (n : Nat) : Bare 0 (toString n) := by
  have hdigits : ∀ c ∈ (toString n).toList, c.isDigit = true := by
    intro c hc
    have hc : c ∈ n.repr.toList := hc
    rw [Nat.toList_repr] at hc
    exact Nat.isDigit_of_mem_toDigits (by decide) (by decide) hc
  refine bare_of_notMem (fun hmem => ?_) (fun hmem => ?_)
  · exact absurd (hdigits _ hmem) (by decide)
  · exact absurd (hdigits _ hmem) (by decide)

/-- Between each two numbers of a list stands one comma. -/
theorem count_comma_decimals {separator : String} (h : separator ∈ [",", ", "])
    (bytes : List UInt8) : (decimals separator bytes).toList.count ',' = bytes.length - 1 := by
  have hseparator : separator.toList.count ',' = 1 := by
    rcases List.mem_pair.1 h with rfl | rfl <;> decide
  have hnumber (b : UInt8) : (toString b.toNat).toList.count ',' = 0 :=
    Nat.le_zero.1 (bare_repr b.toNat).2
  unfold decimals
  induction bytes with
  | nil => rfl
  | cons b rest ih =>
    cases rest with
    | nil => simpa using hnumber b
    | cons b' rest =>
      simp only [List.map_cons, String.intercalate_cons_cons, String.toList_append,
        List.count_append, hnumber, hseparator] at ih ⊢
      simp only [List.length_cons] at ih ⊢
      omega

theorem dash_notMem_decimals (bytes : List UInt8) : '-' ∉ (decimals ", " bytes).toList := by
  unfold decimals
  induction bytes with
  | nil => decide
  | cons b rest ih =>
    have hnumber := (bare_repr b.toNat).1
    cases rest with
    | nil => simpa using hnumber
    | cons b' rest =>
      simp only [List.map_cons, String.intercalate_cons_cons, String.toList_append] at ih ⊢
      simp only [List.mem_append, not_or]
      exact ⟨⟨hnumber, by decide⟩, ih⟩

theorem bare_byteList (cs : List Char) : Bare (Pem.byteSize cs - 1) (Pem.byteList cs) := by
  have hlist : Bare (Pem.byteSize cs - 1) (decimals ", " (cs.flatMap String.utf8EncodeChar)) :=
    ⟨dash_notMem_decimals _, Nat.le_of_eq (count_comma_decimals (by simp) _)⟩
  have hopen : Bare 0 "[" := by decide
  have hclose : Bare 0 "]" := by decide
  exact (hlist.behind hopen).append hclose

/-- A text with dashes is not shown where there are fewer commas than between its bytes. -/
theorem Bare.not_shows {commas : Nat} {shown text : String} (h : Bare commas shown)
    (hdash : '-' ∈ text.toList) (hsize : commas + 1 < Pem.byteSize text.toList) :
    ¬ Shows shown text := by
  rintro (hpart | ⟨separator, hseparator, hpart⟩)
  · exact h.1 (hpart.subset hdash)
  · have hcount := hpart.sublist.count_le ','
    rw [count_comma_decimals hseparator] at hcount
    have hlength : (Text.utf8 text).length = Pem.byteSize text.toList := rfl
    have hle := h.2
    omega

/-! ## Texts of faults and events -/

/-- The digits of hexadecimal texts. -/
def hexDigits : List Char := "0123456789abcdef".toList

theorem digitChar_mem_hexDigits {n : Nat} (h : n < 16) : Nat.digitChar n ∈ hexDigits := by
  have hall : ∀ n : Fin 16, Nat.digitChar n ∈ hexDigits := by decide
  exact hall ⟨n, h⟩

theorem mem_hexDigits_of_mem_hexOfNat {n : Nat} {c : Char} (h : c ∈ Text.hexOfNat n) :
    c ∈ hexDigits := by
  unfold Text.hexOfNat at h
  induction n using Nat.strongRecOn with
  | ind n ih =>
    rcases Nat.lt_or_ge n 16 with hlt | hge
    · rw [Nat.toDigits_of_lt_base hlt, List.mem_singleton] at h
      exact h ▸ digitChar_mem_hexDigits hlt
    · rw [Nat.toDigits_of_base_le (by decide) hge, List.mem_append, List.mem_singleton] at h
      rcases h with h | rfl
      · exact ih (n / 16) (by omega) h
      · exact digitChar_mem_hexDigits (Nat.mod_lt n (by decide))

theorem bare_quotedChar {c : Char} (h : c ≠ '-') : Bare 2 (Text.quotedChar c) := by
  have hescaped : '-' ∉ Text.escaped '\'' c ∧ (Text.escaped '\'' c).count ',' ≤ 2 := by
    have hlong {cs : List Char} (hdash : '-' ∉ cs) (hlength : cs.length ≤ 2) :
        '-' ∉ cs ∧ cs.count ',' ≤ 2 :=
      ⟨hdash, Nat.le_trans List.count_le_length hlength⟩
    unfold Text.escaped
    split_ifs
    · exact hlong (by decide) (by decide)
    · exact hlong (by decide) (by decide)
    · exact hlong (by decide) (by decide)
    · exact hlong (by decide) (by decide)
    · exact hlong (by simp [h.symm]) (by simp)
    · -- A code point is written with letters and digits only.
      have hnone {d : Char} (hd : d ∉ hexDigits) : d ∉ Text.hexOfNat c.toNat :=
        fun hmem => hd (mem_hexDigits_of_mem_hexOfNat hmem)
      have hdash := hnone (d := '-') (by decide)
      have hcomma := List.count_eq_zero.2 (hnone (d := ',') (by decide))
      simp [hdash, hcomma]
    · exact hlong (by simp [h.symm]) (by simp)
  obtain ⟨hdash, hcomma⟩ := hescaped
  have htext : (Text.quotedChar c).toList = '\'' :: Text.escaped '\'' c ++ ['\''] :=
    String.toList_ofList
  refine ⟨?_, ?_⟩
  · simp [htext, hdash]
  · simpa [htext, List.count_cons] using hcomma

/-- The name of a thing may have dashes, so no dash is reported as a fault. -/
theorem bare_thingFault {name : String} {fault : ThingFault}
    (h : Thing.ofName name = .error fault) : Bare 2 fault.message := by
  unfold Thing.ofName at h
  split at h
  · cases h
    decide
  · split at h
    · next c hfind =>
      cases h
      have hdash : c ≠ '-' := by
        rintro rfl
        have hrefused := List.find?_some hfind
        cases hrefused
      have hfront : Bare 0 "Invalid ThingName: character " := by decide
      have hback : Bare 0 " is not allowed" := by decide
      exact ((bare_quotedChar hdash).behind hfront).append hback
    · cases h

theorem bare_base64Fault (fault : Pem.Base64.Fault) :
    Bare 0 (Pem.SectionFault.base64 fault).message := by
  have hfault : Bare 0 fault.message := by
    cases fault with
    | invalidCharacter byte =>
      have hopen : Bare 0 "InvalidCharacter(" := by decide
      have hclose : Bare 0 ")" := by decide
      exact ((bare_repr byte.toNat).behind hopen).append hclose
    | prematurePadding => decide
    | invalidTrailingPadding => decide
  have hfront : Bare 0 "base64 decode error: " := by decide
  exact hfault.behind hfront

theorem bare_hexDigest (message : List UInt8) : Bare 0 (Digest.hexDigest message) := by
  have hmem : ∀ c ∈ (Digest.hexDigest message).toList, c ∈ hexDigits := by
    intro c hc
    simp only [Digest.hexDigest, Text.hexOfBytes, String.toList_ofList, List.mem_flatMap,
      List.mem_pair] at hc
    obtain ⟨b, -, rfl | rfl⟩ := hc
    · exact digitChar_mem_hexDigits (Nat.mod_lt _ (by decide))
    · exact digitChar_mem_hexDigits (Nat.mod_lt _ (by decide))
  refine bare_of_notMem (fun hdash => ?_) (fun hcomma => ?_)
  · exact absurd (hmem _ hdash) (by decide)
  · exact absurd (hmem _ hcomma) (by decide)

theorem bare_malformed {commas : Nat} (fault : Pem.SectionFault)
    (h : Bare commas fault.message) :
    Bare commas (Pem.CertificateFault.malformed fault).message := by
  have hfront : Bare 0 "Malformed CERTIFICATE section: " := by decide
  exact h.behind hfront

/-- A text that starts like a certificate has dashes, and at least the bytes of its start. -/
theorem dash_mem_of_opened {text : String}
    (hopened : "-----BEGIN CERTIFICATE-----".toList <+: text.toList) :
    '-' ∈ text.toList ∧ 27 ≤ Pem.byteSize text.toList :=
  ⟨hopened.subset (by decide),
    Nat.le_trans hopened.length_le (Pem.length_le_byteSize text.toList)⟩

/-- The message of a fault shows the whole text exactly if the text is a single botched line. -/
theorem shows_message_iff {text : String} {fault : Pem.CertificateFault}
    (hopened : "-----BEGIN CERTIFICATE-----".toList <+: text.toList)
    (h : Pem.readCertificate text = .error fault) :
    Shows fault.message text ↔ Pem.Botched text.toList := by
  obtain ⟨hdash, hsize⟩ := dash_mem_of_opened hopened
  constructor
  · intro hshows
    -- Only a line and a label are quoted, and each has fewer bytes than the text, or else is it.
    cases fault with
    | noSection =>
      have hbare : Bare 0 Pem.CertificateFault.noSection.message := by decide
      exact absurd hshows (hbare.not_shows hdash (by omega))
    | emptySection =>
      have hbare : Bare 0 Pem.CertificateFault.emptySection.message := by decide
      exact absurd hshows (hbare.not_shows hdash (by omega))
    | malformed fault =>
      cases Pem.faultCases_of_readCertificate h with
      | @illegalStart line hmem hbegin hlabel =>
        rcases Pem.byteSize_lt_or_botched hmem hbegin hlabel with hlt | hbotched
        · have hfront : Bare 0 "illegal section start: " := by decide
          have hbare := bare_malformed (.illegalStart line)
            ((bare_byteList line).behind hfront)
          exact absurd hshows (hbare.not_shows hdash (by omega))
        · exact hbotched
      | @unclosed label line hmem hbegins =>
        have hlt := Pem.byteSize_label_lt hmem hbegins
        have hfront : Bare 0 "missing section end marker: " := by decide
        have hbare := bare_malformed (.unclosed label)
          ((bare_byteList label).behind hfront)
        exact absurd hshows (hbare.not_shows hdash (by omega))
      | base64 base64Fault =>
        have hbare := bare_malformed _ (bare_base64Fault base64Fault)
        exact absurd hshows (hbare.not_shows hdash (by omega))
  · intro hbotched
    rw [Pem.readCertificate_of_botched hbotched] at h
    cases h
    have hmessage : Pem.CertificateFault.message (.malformed (.illegalStart text.toList)) =
        "Malformed CERTIFICATE section: " ++ ("illegal section start: " ++
          ("[" ++ decimals ", " (Text.utf8 text) ++ "]")) :=
      rfl
    refine .inr ⟨", ", by simp, ?_⟩
    simp only [hmessage, String.toList_append, ← List.append_assoc]
    exact List.infix_append _ _ _

theorem Certificate.id_eq_error_iff {c : Certificate} {fault : Pem.CertificateFault} :
    c.id = .error fault ↔ Pem.readCertificate c.text = .error fault := by
  cases h : Pem.readCertificate c.text with
  | error fault' => simp [Certificate.id_of_error h]
  | ok contents => simp [Certificate.id_of_ok h]

theorem not_botched_of_id_eq_ok {c : Certificate} {id : CertificateId} (h : c.id = .ok id) :
    ¬ Pem.Botched c.text.toList := by
  intro hbotched
  rw [Certificate.id_of_error (Pem.readCertificate_of_botched hbotched)] at h
  cases h

/-! ## Events -/

/-- An event of two texts with few commas reveals no text with dashes and more bytes. -/
theorem Event.not_reveals {e : Event} {commas : Nat} {text front back : String}
    (htexts : e.record.texts = [front, back]) (hfront : Bare commas front)
    (hback : Bare commas back) (hdash : '-' ∈ text.toList)
    (hsize : commas + 1 < Pem.byteSize text.toList) : ¬ e.Reveals text := by
  rintro ⟨shown, hmem, hshows⟩
  rw [htexts, List.mem_pair] at hmem
  rcases hmem with rfl | rfl
  · exact hfront.not_shows hdash hsize hshows
  · exact hback.not_shows hdash hsize hshows

/-- An event that reports a fault of a text reveals the text if the message of the fault does. -/
theorem reveals_iff_of_texts {e : Event} {text front : String} {fault : Pem.CertificateFault}
    (htexts : e.record.texts = [front, fault.message]) (hfront : Bare 0 front)
    (hopened : "-----BEGIN CERTIFICATE-----".toList <+: text.toList)
    (h : Pem.readCertificate text = .error fault) :
    e.Reveals text ↔ Pem.Botched text.toList := by
  obtain ⟨hdash, hsize⟩ := dash_mem_of_opened hopened
  have hnot : ¬ Shows front text := hfront.not_shows hdash (by omega)
  simp only [Event.Reveals, htexts, List.mem_pair, exists_eq_or_imp, exists_eq_left, hnot, false_or]
  exact shows_message_iff hopened h

/-- A text in which a certificate is found has dashes, and more than a few bytes. -/
theorem dash_mem_of_readCertificate {text : String} {contents : List UInt8}
    (h : Pem.readCertificate text = .ok contents) :
    '-' ∈ text.toList ∧ 11 ≤ Pem.byteSize text.toList := by
  obtain ⟨⟨before, abandoned, found, last, after, hlines, -, -, -⟩, -⟩ :=
    Pem.readCertificate_origin h
  have hmem : found.first ∈ Pem.lines text.toList := by
    rw [hlines]
    simp [Pem.Fragment.lines]
  have hsublist := (Pem.sublist_of_mem_lines hmem).trans List.filter_sublist
  have hmarker := List.isPrefixOf_iff_prefix.1 found.begins.1
  refine ⟨hsublist.subset (hmarker.subset (by decide)), ?_⟩
  exact Nat.le_trans hmarker.length_le
    (Nat.le_trans hsublist.length_le (Pem.length_le_byteSize text.toList))

/-- When a certificate is registered, the store reveals nothing of its text. -/
def Discreet (σ : Type) [CertificateStore σ] : Prop :=
  ∀ (store : σ) (c : Certificate) (thing : Option Thing),
    ∀ e ∈ (CertificateStore.register store c thing).notes, ¬ e.Reveals c.text

theorem discreet_store : Discreet Store := by
  intro store c thing e he
  have he : e ∈ (store.register c thing).notes := he
  unfold Store.register at he
  cases hid : c.id with
  | error fault => simp [hid] at he
  | ok id =>
    simp only [hid, Noted.notes_bind, Noted.notes_note, Noted.notes_pure, List.append_nil,
      List.mem_singleton] at he
    subst he
    obtain ⟨contents, hread, rfl⟩ := Certificate.id_eq_ok_iff.1 hid
    obtain ⟨hdash, hsize⟩ := dash_mem_of_readCertificate hread
    have htexts : (Event.registered ⟨Digest.hexDigest contents⟩).record.texts =
        ["Registered client device certificate", Digest.hexDigest contents] := rfl
    exact Event.not_reveals htexts (by decide) (bare_hexDigest contents) hdash (by omega)

/-! ## Seeding -/

namespace Seeding

variable {σ : Type} [CertificateStore σ] {directory name : String} {entry : Entry}

/-- What becomes of an entry that holds the text of a certificate, and what is told of it. -/
inductive HeldCases (directory name : String) (c : Certificate) : Finding → Prop
  | ignored (h : ∀ thing : Thing, name ≠ thing.name ++ ".pem") : HeldCases directory name c .ignored
  | misnamed {stem : String} {fault : ThingFault} (hstem : Thing.ofName stem = .error fault)
      (h : ∀ thing : Thing, name ≠ thing.name ++ ".pem") :
      HeldCases directory name c (.skipped (.skippedName (Entry.pathOf directory name) fault))
  | undecodable (thing : Thing) {fault : Pem.CertificateFault} (hname : name = thing.name ++ ".pem")
      (hid : c.id = .error fault) :
      HeldCases directory name c
        (.skipped (.skippedCertificate (Entry.pathOf directory name) fault))
  | certificate (thing : Thing) {id : CertificateId} (hname : name = thing.name ++ ".pem")
      (hid : c.id = .ok id) : HeldCases directory name c (.certificate thing c)

theorem heldCases_find {c : Certificate} (h : contents directory name entry = .ok c.text) :
    HeldCases directory name c (find directory name entry) := by
  have htext : entry.textAt (Entry.pathOf directory name) = .ok c.text := h
  unfold find
  cases hstem : pemStem? name with
  | none => exact .ignored (ne_thing_of_pemStem?_eq_none hstem)
  | some stem =>
    obtain ⟨hname, -⟩ := pemStem?_eq_some_iff.1 hstem
    cases hthing : Thing.ofName stem with
    | error fault =>
      simp only [hthing]
      exact .misnamed hthing (ne_thing_of_ofName_eq_error hstem hthing)
    | ok thing =>
      have hnamed : name = thing.name ++ ".pem" := by
        rw [hname, Thing.name_of_ofName hthing]
      simp only [hthing, htext, Certificate.ofText_of_ne c.text_ne_empty]
      cases hid : c.id with
      | error fault => exact .undecodable thing hnamed hid
      | ok id => exact .certificate thing hnamed hid

/-- The events of a listing are those of its entries, each loaded by itself. -/
theorem exists_of_mem_notes_loadEntries {e : Event} {count : Nat} {store : σ}
    {entries : List (String × Entry)} (h : e ∈ (loadEntries directory count store entries).notes) :
    ∃ name entry, (name, entry) ∈ entries ∧ ∃ (count : Nat) (store : σ),
      e ∈ (loadEntries directory count store [(name, entry)]).notes := by
  induction entries generalizing count store with
  | nil => cases h
  | cons p rest ih =>
    obtain ⟨name, entry⟩ := p
    have hbehind {count : Nat} {store : σ}
        (h : e ∈ (loadEntries directory count store rest).notes) :
        ∃ name' entry', (name', entry') ∈ (name, entry) :: rest ∧ ∃ (count : Nat) (store : σ),
          e ∈ (loadEntries directory count store [(name', entry')]).notes := by
      obtain ⟨name', entry', hmem, hevent⟩ := ih h
      exact ⟨name', entry', List.mem_cons_of_mem _ hmem, hevent⟩
    cases hfind : find directory name entry with
    | ignored =>
      simp only [loadEntries, hfind] at h
      exact hbehind h
    | skipped event =>
      simp only [loadEntries, hfind, Noted.notes_bind, Noted.notes_note, List.mem_append] at h
      rcases h with h | h
      · exact ⟨name, entry, List.mem_cons_self, count, store, by simpa [loadEntries, hfind] using h⟩
      · exact hbehind h
    | unreadable fault => simp [loadEntries, hfind] at h
    | certificate thing c =>
      simp only [loadEntries, hfind, Noted.notes_bind, List.mem_append] at h
      rcases h with h | h
      · refine ⟨name, entry, List.mem_cons_self, count, store, ?_⟩
        simp [loadEntries, hfind, h]
      · split at h
        · exact hbehind h
        · simp at h

/-- Loading a directory tells nothing but what loading its entries tells, and their number. -/
theorem mem_notes_load_cases {root : Entry} {entries : List (String × Entry)}
    {ending : Option FileFault}
    (hlisting : root.follow directory >>= Entry.listing = .ok (entries, ending)) {store : σ}
    {e : Event} (h : e ∈ (load root directory store).notes) :
    (∃ count, e = .seeded directory count) ∨
      ∃ name entry, (name, entry) ∈ entries ∧ ∃ (count : Nat) (store : σ),
        e ∈ (loadEntries directory count store [(name, entry)]).notes := by
  simp only [load, hlisting, Noted.notes_bind, List.mem_append] at h
  rcases h with h | h
  · exact .inr (exists_of_mem_notes_loadEntries h)
  · split at h
    · simp at h
    · simp at h
    · simp only [Noted.notes_bind, Noted.notes_note, Noted.notes_pure, List.append_nil,
        List.mem_singleton] at h
      exact .inl ⟨_, h⟩

/-- A file that holds a certificate text is told in full exactly if the text is a single botched
line, and the file is named after a thing, so that it is looked into at all. -/
theorem exists_reveals_loadEntries_iff (hdiscreet : Discreet σ) {c : Certificate}
    (hopened : "-----BEGIN CERTIFICATE-----".toList <+: c.text.toList)
    (hcontents : contents directory name entry = .ok c.text) (count : Nat) (store : σ) :
    (∃ e ∈ (loadEntries directory count store [(name, entry)]).notes, e.Reveals c.text) ↔
      Pem.Botched c.text.toList ∧ ∃ thing : Thing, name = thing.name ++ ".pem" := by
  have hcases := heldCases_find hcontents
  -- An entry tells of its text only where the text cannot be decoded.
  generalize hfind : find directory name entry = finding at hcases
  cases hcases with
  | ignored h =>
    have hnotes : (loadEntries directory count store [(name, entry)]).notes = [] := by
      simp [loadEntries, hfind]
    simp [hnotes, h]
  | @misnamed stem fault hstem h =>
    have hnotes : (loadEntries directory count store [(name, entry)]).notes =
        [.skippedName (Entry.pathOf directory name) fault] := by
      simp [loadEntries, hfind]
    have htexts : (Event.skippedName (Entry.pathOf directory name) fault).record.texts =
        ["Skipping certificate file", fault.message] := rfl
    obtain ⟨hdash, hsize⟩ := dash_mem_of_opened hopened
    have hhidden := Event.not_reveals htexts (by decide) (bare_thingFault hstem) hdash (by omega)
    simp [hnotes, h, hhidden]
  | @undecodable thing fault hname hid =>
    have hnotes : (loadEntries directory count store [(name, entry)]).notes =
        [.skippedCertificate (Entry.pathOf directory name) fault] := by
      simp [loadEntries, hfind]
    have hreveals : (Event.skippedCertificate (Entry.pathOf directory name) fault).Reveals c.text ↔
        Pem.Botched c.text.toList :=
      reveals_iff_of_texts rfl (by decide) hopened (Certificate.id_eq_error_iff.1 hid)
    have hnamed : ∃ thing : Thing, name = thing.name ++ ".pem" := ⟨thing, hname⟩
    simp only [hnotes, List.mem_singleton, exists_eq_left, hreveals, hnamed, and_true]
  | @certificate thing id hname hid =>
    have hnotes : (loadEntries directory count store [(name, entry)]).notes =
        (CertificateStore.register store c (some thing)).notes := by
      simp only [loadEntries, hfind, Noted.notes_bind]
      split <;> simp
    simp only [hnotes, not_botched_of_id_eq_ok hid, false_and, iff_false, not_exists, not_and]
    exact hdiscreet store c (some thing)

end Seeding

/-! ## Looking up -/

/-- A certificate text that is looked up is told in full exactly if it is a single botched line. -/
theorem exists_reveals_lookup_iff {c : Certificate}
    (hopened : "-----BEGIN CERTIFICATE-----".toList <+: c.text.toList) (store : Store) :
    (∃ e ∈ (store.lookup c).notes, e.Reveals c.text) ↔ Pem.Botched c.text.toList := by
  cases hid : c.id with
  | error fault =>
    have hnotes : (store.lookup c).notes = [.undecodable fault] := by
      simp [Store.lookup, hid]
    simp only [hnotes, List.mem_singleton, exists_eq_left]
    exact reveals_iff_of_texts rfl (by decide) hopened (Certificate.id_eq_error_iff.1 hid)
  | ok id =>
    have hnotes : (store.lookup c).notes = [] := by
      simp only [Store.lookup, hid]
      split <;> rfl
    simp [hnotes, not_botched_of_id_eq_ok hid]

/-! ## Exactly the botched ones -/

theorem not_reveals_seeded {text : String}
    (hopened : "-----BEGIN CERTIFICATE-----".toList <+: text.toList) (directory : String)
    (count : Nat) : ¬ (Event.seeded directory count).Reveals text := by
  have hnumber : (Json.ofInt count).compact = toString count := by
    have hdigits : (Json.ofInt count).compact =
        String.ofList ((toString (count : Int)).toList ++ []) := rfl
    rw [hdigits, List.append_nil, String.ofList_toList]
    rfl
  have htexts : (Event.seeded directory count).record.texts =
      ["Loaded client device certificates", (Json.ofInt count).compact] := rfl
  obtain ⟨hdash, hsize⟩ := dash_mem_of_opened hopened
  exact Event.not_reveals htexts (by decide) (hnumber ▸ bare_repr count) hdash (by omega)

/-- Of the texts that start like a certificate, exactly those are told in full that are a single
line which does not end like the beginning of a section: when they are looked up, and when a file
that holds them is named after a thing and loaded. No other event of the loading of a directory
tells a text in full than those of the entries that are listed, whether or not they are listed to
the end. -/
theorem exists_reveals_iff_botched {σ : Type} [CertificateStore σ] (hdiscreet : Discreet σ)
    {c : Certificate} (hopened : "-----BEGIN CERTIFICATE-----".toList <+: c.text.toList) :
    (∀ store : Store,
      (∃ e ∈ (store.lookup c).notes, e.Reveals c.text) ↔ Pem.Botched c.text.toList) ∧
    (∀ (directory name : String) (entry : Entry) (count : Nat) (store : σ),
      Seeding.contents directory name entry = .ok c.text →
      ((∃ e ∈ (Seeding.loadEntries directory count store [(name, entry)]).notes,
          e.Reveals c.text) ↔
        Pem.Botched c.text.toList ∧ ∃ thing : Thing, name = thing.name ++ ".pem")) ∧
    ∀ (root : Entry) (directory : String) (entries : List (String × Entry))
        (ending : Option FileFault) (store : σ),
      root.follow directory >>= Entry.listing = .ok (entries, ending) →
      ∀ e ∈ (Seeding.load root directory store).notes, e.Reveals c.text →
        ∃ name entry, (name, entry) ∈ entries ∧ ∃ (count : Nat) (store : σ),
          e ∈ (Seeding.loadEntries directory count store [(name, entry)]).notes := by
  refine ⟨exists_reveals_lookup_iff hopened, ?_, ?_⟩
  · intro directory name entry count store hcontents
    exact Seeding.exists_reveals_loadEntries_iff hdiscreet hopened hcontents count store
  · intro root directory entries ending store hlisting e he hreveals
    rcases Seeding.mem_notes_load_cases hlisting he with ⟨count, rfl⟩ | hentry
    · exact absurd hreveals (not_reveals_seeded hopened directory count)
    · exact hentry

/-- A certificate that has lost its line breaks and its last dash. -/
def unbroken : Certificate where
  text := "-----BEGIN CERTIFICATE-----REVG-----END CERTIFICATE----"
  text_ne_empty := by decide

theorem botched_unbroken : Pem.Botched unbroken.text.toList := by
  have hwhole : (unbroken.text.toList.all fun c => !Pem.endsLine c) = true := rfl
  refine ⟨fun c hc => ?_, rfl, rfl⟩
  simpa using List.all_eq_true.1 hwhole c hc

theorem contents_unbroken :
    Seeding.contents "/" "lamp.pem" (.file (Text.utf8 unbroken.text)) = .ok unbroken.text :=
  Seeding.contents_eq_ok_iff.2 ⟨_, rfl, rfl, by decide +kernel⟩

theorem named_unbroken : ∃ thing : Thing, "lamp.pem" = thing.name ++ ".pem" :=
  ⟨⟨"lamp", by decide, List.all_eq_true.1 rfl⟩, by decide⟩

theorem exists_reveals_iff_botched_unbroken :
    Discreet Store ∧ "-----BEGIN CERTIFICATE-----".toList <+: unbroken.text.toList ∧
      Seeding.contents "/" "lamp.pem" (.file (Text.utf8 unbroken.text)) = .ok unbroken.text ∧
      (∃ e ∈ (Store.empty.lookup unbroken).notes, e.Reveals unbroken.text) ∧
      ∃ e ∈ (Seeding.loadEntries "/" 0 Store.empty
        [("lamp.pem", .file (Text.utf8 unbroken.text))]).notes, e.Reveals unbroken.text := by
  have hopened : "-----BEGIN CERTIFICATE-----".toList <+: unbroken.text.toList := by decide
  obtain ⟨hlookup, hload, -⟩ := exists_reveals_iff_botched discreet_store hopened
  exact ⟨discreet_store, hopened, contents_unbroken, (hlookup Store.empty).2 botched_unbroken,
    (hload "/" "lamp.pem" _ 0 Store.empty contents_unbroken).2 ⟨botched_unbroken, named_unbroken⟩⟩

/-- Not every certificate is kept out of the log, neither when it is looked up nor when it is
loaded from a file. -/
theorem exists_certificate_told_in_full :
    (¬ ∀ c : Certificate, "-----BEGIN CERTIFICATE-----".toList <+: c.text.toList →
      ∀ (store : Store), ∀ e ∈ (store.lookup c).notes, ¬ e.Reveals c.text) ∧
    ¬ ∀ c : Certificate, "-----BEGIN CERTIFICATE-----".toList <+: c.text.toList →
      ∀ (directory name : String) (entry : Entry) (count : Nat) (store : Store),
        Seeding.contents directory name entry = .ok c.text →
        ∀ e ∈ (Seeding.loadEntries directory count store [(name, entry)]).notes,
          ¬ e.Reveals c.text := by
  have hopened : "-----BEGIN CERTIFICATE-----".toList <+: unbroken.text.toList := by decide
  refine ⟨fun h => ?_, fun h => ?_⟩
  · obtain ⟨e, he, hreveals⟩ :=
      (exists_reveals_lookup_iff hopened Store.empty).2 botched_unbroken
    exact h unbroken hopened Store.empty e he hreveals
  · obtain ⟨e, he, hreveals⟩ := (Seeding.exists_reveals_loadEntries_iff discreet_store hopened
      contents_unbroken 0 Store.empty).2 ⟨botched_unbroken, named_unbroken⟩
    exact h unbroken hopened "/" "lamp.pem" _ 0 Store.empty contents_unbroken e he hreveals

end DeviceIdentity
