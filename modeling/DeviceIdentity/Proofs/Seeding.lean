import Mathlib.Data.List.Basic
import DeviceIdentity.Seeding
import DeviceIdentity.Proofs.Outcome
import DeviceIdentity.Proofs.Store

/-!
# What seeding registers

The certificates of a directory are those in the files that are named after things, as far as they
can be decoded. All of them are registered in the order of the listing, whatever else is in the
directory, unless something that is named after a thing cannot be read as text: this ends the
loading, and nothing that is listed behind it is registered.
-/
namespace DeviceIdentity.Seeding

/-! ## Names -/

theorem pemStem?_eq_some_iff {name stem : String} :
    pemStem? name = some stem ↔ name = stem ++ ".pem" ∧ stem ≠ "" := by
  constructor
  · intro h
    simp only [pemStem?] at h
    split at h
    · next reversed hdrop =>
      split at h
      · next hpem =>
        cases h
        obtain ⟨hextension, hne⟩ := hpem
        have hname : name.toList = reversed.reverse ++ '.' :: "pem".toList := by
          calc name.toList
            _ = (name.toList.reverse.takeWhile (· ≠ '.') ++
                  name.toList.reverse.dropWhile (· ≠ '.')).reverse := by
              rw [List.takeWhile_append_dropWhile, List.reverse_reverse]
            _ = reversed.reverse ++ '.' :: "pem".toList := by
              rw [List.reverse_append, hextension, hdrop, List.reverse_cons, List.append_assoc]
              rfl
        have hstem : (String.ofList reversed.reverse).toList = reversed.reverse :=
          String.toList_ofList
        constructor
        · rw [← String.toList_inj, hname, String.toList_append, hstem]
          rfl
        · rwa [Ne, ← String.toList_eq_nil_iff, hstem, List.reverse_eq_nil_iff]
      · cases h
    · cases h
  · rintro ⟨rfl, hne⟩
    simp [pemStem?, hne]

/-- A name that is made from a thing has the name of the thing as its stem. -/
theorem pemStem?_thing (thing : Thing) : pemStem? (thing.name ++ ".pem") = some thing.name :=
  pemStem?_eq_some_iff.2 ⟨rfl, thing.name_ne_empty⟩

theorem ne_thing_of_pemStem?_eq_none {name : String} (h : pemStem? name = none) (thing : Thing) :
    name ≠ thing.name ++ ".pem" := by
  rintro rfl
  rw [pemStem?_thing] at h
  cases h

theorem ne_thing_of_ofName_eq_error {name stem : String} {fault : ThingFault}
    (hstem : pemStem? name = some stem) (h : Thing.ofName stem = .error fault) (thing : Thing) :
    name ≠ thing.name ++ ".pem" := by
  rintro rfl
  rw [pemStem?_thing] at hstem
  cases hstem
  rw [Thing.ofName_name] at h
  cases h

/-! ## What is found -/

section Find

variable {directory name : String} {entry : Entry} {thing : Thing} {c : Certificate}

/-- The text that is read under a name of a directory. -/
def contents (directory name : String) (entry : Entry) : Except FileFault String :=
  entry.textAt (Entry.pathOf directory name)

theorem contents_eq_ok_iff {text : String} :
    contents directory name entry = .ok text ↔
      ∃ bytes, entry = .file bytes ∧ Entry.checkPath (Entry.pathOf directory name) = .ok () ∧
        Text.ofUtf8? bytes = some text := by
  simp only [contents, Entry.textAt, bind_eq_ok_iff]
  constructor
  · rintro ⟨⟨⟩, hpath, htext⟩
    cases entry with
    | directory | cut | closed => cases htext
    | file bytes =>
      refine ⟨bytes, rfl, hpath, ?_⟩
      cases hutf8 : Text.ofUtf8? bytes with
      | none => simp [Entry.text, hutf8] at htext
      | some text' => simpa [Entry.text, hutf8] using htext
  · rintro ⟨bytes, rfl, hpath, hutf8⟩
    exact ⟨(), hpath, by simp [Entry.text, hutf8]⟩

/-- The entry is named after the thing and holds the certificate, which can be decoded. -/
structure Presents (directory name : String) (entry : Entry) (thing : Thing) (c : Certificate) :
    Prop where
  name_eq : name = thing.name ++ ".pem"
  contents_eq : contents directory name entry = .ok c.text
  decodable : ∃ id, c.id = .ok id

/-- The entry is named after a thing, and no text can be read from it. -/
structure Unreadable (directory name : String) (entry : Entry) (fault : FileFault) : Prop where
  named : ∃ thing : Thing, name = thing.name ++ ".pem"
  contents_eq : contents directory name entry = .error fault

/-- What becomes of an entry, by its name and by what it holds. -/
inductive FindCases (directory name : String) (entry : Entry) : Finding → Prop
  | unreadable {fault : FileFault} (h : Unreadable directory name entry fault) :
      FindCases directory name entry (.unreadable fault)
  | certificate {thing : Thing} {c : Certificate} (h : Presents directory name entry thing c) :
      FindCases directory name entry (.certificate thing c)
  | ignored (h : ∀ thing : Thing, name ≠ thing.name ++ ".pem") :
      FindCases directory name entry .ignored
  | skipped {event : Event}
      (h : (∀ thing : Thing, name ≠ thing.name ++ ".pem") ∨
        ∃ text, contents directory name entry = .ok text ∧
          ∀ c : Certificate, c.text = text → ∃ fault, c.id = .error fault) :
      FindCases directory name entry (.skipped event)

theorem find_cases (directory name : String) (entry : Entry) :
    FindCases directory name entry (find directory name entry) := by
  unfold find
  cases hstem : pemStem? name with
  | none => exact .ignored (ne_thing_of_pemStem?_eq_none hstem)
  | some stem =>
    obtain ⟨hname, -⟩ := pemStem?_eq_some_iff.1 hstem
    cases hthing : Thing.ofName stem with
    | error fault =>
      simp only [hthing]
      exact .skipped (.inl (ne_thing_of_ofName_eq_error hstem hthing))
    | ok thing =>
      have hnamed : name = thing.name ++ ".pem" := by
        rw [hname, Thing.name_of_ofName hthing]
      simp only [hthing]
      cases htext : entry.textAt (Entry.pathOf directory name) with
      | error fault => exact .unreadable ⟨⟨thing, hnamed⟩, htext⟩
      | ok text =>
        simp only
        by_cases hempty : text = ""
        · subst hempty
          exact .skipped (.inr ⟨"", htext, fun c hc => absurd hc c.text_ne_empty⟩)
        · simp only [Certificate.ofText_of_ne hempty]
          cases hid : (⟨text, hempty⟩ : Certificate).id with
          | error fault =>
            refine .skipped (.inr ⟨text, htext, ?_⟩)
            rintro c rfl
            exact ⟨fault, hid⟩
          | ok id => exact .certificate ⟨hnamed, htext, id, hid⟩

theorem find_eq_certificate_iff :
    find directory name entry = .certificate thing c ↔ Presents directory name entry thing c := by
  have hcases := find_cases directory name entry
  constructor
  · intro h
    rw [h] at hcases
    cases hcases with
    | certificate h => exact h
  · rintro ⟨hname, hcontents, hid⟩
    generalize find directory name entry = finding at hcases
    cases hcases with
    | ignored h => exact absurd hname (h thing)
    | skipped h =>
      rcases h with h | ⟨text, htext, h⟩
      · exact absurd hname (h thing)
      · obtain ⟨fault, hfault⟩ := h c (Except.ok.inj (hcontents.symm.trans htext))
        obtain ⟨id, hid⟩ := hid
        rw [hid] at hfault
        cases hfault
    | unreadable h =>
      rw [h.contents_eq] at hcontents
      cases hcontents
    | @certificate thing' c' h =>
      -- The name leaves no choice of the thing, and the text none of the certificate.
      have hname' : thing'.name = thing.name :=
        (String.append_left_inj ".pem").1 (h.name_eq.symm.trans hname)
      have htext : c'.text = c.text := Except.ok.inj (h.contents_eq.symm.trans hcontents)
      rw [Thing.eq_of_name_eq hname']
      cases c
      cases c'
      cases htext
      rfl

theorem find_eq_unreadable_iff {fault : FileFault} :
    find directory name entry = .unreadable fault ↔ Unreadable directory name entry fault := by
  have hcases := find_cases directory name entry
  constructor
  · intro h
    rw [h] at hcases
    cases hcases with
    | unreadable h => exact h
  · rintro ⟨⟨thing, hname⟩, hcontents⟩
    generalize find directory name entry = finding at hcases
    cases hcases with
    | ignored h => exact absurd hname (h thing)
    | skipped h =>
      rcases h with h | ⟨text, htext, -⟩
      · exact absurd hname (h thing)
      · rw [hcontents] at htext
        cases htext
    | unreadable h =>
      rw [h.contents_eq] at hcontents
      cases hcontents
      rfl
    | certificate h =>
      rw [h.contents_eq] at hcontents
      cases hcontents

end Find

/-! ## What is loaded -/

/-- The certificates that are found among entries, in the order of the listing. -/
def found (directory : String) (entries : List (String × Entry)) : List (Thing × Certificate) :=
  entries.filterMap fun p =>
    match find directory p.1 p.2 with
    | .certificate thing c => some (thing, c)
    | _ => none

theorem found_append (directory : String) (before rest : List (String × Entry)) :
    found directory (before ++ rest) = found directory before ++ found directory rest :=
  List.filterMap_append

theorem mem_found_iff {directory : String} {entries : List (String × Entry)} {thing : Thing}
    {c : Certificate} :
    (thing, c) ∈ found directory entries ↔
      ∃ name entry, (name, entry) ∈ entries ∧ Presents directory name entry thing c := by
  simp only [found, List.mem_filterMap, Prod.exists, ← find_eq_certificate_iff]
  refine exists_congr fun name => exists_congr fun entry => and_congr_right fun _ => ?_
  cases find directory name entry <;> simp

/-- Whatever is named after a thing can be read as text. -/
def AllReadable (directory : String) (entries : List (String × Entry)) : Prop :=
  ∀ name entry, (name, entry) ∈ entries → ∀ fault, ¬ Unreadable directory name entry fault

theorem AllReadable.cons {directory name : String} {entry : Entry} {rest : List (String × Entry)}
    (h : ∀ fault, ¬ Unreadable directory name entry fault) (hrest : AllReadable directory rest) :
    AllReadable directory ((name, entry) :: rest) := by
  intro name' entry' hmem
  cases hmem with
  | head => exact h
  | tail _ hmem => exact hrest name' entry' hmem

theorem allReadable_iff {directory : String} {entries : List (String × Entry)} :
    AllReadable directory entries ↔
      ∀ (thing : Thing) entry, (thing.name ++ ".pem", entry) ∈ entries →
        ∃ bytes text, entry = .file bytes ∧
          Entry.checkPath (Entry.pathOf directory (thing.name ++ ".pem")) = .ok () ∧
          Text.ofUtf8? bytes = some text := by
  constructor
  · intro h thing entry hmem
    cases hcontents : contents directory (thing.name ++ ".pem") entry with
    | error fault => exact absurd ⟨⟨thing, rfl⟩, hcontents⟩ (h _ entry hmem fault)
    | ok text =>
      obtain ⟨bytes, hfile, hpath, htext⟩ := contents_eq_ok_iff.1 hcontents
      exact ⟨bytes, text, hfile, hpath, htext⟩
  · rintro h name entry hmem fault ⟨⟨thing, rfl⟩, hcontents⟩
    obtain ⟨bytes, text, hfile, hpath, htext⟩ := h thing entry hmem
    rw [contents_eq_ok_iff.2 ⟨bytes, hfile, hpath, htext⟩] at hcontents
    cases hcontents

section Load

variable {σ : Type} [CertificateStore σ] {directory : String}

/-- A store with certificates registered in it one after the other. -/
def registerAll (store : σ) (certificates : List (Thing × Certificate)) : σ :=
  certificates.foldl (fun store p => (CertificateStore.register store p.2 (some p.1)).value.2) store

@[simp] theorem registerAll_nil (store : σ) : registerAll store [] = store := rfl

/-- No registration of a certificate that can be decoded fails. -/
def Accepting (σ : Type) [CertificateStore σ] : Prop :=
  ∀ (store : σ) (c : Certificate) (thing : Option Thing), (∃ id, c.id = .ok id) →
    ∃ id, (CertificateStore.register store c thing).value.1 = .ok id

theorem accepting_store : Accepting Store := by
  rintro store c thing ⟨id, hid⟩
  refine ⟨id, ?_⟩
  show (store.register c thing).value.1 = .ok id
  simp [Store.register, hid]

/-- How the loading of entries ends, when `count` certificates were registered before: all of them
are gone through, or one ends it, after all that is found before it was registered. -/
inductive Ends (directory : String) (count : Nat) (store : σ) (entries : List (String × Entry)) :
    Except Fault Nat × σ → Prop
  | through (hreadable : AllReadable directory entries) :
      Ends directory count store entries
        (.ok (count + (found directory entries).length),
          registerAll store (found directory entries))
  | unreadable {before rest : List (String × Entry)} {name : String} {entry : Entry}
      {fault : FileFault} (hentries : entries = before ++ (name, entry) :: rest)
      (hbefore : AllReadable directory before) (h : Unreadable directory name entry fault) :
      Ends directory count store entries
        (.error (.file fault), registerAll store (found directory before))
  | refused {before rest : List (String × Entry)} {name : String} {entry : Entry} {thing : Thing}
      {c : Certificate} {fault : Fault} (hentries : entries = before ++ (name, entry) :: rest)
      (hbefore : AllReadable directory before) (h : Presents directory name entry thing c)
      (hfault : (CertificateStore.register (registerAll store (found directory before)) c
        (some thing)).value.1 = .error fault) :
      Ends directory count store entries
        (.error fault, registerAll store (found directory (before ++ [(name, entry)])))

/-- A first entry that can be read, and whose certificate is registered if it presents one, changes
nothing about how the loading ends. -/
theorem Ends.cons {count : Nat} {store : σ} {name : String} {entry : Entry}
    {rest : List (String × Entry)} {result : Except Fault Nat × σ}
    (hreadable : ∀ fault, ¬ Unreadable directory name entry fault)
    (h : Ends directory (count + (found directory [(name, entry)]).length)
      (registerAll store (found directory [(name, entry)])) rest result) :
    Ends directory count store ((name, entry) :: rest) result := by
  have hregister : ∀ entries, registerAll (registerAll store (found directory [(name, entry)]))
      (found directory entries) =
        registerAll store (found directory ((name, entry) :: entries)) := by
    intro entries
    rw [registerAll, registerAll, registerAll, ← List.foldl_append, ← found_append]
    rfl
  cases h with
  | through hrest =>
    rw [hregister, Nat.add_assoc, ← List.length_append, ← found_append]
    exact .through (.cons hreadable hrest)
  | unreadable hentries hbefore h =>
    rw [hregister]
    exact .unreadable (congrArg (List.cons _) hentries) (.cons hreadable hbefore) h
  | refused hentries hbefore h hfault =>
    rw [hregister] at hfault ⊢
    exact .refused (congrArg (List.cons _) hentries) (.cons hreadable hbefore) h hfault

theorem ends_loadEntries (directory : String) (count : Nat) (store : σ)
    (entries : List (String × Entry)) :
    Ends directory count store entries (loadEntries directory count store entries).value := by
  have hnone : AllReadable directory [] := fun _ _ h => absurd h List.not_mem_nil
  -- Along the listing: an entry either ends the loading or leaves it to the entries behind it.
  induction entries generalizing count store with
  | nil => exact .through hnone
  | cons p rest ih =>
    obtain ⟨name, entry⟩ := p
    have hreadable : ∀ {finding : Finding}, find directory name entry = finding →
        (∀ fault, finding ≠ .unreadable fault) →
          ∀ fault, ¬ Unreadable directory name entry fault := by
      rintro finding rfl hne fault h
      exact hne fault (find_eq_unreadable_iff.2 h)
    cases hfind : find directory name entry with
    | ignored =>
      refine .cons (hreadable hfind nofun) ?_
      simpa [found, loadEntries, hfind] using ih count store
    | skipped event =>
      refine .cons (hreadable hfind nofun) ?_
      simpa [found, loadEntries, hfind] using ih count store
    | unreadable fault =>
      simp only [loadEntries, hfind]
      have hentries : (name, entry) :: rest = [] ++ (name, entry) :: rest := rfl
      exact .unreadable hentries hnone (find_eq_unreadable_iff.1 hfind)
    | certificate thing c =>
      simp only [loadEntries, hfind, Noted.value_bind]
      have hfound : found directory ([] ++ [(name, entry)]) = [(thing, c)] := by
        simp [found, hfind]
      rcases hregister : (CertificateStore.register store c (some thing)).value
        with ⟨answer, store'⟩
      cases answer with
      | ok id =>
        refine .cons (hreadable hfind nofun) ?_
        simpa [found, registerAll, hfind, hregister] using ih (count + 1) store'
      | error fault =>
        have hentries : (name, entry) :: rest = [] ++ (name, entry) :: rest := rfl
        have hstore : registerAll store (found directory ([] ++ [(name, entry)])) = store' := by
          rw [hfound]
          simp [registerAll, hregister]
        rw [← hstore]
        exact .refused hentries hnone (find_eq_certificate_iff.1 hfind)
          (by simp [found, hregister])

theorem bind_list_eq_ok_iff {x : Except FileFault Entry} {entries : List (String × Entry)} :
    x >>= Entry.list = .ok entries ↔ x >>= Entry.listing = .ok (entries, none) := by
  simp only [bind_eq_ok_iff, Entry.list]
  refine exists_congr fun e => and_congr_right fun _ => ?_
  constructor
  · rintro ⟨⟨entries', ending⟩, hlisting, hend⟩
    cases ending with
    | none =>
      cases hend
      exact hlisting
    | some fault => cases hend
  · intro h
    exact ⟨_, h, rfl⟩

theorem value_load {root : Entry} {entries : List (String × Entry)}
    (hlist : root.follow directory >>= Entry.list = .ok entries) (store : σ) :
    (load root directory store).value = (loadEntries directory 0 store entries).value := by
  simp only [load, bind_list_eq_ok_iff.1 hlist, Noted.value_bind]
  rcases (loadEntries directory 0 store entries).value with ⟨answer, store'⟩
  cases answer <;> rfl

theorem ends_load {root : Entry} {entries : List (String × Entry)}
    (hlist : root.follow directory >>= Entry.list = .ok entries) (store : σ) :
    Ends directory 0 store entries (load root directory store).value :=
  value_load hlist store ▸ ends_loadEntries directory 0 store entries

/-- Where no registration fails, a loading gets through if and only if everything can be read. -/
theorem Ends.ok_iff {count : Nat} {store : σ} {entries : List (String × Entry)}
    {result : Except Fault Nat × σ} (h : Ends directory count store entries result)
    (haccepting : Accepting σ) :
    (∃ total, result.1 = .ok total) ↔ AllReadable directory entries := by
  cases h with
  | through hreadable => exact ⟨fun _ => hreadable, fun _ => ⟨_, rfl⟩⟩
  | @unreadable before rest name entry fault hentries hbefore h =>
    subst hentries
    constructor
    · rintro ⟨total, htotal⟩
      cases htotal
    · intro hreadable
      exact absurd h (hreadable name entry (by simp) fault)
  | refused hentries hbefore h hfault =>
    obtain ⟨id, hid⟩ := haccepting _ _ _ h.decodable
    rw [hid] at hfault
    cases hfault

/-- A loading that gets through has registered all that was found. -/
theorem Ends.of_ok {count total : Nat} {store : σ} {entries : List (String × Entry)}
    {result : Except Fault Nat × σ} (h : Ends directory count store entries result)
    (hok : result.1 = .ok total) :
    total = count + (found directory entries).length ∧
      result.2 = registerAll store (found directory entries) := by
  cases h with
  | through hreadable =>
    cases hok
    exact ⟨rfl, rfl⟩
  | unreadable => cases hok
  | refused => cases hok

/-- A loading gets through only if the directory is listed to the end. -/
theorem exists_list_of_load_ok {root : Entry} {store : σ} {count : Nat}
    (h : (load root directory store).value.1 = .ok count) :
    ∃ entries, root.follow directory >>= Entry.list = .ok entries := by
  simp only [bind_list_eq_ok_iff]
  unfold load at h
  cases hlisting : root.follow directory >>= Entry.listing with
  | error fault =>
    rw [hlisting] at h
    cases h
  | ok listing =>
    obtain ⟨entries, ending⟩ := listing
    cases ending with
    | none => exact ⟨entries, rfl⟩
    | some fault =>
      rw [hlisting] at h
      simp only [Noted.value_bind] at h
      generalize (loadEntries directory 0 store entries).value = result at h
      obtain ⟨answer, store'⟩ := result
      cases answer <;> cases h

/-- What is listed before the listing fails is registered, and then the loading fails like it. -/
theorem value_load_of_cut {root : Entry} {entries : List (String × Entry)} {ending : FileFault}
    (hlisting : root.follow directory >>= Entry.listing = .ok (entries, some ending))
    (haccepting : Accepting σ) (hreadable : AllReadable directory entries) (store : σ) :
    (load root directory store).value =
      (.error (.file ending), registerAll store (found directory entries)) := by
  have hends := ends_loadEntries directory 0 store entries
  obtain ⟨total, htotal⟩ := (hends.ok_iff haccepting).2 hreadable
  obtain ⟨-, hstore⟩ := hends.of_ok htotal
  simp only [load, hlisting, Noted.value_bind]
  rw [← hstore]
  generalize (loadEntries directory 0 store entries).value = result at htotal ⊢
  obtain ⟨answer, store'⟩ := result
  cases htotal
  rfl

/-- Where no registration fails, the loading of a directory that can be listed gets through if and
only if every entry that is named after a thing is a file of text, whatever the text is and whatever
else the directory holds. Then exactly the certificates that can be decoded are registered, each for
the thing that its file is named after, in the order of the listing. A loading fails in no other way
than by such an entry that cannot be read, or by a registration that fails, and then all that was
found before is registered. -/
theorem load_ok_iff_of_list {root : Entry} {entries : List (String × Entry)}
    (hlist : root.follow directory >>= Entry.list = .ok entries) (store : σ) :
    (Accepting σ →
      ((∃ count, (load root directory store).value.1 = .ok count) ↔
        ∀ (thing : Thing) entry, (thing.name ++ ".pem", entry) ∈ entries →
          ∃ bytes text, entry = .file bytes ∧
            Entry.checkPath (Entry.pathOf directory (thing.name ++ ".pem")) = .ok () ∧
            Text.ofUtf8? bytes = some text)) ∧
    (∀ count, (load root directory store).value.1 = .ok count →
      count = (found directory entries).length ∧
      (load root directory store).value.2 = registerAll store (found directory entries)) ∧
    (∀ thing c, (thing, c) ∈ found directory entries ↔
      ∃ entry, (thing.name ++ ".pem", entry) ∈ entries ∧
        contents directory (thing.name ++ ".pem") entry = .ok c.text ∧ ∃ id, c.id = .ok id) ∧
    ∀ fault, (load root directory store).value.1 = .error fault →
      ∃ (before rest : List (String × Entry)) (thing : Thing) (entry : Entry),
        entries = before ++ (thing.name ++ ".pem", entry) :: rest ∧
        ((∃ fileFault, contents directory (thing.name ++ ".pem") entry = .error fileFault ∧
            fault = .file fileFault ∧
            (load root directory store).value.2 = registerAll store (found directory before)) ∨
          ∃ c, contents directory (thing.name ++ ".pem") entry = .ok c.text ∧
            (CertificateStore.register (registerAll store (found directory before)) c
              (some thing)).value.1 = .error fault) := by
  have hends := ends_load hlist store
  refine ⟨fun haccepting => (hends.ok_iff haccepting).trans allReadable_iff, ?_, ?_, ?_⟩
  · intro count hcount
    obtain ⟨hcount, hstore⟩ := hends.of_ok hcount
    exact ⟨hcount.trans (Nat.zero_add _), hstore⟩
  · intro thing c
    rw [mem_found_iff]
    constructor
    · rintro ⟨name, entry, hmem, rfl, hcontents, hid⟩
      exact ⟨entry, hmem, hcontents, hid⟩
    · rintro ⟨entry, hmem, hcontents, hid⟩
      exact ⟨_, entry, hmem, rfl, hcontents, hid⟩
  · intro fault hfault
    generalize (load root directory store).value = result at hends hfault ⊢
    cases hends with
    | through hreadable => cases hfault
    | @unreadable before rest name entry fileFault hentries hbefore h =>
      cases hfault
      obtain ⟨⟨thing, rfl⟩, hcontents⟩ := h
      exact ⟨before, rest, thing, entry, hentries, .inl ⟨fileFault, hcontents, rfl, rfl⟩⟩
    | @refused before rest name entry thing c storeFault hentries hbefore h hrefused =>
      cases hfault
      obtain ⟨rfl, hcontents, -⟩ := h
      exact ⟨before, rest, thing, entry, hentries, .inr ⟨c, hcontents, hrefused⟩⟩

end Load

/-- Files among which there is one certificate; the others are passed over. -/
def oneCertificate : List (String × Entry) :=
  [("door.der", .file [0xff]), ("door.pem", .file (Text.utf8 "no certificate")),
    ("lamp.pem", .file (Text.utf8
      "-----BEGIN CERTIFICATE-----\nbGFtcA==\n-----END CERTIFICATE-----\n"))]

theorem load_ok_iff_of_list_oneCertificate :
    (Entry.directory oneCertificate).follow "/" >>= Entry.list = .ok oneCertificate ∧
      Accepting Store ∧
      ∃ count, (load (.directory oneCertificate) "/" Store.empty).value.1 = .ok count := by
  refine ⟨rfl, accepting_store, ?_⟩
  have hlist : (Entry.directory oneCertificate).follow "/" >>= Entry.list = .ok oneCertificate :=
    rfl
  refine ((load_ok_iff_of_list hlist Store.empty).1 accepting_store).2 ?_
  intro thing entry hmem
  generalize hname : thing.name ++ ".pem" = name at hmem ⊢
  simp only [oneCertificate, List.mem_cons, Prod.mk.injEq, List.not_mem_nil, or_false] at hmem
  rcases hmem with ⟨rfl, rfl⟩ | ⟨rfl, rfl⟩ | ⟨rfl, rfl⟩
  · have hstem := pemStem?_eq_some_iff.2 ⟨hname.symm, thing.name_ne_empty⟩
    cases hstem
  · exact ⟨_, "no certificate", rfl, rfl, by decide +kernel⟩
  · exact ⟨_, "-----BEGIN CERTIFICATE-----\nbGFtcA==\n-----END CERTIFICATE-----\n", rfl, rfl,
      by decide +kernel⟩

/-- A store that takes every certificate and keeps none. -/
structure Heedless where

instance : CertificateStore Heedless where
  register store c _ := return (.ok ⟨Digest.hexDigest (Text.utf8 c.text)⟩, store)
  lookup _ _ := return .ok none

/-- A file that is named after a thing and holds no text, before a certificate. -/
def bytesFirst : List (String × Entry) :=
  [("door.pem", .file [0xff]),
    ("lamp.pem", .file (Text.utf8
      "-----BEGIN CERTIFICATE-----\nbGFtcA==\n-----END CERTIFICATE-----\n"))]

/-- A file can end the loading by what it holds. -/
theorem exists_load_ended_by_bytes :
    ¬ ∀ (σ : Type) [CertificateStore σ],
      (∀ (store : σ) c thing, ∃ id,
        (CertificateStore.register store c thing).value.1 = .ok id) →
      ∀ (root : Entry) directory entries (store : σ),
        root.follow directory >>= Entry.list = .ok entries →
        (∀ name entry, (name, entry) ∈ entries →
          (∃ bytes, entry = .file bytes) ∧
            Entry.checkPath (Entry.pathOf directory name) = .ok ()) →
        ∃ count, (load root directory store).value.1 = .ok count := by
  intro h
  have hfiles : ∀ name entry, (name, entry) ∈ bytesFirst →
      (∃ bytes, entry = .file bytes) ∧ Entry.checkPath (Entry.pathOf "/" name) = .ok () := by
    intro name entry hmem
    rcases List.mem_pair.1 hmem with heq | heq
    all_goals
      cases heq
      exact ⟨⟨_, rfl⟩, rfl⟩
  have hlist : (Entry.directory bytesFirst).follow "/" >>= Entry.list = .ok bytesFirst := rfl
  obtain ⟨count, hcount⟩ :=
    h Heedless (fun _ _ _ => ⟨_, rfl⟩) (.directory bytesFirst) "/" bytesFirst ⟨⟩ hlist hfiles
  have haccepting : Accepting Heedless := fun _ _ _ _ => ⟨_, rfl⟩
  have hreadable := ((ends_load hlist Heedless.mk).ok_iff haccepting).1 ⟨count, hcount⟩
  obtain ⟨door, hdoor⟩ : ∃ thing : Thing, thing.name = "door" :=
    ⟨⟨"door", by decide, List.all_eq_true.1 rfl⟩, rfl⟩
  have hmem : (door.name ++ ".pem", Entry.file [0xff]) ∈ bytesFirst := by
    rw [hdoor]
    exact List.mem_cons_self
  obtain ⟨bytes, text, hfile, -, htext⟩ := allReadable_iff.1 hreadable door _ hmem
  cases hfile
  have hnone : Text.ofUtf8? [0xff] = none := by decide +kernel
  rw [hnone] at htext
  cases htext

end DeviceIdentity.Seeding
