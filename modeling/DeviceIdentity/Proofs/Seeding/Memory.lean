import DeviceIdentity.Proofs.Seeding
import DeviceIdentity.Proofs.Store.History

/-!
# Seeding a store in memory

What a store in memory holds after the certificates of a directory were loaded into it: what it held
before, and under the fingerprint of each certificate that was found an active registration for the
things that its files are named after. A loading makes one registration for each of these files, so
neither the order of the listing nor a second loading makes a difference.
-/
namespace DeviceIdentity.Seeding

/-! ## What counts -/

/-- The entry is named after a thing, and its text is a certificate that can be decoded. -/
structure Qualifies (directory : String) (p : String × Entry) : Prop where
  named : ∃ thing : Thing, p.1 = thing.name ++ ".pem"
  decodable : ∃ text der, contents directory p.1 p.2 = .ok text ∧ Pem.readCertificate text = .ok der

/-- Among the entries is a file that is named after the thing and holds a certificate with the
id. -/
def Attaches (directory : String) (entries : List (String × Entry)) (id : CertificateId)
    (thing : Thing) : Prop :=
  ∃ entry text der, (thing.name ++ ".pem", entry) ∈ entries ∧
    contents directory (thing.name ++ ".pem") entry = .ok text ∧
    Pem.readCertificate text = .ok der ∧ id = ⟨Digest.hexDigest der⟩

section Count

variable {directory : String} {entries : List (String × Entry)} {p : String × Entry}

/-- A text that can be decoded is a certificate, for it is not empty. -/
theorem exists_certificate {text : String} {der : List UInt8}
    (h : Pem.readCertificate text = .ok der) : ∃ c : Certificate, c.text = text := by
  refine ⟨⟨text, ?_⟩, rfl⟩
  rintro rfl
  cases h

theorem qualifies_iff :
    Qualifies directory p ↔ ∃ thing c, find directory p.1 p.2 = .certificate thing c := by
  simp only [find_eq_certificate_iff]
  constructor
  · rintro ⟨⟨thing, hname⟩, text, der, htext, hder⟩
    obtain ⟨c, rfl⟩ := exists_certificate hder
    exact ⟨thing, c, hname, htext, _, Certificate.id_of_ok hder⟩
  · rintro ⟨thing, c, hname, hcontents, id, hid⟩
    obtain ⟨der, hder, -⟩ := Certificate.id_eq_ok_iff.1 hid
    exact ⟨⟨thing, hname⟩, c.text, der, hcontents, hder⟩

instance : DecidablePred (Qualifies directory) := fun p =>
  match h : find directory p.1 p.2 with
  | .certificate thing c => .isTrue (qualifies_iff.2 ⟨thing, c, h⟩)
  | .ignored | .skipped _ | .unreadable _ => .isFalse (by rw [qualifies_iff, h]; nofun)

theorem length_found :
    (found directory entries).length = entries.countP fun p => Qualifies directory p := by
  rw [found, List.length_filterMap_eq_countP]
  refine List.countP_congr fun p _ => ?_
  rw [decide_eq_true_iff, qualifies_iff]
  cases find directory p.1 p.2 <;> simp

theorem attaches_iff {id : CertificateId} {thing : Thing} :
    Attaches directory entries id thing ↔
      ∃ c, (thing, c) ∈ found directory entries ∧ c.id = .ok id := by
  simp only [mem_found_iff]
  constructor
  · rintro ⟨entry, text, der, hmem, hcontents, hder, rfl⟩
    obtain ⟨c, rfl⟩ := exists_certificate hder
    have hid := Certificate.id_of_ok hder
    exact ⟨c, ⟨_, entry, hmem, rfl, hcontents, _, hid⟩, hid⟩
  · rintro ⟨c, ⟨name, entry, hmem, rfl, hcontents, -⟩, hid⟩
    obtain ⟨der, hder, rfl⟩ := Certificate.id_eq_ok_iff.1 hid
    exact ⟨entry, c.text, der, hmem, hcontents, hder, rfl⟩

end Count

/-! ## What is registered -/

/-- The calls that register certificates one after the other. -/
def calls (certificates : List (Thing × Certificate)) : List Store.Call :=
  certificates.map fun p => .register p.2 (some p.1)

theorem registerAll_eq_run (s : Store) (certificates : List (Thing × Certificate)) :
    registerAll s certificates = (s.run (calls certificates)).value.2 := by
  induction certificates generalizing s with
  | nil => rfl
  | cons p certificates ih => exact ih _

theorem registers_calls_found_iff {directory : String} {entries : List (String × Entry)}
    {id : CertificateId} {thing : Option Thing} :
    Store.Registers (calls (found directory entries)) id thing ↔
      ∃ t, thing = some t ∧ Attaches directory entries id t := by
  simp only [Store.registers_iff, calls, List.mem_map, Prod.exists, attaches_iff]
  constructor
  · rintro ⟨c, ⟨t, c', hmem, hcall⟩, hid⟩
    cases hcall
    exact ⟨t, rfl, c, hmem, hid⟩
  · rintro ⟨t, rfl, c, hmem, hid⟩
    exact ⟨c, ⟨t, c, hmem, rfl⟩, hid⟩

/-! ## Loading -/

section Load

variable {root root' : Entry} {directory : String} {entries entries' : List (String × Entry)}

theorem AllReadable.perm (h : AllReadable directory entries) (hperm : entries'.Perm entries) :
    AllReadable directory entries' :=
  fun name entry hmem => h name entry (hperm.mem_iff.1 hmem)

/-- Where everything can be read, a loading counts what qualifies and makes the registrations. -/
theorem value_load_of_allReadable (hlist : root.follow directory >>= Entry.list = .ok entries)
    (hreadable : AllReadable directory entries) (s : Store) :
    (load root directory s).value =
      (.ok (entries.countP fun p => Qualifies directory p),
        (s.run (calls (found directory entries))).value.2) := by
  have hends := ends_load hlist s
  obtain ⟨total, htotal⟩ := (hends.ok_iff accepting_store).2 hreadable
  obtain ⟨hcount, hstore⟩ := hends.of_ok htotal
  rw [Nat.zero_add, length_found] at hcount
  rw [registerAll_eq_run] at hstore
  rw [← hstore, ← hcount, ← htotal]

theorem value_load_perm (hlist : root.follow directory >>= Entry.list = .ok entries)
    (hlist' : root'.follow directory >>= Entry.list = .ok entries')
    (hreadable : AllReadable directory entries) (hperm : entries'.Perm entries) (s : Store) :
    (load root' directory s).value = (load root directory s).value := by
  have hcalls : (calls (found directory entries')).Perm (calls (found directory entries)) :=
    (hperm.filterMap _).map _
  rw [value_load_of_allReadable hlist hreadable,
    value_load_of_allReadable hlist' (hreadable.perm hperm), hperm.countP_eq,
    Store.value_run_perm hcalls]

/-- Where every entry of a directory that is named after a thing is a file of text, whatever else is
in the directory, a loading into any store in memory answers the number of those that hold a
certificate that can be decoded. What the store held under other ids is as it was. Under the
fingerprint of each certificate stands an active registration: for the things that were there
before, and those that the files of the certificate are named after, however the files lay it out.
In whichever order the directory is listed, the answer and the store are the same, also when the
certificates are loaded again into the store that they were loaded into. -/
theorem value_load_of_readable (hlist : root.follow directory >>= Entry.list = .ok entries)
    (hreadable : ∀ (thing : Thing) entry, (thing.name ++ ".pem", entry) ∈ entries →
      ∃ bytes text, entry = .file bytes ∧
        Entry.checkPath (Entry.pathOf directory (thing.name ++ ".pem")) = .ok () ∧
        Text.ofUtf8? bytes = some text) (s : Store) :
    ∃ s' : Store,
      (load root directory s).value =
        (.ok (entries.countP fun p => Qualifies directory p), s') ∧
      (∀ id, (∀ thing, ¬ Attaches directory entries id thing) → s'.get? id = s.get? id) ∧
      (∀ id thing, Attaches directory entries id thing →
        ∃ r, s'.get? id = some r ∧ r.status = .active ∧
          ∀ t, t ∈ r.things ↔ Attaches directory entries id t ∨ t ∈ s.things id) ∧
      (s.Ordered → s'.Ordered) ∧
      ∀ root' entries', root'.follow directory >>= Entry.list = .ok entries' →
        entries'.Perm entries →
        (load root' directory s).value =
            (.ok (entries.countP fun p => Qualifies directory p), s') ∧
          (load root' directory s').value =
            (.ok (entries.countP fun p => Qualifies directory p), s') := by
  have hreadable : AllReadable directory entries := allReadable_iff.2 hreadable
  have hload := value_load_of_allReadable hlist hreadable
  have hgains := Store.gains_run s (calls (found directory entries))
  refine ⟨_, hload s, ?_, ?_, fun hordered => hordered.run _, ?_⟩
  · intro id hid
    refine hgains.kept id fun thing hthing => ?_
    obtain ⟨t, -, hattaches⟩ := registers_calls_found_iff.1 hthing
    exact hid t hattaches
  · intro id thing hattaches
    obtain ⟨r, hr, hactive⟩ :=
      hgains.gained id (some thing) (registers_calls_found_iff.2 ⟨thing, rfl, hattaches⟩)
    refine ⟨r, hr, hactive, fun t => ?_⟩
    rw [← Store.things_of_get? hr, hgains.mem_things_iff, registers_calls_found_iff]
    simp only [Option.some.injEq, exists_eq_left']
  · -- Another order of the listing makes the same calls, and made again they change nothing.
    intro root' entries' hlist' hperm
    have hload' := value_load_perm hlist hlist' hreadable hperm
    rw [hload', hload', hload, hload, Store.value_run_run]
    exact ⟨rfl, rfl⟩

end Load

/-- One certificate in two layouts, each in a file that is named after a thing, besides entries that
hold none. -/
def twoLayouts : List (String × Entry) :=
  [("door.pem", .file (Text.utf8
      "-----BEGIN CERTIFICATE-----\nbGFtcA==\n-----END CERTIFICATE-----\n")),
    ("the lamp.pem", .directory []),
    ("lamp.pem", .file (Text.utf8
      "-----BEGIN CERTIFICATE-----\r\nbGFt\r\ncA==\r\n-----END CERTIFICATE-----\r\n")),
    ("desk.pem", .file (Text.utf8 "no certificate"))]

theorem value_load_of_readable_twoLayouts :
    (Entry.directory twoLayouts).follow "/" >>= Entry.list = .ok twoLayouts ∧
      ∃ s' : Store, (load (.directory twoLayouts) "/" Store.empty).value = (.ok 2, s') ∧
        s'.Ordered ∧ (load (.directory twoLayouts.reverse) "/" s').value = (.ok 2, s') := by
  refine ⟨rfl, ?_⟩
  have hlist : (Entry.directory twoLayouts).follow "/" >>= Entry.list = .ok twoLayouts := rfl
  have hreadable : ∀ (thing : Thing) entry, (thing.name ++ ".pem", entry) ∈ twoLayouts →
      ∃ bytes text, entry = .file bytes ∧
        Entry.checkPath (Entry.pathOf "/" (thing.name ++ ".pem")) = .ok () ∧
        Text.ofUtf8? bytes = some text := by
    intro thing entry hmem
    generalize hname : thing.name ++ ".pem" = name at hmem ⊢
    simp only [twoLayouts, List.mem_cons, Prod.mk.injEq, List.not_mem_nil, or_false] at hmem
    rcases hmem with ⟨rfl, rfl⟩ | ⟨rfl, rfl⟩ | ⟨rfl, rfl⟩ | ⟨rfl, rfl⟩
    · exact ⟨_, "-----BEGIN CERTIFICATE-----\nbGFtcA==\n-----END CERTIFICATE-----\n", rfl, rfl,
        by decide +kernel⟩
    · -- The name of a thing has no blank.
      have hblank : ' ' ∈ thing.name.toList := by
        have hstem : pemStem? "the lamp.pem" = some "the lamp" := by decide +kernel
        have hthing := pemStem?_eq_some_iff.2 ⟨hname.symm, thing.name_ne_empty⟩
        rw [← Option.some.inj (hstem.symm.trans hthing)]
        decide
      cases thing.name_chars ' ' hblank
    · exact ⟨_, "-----BEGIN CERTIFICATE-----\r\nbGFt\r\ncA==\r\n-----END CERTIFICATE-----\r\n",
        rfl, rfl, by decide +kernel⟩
    · exact ⟨_, "no certificate", rfl, rfl, by decide +kernel⟩
  have hcount : (twoLayouts.countP fun p => Qualifies "/" p) = 2 := by decide +kernel
  obtain ⟨s', hload, -, -, hordered, hagain⟩ :=
    value_load_of_readable hlist hreadable Store.empty
  have hreverse := hagain (.directory twoLayouts.reverse) _ rfl twoLayouts.reverse_perm
  rw [hcount] at hload hreverse
  exact ⟨s', hload, hordered Store.ordered_empty, hreverse.2⟩

end DeviceIdentity.Seeding
