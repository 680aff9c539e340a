import DeviceIdentity.Configuration.Authority
import DeviceIdentity.Proofs.Outcome
import DeviceIdentity.Proofs.Text

/-!
# Which settings are accepted

The settings of the certificate authority are accepted if they pass four checks: of the URI of the
certificate, of the URI of the key, of both together, and of the kind of key. What is accepted is
taken over as it stands; otherwise the first check that fails is the one that is reported.
-/
namespace DeviceIdentity.Authority

variable {service : Option Json} {fault : ConfigurationFault}

/-! ## URIs -/

/-- A text is a URI: an ASCII letter, more such letters, digits and signs, a colon, and a rest. -/
def IsUri (uri : String) : Prop :=
  ∃ first more rest, uri.toList = (first :: more) ++ ':' :: rest ∧ first.isAlpha = true ∧
    (∀ c ∈ more, c.isAlphanum = true ∨ c = '+' ∨ c = '-' ∨ c = '.') ∧ rest ≠ []

theorem isScheme_iff {scheme : List Char} :
    isScheme scheme = true ↔
      ∃ first more, scheme = first :: more ∧ first.isAlpha = true ∧
        ∀ c ∈ more, c.isAlphanum = true ∨ c = '+' ∨ c = '-' ∨ c = '.' := by
  cases scheme with
  | nil => simp [isScheme]
  | cons first more =>
    simp [isScheme, isSchemeStart, isSchemeChar, or_assoc]

/-- No scheme has a colon, so the first colon of a URI is the one behind its scheme. -/
theorem colon_notMem {scheme : List Char} (h : isScheme scheme = true) : ':' ∉ scheme := by
  obtain ⟨first, more, rfl, hfirst, hmore⟩ := isScheme_iff.1 h
  intro hmem
  rcases List.mem_cons.1 hmem with rfl | hmem
  · revert hfirst
    decide
  · have hcolon := hmore _ hmem
    revert hcolon
    decide

theorem isUri_iff {uri : String} : isUri uri = true ↔ IsUri uri := by
  constructor
  · intro h
    unfold isUri at h
    split at h
    · next scheme rest hsplit =>
      obtain ⟨hscheme, hrest⟩ := Bool.and_eq_true_iff.1 h
      obtain ⟨first, more, rfl, hfirst, hmore⟩ := isScheme_iff.1 hscheme
      obtain ⟨huri, -⟩ := Text.splitOnce_eq_some hsplit
      exact ⟨first, more, rest, huri, hfirst, hmore, by simpa using hrest⟩
    · cases h
  · rintro ⟨first, more, rest, huri, hfirst, hmore, hrest⟩
    have hscheme : isScheme (first :: more) = true :=
      isScheme_iff.2 ⟨first, more, rfl, hfirst, hmore⟩
    rw [isUri, huri, Text.splitOnce_append (colon_notMem hscheme)]
    simp [hscheme, hrest]

/-! ## Settings -/

/-- What is configured under a key. -/
def configured (service : Option Json) (key : String) : Option Json :=
  service.bind (Json.node? ["configuration", "certificateAuthority", key])

theorem setting?_eq_configured (service : Option Json) (key : String) :
    setting? service key = configured service key := rfl

/-- A setting is given as a text: any but the empty one. -/
def Gives (service : Option Json) (key text : String) : Prop :=
  configured service key = some (.string text) ∧ text ≠ ""

theorem textSetting?_eq_some_iff {key text : String} :
    textSetting? service key = some text ↔ Gives service key text := by
  unfold textSetting? Gives
  rw [setting?_eq_configured]
  split
  · next s hs =>
    rw [hs]
    by_cases hempty : s = ""
    · simp only [hempty, ↓reduceIte, reduceCtorEq, false_iff]
      rintro ⟨htext, hne⟩
      cases htext
      exact hne rfl
    · simp only [hempty, ↓reduceIte, Option.some.injEq, Json.string.injEq]
      constructor
      · rintro rfl
        exact ⟨rfl, hempty⟩
      · exact And.left
  · next hs =>
    simp only [reduceCtorEq, false_iff]
    rintro ⟨htext, -⟩
    exact hs text htext

theorem isSome_textSetting?_iff {key : String} :
    (textSetting? service key).isSome = true ↔ ∃ text, Gives service key text := by
  simp only [Option.isSome_iff_exists, textSetting?_eq_some_iff]

theorem uriSetting_eq_ok_iff {key : String} {uri : Option String} :
    uriSetting service key = .ok uri ↔
      textSetting? service key = uri ∧ ∀ text, Gives service key text → IsUri text := by
  simp only [← textSetting?_eq_some_iff, ← isUri_iff]
  unfold uriSetting
  cases textSetting? service key with
  | none => simp
  | some text => by_cases huri : isUri text = true <;> simp [huri]

theorem uriSetting_eq_error_iff {key : String} :
    uriSetting service key = .error fault ↔
      ∃ text, Gives service key text ∧ ¬ IsUri text ∧ fault = .invalidUri key text := by
  simp only [← textSetting?_eq_some_iff, ← isUri_iff]
  unfold uriSetting
  cases textSetting? service key with
  | none => simp
  | some text =>
    by_cases huri : isUri text = true
    · simp [huri]
    · simp [huri, eq_comm (b := fault)]

/-! ## Kinds of key -/

/-- The names of the kinds of key. -/
inductive IsName : String → KeyType → Prop
  | rsa2048 : IsName "RSA_2048" .rsa2048
  | ecdsaP256 : IsName "ECDSA_P256" .ecdsaP256

/-- What a setting of the kind of key stands for: a kind, or a fault. -/
inductive StandsFor : Option Json → Except ConfigurationFault KeyType → Prop
  | absent : StandsFor none (.ok .rsa2048)
  | null : StandsFor (some .null) (.ok .rsa2048)
  | noEntry : StandsFor (some (.array [])) (.ok .rsa2048)
  | name {text : String} {k : KeyType} (h : IsName text k) :
      StandsFor (some (.string text)) (.ok k)
  | firstName {text : String} {k : KeyType} (h : IsName text k) (rest : List Json) :
      StandsFor (some (.array (.string text :: rest))) (.ok k)
  | unsupported {text : String} (h : ∀ k, ¬ IsName text k) :
      StandsFor (some (.string text)) (.error (.unsupportedKeyType text))
  | firstUnsupported {text : String} (h : ∀ k, ¬ IsName text k) (rest : List Json) :
      StandsFor (some (.array (.string text :: rest))) (.error (.unsupportedKeyType text))
  | notText {v : Json} (hnull : v ≠ .null) (htext : ∀ s, v ≠ .string s)
      (hlist : ∀ items, v ≠ .array items) :
      StandsFor (some v) (.error (.keyTypeNotText v.compact))
  | firstNotText {v : Json} (htext : ∀ s, v ≠ .string s) (rest : List Json) :
      StandsFor (some (.array (v :: rest))) (.error (.keyTypeNotText v.compact))

theorem ofName?_eq_some_iff {text : String} {k : KeyType} :
    KeyType.ofName? text = some k ↔ IsName text k := by
  constructor
  · intro h
    unfold KeyType.ofName? at h
    split at h
    · cases h
      exact .rsa2048
    · cases h
      exact .ecdsaP256
    · cases h
  · rintro (_ | _) <;> rfl

theorem keyTypeNamed_of_isName {text : String} {k : KeyType} (h : IsName text k) :
    keyTypeNamed text = .ok k := by
  simp only [keyTypeNamed, ofName?_eq_some_iff.2 h]

theorem keyTypeNamed_of_not_isName {text : String} (h : ∀ k, ¬ IsName text k) :
    keyTypeNamed text = .error (.unsupportedKeyType text) := by
  have hnone : KeyType.ofName? text = none :=
    Option.eq_none_iff_forall_ne_some.2 fun k hk => h k (ofName?_eq_some_iff.1 hk)
  simp only [keyTypeNamed, hnone]

theorem exists_isName_or (text : String) : (∃ k, IsName text k) ∨ ∀ k, ¬ IsName text k := by
  rw [← not_exists]
  exact Classical.em _

theorem exists_standsFor (setting : Option Json) : ∃ result, StandsFor setting result := by
  cases setting with
  | none => exact ⟨_, .absent⟩
  | some v =>
    cases v with
    | null => exact ⟨_, .null⟩
    | bool | number | object => exact ⟨_, .notText (by simp) (by simp) (by simp)⟩
    | string text =>
      rcases exists_isName_or text with ⟨k, h⟩ | h
      · exact ⟨_, .name h⟩
      · exact ⟨_, .unsupported h⟩
    | array items =>
      cases items with
      | nil => exact ⟨_, .noEntry⟩
      | cons first rest =>
        cases first with
        | string text =>
          rcases exists_isName_or text with ⟨k, h⟩ | h
          · exact ⟨_, .firstName h rest⟩
          · exact ⟨_, .firstUnsupported h rest⟩
        | null | bool | number | array | object => exact ⟨_, .firstNotText (by simp) rest⟩

theorem StandsFor.eq {setting : Option Json} {result : Except ConfigurationFault KeyType}
    (h : StandsFor setting result) : keyTypeOf setting = result := by
  cases h with
  | absent | null | noEntry => rfl
  | name h | firstName h rest => exact keyTypeNamed_of_isName h
  | unsupported h | firstUnsupported h rest => exact keyTypeNamed_of_not_isName h
  | @notText v hnull htext hlist =>
    cases v with
    | null => exact absurd rfl hnull
    | string s => exact absurd rfl (htext s)
    | array items => exact absurd rfl (hlist items)
    | bool | number | object => rfl
  | @firstNotText v htext rest =>
    cases v with
    | string s => exact absurd rfl (htext s)
    | null | bool | number | array | object => rfl

theorem standsFor_iff {setting : Option Json} {result : Except ConfigurationFault KeyType} :
    StandsFor setting result ↔ keyTypeOf setting = result := by
  constructor
  · exact StandsFor.eq
  · rintro rfl
    obtain ⟨result, h⟩ := exists_standsFor setting
    exact h.eq ▸ h

/-! ## Checks -/

/-- What is checked. -/
inductive Check where
  | uri (key : String)
  | pairing
  | keyType

/-- The checks in the order in which they are made. -/
def checks : List Check := [.uri "certificateUri", .uri "privateKeyUri", .pairing, .keyType]

/-- Both URIs are given, or none. -/
def Paired (service : Option Json) : Prop :=
  (∃ uri, Gives service "certificateUri" uri) ↔ ∃ uri, Gives service "privateKeyUri" uri

/-- A check fails with a fault. -/
inductive Fails (service : Option Json) : Check → ConfigurationFault → Prop
  | uri {key text : String} (hgiven : Gives service key text) (huri : ¬ IsUri text) :
      Fails service (.uri key) (.invalidUri key text)
  | pairing (h : ¬ Paired service) : Fails service .pairing .unpairedUris
  | keyType {fault : ConfigurationFault}
      (h : StandsFor (configured service "caType") (.error fault)) : Fails service .keyType fault

/-- One check. -/
def check (service : Option Json) : Check → Except ConfigurationFault Unit
  | .uri key => (uriSetting service key).map fun _ => ()
  | .pairing =>
    if (textSetting? service "certificateUri").isSome =
        (textSetting? service "privateKeyUri").isSome then .ok ()
    else .error .unpairedUris
  | .keyType => (keyTypeOf (configured service "caType")).map fun _ => ()

theorem paired_iff :
    (textSetting? service "certificateUri").isSome =
        (textSetting? service "privateKeyUri").isSome ↔ Paired service := by
  rw [Paired, Bool.eq_iff_iff, isSome_textSetting?_iff, isSome_textSetting?_iff]

theorem check_eq_error_iff {c : Check} :
    check service c = .error fault ↔ Fails service c fault := by
  cases c with
  | uri key =>
    rw [check, map_eq_error_iff, uriSetting_eq_error_iff]
    constructor
    · rintro ⟨text, hgiven, huri, rfl⟩
      exact .uri hgiven huri
    · rintro ⟨hgiven, huri⟩
      exact ⟨_, hgiven, huri, rfl⟩
  | pairing =>
    simp only [check]
    split
    · next hpaired =>
      refine ⟨nofun, fun h => ?_⟩
      cases h with
      | pairing hunpaired => exact absurd (paired_iff.1 hpaired) hunpaired
    · next hunpaired =>
      constructor
      · intro h
        cases h
        exact .pairing (mt paired_iff.2 hunpaired)
      · intro h
        cases h
        rfl
  | keyType =>
    rw [check, map_eq_error_iff, ← standsFor_iff]
    exact ⟨.keyType, fun | .keyType h => h⟩

/-- The settings are read if and only if they pass the checks, and otherwise the fault is that of
the checks. -/
theorem map_ofService (service : Option Json) :
    (ofService service).map (fun _ => ()) = checks.forM (check service) := by
  simp only [ofService, checks, List.forM, check, setting?_eq_configured]
  cases hcertificate : uriSetting service "certificateUri" with
  | error fault => rfl
  | ok certificateUri =>
    cases hkey : uriSetting service "privateKeyUri" with
    | error fault => rfl
    | ok privateKeyUri =>
      obtain ⟨rfl, -⟩ := uriSetting_eq_ok_iff.1 hcertificate
      obtain ⟨rfl, -⟩ := uriSetting_eq_ok_iff.1 hkey
      by_cases hpaired : (textSetting? service "certificateUri").isSome =
          (textSetting? service "privateKeyUri").isSome
      · cases keyTypeOf (configured service "caType") <;>
          simp [bind, Except.bind, Except.map, pure, Except.pure, hpaired]
      · simp [bind, Except.bind, Except.map, hpaired]

/-- The settings that are accepted: they pass the checks and are taken over. -/
structure Accepted (service : Option Json) (a : Authority) : Prop where
  certificateUri_iff : ∀ uri, a.certificateUri = some uri ↔ Gives service "certificateUri" uri
  privateKeyUri_iff : ∀ uri, a.privateKeyUri = some uri ↔ Gives service "privateKeyUri" uri
  certificateUri_isUri : ∀ uri, Gives service "certificateUri" uri → IsUri uri
  privateKeyUri_isUri : ∀ uri, Gives service "privateKeyUri" uri → IsUri uri
  paired : Paired service
  keyType : StandsFor (configured service "caType") (.ok a.keyType)

/-- The URIs of accepted settings are those that are given. -/
theorem Accepted.uris_eq {a : Authority} (h : Accepted service a) :
    a.certificateUri = textSetting? service "certificateUri" ∧
      a.privateKeyUri = textSetting? service "privateKeyUri" := by
  constructor
  · refine Option.ext fun uri => ?_
    rw [h.certificateUri_iff, textSetting?_eq_some_iff]
  · refine Option.ext fun uri => ?_
    rw [h.privateKeyUri_iff, textSetting?_eq_some_iff]

theorem ofService_eq_ok_iff {a : Authority} : ofService service = .ok a ↔ Accepted service a := by
  simp only [ofService, bind_eq_ok_iff, uriSetting_eq_ok_iff, setting?_eq_configured]
  constructor
  · rintro ⟨_, ⟨rfl, hcertificate⟩, _, ⟨rfl, hkey⟩, h⟩
    split at h
    · cases h
    · next hpaired =>
      obtain ⟨keyType, hkeyType, ha⟩ := bind_eq_ok_iff.1 h
      cases ha
      exact {
        certificateUri_iff := fun uri => textSetting?_eq_some_iff
        privateKeyUri_iff := fun uri => textSetting?_eq_some_iff
        certificateUri_isUri := hcertificate
        privateKeyUri_isUri := hkey
        paired := paired_iff.1 (not_not.1 hpaired)
        keyType := standsFor_iff.2 hkeyType }
  · intro h
    obtain ⟨hcertificate, hkey⟩ := h.uris_eq
    refine ⟨_, ⟨rfl, h.certificateUri_isUri⟩, _, ⟨rfl, h.privateKeyUri_isUri⟩, ?_⟩
    rw [if_neg (not_not.2 (paired_iff.2 h.paired)), standsFor_iff.1 h.keyType, ← hcertificate,
      ← hkey]
    rfl

/-- Settings are accepted if and only if each URI that is given is one, both are given or none, and
the setting of the kind of key stands for one. -/
theorem exists_accepted_iff :
    (∃ a, Accepted service a) ↔
      (∀ uri, Gives service "certificateUri" uri → IsUri uri) ∧
      (∀ uri, Gives service "privateKeyUri" uri → IsUri uri) ∧
      Paired service ∧
      ∃ k, StandsFor (configured service "caType") (.ok k) := by
  constructor
  · rintro ⟨a, h⟩
    exact ⟨h.certificateUri_isUri, h.privateKeyUri_isUri, h.paired, a.keyType, h.keyType⟩
  · rintro ⟨hcertificate, hkey, hpaired, k, hk⟩
    exact ⟨⟨textSetting? service "certificateUri", textSetting? service "privateKeyUri", k⟩,
      fun uri => textSetting?_eq_some_iff, fun uri => textSetting?_eq_some_iff, hcertificate, hkey,
      hpaired, hk⟩

theorem check_eq_ok_iff {c : Check} :
    check service c = .ok () ↔ ∀ fault, ¬ Fails service c fault := by
  simp only [← check_eq_error_iff]
  cases check service c with
  | error fault => simp
  | ok u => simp

/-- The fault of the first check that fails. -/
def FirstFault (service : Option Json) (fault : ConfigurationFault) : Prop :=
  ∃ before c after, checks = before ++ c :: after ∧
    (∀ b ∈ before, ∀ fault', ¬ Fails service b fault') ∧ Fails service c fault

theorem ofService_eq_error_iff : ofService service = .error fault ↔ FirstFault service fault := by
  rw [← map_eq_error_iff (f := fun _ => ()), map_ofService, forM_eq_error_iff]
  simp only [FirstFault, check_eq_ok_iff, check_eq_error_iff]

/-- Whatever stands in the node of the service, its settings are read if and only if each URI that
is given is one, both are given or none, and the setting of the kind of key stands for one. Then the
URIs and the kind of key are taken over as they stand, so both URIs are there or none, and an
authority other than the own one is configured exactly where they are. Otherwise the fault is that
of the first check that fails. -/
theorem ofService_ok_or_firstFault (service : Option Json) :
    ((∃ a, ofService service = .ok a) ↔
      (∀ uri, Gives service "certificateUri" uri → IsUri uri) ∧
      (∀ uri, Gives service "privateKeyUri" uri → IsUri uri) ∧
      Paired service ∧
      ∃ k, StandsFor (configured service "caType") (.ok k)) ∧
    (∀ a, ofService service = .ok a →
      (∀ uri, a.certificateUri = some uri ↔ Gives service "certificateUri" uri) ∧
      (∀ uri, a.privateKeyUri = some uri ↔ Gives service "privateKeyUri" uri) ∧
      StandsFor (configured service "caType") (.ok a.keyType) ∧
      (a.isExternal = true ↔ ∃ uri, a.certificateUri = some uri) ∧
      (a.isExternal = true ↔ ∃ uri, a.privateKeyUri = some uri)) ∧
    ∀ fault, ofService service = .error fault ↔ FirstFault service fault := by
  refine ⟨?_, ?_, fun fault => ofService_eq_error_iff⟩
  · simp only [ofService_eq_ok_iff]
    exact exists_accepted_iff
  · intro a ha
    have h := ofService_eq_ok_iff.1 ha
    have hcertificate : a.isExternal = true ↔ ∃ uri, a.certificateUri = some uri :=
      Option.isSome_iff_exists
    refine ⟨h.certificateUri_iff, h.privateKeyUri_iff, h.keyType, hcertificate, ?_⟩
    rw [hcertificate]
    simp only [h.certificateUri_iff, h.privateKeyUri_iff]
    exact h.paired

end DeviceIdentity.Authority
