import DeviceIdentity.Policy
import DeviceIdentity.Thing
import DeviceIdentity.Proofs.Json.RoundTrip
import DeviceIdentity.Proofs.Outcome

/-!
# Domain values there and back

Things, attributes, permissions and policies are read back from the text that is written for them,
in whatever order their members stand there. A thing is read from no other text than that of a
string, with leading and trailing blanks, and only if the string is the name of a thing.
-/
namespace DeviceIdentity

open Text (Glyph)

/-! ## Strings in a text -/

namespace Json

/-- What is read between brackets is no string. -/
def ReadsNoString (read : Reader Json) : Prop :=
  ∀ rest s rest', read rest ≠ .ok (.string s, rest')

/-- A value that is a string has been read as a text. -/
theorem text_of_scalarOr {array object : Reader Json} (harray : ReadsNoString array)
    (hobject : ReadsNoString object) {rest rest' : List Glyph} {s : String}
    (h : scalarOr array object rest = .ok (.string s, rest')) : text rest = .ok (s, rest') := by
  unfold scalarOr at h
  split at h
  · cases h
  · next g rest hskip =>
    -- What the first character starts: a literal, a text, a number, an array or an object.
    split_ifs at h with hnull htrue hfalse hquote hnumber hopen hbrace
    all_goals try simp only [bind_eq_ok_iff, pure_eq_ok_iff, Prod.mk.injEq, reduceCtorEq,
      false_and, and_false, exists_false] at h
    · obtain ⟨⟨s, rest'⟩, hstring, heq, rfl⟩ := h
      cases heq
      subst hquote
      simp only [text, hskip]
      exact hstring
    · exact absurd h (harray _ _ _)
    · exact absurd h (hobject _ _ _)

theorem text_of_value {depth : Nat} {rest rest' : List Glyph} {s : String}
    (h : value depth rest = .ok (.string s, rest')) : text rest = .ok (s, rest') := by
  cases depth with
  | zero =>
    have htooDeep : ReadsNoString fun rest => .error (.before rest .tooDeep) := nofun
    exact text_of_scalarOr htooDeep htooDeep h
  | succ depth =>
    refine text_of_scalarOr ?_ ?_ h
    · intro rest s rest' h
      simp only [bind_eq_ok_iff, pure_eq_ok_iff] at h
      obtain ⟨vs, -, heq⟩ := h
      cases heq
    · intro rest s rest' h
      simp only [bind_eq_ok_iff, pure_eq_ok_iff] at h
      obtain ⟨ms, -, heq⟩ := h
      cases heq

theorem value_of_text (depth : Nat) {rest rest' : List Glyph} {s : String}
    (h : text rest = .ok (s, rest')) : value depth rest = .ok (.string s, rest') := by
  unfold text at h
  split at h
  · cases h
  · next behind hquote =>
    rw [value_quote hquote, h]
    rfl
  · cases h

theorem decode_eq_ok_iff {α : Type} {read : Reader α} {text : String} {v : α} :
    decode read text = .ok v ↔
      ∃ rest, read (Glyph.ofString text) = .ok (v, rest) ∧ finish rest = .ok () := by
  simp only [decode, mapError_eq_ok_iff, whole, bind_eq_ok_iff, pure_eq_ok_iff, Prod.exists]
  constructor
  · rintro ⟨v, rest, hread, _, hfinish, rfl⟩
    exact ⟨rest, hread, hfinish⟩
  · rintro ⟨rest, hread, hfinish⟩
    exact ⟨v, rest, hread, (), hfinish, rfl⟩

theorem members_ofMembers (ms : List (String × Json)) : (ofMembers ms).members = Named.ofList ms :=
  rfl

theorem object_members_ofMembers (ms : List (String × Json)) :
    object (ofMembers ms).members = ofMembers ms := rfl

end Json

/-! ## Things -/

namespace Thing

theorem ofJsonText_eq_ok_iff_reads {text : String} {thing : Thing} :
    ofJsonText text = .ok thing ↔
      ∃ rest, Json.text (Glyph.ofString text) = .ok (thing.name, rest) ∧
        Json.finish rest = .ok () := by
  simp only [ofJsonText]
  constructor
  · intro h
    split at h
    · cases h
    · next name rest htext =>
      split at h
      · cases h
      · next thing' hname =>
        split at h
        · cases h
        · next hfinish =>
          cases h
          rw [name_of_ofName hname]
          exact ⟨rest, htext, hfinish⟩
  · rintro ⟨rest, htext, hfinish⟩
    simp only [htext, ofName_name, hfinish]

/-- A thing is read from the texts that stand for its name as a string, and from no others. -/
theorem ofJsonText_eq_ok_iff {text : String} {thing : Thing} :
    ofJsonText text = .ok thing ↔ Json.ofText text = .ok (.string thing.name) := by
  rw [ofJsonText_eq_ok_iff_reads, Json.ofText, Json.decode_eq_ok_iff]
  constructor
  · rintro ⟨rest, htext, hfinish⟩
    exact ⟨rest, Json.value_of_text Json.depthLimit htext, hfinish⟩
  · rintro ⟨rest, hvalue, hfinish⟩
    exact ⟨rest, Json.text_of_value hvalue, hfinish⟩

theorem ofJsonText_compact (thing : Thing) : ofJsonText thing.toJson.compact = .ok thing :=
  ofJsonText_eq_ok_iff.2 (Json.reads_value_string Json.depthLimit thing.name).decode_compact

theorem isThingChar_iff (c : Char) :
    isThingChar c = true ↔
      ('a' ≤ c ∧ c ≤ 'z') ∨ ('A' ≤ c ∧ c ≤ 'Z') ∨ ('0' ≤ c ∧ c ≤ '9') ∨
        c = '-' ∨ c = '_' ∨ c = ':' := by
  have halphanum : c.isAlphanum = (decide ('A' ≤ c ∧ c ≤ 'Z') ||
      decide ('a' ≤ c) && decide (c ≤ 'z') || decide ('0' ≤ c) && decide (c ≤ '9')) := rfl
  simp only [isThingChar, halphanum, Bool.or_eq_true, Bool.and_eq_true, decide_eq_true_eq]
  tauto

end Thing

/-! ## Attributes -/

namespace Attribute

theorem ofJsonText_object {a : Attribute} {ms : List (String × Json)}
    (hms : ms.Perm a.toJson.members) : ofJsonText (Json.object ms).compact = .ok a := by
  cases a with
  | literal value =>
    have hread : Json.Reads tagged.reader (.literal value) (.object ms) :=
      Json.Tagged.reads_reader (by decide) rfl ((Json.reads_text value).map literal)
        (Json.reads_value_string _ value) rfl hms
    exact hread.decode_compact

theorem ofJsonText_compact (a : Attribute) : ofJsonText a.toJson.compact = .ok a := by
  have hobject : Json.object a.toJson.members = a.toJson := by
    cases a with
    | literal value => exact Json.object_members_ofMembers _
  rw [← hobject]
  exact ofJsonText_object (List.Perm.refl _)

end Attribute

/-! ## Permissions -/

namespace Permission

/-- What a part of a permission holds. -/
def held (p : Permission) : Part → String
  | .principal => p.principal
  | .operation => p.operation
  | .resource => p.resource

theorem name_injective : Function.Injective record.name := by
  intro f g h
  cases f <;> cases g <;> first | rfl | exact absurd h (by decide)

theorem ofJsonText_object {p : Permission} {ms : List (String × Json)}
    (hms : ms.Perm p.toJson.members) : ofJsonText (Json.object ms).compact = .ok p := by
  have hrecord : Json.Reads record.reader p.held (.object ms) :=
    Json.Record.reads_reader name_injective (fun f => Json.reads_text (p.held f)) (by decide) hms
  exact (hrecord.map fun parts =>
    Permission.mk (parts .principal) (parts .operation) (parts .resource)).decode_compact

theorem ofJsonText_compact (p : Permission) : ofJsonText p.toJson.compact = .ok p := by
  have hobject : Json.object p.toJson.members = p.toJson := Json.object_members_ofMembers _
  rw [← hobject]
  exact ofJsonText_object (List.Perm.refl _)

end Permission

/-! ## Policies -/

namespace Policy

/-- What a part of a policy holds. -/
def held (p : Policy) : (f : Part) → f.Content
  | .id => p.id
  | .principal => p.principal
  | .scope => p.scope
  | .operations => p.operations
  | .resources => p.resources

/-- What is written for a part of a policy. -/
def written (p : Policy) : Part → Json
  | .id => .string p.id
  | .principal => .string p.principal
  | .scope => .string p.scope
  | .operations => .ofStrings p.operations
  | .resources => .ofStrings p.resources

theorem name_injective : Function.Injective record.name := by
  intro f g h
  cases f <;> cases g <;> first | rfl | exact absurd h (by decide)

theorem reads_written (p : Policy) (f : Part) :
    Json.Reads (record.read f) (p.held f) (p.written f) := by
  cases f with
  | id => exact Json.reads_text p.id
  | principal => exact Json.reads_text p.principal
  | scope => exact Json.reads_text p.scope
  | operations => exact Json.reads_list p.operations
  | resources => exact Json.reads_list p.resources

theorem ofJsonText_object {p : Policy} {ms : List (String × Json)}
    (hms : ms.Perm p.toJson.members) : ofJsonText (Json.object ms).compact = .ok p := by
  have hrecord : Json.Reads record.reader p.held (.object ms) :=
    Json.Record.reads_reader name_injective p.reads_written (by decide) hms
  exact (hrecord.map fun parts => Policy.mk (parts .id) (parts .principal) (parts .scope)
    (parts .operations) (parts .resources)).decode_compact

theorem ofJsonText_compact (p : Policy) : ofJsonText p.toJson.compact = .ok p := by
  have hobject : Json.object p.toJson.members = p.toJson := Json.object_members_ofMembers _
  rw [← hobject]
  exact ofJsonText_object (List.Perm.refl _)

end Policy

/-! ## All of them -/

/-- Every thing, attribute, permission and policy is read back from the text that is written for it,
and so are the latter three with their members in any other order. Whatever text a thing is read
from, the text stands for the name of the thing as a string, and the name is one that a thing can be
made with: it is not empty, and it is made of letters, digits and three signs. -/
theorem ofJsonText_compact_and_ofText_eq_name :
    (∀ thing : Thing, Thing.ofJsonText thing.toJson.compact = .ok thing) ∧
    (∀ a : Attribute, Attribute.ofJsonText a.toJson.compact = .ok a ∧
      ∀ ms, ms.Perm a.toJson.members →
        Attribute.ofJsonText (Json.object ms).compact = .ok a) ∧
    (∀ p : Permission, Permission.ofJsonText p.toJson.compact = .ok p ∧
      ∀ ms, ms.Perm p.toJson.members →
        Permission.ofJsonText (Json.object ms).compact = .ok p) ∧
    (∀ p : Policy, Policy.ofJsonText p.toJson.compact = .ok p ∧
      ∀ ms, ms.Perm p.toJson.members →
        Policy.ofJsonText (Json.object ms).compact = .ok p) ∧
    ∀ (text : String) (thing : Thing), Thing.ofJsonText text = .ok thing →
      Json.ofText text = .ok (.string thing.name) ∧ Thing.ofName thing.name = .ok thing ∧
        thing.name ≠ "" ∧
        ∀ c ∈ thing.name.toList, ('a' ≤ c ∧ c ≤ 'z') ∨ ('A' ≤ c ∧ c ≤ 'Z') ∨
          ('0' ≤ c ∧ c ≤ '9') ∨ c = '-' ∨ c = '_' ∨ c = ':' := by
  refine ⟨Thing.ofJsonText_compact,
    fun a => ⟨a.ofJsonText_compact, fun _ hms => Attribute.ofJsonText_object hms⟩,
    fun p => ⟨p.ofJsonText_compact, fun _ hms => Permission.ofJsonText_object hms⟩,
    fun p => ⟨p.ofJsonText_compact, fun _ hms => Policy.ofJsonText_object hms⟩,
    fun text thing h => ⟨Thing.ofJsonText_eq_ok_iff.1 h, thing.ofName_name,
      thing.name_ne_empty, fun c hc => ?_⟩⟩
  exact (Thing.isThingChar_iff c).1 (thing.name_chars c hc)

/-- Quotes, backslashes, control characters and characters of four bytes are read back, also with
the members in the order of the fields. A name is read through its escapes. -/
theorem ofJsonText_compact_and_ofText_eq_name_escaped :
    Attribute.ofJsonText "\x7b\"value\":\"\\\"\\u0001𝄞\",\"type\":\"StringLiteral\"\x7d" =
        .ok (.literal "\"\x01𝄞") ∧
      Permission.ofJsonText (Json.object [("principal", .string "\x7f"), ("operation", .string ""),
        ("resource", .string "é")]).compact = .ok ⟨"\x7f", "", "é"⟩ ∧
      Policy.ofJsonText (Json.object [("policyId", .string "\n"), ("principal", .string "p"),
        ("namespace", .string "n"), ("operations", .ofStrings ["*", "\\"]),
        ("resources", .ofStrings [])]).compact = .ok ⟨"\n", "p", "n", ["*", "\\"], []⟩ ∧
      Thing.ofJsonText " \"a\\u002db\" " = .ok ⟨"a-b", by decide, List.all_eq_true.1 rfl⟩ ∧
      Json.ofText " \"a\\u002db\" " = .ok (.string "a-b") := by
  obtain ⟨-, hattribute, hpermission, hpolicy, hthing⟩ := ofJsonText_compact_and_ofText_eq_name
  have hwritten : (Json.object [("value", .string "\"\x01𝄞"),
      ("type", .string "StringLiteral")]).compact =
      "\x7b\"value\":\"\\\"\\u0001𝄞\",\"type\":\"StringLiteral\"\x7d" := by decide
  have hread : Thing.ofJsonText " \"a\\u002db\" " =
      .ok ⟨"a-b", by decide, List.all_eq_true.1 rfl⟩ := by decide
  refine ⟨?_, ?_, ?_, hread, (hthing _ _ hread).1⟩
  · rw [← hwritten]
    exact (hattribute (.literal "\"\x01𝄞")).2 _ (List.Perm.swap _ _ [])
  · refine (hpermission ⟨"\x7f", "", "é"⟩).2 _ ?_
    simp only [Permission.toJson, Json.members_ofMembers]
    exact (Named.ofList_perm (by decide)).symm
  · refine (hpolicy ⟨"\n", "p", "n", ["*", "\\"], []⟩).2 _ ?_
    simp only [Policy.toJson, Json.members_ofMembers]
    exact (Named.ofList_perm (by decide)).symm

end DeviceIdentity
