import DeviceIdentity.Proofs.Outcome
import DeviceIdentity.Proofs.Tree.Update
import DeviceIdentity.Tree.Session

/-!
# Watching a tree

What the version of a tree and the receivers of its changes tell about a run. The version is the
number of changes that took place, and a receiver is told of a change if one took place since it
last saw the tree. Only a file can keep a change from taking place, and then nothing at all is
touched.
-/
namespace DeviceIdentity

/-! ## Files -/

/-- The file can be read and is text, and the text stands for this value, which is an object. -/
def HoldsObject (file : Option Entry) (value : Json) : Prop :=
  ∃ bytes text members, file = some (.file bytes) ∧ Text.ofUtf8? bytes = some text ∧
    Json.ofText text = .ok value ∧ value = .object members

theorem Entry.readText_eq_ok_iff {file : Option Entry} {text : String} :
    readText file = .ok text ↔
      ∃ bytes, file = some (.file bytes) ∧ Text.ofUtf8? bytes = some text := by
  cases file with
  | none => simp [readText]
  | some e =>
    cases e with
    | directory | cut | closed => simp [readText, Entry.text]
    | file bytes =>
      simp only [readText, Entry.text, Option.some.injEq, Entry.file.injEq, exists_eq_left']
      cases Text.ofUtf8? bytes with
      | none => simp
      | some text' => simp

/-- The object that is read from a file is the one that it holds. -/
theorem readTree_eq_ok_iff {file : Option Entry} {value : Json} :
    readTree file = .ok value ↔ HoldsObject file value := by
  simp only [readTree, bind_eq_ok_iff, mapError_eq_ok_iff, Entry.readText_eq_ok_iff]
  constructor
  · rintro ⟨text, ⟨bytes, hfile, hbytes⟩, value', hvalue, hobject⟩
    cases value' with
    | object members =>
      cases hobject
      exact ⟨bytes, text, members, hfile, hbytes, hvalue, rfl⟩
    | null | bool | number | string | array => cases hobject
  · rintro ⟨bytes, text, members, hfile, hbytes, hvalue, rfl⟩
    exact ⟨text, ⟨bytes, hfile, hbytes⟩, .object members, hvalue, rfl⟩

namespace Tree

/-! ## Operations -/

namespace Operation

/-- Whether an operation changes the tree. Only a file can keep a change from taking place. -/
def changes : Operation → Bool
  | update _ _ _ | replace _ _ => true
  | reload _ file => (readTree file).isOk
  | lookup _ _ | subscribe _ | mark _ => false

/-- After the operation the receiver of that name, if there is one, has seen the tree. -/
def Marks (name : String) : Operation → Prop
  | subscribe n | mark n => n = name
  | _ => False

theorem changes_reload_iff {handle : Handle} {file : Option Entry} :
    (reload handle file).changes = true ↔ ∃ value, HoldsObject file value := by
  simp only [changes, ← readTree_eq_ok_iff]
  cases readTree file with
  | error fault => simp [Except.isOk, Except.toBool]
  | ok value => simp [Except.isOk, Except.toBool]

theorem Marks.not_changes {name : String} {op : Operation} (h : op.Marks name) :
    op.changes = false := by
  cases op with
  | subscribe n => rfl
  | mark n => rfl
  | update | replace | reload | lookup => exact h.elim

end Operation

namespace Session

variable {s : Session} {op : Operation} {ops : List Operation} {name : String}

/-! ## One operation -/

theorem perform_reload_of_error {file : Option Entry} {fault : TreeFault}
    (h : readTree file = .error fault) (s : Session) (handle : Handle) :
    s.perform (.reload handle file) = (.reloaded (.error fault), s) := by
  simp only [perform, Tree.reload, h]
  rfl

theorem perform_reload_of_ok {file : Option Entry} {value : Json} (h : readTree file = .ok value)
    (s : Session) (handle : Handle) :
    s.perform (.reload handle file) =
      (.reloaded (.ok ()), { s with tree := s.tree.update handle [] value }) := by
  simp only [perform, Tree.reload, h, ← replace_eq_update]
  rfl

theorem perform_mark_of_some {r : Receiver} (h : s.receivers.get? name = some r) :
    s.perform (.mark name) =
      (.done, { s with receivers := s.receivers.set name s.tree.subscribe }) := by
  simp only [perform, h]

theorem perform_mark_of_none (h : s.receivers.get? name = none) :
    s.perform (.mark name) = (.done, s) := by
  simp only [perform, h]

/-- An operation that changes nothing keeps the tree. -/
theorem tree_perform_of_not_changes (h : op.changes = false) : (s.perform op).2.tree = s.tree := by
  cases op with
  | update handle path value => cases h
  | replace handle value => cases h
  | reload handle file =>
    cases hfile : readTree file with
    | error fault => rw [perform_reload_of_error hfile]
    | ok value =>
      simp only [Operation.changes, hfile] at h
      cases h
  | lookup handle path => rfl
  | subscribe n => rfl
  | mark n =>
    cases hn : s.receivers.get? n with
    | some r => rw [perform_mark_of_some hn]
    | none => rw [perform_mark_of_none hn]

theorem version_perform_of_changes (h : op.changes = true) :
    (s.perform op).2.tree.version = s.tree.version + 1 := by
  cases op with
  | update handle path value => rfl
  | replace handle value => exact version_replace s.tree handle value
  | reload handle file =>
    obtain ⟨value, hvalue⟩ := Operation.changes_reload_iff.1 h
    rw [perform_reload_of_ok (readTree_eq_ok_iff.2 hvalue)]
    rfl
  | lookup handle path => cases h
  | subscribe n => cases h
  | mark n => cases h

/-- Only what marks a receiver changes what it has seen. -/
theorem get?_receivers_perform_of_not_marks (h : ¬ op.Marks name) :
    (s.perform op).2.receivers.get? name = s.receivers.get? name := by
  cases op with
  | update handle path value => rfl
  | replace handle value => rfl
  | reload handle file =>
    cases hfile : readTree file with
    | error fault => rw [perform_reload_of_error hfile]
    | ok value => rw [perform_reload_of_ok hfile]
  | lookup handle path => rfl
  | subscribe n => exact Named.get?_set_of_ne (Ne.symm h) _ _
  | mark n =>
    cases hn : s.receivers.get? n with
    | some r =>
      rw [perform_mark_of_some hn]
      exact Named.get?_set_of_ne (Ne.symm h) _ _
    | none => rw [perform_mark_of_none hn]

theorem get?_receivers_perform_subscribe (s : Session) (name : String) :
    (s.perform (.subscribe name)).2.receivers.get? name = some s.tree.subscribe :=
  Named.get?_set_self _ _ _

theorem get?_receivers_perform_mark (s : Session) (name : String) :
    (s.perform (.mark name)).2.receivers.get? name =
      (s.receivers.get? name).map fun _ => s.tree.subscribe := by
  cases h : s.receivers.get? name with
  | some r =>
    rw [perform_mark_of_some h]
    exact Named.get?_set_self _ _ _
  | none =>
    rw [perform_mark_of_none h]
    exact h

theorem isSome_get?_receivers_perform :
    ((s.perform op).2.receivers.get? name).isSome = true ↔
      (s.receivers.get? name).isSome = true ∨ op = .subscribe name := by
  by_cases hmarks : op.Marks name
  · cases op with
    | subscribe n =>
      cases hmarks
      simp [get?_receivers_perform_subscribe]
    | mark n =>
      cases hmarks
      simp [get?_receivers_perform_mark]
    | update | replace | reload | lookup => exact hmarks.elim
  · have hne : op ≠ .subscribe name := by
      rintro rfl
      exact hmarks rfl
    simp [get?_receivers_perform_of_not_marks hmarks, hne]

/-- A receiver that is made or marked has seen the tree as it is then. -/
theorem get?_receivers_perform_of_marks (h : op.Marks name)
    (hmade : (s.receivers.get? name).isSome = true ∨ op = .subscribe name) :
    (s.perform op).2.receivers.get? name = some (s.perform op).2.tree.subscribe := by
  rw [tree_perform_of_not_changes h.not_changes]
  cases op with
  | subscribe n =>
    cases h
    exact get?_receivers_perform_subscribe s name
  | mark n =>
    cases h
    obtain ⟨r, hr⟩ := Option.isSome_iff_exists.1 (hmade.resolve_right Operation.noConfusion)
    rw [get?_receivers_perform_mark, hr]
    rfl
  | update | replace | reload | lookup => exact h.elim

/-! ## Runs -/

theorem run_append (s : Session) (ops ops' : List Operation) :
    s.run (ops ++ ops') = (s.run ops).run ops' := by
  induction ops generalizing s with
  | nil => rfl
  | cons op ops ih => exact ih _

/-- Each change counts once. -/
theorem version_run (s : Session) (ops : List Operation) :
    (s.run ops).tree.version = s.tree.version + ops.countP Operation.changes := by
  induction ops generalizing s with
  | nil => rfl
  | cons op ops ih =>
    rw [run, ih]
    cases h : op.changes with
    | true =>
      rw [version_perform_of_changes h, List.countP_cons_of_pos h]
      omega
    | false =>
      rw [tree_perform_of_not_changes h, List.countP_cons_of_neg (by simp [h])]

theorem get?_receivers_run_of_not_marks (h : ∀ op ∈ ops, ¬ op.Marks name) :
    (s.run ops).receivers.get? name = s.receivers.get? name := by
  induction ops generalizing s with
  | nil => rfl
  | cons op ops ih =>
    obtain ⟨hop, hops⟩ := List.forall_mem_cons.1 h
    exact (ih hops).trans (get?_receivers_perform_of_not_marks hop)

theorem isSome_get?_receivers_run :
    ((s.run ops).receivers.get? name).isSome = true ↔
      (s.receivers.get? name).isSome = true ∨ .subscribe name ∈ ops := by
  induction ops generalizing s with
  | nil => simp [run]
  | cons op ops ih =>
    rw [run, ih, isSome_get?_receivers_perform, List.mem_cons, or_assoc, eq_comm (a := op)]

/-- A receiver that has seen the tree is told of a change if and only if one takes place from then
on. -/
theorem changed?_run_of_seen (hseen : s.receivers.get? name = some s.tree.subscribe)
    (h : ∀ op ∈ ops, ¬ op.Marks name) :
    (s.run ops).changed? name = some (ops.any Operation.changes) := by
  simp only [changed?, get?_receivers_run_of_not_marks h, hseen, Option.map_some, Tree.changed,
    Tree.subscribe, version_run, Option.some.injEq]
  rw [Bool.eq_iff_iff, bne_iff_ne, List.any_eq_true, ← List.countP_pos_iff]
  omega

/-- The session that operations lead to from a tree with this root, which nobody watches yet. -/
def after (root : Json) (ops : List Operation) : Session := (start (.ofRoot root)).run ops

theorem isSome_get?_receivers_after (root : Json) :
    ((after root ops).receivers.get? name).isSome = true ↔ .subscribe name ∈ ops :=
  isSome_get?_receivers_run.trans (or_iff_right Bool.false_ne_true)

/-- After any operations the version is the number of changes that took place. Loading from a file
takes place if and only if the file holds an object; then the node of the handle is set to it and
nothing else is touched, and otherwise nothing at all is. There is a receiver of a name if and only
if one was made, and it is told of a change if and only if one took place since it was made or last
marked. -/
theorem version_and_changed?_after (root : Json) :
    (∀ ops, (after root ops).tree.version = ops.countP Operation.changes) ∧
    (∀ s op, op.changes = false → (perform s op).2.tree = s.tree) ∧
    (∀ handle file, (Operation.reload handle file).changes = true ↔
      ∃ value, HoldsObject file value) ∧
    (∀ s handle file, (¬ ∃ value, HoldsObject file value) →
      ∃ fault, perform s (.reload handle file) = (.reloaded (.error fault), s)) ∧
    (∀ s handle file value, HoldsObject file value →
      ∃ tree, perform s (.reload handle file) = (.reloaded (.ok ()), { s with tree }) ∧
        SetAt handle value s.tree tree ∧ tree.version = s.tree.version + 1) ∧
    (∀ ops name, ((after root ops).changed? name).isSome = true ↔ .subscribe name ∈ ops) ∧
    (∀ before op since name, op.Marks name → .subscribe name ∈ before ++ [op] →
      (∀ op' ∈ since, ¬ op'.Marks name) →
        (after root (before ++ op :: since)).changed? name =
          some (since.any Operation.changes)) := by
  refine ⟨?_, ?_, ?_, ?_, ?_, ?_, ?_⟩
  · intro ops
    exact (version_run _ ops).trans (Nat.zero_add _)
  · intro s op h
    exact tree_perform_of_not_changes h
  · intro handle file
    exact Operation.changes_reload_iff
  · intro s handle file h
    cases hfile : readTree file with
    | error fault => exact ⟨fault, perform_reload_of_error hfile s handle⟩
    | ok value => exact absurd ⟨value, readTree_eq_ok_iff.1 hfile⟩ h
  · intro s handle file value h
    have hset : SetAt (handle ++ []) value s.tree (s.tree.update handle [] value) :=
      setAt_of_root rfl
    rw [List.append_nil] at hset
    exact ⟨_, perform_reload_of_ok (readTree_eq_ok_iff.2 h) s handle, hset, rfl⟩
  · intro ops name
    rw [changed?, Option.isSome_map]
    exact isSome_get?_receivers_after root
  · intro before op since name hmarks hsubscribe hsince
    have hmade : ((after root before).receivers.get? name).isSome = true ∨
        op = .subscribe name := by
      rw [isSome_get?_receivers_after]
      simpa [eq_comm] using hsubscribe
    rw [after, run_append]
    exact changed?_run_of_seen (get?_receivers_perform_of_marks hmarks hmade) hsince

/-- Two receivers are made, and one of them is marked after two changes, the second of which loads
an object below `y`. Then files are loaded that are not there or hold no object. Only the receiver
that was not marked is told of a change. -/
theorem version_and_changed?_after_reloads :
    ∃ (file : Entry) (ops : List Operation) (value : Json),
      file = .file (Text.utf8 "\x7b\"z\": true\x7d") ∧
      ops = [.subscribe "a", .subscribe "b", .update [] ["x"] .null, .reload ["y"] (some file),
        .mark "a", .reload [] none, .reload ["y"] (some (.file (Text.utf8 "[]")))] ∧
      HoldsObject (some file) value ∧
      (after .null ops).tree.root = .object [("x", .null), ("y", value)] ∧
      (after .null ops).tree.version = 2 ∧
      (after .null ops).changed? "a" = some false ∧
      (after .null ops).changed? "b" = some true := by
  obtain ⟨hversion, hkept, hreload, -, -, -, hchanged⟩ := version_and_changed?_after .null
  obtain ⟨value, hvalue⟩ := (hreload ["y"] (some (.file (Text.utf8 "\x7b\"z\": true\x7d")))).1
    (by decide +kernel)
  refine ⟨_, _, value, rfl, rfl, hvalue, ?root, (hversion _).trans (by decide +kernel), ?seen,
    ?unseen⟩
  case root =>
    simp only [after, run]
    rw [hkept _ (.reload ["y"] _) (by decide +kernel),
      hkept _ (.reload [] none) (by decide +kernel), hkept _ (.mark "a") rfl, perform_reload_of_ok (readTree_eq_ok_iff.2 hvalue)]
    rfl
  case seen =>
    refine (hchanged [.subscribe "a", .subscribe "b", .update [] ["x"] .null, .reload ["y"] _]
      (.mark "a") [.reload [] none, .reload ["y"] _] "a" rfl (by simp) ?_).trans (by decide +kernel)
    simp [Operation.Marks]
  case unseen =>
    refine (hchanged [.subscribe "a"] (.subscribe "b")
      [.update [] ["x"] .null, .reload ["y"] _, .mark "a", .reload [] none, .reload ["y"] _] "b" rfl
      (by simp) ?_).trans (by decide +kernel)
    simp [Operation.Marks]

end Session

end Tree

end DeviceIdentity
