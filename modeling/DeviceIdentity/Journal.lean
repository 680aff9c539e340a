import DeviceIdentity.Json.Value

/-!
# Notes and events

What a computation leaves behind besides its result. `Noted ε α` is a result with notes of type
`ε`, in the order in which they were taken; `Logged` is the case in which the notes are events of
the log. An event holds what happened as data, and `Event.record` is how it is written.
-/
namespace DeviceIdentity

/-- A result and the notes that were taken on the way to it. -/
structure Noted (ε : Type) (α : Type) where
  value : α
  notes : List ε
deriving DecidableEq, Repr

namespace Noted

variable {ε α β : Type}

/-- One note. -/
def note (e : ε) : Noted ε Unit := ⟨(), [e]⟩

instance : Monad (Noted ε) where
  pure v := ⟨v, []⟩
  bind x f := let y := f x.value; ⟨y.value, x.notes ++ y.notes⟩

/-- Notes of several computations do not depend on how the computations are grouped. -/
instance : LawfulMonad (Noted ε) :=
  .mk' _ (fun _ => by simp [Functor.map]) (fun _ _ => by simp [bind, pure])
    (fun _ _ _ => by simp [bind])

/-- The same result with other notes. -/
def mapNotes {δ : Type} (f : ε → δ) (x : Noted ε α) : Noted δ α := ⟨x.value, x.notes.map f⟩

/-- The same result with those notes only that `f` keeps. -/
def chooseNotes {δ : Type} (f : ε → Option δ) (x : Noted ε α) : Noted δ α :=
  ⟨x.value, x.notes.filterMap f⟩

@[simp] theorem value_mapNotes {δ : Type} (f : ε → δ) (x : Noted ε α) :
    (x.mapNotes f).value = x.value := rfl

@[simp] theorem notes_mapNotes {δ : Type} (f : ε → δ) (x : Noted ε α) :
    (x.mapNotes f).notes = x.notes.map f := rfl

@[simp] theorem value_chooseNotes {δ : Type} (f : ε → Option δ) (x : Noted ε α) :
    (x.chooseNotes f).value = x.value := rfl

@[simp] theorem notes_chooseNotes {δ : Type} (f : ε → Option δ) (x : Noted ε α) :
    (x.chooseNotes f).notes = x.notes.filterMap f := rfl

@[simp] theorem value_pure (v : α) : (pure v : Noted ε α).value = v := rfl

@[simp] theorem notes_pure (v : α) : (pure v : Noted ε α).notes = [] := rfl

@[simp] theorem value_bind (x : Noted ε α) (f : α → Noted ε β) :
    (x >>= f).value = (f x.value).value := rfl

@[simp] theorem notes_bind (x : Noted ε α) (f : α → Noted ε β) :
    (x >>= f).notes = x.notes ++ (f x.value).notes := rfl

@[simp] theorem value_map (f : α → β) (x : Noted ε α) : (f <$> x).value = f x.value := rfl

@[simp] theorem notes_map (f : α → β) (x : Noted ε α) : (f <$> x).notes = x.notes :=
  List.append_nil _

/-- Choosing notes can be done on the way. -/
theorem chooseNotes_bind {δ : Type} (f : ε → Option δ) (x : Noted ε α) (g : α → Noted ε β) :
    (x >>= g).chooseNotes f = x.chooseNotes f >>= fun a => (g a).chooseNotes f := by
  simp [bind, chooseNotes]

@[simp] theorem value_note (e : ε) : (note e).value = () := rfl

@[simp] theorem notes_note (e : ε) : (note e).notes = [e] := rfl

end Noted

/-- How much an event matters. -/
inductive Level where
  | error
  | warn
  | info
  | debug
deriving DecidableEq, Repr

/-- The name of a level. -/
def Level.name : Level → String
  | error => "ERROR"
  | warn => "WARN"
  | info => "INFO"
  | debug => "DEBUG"

/-- An event as it is written: its texts, and its other fields by name. -/
structure Record where
  level : Level
  messages : List String
  fields : List (String × Json)
deriving Repr

end DeviceIdentity
