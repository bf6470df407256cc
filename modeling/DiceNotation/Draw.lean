import DiceNotation.Event

set_option autoImplicit false

namespace DiceNotation

abbrev WordSource := Nat → UInt32

structure Drawn (α : Type) where
  value : α
  position : Nat
  events : List Event

structure Draw (α : Type) where
  run : WordSource → Nat → Drawn α

namespace Draw

@[ext] theorem ext {α : Type} {first second : Draw α} (same : first.run = second.run) :
    first = second := by
  cases first
  cases second
  exact congrArg _ same

@[inline] protected def pure {α : Type} (value : α) : Draw α :=
  ⟨fun _ position => ⟨value, position, []⟩⟩

@[inline] protected def bind {α β : Type} (first : Draw α) (next : α → Draw β) : Draw β :=
  ⟨fun source position =>
    let before := first.run source position
    let after := (next before.value).run source before.position
    ⟨after.value, after.position, before.events ++ after.events⟩⟩

@[inline] protected def map {α β : Type} (change : α → β) (draw : Draw α) : Draw β :=
  ⟨fun source position =>
    let before := draw.run source position
    ⟨change before.value, before.position, before.events⟩⟩

instance : Monad Draw where
  map := Draw.map
  pure := Draw.pure
  bind := Draw.bind

@[simp] theorem run_pure {α : Type} (value : α) (source : WordSource) (position : Nat) :
    (pure value : Draw α).run source position = ⟨value, position, []⟩ := rfl

@[simp] theorem run_bind {α β : Type} (first : Draw α) (next : α → Draw β)
    (source : WordSource) (position : Nat) :
    (first >>= next).run source position =
      let before := first.run source position
      let after := (next before.value).run source before.position
      ⟨after.value, after.position, before.events ++ after.events⟩ := rfl

@[simp] theorem run_map {α β : Type} (change : α → β) (draw : Draw α) (source : WordSource)
    (position : Nat) :
    (change <$> draw).run source position =
      let before := draw.run source position
      ⟨change before.value, before.position, before.events⟩ := rfl

instance : LawfulMonad Draw := LawfulMonad.mk' Draw
  (fun draw => by ext; simp)
  (fun value next => by ext; simp)
  (fun first second third => by ext; simp)
  (fun _ _ => rfl) (fun _ _ => rfl) (fun _ _ => rfl)
  (fun change draw => by ext; simp)

def word : Draw UInt32 :=
  ⟨fun source position => ⟨source position, position + 1, []⟩⟩

def note (event : Event) : Draw Unit :=
  ⟨fun _ position => ⟨(), position, [event]⟩⟩

@[simp] theorem run_word (source : WordSource) (position : Nat) :
    word.run source position = ⟨source position, position + 1, []⟩ := rfl

@[simp] theorem run_note (event : Event) (source : WordSource) (position : Nat) :
    (note event).run source position = ⟨(), position, [event]⟩ := rfl

def replicate {α : Type} : Nat → Draw α → Draw (List α)
  | 0, _ => pure []
  | count + 1, draw => do
    let first ← draw
    (first :: ·) <$> replicate count draw

theorem length_replicate {α : Type} (count : Nat) (draw : Draw α) (source : WordSource)
    (position : Nat) : ((replicate count draw).run source position).value.length = count := by
  induction count generalizing position with
  | zero => rfl
  | succ count ih => simp [replicate, ih]

end Draw

end DiceNotation
