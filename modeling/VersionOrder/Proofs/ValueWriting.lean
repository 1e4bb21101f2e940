import VersionOrder.Document.Value
import Mathlib.Order.MinMax

/-!
# Which values can be written

A value can be written exactly if none of its whole numbers is too long and it is not nested more
deeply than there is room for. The two conditions are stated on the value alone; where both fail,
what comes first in the value decides how the writing ends.

## Main definitions

- `Value.isShort`: no whole number in the value is too long
- `Value.depth`: how many levels are nested inside the value
- `Value.Writable`: the value can be written within some room
- `Value.UnwritableBy`: the value cannot be written, and how its writing fails
- `Written`: a result of writing that agrees with the two conditions
-/

namespace VersionOrder

/-! ## The two conditions -/

namespace Value

mutual

/-- Whether no whole number in a value has too many digits. -/
def isShort : Value → Bool
  | .atom a => a.isWritable
  | .list items => areShort items
  | .pair first second => first.isShort && second.isShort
  | .mapping entries => areShortEntries entries
  | .set members => members.all Atom.isWritable
  | .enclosing _ _ => true

def areShort : List Value → Bool
  | [] => true
  | item :: rest => item.isShort && areShort rest

def areShortEntries : List (Atom × Value) → Bool
  | [] => true
  | (key, value) :: rest => key.isWritable && (value.isShort && areShortEntries rest)

end

/-- How many levels the members of a set are nested inside the list of them. -/
def memberDepth : List Atom → Nat
  | [] => 0
  | member :: rest => max (member.depth + 1) (memberDepth rest)

mutual

/-- How many levels are nested inside a value as it is written, keys included. What is empty has
nothing inside, and the members of a set lie in a list inside it. -/
def depth : Value → Nat
  | .atom a => a.depth
  | .list items => itemDepth items
  | .pair first second => max (first.depth + 1) (second.depth + 1)
  | .mapping entries => entryDepth entries
  | .set [] => 0
  | .set (first :: rest) => memberDepth (first :: rest) + 1
  | .enclosing _ _ => 0

def itemDepth : List Value → Nat
  | [] => 0
  | item :: rest => max (item.depth + 1) (itemDepth rest)

def entryDepth : List (Atom × Value) → Nat
  | [] => 0
  | (key, value) :: rest => max (key.depth + 1) (max (value.depth + 1) (entryDepth rest))

end

/-- A value that can be written if no more than `room` levels are nested inside it. -/
def Writable (room : Nat) (value : Value) : Prop :=
  value.isShort = true ∧ value.depth ≤ room

instance (room : Nat) (value : Value) : Decidable (value.Writable room) :=
  inferInstanceAs (Decidable (_ ∧ _))

theorem writable_text (s : String) (room : Nat) : (text s).Writable room :=
  ⟨rfl, Nat.zero_le room⟩

/-- A value that is not to be written within some room, and how its writing fails. -/
def UnwritableBy (room : Nat) (fault : WriteFault) (value : Value) : Prop :=
  ¬value.Writable room ∧ value.write room = .error fault

end Value

/-! ## Results that agree with them -/

/-- What comes of writing something: it is written only if it is short and there is room for its
depth, and it fails by one of the two only where that one is missing. -/
inductive Written {α : Type} (room : Nat) (short : Bool) (depth : Nat) :
    Except WriteFault α → Prop
  | ok (written : α) (hshort : short = true) (hdepth : depth ≤ room) :
    Written room short depth (.ok written)
  | tooLong (hlong : short = false) : Written room short depth (.error .tooLong)
  | tooDeep (hdeep : room < depth) : Written room short depth (.error .tooDeep)

namespace Written

variable {α β : Type} {room depth depth' : Nat} {short short' : Bool}
  {result : Except WriteFault α} {next : α → Except WriteFault β} {f : α → β}

theorem pure (a : α) : Written room true 0 (.ok a) :=
  .ok a rfl (Nat.zero_le room)

theorem map (h : Written room short depth result) :
    Written room short depth (do return f (← result)) := by
  cases h with
  | ok a hshort hdepth => exact .ok (f a) hshort hdepth
  | tooLong hlong => exact .tooLong hlong
  | tooDeep hdeep => exact .tooDeep hdeep

theorem after (h : Written room short' depth' result) (hshort : short = true)
    (hdepth : depth ≤ room) : Written room (short && short') (max depth depth') result := by
  cases h with
  | ok a hshort' hdepth' =>
    exact .ok a (by rw [hshort, hshort', Bool.and_self]) (Nat.max_le.2 ⟨hdepth, hdepth'⟩)
  | tooLong hlong => exact .tooLong (by rw [hlong, Bool.and_false])
  | tooDeep hdeep => exact .tooDeep (lt_max_of_lt_right hdeep)

/-- Two things written one after the other fail by the first that fails. -/
theorem bind (h : Written room short depth result)
    (hnext : ∀ a, Written room short' depth' (next a)) :
    Written room (short && short') (max depth depth') (result >>= next) := by
  cases h with
  | ok a hshort hdepth => exact (hnext a).after hshort hdepth
  | tooLong hlong => exact .tooLong (by rw [hlong, Bool.false_and])
  | tooDeep hdeep => exact .tooDeep (lt_max_of_lt_left hdeep)

theorem succ (h : Written room short depth result) :
    Written (room + 1) short (depth + 1) result := by
  cases h with
  | ok a hshort hdepth => exact .ok a hshort (Nat.succ_le_succ hdepth)
  | tooLong hlong => exact .tooLong hlong
  | tooDeep hdeep => exact .tooDeep (Nat.succ_lt_succ hdeep)

theorem inside {writing : Nat → Except WriteFault α}
    (h : ∀ room, Written room short depth (writing room)) (room : Nat) :
    Written room short (depth + 1) (Value.inside room writing) := by
  cases room with
  | zero => exact .tooDeep (Nat.zero_lt_succ depth)
  | succ room => exact (h room).succ

end Written

theorem Atom.written (a : Atom) (room : Nat) :
    Written room a.isWritable a.depth (a.write room) := by
  unfold Atom.write
  by_cases hdeep : room < a.depth
  · rw [if_pos hdeep]
    exact .tooDeep hdeep
  · rw [if_neg hdeep]
    cases hwritable : a.isWritable with
    | true => exact .ok _ rfl (Nat.le_of_not_lt hdeep)
    | false => exact .tooLong rfl

namespace Value

theorem written_members (members : List Atom) (room : Nat) :
    Written room (members.all Atom.isWritable) (memberDepth members)
      (members.mapM fun member => inside room fun room => member.write room) := by
  induction members with
  | nil => exact .pure []
  | cons member rest ih =>
    rw [List.mapM_cons, List.all_cons]
    exact (Written.inside member.written room).bind fun _ => ih.map

-- The induction is on the value: `room` shrinks with it, so each statement is about every room.
mutual

/-- A value is written only if its whole numbers are short and there is room for its depth. -/
theorem written (value : Value) (room : Nat) :
    Written room value.isShort value.depth (value.write room) := by
  cases value with
  | atom a => exact a.written room
  | list items => exact (written_items items room).map
  | pair first second =>
    exact (Written.inside (written first) room).bind fun _ =>
      (Written.inside (written second) room).map
  | mapping entries => exact (written_entries entries room).map
  | set members =>
    cases members with
    | nil => exact .pure _
    | cons first rest => exact (Written.inside (written_members (first :: rest)) room).map
  | enclosing isList depth => exact .pure _

theorem written_items (items : List Value) (room : Nat) :
    Written room (areShort items) (itemDepth items) (writeItems room items) := by
  cases items with
  | nil => exact .pure []
  | cons item rest =>
    exact (Written.inside (written item) room).bind fun _ => (written_items rest room).map

theorem written_entries (entries : List (Atom × Value)) (room : Nat) :
    Written room (areShortEntries entries) (entryDepth entries) (writeEntries room entries) := by
  cases entries with
  | nil => exact .pure []
  | cons entry rest =>
    obtain ⟨key, value⟩ := entry
    exact (Written.inside key.written room).bind fun _ =>
      (Written.inside (written value) room).bind fun _ => (written_entries rest room).map

end

/-- A value can be written exactly if its whole numbers are short and there is room for its depth. -/
theorem write_cases (room : Nat) (value : Value) :
    (value.Writable room ∧ ∃ shown, value.write room = .ok shown) ∨
      ∃ fault, value.UnwritableBy room fault := by
  have hwritten := value.written room
  unfold UnwritableBy
  generalize value.write room = result at hwritten ⊢
  cases hwritten with
  | ok shown hshort hdepth => exact .inl ⟨⟨hshort, hdepth⟩, shown, rfl⟩
  | tooLong hlong => exact .inr ⟨_, fun h => by simp [h.1] at hlong, rfl⟩
  | tooDeep hdeep => exact .inr ⟨_, fun h => Nat.not_lt.2 h.2 hdeep, rfl⟩

example : (list [list [null]]).Writable 2 ∧ ¬(list [list [null]]).Writable 1 := by decide

end Value

end VersionOrder
