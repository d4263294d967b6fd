import FeeTreasury.Proofs.Program.Records
import FeeTreasury.Proofs.Stateful

/-!
# What a part of a run does

A part of a run that comes to its end has written some records over accounts of the program, one
after the other, and has made some calls (`FeeTreasury.Run.Writes`). What the accounts hold
afterwards, type by type, follows from the list of the records alone, and sound accounts stay sound.
A value can be written over another one if it has the header and the place of it
(`FeeTreasury.Follows`), and in a new account if it lies at the address of its place
(`FeeTreasury.Begins`).
-/

namespace FeeTreasury

open Outcome

/-! ## Accounts after a write -/

/-- The values of a type among some records, with their keys. -/
def valuesOf (α : Type) [Stored α] [Recorded α] (puts : List (Key × Record)) : List (Key × α) :=
  puts.filterMap fun put => (Recorded.value? put.2).map fun value => (put.1, value)

/-- What keys hold after some values were written, one after the other. -/
def putAll {α : Type} (held : Key → Option α) (values : List (Key × α)) : Key → Option α :=
  values.foldl (fun before put => Function.update before put.1 (some put.2)) held

theorem valuesOf_append {α : Type} [Stored α] [Recorded α] (first second : List (Key × Record)) :
    valuesOf α (first ++ second) = valuesOf α first ++ valuesOf α second :=
  List.filterMap_append

/-- Values that are of another type may be written on the way or not. -/
theorem valuesOf_optional {α : Type} [Stored α] [Recorded α]
    {first middle last : List (Key × Record)} {written : Bool}
    (others : valuesOf α middle = []) :
    valuesOf α (first ++ (if written then middle else []) ++ last) =
      valuesOf α (first ++ last) := by
  cases written with
  | false => rw [if_neg Bool.false_ne_true, List.append_nil]
  | true =>
    rw [if_pos rfl, valuesOf_append, valuesOf_append, others, List.append_nil, valuesOf_append]

theorem putAll_append {α : Type} (held : Key → Option α) (first second : List (Key × α)) :
    putAll held (first ++ second) = putAll (putAll held first) second :=
  List.foldl_append

namespace Accounts

variable {accounts after : Accounts} {program key : Key} {α : Type} [Stored α] [Recorded α]

/-- The records of a program are spared if no account changes but those that are not the program's
or blank, before and after. -/
def Spares (accounts : Accounts) (program : Key) (after : Accounts) : Prop :=
  ∀ key, after.get key = accounts.get key ∨
    (accounts.get key).Vacant program ∧ (after.get key).Vacant program

theorem Sound.spare (sound : accounts.Sound program) (spares : accounts.Spares program after) :
    after.Sound program := by
  intro key
  rcases spares key with same | ⟨_, vacant⟩
  · rw [same]
    exact sound key
  · exact .of_vacant vacant

theorem held_of_spares (spares : accounts.Spares program after) :
    after.held program = (accounts.held program : Key → Option α) := by
  funext key
  rcases spares key with same | ⟨before, now⟩
  · exact held_congr same
  · rw [held_of_vacant before, held_of_vacant now]

/-- What accounts hold of a type, they still hold later, changed as a relation allows. -/
def Carries (accounts : Accounts) (program : Key) (after : Accounts) (change : α → α → Prop) :
    Prop :=
  ∀ key (old : α), accounts.held program key = some old →
    ∃ kept, after.held program key = some kept ∧ change old kept

section Carries

variable {change wider : α → α → Prop}

theorem carries_of_eq (same : after.held program = (accounts.held program : Key → Option α))
    (stays : ∀ value, change value value) : accounts.Carries program after change := by
  intro key old found
  exact ⟨old, (congrFun same key).trans found, stays old⟩

theorem Carries.mono (carries : accounts.Carries program after change)
    (allows : ∀ old kept, change old kept → wider old kept) :
    accounts.Carries program after wider := by
  intro key old found
  obtain ⟨kept, holds, changed⟩ := carries key old found
  exact ⟨kept, holds, allows old kept changed⟩

end Carries

/-- All values that accounts hold of a type have a property. -/
def All (accounts : Accounts) (program : Key) (property : α → Prop) : Prop :=
  ∀ key (value : α), accounts.held program key = some value → property value

section All

variable {property : α → Prop} {value : α}

theorem All.congr (all : accounts.All program property)
    (same : after.held program = (accounts.held program : Key → Option α)) :
    after.All program property :=
  fun key value found => all key value ((congrFun same key).symm.trans found)

/-- Where one value was written, it is the only one that is new. -/
theorem All.update (all : accounts.All program property)
    (left : after.held program = Function.update (accounts.held program) key (some value))
    (fits : property value) : after.All program property := by
  intro other found held
  rw [left] at held
  by_cases same : other = key
  · subst same
    rw [Function.update_self] at held
    exact Option.some.inj held ▸ fits
  · rw [Function.update_of_ne same] at held
    exact all other found held

end All

theorem Sound.set (sound : accounts.Sound program) {account : Account}
    (fits : account.Sound program key) : (accounts.set key account).Sound program := by
  intro other
  by_cases same : other = key
  · rw [same, get_set_self]
    exact fits
  · rw [get_set_of_ne accounts account same]
    exact sound other

/-- A record over a blank account, or over a record of its kind, changes what the accounts hold at
one key and for one type. -/
theorem held_set {value : α} {account : Account}
    (holds : account.record? program = some (record value))
    (replaces : ∀ old, (accounts.get key).record? program = some old → old.kind = Recorded.kind α)
    (β : Type) [Stored β] [Recorded β] :
    (accounts.set key account).held program =
      putAll (accounts.held program : Key → Option β) (valuesOf β [(key, record value)]) := by
  funext other
  have values : valuesOf β [(key, record value)] =
      ((Recorded.value? (record value) : Option β).map fun value => (key, value)).toList := by
    cases read : (Recorded.value? (record value) : Option β) <;>
      simp only [valuesOf, List.filterMap_cons, read, Option.map_none, Option.map_some,
        List.filterMap_nil, Option.toList]
  rw [values]
  cases read : (Recorded.value? (record value) : Option β) with
  | none =>
    show _ = accounts.held program other
    by_cases same : other = key
    -- What the key held before is of the kind that was written, so not of this type.
    · have unheld : accounts.held program key = (none : Option β) := by
        by_contra held
        obtain ⟨old, held⟩ := Option.ne_none_iff_exists'.mp held
        apply Recorded.value?_eq_none.mp read
        rw [← replaces _ (held_eq_some.mp held), Recorded.kind_record]
      rw [same, unheld, held, get_set_self, holds, Option.bind_some, read]
    · exact held_congr (get_set_of_ne accounts account same)
  | some written =>
    show _ = Function.update (accounts.held program) key (some written) other
    by_cases same : other = key
    · rw [same, Function.update_self, held, get_set_self, holds, Option.bind_some, read]
    · rw [Function.update_of_ne same]
      exact held_congr (get_set_of_ne accounts account same)

/-- Tokens move between accounts that are not the program's. -/
theorem spares_of_transfer (sound : accounts.Sound program) {source destination authority : Key}
    {amount : UInt64}
    (moved : accounts.transfer source destination authority amount = .ok after) :
    accounts.Spares program after := by
  simp only [transfer, bind_eq_ok, ite_eq_ok, throw_ne_ok, pure_eq_ok, false_and, and_false,
    exists_false, false_or] at moved
  obtain ⟨sent, readSent, received, readReceived, _, _, _, _, _, ⟨_, rfl⟩ | ⟨_, _, rfl⟩⟩ := moved
  · exact fun _ => .inl rfl
  -- Both accounts read as token accounts, so neither is the program's.
  · have sender := (sound source).owner_ne_of_read readSent
    have receiver := (sound destination).owner_ne_of_read readReceived
    intro key
    by_cases last : key = destination
    · rw [last, get_set_self]
      exact .inr ⟨fun owned => absurd owned receiver, fun owned => absurd owned receiver⟩
    · rw [get_set_of_ne _ _ last]
      by_cases first : key = source
      · rw [first, get_set_self]
        exact .inr ⟨fun owned => absurd owned sender, fun owned => absurd owned sender⟩
      · exact .inl (get_set_of_ne _ _ first)

end Accounts

/-! ## What a part of a run does -/

/-- An account of the program holds a value. -/
abbrev Run.Holds {α : Type} [Stored α] [Recorded α] (run : Run) (program key : Key) (value : α) :
    Prop :=
  run.accounts.held program key = some value

/-- A part of a run wrote records, one after the other, and made calls. -/
structure Run.Writes (program : Key) (before after : Run) (puts : List (Key × Record))
    (calls : List OutsideCall) : Prop where
  sound : after.accounts.Sound program
  held : ∀ (α : Type) [Stored α] [Recorded α], after.accounts.held program =
    putAll (before.accounts.held program : Key → Option α) (valuesOf α puts)
  calls : after.calls = before.calls ++ calls

namespace Run.Writes

variable {program key : Key} {before middle after : Run} {puts morePuts : List (Key × Record)}
  {calls moreCalls : List OutsideCall} {α : Type} [Stored α] [Recorded α] {value : α}

theorem trans (first : before.Writes program middle puts calls)
    (second : middle.Writes program after morePuts moreCalls) :
    before.Writes program after (puts ++ morePuts) (calls ++ moreCalls) where
  sound := second.sound
  held α _ _ := by rw [second.held, first.held, valuesOf_append, putAll_append]
  calls := by rw [second.calls, first.calls, List.append_assoc]

theorem trans_silent (first : before.Writes program middle puts calls)
    (second : middle.Writes program after morePuts []) :
    before.Writes program after (puts ++ morePuts) calls := by
  have both := first.trans second
  rwa [List.append_nil calls] at both

theorem trans_still (first : before.Writes program middle puts calls)
    (second : middle.Writes program after [] []) : before.Writes program after puts calls := by
  have both := first.trans_silent second
  rwa [List.append_nil] at both

/-- A part of a run that writes no record of the program's. -/
theorem of_spares (sound : before.accounts.Sound program)
    (spares : before.accounts.Spares program after.accounts)
    (called : after.calls = before.calls ++ calls) : before.Writes program after [] calls where
  sound := sound.spare spares
  held _ _ _ := Accounts.held_of_spares spares
  calls := called

theorem refl (sound : before.accounts.Sound program) : before.Writes program before [] [] :=
  of_spares sound (fun _ => .inl rfl) (List.append_nil _).symm

/-- What an account holds is the same after records of other types were written. -/
theorem held_eq (writes : before.Writes program after puts calls) (others : valuesOf α puts = []) :
    after.accounts.held program = (before.accounts.held program : Key → Option α) := by
  rw [writes.held, others]
  rfl

theorem holds (writes : before.Writes program after puts calls)
    (found : before.Holds program key value) (others : valuesOf α puts = []) :
    after.Holds program key value := by
  rw [Run.Holds, writes.held_eq others, found]

theorem held_one (writes : before.Writes program after puts calls)
    (one : valuesOf α puts = [(key, value)]) :
    after.accounts.held program =
      Function.update (before.accounts.held program) key (some value) := by
  rw [writes.held, one]
  rfl

theorem holds_one (writes : before.Writes program after puts calls)
    (one : valuesOf α puts = [(key, value)]) : after.Holds program key value := by
  rw [Run.Holds, writes.held_one one, Function.update_self]

/-- Where one value of a type was written, only what its key held has changed. -/
theorem carries (writes : before.Writes program after puts calls)
    (one : valuesOf α puts = [(key, value)]) {change : α → α → Prop}
    (stays : ∀ value, change value value)
    (changes : ∀ old, before.Holds program key old → change old value) :
    before.accounts.Carries program after.accounts change := by
  intro other old found
  rw [writes.held_one one]
  by_cases same : other = key
  · subst same
    exact ⟨value, Function.update_self .., changes old found⟩
  · exact ⟨old, (Function.update_of_ne same ..).trans found, stays old⟩

end Run.Writes

/-! ## Values that can be written -/

section Written

variable {α : Type} [Stored α] [Recorded α]

/-- A value that can be written over another one: it has the same header and place, and it has a
written form if the other one has. -/
structure Follows (old value : α) : Prop where
  header : Stored.header value = Stored.header old
  place : (record value).place = (record old).place
  canonical : Stored.codec.Canonical old → Stored.codec.Canonical value

/-- A value that can be the first one of an account: it lies at the address of its place. -/
structure Begins (program key : Key) (value : α) : Prop where
  valid : Stored.validate value = .ok ()
  place : (record value).place.key? program = some key
  canonical : Stored.codec.Canonical value

variable {accounts : Accounts} {program key : Key} {old value : α}

theorem begins_of_held (sound : accounts.Sound program)
    (found : accounts.held program key = some old) : Begins program key old := by
  have holds := Accounts.held_eq_some.mp found
  obtain ⟨_, _, valid⟩ := record?_eq_some.mp holds
  obtain ⟨_, _, place⟩ := (sound key).of_record? holds
  exact ⟨valid, place, canonical_of_record? holds⟩

theorem Begins.follow (begins : Begins program key old) (follows : Follows old value) :
    Begins program key value where
  valid := by
    rw [Stored.validate_eq_ok, follows.header]
    exact Stored.validate_eq_ok.mp begins.valid
  place := follows.place ▸ begins.place
  canonical := follows.canonical begins.canonical

end Written

end FeeTreasury
