import LooseRecords.CommandLine.Failure
import LooseRecords.Schema.Inferred

/-!
# The journal of a run

A run notes what it does. Each event has a level that says who wants to know of it, and the levels
below the one that was asked for are left out of the journal that is shown.
-/

namespace LooseRecords

/-- The levels of events. -/
inductive Level where
  | debug
  | info
  | warning
  deriving DecidableEq, Repr

namespace Level

/-- The name of a level. -/
def name : Level → String
  | debug => "DEBUG"
  | info => "INFO"
  | warning => "WARN"

/-- The place of a level among the levels. -/
def rank : Level → Nat
  | debug => 0
  | info => 1
  | warning => 2

end Level

/-- What can happen in a run. -/
inductive Event where
  | describing (input : String)
  | querying (input : String) (conditions : Nat)
  /-- Items of the dataset that are no objects. -/
  | foreignItems (count : Nat)
  /-- A field cannot have the name that its display name suggests. -/
  | renamed (field : InferredField)
  | inferred (field : InferredField)
  | schemaFields (names : List String)
  | coerced (records fields conditions : Nat)
  | narrowed (condition : FieldCondition) (kept records : Nat)
  | schemaWritten (fields : Nat) (output : String)
  | matched (kept records emitted : Nat)
  deriving DecidableEq, Repr

namespace Event

/-- The level of an event. -/
def level : Event → Level
  | describing _ | querying _ _ | schemaWritten _ _ | matched _ _ _ => .info
  | renamed _ => .warning
  | foreignItems _ | inferred _ | schemaFields _ | coerced _ _ _ | narrowed _ _ _ => .debug

/-- The message of an event. -/
def message : Event → String
  | describing input => "Describing '" ++ input ++ "'"
  | querying input conditions =>
      "Querying '" ++ input ++ "' with " ++ Digits.text conditions ++ " condition(s)"
  | foreignItems count =>
      Digits.text count ++ " non-object entr(ies) treated as empty records"
  | renamed f =>
      "Field '" ++ f.display ++ "' normalizes to existing name '" ++ f.base ++ "'; using '" ++
        f.name ++ "'"
  | inferred f =>
      "Field '" ++ f.display ++ "' -> '" ++ f.name ++ "' inferred as " ++ f.inference.description ++
        " from " ++ Digits.text f.count ++ " value(s)"
  | schemaFields names => "Schema fields: " ++ Text.quoteList names
  | coerced records fields conditions =>
      "Coerced " ++ Digits.text records ++ " record(s) across " ++ Digits.text fields ++
        " field(s); applying " ++ Digits.text conditions ++ " condition(s)"
  | narrowed c kept records =>
      "Condition " ++ c.field ++ " " ++ c.condition.operator.name ++ " kept " ++ Digits.text kept ++
        " of " ++ Digits.text records ++ " record(s)"
  | schemaWritten fields output =>
      "Inferred schema for " ++ Digits.text fields ++ " field(s) written to " ++
        Text.Quotation.fileName.quote output
  | matched kept records emitted =>
      "Matched " ++ Digits.text kept ++ " of " ++ Digits.text records ++ " record(s), emitted " ++
        Digits.text emitted

/-- The line of an event in the journal. -/
def line (e : Event) : String :=
  e.level.name ++ " " ++ e.message

/-- The events at the given level or above it. -/
def atLeast (least : Level) (events : List Event) : List Event :=
  events.filter fun e => least.rank ≤ e.level.rank

/-- The events of inferring fields. -/
def ofFields (fields : List InferredField) : List Event :=
  fields.flatMap fun f => if f.name = f.base then [inferred f] else [renamed f, inferred f]

/-- The events of narrowing records by one condition after the other. -/
def ofNarrowing (records : List TypedRecord) : List FieldCondition → List Event
  | [] => []
  | c :: rest =>
      let kept := c.select records
      narrowed c kept.length records.length :: ofNarrowing kept rest

end Event

/-- The result of a part of a run, with the events up to it. -/
structure Logged (α : Type) where
  events : List Event
  result : Except Failure α

namespace Logged

/-- A result without events. -/
def ofResult {α : Type} (result : Except Failure α) : Logged α :=
  ⟨[], result⟩

/-- Notes events. -/
def note (events : List Event) : Logged Unit :=
  ⟨events, .ok ()⟩

instance : Monad Logged where
  pure a := ⟨[], .ok a⟩
  bind x f :=
    match x.result with
    | .ok a => ⟨x.events ++ (f a).events, (f a).result⟩
    | .error failure => ⟨x.events, .error failure⟩

@[simp] theorem result_pure {α : Type} (a : α) : (pure a : Logged α).result = .ok a := rfl

@[simp] theorem result_ofResult {α : Type} (r : Except Failure α) : (ofResult r).result = r := rfl

@[simp] theorem result_note (events : List Event) : (note events).result = .ok () := rfl

/-- Events do not bear on results. -/
@[simp] theorem result_bind {α β : Type} (x : Logged α) (f : α → Logged β) :
    (x >>= f).result = x.result >>= fun a => (f a).result := by
  cases h : x.result <;> simp only [bind, h, Except.bind]

end Logged
end LooseRecords
