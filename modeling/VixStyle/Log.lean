/-
Log lines: what a run says about itself beside its results.
-/

namespace VixStyle

inductive LogLevel where
  | debug | warning
  deriving DecidableEq, Repr

def LogLevel.name : LogLevel → String
  | debug => "DEBUG"
  | warning => "WARNING"

/-- a message with its level and the part of the program it comes from -/
structure LogEntry where
  level : LogLevel
  source : String
  message : String
  deriving DecidableEq, Repr

/-- the line of an entry -/
def LogEntry.line (e : LogEntry) : String := s!"{e.level.name} {e.source}: {e.message}"

/-- a result with the entries that were logged on the way -/
structure Logged (α : Type) where
  entries : List LogEntry
  value : α

namespace Logged

/-- results one after the other, with their entries in this order -/
def bind {α β : Type} (x : Logged α) (f : α → Logged β) : Logged β :=
  let y := f x.value
  ⟨x.entries ++ y.entries, y.value⟩

instance : Monad Logged where
  pure a := ⟨[], a⟩
  bind := Logged.bind

/-- log an entry -/
def say (e : LogEntry) : Logged Unit := ⟨[e], ()⟩

theorem value_bind {α β : Type} (x : Logged α) (f : α → Logged β) : (x >>= f).value = (f x.value).value := rfl

end Logged

end VixStyle
