/-
Setting values: what a settings file or a caller may give for an option, and how such a value is shown in a message.
-/
import VixStyle.Decimal.Shortest
import VixStyle.Text.Quoted

namespace VixStyle.Setting

/-- a calendar day -/
structure Date where
  year : Nat
  month : Nat
  day : Nat
  deriving DecidableEq, Repr

/-- a time of day to the microsecond -/
structure Time where
  hour : Nat
  minute : Nat
  second : Nat
  micro : Nat
  deriving DecidableEq, Repr

/-- a setting; a moment may have its distance to universal time in minutes -/
inductive Value where
  | absent
  | bool (b : Bool)
  | int (n : Int)
  | real (x : Decimal.Binary)
  | text (s : String)
  | day (d : Date)
  | timeOfDay (t : Time)
  | moment (d : Date) (t : Time) (offset : Option Int)
  | list (items : List Value)
  | table (members : List (String × Value))

/-- a table of settings in the order in which they were given -/
abbrev Table := List (String × Value)

namespace Time

/-- the parts of a time, without seconds and microseconds where they are zero -/
def parts (t : Time) : List Nat :=
  if t.micro ≠ 0 then [t.hour, t.minute, t.second, t.micro]
  else if t.second ≠ 0 then [t.hour, t.minute, t.second]
  else [t.hour, t.minute]

end Time

def Date.parts (d : Date) : List Nat := [d.year, d.month, d.day]

/-- a constructor with its arguments -/
def call (name : String) (arguments : List String) : String := name ++ "(" ++ ", ".intercalate arguments ++ ")"

/-- a distance to universal time in minutes, as days and seconds of which only the days may be negative -/
def displayOffset (minutes : Int) : String :=
  if minutes = 0 then "datetime.timezone.utc"
  else
    let seconds := minutes * 60
    let duration :=
      if seconds < 0 then s!"days=-1, seconds={seconds + 86400}" else s!"seconds={seconds}"
    call "datetime.timezone" [call "datetime.timedelta" [duration]]

namespace Value

mutual

/-- a value in a message -/
def display : Value → String
  | absent => "None"
  | bool b => if b then "True" else "False"
  | int n => toString n
  | real x => x.display
  | text s => Text.Quoted.quote s
  | day d => call "datetime.date" (d.parts.map toString)
  | timeOfDay t => call "datetime.time" (t.parts.map toString)
  | moment d t offset =>
    call "datetime.datetime" ((d.parts ++ t.parts).map toString ++
      (offset.map fun minutes => "tzinfo=" ++ displayOffset minutes).toList)
  | list [] => "[]"
  | list (item :: more) => "[" ++ display item ++ displayItems more ++ "]"
  | table [] => "\x7b\x7d"
  | table ((key, value) :: more) =>
    "\x7b" ++ Text.Quoted.quote key ++ ": " ++ display value ++ displayMembers more ++ "\x7d"

/-- the items of a list after its first -/
def displayItems : List Value → String
  | [] => ""
  | item :: more => ", " ++ display item ++ displayItems more

/-- the members of a table after its first -/
def displayMembers : List (String × Value) → String
  | [] => ""
  | (key, value) :: more => ", " ++ Text.Quoted.quote key ++ ": " ++ display value ++ displayMembers more

end

def text? : Value → Option String
  | text s => some s
  | _ => none

/-- the words of a list that holds nothing but texts -/
def texts? : Value → Option (List String)
  | list items => items.mapM text?
  | _ => none

end Value

end VixStyle.Setting
