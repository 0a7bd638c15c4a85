/-
The machine that a program runs on, as far as the program can tell: how long a text it can hold, and how deep its calls
may nest, counted from the place where the program is called. What is proved of the program holds on every machine; only
a program that is run, and a statement about one run, take the standard one.
-/

namespace VixStyle

/-- the rooms that a machine leaves: widths from `memoryEnd` on are beyond what a text can be held with -/
class Machine where
  memoryEnd : Nat
  /-- the room for showing a value -/
  roomToShow : Nat
  /-- the room that a look-up by name takes, which shows the value that it does not find -/
  lookupRoom : Nat
  /-- the room for reading a value -/
  roomToRead : Nat
  /-- the room that a list takes while it is read, and the room that it needs at least -/
  listRoom : Nat × Nat
  /-- the room that an inline table takes while it is read, and the room that it needs at least -/
  tableRoom : Nat × Nat

/-- a machine with 32 GiB and room for 1000 calls, of which the caller of the program has made a few -/
instance Machine.standard : Machine where
  memoryEnd := 34359738368
  roomToShow := 993
  lookupRoom := 3
  roomToRead := 986
  listRoom := (2, 3)
  tableRoom := (3, 5)

end VixStyle
