/-!
# Fresh names

A name that is taken gets a number: `base2`, `base3`, and so on, with a mark between them if there is
one. Among one more numbers than there are names taken one is free, so the search ends.
-/

namespace SchemaTypings.Name

def numbered (mark base : String) (number : Nat) : String :=
  s!"{base}{mark}{number}"

/-- The first numbered name, from `number` on, that is not taken, searched in `steps` steps. -/
def firstFree (mark : String) (taken : List String) (base : String) : Nat → Nat → String
  | 0, number => numbered mark base number
  | steps + 1, number =>
    if taken.contains (numbered mark base number) then
      firstFree mark taken base steps (number + 1)
    else numbered mark base number

/-- The base if it is not taken, else the first free one of its numbered names. -/
def fresh (mark : String) (taken : List String) (base : String) : String :=
  if taken.contains base then firstFree mark taken base taken.length 2 else base

end SchemaTypings.Name
