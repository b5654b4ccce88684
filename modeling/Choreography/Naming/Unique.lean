/-!
# Names that do not repeat

`unique` goes through a list of names and keeps those that are not taken yet; a taken name gets
the suffix `_2`, `_3` or higher, whichever is free first.
-/

namespace Choreography

namespace Naming

/-- A name with a numbered suffix. -/
def suffixed (name : String) (n : Nat) : String :=
  name ++ "_" ++ toString n

/-- The first number from `n` on whose suffix makes the name free, at most `tries` further. -/
def freeSuffix (taken : List String) (name : String) : (tries n : Nat) → Nat
  | 0, n => n
  | tries + 1, n => if suffixed name n ∈ taken then freeSuffix taken name tries (n + 1) else n

/-- The name itself if it is free, else its first free spelling with a suffix from 2 on. Of any
`taken.length + 1` spellings one is free, so that many tries always reach it. -/
def unused (taken : List String) (name : String) : String :=
  if name ∈ taken then suffixed name (freeSuffix taken name taken.length 2) else name

/-- One name for each of the given ones, none of them reserved and no two alike. -/
def unique : (reserved names : List String) → List String
  | _, [] => []
  | reserved, name :: rest =>
    let chosen := unused reserved name
    chosen :: unique (chosen :: reserved) rest

end Naming

end Choreography
