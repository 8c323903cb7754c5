/-
Members of objects, read without a fuss: what is missing or of another type
gives way to a value of the reader's choice. A value can be put in order
first, so that neither the order of its members nor a repeated key is left
to see.
-/
import Fleetkeeper.Json.Basic

namespace Fleetkeeper.Json

/-- A member of an object; a missing one is `null`. -/
def member (j : Json) (key : String) : Json := (j.get? key).getD .null

/-- A text, if it is one. -/
def text? : Json → Option String
  | str s => some s
  | _ => none

/-- A whole number, if it is one. -/
def whole? : Json → Option Int
  | int i => some i
  | _ => none

/-- A truth value, if it is one. -/
def flag? : Json → Option Bool
  | bool b => some b
  | _ => none

/-- The items of an array; of anything else none. -/
def elements : Json → List Json
  | arr l => l
  | _ => []

/-- The members of an object; of anything else none. -/
def entries : Json → List (String × Json)
  | obj ms => ms
  | _ => []

/-- A text under a key. -/
def textAt? (j : Json) (key : String) : Option String := (j.member key).text?

/-- A text under a key, empty where there is none. -/
def textAt (j : Json) (key : String) : String := (j.textAt? key).getD ""

/-- A whole number under a key. -/
def wholeAt (j : Json) (key : String) (default : Int) : Int :=
  (j.member key).whole?.getD default

/-- A count under a key. -/
def natAt (j : Json) (key : String) (default : Nat) : Nat :=
  (j.wholeAt key default).toNat

/-- A truth value under a key. -/
def flagAt (j : Json) (key : String) (default : Bool) : Bool :=
  (j.member key).flag?.getD default

/-- The items of an array under a key. -/
def itemsAt (j : Json) (key : String) : List Json := (j.member key).elements

mutual

/-- The value with the members of every object in the order of their keys,
each key once, with the last of its values. -/
def tidy : Json → Json
  | arr items => arr (tidyItems items)
  | obj members => obj (tidyMembers members)
  | j => j

/-- Items, each in order. -/
def tidyItems : List Json → List Json
  | [] => []
  | j :: rest => tidy j :: tidyItems rest

/-- Members in order; one that a later one replaces is dropped. -/
def tidyMembers : List (String × Json) → List (String × Json)
  | [] => []
  | (key, j) :: rest =>
    let later := tidyMembers rest
    if later.any (fun m => m.1 == key) then later
    else Table.insertEntry key (tidy j) later

end

end Fleetkeeper.Json
