import Telemetry.Json.Written

/-!
# Structures in JSON text

A structure is written as an object with its fields as members, in any order and possibly among
others, or as an array of its fields in order. A repeated field is an error; other members are
passed over, whether or not they have a value.
-/

namespace Telemetry.Written

/-- The member with the given name, unless there are several. The outer `none` is the error. -/
def onlyMember (name : String) (members : List (Option String × Written)) :
    Option (Option Written) :=
  match members.filter fun m => m.1 == some name with
  | [] => some none
  | [m] => some (some m.2)
  | _ => none

/-- The fields of a structure, in the order of `names`; those that are not written are `none`. -/
def fields? (names : List String) : Written → Option (List (Option Written))
  | .object members =>
    if members.all fun m => m.1.isSome then names.mapM fun name => onlyMember name members
    else none
  | .array items =>
    if items.length ≤ names.length then
      some ((items.map some) ++ List.replicate (names.length - items.length) none)
    else none
  | _ => none

def text? : Written → Option String
  | .string s => s
  | _ => none

def truth? : Written → Option Bool
  | .bool b => some b
  | _ => none

def double? : Written → Option Float
  | .number (some (.double x)) => some x
  | .number (some (.int n)) =>
    some (Decimal.nearest (n < 0) n.natAbs 0)
  | _ => none

/-- A number written as an integer and not negative. -/
def natural? : Written → Option Nat
  | .number (some (.int n)) => if 0 ≤ n then some n.toNat else none
  | _ => none

/-- A map; of several members with one name the last holds. -/
def map? {α : Type} (value? : Written → Option α) : Written → Option (NameMap α)
  | .object members => do
    let entries ← members.mapM fun m => do return (← m.1, ← value? m.2)
    return NameMap.ofList entries
  | _ => none

def texts? : Written → Option (NameMap String) := map? text?

def list? {α : Type} (value? : Written → Option α) : Written → Option (List α)
  | .array items => items.mapM value?
  | _ => none

end Telemetry.Written
