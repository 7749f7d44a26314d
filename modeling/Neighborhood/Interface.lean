import Neighborhood.Error

/-!
# Network interfaces

* `Interface.find` — the index of an interface by its name
-/

namespace Neighborhood

/-- The interfaces of a host by name, with their indices. -/
abbrev Interfaces := List (String × UInt32)

namespace Interface

/-- No interface has a zero character in its name. -/
def find (known : Interfaces) (name : String) : Except Error UInt32 :=
  if name.contains '\x00' then .error (.interface name "EINVAL: Invalid argument")
  else
    match known.lookup name with
    | some index => .ok index
    | none => .error (.interface name "ENODEV: No such device")

end Interface

end Neighborhood
