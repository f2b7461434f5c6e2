/-!
# Dictionaries in key order

A `Dictionary` is a list of entries whose keys increase strictly. `insert` keeps the order and
replaces the value of a key that is present already; `get?` looks a key up.
-/

namespace HostedScripts

/-- Entries by text keys, the keys strictly increasing. -/
abbrev Dictionary (α : Type _) := List (String × α)

namespace Dictionary

variable {α : Type _}

/-- Puts a value under a key. -/
def insert (key : String) (value : α) : Dictionary α → Dictionary α
  | [] => [(key, value)]
  | (k, v) :: rest =>
    if key < k then (key, value) :: (k, v) :: rest
    else if key = k then (key, value) :: rest
    else (k, v) :: insert key value rest

/-- The value under a key. -/
def get? (key : String) : Dictionary α → Option α
  | [] => none
  | (k, v) :: rest => if key = k then some v else get? key rest

/-- The dictionary without a key. -/
def erase (key : String) (d : Dictionary α) : Dictionary α := d.filter fun entry => entry.1 ≠ key

/-- The dictionary of some entries; of two entries with one key the later one counts. -/
def ofEntries (entries : List (String × α)) : Dictionary α :=
  entries.foldl (fun d entry => insert entry.1 entry.2 d) []

/-- The entries of `d` with those of `other` put on top. -/
def union (d other : Dictionary α) : Dictionary α :=
  other.foldl (fun d entry => insert entry.1 entry.2 d) d

end Dictionary

end HostedScripts
