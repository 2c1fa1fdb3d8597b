/-!
# Dictionaries in key order

A finite map kept as a list of pairs with strictly increasing keys. Two dictionaries with the same
content are the same list, so equality of states is equality of content, and the enumeration order
of keys is the order of the key type.

* `Dict.find?`, `Dict.insert`, `Dict.erase`, `Dict.modify` — lookup and update.
* `Dict.keys`, `Dict.values` — enumeration in key order.
* `Dict.total` — a sum over all values.
-/

namespace ProxyBridge

/-- A finite map as the list of its pairs in key order. -/
abbrev Dict (K V : Type) := List (K × V)

namespace Dict

variable {K V : Type}

/-- The value under `k`. -/
def find? [DecidableEq K] (k : K) : Dict K V → Option V
  | [] => none
  | (k', v) :: rest => if k' = k then some v else find? k rest

/-- Whether `k` has a value. -/
def contains [DecidableEq K] (d : Dict K V) (k : K) : Bool := (d.find? k).isSome

/-- Stores `v` under `k`, replacing what was there. -/
def insert [Ord K] (k : K) (v : V) : Dict K V → Dict K V
  | [] => [(k, v)]
  | (k', v') :: rest =>
    match compare k k' with
    | .lt => (k, v) :: (k', v') :: rest
    | .eq => (k, v) :: rest
    | .gt => (k', v') :: insert k v rest

/-- Stores pairs one after another. -/
def insertAll [Ord K] (d : Dict K V) (l : List (K × V)) : Dict K V :=
  l.foldl (fun d e => d.insert e.1 e.2) d

/-- Drops `k` and its value. -/
def erase [DecidableEq K] (k : K) : Dict K V → Dict K V
  | [] => []
  | (k', v) :: rest => if k' = k then rest else (k', v) :: erase k rest

/-- Changes the value under `k`, if there is one. -/
def modify [DecidableEq K] (k : K) (f : V → V) : Dict K V → Dict K V
  | [] => []
  | (k', v) :: rest => if k' = k then (k', f v) :: rest else (k', v) :: modify k f rest

/-- The keys, in order. -/
def keys (d : Dict K V) : List K := d.map (·.1)

/-- The values, in the order of their keys. -/
def values (d : Dict K V) : List V := d.map (·.2)

/-- The sum of the weights of all values. -/
def total (w : V → Nat) : Dict K V → Nat
  | [] => 0
  | (_, v) :: rest => w v + total w rest

end Dict

end ProxyBridge
