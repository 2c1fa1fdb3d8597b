import ProxyBridge.Mask

/-!
# Host slots

A slot is one protocol of the host: attribute access, calling, iteration, and so on. A shape
installs a set of slots. Slots are known by two names, one for programs and one for messages.
-/

namespace ProxyBridge

/-- A set of host slots. -/
abbrev Slots := Mask

namespace Slots

def getAttr : Slots := Mask.bit 0
def setAttr : Slots := Mask.bit 1
def repr : Slots := Mask.bit 2
def compare : Slots := Mask.bit 3
def truth : Slots := Mask.bit 4
def call : Slots := Mask.bit 5
def bind : Slots := Mask.bit 6
def length : Slots := Mask.bit 7
def getItem : Slots := Mask.bit 8
def setItem : Slots := Mask.bit 9
def delItem : Slots := Mask.bit 10
def contains : Slots := Mask.bit 11
def iter : Slots := Mask.bit 12
def next : Slots := Mask.bit 13
def asyncIter : Slots := Mask.bit 14
def asyncNext : Slots := Mask.bit 15
def await : Slots := Mask.bit 16
def buffer : Slots := Mask.bit 17
def send : Slots := Mask.bit 18
def throw : Slots := Mask.bit 19
def exception : Slots := Mask.bit 20
def mapping : Slots := Mask.bit 21
def unwrap : Slots := Mask.bit 22

/-- The slots that every shape installs. -/
def base : Slots := Mask.unionAll [getAttr, setAttr, repr, compare, truth]

/-- Every named slot: its set, its name, and what messages call it. -/
def table : List (Slots × String × String) :=
  [(getAttr, "GETATTR", "getattr"),
   (setAttr, "SETATTR", "setattr"),
   (repr, "REPR", "repr"),
   (compare, "RICH_COMPARE", "comparison"),
   (truth, "BOOL", "truth testing"),
   (call, "CALL", "calling"),
   (bind, "DESCR_GET", "method binding"),
   (length, "LENGTH", "len()"),
   (getItem, "GET_ITEM", "item access"),
   (setItem, "SET_ITEM", "item assignment"),
   (delItem, "DEL_ITEM", "item deletion"),
   (contains, "CONTAINS", "membership testing"),
   (iter, "ITER", "iteration"),
   (next, "NEXT", "next()"),
   (asyncIter, "AITER", "async iteration"),
   (asyncNext, "ANEXT", "anext()"),
   (await, "AWAIT", "await"),
   (buffer, "BUFFER", "the buffer protocol"),
   (send, "SEND", "send()"),
   (throw, "THROW", "throw()"),
   (exception, "EXCEPTION", "raising"),
   (mapping, "MAPPING", "mapping access"),
   (unwrap, "UNWRAP", "unwrapping")]

/-- The names of the slots. -/
def naming : Mask.Naming := table.map fun entry => (entry.1, entry.2.1)

/-- What messages call a slot set that is not one named slot. -/
def combinedName : String := "a combined slot"

/-- What messages call a slot. -/
def protocolName (s : Slots) : String :=
  ((table.find? fun entry => entry.1 = s).map (·.2.2)).getD combinedName

/-- The outline of a slot set. -/
def outline (s : Slots) : String := "SlotSet(" ++ Mask.render naming s ++ ")"

end Slots

end ProxyBridge
