import ProxyBridge.Error

/-!
# The host heap

The host has room for a bounded number of proxies. A cell is reserved for each proxy before it is
made, and given back when it is destroyed.
-/

namespace ProxyBridge

/-- The accounting of proxies in the host heap. -/
structure Heap where
  /-- Cells in use. -/
  live : Nat
  /-- Cells ever reserved. -/
  total : Nat
  limit : Option Nat
deriving DecidableEq, Repr

namespace Heap

/-- The number of cells that a heap without a limit has. -/
def capacity : Nat := UInt64.size - 1

/-- A heap with no cell in use. -/
def new (limit : Option Nat) : Heap := { live := 0, total := 0, limit }

/-- Reserves a cell, unless all are in use. -/
def reserve (h : Heap) : Except ProxyError Heap :=
  if h.live < h.limit.getD capacity then .ok { h with live := h.live + 1, total := h.total + 1 }
  else .error .heapFull

/-- Gives a cell back. -/
def free (h : Heap) : Heap := { h with live := h.live - 1 }

end Heap

end ProxyBridge
