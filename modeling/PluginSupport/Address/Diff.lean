import PluginSupport.Address.NetAddr

/-!
# Differences of address lists

`AddressDiff.between new old` says which addresses an interface must lose and gain to get from
`old` to `new`. Both lists are sorted and merged in one pass: an address of `new` cancels at most
one equal address of `old`, so repeated addresses count, and both results are in ascending order.
-/
namespace PluginSupport

/-- Addresses to take from an interface and addresses to put on it. -/
structure AddressDiff where
  toDelete : List NetAddr
  toAdd : List NetAddr
deriving DecidableEq, Repr

namespace AddressDiff

/-- Whether nothing has to be done. -/
def isEmpty (diff : AddressDiff) : Bool :=
  diff.toDelete.isEmpty && diff.toAdd.isEmpty

/-- The difference with one more address to add in front. -/
def adding (addr : NetAddr) (diff : AddressDiff) : AddressDiff :=
  { diff with toAdd := addr :: diff.toAdd }

/-- The difference with one more address to delete in front. -/
def deleting (addr : NetAddr) (diff : AddressDiff) : AddressDiff :=
  { diff with toDelete := addr :: diff.toDelete }

/-- Difference of two ascending lists. -/
def merge : List NetAddr → List NetAddr → AddressDiff
  | [], old => ⟨old, []⟩
  | new, [] => ⟨[], new⟩
  | a :: new, b :: old =>
    match NetAddr.order a b with
    | .eq => merge new old
    | .lt => adding a (merge new (b :: old))
    | .gt => deleting b (merge (a :: new) old)
termination_by new old => new.length + old.length

/-- What turns the list `old` into the list `new`, order aside. -/
def between (new old : List NetAddr) : AddressDiff :=
  merge (NetAddr.sort new) (NetAddr.sort old)

end AddressDiff

end PluginSupport
