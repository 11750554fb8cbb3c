/-! Where a circuit instance stands: the circuit it came from, and the instance names that lead to it. -/
namespace CircuitScript

structure NetList where
  origin : String
  path : String
  deriving DecidableEq, Repr

namespace NetList

def root (origin : String) : NetList := ⟨origin, ""⟩

def qualify (netList : NetList) (name : String) : String :=
  if netList.path = "" then name else netList.path ++ "/" ++ name

def nested (netList : NetList) (origin name : String) : NetList := ⟨origin, netList.qualify name⟩

def describe (netList : NetList) : String :=
  if netList.path = "" then netList.origin
  else netList.origin ++ " (" ++ netList.path ++ ")"

end NetList

end CircuitScript
