/-! The order of calls into extensions. They start in order and end in reverse; the level of a
call counts from one and is the same in both directions. -/
namespace PlcModule

/-- A call with the level at which it is made. -/
structure StagedCall where
  level : Nat
  key : String
  deriving DecidableEq, Repr

/-- The keys of the extensions, in starting order. -/
structure CallPlan where
  keys : List String
  deriving DecidableEq, Repr

namespace CallPlan

def forward (p : CallPlan) : List String :=
  p.keys

def backward (p : CallPlan) : List String :=
  p.keys.reverse

def initCalls (p : CallPlan) : List StagedCall :=
  p.keys.mapIdx fun i key => ⟨i + 1, key⟩

def cleanupCalls (p : CallPlan) : List StagedCall :=
  p.initCalls.reverse

theorem map_key_initCalls (p : CallPlan) : p.initCalls.map StagedCall.key = p.forward := by
  apply List.ext_getElem <;> simp [initCalls, forward]

theorem map_key_cleanupCalls (p : CallPlan) : p.cleanupCalls.map StagedCall.key = p.backward := by
  rw [cleanupCalls, List.map_reverse, map_key_initCalls]
  rfl

end CallPlan
end PlcModule
