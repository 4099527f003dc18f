import TrustedAppId.Uuid
/-! The fields of an identifier in the order in which a C initializer lists them: one group of 32
bits, two of 16, and eight single octets, all most significant bit first. -/
namespace TrustedAppId

structure Fields where
  timeLow : BitVec 32
  timeMid : BitVec 16
  timeHiAndVersion : BitVec 16
  /-- The clock sequence, variant first, and then the six octets of the node. -/
  clockSeqAndNode : Vector (BitVec 8) 8
deriving DecidableEq

namespace Fields

def clockSeqHiAndReserved (f : Fields) : BitVec 8 := f.clockSeqAndNode[0]

def clockSeqLow (f : Fields) : BitVec 8 := f.clockSeqAndNode[1]

def node (f : Fields) : List (BitVec 8) := f.clockSeqAndNode.toList.drop 2

/-- Octet `i` of an identifier, counted from the most significant one. -/
def octet (u : Uuid) (i : Nat) : BitVec 8 := u.value.extractLsb' (120 - 8 * i) 8

def ofUuid (u : Uuid) : Fields where
  timeLow := u.value.extractLsb' 96 32
  timeMid := u.value.extractLsb' 80 16
  timeHiAndVersion := u.value.extractLsb' 64 16
  clockSeqAndNode := Vector.ofFn fun i => octet u (8 + i)

def toUuid (f : Fields) : Uuid where
  value := f.timeLow ++ f.timeMid ++ f.timeHiAndVersion ++
    (f.clockSeqAndNode[0] ++ f.clockSeqAndNode[1] ++ f.clockSeqAndNode[2] ++
      f.clockSeqAndNode[3] ++ f.clockSeqAndNode[4] ++ f.clockSeqAndNode[5] ++
      f.clockSeqAndNode[6] ++ f.clockSeqAndNode[7])

end TrustedAppId.Fields
