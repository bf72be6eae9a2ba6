/-! # Packet identifiers

Identifiers for packets that need acknowledgment count up from 1 to 65535 and then start
again at 1; zero is never used.
-/

namespace Mqtt

/-- The source of packet identifiers: the last one handed out, zero before the first. -/
structure PacketIds where
  last : UInt16 := 0
  deriving DecidableEq, Repr, Inhabited

namespace PacketIds

/-- The next identifier and the source after handing it out. -/
def next (s : PacketIds) : UInt16 × PacketIds :=
  let n := if s.last == 65535 then 1 else s.last + 1
  (n, ⟨n⟩)

/-- The identifiers of `k` calls in order, and the source after them. -/
def take (s : PacketIds) : Nat → List UInt16 × PacketIds
  | 0 => ([], s)
  | k + 1 =>
    let (i, s') := s.next
    let (is, s'') := s'.take k
    (i :: is, s'')

end PacketIds

end Mqtt
