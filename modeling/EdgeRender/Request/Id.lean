import EdgeRender.Text.Hex
import EdgeRender.Text.Quoted

/-! # Request identifiers

An identifier is either given, by whoever passed the request on, or made from a clock
reading and a sequence number. Sequence numbers alone keep made identifiers apart.
-/
namespace EdgeRender

open EdgeRender.Text

structure RequestId where
  text : String
  deriving DecidableEq, Repr

namespace RequestId

/-- The sequence number of the identifier made next. -/
structure Counter where
  next : UInt64 := 1
  deriving DecidableEq, Repr

def made (nanos : Nat) (sequence : UInt64) : RequestId :=
  ⟨.ofList (hexDigits nanos ++ '-' :: hexDigits sequence.toNat)⟩

/-- Make an identifier. The clock counts nanoseconds since the epoch; a reading before
it counts as zero. -/
def generate (clock : Int) (counter : Counter) : RequestId × Counter :=
  (made clock.toNat counter.next, ⟨counter.next + 1⟩)

def description (id : RequestId) : String :=
  "RequestId(" ++ Quoted.quote id.text ++ ")"

end RequestId
end EdgeRender
