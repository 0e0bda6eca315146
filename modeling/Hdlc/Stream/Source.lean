import Hdlc.Octets
import Hdlc.Stream.Failure

/-!
# Sources

A source of octets is given by the deliveries that its reads will make, in order. A read takes at
most as many octets as it has room for and leaves the rest of the delivery for the next one; after
the last delivery every read delivers nothing. Each read that finds a delivery makes the source
strictly lighter (`weight_read`).
-/

namespace Hdlc

/-- What a read brings. No octets at all means that the other end has closed. -/
inductive Delivery
  | octets (content : Octets)
  | failure (failure : Failure)
  deriving DecidableEq, Repr

/-- One for the delivery itself and one for each octet in it. -/
def Delivery.weight : Delivery → Nat
  | .octets content => content.length + 1
  | .failure _ => 1

/-- A source of octets, with an account of the reads made so far. -/
structure Source where
  deliveries : List Delivery
  readCalls : Nat := 0
  delivered : Nat := 0
  deriving DecidableEq, Repr

namespace Source

/-- A source that delivers the given octets, as far as each read has room, and then closes. -/
def ofOctets (octets : Octets) : Source :=
  { deliveries := [.octets octets] }

def read (room : Nat) (source : Source) : Delivery × Source :=
  match source with
  | ⟨[], calls, delivered⟩ => (.octets [], ⟨[], calls + 1, delivered⟩)
  | ⟨.failure failure :: later, calls, delivered⟩ =>
      (.failure failure, ⟨later, calls + 1, delivered⟩)
  | ⟨.octets octets :: later, calls, delivered⟩ =>
      if octets.length ≤ room then
        (.octets octets, ⟨later, calls + 1, delivered + octets.length⟩)
      else
        (.octets (octets.take room),
          ⟨.octets (octets.drop room) :: later, calls + 1, delivered + room⟩)

/-- Add deliveries behind those still to be made. -/
def supply (source : Source) (deliveries : List Delivery) : Source :=
  { source with deliveries := source.deliveries ++ deliveries }

/-- A measure of what is left: one for each delivery and one for each octet in it. -/
def weight (source : Source) : Nat :=
  source.deliveries.foldr (fun delivery rest => delivery.weight + rest) 0

/-- A read either finds the source exhausted and delivers nothing, or makes it lighter. -/
theorem weight_read {room : Nat} (hroom : 0 < room) (source : Source) :
    (source.read room).1 = .octets [] ∧ (source.read room).2.weight ≤ source.weight ∨
      (source.read room).2.weight < source.weight := by
  obtain ⟨deliveries, calls, delivered⟩ := source
  match deliveries with
  | [] => simp [read, weight]
  | .failure failure :: later => right; simp [read, weight, Delivery.weight]
  | .octets octets :: later =>
      right
      by_cases h : octets.length ≤ room
      · simp [read, weight, Delivery.weight, h]
      · simp [read, weight, Delivery.weight, h]
        omega

end Source

end Hdlc
