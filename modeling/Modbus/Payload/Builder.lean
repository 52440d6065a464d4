import Modbus.Octets

namespace Modbus.Payload

inductive Item
  | octet (b : UInt8)
  | word (w : UInt16)
  | words (ws : List UInt16)
  | octets (bs : Octets)
  deriving DecidableEq, Repr

def Item.encode : Item → Octets
  | octet b => [b]
  | word w => bigEndian w
  | words ws => ws.flatMap bigEndian
  | octets bs => bs

def build (items : List Item) : Octets := items.flatMap Item.encode

theorem build_append (xs ys : List Item) : build (xs ++ ys) = build xs ++ build ys := by
  simp [build]

theorem length_words (ws : List UInt16) : (ws.flatMap bigEndian).length = 2 * ws.length := by
  induction ws with
  | nil => rfl
  | cons w ws ih => simp only [List.flatMap_cons, List.length_append, length_bigEndian, ih,
      List.length_cons]; omega

end Modbus.Payload
