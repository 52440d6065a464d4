namespace Modbus.Text

def listing (ns : List Nat) : String := "[" ++ ", ".intercalate (ns.map toString) ++ "]"

def listingOctets (bs : List UInt8) : String := listing (bs.map UInt8.toNat)

end Modbus.Text
