namespace Modbus

def version : String := "0.1.0"

def defaultPort : UInt16 := 502

def about : String :=
  "Voltage Modbus Server v" ++ version ++ " - Industrial Modbus slave by Evan Liu"

end Modbus
