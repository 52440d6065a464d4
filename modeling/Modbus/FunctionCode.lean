namespace Modbus.FunctionCode

def readCoils : UInt8 := 0x01
def readDiscreteInputs : UInt8 := 0x02
def readHoldingRegisters : UInt8 := 0x03
def readInputRegisters : UInt8 := 0x04
def writeSingleCoil : UInt8 := 0x05
def writeSingleRegister : UInt8 := 0x06
def writeMultipleCoils : UInt8 := 0x0F
def writeMultipleRegisters : UInt8 := 0x10
def readWriteMultipleRegisters : UInt8 := 0x17

/-- Set in the function code of a response that carries an exception. -/
def exceptionFlag : UInt8 := 0x80

def description (code : UInt8) : String :=
  let base := code &&& 0x7F
  if base = readCoils then "Read Coils"
  else if base = readDiscreteInputs then "Read Discrete Inputs"
  else if base = readHoldingRegisters then "Read Holding Registers"
  else if base = readInputRegisters then "Read Input Registers"
  else if base = writeSingleCoil then "Write Single Coil"
  else if base = writeSingleRegister then "Write Single Register"
  else if base = writeMultipleCoils then "Write Multiple Coils"
  else if base = writeMultipleRegisters then "Write Multiple Registers"
  else if base = readWriteMultipleRegisters then "Read/Write Multiple Registers"
  else "Unknown Function"

end Modbus.FunctionCode
