/-!
# About

How the library introduces itself.
-/

namespace InstrumentLink

def version : String := "0.1.0"

/-- One line for logs and user interfaces. -/
def introduction : String :=
  "Voltage Serial v" ++ version ++
    " - instrument transport and Modbus RTU engine by Evan Liu"

end InstrumentLink
