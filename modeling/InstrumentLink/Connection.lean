import InstrumentLink.Error

/-!
# Connections

A connection string selects a link.  `tcp-raw/<host>/<port>` is a network
stream driven like a serial line; any other text is the path of a serial
device.  Fields behind the port are reserved: they are ignored, and the caller
is told which.
-/

namespace InstrumentLink

inductive Connection where
  | serial (path : String)
  /-- The port stays text until the connection is made. -/
  | tcp (host port : String)
  deriving DecidableEq, Repr

namespace Connection

def serialName : String := "serial"

def tcpName : String := "tcp-raw"

def backendName : Connection → String
  | serial _ => serialName
  | tcp _ _ => tcpName

def text : Connection → String
  | serial path => path
  | tcp host port => tcpName ++ "/" ++ host ++ "/" ++ port

/-- A connection read from text, with the fields that were ignored. -/
structure Parsed where
  connection : Connection
  ignored : List String := []
  deriving DecidableEq, Repr

def parse (text : String) : Except LinkError Parsed :=
  if text = "" then .error (.argument .emptyConnection)
  else
    match text.toList.splitOn '/' with
    | [] => .ok { connection := serial text }
    | first :: rest =>
        if first ≠ tcpName.toList then .ok { connection := serial text }
        else
          match rest with
          | (h :: host) :: (p :: port) :: extra =>
              .ok { connection := tcp (String.ofList (h :: host)) (String.ofList (p :: port))
                    ignored := extra.map String.ofList }
          | _ => .error (.argument (.endpointIncomplete text))

end Connection

end InstrumentLink
