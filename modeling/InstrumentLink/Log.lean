import InstrumentLink.Connection
import InstrumentLink.Line.Text
import InstrumentLink.Text.Quoted

/-!
# Log

What is reported beside results: the life of a link, packet dumps, what was
ignored or skipped, and the details that begin with the text of a connection.  A
line keeps its content as data; `LogLine.text` words it.  Other details begin with
fixed words, so that none of them looks like a packet dump; they are not kept.
-/

namespace InstrumentLink

/-- Access asked for when a link is opened. -/
inductive OpenMode where
  | readOnly
  | readWrite
  deriving DecidableEq, Repr

def OpenMode.isWritable : OpenMode → Bool
  | readOnly => false
  | readWrite => true

def OpenMode.text : OpenMode → String
  | readOnly => "ReadOnly"
  | readWrite => "ReadWrite"

inductive Direction where
  | send
  | receive
  deriving DecidableEq, Repr

def Direction.text : Direction → String
  | send => "send"
  | receive => "recv"

inductive LogLine where
  | ignoredFields (connection : String) (fields : List String)
  | connected (address : String)
  | portOpened (path : String) (mode : OpenMode)
  | opened (connection : Connection) (mode : OpenMode) (backend : String)
  | closed (connection : Connection)
  | packet (backend : String) (direction : Direction) (bytes : List UInt8)
  | paramsApplied (connection : Connection) (params : LineParams)
  | queueUnknown (connection : Connection) (error : LinkError)
  | deviceFound (connection : Connection)
  | cannotConfigure (connection : Connection) (error : LinkError)
  deriving DecidableEq, Repr

namespace LogLine

def text : LogLine → String
  | ignoredFields connection fields =>
      "WARN Connection string '" ++ connection ++ "': ignoring " ++ fields.length.repr ++
        " extra field(s) " ++ Text.quoteList fields ++ ", reserved for future use"
  | connected address => "INFO Connected to " ++ address
  | portOpened path mode => "INFO Serial port " ++ path ++ " opened (" ++ mode.text ++ ")"
  | opened connection mode backend =>
      "INFO Opened " ++ connection.text ++ " (" ++ mode.text ++ ") via " ++ backend ++ " backend"
  | closed connection => "INFO Closed " ++ connection.text
  | packet backend direction bytes =>
      "DEBUG [LINK-" ++ backend ++ "] " ++ direction.text ++ " " ++ Hex.packet bytes
  | paramsApplied connection params =>
      "DEBUG " ++ connection.text ++ ": frame parameters " ++ params.render
  | queueUnknown connection error =>
      "DEBUG " ++ connection.text ++ ": queued input size unavailable: " ++ error.text
  | deviceFound connection => "INFO Scan: device found on " ++ connection.text
  | cannotConfigure connection error =>
      "WARN Scan: cannot configure " ++ connection.text ++ ": " ++ error.text

/-- Whether a line is shown: details are, if they begin like the dump of a packet. -/
def isShown (line : LogLine) : Bool :=
  !"DEBUG ".toList.isPrefixOf line.text.toList ||
    "DEBUG [LINK-".toList.isPrefixOf line.text.toList

end LogLine

/-- What is reported about reading a connection string: one line if fields
were ignored, and nothing otherwise. -/
def Connection.Parsed.notices (parsed : Connection.Parsed) (text : String) : List LogLine :=
  if parsed.ignored = [] then [] else [.ignoredFields text parsed.ignored]

end InstrumentLink
