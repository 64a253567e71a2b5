import InstrumentLink.Line.Params
import InstrumentLink.Text.Numeral

/-!
# Line parameters as text

The compact form is `baud/shape` with options behind it, each after a slash:
`115200/8e1/rts=0/dtr=1/flow=2`.  The shape is one digit of data bits, a
parity letter and one digit of stop bits.  An option given twice takes its
last value.
-/

namespace InstrumentLink

def Parity.letter : Parity → Char
  | none => 'n'
  | odd => 'o'
  | even => 'e'

/-- The parity of a letter in either case. -/
def Parity.ofLetter? (letter : Char) : Option Parity :=
  match letter with
  | 'n' | 'N' => some .none
  | 'o' | 'O' => some .odd
  | 'e' | 'E' => some .even
  | _ => Option.none

def FlowControl.digit : FlowControl → Char
  | none => '0'
  | hardware => '1'
  | software => '2'

namespace LineParams

def levelDigit (level : Bool) : Char := if level then '1' else '0'

/-- The compact form, as characters. -/
def renderChars (params : LineParams) : List Char :=
  Nat.toDigits 10 params.baud.toNat ++
    '/' :: (Nat.toDigits 10 params.dataBits.toNat ++
      params.parity.letter :: Nat.toDigits 10 params.stopBits.toNat) ++
    (match params.rts with
      | some level => ['/', 'r', 't', 's', '=', levelDigit level]
      | none => []) ++
    (match params.dtr with
      | some level => ['/', 'd', 't', 'r', '=', levelDigit level]
      | none => []) ++
    (if params.flow = .none then [] else ['/', 'f', 'l', 'o', 'w', '=', params.flow.digit])

def render (params : LineParams) : String := String.ofList params.renderChars

/-- A bit rate: a number that fits in 32 bits. -/
def baud? (field : List Char) : Option UInt32 :=
  (Text.unsigned? UInt32.size field).map UInt32.ofNat

def digit? (c : Char) : Option UInt8 :=
  if c.isDigit then some (UInt8.ofNat (Nat.ofDigitChars 10 [c] 0)) else none

/-- The parts of an option before and behind its first equals sign. -/
def keyValue? (option : List Char) : Option (List Char × List Char) :=
  match option.dropWhile (· != '=') with
  | [] => none
  | _ :: value => some (option.takeWhile (· != '='), value)

def level (key value : List Char) : Except LinkError Bool :=
  match value with
  | ['0'] => .ok false
  | ['1'] => .ok true
  | _ => .error (.argument (.lineLevelText (String.ofList key) (String.ofList value)))

def flowOf (value : List Char) : Except LinkError FlowControl :=
  match value with
  | ['0'] => .ok .none
  | ['1'] => .ok .hardware
  | ['2'] => .ok .software
  | _ => .error (.argument (.flowText (String.ofList value)))

/-- Applies one option to the parameters read so far. -/
def withOption (params : LineParams) (option : List Char) : Except LinkError LineParams :=
  match keyValue? option with
  | none => .error (.argument (.optionWithoutValue (String.ofList option)))
  | some (key, value) =>
      match key with
      | ['r', 't', 's'] => return { params with rts := some (← level key value) }
      | ['d', 't', 'r'] => return { params with dtr := some (← level key value) }
      | ['f', 'l', 'o', 'w'] => return { params with flow := ← flowOf value }
      | _ => .error (.argument (.unknownOption (String.ofList key)))

def ofShape (baud : UInt32) (shape : List Char) : Except LinkError LineParams :=
  match shape with
  | [data, parity, stop] =>
      match digit? data with
      | none => .error (.argument (.dataBitsText (String.ofList shape)))
      | some dataBits =>
          match Parity.ofLetter? parity with
          | none => .error (.argument (.parityText (String.ofList shape)))
          | some parity =>
              match digit? stop with
              | none => .error (.argument (.stopBitsText (String.ofList shape)))
              | some stopBits =>
                  .ok { baud, dataBits, parity, stopBits }
  | _ => .error (.argument (.shapeText (String.ofList shape)))

def ofFields (baud : UInt32) (fields : List (List Char)) : Except LinkError LineParams := do
  let shaped ← ofShape baud (fields.headD [])
  let params ← (fields.drop 1).foldlM withOption shaped
  params.validate
  return params

def parse (text : String) : Except LinkError LineParams :=
  let fields := text.toList.splitOn '/'
  let first := fields.headD []
  match baud? first with
  | none => .error (.argument (.baudText (String.ofList first) text))
  | some baud => ofFields baud (fields.drop 1)

end LineParams

end InstrumentLink
