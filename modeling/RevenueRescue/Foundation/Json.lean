import RevenueRescue.Foundation.PyValue
import RevenueRescue.Foundation.Text

namespace RevenueRescue.Json

/-- What the JSON decoder takes from its platform: the float nearest to a
decimal, and how deep containers may be nested before it raises. -/
structure Decoder where
  float : ℚ → PyFloat
  depth : Nat

def isWhitespace (c : Char) : Bool := decide (c ∈ [' ', '\t', '\n', '\r'])

def skip (text : Text) : Text := text.dropWhile isWhitespace

def hexValue (c : Char) : Option Nat :=
  if '0' ≤ c ∧ c ≤ '9' then some (c.toNat - 48)
  else if 'a' ≤ c ∧ c ≤ 'f' then some (c.toNat - 87)
  else if 'A' ≤ c ∧ c ≤ 'F' then some (c.toNat - 55)
  else none

def hex4 : Text → Option Nat
  | a :: b :: c :: d :: _ => do
      let a ← hexValue a
      let b ← hexValue b
      let c ← hexValue c
      let d ← hexValue d
      some (((a * 16 + b) * 16 + c) * 16 + d)
  | _ => none

def isHigh (n : Nat) : Bool := decide (0xD800 ≤ n ∧ n ≤ 0xDBFF)

def isLow (n : Nat) : Bool := decide (0xDC00 ≤ n ∧ n ≤ 0xDFFF)

/-- A surrogate without its other half. Python keeps it in the string; no
`Char` is one, so the private-use character 0x800 above stands for it. -/
def loneSurrogate (n : Nat) : Char := .ofNat (n + 0x800)

/-- The character of a `\u` escape and the length of its digits. Two escapes
may make a surrogate pair. -/
def unicodeEscape (text : Text) : Option (Char × Nat) :=
  match hex4 text with
  | none => none
  | some high =>
      if isHigh high then
        match text.drop 4 with
        | '\\' :: 'u' :: rest =>
            match hex4 rest with
            | some low =>
                if isLow low then some (.ofNat (0x10000 + (high - 0xD800) * 0x400 + (low - 0xDC00)), 10)
                else some (loneSurrogate high, 4)
            | none => none
        | _ => some (loneSurrogate high, 4)
      else if isLow high then some (loneSurrogate high, 4)
      else some (.ofNat high, 4)

/-- The character that follows a backslash, and the length of its escape. -/
def escape : Text → Option (Char × Nat)
  | '"' :: _ => some ('"', 1)
  | '\\' :: _ => some ('\\', 1)
  | '/' :: _ => some ('/', 1)
  | 'b' :: _ => some ('\x08', 1)
  | 'f' :: _ => some ('\x0c', 1)
  | 'n' :: _ => some ('\n', 1)
  | 'r' :: _ => some ('\r', 1)
  | 't' :: _ => some ('\t', 1)
  | 'u' :: rest => (unicodeEscape rest).map fun found => (found.1, found.2 + 1)
  | _ => none

/-- The rest of a string after its opening quote. The number counts the
characters of an escape that are still to be passed over. -/
def scanString : Nat → Text → Option (Text × Text)
  | _, [] => none
  | k + 1, _ :: cs => scanString k cs
  | 0, c :: cs =>
      if c = '"' then some ([], cs)
      else if c = '\\' then
        match escape cs with
        | some (x, n) => (scanString n cs).map fun found => (x :: found.1, found.2)
        | none => none
      else if c.toNat < 32 then none
      else (scanString 0 cs).map fun found => (c :: found.1, found.2)

def isDigit (c : Char) : Bool := decide ('0' ≤ c ∧ c ≤ '9')

def digitsValue (digits : Text) : Nat := digits.foldl (fun n c => n * 10 + (c.toNat - 48)) 0

/-- The digits after a decimal point, when there are any. -/
def scanFraction (text : Text) : Option Text × Text :=
  match text with
  | '.' :: rest =>
      if rest.takeWhile isDigit = [] then (none, text)
      else (some (rest.takeWhile isDigit), rest.dropWhile isDigit)
  | _ => (none, text)

def scanSign : Text → Bool × Text
  | '-' :: rest => (true, rest)
  | '+' :: rest => (false, rest)
  | text => (false, text)

def scanExponent (text : Text) : Option Int × Text :=
  match text with
  | c :: rest =>
      if c = 'e' ∨ c = 'E' then
        let signed := scanSign rest
        let digits := signed.2.takeWhile isDigit
        if digits = [] then (none, text)
        else (some (if signed.1 then -(digitsValue digits : Int) else digitsValue digits),
          signed.2.dropWhile isDigit)
      else (none, text)
  | [] => (none, [])

def decimal (negative : Bool) (digits : Text) (exponent : Int) : ℚ :=
  (if negative then -1 else 1) * digitsValue digits * (10 : ℚ) ^ exponent

def scanUnsigned (d : Decoder) (negative : Bool) (digits rest : Text) : PyValue × Text :=
  let fraction := scanFraction rest
  let exponent := scanExponent fraction.2
  match fraction.1, exponent.1 with
  | none, none => (.int (if negative then -(digitsValue digits : Int) else digitsValue digits), rest)
  | frac, exp =>
      let places := frac.getD []
      (.float (d.float (decimal negative (digits ++ places) (exp.getD 0 - places.length))), exponent.2)

def scanNumber (d : Decoder) (text : Text) : Option (PyValue × Text) :=
  let negative := decide (text.head? = some '-')
  match (if negative then text.drop 1 else text) with
  | '0' :: rest => some (scanUnsigned d negative ['0'] rest)
  | c :: rest =>
      if isDigit c then
        some (scanUnsigned d negative (c :: rest.takeWhile isDigit) (rest.dropWhile isDigit))
      else none
  | [] => none

def constants : List (Text × PyValue) :=
  [(['n', 'u', 'l', 'l'], .none), (['t', 'r', 'u', 'e'], .bool true),
    (['f', 'a', 'l', 's', 'e'], .bool false), (['N', 'a', 'N'], .float .nan),
    (['I', 'n', 'f', 'i', 'n', 'i', 't', 'y'], .float .posInf),
    (['-', 'I', 'n', 'f', 'i', 'n', 'i', 't', 'y'], .float .negInf)]

def scanConstant (text : Text) : Option (PyValue × Text) :=
  constants.findSome? fun entry => (entry.1.isPrefixOf? text).map fun rest => (entry.2, rest)

/-- `d[key] = value` on a dict that keeps the order of its keys. -/
def setItem (kvs : List (String × PyValue)) (key : String) (value : PyValue) : List (String × PyValue) :=
  if PyValue.contains kvs key then kvs.map fun kv => if kv.1 = key then (key, value) else kv
  else kvs ++ [(key, value)]

mutual

/-- One value. The first number bounds the recursion, the second one is how
many more containers may be opened. -/
def scanValue (d : Decoder) : Nat → Nat → Text → Option (PyValue × Text)
  | 0, _, _ => none
  | fuel + 1, depth, text =>
      match text with
      | [] => none
      | c :: cs =>
          if c = '"' then (scanString 0 cs).map fun found => (.str (.ofList found.1), found.2)
          else if c = '{' then
            if depth = 0 then none
            else match skip cs with
              | '}' :: rest => some (.dict [], rest)
              | rest => scanMembers d fuel (depth - 1) [] rest
          else if c = '[' then
            if depth = 0 then none
            else match skip cs with
              | ']' :: rest => some (.list [], rest)
              | rest => scanElements d fuel (depth - 1) [] rest
          else (scanConstant text).or (scanNumber d text)

/-- The members of an object from a key on, after those already read. -/
def scanMembers (d : Decoder) : Nat → Nat → List (String × PyValue) → Text → Option (PyValue × Text)
  | 0, _, _, _ => none
  | fuel + 1, depth, kvs, text => do
      let '"' :: quoted := text | none
      let (key, afterKey) ← scanString 0 quoted
      let ':' :: afterColon := skip afterKey | none
      let (value, afterValue) ← scanValue d fuel depth (skip afterColon)
      match skip afterValue with
      | '}' :: rest => some (.dict (setItem kvs (.ofList key) value), rest)
      | ',' :: rest => scanMembers d fuel depth (setItem kvs (.ofList key) value) (skip rest)
      | _ => none

def scanElements (d : Decoder) : Nat → Nat → List PyValue → Text → Option (PyValue × Text)
  | 0, _, _, _ => none
  | fuel + 1, depth, xs, text => do
      let (value, afterValue) ← scanValue d fuel depth text
      match skip afterValue with
      | ']' :: rest => some (.list (xs ++ [value]), rest)
      | ',' :: rest => scanElements d fuel depth (xs ++ [value]) (skip rest)
      | _ => none

end

/-- `json.loads` on a string; `none` is its exception. -/
def loads (d : Decoder) (text : Text) : Option PyValue :=
  if text.head? = some '\uFEFF' then none
  else match scanValue d (text.length + 1) d.depth (skip text) with
    | some (value, rest) => if skip rest = [] then some value else none
    | none => none

end RevenueRescue.Json
