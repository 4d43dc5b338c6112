import Mathlib.Data.List.Nodup
import RevenueRescue.Foundation.Json

namespace RevenueRescue.Json

def hexChar (n : Nat) : Char := Char.ofNat (if n < 10 then 48 + n else 87 + n)

def hexText (n : Nat) : Text :=
  [hexChar (n / 4096 % 16), hexChar (n / 256 % 16), hexChar (n / 16 % 16), hexChar (n % 16)]

def unicodeText (n : Nat) : Text := '\\' :: 'u' :: hexText n

/-- The characters that `json.dumps` leaves as they are. -/
def isPlain (c : Char) : Bool := decide (32 ≤ c.toNat ∧ c.toNat ≤ 126 ∧ c ≠ '"' ∧ c ≠ '\\')

def encodeSpecial (c : Char) : Text :=
  if c.toNat < 0x10000 then unicodeText c.toNat
  else unicodeText (0xD800 + (c.toNat - 0x10000) / 0x400) ++ unicodeText (0xDC00 + (c.toNat - 0x10000) % 0x400)

def encodeChar (c : Char) : Text :=
  if isPlain c then [c]
  else match c with
    | '"' => ['\\', '"']
    | '\\' => ['\\', '\\']
    | '\x08' => ['\\', 'b']
    | '\x0c' => ['\\', 'f']
    | '\n' => ['\\', 'n']
    | '\r' => ['\\', 'r']
    | '\t' => ['\\', 't']
    | c => encodeSpecial c

def encodeString (s : String) : Text := '"' :: (s.toList.flatMap encodeChar ++ ['"'])

def natText (n : Nat) : Text := Nat.toDigits 10 n

def intText (n : Int) : Text := (if n < 0 then ['-'] else []) ++ natText n.natAbs

/-- A number as `float.__repr__` writes it, with a fraction or an exponent. -/
structure Decimal where
  negative : Bool
  whole : Nat
  places : Text
  exponent : Option Int
  places_digits : ∀ c ∈ places, isDigit c = true
  marked : places ≠ [] ∨ exponent.isSome = true

/-- The exponent has a sign and two digits at least. -/
def exponentText (k : Int) : Text :=
  'e' :: (if k < 0 then '-' else '+') :: ((if k.natAbs < 10 then ['0'] else []) ++ natText k.natAbs)

def Decimal.text (x : Decimal) : Text :=
  (if x.negative then ['-'] else []) ++ natText x.whole ++
    (if x.places = [] then [] else '.' :: x.places) ++ (x.exponent.map exponentText).getD []

def Decimal.value (x : Decimal) : ℚ :=
  decimal x.negative (natText x.whole ++ x.places) (x.exponent.getD 0 - x.places.length)

/-- What the JSON encoder takes from its platform: the `repr` of a float. -/
structure Encoder where
  repr : ℚ → Decimal

def fourDigits (n : Nat) : Text := [n / 1000, n / 100, n / 10, n].map fun k => Nat.digitChar (k % 10)

/-- Zeros at the end are left out, except for a single one. -/
def trimZeros (digits : Text) : Text :=
  if digits.rdropWhile (· = '0') = [] then ['0'] else digits.rdropWhile (· = '0')

theorem trimZeros_ne_nil (digits : Text) : trimZeros digits ≠ [] := by
  unfold trimZeros
  split
  · exact List.cons_ne_nil _ _
  · assumption

theorem trimZeros_digits (n : Nat) : ∀ c ∈ trimZeros (fourDigits n), isDigit c = true := by
  have hdigit : ∀ k < 10, isDigit (Nat.digitChar k) = true := by decide
  have hfour : ∀ c ∈ fourDigits n, isDigit c = true := by
    intro c hc
    obtain ⟨k, -, rfl⟩ := List.mem_map.mp hc
    exact hdigit _ (Nat.mod_lt k (by decide))
  unfold trimZeros
  split
  · decide
  · exact fun c hc => hfour c ((List.rdropWhile_prefix _ _).subset hc)

/-- An encoder for numbers with at most four decimal places. -/
def plainEncoder : Encoder where
  repr q := {
    negative := decide (q < 0)
    whole := (|q| * 10000).floor.toNat / 10000
    places := trimZeros (fourDigits ((|q| * 10000).floor.toNat % 10000))
    exponent := none
    places_digits := trimZeros_digits _
    marked := .inl (trimZeros_ne_nil _) }

def floatText (e : Encoder) : PyFloat → Text
  | .num q => (e.repr q).text
  | .posInf => ['I', 'n', 'f', 'i', 'n', 'i', 't', 'y']
  | .negInf => ['-', 'I', 'n', 'f', 'i', 'n', 'i', 't', 'y']
  | .nan => ['N', 'a', 'N']

mutual

/-- `json.dumps` with its defaults, so that everything outside ASCII is escaped. -/
def dumps (e : Encoder) : PyValue → Text
  | .none => ['n', 'u', 'l', 'l']
  | .bool true => ['t', 'r', 'u', 'e']
  | .bool false => ['f', 'a', 'l', 's', 'e']
  | .int n => intText n
  | .float x => floatText e x
  | .str s => encodeString s
  | .list xs => '[' :: (elementsText e true xs ++ [']'])
  | .dict kvs => '{' :: (membersText e true kvs ++ ['}'])

/-- The elements of a list, those behind the first one with a separator. -/
def elementsText (e : Encoder) : Bool → List PyValue → Text
  | _, [] => []
  | first, x :: xs => (if first then [] else [',', ' ']) ++ (dumps e x ++ elementsText e false xs)

def membersText (e : Encoder) : Bool → List (String × PyValue) → Text
  | _, [] => []
  | first, (k, x) :: kvs =>
      (if first then [] else [',', ' ']) ++ (encodeString k ++ (':' :: ' ' :: (dumps e x ++ membersText e false kvs)))

end

mutual

/-- How deep the containers of a value are nested. -/
def nesting : PyValue → Nat
  | .list xs => nestingElements xs + 1
  | .dict kvs => nestingMembers kvs + 1
  | _ => 0

def nestingElements : List PyValue → Nat
  | [] => 0
  | x :: xs => max (nesting x) (nestingElements xs)

def nestingMembers : List (String × PyValue) → Nat
  | [] => 0
  | (_, x) :: kvs => max (nesting x) (nestingMembers kvs)

end

mutual

/-- The keys of every dict are distinct, and reading the `repr` of a float gives the float. -/
def ReadsBack (d : Decoder) (e : Encoder) : PyValue → Prop
  | .float (.num q) => d.float (e.repr q).value = .num q
  | .list xs => ReadsBackElements d e xs
  | .dict kvs => (kvs.map Prod.fst).Nodup ∧ ReadsBackMembers d e kvs
  | _ => True

def ReadsBackElements (d : Decoder) (e : Encoder) : List PyValue → Prop
  | [] => True
  | x :: xs => ReadsBack d e x ∧ ReadsBackElements d e xs

def ReadsBackMembers (d : Decoder) (e : Encoder) : List (String × PyValue) → Prop
  | [] => True
  | (_, x) :: kvs => ReadsBack d e x ∧ ReadsBackMembers d e kvs

end

mutual

/-- Reading the `repr` of a float gives the float. -/
def ReadsFloats (float : ℚ → PyFloat) (e : Encoder) : PyValue → Prop
  | .float (.num q) => float (e.repr q).value = .num q
  | .list xs => ReadsFloatsElements float e xs
  | .dict kvs => ReadsFloatsMembers float e kvs
  | _ => True

def ReadsFloatsElements (float : ℚ → PyFloat) (e : Encoder) : List PyValue → Prop
  | [] => True
  | x :: xs => ReadsFloats float e x ∧ ReadsFloatsElements float e xs

def ReadsFloatsMembers (float : ℚ → PyFloat) (e : Encoder) : List (String × PyValue) → Prop
  | [] => True
  | (_, x) :: kvs => ReadsFloats float e x ∧ ReadsFloatsMembers float e kvs

end

mutual

/-- A value in which the last one stays of the members with the same key. -/
def collapse : PyValue → PyValue
  | .list xs => .list (collapseElements xs)
  | .dict kvs => .dict (collapseMembers [] kvs)
  | v => v

def collapseElements : List PyValue → List PyValue
  | [] => []
  | x :: xs => collapse x :: collapseElements xs

def collapseMembers : List (String × PyValue) → List (String × PyValue) → List (String × PyValue)
  | acc, [] => acc
  | acc, (k, x) :: kvs => collapseMembers (setItem acc k (collapse x)) kvs

end

end RevenueRescue.Json
