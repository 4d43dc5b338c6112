import Mathlib.Data.List.DropRight

namespace RevenueRescue

/-- A Python string, as the sequence of its code points. -/
abbrev Text := List Char

namespace Text

/-- Decided on the characters of the text, not on all there are. -/
instance decidableForallMem (p : Char → Prop) [DecidablePred p] (text : Text) : Decidable (∀ c ∈ text, p c) :=
  List.decidableBAll p text

/-- `str.isspace` on one character, which is also the `\s` of `re`. -/
def isSpace (c : Char) : Bool :=
  decide (9 ≤ c.toNat ∧ c.toNat ≤ 13 ∨ 28 ≤ c.toNat ∧ c.toNat ≤ 32 ∨ c.toNat = 133 ∨ c.toNat = 160 ∨
    c.toNat = 5760 ∨ 8192 ≤ c.toNat ∧ c.toNat ≤ 8202 ∨ c.toNat = 8232 ∨ c.toNat = 8233 ∨
    c.toNat = 8239 ∨ c.toNat = 8287 ∨ c.toNat = 12288)

def lstrip (text : Text) : Text := text.dropWhile isSpace

def strip (text : Text) : Text := (lstrip (lstrip text).reverse).reverse

/-- The text before and after the first occurrence of a pattern. -/
def cut (pattern : Text) : Text → Option (Text × Text)
  | [] => none
  | c :: cs =>
      match pattern.isPrefixOf? (c :: cs) with
      | some rest => some ([], rest)
      | none => (cut pattern cs).map fun parts => (c :: parts.1, parts.2)

def occurs (pattern text : Text) : Bool := (cut pattern text).isSome

/-- `str.split(separator)`. The number counts the characters of a separator
that are still to be passed over. -/
def splitFrom (separator : Text) : Nat → Text → List Text
  | _, [] => [[]]
  | k + 1, _ :: cs => splitFrom separator k cs
  | 0, c :: cs =>
      if separator.isPrefixOf (c :: cs) then [] :: splitFrom separator (separator.length - 1) cs
      else match splitFrom separator 0 cs with
        | piece :: pieces => (c :: piece) :: pieces
        | [] => [[c]]

def split (separator text : Text) : List Text := splitFrom separator 0 text

/-- `re.sub`. The matcher gives the length of a match at the front of a text,
which is not empty, and its replacement. -/
def subFrom (match? : Text → Option (Nat × Text)) : Nat → Text → Text
  | _, [] => []
  | k + 1, _ :: cs => subFrom match? k cs
  | 0, c :: cs =>
      match match? (c :: cs) with
      | some (n, replacement) => replacement ++ subFrom match? (n - 1) cs
      | none => c :: subFrom match? 0 cs

def sub (match? : Text → Option (Nat × Text)) (text : Text) : Text := subFrom match? 0 text

/-- The longest text that starts and ends with the two characters. -/
def between (first last : Char) (text : Text) : Text :=
  ((text.dropWhile (· ≠ first)).reverse.dropWhile (· ≠ last)).reverse

theorem strip_strip (text : Text) : strip (strip text) = strip text := by
  have hfront : strip text <+: lstrip text := List.rdropWhile_prefix isSpace (lstrip text)
  have hfront : lstrip (strip text) = strip text := by
    rw [lstrip, List.dropWhile_eq_self_iff]
    intro hlen
    have hpos : 0 < (lstrip text).length := hlen.trans_le hfront.length_le
    have hhead : (strip text)[0] = (lstrip text)[0] := hfront.getElem hlen
    rw [hhead]
    exact List.dropWhile_get_zero_not isSpace text hpos
  change (lstrip (strip text)).rdropWhile isSpace = _
  rw [hfront]
  exact List.rdropWhile_idempotent isSpace (lstrip text)

end Text

end RevenueRescue
