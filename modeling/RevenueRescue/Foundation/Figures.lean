import RevenueRescue.Foundation.JsonRoundTrip

namespace RevenueRescue.Json

open PyFloat

/-- The last digits of a number, as many as are asked for. -/
def placesText : Nat → Nat → Text
  | 0, _ => []
  | n + 1, k => placesText n (k / 10) ++ [Nat.digitChar (k % 10)]

/-- `format(x, '.2f')`, with any number of places but none. -/
def fixedText (places : Nat) : PyFloat → Text
  | .num q =>
      let k := (roundHalfEven (|q| * (10 ^ places : Nat))).toNat
      (if q < 0 then ['-'] else []) ++ (natText (k / 10 ^ places) ++ '.' :: placesText places k)
  | .posInf => ['i', 'n', 'f']
  | .negInf => ['-', 'i', 'n', 'f']
  | .nan => ['n', 'a', 'n']

/-- `str(x)`. -/
def showFloat (e : Encoder) : PyFloat → Text
  | .num q => (e.repr q).text
  | .posInf => ['i', 'n', 'f']
  | .negInf => ['-', 'i', 'n', 'f']
  | .nan => ['n', 'a', 'n']

/-- `float(text)`, for a text of digits and points; `none` is its `ValueError`. -/
def readDecimal (d : Decoder) (text : Text) : Option PyFloat :=
  let whole := text.takeWhile isDigit
  match text.dropWhile isDigit with
  | [] => if whole = [] then none else some (d.float (decimal false whole 0))
  | '.' :: places =>
      if places.all isDigit ∧ whole ++ places ≠ [] then
        some (d.float (decimal false (whole ++ places) (-places.length)))
      else none
  | _ => none

/-- The characters of numbers in a text for people. -/
def isFigure (c : Char) : Bool := isDigit c || decide (c ∈ ['-', '+', '.', 'e', 'i', 'n', 'f', 'a'])

variable {d : Decoder} {e : Encoder} {text digits : Text} {q : ℚ} {n k : Nat}

theorem isFigure_of_digit {c : Char} (h : isDigit c = true) : isFigure c = true := by
  rw [isFigure, h, Bool.true_or]

theorem digitChar_digit : ∀ k < 10, isDigit (Nat.digitChar k) = true := by decide

theorem placesText_digits (n k : Nat) : ∀ c ∈ placesText n k, isDigit c = true := by
  induction n generalizing k with
  | zero => exact fun c hc => absurd hc List.not_mem_nil
  | succ n ih => exact List.forall_mem_append.mpr ⟨ih _, List.forall_mem_singleton.mpr (digitChar_digit _ (Nat.mod_lt k (by decide)))⟩

theorem length_placesText (n k : Nat) : (placesText n k).length = n := by
  induction n generalizing k with
  | zero => rfl
  | succ n ih => rw [placesText, List.length_append, ih, List.length_singleton]

theorem intText_figures (n : Int) : ∀ c ∈ intText n, isFigure c = true := by
  refine List.forall_mem_append.mpr ⟨?_, fun c hc => isFigure_of_digit (natText_digits c hc)⟩
  split <;> decide

theorem fixedText_figures (places : Nat) (x : PyFloat) : ∀ c ∈ fixedText places x, isFigure c = true := by
  cases x with
  | num q =>
      have hsign : ∀ c ∈ if q < 0 then ['-'] else [], isFigure c = true := by
        split <;> decide
      exact List.forall_mem_append.mpr ⟨hsign, List.forall_mem_append.mpr
        ⟨fun c hc => isFigure_of_digit (natText_digits c hc), List.forall_mem_cons.mpr
          ⟨by decide, fun c hc => isFigure_of_digit (placesText_digits places _ c hc)⟩⟩⟩
  | posInf | negInf | nan =>
      simp only [fixedText]
      decide

theorem exponentText_figures (k : Int) : ∀ c ∈ exponentText k, isFigure c = true := by
  have hsign : isFigure (if k < 0 then '-' else '+') = true := by
    split <;> decide
  have hpad : ∀ c ∈ if k.natAbs < 10 then ['0'] else [], isFigure c = true := by
    split <;> decide
  exact List.forall_mem_cons.mpr ⟨by decide, List.forall_mem_cons.mpr ⟨hsign,
    List.forall_mem_append.mpr ⟨hpad, fun c hc => isFigure_of_digit (natText_digits c hc)⟩⟩⟩

theorem decimalText_figures (x : Decimal) : ∀ c ∈ x.text, isFigure c = true := by
  have hsign : ∀ c ∈ if x.negative then ['-'] else [], isFigure c = true := by
    split <;> decide
  have hfraction : ∀ c ∈ if x.places = [] then [] else '.' :: x.places, isFigure c = true := by
    split
    · decide
    · exact List.forall_mem_cons.mpr ⟨by decide, fun c hc => isFigure_of_digit (x.places_digits c hc)⟩
  have hexponent : ∀ c ∈ (x.exponent.map exponentText).getD [], isFigure c = true := by
    cases x.exponent with
    | none => decide
    | some k => exact exponentText_figures k
  exact List.forall_mem_append.mpr ⟨List.forall_mem_append.mpr ⟨List.forall_mem_append.mpr
    ⟨hsign, fun c hc => isFigure_of_digit (natText_digits c hc)⟩, hfraction⟩, hexponent⟩

theorem showFloat_figures (x : PyFloat) : ∀ c ∈ showFloat e x, isFigure c = true := by
  cases x with
  | num q => exact decimalText_figures (e.repr q)
  | posInf | negInf | nan =>
      simp only [showFloat]
      decide

theorem digitsValue_append (a b : Text) : digitsValue (a ++ b) = digitsValue a * 10 ^ b.length + digitsValue b := by
  induction b using List.reverseRecOn with
  | nil => simp [digitsValue]
  | append_singleton b c ih =>
      have hsnoc (u : Text) : digitsValue (u ++ [c]) = digitsValue u * 10 + (c.toNat - 48) := by
        rw [digitsValue, List.foldl_append]
        rfl
      rw [← List.append_assoc, hsnoc, hsnoc, ih, List.length_append, List.length_singleton, Nat.pow_succ]
      ring

theorem digitsValue_digitChar : ∀ k < 10, digitsValue [Nat.digitChar k] = k := by decide

theorem digitsValue_placesText (n k : Nat) : digitsValue (placesText n k) = k % 10 ^ n := by
  induction n generalizing k with
  | zero => rw [pow_zero, Nat.mod_one]; rfl
  | succ n ih =>
      rw [placesText, digitsValue_append, ih, digitsValue_digitChar _ (Nat.mod_lt k (by decide)), List.length_singleton,
        pow_one, Nat.pow_succ', Nat.mod_mul]
      ring

/-- A number with places reads as the decimal that it is. -/
theorem decimal_fixed (n k : Nat) :
    decimal false (natText (k / 10 ^ n) ++ placesText n k) (-(n : Int)) = k / (10 ^ n : Nat) := by
  have hvalue : digitsValue (natText (k / 10 ^ n) ++ placesText n k) = k := by
    rw [digitsValue_append, digitsValue_natText, digitsValue_placesText, length_placesText, Nat.div_add_mod']
  rw [decimal, hvalue, if_neg Bool.false_ne_true, one_mul, zpow_neg, zpow_natCast, div_eq_mul_inv]
  push_cast
  rfl

theorem readDecimal_places (hd : ∀ c ∈ text, isDigit c = true) (hp : ∀ c ∈ digits, isDigit c = true) (hne : digits ≠ []) :
    readDecimal d (text ++ '.' :: digits) = some (d.float (decimal false (text ++ digits) (-digits.length))) := by
  have hstop : ∀ c ∈ ('.' :: digits).head?, isDigit c = false := by
    rintro c ⟨⟩
    decide
  obtain ⟨htake, hdrop⟩ := takeWhile_digits hd hstop
  have hall : digits.all isDigit = true := List.all_eq_true.mpr hp
  have hsome : text ++ digits ≠ [] := by simp [hne]
  rw [readDecimal, htake, hdrop]
  exact if_pos ⟨hall, hsome⟩

theorem readDecimal_fixedText (hq : 0 ≤ q) (hn : n ≠ 0) :
    readDecimal d (fixedText n (.num q)) =
      some (d.float ((roundHalfEven (q * (10 ^ n : Nat))).toNat / (10 ^ n : Nat))) := by
  have hne (k : Nat) : placesText n k ≠ [] := by
    intro h
    have hlen := length_placesText n k
    rw [h] at hlen
    exact hn hlen.symm
  rw [fixedText, if_neg (not_lt.mpr hq), List.nil_append, abs_of_nonneg hq,
    readDecimal_places natText_digits (placesText_digits n _) (hne _), length_placesText, decimal_fixed]

theorem digitsValue_zeros (h : ∀ c ∈ digits, c = '0') : digitsValue digits = 0 := by
  induction digits with
  | nil => rfl
  | cons c digits ih =>
      obtain ⟨rfl, hrest⟩ := List.forall_mem_cons.mp h
      have hcons := digitsValue_append ['0'] digits
      rw [List.singleton_append, ih hrest] at hcons
      rw [hcons]
      exact Nat.zero_mul _

/-- Zeros behind the last place do not change a number. -/
theorem decimal_zeros (h : ∀ c ∈ digits, c = '0') (negative : Bool) (k : Int) :
    decimal negative (text ++ digits) (k - digits.length) = decimal negative text k := by
  have hscale : ((10 ^ digits.length : Nat) : ℚ) * 10 ^ (k - digits.length) = 10 ^ k := by
    push_cast
    rw [← zpow_natCast, ← zpow_add₀ (by norm_num)]
    congr 1
    ring
  rw [decimal, decimal, digitsValue_append, digitsValue_zeros h, Nat.add_zero, Nat.cast_mul, mul_assoc, mul_assoc,
    hscale, mul_assoc]

theorem rdropWhile_zeros (digits : Text) : ∃ zeros : Text, (∀ c ∈ zeros, c = '0') ∧ digits.rdropWhile (· = '0') ++ zeros = digits := by
  refine ⟨(digits.reverse.takeWhile (· = '0')).reverse, fun c hc => ?_, ?_⟩
  · have hzero := List.mem_takeWhile_imp (List.mem_reverse.mp hc)
    exact of_decide_eq_true hzero
  · rw [List.rdropWhile, ← List.reverse_append, List.takeWhile_append_dropWhile, List.reverse_reverse]

/-- The zeros that are left out are worth nothing. -/
theorem decimal_trimZeros (negative : Bool) (digits : Text) :
    decimal negative (text ++ trimZeros digits) (-(trimZeros digits).length) =
      decimal negative (text ++ digits) (-digits.length) := by
  obtain ⟨zeros, hzeros, hdigits⟩ := rdropWhile_zeros digits
  have hdecimal (t z : Text) (hz : ∀ c ∈ z, c = '0') :
      decimal negative (text ++ (t ++ z)) (-(t ++ z).length) = decimal negative (text ++ t) (-t.length) := by
    rw [← decimal_zeros hz negative (-t.length), List.append_assoc, List.length_append]
    congr 1
    push_cast
    ring
  have hall := hdecimal (digits.rdropWhile (· = '0')) zeros hzeros
  rw [hdigits] at hall
  rw [hall, trimZeros]
  split
  · rename_i hnil
    rw [hnil]
    exact hdecimal [] ['0'] (by decide)
  · rfl

theorem fourDigits_eq (k : Nat) : fourDigits (k % 10000) = placesText 4 k := by
  have hdigits : k % 10000 / 1000 % 10 = k / 10 / 10 / 10 % 10 ∧ k % 10000 / 100 % 10 = k / 10 / 10 % 10 ∧
      k % 10000 / 10 % 10 = k / 10 % 10 ∧ k % 10000 % 10 = k % 10 := by
    omega
  simp only [fourDigits, List.map_cons, List.map_nil, placesText, List.nil_append, List.cons_append, hdigits]

/-- The encoder for four places writes a number with four places as it is. -/
theorem plainEncoder_value (k : Nat) : (plainEncoder.repr (k / 10000)).value = k / 10000 := by
  have hscaled : |(k : ℚ) / 10000| * 10000 = k := by
    rw [abs_of_nonneg (by positivity), div_mul_cancel₀ _ (by norm_num)]
  have hfloor : (|(k : ℚ) / 10000| * 10000).floor.toNat = k := by
    have hwhole : (k : ℚ).floor = k := Int.floor_natCast (R := ℚ) k
    rw [hscaled, hwhole, Int.toNat_natCast]
  have hpositive : decide ((k : ℚ) / 10000 < 0) = false := decide_eq_false (not_lt.mpr (by positivity))
  have hfixed := decimal_fixed 4 k
  have htrim : decimal false (natText (k / 10000) ++ trimZeros (placesText 4 k)) (-(trimZeros (placesText 4 k)).length) =
      decimal false (natText (k / 10000) ++ placesText 4 k) (-(placesText 4 k).length) := decimal_trimZeros false _
  rw [length_placesText] at htrim
  rw [Decimal.value, plainEncoder]
  simp only [hfloor, hpositive, fourDigits_eq, Option.getD_none, zero_sub]
  rw [htrim]
  exact hfixed.trans (by norm_num)

end RevenueRescue.Json
