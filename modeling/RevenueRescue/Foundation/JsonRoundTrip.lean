import RevenueRescue.Foundation.JsonText

namespace RevenueRescue.Json

variable {d : Decoder} {e : Encoder} {rest text : Text} {n : Nat}

theorem hexValue_hexChar : ∀ k < 16, hexValue (hexChar k) = some k := by decide

theorem hex4_hexText (h : n < 0x10000) (rest : Text) : hex4 (hexText n ++ rest) = some n := by
  have hdigit (k : Nat) : hexValue (hexChar (k % 16)) = some (k % 16) :=
    hexValue_hexChar _ (Nat.mod_lt k (by decide))
  simp only [hexText, hex4, List.cons_append, List.nil_append, hdigit, bind, Option.bind_some, Option.some.injEq]
  omega

theorem scanString_skip (k : Nat) (u rest : Text) (h : u.length = k) : scanString k (u ++ rest) = scanString 0 rest := by
  induction u generalizing k with
  | nil => rw [← h]; rfl
  | cons c u ih =>
      rw [← h]
      exact ih u.length rfl

theorem scanString_escape {x : Char} {u : Text} (h : escape (u ++ rest) = some (x, u.length)) :
    scanString 0 ('\\' :: (u ++ rest)) = (scanString 0 rest).map fun found => (x :: found.1, found.2) := by
  rw [scanString, if_neg (by decide), if_pos rfl, h]
  simp only [scanString_skip _ _ _ rfl]

theorem scalar_toNat (c : Char) : c.toNat < 0xD800 ∨ 0xDFFF < c.toNat ∧ c.toNat < 0x110000 := c.valid

theorem unicodeEscape_basic {c : Char} (h : c.toNat < 0x10000) (rest : Text) :
    unicodeEscape (hexText c.toNat ++ rest) = some (c, 4) := by
  have hscalar := scalar_toNat c
  have hhigh : isHigh c.toNat = false := by
    simp only [isHigh, decide_eq_false_iff_not]
    omega
  have hlow : isLow c.toNat = false := by
    simp only [isLow, decide_eq_false_iff_not]
    omega
  simp [unicodeEscape, hex4_hexText h, hhigh, hlow]

/-- Two escapes that make a surrogate pair are one character. -/
theorem unicodeEscape_surrogates {high low : Nat} (hh : isHigh high = true) (hl : isLow low = true) (rest : Text) :
    unicodeEscape (hexText high ++ (unicodeText low ++ rest)) =
      some (.ofNat (0x10000 + (high - 0xD800) * 0x400 + (low - 0xDC00)), 10) := by
  have hhigh : high < 0x10000 := by
    simp only [isHigh, decide_eq_true_eq] at hh
    omega
  have hlow : low < 0x10000 := by
    simp only [isLow, decide_eq_true_eq] at hl
    omega
  have hdrop (u : Text) : (hexText high ++ u).drop 4 = u := rfl
  unfold unicodeEscape
  simp only [hex4_hexText hhigh, hh, if_true, hdrop, unicodeText, List.cons_append, hex4_hexText hlow, hl]

theorem unicodeEscape_pair {c : Char} (h : ¬ c.toNat < 0x10000) (rest : Text) :
    unicodeEscape (hexText (0xD800 + (c.toNat - 0x10000) / 0x400) ++
      (unicodeText (0xDC00 + (c.toNat - 0x10000) % 0x400) ++ rest)) = some (c, 10) := by
  have hscalar := scalar_toNat c
  rw [unicodeEscape_surrogates]
  · have hvalue : 0x10000 + (0xD800 + (c.toNat - 0x10000) / 0x400 - 0xD800) * 0x400 +
        (0xDC00 + (c.toNat - 0x10000) % 0x400 - 0xDC00) = c.toNat := by
      omega
    rw [hvalue, Char.ofNat_toNat]
  · simp only [isHigh, decide_eq_true_eq]
    omega
  · simp only [isLow, decide_eq_true_eq]
    omega

theorem scanString_special (c : Char) (rest : Text) :
    scanString 0 (encodeSpecial c ++ rest) = (scanString 0 rest).map fun found => (c :: found.1, found.2) := by
  unfold encodeSpecial
  split
  · rename_i h
    refine scanString_escape (u := 'u' :: hexText c.toNat) ?_
    rw [List.cons_append, escape, unicodeEscape_basic h]
    rfl
  · rename_i h
    have hpair := unicodeEscape_pair h rest
    rw [List.append_assoc]
    refine scanString_escape (u := 'u' :: (hexText (0xD800 + (c.toNat - 0x10000) / 0x400) ++
      unicodeText (0xDC00 + (c.toNat - 0x10000) % 0x400))) ?_
    rw [List.cons_append, escape, List.append_assoc, hpair]
    rfl

/-- Whatever `json.dumps` writes for a character is read as this character. -/
theorem scanString_encodeChar (c : Char) (rest : Text) :
    scanString 0 (encodeChar c ++ rest) = (scanString 0 rest).map fun found => (c :: found.1, found.2) := by
  unfold encodeChar
  split
  · rename_i h
    simp only [isPlain, decide_eq_true_eq] at h
    obtain ⟨hlow, -, hquote, hslash⟩ := h
    simp [scanString, hquote, hslash, Nat.not_lt.mpr hlow]
  · split
    all_goals first
      | exact scanString_special _ rest
      | exact scanString_escape (u := [_]) rfl

theorem scanString_encoded (cs : List Char) (rest : Text) :
    scanString 0 (cs.flatMap encodeChar ++ '"' :: rest) = some (cs, rest) := by
  induction cs with
  | nil => simp [scanString]
  | cons c cs ih =>
      rw [List.flatMap_cons, List.append_assoc, scanString_encodeChar, ih]
      rfl

/-- What may stand behind a number, so that the number ends there. -/
def Stops (rest : Text) : Prop := ∀ c ∈ rest.head?, isDigit c = false ∧ c ≠ '.' ∧ c ≠ 'e' ∧ c ≠ 'E'

theorem natText_digits : ∀ c ∈ natText n, isDigit c = true := by
  intro c hc
  have h : c.isDigit = true := Nat.isDigit_of_mem_toDigits (by decide) (by decide) hc
  rw [Char.isDigit, Bool.and_eq_true, decide_eq_true_eq, decide_eq_true_eq] at h
  exact decide_eq_true h

theorem digitsValue_natText (n : Nat) : digitsValue (natText n) = n := by
  have h : digitsValue (natText n) = Nat.ofDigitChars 10 (natText n) 0 := by
    simp only [digitsValue, Nat.ofDigitChars, Nat.mul_comm 10]
    rfl
  rw [h, natText, Nat.ofDigitChars_ten_toDigits]

theorem natText_leading (n : Nat) : natText n = ['0'] ∨ ∃ c cs, natText n = c :: cs ∧ c ≠ '0' := by
  induction n using Nat.strong_induction_on with
  | h n ih =>
      rw [natText, Nat.toDigits_eq_if (by decide)]
      split
      · rename_i hlt
        rcases n with _ | n
        · exact .inl rfl
        · have hne : ∀ k < 9, Nat.digitChar (k + 1) ≠ '0' := by decide
          exact .inr ⟨_, [], rfl, hne n (by omega)⟩
      · rename_i hge
        have hpos : n / 10 ≠ 0 := by omega
        rcases ih (n / 10) (by omega) with h | ⟨c, cs, h, hc⟩
        · have hvalue := digitsValue_natText (n / 10)
          rw [h] at hvalue
          exact absurd hvalue.symm hpos
        · exact .inr ⟨c, cs ++ [_], by rw [← natText, h, List.cons_append], hc⟩

theorem takeWhile_digits {digits : Text} (hd : ∀ c ∈ digits, isDigit c = true)
    (hr : ∀ c ∈ rest.head?, isDigit c = false) :
    (digits ++ rest).takeWhile isDigit = digits ∧ (digits ++ rest).dropWhile isDigit = rest := by
  have hrest : rest.takeWhile isDigit = [] ∧ rest.dropWhile isDigit = rest := by
    cases rest with
    | nil => exact ⟨rfl, rfl⟩
    | cons c cs =>
        have hc := hr c rfl
        exact ⟨List.takeWhile_cons_of_neg (by simp [hc]), List.dropWhile_cons_of_neg (by simp [hc])⟩
  rw [List.takeWhile_append_of_pos hd, List.dropWhile_append_of_pos hd, hrest.1, hrest.2, List.append_nil]
  exact ⟨rfl, rfl⟩

theorem digit_ne {c : Char} (h : isDigit c = true) :
    c ≠ '-' ∧ c ≠ '+' ∧ c ≠ '"' ∧ c ≠ '{' ∧ c ≠ '[' ∧ c ≠ 'n' ∧ c ≠ 't' ∧ c ≠ 'f' ∧ c ≠ 'N' ∧ c ≠ 'I' := by
  refine ⟨?_, ?_, ?_, ?_, ?_, ?_, ?_, ?_, ?_, ?_⟩ <;> (rintro rfl; revert h; decide)

theorem scanNumber_natText (negative : Bool) (hr : ∀ c ∈ rest.head?, isDigit c = false) :
    scanNumber d ((if negative then ['-'] else []) ++ natText n ++ rest) =
      some (scanUnsigned d negative (natText n) rest) := by
  have hunsigned : (match natText n ++ rest with
      | '0' :: rest => some (scanUnsigned d negative ['0'] rest)
      | c :: rest =>
          if isDigit c then
            some (scanUnsigned d negative (c :: rest.takeWhile isDigit) (rest.dropWhile isDigit))
          else none
      | [] => none) = some (scanUnsigned d negative (natText n) rest) := by
    rcases natText_leading n with h | ⟨c, cs, h, hc⟩
    · rw [h]
      rfl
    · have hdigits : ∀ x ∈ c :: cs, isDigit x = true := h ▸ natText_digits
      obtain ⟨htake, hdrop⟩ := takeWhile_digits (fun x hx => hdigits x (List.mem_cons_of_mem c hx)) hr
      rw [h, List.cons_append]
      split
      · rename_i heq
        exact absurd (List.cons.inj heq).1 hc
      · rename_i heq
        obtain ⟨rfl, rfl⟩ := List.cons.inj heq
        rw [if_pos (hdigits _ List.mem_cons_self), htake, hdrop]
      · rename_i heq
        cases heq
  have hhead : (natText n ++ rest).head? ≠ some '-' := by
    rcases natText_leading n with h | ⟨c, cs, h, -⟩
    · simp [h]
    · have hc : isDigit c = true := natText_digits c (h ▸ List.mem_cons_self)
      simp [h, (digit_ne hc).1]
  cases negative with
  | true => exact hunsigned
  | false =>
      rw [scanNumber]
      simp only [Bool.false_eq_true, if_false, List.nil_append, hhead, decide_false]
      exact hunsigned

theorem scanFraction_none (h : ∀ c ∈ text.head?, c ≠ '.') : scanFraction text = (none, text) := by
  unfold scanFraction
  split
  · exact absurd rfl (h '.' rfl)
  · rfl

theorem scanFraction_places {places : Text} (hne : places ≠ []) (hd : ∀ c ∈ places, isDigit c = true)
    (hr : ∀ c ∈ rest.head?, isDigit c = false) : scanFraction ('.' :: (places ++ rest)) = (some places, rest) := by
  obtain ⟨htake, hdrop⟩ := takeWhile_digits hd hr
  simp only [scanFraction, htake, hdrop, hne, if_false]

theorem scanExponent_none (h : ∀ c ∈ text.head?, c ≠ 'e' ∧ c ≠ 'E') : scanExponent text = (none, text) := by
  cases text with
  | nil => rfl
  | cons c cs =>
      have hc := h c rfl
      rw [scanExponent, if_neg (by simp [hc.1, hc.2])]

theorem scanExponent_exponentText (k : Int) (hr : ∀ c ∈ rest.head?, isDigit c = false) :
    scanExponent (exponentText k ++ rest) = (some k, rest) := by
  have hdigits : ∀ c ∈ (if k.natAbs < 10 then ['0'] else []) ++ natText k.natAbs, isDigit c = true := by
    intro c hc
    rcases List.mem_append.mp hc with hc | hc
    · split at hc
      · rw [List.mem_singleton.mp hc]
        decide
      · cases hc
    · exact natText_digits c hc
  have hvalue : digitsValue ((if k.natAbs < 10 then ['0'] else []) ++ natText k.natAbs) = k.natAbs := by
    split
    · exact digitsValue_natText k.natAbs
    · exact digitsValue_natText k.natAbs
  have hne : (if k.natAbs < 10 then ['0'] else []) ++ natText k.natAbs ≠ [] := by
    simp [natText]
  obtain ⟨htake, hdrop⟩ := takeWhile_digits hdigits hr
  have hsign : scanSign ((if k < 0 then '-' else '+') ::
      ((if k.natAbs < 10 then ['0'] else []) ++ natText k.natAbs ++ rest)) =
      (decide (k < 0), (if k.natAbs < 10 then ['0'] else []) ++ natText k.natAbs ++ rest) := by
    by_cases hk : k < 0 <;> simp [scanSign, hk]
  simp only [exponentText, List.cons_append, scanExponent, true_or, if_true, hsign, htake, hdrop, hne, if_false,
    hvalue, Prod.mk.injEq, and_true, Option.some.injEq]
  by_cases hk : k < 0
  · simp only [hk, decide_true, if_true]
    omega
  · simp only [hk, decide_false, Bool.false_eq_true, if_false]
    omega

theorem Stops.noDigit (h : Stops rest) : ∀ c ∈ rest.head?, isDigit c = false := fun c hc => (h c hc).1

theorem scanUnsigned_int (negative : Bool) (digits : Text) (h : Stops rest) :
    scanUnsigned d negative digits rest =
      (.int (if negative then -(digitsValue digits : Int) else digitsValue digits), rest) := by
  have hf : scanFraction rest = (none, rest) := scanFraction_none fun c hc => (h c hc).2.1
  have he : scanExponent rest = (none, rest) := scanExponent_none fun c hc => (h c hc).2.2
  simp only [scanUnsigned, hf, he]

theorem scanNumber_intText (n : Int) (h : Stops rest) : scanNumber d (intText n ++ rest) = some (.int n, rest) := by
  have hnumber := scanNumber_natText (d := d) (n := n.natAbs) (decide (n < 0)) h.noDigit
  rw [scanUnsigned_int _ _ h, digitsValue_natText] at hnumber
  simp only [decide_eq_true_eq] at hnumber
  rw [intText, hnumber]
  congr 3
  split <;> omega

/-- What stands behind the integer part of a float. -/
def Decimal.tail (x : Decimal) : Text :=
  (if x.places = [] then [] else '.' :: x.places) ++ (x.exponent.map exponentText).getD []

theorem scanExponent_tail (x : Option Int) (h : Stops rest) :
    scanExponent ((x.map exponentText).getD [] ++ rest) = (x, rest) := by
  cases x with
  | none => exact scanExponent_none fun c hc => (h c hc).2.2
  | some k => exact scanExponent_exponentText k h.noDigit

theorem exponent_noDigit (x : Option Int) (h : Stops rest) :
    ∀ c ∈ ((x.map exponentText).getD [] ++ rest).head?, isDigit c = false ∧ c ≠ '.' := by
  cases x with
  | none => exact fun c hc => ⟨(h c hc).1, (h c hc).2.1⟩
  | some k =>
      intro c hc
      obtain rfl : 'e' = c := Option.some.inj hc
      decide

theorem scanFraction_tail (x : Decimal) (h : Stops rest) :
    scanFraction (x.tail ++ rest) =
      (if x.places = [] then none else some x.places, (x.exponent.map exponentText).getD [] ++ rest) := by
  have hexponent := exponent_noDigit x.exponent h
  unfold Decimal.tail
  by_cases hp : x.places = []
  · simp only [hp, if_true, List.nil_append]
    exact scanFraction_none fun c hc => (hexponent c hc).2
  · simp only [hp, if_false, List.cons_append, List.append_assoc]
    exact scanFraction_places hp x.places_digits fun c hc => (hexponent c hc).1

theorem tail_noDigit (x : Decimal) (h : Stops rest) : ∀ c ∈ (x.tail ++ rest).head?, isDigit c = false := by
  intro c hc
  unfold Decimal.tail at hc
  by_cases hp : x.places = []
  · simp only [hp, if_true, List.nil_append] at hc
    exact (exponent_noDigit x.exponent h c hc).1
  · simp only [hp, if_false, List.cons_append] at hc
    obtain rfl : '.' = c := Option.some.inj hc
    decide

theorem scanNumber_decimal (x : Decimal) (h : Stops rest) :
    scanNumber d (x.text ++ rest) = some (.float (d.float x.value), rest) := by
  have htext : x.text ++ rest = (if x.negative then ['-'] else []) ++ natText x.whole ++ (x.tail ++ rest) := by
    simp [Decimal.text, Decimal.tail]
  rw [htext, scanNumber_natText x.negative (tail_noDigit x h)]
  simp only [scanUnsigned, scanFraction_tail x h, scanExponent_tail x.exponent h, Decimal.value]
  by_cases hp : x.places = []
  · obtain ⟨k, hk⟩ := Option.isSome_iff_exists.mp (x.marked.resolve_left (not_not.mpr hp))
    simp [hp, hk]
  · simp [hp]

/-- The text of a number starts with a digit, a sign apart. -/
def Numeric (text : Text) : Prop :=
  ∃ c cs, isDigit c = true ∧ (text = c :: cs ∨ text = '-' :: c :: cs)

theorem numeric_natText (negative : Bool) (n : Nat) (rest : Text) :
    Numeric ((if negative then ['-'] else []) ++ natText n ++ rest) := by
  obtain ⟨c, cs, h⟩ : ∃ c cs, natText n = c :: cs := List.exists_cons_of_ne_nil Nat.toDigits_ne_nil
  refine ⟨c, cs ++ rest, natText_digits c (h ▸ List.mem_cons_self), ?_⟩
  cases negative with
  | false => exact .inl (by simp [h])
  | true => exact .inr (by simp [h])

theorem scanConstant_numeric (h : Numeric text) : scanConstant text = none := by
  obtain ⟨c, cs, hc, h⟩ := h
  obtain ⟨-, -, -, -, -, hn, ht, hf, hN, hI⟩ := digit_ne hc
  rcases h with rfl | rfl <;>
    simp [scanConstant, constants, List.isPrefixOf?, (digit_ne hc).1.symm, hn.symm, ht.symm, hf.symm, hN.symm, hI.symm]

theorem scanValue_numeric (fuel depth : Nat) (h : Numeric text) :
    scanValue d (fuel + 1) depth text = scanNumber d text := by
  have hconstant := scanConstant_numeric h
  obtain ⟨c, cs, hc, h⟩ := h
  obtain ⟨-, -, hquote, hbrace, hbracket, -⟩ := digit_ne hc
  rcases h with rfl | rfl
  · rw [scanValue]
    simp only [hquote, hbrace, hbracket, if_false, hconstant, Option.none_or]
  · rw [scanValue]
    simp only [hconstant, Option.none_or, show ('-' : Char) ≠ '"' by decide, show ('-' : Char) ≠ '{' by decide,
      show ('-' : Char) ≠ '[' by decide, if_false]

theorem skip_cons {c : Char} (h : isWhitespace c = false) (cs : Text) : skip (c :: cs) = c :: cs :=
  List.dropWhile_cons_of_neg (by simp [h])

theorem skip_blank (cs : Text) : skip (' ' :: cs) = skip cs := List.dropWhile_cons_of_pos (by decide)

theorem numeric_floatText (q : ℚ) (rest : Text) : Numeric ((e.repr q).text ++ rest) := by
  have h := numeric_natText (e.repr q).negative (e.repr q).whole ((e.repr q).tail ++ rest)
  simpa [Decimal.text, Decimal.tail] using h

theorem numeric_intText (n : Int) (rest : Text) : Numeric (intText n ++ rest) := by
  have h := numeric_natText (decide (n < 0)) n.natAbs rest
  simpa [intText] using h

/-- A character that starts a value: no blank, no mark and no end of a container. -/
def Opens (c : Char) : Prop := isWhitespace c = false ∧ c ≠ ']' ∧ c ≠ '}' ∧ c ≠ '\uFEFF'

instance (c : Char) : Decidable (Opens c) := inferInstanceAs (Decidable (_ ∧ _))

theorem opens_digit {c : Char} (hc : isDigit c = true) : Opens c := by
  refine ⟨?_, ?_, ?_, ?_⟩
  · simp only [isWhitespace, decide_eq_false_iff_not]
    intro hm
    simp only [List.mem_cons, List.not_mem_nil, or_false] at hm
    rcases hm with rfl | rfl | rfl | rfl <;> exact absurd hc (by decide)
  all_goals (rintro rfl; exact absurd hc (by decide))

theorem Numeric.head (h : Numeric text) : ∃ c cs, text = c :: cs ∧ Opens c := by
  obtain ⟨c, cs, hc, rfl | rfl⟩ := h
  · exact ⟨c, cs, rfl, opens_digit hc⟩
  · exact ⟨'-', c :: cs, rfl, by decide⟩

theorem dumps_head (v : PyValue) (rest : Text) : ∃ c cs, dumps e v ++ rest = c :: cs ∧ Opens c := by
  cases v with
  | none => exact ⟨'n', _, rfl, by decide⟩
  | bool b => cases b <;> exact ⟨_, _, rfl, by decide⟩
  | int n => rw [dumps]; exact (numeric_intText n rest).head
  | float x =>
      cases x with
      | num q => rw [dumps, floatText]; exact (numeric_floatText q rest).head
      | posInf | negInf | nan => exact ⟨_, _, rfl, by decide⟩
  | str s => exact ⟨'"', _, rfl, by decide⟩
  | list xs => exact ⟨'[', _, rfl, by decide⟩
  | dict kvs => exact ⟨'{', _, rfl, by decide⟩

theorem skip_dumps (v : PyValue) (rest : Text) : skip (dumps e v ++ rest) = dumps e v ++ rest := by
  obtain ⟨c, cs, h, hc, -⟩ := dumps_head (e := e) v rest
  rw [h, skip_cons hc]

theorem elementsText_false {xs : List PyValue} (h : xs ≠ []) :
    elementsText e false xs = ',' :: ' ' :: elementsText e true xs := by
  cases xs with
  | nil => exact absurd rfl h
  | cons x xs => rfl

theorem membersText_false {kvs : List (String × PyValue)} (h : kvs ≠ []) :
    membersText e false kvs = ',' :: ' ' :: membersText e true kvs := by
  cases kvs with
  | nil => exact absurd rfl h
  | cons kv kvs => rfl

theorem stops_cons {c : Char} (h : c = ',' ∨ c = ']' ∨ c = '}') (cs : Text) : Stops (c :: cs) := by
  intro x hx
  obtain rfl : c = x := Option.some.inj hx
  rcases h with rfl | rfl | rfl <;> decide

theorem setItem_fresh {kvs : List (String × PyValue)} {k : String} (h : k ∉ kvs.map Prod.fst) (v : PyValue) :
    setItem kvs k v = kvs ++ [(k, v)] := by
  have hcontains : PyValue.contains kvs k = false := by
    simp only [PyValue.contains, List.any_eq_false, decide_eq_true_eq]
    exact fun kv hkv hk => h (hk ▸ List.mem_map_of_mem hkv)
  rw [setItem, hcontains]
  rfl

theorem scanValue_encodeString (s : String) (fuel depth : Nat) (rest : Text) :
    scanValue d (fuel + 1) depth (encodeString s ++ rest) = some (.str s, rest) := by
  have hscan := scanString_encoded s.toList rest
  simp only [encodeString, List.cons_append, List.append_assoc, List.nil_append, scanValue, if_true, hscan,
    Option.map_some, String.ofList_toList]

/-- A value that is not a container. -/
theorem scanValue_leaf {v : PyValue} (h : ReadsFloats d.float e v) (hl : nesting v = 0) (fuel depth : Nat) (hr : Stops rest) :
    scanValue d (fuel + 1) depth (dumps e v ++ rest) = some (v, rest) := by
  cases v with
  | none => rfl
  | bool b => cases b <;> rfl
  | int n => rw [dumps, scanValue_numeric fuel depth (numeric_intText n rest), scanNumber_intText n hr]
  | float x =>
      cases x with
      | num q =>
          rw [dumps, floatText, scanValue_numeric fuel depth (numeric_floatText q rest), scanNumber_decimal _ hr]
          rw [ReadsFloats] at h
          rw [h]
      | posInf | negInf | nan => rfl
  | str s => rw [dumps]; exact scanValue_encodeString s fuel depth rest
  | list xs => simp [nesting] at hl
  | dict kvs => simp [nesting] at hl

section

variable {x : PyValue} {xs : List PyValue} {kvs : List (String × PyValue)} {k : String} {fuel depth : Nat}

theorem scanElements_none (h : scanValue d fuel depth text = none) : scanElements d (fuel + 1) depth xs text = none := by
  rw [scanElements, h]
  rfl

theorem scanElements_last (h : scanValue d fuel depth text = some (x, ']' :: rest)) :
    scanElements d (fuel + 1) depth xs text = some (.list (xs ++ [x]), rest) := by
  rw [scanElements, h]
  simp only [bind, Option.bind_some, skip_cons (show isWhitespace ']' = false by decide)]

theorem scanElements_more (h : scanValue d fuel depth text = some (x, ',' :: ' ' :: rest)) (hs : skip rest = rest) :
    scanElements d (fuel + 1) depth xs text = scanElements d fuel depth (xs ++ [x]) rest := by
  rw [scanElements, h]
  simp only [bind, Option.bind_some, skip_cons (show isWhitespace ',' = false by decide), skip_blank, hs]

theorem scanString_key (k : String) (rest : Text) :
    scanString 0 (k.toList.flatMap encodeChar ++ '"' :: (':' :: ' ' :: rest)) = some (k.toList, ':' :: ' ' :: rest) :=
  scanString_encoded k.toList _

theorem scanMembers_none (hs : skip text = text) (h : scanValue d fuel depth text = none) :
    scanMembers d (fuel + 1) depth kvs (encodeString k ++ ':' :: ' ' :: text) = none := by
  simp only [encodeString, List.cons_append, List.append_assoc, List.nil_append, scanMembers, scanString_key, bind,
    Option.bind_some, skip_cons (show isWhitespace ':' = false by decide), skip_blank, hs, h, Option.bind_none]

theorem scanMembers_last (hs : skip text = text) (h : scanValue d fuel depth text = some (x, '}' :: rest)) :
    scanMembers d (fuel + 1) depth kvs (encodeString k ++ ':' :: ' ' :: text) = some (.dict (setItem kvs k x), rest) := by
  simp only [encodeString, List.cons_append, List.append_assoc, List.nil_append, scanMembers, scanString_key, bind,
    Option.bind_some, skip_cons (show isWhitespace ':' = false by decide), skip_blank, hs, h, String.ofList_toList,
    skip_cons (show isWhitespace '}' = false by decide)]

theorem scanMembers_more (hs : skip text = text) (h : scanValue d fuel depth text = some (x, ',' :: ' ' :: rest))
    (hr : skip rest = rest) :
    scanMembers d (fuel + 1) depth kvs (encodeString k ++ ':' :: ' ' :: text) =
      scanMembers d fuel depth (setItem kvs k x) rest := by
  simp only [encodeString, List.cons_append, List.append_assoc, List.nil_append, scanMembers, scanString_key, bind,
    Option.bind_some, skip_cons (show isWhitespace ':' = false by decide), skip_blank, hs, h, String.ofList_toList,
    skip_cons (show isWhitespace ',' = false by decide), hr]

end

theorem skip_elementsText (xs : List PyValue) (rest : Text) :
    skip (elementsText e true xs ++ ']' :: rest) = elementsText e true xs ++ ']' :: rest := by
  cases xs with
  | nil => exact skip_cons (by decide) rest
  | cons x xs => rw [elementsText, if_pos rfl, List.nil_append, List.append_assoc, skip_dumps]

theorem skip_membersText (kvs : List (String × PyValue)) (rest : Text) :
    skip (membersText e true kvs ++ '}' :: rest) = membersText e true kvs ++ '}' :: rest := by
  cases kvs with
  | nil => exact skip_cons (by decide) rest
  | cons kv kvs => exact skip_cons (by decide) _

theorem scanValue_too_deep {c : Char} (hc : c = '[' ∨ c = '{') (fuel : Nat) (text : Text) :
    scanValue d (fuel + 1) 0 (c :: text) = none := by
  rcases hc with rfl | rfl <;> rfl

/-- An opened list whose first character closes nothing. -/
theorem scanValue_list {fuel depth : Nat} (hd : depth ≠ 0) (hs : skip text = text)
    (hc : ∀ c ∈ text.head?, c ≠ ']') :
    scanValue d (fuel + 1) depth ('[' :: text) = scanElements d fuel (depth - 1) [] text := by
  rw [scanValue]
  simp only [show ('[' : Char) ≠ '"' by decide, show ('[' : Char) ≠ '{' by decide, hd, if_false, if_true, hs]
  split
  · exact absurd rfl (hc ']' rfl)
  · rfl

theorem scanValue_dict {fuel depth : Nat} (hd : depth ≠ 0) (hs : skip text = text)
    (hc : ∀ c ∈ text.head?, c ≠ '}') :
    scanValue d (fuel + 1) depth ('{' :: text) = scanMembers d fuel (depth - 1) [] text := by
  rw [scanValue]
  simp only [show ('{' : Char) ≠ '"' by decide, hd, if_false, if_true, hs]
  split
  · exact absurd rfl (hc '}' rfl)
  · rfl

theorem elementsText_head {xs : List PyValue} (h : xs ≠ []) (rest : Text) :
    ∀ c ∈ (elementsText e true xs ++ rest).head?, c ≠ ']' := by
  obtain ⟨x, xs, rfl⟩ := List.exists_cons_of_ne_nil h
  obtain ⟨c, cs, hc, -, hb, -⟩ := dumps_head (e := e) x (elementsText e false xs ++ rest)
  rw [elementsText, if_pos rfl, List.nil_append, List.append_assoc, hc]
  exact fun y hy => Option.some.inj hy ▸ hb

theorem membersText_head {kvs : List (String × PyValue)} (h : kvs ≠ []) (rest : Text) :
    ∀ c ∈ (membersText e true kvs ++ rest).head?, c ≠ '}' := by
  obtain ⟨kv, kvs, rfl⟩ := List.exists_cons_of_ne_nil h
  exact fun y hy => Option.some.inj hy ▸ (by decide : ('"' : Char) ≠ '}')

theorem length_dumps_pos (v : PyValue) : (dumps e v).length ≠ 0 := by
  obtain ⟨c, cs, hc, -⟩ := dumps_head (e := e) v []
  rw [List.append_nil] at hc
  simp [hc]

mutual

/-- What `json.dumps` writes for a value is read whatever follows, unless the value is nested too deep. -/
theorem scanValue_dumps (v : PyValue) (h : ReadsFloats d.float e v) (fuel depth : Nat) (hf : (dumps e v).length ≤ fuel)
    (rest : Text) (hr : Stops rest) :
    scanValue d fuel depth (dumps e v ++ rest) = if nesting v ≤ depth then some (collapse v, rest) else none := by
  have hpos := length_dumps_pos (e := e) v
  obtain ⟨fuel, rfl⟩ : ∃ k, fuel = k + 1 := Nat.exists_eq_succ_of_ne_zero (by omega)
  match v with
  | .none | .bool _ | .int _ | .float _ | .str _ =>
      exact (scanValue_leaf h rfl fuel depth hr).trans (if_pos (Nat.zero_le depth)).symm
  | .list xs =>
      simp only [dumps, List.length_cons, List.length_append, List.length_nil] at hf
      rw [dumps, List.cons_append, List.append_assoc, List.singleton_append, nesting, collapse]
      cases depth with
      | zero => exact scanValue_too_deep (.inl rfl) fuel _
      | succ depth =>
          by_cases hxs : xs = []
          · subst hxs
            simp [elementsText, scanValue, collapseElements, nestingElements, skip_cons,
              show isWhitespace ']' = false by decide]
          · have helements := scanElements_text xs hxs h fuel depth (by omega) [] rest
            rw [scanValue_list (Nat.succ_ne_zero depth) (skip_elementsText xs rest) (elementsText_head hxs _),
              Nat.succ_sub_one, helements, List.nil_append]
            simp only [Nat.add_le_add_iff_right]
  | .dict kvs =>
      simp only [dumps, List.length_cons, List.length_append, List.length_nil] at hf
      rw [dumps, List.cons_append, List.append_assoc, List.singleton_append, nesting, collapse]
      cases depth with
      | zero => exact scanValue_too_deep (.inr rfl) fuel _
      | succ depth =>
          by_cases hkvs : kvs = []
          · subst hkvs
            simp [membersText, scanValue, collapseMembers, nestingMembers, skip_cons,
              show isWhitespace '}' = false by decide]
          · have hmembers := scanMembers_text kvs hkvs h fuel depth (by omega) [] rest
            rw [scanValue_dict (Nat.succ_ne_zero depth) (skip_membersText kvs rest) (membersText_head hkvs _),
              Nat.succ_sub_one, hmembers]
            simp only [Nat.add_le_add_iff_right]

theorem scanElements_text (xs : List PyValue) (hne : xs ≠ []) (h : ReadsFloatsElements d.float e xs) (fuel depth : Nat)
    (hf : (elementsText e true xs).length + 1 ≤ fuel) (acc : List PyValue) (rest : Text) :
    scanElements d fuel depth acc (elementsText e true xs ++ ']' :: rest) =
      if nestingElements xs ≤ depth then some (.list (acc ++ collapseElements xs), rest) else none := by
  match xs with
  | [] => exact absurd rfl hne
  | x :: xs =>
      obtain ⟨fuel, rfl⟩ : ∃ k, fuel = k + 1 := Nat.exists_eq_succ_of_ne_zero (by omega)
      simp only [elementsText, if_true, List.nil_append, List.length_append] at hf
      have hvalue := scanValue_dumps x h.1 fuel depth (by omega)
      rw [elementsText, if_pos rfl, List.nil_append, List.append_assoc]
      simp only [nestingElements, max_le_iff, collapseElements]
      by_cases hx : nesting x ≤ depth
      · simp only [hx, if_true, true_and] at hvalue ⊢
        by_cases hxs : xs = []
        · subst hxs
          exact scanElements_last (hvalue (']' :: rest) (stops_cons (by simp) rest))
        · rw [elementsText_false hxs] at hf ⊢
          simp only [List.length_cons] at hf
          have hrest := scanElements_text xs hxs h.2 fuel depth (by omega) (acc ++ [collapse x]) rest
          rw [List.cons_append, List.cons_append, scanElements_more (hvalue _ (stops_cons (by simp) _))
            (skip_elementsText xs rest), hrest, List.append_assoc, List.singleton_append]
      · simp only [hx, if_false, false_and] at hvalue ⊢
        by_cases hxs : xs = []
        · subst hxs
          exact scanElements_none (hvalue (']' :: rest) (stops_cons (by simp) rest))
        · rw [elementsText_false hxs, List.cons_append, List.cons_append]
          exact scanElements_none (hvalue _ (stops_cons (by simp) _))

theorem scanMembers_text (kvs : List (String × PyValue)) (hne : kvs ≠ []) (h : ReadsFloatsMembers d.float e kvs)
    (fuel depth : Nat) (hf : (membersText e true kvs).length + 1 ≤ fuel) (acc : List (String × PyValue)) (rest : Text) :
    scanMembers d fuel depth acc (membersText e true kvs ++ '}' :: rest) =
      if nestingMembers kvs ≤ depth then some (.dict (collapseMembers acc kvs), rest) else none := by
  match kvs with
  | [] => exact absurd rfl hne
  | (k, x) :: kvs =>
      obtain ⟨fuel, rfl⟩ : ∃ j, fuel = j + 1 := Nat.exists_eq_succ_of_ne_zero (by omega)
      simp only [membersText, if_true, List.nil_append, List.length_append, List.length_cons] at hf
      have hvalue := scanValue_dumps x h.1 fuel depth (by omega)
      rw [membersText, if_pos rfl, List.nil_append, List.append_assoc, List.cons_append, List.cons_append,
        List.append_assoc]
      simp only [nestingMembers, max_le_iff, collapseMembers]
      by_cases hx : nesting x ≤ depth
      · simp only [hx, if_true, true_and] at hvalue ⊢
        by_cases hkvs : kvs = []
        · subst hkvs
          exact scanMembers_last (skip_dumps x _) (hvalue ('}' :: rest) (stops_cons (by simp) rest))
        · rw [membersText_false hkvs] at hf ⊢
          simp only [List.length_cons] at hf
          have hrest := scanMembers_text kvs hkvs h.2 fuel depth (by omega) (setItem acc k (collapse x)) rest
          rw [List.cons_append, List.cons_append,
            scanMembers_more (skip_dumps x _) (hvalue _ (stops_cons (by simp) _)) (skip_membersText kvs rest), hrest]
      · simp only [hx, if_false, false_and] at hvalue ⊢
        by_cases hkvs : kvs = []
        · subst hkvs
          exact scanMembers_none (skip_dumps x _) (hvalue ('}' :: rest) (stops_cons (by simp) rest))
        · rw [membersText_false hkvs, List.cons_append, List.cons_append]
          exact scanMembers_none (skip_dumps x _) (hvalue _ (stops_cons (by simp) _))

end

mutual

/-- Every container writes its brackets. -/
theorem nesting_le_length (v : PyValue) : nesting v ≤ (dumps e v).length := by
  match v with
  | .none | .bool _ | .int _ | .float _ | .str _ => exact Nat.zero_le _
  | .list xs =>
      have hxs := nestingElements_le_length xs true
      simp only [nesting, dumps, List.length_cons, List.length_append, List.length_nil]
      omega
  | .dict kvs =>
      have hkvs := nestingMembers_le_length kvs true
      simp only [nesting, dumps, List.length_cons, List.length_append, List.length_nil]
      omega

theorem nestingElements_le_length (xs : List PyValue) (first : Bool) :
    nestingElements xs ≤ (elementsText e first xs).length := by
  match xs with
  | [] => exact Nat.zero_le _
  | x :: xs =>
      have hx := nesting_le_length x
      have hxs := nestingElements_le_length xs false
      simp only [nestingElements, elementsText, List.length_append]
      omega

theorem nestingMembers_le_length (kvs : List (String × PyValue)) (first : Bool) :
    nestingMembers kvs ≤ (membersText e first kvs).length := by
  match kvs with
  | [] => exact Nat.zero_le _
  | (k, x) :: kvs =>
      have hx := nesting_le_length x
      have hkvs := nestingMembers_le_length kvs false
      simp only [nestingMembers, membersText, List.length_append, List.length_cons]
      omega

end

/-- Decoding what was encoded gives the value with its last duplicates, or fails by its nesting. -/
theorem loads_dumps_collapse {v : PyValue} (h : ReadsFloats d.float e v) :
    loads d (dumps e v) = if nesting v ≤ d.depth then some (collapse v) else none := by
  have hscan := scanValue_dumps v h ((dumps e v).length + 1) d.depth (by omega) [] (by simp [Stops])
  have hskip := skip_dumps (e := e) v []
  rw [List.append_nil] at hscan hskip
  have hmark : (dumps e v).head? ≠ some '\uFEFF' := by
    obtain ⟨c, cs, hc, -, -, -, hne⟩ := dumps_head (e := e) v []
    rw [List.append_nil] at hc
    simp [hc, hne]
  rw [loads, if_neg hmark, hskip, hscan]
  by_cases hd : nesting v ≤ d.depth
  · simp only [hd, if_true]
    rfl
  · simp only [hd, if_false]

mutual

/-- Distinct keys leave nothing to collapse. -/
theorem ReadsBack.collapse_eq (v : PyValue) (h : ReadsBack d e v) : ReadsFloats d.float e v ∧ collapse v = v := by
  match v with
  | .none | .bool _ | .int _ | .str _ => exact ⟨trivial, rfl⟩
  | .float x => cases x <;> exact ⟨h, rfl⟩
  | .list xs =>
      obtain ⟨hfloats, heq⟩ := readsBackElements_collapse xs h
      exact ⟨hfloats, by rw [collapse, heq]⟩
  | .dict kvs =>
      obtain ⟨hfloats, heq⟩ := readsBackMembers_collapse kvs h.2 [] (by simpa using h.1)
      exact ⟨hfloats, by rw [collapse, heq, List.nil_append]⟩

theorem readsBackElements_collapse (xs : List PyValue) (h : ReadsBackElements d e xs) :
    ReadsFloatsElements d.float e xs ∧ collapseElements xs = xs := by
  match xs with
  | [] => exact ⟨trivial, rfl⟩
  | x :: xs =>
      obtain ⟨hx, hxeq⟩ := ReadsBack.collapse_eq x h.1
      obtain ⟨hxs, hxseq⟩ := readsBackElements_collapse xs h.2
      exact ⟨⟨hx, hxs⟩, by rw [collapseElements, hxeq, hxseq]⟩

theorem readsBackMembers_collapse (kvs : List (String × PyValue)) (h : ReadsBackMembers d e kvs)
    (acc : List (String × PyValue)) (hk : ((acc ++ kvs).map Prod.fst).Nodup) :
    ReadsFloatsMembers d.float e kvs ∧ collapseMembers acc kvs = acc ++ kvs := by
  match kvs with
  | [] => exact ⟨trivial, (List.append_nil acc).symm⟩
  | (k, x) :: kvs =>
      obtain ⟨hx, hxeq⟩ := ReadsBack.collapse_eq x h.1
      have hfresh : k ∉ acc.map Prod.fst := by
        rw [List.map_append, List.nodup_append'] at hk
        exact fun hm => hk.2.2 hm List.mem_cons_self
      obtain ⟨hkvs, heq⟩ := readsBackMembers_collapse kvs h.2 (acc ++ [(k, x)])
        (by rwa [List.append_assoc, List.singleton_append])
      exact ⟨⟨hx, hkvs⟩, by rw [collapseMembers, hxeq, setItem_fresh hfresh, heq, List.append_assoc, List.singleton_append]⟩

end

/-- Decoding what was encoded gives the value back. -/
theorem loads_dumps {v : PyValue} (h : ReadsBack d e v) (hd : nesting v ≤ d.depth) : loads d (dumps e v) = some v := by
  obtain ⟨hfloats, heq⟩ := ReadsBack.collapse_eq v h
  rw [loads_dumps_collapse hfloats, if_pos hd, heq]

end RevenueRescue.Json
