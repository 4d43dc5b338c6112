import RevenueRescue.Foundation.JsonRoundTrip

namespace RevenueRescue.Json

def literals : List Text := [['n', 'u', 'l', 'l'], ['t', 'r', 'u', 'e'], ['f', 'a', 'l', 's', 'e']]

def strictLiteral (text : Text) : Option Text := literals.findSome? fun literal => literal.isPrefixOf? text

/-- The rest after a number, whose value does not matter. -/
def strictNumber (text : Text) : Option Text := (scanNumber ⟨.num, 0⟩ text).map Prod.snd

mutual

/-- The rest after one value of the JSON grammar, where `NaN` and `Infinity` are no literals. The number bounds the
recursion. -/
def strictValue : Nat → Text → Option Text
  | 0, _ => none
  | fuel + 1, text =>
      match text with
      | [] => none
      | c :: cs =>
          if c = '"' then (scanString 0 cs).map Prod.snd
          else if c = '{' then
            match skip cs with
            | '}' :: rest => some rest
            | rest => strictMembers fuel rest
          else if c = '[' then
            match skip cs with
            | ']' :: rest => some rest
            | rest => strictElements fuel rest
          else (strictLiteral text).or (strictNumber text)

def strictMembers : Nat → Text → Option Text
  | 0, _ => none
  | fuel + 1, text => do
      let '"' :: quoted := text | none
      let (_, afterKey) ← scanString 0 quoted
      let ':' :: afterColon := skip afterKey | none
      let afterValue ← strictValue fuel (skip afterColon)
      match skip afterValue with
      | '}' :: rest => some rest
      | ',' :: rest => strictMembers fuel (skip rest)
      | _ => none

def strictElements : Nat → Text → Option Text
  | 0, _ => none
  | fuel + 1, text => do
      let afterValue ← strictValue fuel text
      match skip afterValue with
      | ']' :: rest => some rest
      | ',' :: rest => strictElements fuel (skip rest)
      | _ => none

end

/-- What a strict JSON parser accepts. -/
def strictAccepts (text : Text) : Bool :=
  match strictValue (text.length + 1) (skip text) with
  | some rest => decide (skip rest = [])
  | none => false

mutual

/-- A value without NaN and without infinities. -/
def finite : PyValue → Bool
  | .float (.num _) => true
  | .float _ => false
  | .list xs => finiteElements xs
  | .dict kvs => finiteMembers kvs
  | _ => true

def finiteElements : List PyValue → Bool
  | [] => true
  | x :: xs => finite x && finiteElements xs

def finiteMembers : List (String × PyValue) → Bool
  | [] => true
  | (_, x) :: kvs => finite x && finiteMembers kvs

end

theorem finiteMembers_iff {kvs : List (String × PyValue)} : finiteMembers kvs = true ↔ ∀ kv ∈ kvs, finite kv.2 = true := by
  induction kvs with
  | nil => simp [finiteMembers]
  | cons kv kvs ih => simp [finiteMembers, ih]

variable {e : Encoder} {text rest : Text} {fuel : Nat}

theorem strictLiteral_numeric (h : Numeric text) : strictLiteral text = none := by
  obtain ⟨c, cs, hc, h⟩ := h
  obtain ⟨-, -, -, -, -, hn, ht, hf, -, -⟩ := digit_ne hc
  rcases h with rfl | rfl <;> simp [strictLiteral, literals, List.isPrefixOf?, hn.symm, ht.symm, hf.symm]

theorem strictValue_numeric (fuel : Nat) (h : Numeric text) : strictValue (fuel + 1) text = strictNumber text := by
  have hliteral := strictLiteral_numeric h
  obtain ⟨c, cs, hc, h⟩ := h
  obtain ⟨-, -, hquote, hbrace, hbracket, -⟩ := digit_ne hc
  rcases h with rfl | rfl
  · rw [strictValue]
    simp only [hquote, hbrace, hbracket, if_false, hliteral, Option.none_or]
  · rw [strictValue]
    simp only [hliteral, Option.none_or, show ('-' : Char) ≠ '"' by decide, show ('-' : Char) ≠ '{' by decide,
      show ('-' : Char) ≠ '[' by decide, if_false]

theorem strictValue_encodeString (s : String) (fuel : Nat) (rest : Text) :
    strictValue (fuel + 1) (encodeString s ++ rest) = some rest := by
  have hscan := scanString_encoded s.toList rest
  simp only [encodeString, List.cons_append, List.append_assoc, List.nil_append, strictValue, if_true, hscan,
    Option.map_some]

/-- A value that is not a container is in the grammar if it is finite. -/
theorem strictValue_leaf {v : PyValue} (hl : nesting v = 0) (fuel : Nat) (hr : Stops rest) :
    strictValue (fuel + 1) (dumps e v ++ rest) = if finite v then some rest else none := by
  cases v with
  | none => rfl
  | bool b => cases b <;> rfl
  | int n =>
      rw [dumps, strictValue_numeric fuel (numeric_intText n rest), strictNumber, scanNumber_intText n hr]
      rfl
  | float x =>
      cases x with
      | num q =>
          rw [dumps, floatText, strictValue_numeric fuel (numeric_floatText q rest), strictNumber,
            scanNumber_decimal _ hr]
          rfl
      | posInf | negInf | nan => rfl
  | str s => rw [dumps, strictValue_encodeString]; rfl
  | list xs => simp [nesting] at hl
  | dict kvs => simp [nesting] at hl

theorem strictElements_none (h : strictValue fuel text = none) : strictElements (fuel + 1) text = none := by
  rw [strictElements, h]
  rfl

theorem strictElements_last (h : strictValue fuel text = some (']' :: rest)) : strictElements (fuel + 1) text = some rest := by
  rw [strictElements, h]
  simp only [bind, Option.bind_some, skip_cons (show isWhitespace ']' = false by decide)]

theorem strictElements_more (h : strictValue fuel text = some (',' :: ' ' :: rest)) (hs : skip rest = rest) :
    strictElements (fuel + 1) text = strictElements fuel rest := by
  rw [strictElements, h]
  simp only [bind, Option.bind_some, skip_cons (show isWhitespace ',' = false by decide), skip_blank, hs]

section

variable {k : String} (hs : skip text = text)

include hs

theorem strictMembers_none (h : strictValue fuel text = none) :
    strictMembers (fuel + 1) (encodeString k ++ ':' :: ' ' :: text) = none := by
  simp only [encodeString, List.cons_append, List.append_assoc, List.nil_append, strictMembers, scanString_key, bind,
    Option.bind_some, skip_cons (show isWhitespace ':' = false by decide), skip_blank, hs, h, Option.bind_none]

theorem strictMembers_last (h : strictValue fuel text = some ('}' :: rest)) :
    strictMembers (fuel + 1) (encodeString k ++ ':' :: ' ' :: text) = some rest := by
  simp only [encodeString, List.cons_append, List.append_assoc, List.nil_append, strictMembers, scanString_key, bind,
    Option.bind_some, skip_cons (show isWhitespace ':' = false by decide), skip_blank, hs, h,
    skip_cons (show isWhitespace '}' = false by decide)]

theorem strictMembers_more (h : strictValue fuel text = some (',' :: ' ' :: rest)) (hr : skip rest = rest) :
    strictMembers (fuel + 1) (encodeString k ++ ':' :: ' ' :: text) = strictMembers fuel rest := by
  simp only [encodeString, List.cons_append, List.append_assoc, List.nil_append, strictMembers, scanString_key, bind,
    Option.bind_some, skip_cons (show isWhitespace ':' = false by decide), skip_blank, hs, h,
    skip_cons (show isWhitespace ',' = false by decide), hr]

end

theorem strictValue_list (hs : skip text = text) (hc : ∀ c ∈ text.head?, c ≠ ']') :
    strictValue (fuel + 1) ('[' :: text) = strictElements fuel text := by
  rw [strictValue]
  simp only [show ('[' : Char) ≠ '"' by decide, show ('[' : Char) ≠ '{' by decide, if_false, if_true, hs]
  split
  · exact absurd rfl (hc ']' rfl)
  · rfl

theorem strictValue_dict (hs : skip text = text) (hc : ∀ c ∈ text.head?, c ≠ '}') :
    strictValue (fuel + 1) ('{' :: text) = strictMembers fuel text := by
  rw [strictValue]
  simp only [show ('{' : Char) ≠ '"' by decide, if_false, if_true, hs]
  split
  · exact absurd rfl (hc '}' rfl)
  · rfl

mutual

/-- A strict parser reads what `json.dumps` writes exactly for finite values. -/
theorem strictValue_dumps (v : PyValue) (fuel : Nat) (hf : (dumps e v).length ≤ fuel) (rest : Text) (hr : Stops rest) :
    strictValue fuel (dumps e v ++ rest) = if finite v then some rest else none := by
  have hpos := length_dumps_pos (e := e) v
  obtain ⟨fuel, rfl⟩ : ∃ k, fuel = k + 1 := Nat.exists_eq_succ_of_ne_zero (by omega)
  match v with
  | .none | .bool _ | .int _ | .float _ | .str _ => exact strictValue_leaf rfl fuel hr
  | .list xs =>
      simp only [dumps, List.length_cons, List.length_append, List.length_nil] at hf
      rw [dumps, List.cons_append, List.append_assoc, List.singleton_append, finite]
      by_cases hxs : xs = []
      · subst hxs
        simp [elementsText, strictValue, finiteElements, skip_cons, show isWhitespace ']' = false by decide]
      · rw [strictValue_list (skip_elementsText xs rest) (elementsText_head hxs _),
          strictElements_text xs hxs fuel (by omega) rest]
  | .dict kvs =>
      simp only [dumps, List.length_cons, List.length_append, List.length_nil] at hf
      rw [dumps, List.cons_append, List.append_assoc, List.singleton_append, finite]
      by_cases hkvs : kvs = []
      · subst hkvs
        simp [membersText, strictValue, finiteMembers, skip_cons, show isWhitespace '}' = false by decide]
      · rw [strictValue_dict (skip_membersText kvs rest) (membersText_head hkvs _),
          strictMembers_text kvs hkvs fuel (by omega) rest]

theorem strictElements_text (xs : List PyValue) (hne : xs ≠ []) (fuel : Nat)
    (hf : (elementsText e true xs).length + 1 ≤ fuel) (rest : Text) :
    strictElements fuel (elementsText e true xs ++ ']' :: rest) = if finiteElements xs then some rest else none := by
  match xs with
  | [] => exact absurd rfl hne
  | x :: xs =>
      obtain ⟨fuel, rfl⟩ : ∃ k, fuel = k + 1 := Nat.exists_eq_succ_of_ne_zero (by omega)
      simp only [elementsText, if_true, List.nil_append, List.length_append] at hf
      have hvalue := strictValue_dumps x fuel (by omega)
      rw [elementsText, if_pos rfl, List.nil_append, List.append_assoc, finiteElements]
      cases hx : finite x with
      | true =>
          simp only [hx, if_true, Bool.true_and] at hvalue ⊢
          by_cases hxs : xs = []
          · subst hxs
            exact strictElements_last (hvalue (']' :: rest) (stops_cons (by simp) rest))
          · rw [elementsText_false hxs] at hf ⊢
            simp only [List.length_cons] at hf
            rw [List.cons_append, List.cons_append, strictElements_more (hvalue _ (stops_cons (by simp) _))
              (skip_elementsText xs rest), strictElements_text xs hxs fuel (by omega) rest]
      | false =>
          simp only [hx, Bool.false_eq_true, if_false, Bool.false_and] at hvalue ⊢
          by_cases hxs : xs = []
          · subst hxs
            exact strictElements_none (hvalue (']' :: rest) (stops_cons (by simp) rest))
          · rw [elementsText_false hxs, List.cons_append, List.cons_append]
            exact strictElements_none (hvalue _ (stops_cons (by simp) _))

theorem strictMembers_text (kvs : List (String × PyValue)) (hne : kvs ≠ []) (fuel : Nat)
    (hf : (membersText e true kvs).length + 1 ≤ fuel) (rest : Text) :
    strictMembers fuel (membersText e true kvs ++ '}' :: rest) = if finiteMembers kvs then some rest else none := by
  match kvs with
  | [] => exact absurd rfl hne
  | (k, x) :: kvs =>
      obtain ⟨fuel, rfl⟩ : ∃ j, fuel = j + 1 := Nat.exists_eq_succ_of_ne_zero (by omega)
      simp only [membersText, if_true, List.nil_append, List.length_append, List.length_cons] at hf
      have hvalue := strictValue_dumps x fuel (by omega)
      rw [membersText, if_pos rfl, List.nil_append, List.append_assoc, List.cons_append, List.cons_append,
        List.append_assoc, finiteMembers]
      cases hx : finite x with
      | true =>
          simp only [hx, if_true, Bool.true_and] at hvalue ⊢
          by_cases hkvs : kvs = []
          · subst hkvs
            exact strictMembers_last (skip_dumps x _) (hvalue ('}' :: rest) (stops_cons (by simp) rest))
          · rw [membersText_false hkvs] at hf ⊢
            simp only [List.length_cons] at hf
            rw [List.cons_append, List.cons_append, strictMembers_more (skip_dumps x _)
              (hvalue _ (stops_cons (by simp) _)) (skip_membersText kvs rest),
              strictMembers_text kvs hkvs fuel (by omega) rest]
      | false =>
          simp only [hx, Bool.false_eq_true, if_false, Bool.false_and] at hvalue ⊢
          by_cases hkvs : kvs = []
          · subst hkvs
            exact strictMembers_none (skip_dumps x _) (hvalue ('}' :: rest) (stops_cons (by simp) rest))
          · rw [membersText_false hkvs, List.cons_append, List.cons_append]
            exact strictMembers_none (skip_dumps x _) (hvalue _ (stops_cons (by simp) _))

end

/-- Of what `json.dumps` writes, a strict parser accepts the finite values. -/
theorem strictAccepts_dumps (v : PyValue) : strictAccepts (dumps e v) = finite v := by
  have hscan := strictValue_dumps (e := e) v ((dumps e v).length + 1) (by omega) [] (by simp [Stops])
  have hskip := skip_dumps (e := e) v []
  rw [List.append_nil] at hscan hskip
  rw [strictAccepts, hskip, hscan]
  cases finite v <;> rfl

end RevenueRescue.Json
