import RevenueRescue.Foundation.JsonRoundTrip

namespace RevenueRescue.Json

def Printable (text : Text) : Prop := ∀ c ∈ text, 32 ≤ c.toNat ∧ c.toNat ≤ 126

instance (text : Text) : Decidable (Printable text) :=
  inferInstanceAs (Decidable (∀ c ∈ text, 32 ≤ c.toNat ∧ c.toNat ≤ 126))

variable {e : Encoder} {text u : Text}

theorem printable_append {a b : Text} : Printable (a ++ b) ↔ Printable a ∧ Printable b := List.forall_mem_append

theorem printable_cons {c : Char} : Printable (c :: text) ↔ (32 ≤ c.toNat ∧ c.toNat ≤ 126) ∧ Printable text :=
  List.forall_mem_cons

theorem printable_nil : Printable [] := fun _ hc => absurd hc List.not_mem_nil

/-- The characters of numbers, those of the constants for floats among them. -/
def isNumeral (c : Char) : Bool :=
  isDigit c || decide (c ∈ ['-', '+', '.', 'e', 'I', 'n', 'f', 'i', 't', 'y', 'N', 'a'])

theorem isNumeral_of_digits (h : ∀ c ∈ text, isDigit c = true) : ∀ c ∈ text, isNumeral c = true := fun c hc => by
  rw [isNumeral, h c hc, Bool.true_or]

theorem intText_numerals (n : Int) : ∀ c ∈ intText n, isNumeral c = true := by
  refine List.forall_mem_append.mpr ⟨?_, isNumeral_of_digits natText_digits⟩
  split <;> decide

theorem exponentText_numerals (k : Int) : ∀ c ∈ exponentText k, isNumeral c = true := by
  have hsign : isNumeral (if k < 0 then '-' else '+') = true := by
    split <;> decide
  have hpad : ∀ c ∈ if k.natAbs < 10 then ['0'] else [], isNumeral c = true := by
    split <;> decide
  exact List.forall_mem_cons.mpr ⟨by decide, List.forall_mem_cons.mpr ⟨hsign,
    List.forall_mem_append.mpr ⟨hpad, isNumeral_of_digits natText_digits⟩⟩⟩

theorem floatText_numerals (x : PyFloat) : ∀ c ∈ floatText e x, isNumeral c = true := by
  have hconstants : (∀ c ∈ floatText e .posInf, isNumeral c = true) ∧ (∀ c ∈ floatText e .negInf, isNumeral c = true) ∧
      ∀ c ∈ floatText e .nan, isNumeral c = true := by
    simp only [floatText]
    decide
  cases x with
  | num q =>
      have hsign : ∀ c ∈ if (e.repr q).negative then ['-'] else [], isNumeral c = true := by
        split <;> decide
      have hfraction : ∀ c ∈ if (e.repr q).places = [] then [] else '.' :: (e.repr q).places, isNumeral c = true := by
        split
        · decide
        · exact List.forall_mem_cons.mpr ⟨by decide, isNumeral_of_digits (e.repr q).places_digits⟩
      have hexponent : ∀ c ∈ ((e.repr q).exponent.map exponentText).getD [], isNumeral c = true := by
        cases (e.repr q).exponent with
        | none => decide
        | some k => exact exponentText_numerals k
      exact List.forall_mem_append.mpr ⟨List.forall_mem_append.mpr ⟨List.forall_mem_append.mpr
        ⟨hsign, isNumeral_of_digits natText_digits⟩, hfraction⟩, hexponent⟩
  | posInf => exact hconstants.1
  | negInf => exact hconstants.2.1
  | nan => exact hconstants.2.2

theorem isNumeral_printable {c : Char} (h : isNumeral c = true) : 32 ≤ c.toNat ∧ c.toNat ≤ 126 := by
  rw [isNumeral, Bool.or_eq_true, isDigit, decide_eq_true_eq, decide_eq_true_eq] at h
  rcases h with ⟨hlow, hhigh⟩ | h
  · have hlow : 48 ≤ c.toNat := hlow
    have hhigh : c.toNat ≤ 57 := hhigh
    omega
  · revert c
    decide

theorem printable_numerals (h : ∀ c ∈ text, isNumeral c = true) : Printable text := fun c hc =>
  isNumeral_printable (h c hc)

theorem printable_unicodeText (n : Nat) : Printable (unicodeText n) := by
  have hdigit : ∀ k < 16, 32 ≤ (hexChar k).toNat ∧ (hexChar k).toNat ≤ 126 := by decide
  intro c hc
  simp only [unicodeText, hexText, List.mem_cons, List.not_mem_nil, or_false] at hc
  rcases hc with rfl | rfl | rfl | rfl | rfl | rfl
  · decide
  · decide
  all_goals exact hdigit _ (Nat.mod_lt _ (by decide))

theorem printable_encodeChar (c : Char) : Printable (encodeChar c) := by
  unfold encodeChar
  split
  · rename_i h
    simp only [isPlain, decide_eq_true_eq] at h
    exact printable_cons.mpr ⟨⟨h.1, h.2.1⟩, printable_nil⟩
  · split
    case h_8 =>
      unfold encodeSpecial
      split
      · exact printable_unicodeText _
      · exact printable_append.mpr ⟨printable_unicodeText _, printable_unicodeText _⟩
    all_goals decide

theorem printable_encodeString (s : String) : Printable (encodeString s) := by
  have hbody : Printable (s.toList.flatMap encodeChar) := by
    intro c hc
    obtain ⟨x, -, hx⟩ := List.mem_flatMap.mp hc
    exact printable_encodeChar x c hx
  exact printable_cons.mpr ⟨by decide, printable_append.mpr ⟨hbody, by decide⟩⟩

theorem printable_separated (first : Bool) (h : Printable text) :
    Printable ((if first then [] else [',', ' ']) ++ text) := by
  refine printable_append.mpr ⟨?_, h⟩
  cases first with
  | true => exact printable_nil
  | false =>
      decide

mutual

/-- Everything outside printable ASCII is escaped. -/
theorem printable_dumps (v : PyValue) : Printable (dumps e v) := by
  match v with
  | .none => exact (by decide : Printable ['n', 'u', 'l', 'l'])
  | .bool true => exact (by decide : Printable ['t', 'r', 'u', 'e'])
  | .bool false => exact (by decide : Printable ['f', 'a', 'l', 's', 'e'])
  | .int n => exact printable_numerals (intText_numerals n)
  | .float x => exact printable_numerals (floatText_numerals x)
  | .str s => exact printable_encodeString s
  | .list xs =>
      rw [dumps]
      exact printable_cons.mpr ⟨by decide, printable_append.mpr ⟨printable_elementsText true xs,
        printable_cons.mpr ⟨by decide, printable_nil⟩⟩⟩
  | .dict kvs =>
      rw [dumps]
      exact printable_cons.mpr ⟨by decide, printable_append.mpr ⟨printable_membersText true kvs,
        printable_cons.mpr ⟨by decide, printable_nil⟩⟩⟩

theorem printable_elementsText (first : Bool) (xs : List PyValue) : Printable (elementsText e first xs) := by
  match xs with
  | [] => exact printable_nil
  | x :: xs =>
      rw [elementsText]
      exact printable_separated first (printable_append.mpr ⟨printable_dumps x, printable_elementsText false xs⟩)

theorem printable_membersText (first : Bool) (kvs : List (String × PyValue)) :
    Printable (membersText e first kvs) := by
  match kvs with
  | [] => exact printable_nil
  | (k, x) :: kvs =>
      rw [membersText]
      exact printable_separated first (printable_append.mpr ⟨printable_encodeString k,
        printable_cons.mpr ⟨by decide, printable_cons.mpr ⟨by decide,
          printable_append.mpr ⟨printable_dumps x, printable_membersText false kvs⟩⟩⟩⟩)

end

end RevenueRescue.Json
