import Mathlib.Algebra.GroupWithZero.Nat
import Mathlib.Data.List.DropRight

namespace RevenueRescue

/-- A UUID as its 32 hexadecimal digits. -/
structure Uuid where
  digits : List (Fin 16)
  length_digits : digits.length = 32
  deriving DecidableEq

namespace Uuid

instance neZero_sixteen : NeZero 16 := ⟨by decide⟩

def hexDigit (d : Fin 16) : Char :=
  Char.ofNat (if d.val < 10 then 48 + d.val else 87 + d.val)

def hexValue (c : Char) : Option (Fin 16) :=
  (List.finRange 16).find? fun d => hexDigit d = c || hexDigit d = c.toLower

def grouped : List Nat → List Char → List Char
  | [], l => l
  | n :: ns, l => l.take n ++ '-' :: grouped ns (l.drop n)

/-- `str(u)`. -/
def str (u : Uuid) : String := String.ofList (grouped [8, 4, 4, 4] (u.digits.map hexDigit))

/-- `l.replace(pat, "")`, which drops the occurrences from the left; `skip`
counts what is left of the one at hand. -/
def removeAll (pat : List Char) (skip : Nat) : List Char → List Char
  | [] => []
  | c :: l =>
      match skip with
      | n + 1 => removeAll pat n l
      | 0 => if pat.isPrefixOf (c :: l) then removeAll pat (pat.length - 1) l
          else c :: removeAll pat 0 l

def isBrace (c : Char) : Bool := c = '\x7b' || c = '\x7d'

/-- What is left of the argument of `uuid.UUID` before its digits are read. -/
def cleaned (s : String) : List Char :=
  let bare := removeAll "uuid:".toList 0 (removeAll "urn:".toList 0 s.toList)
  ((bare.dropWhile isBrace).rdropWhile isBrace).filter (· ≠ '-')

/-- `uuid.UUID(s)` for digits as `str` writes them, in either case; `none` is its
`ValueError`. The `0x` and the underscores that Python's `int(hex, 16)` lets
through within the 32 characters are not read. -/
def parse (s : String) : Option Uuid :=
  match (cleaned s).mapM hexValue with
  | some digits => if h : digits.length = 32 then some ⟨digits, h⟩ else none
  | none => none

def ofDigit (d : Fin 16) : Uuid := ⟨List.replicate 31 0 ++ [d], rfl⟩

theorem hexValue_hexDigit : ∀ d : Fin 16, hexValue (hexDigit d) = some d := by decide

theorem hexDigit_ne : ∀ d : Fin 16, hexDigit d ≠ '-' ∧ hexDigit d ≠ 'u' ∧ isBrace (hexDigit d) = false := by
  decide

theorem mapM_hexValue (ds : List (Fin 16)) : (ds.map hexDigit).mapM hexValue = some ds := by
  induction ds with
  | nil => rfl
  | cons d ds ih => simp [List.mapM_cons, hexValue_hexDigit, ih]

theorem removeAll_eq {p : Char} {pat l : List Char} (h : p ∉ l) : removeAll (p :: pat) 0 l = l := by
  induction l with
  | nil => rfl
  | cons c l ih =>
      simp only [List.mem_cons, not_or] at h
      simp [removeAll, List.isPrefixOf, h.1, ih h.2]

theorem mem_grouped {c : Char} {ns : List Nat} {l : List Char} (h : c ∈ grouped ns l) : c = '-' ∨ c ∈ l := by
  induction ns generalizing l with
  | nil => exact .inr h
  | cons n ns ih =>
      rcases List.mem_append.mp h with h | h
      · exact .inr (List.mem_of_mem_take h)
      · rcases List.mem_cons.mp h with h | h
        · exact .inl h
        · exact (ih h).imp_right List.mem_of_mem_drop

theorem filter_grouped {ns : List Nat} {l : List Char} (h : '-' ∉ l) :
    (grouped ns l).filter (· ≠ '-') = l := by
  induction ns generalizing l with
  | nil =>
      refine List.filter_eq_self.mpr fun c hc => ?_
      exact decide_eq_true fun he : c = '-' => h (he ▸ hc)
  | cons n ns ih =>
      have htake : (l.take n).filter (· ≠ '-') = l.take n := by
        refine List.filter_eq_self.mpr fun c hc => ?_
        exact decide_eq_true fun he : c = '-' => h (he ▸ List.mem_of_mem_take hc)
      have hdrop := ih (l := l.drop n) fun hm => h (List.mem_of_mem_drop hm)
      rw [grouped, List.filter_append, htake, List.filter_cons_of_neg (by simp), hdrop,
        List.take_append_drop]

@[simp] theorem parse_str (u : Uuid) : parse (str u) = some u := by
  have hmem {c : Char} (h : c ∈ grouped [8, 4, 4, 4] (u.digits.map hexDigit)) :
      c ≠ 'u' ∧ isBrace c = false := by
    rcases mem_grouped h with rfl | h
    · decide
    · obtain ⟨d, -, rfl⟩ := List.mem_map.mp h
      exact (hexDigit_ne d).2
  have hdash : '-' ∉ u.digits.map hexDigit := fun h => by
    obtain ⟨d, -, hd⟩ := List.mem_map.mp h
    exact (hexDigit_ne d).1 hd
  have hu : 'u' ∉ grouped [8, 4, 4, 4] (u.digits.map hexDigit) := fun h => (hmem h).1 rfl
  have hclean : cleaned (str u) = u.digits.map hexDigit := by
    simp only [cleaned, str, String.toList_ofList]
    rw [show "uuid:".toList = 'u' :: "uid:".toList from rfl,
      show "urn:".toList = 'u' :: "rn:".toList from rfl, removeAll_eq hu, removeAll_eq hu,
      List.dropWhile_eq_self_iff.mpr, List.rdropWhile_eq_self_iff.mpr]
    · exact filter_grouped hdash
    · intro hl
      simp [(hmem (List.getLast_mem hl)).2]
    · intro hl
      simp [(hmem (List.getElem_mem hl)).2]
  simp only [parse, hclean, mapM_hexValue, u.length_digits, dite_true]

theorem str_ne_empty (u : Uuid) : str u ≠ "" := fun h => by
  have hp := parse_str u
  rw [h] at hp
  exact absurd hp (by simp [show parse "" = none from rfl])

end Uuid

end RevenueRescue
