import RevenueRescue.Foundation.JsonStrict
import RevenueRescue.Foundation.PyObject

namespace RevenueRescue.NodeSnapshot

open Json

/-- A key of a dict below the top level. -/
inductive Key
  | str (s : String)
  | int (n : Int)
  | bool (b : Bool)
  | none
  | float (x : PyFloat)
  | other

/-- A value that a node returns. A tuple is a list, a Pydantic model is what `model_dump(mode="json")` gives, and any
other object has the exception of its encoding. -/
inductive NodeValue
  | none
  | bool (b : Bool)
  | int (n : Int)
  | float (x : PyFloat)
  | str (s : String)
  | list (xs : List NodeValue)
  | dict (kvs : List (Key × NodeValue))
  | model (dump : NodeValue)
  | datetime (iso : String)
  | other (raised : Raised)

/-- What the encoding takes from the interpreter: how deep the encoder may go and how many digits an integer may have
in a string. -/
structure Runtime where
  decoder : Decoder
  encoder : Encoder
  depth : Nat
  digits : Nat

def recursionError : Raised := .other "RecursionError"

variable (p : Runtime)

def intRepr (n : Int) : Except Raised Text :=
  if (natText n.natAbs).length ≤ p.digits then .ok (intText n) else .error .valueError

/-- The string that the encoder makes of a key. -/
def Key.text : Key → Except Raised String
  | .str s => .ok s
  | .int n => (intRepr p n).map String.ofList
  | .bool b => .ok (if b then "true" else "false")
  | .none => .ok "null"
  | .float x => .ok (String.ofList (floatText p.encoder x))
  | .other => .error .typeError

/-- The encoder enters a container, or what the hook returned. -/
def enter : Nat → Except Raised Nat
  | 0 => .error recursionError
  | depth + 1 => .ok depth

mutual

/-- What `json.dumps` with `default=_json_default` writes of a value, as the value that this text is of. -/
def encode : Nat → NodeValue → Except Raised PyValue
  | _, .none => .ok .none
  | _, .bool b => .ok (.bool b)
  | _, .int n => do
      let _ ← intRepr p n
      .ok (.int n)
  | _, .float x => .ok (.float x)
  | _, .str s => .ok (.str s)
  | depth, .list xs => do
      let depth ← enter depth
      let xs ← encodeElements depth xs
      .ok (.list xs)
  | depth, .dict kvs => do
      let depth ← enter depth
      let kvs ← encodeMembers depth kvs
      .ok (.dict kvs)
  | depth, .model dump => do
      let depth ← enter depth
      encode depth dump
  | depth, .datetime iso => do
      let _ ← enter depth
      .ok (.str iso)
  | _, .other raised => .error raised

def encodeElements : Nat → List NodeValue → Except Raised (List PyValue)
  | _, [] => .ok []
  | depth, x :: xs => do
      let x ← encode depth x
      let xs ← encodeElements depth xs
      .ok (x :: xs)

def encodeMembers : Nat → List (Key × NodeValue) → Except Raised (List (String × PyValue))
  | _, [] => .ok []
  | depth, (k, x) :: kvs => do
      let k ← k.text p
      let x ← encode depth x
      let kvs ← encodeMembers depth kvs
      .ok ((k, x) :: kvs)

end

/-- `len(encoded.encode("utf-8"))` -/
def byteSize (text : Text) : Nat := (text.map Char.utf8Size).sum

/-- `json.loads`, whose exception is that of its recursion where more depth would help. -/
def decode (text : Text) : Except Raised PyValue :=
  match loads p.decoder text with
  | some value => .ok value
  | none => .error (if (loads { p.decoder with depth := text.length } text).isSome then recursionError else .valueError)

def snapshotMaxValueBytes : Nat := 4096

def snapshotExcludedKeys : List String := ["node_trace", "node_observation_log"]

/-- What the snapshot holds of a value. -/
def snapshotValue (value : NodeValue) : Except Raised PyValue := do
  let tree ← encode p p.depth value
  let encoded := dumps p.encoder tree
  if snapshotMaxValueBytes < byteSize encoded then .ok (.str "[truncated]") else decode p encoded

/-- The loop over `output.items()`. -/
def fillSnapshot : List (String × NodeValue) → List (String × PyValue) → Except Raised (List (String × PyValue))
  | [], snapshot => .ok snapshot
  | (key, value) :: entries, snapshot =>
      if key ∈ snapshotExcludedKeys then fillSnapshot entries snapshot
      else do
        let kept ← snapshotValue p value
        fillSnapshot entries (setItem snapshot key kept)

/-- A dict that a node returns. -/
structure NodeOutput where
  entries : List (String × NodeValue)
  distinct : (entries.map Prod.fst).Nodup

inductive Snapshot
  | text (s : String)
  | dict (kvs : List (String × PyValue))

/-- `except (TypeError, ValueError, OverflowError)` -/
def isCaught : Raised → Bool
  | .typeError | .valueError | .overflowError => true
  | .other _ => false

/-- `_sanitize_output`; `none` is an output that is no dict. -/
def sanitizeOutput : Option NodeOutput → Except Raised Snapshot
  | none => .ok (.text "[unserializable]")
  | some output =>
      match fillSnapshot p output.entries [] with
      | .ok snapshot => .ok (.dict snapshot)
      | .error raised => if isCaught raised then .ok (.text "[unserializable]") else .error raised

/-- The floats of what is encoded of a value are read from their `repr`. -/
def Reads (value : NodeValue) : Prop :=
  ∀ tree, encode p p.depth value = .ok tree → ReadsFloats p.decoder.float p.encoder tree

def TooLarge (tree : PyValue) : Prop := snapshotMaxValueBytes < byteSize (dumps p.encoder tree)

instance (tree : PyValue) : Decidable (TooLarge p tree) := inferInstanceAs (Decidable (_ < _))

/-- What a snapshot should hold of a value: its JSON form, if that is not too large. -/
def form (tree : PyValue) : PyValue := if TooLarge p tree then .str "[truncated]" else collapse tree

/-- A value is encoded, and its text decoded, within the recursion limit. -/
def Encodes (value : NodeValue) : Prop :=
  ∃ tree, encode p p.depth value = .ok tree ∧ (TooLarge p tree ∨ nesting tree ≤ p.decoder.depth)

/-- The encoder raises for a value, and the exception is one that is caught. -/
def Rejected (value : NodeValue) : Prop :=
  ∃ raised, encode p p.depth value = .error raised ∧ isCaught raised = true

/-- No NaN and no infinity is in the JSON form of a value that is small enough. -/
def FiniteForm (value : NodeValue) : Prop :=
  ∀ tree, encode p p.depth value = .ok tree → TooLarge p tree ∨ finite (collapse tree) = true

def keptEntries (entries : List (String × NodeValue)) : List (String × NodeValue) :=
  entries.filter fun entry => entry.1 ∉ snapshotExcludedKeys

/-- A snapshot is strict JSON with the returned keys, where each value is truncated or in its JSON form. -/
structure Faithful (output : NodeOutput) (snapshot : List (String × PyValue)) : Prop where
  strict : strictAccepts (dumps p.encoder (.dict snapshot)) = true
  keys : snapshot.map Prod.fst = (output.entries.map Prod.fst).filter fun key => key ∉ snapshotExcludedKeys
  values : ∀ entry ∈ output.entries, entry.1 ∉ snapshotExcludedKeys →
    ∃ tree, encode p p.depth entry.2 = .ok tree ∧ (entry.1, form p tree) ∈ snapshot

/-- What is wanted of `_sanitize_output`. -/
def Sanitized (output : NodeOutput) : Prop :=
  ∃ snapshot, sanitizeOutput p (some output) = .ok snapshot ∧
    (snapshot = .text "[unserializable]" ∨ ∃ kvs, snapshot = .dict kvs ∧ Faithful p output kvs)

variable {p} {value : NodeValue} {tree y : PyValue} {entries : List (String × NodeValue)} {ys : List (String × PyValue)}
  {raised : Raised}

theorem decode_dumps (h : ReadsFloats p.decoder.float p.encoder tree) :
    decode p (dumps p.encoder tree) =
      if nesting tree ≤ p.decoder.depth then .ok (collapse tree) else .error recursionError := by
  rw [decode, loads_dumps_collapse h]
  by_cases hd : nesting tree ≤ p.decoder.depth
  · simp only [hd, if_true]
  · have hdeeper := loads_dumps_collapse (d := { p.decoder with depth := (dumps p.encoder tree).length }) h
    rw [if_pos (nesting_le_length tree)] at hdeeper
    simp only [hd, if_false, hdeeper, Option.isSome_some, if_true]

theorem snapshotValue_encoded (h : Reads p value) (htree : encode p p.depth value = .ok tree) :
    snapshotValue p value =
      if TooLarge p tree ∨ nesting tree ≤ p.decoder.depth then .ok (form p tree) else .error recursionError := by
  rw [snapshotValue, htree]
  change (if TooLarge p tree then .ok (.str "[truncated]") else decode p (dumps p.encoder tree)) = _
  rw [decode_dumps (h tree htree), form]
  by_cases hlarge : TooLarge p tree
  · simp only [hlarge, if_true, true_or]
  · simp only [hlarge, if_false, false_or]

theorem snapshotValue_ok_iff (h : Reads p value) :
    snapshotValue p value = .ok y ↔ ∃ tree, encode p p.depth value = .ok tree ∧
      (TooLarge p tree ∨ nesting tree ≤ p.decoder.depth) ∧ y = form p tree := by
  cases htree : encode p p.depth value with
  | error raised => simp [snapshotValue, htree, bind, Except.bind]
  | ok tree =>
      rw [snapshotValue_encoded h htree]
      by_cases hfits : TooLarge p tree ∨ nesting tree ≤ p.decoder.depth
      · simp [hfits, eq_comm]
      · simp [hfits]

theorem encodes_iff (h : Reads p value) : (∃ y, snapshotValue p value = .ok y) ↔ Encodes p value := by
  simp only [snapshotValue_ok_iff h, Encodes]
  exact ⟨fun ⟨_, tree, htree, hfits, _⟩ => ⟨tree, htree, hfits⟩, fun ⟨tree, htree, hfits⟩ => ⟨_, tree, htree, hfits, rfl⟩⟩

/-- An exception that is caught comes from the encoder. -/
theorem rejected_iff (h : Reads p value) :
    (∃ raised, snapshotValue p value = .error raised ∧ isCaught raised = true) ↔ Rejected p value := by
  rw [Rejected]
  cases htree : encode p p.depth value with
  | error raised => simp [snapshotValue, htree, bind, Except.bind]
  | ok tree =>
      rw [snapshotValue_encoded h htree]
      by_cases hfits : TooLarge p tree ∨ nesting tree ≤ p.decoder.depth
      · simp [hfits]
      · simp [hfits, recursionError, isCaught]

variable (p)

/-- The members of a snapshot, one for each value. -/
def snapshotEntries : List (String × NodeValue) → Except Raised (List (String × PyValue))
  | [] => .ok []
  | (key, value) :: entries => do
      let kept ← snapshotValue p value
      let rest ← snapshotEntries entries
      .ok ((key, kept) :: rest)

variable {p}

/-- The loop puts one member behind the other, as the keys are distinct. -/
theorem fillSnapshot_eq (hk : (ys.map Prod.fst ++ entries.map Prod.fst).Nodup) :
    fillSnapshot p entries ys = (snapshotEntries p (keptEntries entries)).map (ys ++ ·) := by
  induction entries generalizing ys with
  | nil => exact congrArg Except.ok (List.append_nil ys).symm
  | cons entry entries ih =>
      obtain ⟨key, value⟩ := entry
      have hrest : (ys.map Prod.fst ++ entries.map Prod.fst).Nodup :=
        hk.sublist (List.sublist_cons_self _ _ |>.append_left _)
      rw [fillSnapshot]
      by_cases hkey : key ∈ snapshotExcludedKeys
      · have hkept : keptEntries ((key, value) :: entries) = keptEntries entries := by simp [keptEntries, hkey]
        rw [if_pos hkey, hkept, ih hrest]
      · have hkept : keptEntries ((key, value) :: entries) = (key, value) :: keptEntries entries := by
          simp [keptEntries, hkey]
        rw [if_neg hkey, hkept, snapshotEntries]
        cases hvalue : snapshotValue p value with
        | error raised => rfl
        | ok kept =>
            have hfresh : key ∉ ys.map Prod.fst := by
              rw [List.nodup_append'] at hk
              exact fun hm => hk.2.2 hm List.mem_cons_self
            have hnext : ((ys ++ [(key, kept)]).map Prod.fst ++ entries.map Prod.fst).Nodup := by
              simpa using hk
            change fillSnapshot p entries (setItem ys key kept) = _
            rw [setItem_fresh hfresh, ih hnext]
            cases hentries : snapshotEntries p (keptEntries entries) with
            | error raised => rfl
            | ok rest => exact congrArg Except.ok (List.append_assoc ys [(key, kept)] rest)

/-- The members are those of the values, each under its key. -/
theorem snapshotEntries_ok (h : snapshotEntries p entries = .ok ys) :
    ys.map Prod.fst = entries.map Prod.fst ∧
      (∀ entry ∈ entries, ∃ y, (entry.1, y) ∈ ys ∧ snapshotValue p entry.2 = .ok y) ∧
      ∀ y ∈ ys, ∃ entry ∈ entries, snapshotValue p entry.2 = .ok y.2 := by
  induction entries generalizing ys with
  | nil =>
      rw [← Except.ok.inj h]
      simp
  | cons entry entries ih =>
      obtain ⟨kept, hkept, h⟩ := Raised.ok_of_bind h
      obtain ⟨rest, hrest, h⟩ := Raised.ok_of_bind h
      rw [← Except.ok.inj h]
      obtain ⟨hkeys, hforward, hbackward⟩ := ih hrest
      refine ⟨congrArg (entry.1 :: ·) hkeys, List.forall_mem_cons.mpr ⟨⟨kept, List.mem_cons_self, hkept⟩, ?_⟩,
        List.forall_mem_cons.mpr ⟨⟨entry, List.mem_cons_self, hkept⟩, ?_⟩⟩
      · intro other hother
        obtain ⟨y, hy, hvalue⟩ := hforward other hother
        exact ⟨y, List.mem_cons_of_mem _ hy, hvalue⟩
      · intro y hy
        obtain ⟨other, hother, hvalue⟩ := hbackward y hy
        exact ⟨other, List.mem_cons_of_mem _ hother, hvalue⟩

theorem exists_snapshotEntries (h : ∀ entry ∈ entries, ∃ y, snapshotValue p entry.2 = .ok y) :
    ∃ ys, snapshotEntries p entries = .ok ys := by
  induction entries with
  | nil => exact ⟨[], rfl⟩
  | cons entry entries ih =>
      obtain ⟨kept, hkept⟩ := h entry List.mem_cons_self
      obtain ⟨rest, hrest⟩ := ih fun entry hentry => h entry (List.mem_cons_of_mem _ hentry)
      exact Raised.exists_ok_bind.mpr ⟨kept, hkept, Raised.exists_ok_bind.mpr ⟨rest, hrest, _, rfl⟩⟩

/-- The members fail by the first value that fails. -/
theorem snapshotEntries_fails {before after : List (String × NodeValue)} {entry : String × NodeValue}
    (hbefore : ∀ b ∈ before, ∃ y, snapshotValue p b.2 = .ok y) (h : snapshotValue p entry.2 = .error raised) :
    snapshotEntries p (before ++ entry :: after) = .error raised := by
  induction before with
  | nil =>
      rw [List.nil_append, snapshotEntries, h]
      rfl
  | cons b before ih =>
      obtain ⟨kept, hkept⟩ := hbefore b List.mem_cons_self
      rw [List.cons_append, snapshotEntries, hkept, ih fun b hb => hbefore b (List.mem_cons_of_mem _ hb)]
      rfl

theorem exists_failing (h : snapshotEntries p entries = .error raised) :
    ∃ before entry after, entries = before ++ entry :: after ∧
      (∀ b ∈ before, ∃ y, snapshotValue p b.2 = .ok y) ∧ snapshotValue p entry.2 = .error raised := by
  induction entries with
  | nil => cases h
  | cons entry entries ih =>
      rw [snapshotEntries] at h
      cases hvalue : snapshotValue p entry.2 with
      | error first =>
          rw [hvalue] at h
          cases h
          exact ⟨[], entry, entries, rfl, fun b hb => absurd hb List.not_mem_nil, hvalue⟩
      | ok kept =>
          rw [hvalue] at h
          cases hrest : snapshotEntries p entries with
          | ok rest =>
              rw [hrest] at h
              cases h
          | error second =>
              rw [hrest] at h
              cases h
              obtain ⟨before, failing, after, rfl, hbefore, hfailing⟩ := ih hrest
              exact ⟨entry :: before, failing, after, rfl, List.forall_mem_cons.mpr ⟨⟨kept, hvalue⟩, hbefore⟩, hfailing⟩

variable {output : NodeOutput}

theorem fillSnapshot_output (output : NodeOutput) :
    fillSnapshot p output.entries [] = snapshotEntries p (keptEntries output.entries) := by
  have hdistinct : (([] : List (String × PyValue)).map Prod.fst ++ output.entries.map Prod.fst).Nodup := output.distinct
  rw [fillSnapshot_eq hdistinct]
  cases snapshotEntries p (keptEntries output.entries) <;> rfl

theorem sanitizeOutput_ok (h : snapshotEntries p (keptEntries output.entries) = .ok ys) :
    sanitizeOutput p (some output) = .ok (.dict ys) := by
  rw [sanitizeOutput, fillSnapshot_output, h]

theorem sanitizeOutput_error (h : snapshotEntries p (keptEntries output.entries) = .error raised) :
    sanitizeOutput p (some output) = if isCaught raised then .ok (.text "[unserializable]") else .error raised := by
  rw [sanitizeOutput, fillSnapshot_output, h]

theorem mem_keptEntries {entry : String × NodeValue} :
    entry ∈ keptEntries entries ↔ entry ∈ entries ∧ entry.1 ∉ snapshotExcludedKeys := by
  simp [keptEntries]

theorem finite_form (h : TooLarge p tree ∨ finite (collapse tree) = true) : finite (form p tree) = true := by
  rw [form]
  split
  · rfl
  · exact h.resolve_left ‹_›

theorem strict_iff : strictAccepts (dumps p.encoder (.dict ys)) = true ↔ ∀ y ∈ ys, finite y.2 = true := by
  rw [strictAccepts_dumps, finite, finiteMembers_iff]

section

variable (hreads : ∀ entry ∈ output.entries, Reads p entry.2)
  (h : snapshotEntries p (keptEntries output.entries) = .ok ys)

include hreads h

/-- The snapshot of an output without failing values is faithful if the forms of its values are finite. -/
theorem faithful_of_finite (hfinite : ∀ entry ∈ keptEntries output.entries, FiniteForm p entry.2) :
    Faithful p output ys := by
  obtain ⟨hkeys, hforward, hbackward⟩ := snapshotEntries_ok h
  refine ⟨strict_iff.mpr fun y hy => ?_, ?_, fun entry hentry hkey => ?_⟩
  · obtain ⟨entry, hentry, hvalue⟩ := hbackward y hy
    obtain ⟨tree, htree, -, hform⟩ := (snapshotValue_ok_iff (hreads entry (mem_keptEntries.mp hentry).1)).mp hvalue
    rw [hform]
    exact finite_form (hfinite entry hentry tree htree)
  · rw [hkeys, keptEntries, List.filter_map]
    rfl
  · obtain ⟨y, hy, hvalue⟩ := hforward entry (mem_keptEntries.mpr ⟨hentry, hkey⟩)
    obtain ⟨tree, htree, -, rfl⟩ := (snapshotValue_ok_iff (hreads entry hentry)).mp hvalue
    exact ⟨tree, htree, hy⟩

theorem finite_of_faithful (hys : Faithful p output ys) : ∀ entry ∈ keptEntries output.entries, FiniteForm p entry.2 := by
  obtain ⟨-, hforward, -⟩ := snapshotEntries_ok h
  intro entry hentry tree htree
  obtain ⟨y, hy, hvalue⟩ := hforward entry hentry
  obtain ⟨tree', htree', -, rfl⟩ := (snapshotValue_ok_iff (hreads entry (mem_keptEntries.mp hentry).1)).mp hvalue
  obtain rfl := Except.ok.inj (htree.symm.trans htree')
  have hfinite := strict_iff.mp hys.strict _ hy
  by_cases hlarge : TooLarge p tree
  · exact .inl hlarge
  · rw [form, if_neg hlarge] at hfinite
    exact .inr hfinite

end

/-- The snapshot is sanitized exactly if the first value that fails, if there is one, is rejected by the encoder, and if
otherwise no form that is kept has a NaN or an infinity. -/
theorem sanitized_iff (p : Runtime) (output : NodeOutput) (hreads : ∀ entry ∈ output.entries, Reads p entry.2) :
    Sanitized p output ↔
      (∃ before entry after, keptEntries output.entries = before ++ entry :: after ∧
        (∀ b ∈ before, Encodes p b.2) ∧ Rejected p entry.2) ∨
      ∀ entry ∈ keptEntries output.entries, Encodes p entry.2 ∧ FiniteForm p entry.2 := by
  have hkept : ∀ entry ∈ keptEntries output.entries, Reads p entry.2 := fun entry hentry =>
    hreads entry (mem_keptEntries.mp hentry).1
  constructor
  · rintro ⟨snapshot, hsnapshot, hcase⟩
    cases hentries : snapshotEntries p (keptEntries output.entries) with
    | ok ys =>
        rw [sanitizeOutput_ok hentries] at hsnapshot
        obtain rfl := Except.ok.inj hsnapshot
        obtain ⟨kvs, hkvs, hfaithful⟩ := hcase.resolve_left Snapshot.noConfusion
        obtain rfl := Snapshot.dict.inj hkvs
        refine .inr fun entry hentry => ⟨?_, finite_of_faithful hreads hentries hfaithful entry hentry⟩
        obtain ⟨y, -, hy⟩ := (snapshotEntries_ok hentries).2.1 entry hentry
        exact (encodes_iff (hkept entry hentry)).mp ⟨y, hy⟩
    | error raised =>
        rw [sanitizeOutput_error hentries] at hsnapshot
        have hcaught : isCaught raised = true := by
          by_contra hnot
          rw [if_neg hnot] at hsnapshot
          cases hsnapshot
        obtain ⟨before, entry, after, hsplit, hbefore, hentry⟩ := exists_failing hentries
        rw [hsplit] at hkept
        refine .inl ⟨before, entry, after, hsplit, fun b hb => ?_, ?_⟩
        · exact (encodes_iff (hkept b (List.mem_append_left _ hb))).mp (hbefore b hb)
        · exact (rejected_iff (hkept entry (by simp))).mp ⟨raised, hentry, hcaught⟩
  · rintro (⟨before, entry, after, hsplit, hbefore, hrejected⟩ | hall)
    · rw [hsplit] at hkept
      obtain ⟨raised, hraised, hcaught⟩ := (rejected_iff (hkept entry (by simp))).mpr hrejected
      have hfails : snapshotEntries p (keptEntries output.entries) = .error raised := by
        rw [hsplit]
        exact snapshotEntries_fails
          (fun b hb => (encodes_iff (hkept b (List.mem_append_left _ hb))).mpr (hbefore b hb)) hraised
      exact ⟨_, by rw [sanitizeOutput_error hfails, if_pos hcaught], .inl rfl⟩
    · obtain ⟨ys, hys⟩ := exists_snapshotEntries fun entry hentry =>
        (encodes_iff (hkept entry hentry)).mpr (hall entry hentry).1
      exact ⟨.dict ys, sanitizeOutput_ok hys, .inr ⟨ys, rfl,
        faithful_of_finite hreads hys fun entry hentry => (hall entry hentry).2⟩⟩

def plainRuntime : Runtime where
  decoder := ⟨.num, 1000⟩
  encoder := plainEncoder
  depth := 1000
  digits := 4300

def diagnosisOutput : NodeOutput where
  entries := [("node_trace", .list [.str "diagnosis"]),
    ("case_diagnosis", .model (.dict [(.str "is_recoverable", .bool true), (.int 1, .none)])), ("retry_count", .int 2)]
  distinct := by decide

theorem sanitized_sample : Sanitized plainRuntime diagnosisOutput := by
  have hdiagnosis : encode plainRuntime 1000 (.model (.dict [(.str "is_recoverable", .bool true), (.int 1, .none)])) =
      .ok (.dict [("is_recoverable", .bool true), ("1", .none)]) := rfl
  have hcount : encode plainRuntime 1000 (.int 2) = .ok (.int 2) := rfl
  refine (sanitized_iff plainRuntime diagnosisOutput ?_).mpr (.inr ?_)
  · intro entry hentry tree htree
    simp only [diagnosisOutput, List.mem_cons, List.not_mem_nil, or_false] at hentry
    rcases hentry with rfl | rfl | rfl
    · obtain rfl := Except.ok.inj htree
      exact ⟨trivial, trivial⟩
    · obtain rfl := Except.ok.inj (hdiagnosis.symm.trans htree)
      exact ⟨trivial, trivial, trivial⟩
    · obtain rfl := Except.ok.inj (hcount.symm.trans htree)
      trivial
  · intro entry hentry
    obtain ⟨hentry, hkey⟩ := mem_keptEntries.mp hentry
    simp only [diagnosisOutput, List.mem_cons, List.not_mem_nil, or_false] at hentry
    rcases hentry with rfl | rfl | rfl
    · exact absurd hkey (by decide)
    · refine ⟨⟨_, hdiagnosis, .inr (by decide)⟩, fun tree htree => .inr ?_⟩
      obtain rfl := Except.ok.inj (hdiagnosis.symm.trans htree)
      decide
    · refine ⟨⟨_, hcount, .inr (by decide)⟩, fun tree htree => .inr ?_⟩
      obtain rfl := Except.ok.inj (hcount.symm.trans htree)
      decide

/-- A probability that is no number passes through. -/
def nanOutput : NodeOutput where
  entries := [("ml_probability", .float .nan)]
  distinct := by decide

theorem nan_not_sanitized :
    sanitizeOutput plainRuntime (some nanOutput) = .ok (.dict [("ml_probability", .float .nan)]) ∧
      ¬ Sanitized plainRuntime nanOutput := by
  have hsnapshot : sanitizeOutput plainRuntime (some nanOutput) = .ok (.dict [("ml_probability", .float .nan)]) := rfl
  refine ⟨hsnapshot, fun ⟨snapshot, h, hcase⟩ => ?_⟩
  rw [hsnapshot] at h
  obtain rfl := Except.ok.inj h
  obtain ⟨kvs, hkvs, hfaithful⟩ := hcase.resolve_left Snapshot.noConfusion
  obtain rfl := Snapshot.dict.inj hkvs
  have hstrict := hfaithful.strict
  rw [strictAccepts_dumps] at hstrict
  exact absurd hstrict (by decide)

end RevenueRescue.NodeSnapshot
