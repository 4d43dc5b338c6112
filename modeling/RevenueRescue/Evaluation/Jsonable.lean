import RevenueRescue.Agents.Snapshot

namespace RevenueRescue.Jsonable

open Json NodeSnapshot

/-- What a report is made of. A scalar of numpy is that of Python, a tuple or an array a sequence, and an object that
`to_jsonable` passes on as it is has the exception of its encoding. -/
inductive Obj (κ : Type)
  | none
  | bool (b : Bool)
  | int (n : Int)
  | float (x : PyFloat)
  | str (s : String)
  | sequence (xs : List (Obj κ))
  | mapping (kvs : List (κ × Obj κ))
  | other (raised : Raised)

/-- One more item of a dict comprehension. -/
def setEntry {α : Type} (kvs : List (String × α)) (key : String) (value : α) : List (String × α) :=
  if key ∈ kvs.map Prod.fst then kvs.map fun kv => if kv.1 = key then (key, value) else kv else kvs ++ [(key, value)]

variable {κ : Type}

mutual

/-- `to_jsonable`, with `str` on the keys. -/
def toJsonable (str : κ → String) : Obj κ → Obj String
  | .none => .none
  | .bool b => .bool b
  | .int n => .int n
  | .float (.num q) => .float (.num q)
  | .float _ => .none
  | .str s => .str s
  | .sequence xs => .sequence (toJsonableElements str xs)
  | .mapping kvs => .mapping (toJsonableMembers str [] kvs)
  | .other raised => .other raised

def toJsonableElements (str : κ → String) : List (Obj κ) → List (Obj String)
  | [] => []
  | x :: xs => toJsonable str x :: toJsonableElements str xs

def toJsonableMembers (str : κ → String) : List (String × Obj String) → List (κ × Obj κ) → List (String × Obj String)
  | acc, [] => acc
  | acc, (k, x) :: kvs => toJsonableMembers str (setEntry acc (str k) (toJsonable str x)) kvs

end

mutual

/-- What the encoder is given. -/
def toNode : Obj String → NodeValue
  | .none => .none
  | .bool b => .bool b
  | .int n => .int n
  | .float x => .float x
  | .str s => .str s
  | .sequence xs => .list (toNodeElements xs)
  | .mapping kvs => .dict (toNodeMembers kvs)
  | .other raised => .other raised

def toNodeElements : List (Obj String) → List NodeValue
  | [] => []
  | x :: xs => toNode x :: toNodeElements xs

def toNodeMembers : List (String × Obj String) → List (Key × NodeValue)
  | [] => []
  | (k, x) :: kvs => (.str k, toNode x) :: toNodeMembers kvs

end

/-- `dumps` without keyword arguments, where `allow_nan=False` raises for what is no JSON. -/
def dumps (p : Runtime) (str : κ → String) (obj : Obj κ) : Except Raised Text := do
  let tree ← encode p p.depth (toNode (toJsonable str obj))
  if finite tree then .ok (Json.dumps p.encoder tree) else .error .valueError

mutual

/-- What was read, as an object again. -/
def ofValue : PyValue → Obj String
  | .none => .none
  | .bool b => .bool b
  | .int n => .int n
  | .float x => .float x
  | .str s => .str s
  | .list xs => .sequence (ofElements xs)
  | .dict kvs => .mapping (ofMembers kvs)

def ofElements : List PyValue → List (Obj String)
  | [] => []
  | x :: xs => ofValue x :: ofElements xs

def ofMembers : List (String × PyValue) → List (String × Obj String)
  | [] => []
  | (k, x) :: kvs => (k, ofValue x) :: ofMembers kvs

end

mutual

/-- No float is NaN or infinite, and no dict has a key twice. -/
def Plain : Obj String → Prop
  | .float x => ∃ q, x = .num q
  | .sequence xs => PlainElements xs
  | .mapping kvs => (kvs.map Prod.fst).Nodup ∧ PlainMembers kvs
  | _ => True

def PlainElements : List (Obj String) → Prop
  | [] => True
  | x :: xs => Plain x ∧ PlainElements xs

def PlainMembers : List (String × Obj String) → Prop
  | [] => True
  | (_, x) :: kvs => Plain x ∧ PlainMembers kvs

end

section Entries

variable {α : Type} {kvs : List (String × α)} {key : String} {value : α}

theorem setEntry_fresh (h : key ∉ kvs.map Prod.fst) : setEntry kvs key value = kvs ++ [(key, value)] := if_neg h

theorem setEntry_nodup (h : (kvs.map Prod.fst).Nodup) : ((setEntry kvs key value).map Prod.fst).Nodup := by
  unfold setEntry
  split
  · have hkeys : (kvs.map fun kv => if kv.1 = key then (key, value) else kv).map Prod.fst = kvs.map Prod.fst := by
      rw [List.map_map]
      refine List.map_congr_left fun kv _ => ?_
      by_cases hk : kv.1 = key <;> simp [hk]
    rwa [hkeys]
  · rename_i hfresh
    rw [List.map_append, List.map_singleton]
    exact List.nodup_append.mpr ⟨h, List.nodup_singleton key, fun a ha b hb => by
      rw [List.mem_singleton.mp hb]
      rintro rfl
      exact hfresh ha⟩

theorem mem_setEntry {kv : String × α} (h : kv ∈ setEntry kvs key value) : kv = (key, value) ∨ kv ∈ kvs := by
  unfold setEntry at h
  split at h
  · obtain ⟨old, hold, hkv⟩ := List.mem_map.mp h
    split at hkv
    · exact .inl hkv.symm
    · exact .inr (hkv ▸ hold)
  · exact (List.mem_append.mp h).symm.imp_left List.mem_singleton.mp

end Entries

theorem plainMembers_iff {kvs : List (String × Obj String)} : PlainMembers kvs ↔ ∀ kv ∈ kvs, Plain kv.2 := by
  induction kvs with
  | nil => simp [PlainMembers]
  | cons kv kvs ih => simp [PlainMembers, ih]

mutual

theorem plain_toJsonable (str : κ → String) (obj : Obj κ) : Plain (toJsonable str obj) := by
  match obj with
  | .none | .bool _ | .int _ | .str _ | .other _ => trivial
  | .float (.num q) => exact ⟨q, rfl⟩
  | .float .posInf | .float .negInf | .float .nan => trivial
  | .sequence xs => exact plain_elements str xs
  | .mapping kvs => exact plain_members str kvs [] List.nodup_nil trivial

theorem plain_elements (str : κ → String) (xs : List (Obj κ)) : PlainElements (toJsonableElements str xs) := by
  match xs with
  | [] => trivial
  | x :: xs => exact ⟨plain_toJsonable str x, plain_elements str xs⟩

theorem plain_members (str : κ → String) (kvs : List (κ × Obj κ)) (acc : List (String × Obj String))
    (hk : (acc.map Prod.fst).Nodup) (hacc : PlainMembers acc) :
    ((toJsonableMembers str acc kvs).map Prod.fst).Nodup ∧ PlainMembers (toJsonableMembers str acc kvs) := by
  match kvs with
  | [] => exact ⟨hk, hacc⟩
  | (k, x) :: kvs =>
      refine plain_members str kvs _ (setEntry_nodup hk) (plainMembers_iff.mpr fun kv hkv => ?_)
      rcases mem_setEntry hkv with rfl | hkv
      · exact plain_toJsonable str x
      · exact plainMembers_iff.mp hacc kv hkv

end

mutual

theorem toJsonable_plain (v : Obj String) (h : Plain v) : toJsonable (fun k => k) v = v := by
  match v with
  | .none | .bool _ | .int _ | .str _ | .other _ => rfl
  | .float x =>
      obtain ⟨q, rfl⟩ := h
      rfl
  | .sequence xs => rw [toJsonable, toJsonable_plainElements xs h]
  | .mapping kvs => rw [toJsonable, toJsonable_plainMembers kvs [] h.1 h.2, List.nil_append]

theorem toJsonable_plainElements (xs : List (Obj String)) (h : PlainElements xs) :
    toJsonableElements (fun k => k) xs = xs := by
  match xs with
  | [] => rfl
  | x :: xs => rw [toJsonableElements, toJsonable_plain x h.1, toJsonable_plainElements xs h.2]

theorem toJsonable_plainMembers (kvs acc : List (String × Obj String)) (hk : ((acc ++ kvs).map Prod.fst).Nodup)
    (h : PlainMembers kvs) : toJsonableMembers (fun k => k) acc kvs = acc ++ kvs := by
  match kvs with
  | [] => exact (List.append_nil acc).symm
  | (k, x) :: kvs =>
      have hfresh : k ∉ acc.map Prod.fst := by
        rw [List.map_append, List.nodup_append'] at hk
        exact fun hm => hk.2.2 hm List.mem_cons_self
      rw [toJsonableMembers, toJsonable_plain x h.1, setEntry_fresh hfresh,
        toJsonable_plainMembers kvs (acc ++ [(k, x)]) (by rwa [List.append_assoc, List.singleton_append]) h.2,
        List.append_assoc, List.singleton_append]

end

section Encoding

variable {p : Runtime} {tree : PyValue}

mutual

/-- The encoder takes no key for another and leaves nothing out. -/
theorem ofValue_encode (v : Obj String) {depth : Nat} {tree : PyValue} (h : encode p depth (toNode v) = .ok tree) :
    ofValue tree = v := by
  match v with
  | .none | .bool _ | .float _ | .str _ =>
      rw [toNode, encode] at h
      obtain rfl := Except.ok.inj h
      rfl
  | .int n =>
      rw [toNode, encode] at h
      obtain ⟨_, -, h⟩ := Raised.ok_of_bind h
      obtain rfl := Except.ok.inj h
      rfl
  | .other raised => cases h
  | .sequence xs =>
      rw [toNode, encode] at h
      obtain ⟨depth, -, h⟩ := Raised.ok_of_bind h
      obtain ⟨trees, htrees, h⟩ := Raised.ok_of_bind h
      obtain rfl := Except.ok.inj h
      rw [ofValue, ofElements_encode xs htrees]
  | .mapping kvs =>
      rw [toNode, encode] at h
      obtain ⟨depth, -, h⟩ := Raised.ok_of_bind h
      obtain ⟨trees, htrees, h⟩ := Raised.ok_of_bind h
      obtain rfl := Except.ok.inj h
      rw [ofValue, ofMembers_encode kvs htrees]

theorem ofElements_encode (xs : List (Obj String)) {depth : Nat} {trees : List PyValue}
    (h : encodeElements p depth (toNodeElements xs) = .ok trees) : ofElements trees = xs := by
  match xs with
  | [] =>
      obtain rfl := Except.ok.inj h
      rfl
  | x :: xs =>
      rw [toNodeElements, encodeElements] at h
      obtain ⟨y, hy, h⟩ := Raised.ok_of_bind h
      obtain ⟨ys, hys, h⟩ := Raised.ok_of_bind h
      obtain rfl := Except.ok.inj h
      rw [ofElements, ofValue_encode x hy, ofElements_encode xs hys]

theorem ofMembers_encode (kvs : List (String × Obj String)) {depth : Nat} {trees : List (String × PyValue)}
    (h : encodeMembers p depth (toNodeMembers kvs) = .ok trees) : ofMembers trees = kvs := by
  match kvs with
  | [] =>
      obtain rfl := Except.ok.inj h
      rfl
  | (k, x) :: kvs =>
      rw [toNodeMembers, encodeMembers] at h
      obtain ⟨key, hkey, h⟩ := Raised.ok_of_bind h
      obtain ⟨y, hy, h⟩ := Raised.ok_of_bind h
      obtain ⟨ys, hys, h⟩ := Raised.ok_of_bind h
      obtain rfl := Except.ok.inj hkey
      obtain rfl := Except.ok.inj h
      rw [ofMembers, ofValue_encode x hy, ofMembers_encode kvs hys]

end

theorem ofMembers_keys (kvs : List (String × PyValue)) : (ofMembers kvs).map Prod.fst = kvs.map Prod.fst := by
  induction kvs with
  | nil => rfl
  | cons kv kvs ih => rw [ofMembers, List.map_cons, List.map_cons, ih]

mutual

theorem finite_of_plain (tree : PyValue) (h : Plain (ofValue tree)) : finite tree = true := by
  match tree with
  | .none | .bool _ | .int _ | .str _ => rfl
  | .float x =>
      obtain ⟨q, rfl⟩ := h
      rfl
  | .list xs => exact finite_of_plainElements xs h
  | .dict kvs => exact finite_of_plainMembers kvs h.2

theorem finite_of_plainElements (xs : List PyValue) (h : PlainElements (ofElements xs)) : finiteElements xs = true := by
  match xs with
  | [] => rfl
  | x :: xs => rw [finiteElements, finite_of_plain x h.1, finite_of_plainElements xs h.2, Bool.and_self]

theorem finite_of_plainMembers (kvs : List (String × PyValue)) (h : PlainMembers (ofMembers kvs)) :
    finiteMembers kvs = true := by
  match kvs with
  | [] => rfl
  | (_, x) :: kvs => rw [finiteMembers, finite_of_plain x h.1, finite_of_plainMembers kvs h.2, Bool.and_self]

end

mutual

theorem readsBack_of_plain (tree : PyValue) (h : Plain (ofValue tree))
    (hfloats : ReadsFloats p.decoder.float p.encoder tree) : ReadsBack p.decoder p.encoder tree := by
  match tree with
  | .none | .bool _ | .int _ | .str _ => trivial
  | .float x => cases x <;> exact hfloats
  | .list xs => exact readsBack_of_plainElements xs h hfloats
  | .dict kvs => exact ⟨ofMembers_keys kvs ▸ h.1, readsBack_of_plainMembers kvs h.2 hfloats⟩

theorem readsBack_of_plainElements (xs : List PyValue) (h : PlainElements (ofElements xs))
    (hfloats : ReadsFloatsElements p.decoder.float p.encoder xs) : ReadsBackElements p.decoder p.encoder xs := by
  match xs with
  | [] => trivial
  | x :: xs => exact ⟨readsBack_of_plain x h.1 hfloats.1, readsBack_of_plainElements xs h.2 hfloats.2⟩

theorem readsBack_of_plainMembers (kvs : List (String × PyValue)) (h : PlainMembers (ofMembers kvs))
    (hfloats : ReadsFloatsMembers p.decoder.float p.encoder kvs) : ReadsBackMembers p.decoder p.encoder kvs := by
  match kvs with
  | [] => trivial
  | (_, x) :: kvs => exact ⟨readsBack_of_plain x h.1 hfloats.1, readsBack_of_plainMembers kvs h.2 hfloats.2⟩

end

end Encoding

end RevenueRescue.Jsonable
