import Mathlib.Data.List.Forall2
import RevenueRescue.Backend.Ingestion

namespace RevenueRescue.Identity

open Machine Ingestion

/-- What the resolution takes from the standard library: `uuid.UUID`, where
`none` is its `ValueError`, and the two digests of a text's bytes. -/
structure Library where
  uuid : String → Option Uuid
  md5 : String → Uuid
  sha256 : String → String

structure Customer where
  id : Uuid
  name : String
  emailHash : String
  emailDisplay : String
  segment : String := "standard"
  country : String := "IN"
  isSynthetic : Bool := true
  deriving DecidableEq

/-- The customers table with its two unique columns. -/
structure Customers where
  rows : List Customer := []
  ids_nodup : (rows.map Customer.id).Nodup := by simp
  hashes_nodup : (rows.map Customer.emailHash).Nodup := by simp

namespace Customers

def byId (db : Customers) (id : Uuid) : Option Customer := db.rows.find? fun c => c.id = id

def byEmailHash (db : Customers) (emailHash : String) : Option Customer :=
  db.rows.find? fun c => c.emailHash = emailHash

/-- `none` is the `IntegrityError` of a unique column. -/
def insert (db : Customers) (c : Customer) : Option Customers :=
  if h : c.id ∉ db.rows.map Customer.id ∧ c.emailHash ∉ db.rows.map Customer.emailHash then
    some ⟨c :: db.rows, List.nodup_cons.mpr ⟨h.1, db.ids_nodup⟩, List.nodup_cons.mpr ⟨h.2, db.hashes_nodup⟩⟩
  else none

theorem insert_fresh {db : Customers} {c : Customer} (hid : db.byId c.id = none)
    (hhash : db.byEmailHash c.emailHash = none) :
    ∃ db', db.insert c = some db' ∧ db'.rows = c :: db.rows := by
  simp only [byId, byEmailHash, List.find?_eq_none, decide_eq_true_eq] at hid hhash
  have h : c.id ∉ db.rows.map Customer.id ∧ c.emailHash ∉ db.rows.map Customer.emailHash := by
    constructor
    · intro hm
      obtain ⟨x, hx, he⟩ := List.mem_map.mp hm
      exact hid x hx he
    · intro hm
      obtain ⟨x, hx, he⟩ := List.mem_map.mp hm
      exact hhash x hx he
  exact ⟨_, dif_pos h, rfl⟩

end Customers

variable (lib : Library)

/-- The UUID that a `customer_id` string denotes. -/
def customerUuid (s : String) : Uuid := (lib.uuid s).getD (lib.md5 s)

def emailHash (id : Uuid) : String := lib.sha256 (stubEmail id)

def stub (id : Uuid) : Customer where
  id := id
  name := "Synthetic Customer " ++ String.ofList ((id.digits.take 8).map Uuid.hexDigit)
  emailHash := emailHash lib id
  emailDisplay := stubEmail id

def getOrCreateCustomerId (db : Customers) (customerIdStr : String) : Option (Customers × Uuid) :=
  match db.byId (customerUuid lib customerIdStr) with
  | some _ => some (db, customerUuid lib customerIdStr)
  | none =>
      match db.byEmailHash (emailHash lib (customerUuid lib customerIdStr)) with
      | some existing => some (db, existing.id)
      | none =>
          (db.insert (stub lib (customerUuid lib customerIdStr))).map fun db' =>
            (db', customerUuid lib customerIdStr)

def resolveAll (db : Customers) : List String → Option (Customers × List Uuid)
  | [] => some (db, [])
  | s :: ss =>
      (getOrCreateCustomerId lib db s).bind fun out =>
        (resolveAll out.1 ss).map fun rest => (rest.1, out.2 :: rest.2)

/-- The table as committed, and as the open session has it. -/
structure Store where
  committed : Customers := {}
  session : Customers := {}

inductive Label
  | resolve (customerIdStr : String)
  | commit
  | rollback

def step (s : Store) : Label → Option Store
  | .resolve customerIdStr =>
      (getOrCreateCustomerId lib s.session customerIdStr).map fun out => { s with session := out.1 }
  | .commit => some { s with committed := s.session }
  | .rollback => some { s with session := s.committed }

variable {lib}

/-- Every row has the hash of the e-mail that its own id makes. -/
def Stubbed (lib : Library) (db : Customers) : Prop := ∀ c ∈ db.rows, c.emailHash = emailHash lib c.id

/-- A call finds or makes the row with the hash of the e-mail that its string makes. -/
theorem getOrCreateCustomerId_spec {db : Customers} (h : Stubbed lib db) (s : String) :
    ∃ db' c, getOrCreateCustomerId lib db s = some (db', c.id) ∧ db.rows ⊆ db'.rows ∧ Stubbed lib db' ∧
      c ∈ db'.rows ∧ c.emailHash = emailHash lib (customerUuid lib s) := by
  unfold getOrCreateCustomerId
  cases hid : db.byId (customerUuid lib s) with
  | some c =>
      have hm : c ∈ db.rows := List.mem_of_find?_eq_some hid
      have hc : c.id = customerUuid lib s := by simpa using List.find?_some hid
      refine ⟨db, c, by rw [hc], List.Subset.refl _, h, hm, ?_⟩
      rw [h c hm, hc]
  | none =>
      cases hhash : db.byEmailHash (emailHash lib (customerUuid lib s)) with
      | some c =>
          have hm : c ∈ db.rows := List.mem_of_find?_eq_some hhash
          exact ⟨db, c, rfl, List.Subset.refl _, h, hm, by simpa using List.find?_some hhash⟩
      | none =>
          obtain ⟨db', hi, hrows⟩ := Customers.insert_fresh (c := stub lib (customerUuid lib s)) hid hhash
          refine ⟨db', stub lib (customerUuid lib s), by simp only [hi, Option.map_some]; rfl, ?_, ?_, ?_, rfl⟩
          · rw [hrows]
            exact List.subset_cons_self _ _
          · intro c hc
            rw [hrows] at hc
            rcases List.mem_cons.mp hc with rfl | hc
            · rfl
            · exact h c hc
          · rw [hrows]
            exact List.mem_cons_self

theorem resolveAll_spec {db : Customers} (h : Stubbed lib db) (ss : List String) :
    ∃ db' ids, resolveAll lib db ss = some (db', ids) ∧ db.rows ⊆ db'.rows ∧
      List.Forall₂ (fun s id => ∃ c ∈ db'.rows, c.id = id ∧ c.emailHash = emailHash lib (customerUuid lib s))
        ss ids := by
  induction ss generalizing db with
  | nil => exact ⟨db, [], rfl, List.Subset.refl _, .nil⟩
  | cons s ss ih =>
      obtain ⟨db₁, c, hcall, hsub, hst, hc, hhash⟩ := getOrCreateCustomerId_spec h s
      obtain ⟨db₂, ids, hrest, hsub', hids⟩ := ih hst
      refine ⟨db₂, c.id :: ids, ?_, List.Subset.trans hsub hsub', .cons ⟨c, hsub' hc, rfl, hhash⟩ hids⟩
      rw [resolveAll, hcall, Option.bind_some, hrest]
      rfl

theorem stubbed_of_reach {st : Store} (h : Reach (step lib) Any {} st) :
    Stubbed lib st.committed ∧ Stubbed lib st.session := by
  refine h.invariant (I := fun s => Stubbed lib s.committed ∧ Stubbed lib s.session)
    ⟨by simp [Stubbed], by simp [Stubbed]⟩ ?_
  rintro s a t - ⟨hc, hs⟩ - hstep
  cases a with
  | resolve customerIdStr =>
      obtain ⟨db', c, hcall, -, hst, -⟩ := getOrCreateCustomerId_spec hs customerIdStr
      simp only [step, hcall, Option.map_some, Option.some.injEq] at hstep
      subst hstep
      exact ⟨hc, hst⟩
  | commit =>
      cases hstep
      exact ⟨hs, hs⟩
  | rollback =>
      cases hstep
      exact ⟨hc, hc⟩

/-- Two strings resolved to one customer denote one UUID. -/
def Unmerged (lib : Library) (calls : List (String × Uuid)) : Prop :=
  ∀ a ∈ calls, ∀ b ∈ calls, a.2 = b.2 → customerUuid lib a.1 = customerUuid lib b.1

def Stable (calls : List (String × Uuid)) : Prop :=
  ∀ a ∈ calls, ∀ b ∈ calls, a.1 = b.1 → a.2 = b.2

/-- The e-mail carries the first eight digits of the id and no more of it. -/
theorem stubEmail_eq_iff {u v : Uuid} : stubEmail u = stubEmail v ↔ u.digits.take 8 = v.digits.take 8 := by
  have hdigit : Function.Injective Uuid.hexDigit := fun a b hab => by
    have h := congrArg Uuid.hexValue hab
    simpa only [Uuid.hexValue_hexDigit, Option.some.injEq] using h
  constructor
  · intro h
    have hchars := congrArg String.toList h
    simp only [stubEmail, String.toList_append, String.toList_ofList, List.append_cancel_right_eq,
      List.append_cancel_left_eq] at hchars
    exact List.map_injective_iff.mpr hdigit hchars
  · intro h
    rw [stubEmail, stubEmail, h]

theorem emailHash_eq_iff {u v : Uuid}
    (h : lib.sha256 (stubEmail u) = lib.sha256 (stubEmail v) → stubEmail u = stubEmail v) :
    emailHash lib u = emailHash lib v ↔ u.digits.take 8 = v.digits.take 8 := by
  rw [← stubEmail_eq_iff]
  exact ⟨h, congrArg lib.sha256⟩

/-- Whatever was resolved before, calls merge two UUIDs if and only if the e-mails made for them,
from their first eight digits, have one hash. -/
theorem identity_kept_iff {st : Store} (h : Reach (step lib) Any {} st) (ss : List String) :
    ∃ db ids, resolveAll lib st.session ss = some (db, ids) ∧ ids.length = ss.length ∧
      (Unmerged lib (ss.zip ids) ∧ Stable (ss.zip ids) ↔
        ∀ s ∈ ss, ∀ t ∈ ss, emailHash lib (customerUuid lib s) = emailHash lib (customerUuid lib t) →
          customerUuid lib s = customerUuid lib t) := by
  obtain ⟨db, ids, hcalls, -, hids⟩ := resolveAll_spec (stubbed_of_reach h).2 ss
  have hlen : ss.length = ids.length := hids.length_eq
  -- One customer was found if and only if the two hashes are one, since no two rows share an id or a hash.
  have hsame {a b : String × Uuid} (ha : a ∈ ss.zip ids) (hb : b ∈ ss.zip ids) :
      a.2 = b.2 ↔ emailHash lib (customerUuid lib a.1) = emailHash lib (customerUuid lib b.1) := by
    obtain ⟨-, hzip⟩ := List.forall₂_iff_zip.mp hids
    obtain ⟨c, hc, hcid, hchash⟩ := hzip ha
    obtain ⟨d, hd, hdid, hdhash⟩ := hzip hb
    rw [← hcid, ← hdid, ← hchash, ← hdhash]
    constructor
    · intro he
      rw [List.inj_on_of_nodup_map db.ids_nodup hc hd he]
    · intro he
      rw [List.inj_on_of_nodup_map db.hashes_nodup hc hd he]
  have hcall {s : String} (hs : s ∈ ss) : ∃ id, (s, id) ∈ ss.zip ids := by
    rw [← List.map_fst_zip (le_of_eq hlen)] at hs
    obtain ⟨⟨s', id⟩, hm, rfl⟩ := List.mem_map.mp hs
    exact ⟨id, hm⟩
  refine ⟨db, ids, hcalls, hlen.symm, ?_, ?_⟩
  · rintro ⟨hun, -⟩ s hs t ht he
    obtain ⟨i, hi⟩ := hcall hs
    obtain ⟨j, hj⟩ := hcall ht
    exact hun (s, i) hi (t, j) hj ((hsame hi hj).mpr he)
  · intro hap
    constructor
    · intro a ha b hb he
      exact hap a.1 (List.of_mem_zip ha).1 b.1 (List.of_mem_zip hb).1 ((hsame ha hb).mp he)
    · intro a ha b hb he
      exact (hsame ha hb).mpr (by rw [he])

/-- `uuid.UUID`, with the digest that SHA-256 gives of the e-mail of a UUID that starts with eight zeros. -/
def sampleLibrary : Library where
  uuid := Uuid.parse
  md5 _ := Uuid.ofDigit 0
  sha256 _ := "644f05ba52fee773002babd8961c40310928ef90b901041cf6ef19720013dab6"

def oneStr : String := (Uuid.ofDigit 1).str

def twoStr : String := (Uuid.ofDigit 2).str

theorem identity_kept_sample :
    ∃ db ids, resolveAll sampleLibrary ({} : Store).session [oneStr, oneStr] = some (db, ids) ∧
      ids.length = [oneStr, oneStr].length ∧
      (Unmerged sampleLibrary ([oneStr, oneStr].zip ids) ∧ Stable ([oneStr, oneStr].zip ids) ↔
        ∀ s ∈ [oneStr, oneStr], ∀ t ∈ [oneStr, oneStr],
          emailHash sampleLibrary (customerUuid sampleLibrary s) =
              emailHash sampleLibrary (customerUuid sampleLibrary t) →
            customerUuid sampleLibrary s = customerUuid sampleLibrary t) :=
  identity_kept_iff .refl _

theorem resolveAll_sample : ∃ db,
    resolveAll sampleLibrary {} [oneStr, twoStr] = some (db, [Uuid.ofDigit 1, Uuid.ofDigit 1]) := by
  have hone : customerUuid sampleLibrary oneStr = Uuid.ofDigit 1 := by
    simp [customerUuid, sampleLibrary, oneStr]
  have htwo : customerUuid sampleLibrary twoStr = Uuid.ofDigit 2 := by
    simp [customerUuid, sampleLibrary, twoStr]
  have hne : Uuid.ofDigit 1 ≠ Uuid.ofDigit 2 := by decide
  have hhash : emailHash sampleLibrary (Uuid.ofDigit 1) = emailHash sampleLibrary (Uuid.ofDigit 2) := rfl
  obtain ⟨db, hi, hrows⟩ : ∃ db, Customers.insert {} (stub sampleLibrary (Uuid.ofDigit 1)) = some db ∧
      db.rows = [stub sampleLibrary (Uuid.ofDigit 1)] := Customers.insert_fresh rfl rfl
  refine ⟨db, ?_⟩
  have hfirst : getOrCreateCustomerId sampleLibrary {} oneStr = some (db, Uuid.ofDigit 1) := by
    rw [getOrCreateCustomerId, hone]
    exact congrArg (Option.map _) hi
  have hsecond : getOrCreateCustomerId sampleLibrary db twoStr = some (db, Uuid.ofDigit 1) := by
    rw [getOrCreateCustomerId, htwo]
    simp [Customers.byId, Customers.byEmailHash, hrows, stub, hne, hhash]
  rw [resolveAll, hfirst, Option.bind_some, resolveAll, hsecond]
  rfl

theorem identity_merged :
    ¬ ∀ (lib : Library) (st : Store), Reach (step lib) Any {} st → ∀ ss db ids,
      resolveAll lib st.session ss = some (db, ids) → Unmerged lib (ss.zip ids) ∧ Stable (ss.zip ids) := by
  intro h
  obtain ⟨db, hcalls⟩ := resolveAll_sample
  have hun := (h sampleLibrary {} .refl _ db _ hcalls).1
  have he := hun (oneStr, Uuid.ofDigit 1) (by simp) (twoStr, Uuid.ofDigit 1) (by simp) rfl
  simp [customerUuid, sampleLibrary, oneStr, twoStr] at he
  exact absurd he (by decide)

end RevenueRescue.Identity
