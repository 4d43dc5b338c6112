import RevenueRescue.Agents.LocalAgreement

namespace RevenueRescue.HostedProvider

open Text Json LlmOutput PyFloat LocalReply

/-- A call raises `httpx.TimeoutException` or `httpx.NetworkError`, or any other exception. -/
inductive Failure
  | transient
  | other
  deriving DecidableEq

/-- What is posted, without the temperature. -/
structure Request where
  endpoint : Text
  bearer : Text
  systemPrompt : Text
  userPrompt : Text
  maxTokens : Int

/-- What `client.post` comes back with. The body is `resp.json()`, which may raise. -/
inductive Outcome
  | response (status : Int) (body : Option PyValue)
  | failure (f : Failure)

inductive Event
  | post (request : Request) (outcome : Outcome)
  | sleep
  | fallback (reply : Except Failure Text)

/-- The service and the fallback provider, which may answer by all that came before. -/
structure World where
  post : List Event → Request → Outcome
  fallback : List Event → Except Failure Text

/-- `CloudflareWorkersAIProvider`. -/
structure Client where
  accountId : Text
  apiToken : Text
  model : Text
  maxTokens : Int

def defaultModel : Text := "@cf/deepseek-ai/deepseek-r1-distill-qwen-32b".toList

/-- `CloudflareWorkersAIProvider.__init__`. -/
def Client.init (accountId apiToken model : Text) (maxTokens : Int) : Client where
  accountId := strip accountId
  apiToken := strip apiToken
  model := if strip model = [] then defaultModel else strip model
  maxTokens := maxTokens

def Client.request (client : Client) (systemPrompt userPrompt : Text) : Request where
  endpoint := "https://api.cloudflare.com/client/v4/accounts/".toList ++ client.accountId ++ "/ai/run/".toList ++
    client.model
  bearer := client.apiToken
  systemPrompt := systemPrompt
  userPrompt := userPrompt
  maxTokens := client.maxTokens

/-- `bool(x)` -/
def truthy : PyValue → Bool
  | .none => false
  | .bool b => b
  | .int n => n ≠ 0
  | .float x => x ≠ .num 0
  | .str s => s ≠ ""
  | .list xs => !xs.isEmpty
  | .dict kvs => !kvs.isEmpty

/-- `raw_text` -/
def rawText : PyValue → PyValue
  | .dict data =>
      match PyValue.get data "result" (.dict []) with
      | .dict result => PyValue.get result "response" (.str "")
      | .str result => .str result
      | _ => .str ""
  | _ => .str ""

/-- The reply, cleaned and repaired; `none` is the `TypeError` of what is no string. -/
def cleanedReply : PyValue → Option Text
  | .str raw => some (repairJsonString (cleanDeepseekReasoningOutput raw.toList))
  | raw => if truthy raw then none else some (repairJsonString [])

/-- What the `try` does with a response. -/
inductive Ending
  | text (reply : Text)
  | retry
  | fallBack
  | raised (f : Failure)

/-- What a response with status 200 gives. -/
def accept (d : Decoder) (body : Option PyValue) : Ending :=
  match body.bind fun data => cleanedReply (rawText data) with
  | none => .raised .other
  | some cleaned => if (loads d cleaned).isSome then .text cleaned else .fallBack

/-- The body of the `try`, up to the call of the fallback; `more` is `attempt < max_attempts`. -/
def respond (d : Decoder) (more : Bool) : Outcome → Ending
  | .failure f => .raised f
  | .response status body =>
      if status = 429 ∨ status = 403 then .fallBack
      else if status = 401 then .fallBack
      else if 500 ≤ status then if more then .retry else .fallBack
      else if status = 200 then accept d body
      else .fallBack

def callFallback (w : World) (log : List Event) : Except Failure Text × List Event :=
  (w.fallback log, log ++ [.fallback (w.fallback log)])

/-- The `except` clauses. -/
def handle (w : World) (next : List Event → Except Failure Text × List Event) (more : Bool) (f : Failure)
    (log : List Event) : Except Failure Text × List Event :=
  if f = .transient ∧ more = true then next (log ++ [.sleep]) else callFallback w log

/-- The loop, with the attempts that are left. An exception of the fallback inside the `try` is handled as well. -/
def attempts (w : World) (d : Decoder) (request : Request) : Nat → List Event → Except Failure Text × List Event
  | 0, log => callFallback w log
  | n + 1, log =>
      let outcome := w.post log request
      let log := log ++ [.post request outcome]
      match respond d (decide (0 < n)) outcome with
      | .text reply => (.ok reply, log)
      | .retry => attempts w d request n (log ++ [.sleep])
      | .raised f => handle w (attempts w d request n) (decide (0 < n)) f log
      | .fallBack =>
          match callFallback w log with
          | (.ok reply, log) => (.ok reply, log)
          | (.error f, log) => handle w (attempts w d request n) (decide (0 < n)) f log

def maxAttempts : Nat := 2

/-- `CloudflareWorkersAIProvider.complete`. -/
def complete (w : World) (d : Decoder) (client : Client) (systemPrompt userPrompt : Text) :
    Except Failure Text × List Event :=
  if client.accountId = [] ∨ client.apiToken = [] then callFallback w []
  else attempts w d (client.request systemPrompt userPrompt) maxAttempts []

def isPost : Event → Bool
  | .post _ _ => true
  | _ => false

def isFallback : Event → Bool
  | .fallback _ => true
  | _ => false

/-- What a further attempt is for: a 5xx, or a timeout of the service or of the fallback. -/
def Unavailable : Event → Prop
  | .post _ (.response status _) => 500 ≤ status
  | .post _ (.failure f) => f = .transient
  | .sleep => False
  | .fallback reply => reply = .error .transient

/-- A post that was answered with a 200, of which the text is the cleaned and repaired reply. -/
def Answers (d : Decoder) (reply : Text) : Event → Prop
  | .post _ (.response status (some data)) =>
      status = 200 ∧ cleanedReply (rawText data) = some reply ∧ (loads d reply).isSome = true
  | _ => False

/-- A reply is the last one of the service, if it is JSON, or that of the last call of the fallback; an exception is that
of the last call of the fallback. -/
def LastReply (d : Decoder) : Except Failure Text → Event → Prop
  | .ok reply, e => Answers d reply e ∨ e = .fallback (.ok reply)
  | .error f, e => e = .fallback (.error f)

/-- How a call of `complete` goes: its posts are one request, another one follows a failed one and a pause, the last
event gives the reply, and the fallback is asked a second time only if it raised. -/
structure Settled (w : World) (d : Decoder) (request : Request) (limit : Nat) (reply : Except Failure Text)
    (log : List Event) : Prop where
  posts : log.countP isPost ≤ limit
  last : ∃ earlier e, log = earlier ++ [e] ∧ LastReply d reply e
  repeats : ∀ earlier sent outcome later, log = earlier ++ .post sent outcome :: later →
    sent = request ∧ (earlier ≠ [] → ∃ first e, earlier = first ++ [e, .sleep] ∧ Unavailable e)
  once : (∀ f, Event.fallback (.error f) ∉ log) → log.countP isFallback ≤ 1
  asked : ∀ answer, Event.fallback answer ∈ log → ∃ past, w.fallback past = answer

variable {w : World} {d : Decoder} {request : Request} {n : Nat} {reply : Except Failure Text} {outcome : Outcome}
  {idle log rest : List Event} {f : Failure}

/-- Events without a post come before any post of the rest. -/
theorem past_idle {p : Event} {earlier later : List Event} (hidle : ∀ e ∈ idle, isPost e = false) (hp : isPost p = true)
    (h : idle ++ rest = earlier ++ p :: later) : ∃ middle, earlier = idle ++ middle ∧ rest = middle ++ p :: later := by
  rcases List.append_eq_append_iff.mp h with ⟨middle, hearlier, hrest⟩ | ⟨middle, hfront, hlater⟩
  · exact ⟨middle, hearlier, hrest⟩
  · cases middle with
    | nil => exact ⟨[], by simpa using hfront.symm, by simpa using hlater.symm⟩
    | cons q middle =>
        obtain ⟨rfl, -⟩ := List.cons.inj hlater
        have hq := hidle p (by rw [hfront]; exact List.mem_append_right _ List.mem_cons_self)
        rw [hp] at hq
        cases hq

theorem settled_fallback (past : List Event) : Settled w d request n (w.fallback past) [.fallback (w.fallback past)] where
  posts := Nat.zero_le _
  last := by
    refine ⟨[], _, rfl, ?_⟩
    cases w.fallback past with
    | ok reply => exact .inr rfl
    | error f => exact rfl
  repeats earlier sent outcome later h := by
    have hmem : Event.post sent outcome ∈ [Event.fallback (w.fallback past)] := by
      rw [h]
      exact List.mem_append_right _ List.mem_cons_self
    cases List.mem_singleton.mp hmem
  once _ := le_rfl
  asked answer h := ⟨past, (Event.fallback.inj (List.mem_singleton.mp h)).symm⟩

/-- An attempt whose reply is the last one. -/
theorem settled_answered {reply : Text} (h : Answers d reply (.post request outcome)) :
    Settled w d request (n + 1) (.ok reply) [.post request outcome] where
  posts := Nat.succ_le_succ (Nat.zero_le n)
  last := ⟨[], _, rfl, .inl h⟩
  repeats earlier sent out later h := by
    cases earlier with
    | nil => exact ⟨(Event.post.inj (List.cons.inj h).1).1.symm, fun hne => absurd rfl hne⟩
    | cons e earlier => exact absurd (List.cons.inj h).2.symm (by simp)
  once _ := Nat.zero_le 1
  asked answer h := by cases List.mem_singleton.mp h

/-- Events between a failed attempt and what settles the call. -/
def Between (w : World) (e : Event) : Prop := e = .sleep ∨ ∃ past f, w.fallback past = .error f ∧ e = .fallback (.error f)

theorem Between.no_post {e : Event} (h : Between w e) : isPost e = false := by
  rcases h with rfl | ⟨_, _, _, rfl⟩ <;> rfl

theorem Between.raised {answer : Except Failure Text} (h : Between w (.fallback answer)) :
    ∃ past f, w.fallback past = .error f ∧ answer = .error f := by
  rcases h with h | ⟨past, f, hpast, h⟩
  · cases h
  · exact ⟨past, f, hpast, Event.fallback.inj h⟩

theorem Settled.after (h : Settled w d request n reply rest) (hidle : ∀ e ∈ idle, Between w e)
    (hnext : ∀ sent out later, rest = .post sent out :: later →
      ∃ first e, .post request outcome :: idle = first ++ [e, .sleep] ∧ Unavailable e) :
    Settled w d request (n + 1) reply (.post request outcome :: (idle ++ rest)) where
  posts := by
    have hpost : isPost (.post request outcome) = true := rfl
    have hnone : idle.countP isPost = 0 := List.countP_eq_zero.mpr fun e he => by simp [(hidle e he).no_post]
    rw [List.countP_cons_of_pos hpost, List.countP_append, hnone, Nat.zero_add]
    exact Nat.succ_le_succ h.posts
  last := by
    obtain ⟨earlier, e, rfl, hlast⟩ := h.last
    exact ⟨.post request outcome :: (idle ++ earlier), e, by simp, hlast⟩
  repeats earlier sent out later hlog := by
    cases earlier with
    | nil => exact ⟨(Event.post.inj (List.cons.inj hlog).1).1.symm, fun hne => absurd rfl hne⟩
    | cons e earlier =>
        rw [List.cons_append, List.cons.injEq] at hlog
        obtain ⟨rfl, hlog⟩ := hlog
        obtain ⟨middle, rfl, hrest⟩ := past_idle (fun e he => (hidle e he).no_post) rfl hlog
        obtain ⟨hsent, hearlier⟩ := h.repeats middle sent out later hrest
        refine ⟨hsent, fun _ => ?_⟩
        cases middle with
        | nil => simpa using hnext sent out later hrest
        | cons e middle =>
            obtain ⟨first, failed, hmiddle, hfailed⟩ := hearlier (List.cons_ne_nil e middle)
            exact ⟨.post request outcome :: (idle ++ first), failed, by simp [hmiddle], hfailed⟩
  once hok := by
    have hpost : ¬ isFallback (.post request outcome) = true := Bool.false_ne_true
    have hnone : idle.countP isFallback = 0 := by
      refine List.countP_eq_zero.mpr fun e he hfallback => ?_
      rcases hidle e he with rfl | ⟨_, f, _, rfl⟩
      · cases hfallback
      · exact hok f (List.mem_cons_of_mem _ (List.mem_append_left _ he))
    rw [List.countP_cons_of_neg hpost, List.countP_append, hnone, Nat.zero_add]
    exact h.once fun f hf => hok f (List.mem_cons_of_mem _ (List.mem_append_right _ hf))
  asked answer hanswer := by
    rcases List.mem_cons.mp hanswer with hpost | hanswer
    · cases hpost
    rcases List.mem_append.mp hanswer with hidled | hrest
    · obtain ⟨past, f, hpast, rfl⟩ := (hidle _ hidled).raised
      exact ⟨past, hpast⟩
    · exact h.asked answer hrest

/-- What the loop adds to a log settles the call. -/
def Adds (w : World) (d : Decoder) (request : Request) (n : Nat) (log : List Event)
    (run : Except Failure Text × List Event) : Prop :=
  ∃ added, run.2 = log ++ added ∧ Settled w d request n run.1 added

theorem adds_fallback : Adds w d request n log (callFallback w log) := ⟨_, rfl, settled_fallback log⟩

theorem adds_again {run : Except Failure Text × List Event}
    (h : Adds w d request n (log ++ .post request outcome :: idle ++ [.sleep]) run) (hidle : ∀ e ∈ idle, Between w e)
    (hfailed : ∃ first e, .post request outcome :: idle = first ++ [e] ∧ Unavailable e) :
    Adds w d request (n + 1) log run := by
  obtain ⟨added, hlog, hsettled⟩ := h
  refine ⟨.post request outcome :: ((idle ++ [.sleep]) ++ added), ?_, hsettled.after ?_ ?_⟩
  · rw [hlog]
    simp
  · intro e he
    rcases List.mem_append.mp he with he | he
    · exact hidle e he
    · exact .inl (List.mem_singleton.mp he)
  · intro sent out later _
    obtain ⟨first, e, hfirst, he⟩ := hfailed
    refine ⟨first, e, ?_, he⟩
    rw [← List.cons_append, hfirst, List.append_assoc]
    rfl

theorem adds_asked (hidle : ∀ e ∈ idle, Between w e) :
    Adds w d request (n + 1) log (callFallback w (log ++ .post request outcome :: idle)) := by
  refine ⟨.post request outcome :: (idle ++ [.fallback (w.fallback (log ++ .post request outcome :: idle))]), ?_, ?_⟩
  · simp [callFallback]
  · refine (settled_fallback _).after hidle fun sent out later h => ?_
    cases (List.cons.inj h).1

theorem adds_handle {next : List Event → Except Failure Text × List Event} {more : Bool}
    (hnext : ∀ log, Adds w d request n log (next log)) (hidle : ∀ e ∈ idle, Between w e)
    (hfailed : f = .transient → ∃ first e, .post request outcome :: idle = first ++ [e] ∧ Unavailable e) :
    Adds w d request (n + 1) log (handle w next more f (log ++ .post request outcome :: idle)) := by
  unfold handle
  split
  · rename_i hagain
    exact adds_again (hnext _) hidle (hfailed hagain.1)
  · exact adds_asked hidle

/-- What the `try` comes to, with what was answered. -/
inductive Responds (d : Decoder) (request : Request) (outcome : Outcome) : Ending → Prop
  | text {reply : Text} (h : Answers d reply (.post request outcome)) : Responds d request outcome (.text reply)
  | retry (h : Unavailable (.post request outcome)) : Responds d request outcome .retry
  | fallBack : Responds d request outcome .fallBack
  | raised {f : Failure} (h : f = .transient → Unavailable (.post request outcome)) :
      Responds d request outcome (.raised f)

theorem accept_responds (body : Option PyValue) : Responds d request (.response 200 body) (accept d body) := by
  unfold accept
  cases hcleaned : body.bind fun data => cleanedReply (rawText data) with
  | none => exact .raised Failure.noConfusion
  | some cleaned =>
      obtain ⟨data, rfl, hdata⟩ := Option.bind_eq_some_iff.mp hcleaned
      by_cases hjson : (loads d cleaned).isSome = true
      · simp only [hjson, if_true]
        exact .text ⟨rfl, hdata, hjson⟩
      · simp only [hjson]
        exact .fallBack

theorem respond_responds (more : Bool) (outcome : Outcome) :
    Responds d request outcome (respond d more outcome) := by
  cases outcome with
  | failure f => exact .raised id
  | response status body =>
      simp only [respond]
      split
      · exact .fallBack
      split
      · exact .fallBack
      split
      · rename_i hserver
        split
        · exact .retry hserver
        · exact .fallBack
      split
      · rename_i hok
        subst hok
        exact accept_responds body
      · exact .fallBack

theorem attempts_adds (w : World) (d : Decoder) (request : Request) (n : Nat) (log : List Event) :
    Adds w d request n log (attempts w d request n log) := by
  induction n generalizing log with
  | zero => exact adds_fallback
  | succ n ih =>
      have hnone : ∀ e ∈ ([] : List Event), Between w e := fun e he => absurd he List.not_mem_nil
      have hrespond : Responds d request (w.post log request) (respond d (decide (0 < n)) (w.post log request)) :=
        respond_responds _ _
      rw [attempts]
      cases hending : respond d (decide (0 < n)) (w.post log request) with
      | text reply =>
          rw [hending] at hrespond
          cases hrespond with
          | text h => exact ⟨_, rfl, settled_answered h⟩
      | retry =>
          rw [hending] at hrespond
          cases hrespond with
          | retry h => exact adds_again (ih _) hnone ⟨[], _, rfl, h⟩
      | raised f =>
          rw [hending] at hrespond
          cases hrespond with
          | raised h => exact adds_handle ih hnone fun hf => ⟨[], _, rfl, h hf⟩
      | fallBack =>
          cases hcall : w.fallback (log ++ [.post request (w.post log request)]) with
          | ok reply =>
              have hasked : Adds w d request (n + 1) log (callFallback w (log ++ [.post request (w.post log request)])) :=
                adds_asked hnone
              simpa [callFallback, hcall] using hasked
          | error f =>
              -- the fallback raised inside the `try`
              have hbetween : ∀ e ∈ [Event.fallback (.error f)], Between w e := fun e he =>
                .inr ⟨_, f, hcall, List.mem_singleton.mp he⟩
              have hhandled : Adds w d request (n + 1) log (handle w (attempts w d request n) (decide (0 < n)) f
                  (log ++ [.post request (w.post log request), .fallback (.error f)])) :=
                adds_handle ih hbetween fun hf =>
                  ⟨[.post request (w.post log request)], _, rfl, congrArg Except.error hf⟩
              simpa [callFallback, hcall] using hhandled

section LocalFallback

variable {e : Encoder} {prompt : Text}

theorem pyMin_pyMax_num (x : PyFloat) : ∃ q : ℚ, pyMin (ofInt 1) (pyMax (ofInt 0) x) = .num q ∧ 0 ≤ q ∧ q ≤ 1 := by
  cases x with
  | num q =>
      by_cases h0 : 0 < q
      · by_cases h1 : q < 1
        · exact ⟨q, by simp [pyMin, pyMax, ofInt, h0, h1], h0.le, h1.le⟩
        · exact ⟨1, by simp [pyMin, pyMax, ofInt, h0, h1], zero_le_one, le_rfl⟩
      · exact ⟨0, by simp [pyMin, pyMax, ofInt, h0], le_rfl, zero_le_one⟩
  | posInf => exact ⟨1, by simp [pyMin, pyMax, ofInt, lt], zero_le_one, le_rfl⟩
  | negInf => exact ⟨0, by simp [pyMin, pyMax, ofInt, lt], le_rfl, zero_le_one⟩
  | nan => exact ⟨0, by simp [pyMin, pyMax, ofInt], le_rfl, zero_le_one⟩

theorem roundClamp_places (x : PyFloat) : ∃ k : ℕ, k ≤ 10000 ∧ LocalProvider.roundClamp x = .num (k / 10000) := by
  obtain ⟨q, hq, h0, h1⟩ := pyMin_pyMax_num x
  have hclamp : LocalProvider.roundClamp x = clampRound (.num q) := by
    rw [LocalProvider.roundClamp, clampRound, hq, pyMin_one h1, pyMax_zero h0]
  obtain ⟨k, hk, hplaces⟩ := clampRound_places (.num q)
  exact ⟨k, hk, hclamp.trans hplaces⟩

theorem readsFloats_roundClamp (hr : ReadsPlaces d e) (x : PyFloat) :
    ReadsFloats d.float e (.float (LocalProvider.roundClamp x)) := by
  obtain ⟨k, hk, hx⟩ := roundClamp_places x
  rw [hx]
  exact hr.printed k hk

theorem strategyOutput_json (hr : ReadsPlaces d e) (hd : 2 ≤ d.depth) (failureReason : String)
    (strategy : Enums.RecoveryStrategy) (delay : ℤ) (x : PyFloat) (amount : ℤ) :
    (loads d (dumps e (.dict (LocalProvider.strategyOutput failureReason strategy delay x amount)))).isSome = true := by
  have hreads : ReadsFloats d.float e (.dict (LocalProvider.strategyOutput failureReason strategy delay x amount)) :=
    ⟨trivial, trivial, ⟨trivial, trivial, trivial⟩, trivial, readsFloats_roundClamp hr x, trivial, trivial⟩
  rw [loads_dumps_collapse hreads,
    if_pos (le_trans (by simp [LocalProvider.strategyOutput, nesting, nestingMembers]) hd), Option.isSome_some]

theorem diagnosisOutput_json (hr : ReadsPlaces d e) (hd : 2 ≤ d.depth) (failureReason : String)
    (strategy : Enums.RecoveryStrategy) (x : PyFloat) :
    (loads d (dumps e (.dict (LocalProvider.diagnosisOutput failureReason strategy x)))).isSome = true := by
  have hreads : ReadsFloats d.float e (.dict (LocalProvider.diagnosisOutput failureReason strategy x)) :=
    ⟨trivial, readsFloats_roundClamp hr x, trivial, trivial, trivial, trivial, trivial, trivial, trivial⟩
  rw [loads_dumps_collapse hreads,
    if_pos (le_trans (by simp [LocalProvider.diagnosisOutput, nesting, nestingMembers]) hd), Option.isSome_some]

/-- Whatever the local provider is asked, it replies with JSON. -/
theorem local_json (hr : ReadsPlaces d e) (hd : 2 ≤ d.depth) {text : Text}
    (h : LocalProvider.complete d e prompt = some text) : (loads d text).isSome = true := by
  obtain ⟨confidence, -, rfl⟩ := Option.map_eq_some_iff.mp h
  by_cases hstrategy : LocalProvider.isStrategy prompt = true
  · simp only [hstrategy, if_true]
    exact strategyOutput_json hr hd _ _ _ _ _
  · simp only [hstrategy]
    exact diagnosisOutput_json hr hd _ _ _

end LocalFallback

/-- `LocalDeterministicProvider` as the fallback. -/
def localReply (d : Decoder) (e : Encoder) (userPrompt : Text) : Except Failure Text :=
  match LocalProvider.complete d e userPrompt with
  | some reply => .ok reply
  | none => .error .other

/-- Whatever the service and the fallback do, `complete` posts one request at most twice and none without credentials,
and raises only what the last call of the fallback raised. With the local provider as the fallback, what it returns
is JSON. -/
theorem complete_settled (w : World) (d : Decoder) (client : Client) (systemPrompt userPrompt : Text) :
    Settled w d (client.request systemPrompt userPrompt) (if client.accountId = [] ∨ client.apiToken = [] then 0 else 2)
        (complete w d client systemPrompt userPrompt).1 (complete w d client systemPrompt userPrompt).2 ∧
      ((∀ past, ∃ reply, w.fallback past = .ok reply) →
        ∃ reply, (complete w d client systemPrompt userPrompt).1 = .ok reply) ∧
      ∀ e : Encoder, ReadsPlaces d e → 2 ≤ d.depth → (∀ past, w.fallback past = localReply d e userPrompt) →
        ∀ reply, (complete w d client systemPrompt userPrompt).1 = .ok reply → (loads d reply).isSome = true := by
  have hsettled : Settled w d (client.request systemPrompt userPrompt)
      (if client.accountId = [] ∨ client.apiToken = [] then 0 else 2)
      (complete w d client systemPrompt userPrompt).1 (complete w d client systemPrompt userPrompt).2 := by
    unfold complete
    split
    · exact settled_fallback []
    · obtain ⟨added, hlog, h⟩ := attempts_adds w d (client.request systemPrompt userPrompt) maxAttempts []
      rw [List.nil_append] at hlog
      rwa [hlog]
  obtain ⟨earlier, e, hlog, hlast⟩ := hsettled.last
  refine ⟨hsettled, fun hreturns => ?_, fun encoder hr hd hlocal reply hreply => ?_⟩
  · cases hreply : (complete w d client systemPrompt userPrompt).1 with
    | ok reply => exact ⟨reply, rfl⟩
    | error f =>
        rw [hreply] at hlast
        obtain ⟨past, hpast⟩ := hsettled.asked (.error f) (by
          rw [hlog, hlast]
          exact List.mem_append_right _ (List.mem_singleton_self _))
        obtain ⟨reply, hok⟩ := hreturns past
        cases hok.symm.trans hpast
  · rw [hreply] at hlast
    rcases hlast with hanswers | rfl
    · match e, hanswers with
      | .post _ (.response _ (some _)), hanswers => exact hanswers.2.2
    · obtain ⟨past, hpast⟩ := hsettled.asked (.ok reply) (by
        rw [hlog]
        exact List.mem_append_right _ (List.mem_singleton_self _))
      rw [hlocal past, localReply] at hpast
      cases hcomplete : LocalProvider.complete d encoder userPrompt with
      | none => rw [hcomplete] at hpast; cases hpast
      | some text =>
          rw [hcomplete] at hpast
          obtain rfl := Except.ok.inj hpast
          exact local_json hr hd hcomplete

/-- A service that is down, and the local provider. -/
def downWorld : World where
  post _ _ := .response 503 none
  fallback _ := localReply plainPlatform.decoder plainEncoder []

def sampleClient : Client := .init ['a'] ['t', ' '] [] 512

theorem complete_settled_sample :
    (complete downWorld plainPlatform.decoder sampleClient [] []).2.map isPost = [true, false, true, false] ∧
      (complete downWorld plainPlatform.decoder sampleClient [] []).2.countP isPost ≤ 2 ∧
      ∃ reply, (complete downWorld plainPlatform.decoder sampleClient [] []).1 = .ok reply ∧
        (loads plainPlatform.decoder reply).isSome = true := by
  obtain ⟨hsettled, hreturns, hjson⟩ := complete_settled downWorld plainPlatform.decoder sampleClient [] []
  obtain ⟨reply, hreply⟩ := hreturns fun _ => ⟨_, rfl⟩
  exact ⟨rfl, hsettled.posts, reply, hreply,
    hjson plainEncoder LocalAgreement.plain_readsPlaces (by decide) (fun _ => rfl) reply hreply⟩

end RevenueRescue.HostedProvider
