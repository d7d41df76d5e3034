import DidRegistry.Ledger.Standing
import DidRegistry.Proofs.Ledger.Transcript
import DidRegistry.Proofs.Outcome

/-!
# Submissions

Which calls hand a transaction to a ledger, and under which hash a transcript says that one was
accepted.  Both are read off the calls and the replies alone, for a ledger that is called without
requests as for one behind a node.

## Results

* `Ledger.course_send` — sending makes at most one submission, and what a client of a ledger answers is
  accepted exactly when the reply that came back accepts it.
* `Dialogue.Quiet.course` — a dialogue that neither submits nor keeps a hash leaves no submission and
  the kept hash as it is.
* `Dialogue.Inquires.abandoned` — a dialogue that only asks is cancelled only while it waits for a
  reply.
* `Ledger.asks_query`, `Ledger.asks_send`, `Ledger.asks_standing` — what a ledger asks for; reading a client,
  where a transaction is or how deep it lies, is only asking (`Ledger.IsClient.inquires`).
-/

set_option autoImplicit false

namespace DidRegistry

/-! ## What responses carry -/

/-- The result that a response carries: it is an object, its error is null or not there, and it has a
result. -/
def Rpc.resultOf? (response : Except Breakdown Json) : Option Json :=
  match response with
  | .ok (.obj ms) =>
    if (Json.Members.get? ms "error").getD .null = .null then Json.Members.get? ms "result" else none
  | _ => none

theorem Rpc.read_obj (ms : Json.Members) (v : Json) :
    Rpc.read (.obj ms) = .ok (.ok v) ↔ Rpc.resultOf? (.ok (.obj ms)) = some v := by
  simp only [Rpc.read, Rpc.resultOf?, Json.get?]
  split
  · rename_i he
    rw [if_pos he]
    split <;> simp_all
  · rename_i fields he
    rw [if_neg (by rw [he]; simp)]
    cases Rpc.errorOf fields <;> simp [Except.map]
  · rename_i hn _
    rw [if_neg hn]
    simp

theorem Ledger.readResponse_eq_iff {response : Except Breakdown Json} {v : Json} :
    Ledger.readResponse response = .ok (.ok v) ↔ Rpc.resultOf? response = some v := by
  cases response with
  | error b => simp [Ledger.readResponse, Rpc.resultOf?]
  | ok r =>
    refine mapError_eq_ok.trans ?_
    cases r with
    | obj ms => exact Rpc.read_obj ms v
    | _ => simp [Rpc.resultOf?, Rpc.read]

/-! ## Submissions in transcripts -/

/-- The method that takes transactions. -/
def Call.submissionMethod : String := "eth_sendTransaction"

/-- Whether a call hands a transaction to a ledger. -/
def Call.isSubmission : Call → Bool
  | .post _ method _ => method == submissionMethod
  | .send _ => true
  | _ => false

/-- Whether a call is asked for that hands a transaction to a ledger. -/
def Ask.isSubmission : Ask → Bool
  | .call c => c.isSubmission
  | _ => false

/-- Whether a transaction was handed to a ledger. -/
def Happening.isSubmission (x : Happening) : Bool := x.ask.isSubmission

/-- The hash under which an answer accepts a transaction: there is no error, and the hash stands for
something. -/
def Attempt.accepted? : Attempt Json → Option Json
  | .ok ⟨some hash, none⟩ => if hash.isPresent then some hash else none
  | _ => none

/-- The hash under which a transaction was accepted when sending it ended so. -/
def Ending.accepted? : Ending (Attempt Json) → Option Json
  | .finished a => Attempt.accepted? a
  | .cancelled => none

/-- The hash under which the reply to a call accepts a transaction. -/
def Call.accepted? : (c : Call) → c.Reply → Option Json
  | .post _ method _, reply =>
    if method = submissionMethod then
      (Rpc.resultOf? reply).filter fun v => v.isString && v.isPresent
    else none
  | .send _, reply => Attempt.accepted? reply
  | _, _ => none

theorem Call.accepted?_post (url : Text) (params : List Json) (response : Except Breakdown Json) :
    Call.accepted? (.post url submissionMethod params) response =
      (Rpc.resultOf? response).filter fun v => v.isString && v.isPresent := by
  simp [Call.accepted?]

/-- The hash under which a transaction was accepted. -/
def Happening.accepted? : Happening → Option Json
  | .answered c reply => c.accepted? reply
  | _ => none

/-- The hashes under which transactions were accepted, the latest last. -/
def acceptedIn (hs : List Happening) : List Json := hs.filterMap Happening.accepted?

@[simp] theorem acceptedIn_nil : acceptedIn [] = [] := rfl

@[simp] theorem acceptedIn_append (hs gs : List Happening) :
    acceptedIn (hs ++ gs) = acceptedIn hs ++ acceptedIn gs := List.filterMap_append

theorem acceptedIn_answered (c : Call) (reply : c.Reply) :
    acceptedIn [.answered c reply] = (c.accepted? reply).toList := by
  cases h : c.accepted? reply <;> simp [acceptedIn, Happening.accepted?, h]

theorem Happening.accepted?_eq_none {x : Happening} (h : x.isSubmission = false) :
    x.accepted? = none := by
  cases x with
  | answered c reply =>
    cases c with
    | post url method params =>
      have hm : method ≠ Call.submissionMethod := by
        simpa [Happening.isSubmission, Happening.ask, Ask.isSubmission, Call.isSubmission] using h
      simp [Happening.accepted?, Call.accepted?, hm]
    | send tx => simp [Happening.isSubmission, Happening.ask, Ask.isSubmission, Call.isSubmission] at h
    | _ => rfl
  | _ => rfl

theorem acceptedIn_eq_nil {hs : List Happening} (h : ∀ x ∈ hs, x.isSubmission = false) :
    acceptedIn hs = [] :=
  List.filterMap_eq_nil_iff.mpr fun x hx => Happening.accepted?_eq_none (h x hx)

/-! ## Dialogues that submit nothing -/

/-- Whether an ask neither submits a transaction nor keeps a hash. -/
def Ask.isQuiet : Ask → Bool
  | .call c => !c.isSubmission
  | .remember _ => false
  | _ => true

/-- Whether an ask is quiet and no sleep. -/
def Ask.isInquiry : Ask → Bool
  | .sleep _ => false
  | a => a.isQuiet

namespace Dialogue

variable {α β : Type} {m m' : Memory} {hs : List Happening}

/-- A dialogue that neither submits a transaction nor keeps a hash. -/
def Quiet (d : Dialogue α) : Prop := d.Asks fun a => a.isQuiet = true

theorem Quiet.done (a : α) : Quiet (.done a) := Asks.done a

theorem Quiet.bind {d : Dialogue α} {f : α → Dialogue β} (hd : d.Quiet) (hf : ∀ a, (f a).Quiet) :
    (d.bind f).Quiet := Asks.bind hd hf

/-- A quiet dialogue leaves no submission and the kept hash as it is. -/
theorem Quiet.course {d : Dialogue α} {e : Ending α} (hd : d.Quiet) (h : d.Course m hs e m') :
    (∀ x ∈ hs, x.isSubmission = false) ∧ m'.last = m.last := by
  refine ⟨fun x hx => ?_, hd.last_eq (fun _ => by simp [Ask.isQuiet]) h⟩
  have hq := Asks.course hd h x hx
  unfold Happening.isSubmission
  cases ha : x.ask with
  | call c => simpa [ha, Ask.isQuiet, Ask.isSubmission] using hq
  | _ => rfl

/-- A dialogue that only asks: it is quiet, and it does not sleep. -/
def Inquires (d : Dialogue α) : Prop := d.Asks fun a => a.isInquiry = true

theorem Inquires.quiet {d : Dialogue α} (hd : d.Inquires) : d.Quiet := by
  refine Asks.mono (fun a ha => ?_) hd
  cases a with
  | sleep s => rfl
  | _ => exact ha

/-- A dialogue that only asks is cancelled only while it waits for a reply. -/
theorem Inquires.abandoned {d : Dialogue α} (hd : d.Inquires) (h : d.Course m hs .cancelled m') :
    ∃ before c, hs = before ++ [.abandoned c] := by
  generalize he : (Ending.cancelled : Ending α) = e at h
  induction h with
  | done => cases he
  | abandoned => exact ⟨[], _, rfl⟩
  | answered _ ih =>
    cases hd with
    | ask _ hn =>
      obtain ⟨before, c, rfl⟩ := ih (hn _) he
      exact ⟨_ :: before, c, rfl⟩
  | slept | interrupted =>
    cases hd with
    | ask ha _ => cases ha
  | lastHash _ ih | remember _ ih =>
    cases hd with
    | ask _ hn => exact ih (hn _) he

end Dialogue

/-! ## Clients of a ledger -/

namespace Ledger

open Dialogue

variable {α : Type} {m m' : Memory} {hs : List Happening}

/-- The two ledgers there are: one that is called without requests, and one behind a node. -/
inductive IsClient : Ledger → Prop where
  | direct : IsClient .direct
  | ofNode (url : Text) : IsClient (.ofNode url)

/-- What a response comes to when its result is read by `read`. -/
def attemptOf (read : Json → Attempt α) (response : Except Breakdown Json) : Attempt α :=
  match readResponse response with
  | .error b => .error b
  | .ok (.error e) => .ok (.failed e)
  | .ok (.ok v) => read v

theorem attemptOf_of_result {read : Json → Attempt α} {response : Except Breakdown Json} {v : Json}
    (h : Rpc.resultOf? response = some v) : attemptOf read response = read v := by
  rw [attemptOf, readResponse_eq_iff.mpr h]

theorem attemptOf_of_none (read : Json → Attempt α) {response : Except Breakdown Json}
    (h : Rpc.resultOf? response = none) :
    (∃ b, attemptOf read response = .error b) ∨ ∃ e, attemptOf read response = .ok (.failed e) := by
  unfold attemptOf
  cases hr : readResponse response with
  | error b => exact .inl ⟨b, rfl⟩
  | ok r =>
    cases r with
    | error e => exact .inr ⟨e, rfl⟩
    | ok v =>
      rw [readResponse_eq_iff.mp hr] at h
      cases h

theorem query_eq (url : Text) (method : String) (params : List Json) (read : Json → Attempt α) :
    query url method params read =
      (Dialogue.post url method params).bind fun response => .done (attemptOf read response) := by
  refine congrArg (Dialogue.bind _) (funext fun response => ?_)
  unfold attemptOf
  cases readResponse response with
  | error b => rfl
  | ok r => cases r <;> rfl

theorem course_query {url : Text} {method : String} {params : List Json} {read : Json → Attempt α}
    {e : Ending (Attempt α)} (h : (query url method params read).Course m hs e m') :
    m'.last = m.last ∧
      ((∃ response, hs = [.answered (.post url method params) response] ∧
          e = .finished (attemptOf read response)) ∨
        (hs = [.abandoned (.post url method params)] ∧ e = .cancelled)) := by
  rw [query_eq] at h
  rcases course_call_bind h with ⟨response, rest, rfl, hr⟩ | ⟨rfl, rfl, rfl⟩
  · obtain ⟨rfl, rfl, rfl⟩ := course_done hr
    exact ⟨Memory.afterCall_last _ _, .inl ⟨response, rfl, rfl⟩⟩
  · exact ⟨Memory.afterCall_last _ _, .inr ⟨rfl, rfl⟩⟩

theorem course_query_bind {β : Type} {url : Text} {method : String} {params : List Json}
    {read : Json → Attempt α} {f : Attempt α → Dialogue β} {e : Ending β}
    (h : ((query url method params read).bind f).Course m hs e m') :
    (∃ response rest, hs = .answered (.post url method params) response :: rest ∧
        (f (attemptOf read response)).Course (m.afterCall (.post url method params)) rest e m') ∨
      (hs = [.abandoned (.post url method params)] ∧ e = .cancelled) := by
  rw [query_eq, bind_assoc] at h
  rcases course_call_bind h with ⟨response, rest, rfl, hr⟩ | ⟨rfl, rfl, -⟩
  · exact .inl ⟨response, rest, rfl, hr⟩
  · exact .inr ⟨rfl, rfl⟩

/-! ### What a ledger asks for -/

section

variable {P : Ask → Prop} {ledger : Ledger} {url : Text} {hash : Json}

theorem asks_query {method : String} {params : List Json} (h : P (.call (.post url method params)))
    (read : Json → Attempt α) : (query url method params read).Asks P := by
  rw [query_eq]
  exact Asks.bind (.call h) fun _ => .done _

/-- A node is sent what a transaction is on the wire, if it is anything there. -/
theorem asks_send {tx : Json}
    (h : ∀ wire, wireTransaction tx = .ok wire → P (.call (.post url Call.submissionMethod [.obj wire]))) :
    ((ofNode url).send tx).Asks P := by
  simp only [ofNode]
  split
  · exact .done _
  · rename_i wire hwire
    exact asks_query (h wire hwire) _

/-- Where a transaction stands is found out by looking it up and asking for the height. -/
theorem asks_standing (ht : (ledger.transaction hash).Asks P) (hh : ledger.height.Asks P) :
    (ledger.standing hash).Asks P := by
  refine ht.bind fun a => ?_
  split
  · exact .done _
  · exact .done _
  · exact .done _
  · split
    · exact .done _
    · refine hh.bind fun b => ?_
      split <;> exact .done _

theorem asks_isSettled (ht : (ledger.transaction hash).Asks P) (hh : ledger.height.Asks P) (depth : Json) :
    (ledger.isSettled depth hash).Asks P :=
  (asks_standing ht hh).bind fun _ => .done _

/-- Reading a ledger asks for nothing but what `P` allows. -/
structure ReadsWithin (P : Ask → Prop) (ledger : Ledger) : Prop where
  receipt : ∀ hash, (ledger.receipt hash).Asks P
  transaction : ∀ hash, (ledger.transaction hash).Asks P
  height : ledger.height.Asks P

theorem ReadsWithin.isSettled (h : ledger.ReadsWithin P) (depth hash : Json) :
    (ledger.isSettled depth hash).Asks P :=
  asks_isSettled (h.transaction hash) h.height depth

theorem ReadsWithin.standingAndDepth (h : ledger.ReadsWithin P) (hash : Json) :
    (ledger.standingAndDepth hash).Asks P :=
  (asks_standing (h.transaction hash) h.height).bind fun _ => .done _

theorem readsWithin_ofNode
    (h : ∀ method params, method ≠ Call.submissionMethod → P (.call (.post url method params))) :
    (ofNode url).ReadsWithin P where
  receipt _ := asks_query (h _ _ (by decide)) _
  transaction _ := asks_query (h _ _ (by decide)) _
  height := asks_query (h _ _ (by decide)) _

/-- Reading a ledger is only asking. -/
theorem IsClient.inquires (hl : ledger.IsClient) : ledger.ReadsWithin fun a => a.isInquiry = true := by
  cases hl with
  | direct => exact ⟨fun _ => .call rfl, fun _ => .call rfl, .call rfl⟩
  | ofNode url =>
    exact readsWithin_ofNode fun _ _ hm => by simp [Ask.isInquiry, Ask.isQuiet, Call.isSubmission, hm]

end

/-- A node's answer to a submission is read as accepting it when its result is a text that is not
empty. -/
theorem accepted?_attemptOf (response : Except Breakdown Json) :
    Attempt.accepted? (attemptOf (fun v => .ok (hashAnswer v)) response) =
      (Rpc.resultOf? response).filter fun v => v.isString && v.isPresent := by
  cases hr : Rpc.resultOf? response with
  | some v =>
    rw [attemptOf_of_result hr, Option.filter_some]
    unfold hashAnswer
    split
    · rename_i hv
      rw [Bool.and_eq_true] at hv
      simp [Answer.found, Attempt.accepted?, hv.2]
    · rfl
  | none =>
    rcases attemptOf_of_none (fun v => .ok (hashAnswer v)) hr with ⟨b, he⟩ | ⟨e, he⟩ <;>
      rw [he] <;> rfl

/-- **Sending** keeps no hash, and its answer accepts a transaction exactly when the reply to the one
submission does. -/
theorem course_send {ledger : Ledger} (hl : ledger.IsClient) {tx : Json} {e : Ending (Attempt Json)}
    (h : (ledger.send tx).Course m hs e m') :
    m'.last = m.last ∧
      acceptedIn hs = e.accepted?.toList := by
  cases hl with
  | direct =>
    obtain ⟨hm, ⟨reply, rfl, rfl⟩ | ⟨rfl, rfl⟩⟩ := course_of_call h
    · exact ⟨by rw [hm, Memory.afterCall_last], acceptedIn_answered _ _⟩
    · exact ⟨by rw [hm, Memory.afterCall_last], rfl⟩
  | ofNode url =>
    simp only [ofNode] at h
    split at h
    · obtain ⟨rfl, rfl, rfl⟩ := course_done h
      exact ⟨rfl, rfl⟩
    · obtain ⟨hm, ⟨response, rfl, rfl⟩ | ⟨rfl, rfl⟩⟩ := course_query h
      · refine ⟨hm, (acceptedIn_answered _ _).trans (congrArg Option.toList ?_)⟩
        exact (Call.accepted?_post url _ response).trans (accepted?_attemptOf response).symm
      · exact ⟨hm, rfl⟩

end Ledger

end DidRegistry
