import DidRegistry.Proofs.Ledger.Interleaving
import DidRegistry.Proofs.Publisher.Gate

/-!
# What a ledger has reported

A transaction that was looked up is unknown, or it is in a block and so many blocks lie on top of it.  Both
are read off what a task has done, act by act, for a ledger that is called without requests as for one behind
a node.

## Results

* `Ledger.reported_of_isSettled` — **a transaction counts as settled only after the ledger has reported it**
  as unknown or as lying deep enough.
* `Ledger.track_send_bind` — sending makes at most one submission, whose reply says under which hash the
  transaction was accepted.
* `Ledger.looksUp_isSettled` — finding out whether a transaction is settled looks no other one up.
-/

set_option autoImplicit false

namespace DidRegistry

/-! ## What a ledger reports -/

/-- The hash of the transaction that a call looks up. -/
def Call.lookup? : Call → Option Json
  | .post _ method [hash] => if method = "eth_getTransactionByHash" then some hash else none
  | .transaction hash => some hash
  | _ => none

def Ask.lookup? : Ask → Option Json
  | .call c => c.lookup?
  | _ => none

/-- What came of looking a transaction up, with its hash. -/
def Act.lookup? : Act → Option (Json × Attempt KnownTransaction)
  | .answered (.post _ method [hash]) response =>
    if method = "eth_getTransactionByHash" then
      some (hash, Ledger.attemptOf (Ledger.transactionAnswer hash) response)
    else none
  | .answered (.transaction hash) attempt => some (hash, attempt)
  | _ => none

/-- What came of asking for the number of the highest block. -/
def Act.height? : Act → Option (Attempt Json)
  | .answered (.post _ method []) response =>
    if method = "eth_blockNumber" then
      some (Ledger.attemptOf (fun v => .ok (Ledger.heightAnswer v)) response)
    else none
  | .answered .height attempt => some attempt
  | _ => none

theorem Act.lookup?_answered (url : Text) (hash : Json) (response : Except Breakdown Json) :
    (Act.answered (.post url "eth_getTransactionByHash" [hash]) response).lookup? =
      some (hash, Ledger.attemptOf (Ledger.transactionAnswer hash) response) := by
  simp [Act.lookup?]

theorem Act.height?_answered (url : Text) (response : Except Breakdown Json) :
    (Act.answered (.post url "eth_blockNumber" []) response).height? =
      some (Ledger.attemptOf (fun v => .ok (Ledger.heightAnswer v)) response) := by
  simp [Act.height?]

theorem Act.lookup?_ask {x : Act} {hash : Json} {a : Attempt KnownTransaction}
    (h : x.lookup? = some (hash, a)) : x.ask.lookup? = some hash := by
  unfold Act.lookup? at h
  split at h
  · rename_i method given response
    split at h
    · rename_i hm
      cases h
      simp [Act.ask, Ask.lookup?, Call.lookup?, hm]
    · cases h
  · cases h
    rfl
  · cases h

/-- In these acts the ledger reported the transaction of a hash as unknown, or as lying in a block with at
least `depth` blocks on top of it. -/
inductive Reported (depth : Number) (hash : Json) (acts : List Act) : Prop where
  | unknown {x : Act} (done : x ∈ acts) (answer : x.lookup? = some (hash, .ok .nothing))
  | deep {x y : Act} {t : KnownTransaction} {head : Json} {n : Number} (done : List.Sublist [x, y] acts)
      (answer : x.lookup? = some (hash, .ok (.found t))) (height : y.height? = some (.ok (.found head)))
      (above : (Standing.mk hash true t.block head).depth? = .ok (some n)) (enough : depth.le n = true)

namespace Reported

variable {depth : Number} {hash : Json} {acts acts' : List Act}

theorem mono (hs : List.Sublist acts acts') (h : Reported depth hash acts) : Reported depth hash acts' := by
  cases h with
  | unknown hx ha => exact .unknown (hs.subset hx) ha
  | deep hxy ha hh hn he => exact .deep (hxy.trans hs) ha hh hn he

theorem exists_lookup (h : Reported depth hash acts) : ∃ x ∈ acts, x.ask.lookup? = some hash := by
  cases h with
  | unknown hx ha => exact ⟨_, hx, Act.lookup?_ask ha⟩
  | deep hxy ha _ _ _ => exact ⟨_, hxy.subset List.mem_cons_self, Act.lookup?_ask ha⟩

end Reported

/-! ## Tracks of the gate -/

namespace Ledger

open Dialogue

variable {α β : Type} {ledger : Ledger} {acts : List Act} {stand : Dialogue β}

theorem track_query_bind {url : Text} {method : String} {params : List Json} {read : Json → Attempt α}
    {f : Attempt α → Dialogue β} (h : ((query url method params read).bind f).Track acts stand) :
    (∃ response rest, acts = .called (.post url method params) ::
        .answered (.post url method params) response :: rest ∧
          (f (attemptOf read response)).Track rest stand) ∨
      (acts = [.called (.post url method params)] ∧ ∀ b, stand ≠ .done b) := by
  rw [query_eq, bind_assoc] at h
  exact track_call_bind h

theorem track_transaction_bind (hl : ledger.IsClient) {hash : Json}
    {f : Attempt KnownTransaction → Dialogue β} {b : β}
    (h : ((ledger.transaction hash).bind f).Track acts (.done b)) :
    ∃ c x a rest, acts = .called c :: x :: rest ∧ x.lookup? = some (hash, a) ∧
      (f a).Track rest (.done b) := by
  cases hl with
  | direct =>
    rcases track_call_bind h with ⟨reply, rest, rfl, hr⟩ | ⟨-, hn⟩
    · exact ⟨_, .answered (.transaction hash) reply, reply, rest, rfl, rfl, hr⟩
    · exact absurd rfl (hn b)
  | ofNode url =>
    rcases track_query_bind h with ⟨response, rest, rfl, hr⟩ | ⟨-, hn⟩
    · exact ⟨_, _, _, rest, rfl, Act.lookup?_answered url hash response, hr⟩
    · exact absurd rfl (hn b)

theorem track_height_bind (hl : ledger.IsClient) {f : Attempt Json → Dialogue β} {b : β}
    (h : (ledger.height.bind f).Track acts (.done b)) :
    ∃ c y a rest, acts = .called c :: y :: rest ∧ y.height? = some a ∧ (f a).Track rest (.done b) := by
  cases hl with
  | direct =>
    rcases track_call_bind h with ⟨reply, rest, rfl, hr⟩ | ⟨-, hn⟩
    · exact ⟨_, .answered .height reply, reply, rest, rfl, rfl, hr⟩
    · exact absurd rfl (hn b)
  | ofNode url =>
    rcases track_query_bind h with ⟨response, rest, rfl, hr⟩ | ⟨-, hn⟩
    · exact ⟨_, _, _, rest, rfl, Act.height?_answered url response, hr⟩
    · exact absurd rfl (hn b)

theorem isSettled_eq_true {depth : Number} {c : Standing} (hf : c.found = true)
    (h : c.isSettled (.ofNumber depth) = .ok true) : ∃ n, c.depth? = .ok (some n) ∧ depth.le n = true := by
  unfold Standing.isSettled at h
  rw [hf] at h
  simp only [Bool.not_true, Bool.false_eq_true, if_false, Json.number?_ofNumber] at h
  split at h
  · cases h
  · cases h
  · rename_i n hn
    exact ⟨n, hn, Except.ok.inj h⟩

/-- **A transaction counts as settled only after the ledger has reported it** as unknown or as lying deep
enough. -/
theorem reported_of_isSettled (hl : ledger.IsClient) {depth : Number} {hash : Json}
    (h : (ledger.isSettled (.ofNumber depth) hash).Track acts (.done (.ok true))) :
    Reported depth hash acts := by
  have h : ((ledger.standing hash).bind (settlement depth)).Track acts (.done (.ok true)) := h
  unfold standing at h
  rw [bind_eq, bind_assoc] at h
  obtain ⟨c, x, a, rest, rfl, hx, hr⟩ := track_transaction_bind hl h
  have hdone : x ∈ Act.called c :: x :: rest := by simp
  split at hr
  · cases (track_done hr).2
  · cases (track_done hr).2
  · exact .unknown hdone hx
  · rename_i t
    split at hr
    · -- one that waits for its block is not settled
      cases (track_done hr).2
    · unfold standingInBlock at hr
      rw [bind_eq, bind_assoc] at hr
      obtain ⟨c', y, b, rest', rfl, hy, hr'⟩ := track_height_bind hl hr
      split at hr'
      · cases (track_done hr').2
      · rename_i head
        have hsettled : (Standing.mk hash true t.block head).isSettled (.ofNumber depth) = .ok true := by
          have he := (track_done hr').2
          exact (mapError_eq_ok.mp (Dialogue.done.inj he).symm)
        obtain ⟨n, hn, hle⟩ := isSettled_eq_true rfl hsettled
        refine .deep ?_ hx hy hn hle
        exact .cons _ (.cons_cons _ (.cons _ (.cons_cons _ (List.nil_sublist _))))
      · cases (track_done hr').2

/-! ## Tracks of submissions -/

/-- A dialogue that goes on after sending: nothing goes out, or one submission does, whose reply says
under which hash the transaction was accepted. -/
theorem track_send_bind (hl : ledger.IsClient) {tx : Json} {f : Attempt Json → Dialogue β}
    (h : ((ledger.send tx).bind f).Track acts stand) :
    (∃ a, Attempt.accepted? a = none ∧ (f a).Track acts stand) ∨
      ∃ c, c.isSubmission = true ∧ (acts = [.called c] ∨
        ∃ reply rest a, acts = .called c :: .answered c reply :: rest ∧
          Attempt.accepted? a = c.accepted? reply ∧ (f a).Track rest stand) := by
  cases hl with
  | direct =>
    refine .inr ⟨.send tx, rfl, ?_⟩
    rcases track_call_bind h with ⟨reply, rest, rfl, hr⟩ | ⟨rfl, -⟩
    · exact .inr ⟨reply, rest, reply, rfl, rfl, hr⟩
    · exact .inl rfl
  | ofNode url =>
    simp only [ofNode] at h
    split at h
    · exact .inl ⟨_, rfl, h⟩
    · rename_i wire _
      refine .inr ⟨.post url Call.submissionMethod [.obj wire], by simp [Call.isSubmission], ?_⟩
      rcases track_query_bind h with ⟨response, rest, rfl, hr⟩ | ⟨rfl, -⟩
      · have ha := (accepted?_attemptOf response).trans (Call.accepted?_post url [.obj wire] response).symm
        exact .inr ⟨response, rest, _, rfl, ha, hr⟩
      · exact .inl rfl

end Ledger

/-! ## What is looked up -/

namespace Dialogue

variable {α β : Type} {last : Option Json}

/-- A dialogue that looks no transaction up, unless it is the one of the hash `last`. -/
def LooksUp (last : Option Json) (d : Dialogue α) : Prop :=
  d.Asks fun a => ∀ hash, a.lookup? = some hash → last = some hash

theorem LooksUp.done (a : α) : LooksUp last (.done a) := Asks.done a

theorem LooksUp.bind {d : Dialogue α} {f : α → Dialogue β} (hd : d.LooksUp last)
    (hf : ∀ a, (f a).LooksUp last) : (d.bind f).LooksUp last := Asks.bind hd hf

theorem LooksUp.call {c : Call} (h : c.lookup? = none) : (Dialogue.call c).LooksUp last := by
  refine Asks.call fun hash hc => ?_
  rw [show (Ask.call c).lookup? = c.lookup? from rfl, h] at hc
  cases hc

end Dialogue

open Dialogue

namespace Ledger

variable {α : Type} {ledger : Ledger} {last : Option Json}

theorem looksUp_query {url : Text} {method : String} (params : List Json) (read : Json → Attempt α)
    (hm : method ≠ "eth_getTransactionByHash") : (query url method params read).LooksUp last := by
  refine asks_query (fun hash h => ?_) read
  have hnone : (Call.post url method params).lookup? = none := by
    unfold Call.lookup?
    split
    · rename_i he
      cases he
      exact if_neg hm
    · rename_i he
      cases he
    · rfl
  rw [Ask.lookup?, hnone] at h
  cases h

theorem looksUp_send (hl : ledger.IsClient) (tx : Json) : (ledger.send tx).LooksUp last := by
  cases hl with
  | direct => exact .call rfl
  | ofNode url => exact asks_send fun _ _ _ h => by simp [Ask.lookup?, Call.lookup?,
    Call.submissionMethod] at h

theorem looksUp_receipt (hl : ledger.IsClient) (hash : Json) : (ledger.receipt hash).LooksUp last := by
  cases hl with
  | direct => exact .call rfl
  | ofNode url => exact looksUp_query _ _ (by decide)

theorem looksUp_height (hl : ledger.IsClient) : ledger.height.LooksUp last := by
  cases hl with
  | direct => exact .call rfl
  | ofNode url => exact looksUp_query _ _ (by decide)

theorem looksUp_transaction (hl : ledger.IsClient) (hash : Json) :
    (ledger.transaction hash).LooksUp (some hash) := by
  cases hl with
  | direct => exact Asks.call fun _ h => h
  | ofNode url =>
    refine asks_query (fun given h => ?_) _
    simpa [Ask.lookup?, Call.lookup?] using h

theorem looksUp_isSettled (hl : ledger.IsClient) (depth hash : Json) :
    (ledger.isSettled depth hash).LooksUp (some hash) :=
  asks_isSettled (looksUp_transaction hl hash) (looksUp_height hl) depth

end Ledger

end DidRegistry
