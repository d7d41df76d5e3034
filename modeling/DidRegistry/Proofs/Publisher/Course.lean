import DidRegistry.Platform.Usual
import DidRegistry.Proofs.Publisher.Submit

/-!
# The courses of publishing

Which calls and sleeps publishing makes, in which order, and how it ends, for every behaviour of the
ledger: each call may break down, answer with an error, or answer with a value or with nothing.

* `Publisher.Waiting` — the courses of the wait for a receipt.  Polls that find nothing are followed by
  one sleep each; the wait is over with the first poll that fails or finds a receipt, and with the last
  poll in any case, after which there is no sleep.
* `Publisher.Publishing` — the courses of publishing.  What cannot be sent is refused before any call;
  there is one submission, and only an accepted one is waited for.

## Results

* `Publisher.await_waiting` — **the polling loop takes one of the courses of waiting**, by induction on
  the polls that are left.
* `Publisher.publish_publishing` — **every run of publishing takes one of the courses of publishing**.
-/

set_option autoImplicit false

namespace DidRegistry.Publisher

/-- A poll that finds nothing, and the sleep after it. -/
def round (hash : Json) (interval : Number) : List Happening :=
  [.answered (.receipt hash) (.ok .nothing : Attempt Receipt), .slept interval]

/-- A number of polls that find nothing, each with a sleep after it. -/
def rounds (hash : Json) (interval : Number) (k : Nat) : List Happening :=
  (List.replicate k (round hash interval)).flatten

theorem rounds_succ (hash : Json) (interval : Number) (k : Nat) :
    rounds hash interval (k + 1) = rounds hash interval k ++ round hash interval := by
  simp [rounds, List.replicate_succ']

/-- The courses of the wait for the receipt of a transaction, with a budget of `polls` polls. -/
inductive Waiting (hash : Json) (interval : Number) (polls : Nat) :
    List Happening → Ending (Except PublishError Publication) → Prop where
  /-- The poll number `k + 1` finds the receipt. -/
  | found {k : Nat} {r : Receipt} (budget : k < polls) :
      Waiting hash interval polls
        (rounds hash interval k ++ [.answered (.receipt hash) (.ok (.found r) : Attempt Receipt)])
        (.finished (.ok ⟨hash, r, k + 1⟩))
  /-- The poll number `k + 1` breaks down. -/
  | broken {k : Nat} {b : Breakdown} {e : PublishError} (budget : k < polls)
      (error : e = .receiptBroken hash b) (kind : e.report.kind = .receiptQuery) :
      Waiting hash interval polls
        (rounds hash interval k ++ [.answered (.receipt hash) (.error b : Attempt Receipt)])
        (.finished (.error e))
  /-- The answer to the poll number `k + 1` is an error, whatever value stands beside it. -/
  | failed {k : Nat} {value : Option Receipt} {fault : NodeError} {e : PublishError} (budget : k < polls)
      (error : e = .receiptFailed hash fault) (kind : e.report.kind = .receiptQuery) :
      Waiting hash interval polls
        (rounds hash interval k ++
          [.answered (.receipt hash) (.ok ⟨value, some fault⟩ : Attempt Receipt)])
        (.finished (.error e))
  /-- No poll finds anything; there is no sleep after the last one. -/
  | timeout {k : Nat} {e : PublishError} (budget : k + 1 = polls)
      (error : e = .timeout hash (.int polls)) (kind : e.report.kind = .confirmationTimeout)
      (awaited : e.report.awaited = some (hash, .int polls)) :
      Waiting hash interval polls
        (rounds hash interval k ++ [.answered (.receipt hash) (.ok .nothing : Attempt Receipt)])
        (.finished (.error e))
  /-- It is cancelled in the sleep after the poll number `k + 1`. -/
  | interrupted {k : Nat} (budget : k + 1 < polls) :
      Waiting hash interval polls
        (rounds hash interval k ++
          [.answered (.receipt hash) (.ok .nothing : Attempt Receipt), .interrupted interval])
        .cancelled
  /-- It is cancelled while the poll number `k + 1` is not answered. -/
  | abandoned {k : Nat} (budget : k < polls) :
      Waiting hash interval polls (rounds hash interval k ++ [.abandoned (.receipt hash)]) .cancelled

/-- The courses of publishing a payload, with a budget of `polls` polls. -/
inductive Publishing [Platform] (p : Publisher) (payload : List UInt8) (polls : Nat) :
    List Happening → Ending (Except PublishError Publication) → Prop where
  /-- What cannot be sent is a value error, and nothing happens. -/
  | refused {e : PublishError} (unfit : ¬ p.IsSendable payload) (planned : p.plan payload = .error e)
      (kind : e.report.kind = .value) : Publishing p payload polls [] (.finished (.error e))
  /-- The one submission is not accepted: it breaks down, or its answer is an error or has no hash. -/
  | unsent {call : RegistryCall} {answer : Attempt Json} {e : PublishError}
      (fit : p.IsSendable payload) (planned : p.plan payload = .ok call)
      (rejected : Attempt.accepted? answer = none) (kind : e.report.kind = .submission) :
      Publishing p payload polls [.answered (.send (.obj call.toMembers)) answer] (.finished (.error e))
  /-- It is cancelled while the submission is not answered. -/
  | abandoned {call : RegistryCall} (fit : p.IsSendable payload) (planned : p.plan payload = .ok call) :
      Publishing p payload polls [.abandoned (.send (.obj call.toMembers))] .cancelled
  /-- The one submission is accepted under a hash, and its receipt is waited for. -/
  | sent {call : RegistryCall} {answer : Attempt Json} {hash : Json} {hs : List Happening}
      {e : Ending (Except PublishError Publication)} (fit : p.IsSendable payload)
      (planned : p.plan payload = .ok call) (accepted : Attempt.accepted? answer = some hash)
      (waiting : Waiting hash p.settings.pollInterval polls hs e) :
      Publishing p payload polls (.answered (.send (.obj call.toMembers)) answer :: hs) e

variable {p : Publisher} {polls : Nat} {m m' : Memory}

/-- One poll: it ends the wait, or it finds nothing and the budget decides what follows. -/
theorem await_poll (hl : p.ledger = .direct) {hash : Json} {left k : Nat} {hs : List Happening}
    {e : Ending (Except PublishError Publication)} (hk : k < polls)
    (h : (p.await hash (left + 1) (k + 1)).Course m hs e m') :
    Waiting hash p.settings.pollInterval polls (rounds hash p.settings.pollInterval k ++ hs) e ∨
      ∃ rest, hs = .answered (.receipt hash) (.ok .nothing : Attempt Receipt) :: rest ∧
        (if left = 0 then .done (.error (.timeout hash p.settings.maxPolls))
          else .ask (.sleep p.settings.pollInterval) fun _ => p.await hash left (k + 1 + 1) :
          Dialogue (Except PublishError Publication)).Course (m.afterCall (.receipt hash)) rest e m' := by
  rw [await, hl] at h
  rcases Dialogue.course_call_bind h with ⟨reply, rest, rfl, hr⟩ | ⟨rfl, rfl, -⟩
  · split at hr
    · obtain ⟨rfl, rfl, -⟩ := Dialogue.course_done hr
      exact .inl (.broken hk rfl rfl)
    · obtain ⟨rfl, rfl, -⟩ := Dialogue.course_done hr
      exact .inl (.failed hk rfl rfl)
    · obtain ⟨rfl, rfl, -⟩ := Dialogue.course_done hr
      exact .inl (.found hk)
    · exact .inr ⟨rest, rfl, hr⟩
  · exact .inl (.abandoned hk)

/-- **The polling loop takes one of the courses of waiting.**  After `k` rounds there are
`polls - k` polls left, and what is still to come completes the rounds to a course. -/
theorem await_waiting (hl : p.ledger = .direct) (hn : p.settings.maxPolls = .int polls) (hash : Json) :
    ∀ (left k : Nat) (m : Memory) (hs : List Happening)
      (e : Ending (Except PublishError Publication)), k + (left + 1) = polls →
      (p.await hash (left + 1) (k + 1)).Course m hs e m' →
      Waiting hash p.settings.pollInterval polls (rounds hash p.settings.pollInterval k ++ hs) e := by
  intro left
  induction left with
  | zero =>
    intro k m hs e hk h
    rcases await_poll hl (show k < polls by omega) h with hw | ⟨rest, rfl, hr⟩
    · exact hw
    · rw [if_pos rfl, hn] at hr
      obtain ⟨rfl, rfl, -⟩ := Dialogue.course_done hr
      exact .timeout hk rfl rfl rfl
  | succ left ih =>
    intro k m hs e hk h
    rcases await_poll hl (show k < polls by omega) h with hw | ⟨rest, rfl, hr⟩
    · exact hw
    · rw [if_neg (Nat.succ_ne_zero left)] at hr
      rcases Dialogue.course_sleep hr with ⟨rest', rfl, hr'⟩ | ⟨rfl, rfl, -⟩
      · have hw := ih (k + 1) _ _ _ (by omega) hr'
        rw [rounds_succ, List.append_assoc] at hw
        exact hw
      · exact .interrupted (by omega)

theorem awaitAll_waiting (hl : p.ledger = .direct) (hn : p.settings.maxPolls = .int polls)
    (hpos : 0 < polls) {hash : Json} {hs : List Happening}
    {e : Ending (Except PublishError Publication)} (h : (p.awaitAll hash).Course m hs e m') :
    Waiting hash p.settings.pollInterval polls hs e := by
  obtain ⟨left, rfl⟩ : ∃ left, polls = left + 1 := ⟨polls - 1, by omega⟩
  rw [awaitAll, hn] at h
  exact await_waiting hl hn hash left 0 m hs e (by omega) h

/-- **Every run of publishing takes one of the courses of publishing**, whatever the ledger answers,
when the budget of polls is a positive whole number. -/
theorem publish_publishing [Platform] {p : Publisher} {polls : Nat} (hl : p.ledger = .direct)
    (hn : p.settings.maxPolls = .int polls) (hpos : 0 < polls) (payload : List UInt8) (memo : Json)
    (w : Surroundings) (start : Progress) :
    p.Publishing payload polls ((p.publish payload memo).transcript w start)
      ((p.publish payload memo).run w start).1 := by
  have h := Dialogue.run_course w (p.publish payload memo) start
  generalize (p.publish payload memo).transcript w start = hs at h ⊢
  generalize ((p.publish payload memo).run w start).1 = e at h ⊢
  by_cases hs : p.IsSendable payload
  · obtain ⟨call, hc⟩ := plan_of_isSendable hs
    rw [publish_eq hc, hl] at h
    rcases Dialogue.course_call_bind h with ⟨answer, rest, rfl, hr⟩ | ⟨rfl, rfl, -⟩
    · cases ha : Attempt.accepted? answer with
      | none =>
        obtain ⟨e', hv, hk⟩ := verdict_of_not_accepted memo ha
        rw [hv] at hr
        obtain ⟨rfl, rfl, -⟩ := Dialogue.course_done hr
        exact .unsent hs hc ha hk
      | some hash =>
        rw [verdict_of_accepted memo ha] at hr
        exact .sent hs hc ha (awaitAll_waiting hl hn hpos (Dialogue.course_remember hr))
    · exact .abandoned hs hc
  · obtain ⟨e', he, hk⟩ := plan_of_not_isSendable hs
    rw [publish_of_error he] at h
    obtain ⟨rfl, rfl, -⟩ := Dialogue.course_done h
    exact .refused hs he hk

theorem isValid_ones : (Address.mk (List.replicate 40 '1')).IsValid := by
  refine ⟨List.length_replicate, fun c hc => ?_⟩
  rw [List.eq_of_mem_replicate hc]
  exact ⟨by decide, by decide⟩

/-- A publisher that polls twice, a second apart. -/
def sample : Publisher where
  ledger := .direct
  account := ⟨List.replicate 40 '1'⟩
  settings :=
    { url := .str "http://localhost:8545"
      contract := .str "0x2222222222222222222222222222222222222222"
      fees := ⟨.int 1, .int 21000⟩
      maxPolls := .int 2
      pollInterval := .int 1
      depth := .int 3
      timeout := .int 30 }

/-- Surroundings in which a submission is accepted and never gets into a block. -/
def unmined : Surroundings where
  respond _
    | .send _ => .ok (.found (.str "0xab"))
    | .receipt _ => .ok .nothing
    | .transaction _ => .ok .nothing
    | .height => .ok .nothing
    | .post _ _ _ => .error .shapeless

/-- Surroundings in which a node accepts a submission and never has a receipt. -/
def unminedNode : Surroundings where
  respond _
    | .post _ method _ =>
      .ok (.obj [("result", if method = Call.submissionMethod then .str "0xab" else .null)])
    | .send _ => .error .shapeless
    | .receipt _ => .error .shapeless
    | .transaction _ => .error .shapeless
    | .height => .error .shapeless

section

attribute [local instance] Platform.usual

theorem publish_publishing_sample :
    sample.ledger = .direct ∧ sample.settings.maxPolls = .int 2 ∧
      sample.Publishing [0x7b, 0x7d] 2
        ((sample.publish [0x7b, 0x7d] .null).transcript unmined ⟨.fresh, 0, 0, []⟩)
        ((sample.publish [0x7b, 0x7d] .null).run unmined ⟨.fresh, 0, 0, []⟩).1 :=
  ⟨rfl, rfl, publish_publishing rfl rfl (by decide) [0x7b, 0x7d] .null unmined ⟨.fresh, 0, 0, []⟩⟩

end

end DidRegistry.Publisher
