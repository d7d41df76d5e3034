import DidRegistry.Platform.Usual
import DidRegistry.Proofs.Ledger.Address
import DidRegistry.Proofs.Publisher.Course
import DidRegistry.Proofs.Publisher.Recall
import DidRegistry.Proofs.Publisher.Submit
import DidRegistry.Proofs.Settings

/-!
# How publishing ends after a submission

Once a transaction was submitted, publishing is documented to end in one of four ways: with the receipt,
with a failed query for it, with the polls used up, or cancelled; and to poll at least once and at most
as often as is set.  Settings that are read from an object leave one gap: the number of polls may be
written with a fraction of zero, and the polls cannot be counted then.

## Results

* `Publisher.course_await` — the loop lemma: the courses of polling, by induction on the polls that are
  left.
* `PublisherSettings.ofJson_maxPolls` — the number of polls that an object sets.
* `Publisher.publish_documented_iff` — **after a submission was accepted, publishing ends in a documented
  way exactly when the number of polls is not given as a binary number**; when it is, not a single poll is
  made and the caller gets an error about types.
-/

set_option autoImplicit false

namespace DidRegistry

/-! ## Polls -/

/-- Whether a call asks for a receipt. -/
def Call.isPoll : Call → Bool
  | .receipt _ => true
  | .post _ method _ => method == "eth_getTransactionReceipt"
  | _ => false

/-- Whether a receipt is asked for. -/
def Ask.isPoll : Ask → Bool
  | .call c => c.isPoll
  | _ => false

/-- The number of polls in a transcript. -/
def pollsIn (hs : List Happening) : Nat := hs.countP fun x => x.ask.isPoll

theorem pollsIn_append (hs gs : List Happening) : pollsIn (hs ++ gs) = pollsIn hs + pollsIn gs :=
  List.countP_append

namespace Ledger

open Dialogue

variable {ledger : Ledger} {m m' : Memory} {hs : List Happening}

theorem course_receipt_bind {β : Type} (hl : ledger.IsClient) {hash : Json}
    {f : Attempt Receipt → Dialogue β} {e : Ending β}
    (h : ((ledger.receipt hash).bind f).Course m hs e m') :
    (∃ answer x rest m₁, hs = x :: rest ∧ x.ask.isPoll = true ∧ (f answer).Course m₁ rest e m') ∨
      ∃ c, hs = [.abandoned c] ∧ c.isPoll = true ∧ e = .cancelled := by
  cases hl with
  | direct =>
    rcases course_call_bind h with ⟨reply, rest, rfl, hr⟩ | ⟨rfl, rfl, -⟩
    · exact .inl ⟨reply, _, rest, _, rfl, rfl, hr⟩
    · exact .inr ⟨_, rfl, rfl, rfl⟩
  | ofNode url =>
    rcases course_query_bind h with ⟨response, rest, rfl, hr⟩ | ⟨rfl, rfl⟩
    · exact .inl ⟨_, _, rest, _, rfl, rfl, hr⟩
    · exact .inr ⟨_, rfl, rfl, rfl⟩

theorem pollsIn_send (hl : ledger.IsClient) {tx : Json} {e : Ending (Attempt Json)}
    (h : (ledger.send tx).Course m hs e m') : pollsIn hs = 0 := by
  have ha : (ledger.send tx).Asks fun a => a.isPoll = false := by
    cases hl with
    | direct => exact .call rfl
    | ofNode url => exact asks_send fun _ _ => rfl
  exact List.countP_eq_zero.mpr fun x hx => by simp [ha.course h x hx]

end Ledger

/-! ## Numbers of polls -/

/-- The number of polls that an object sets: at least one, and a binary number exactly when it is given
as one. -/
theorem PublisherSettings.ofJson_maxPolls {v : Json} {c : PublisherSettings} (h : ofJson v = .ok c) :
    c.maxPolls.lt (.int 1) = false ∧
      ∀ x, c.maxPolls = .real x ↔ v.get? "max_wait_attempts" = some (.real x) := by
  obtain ⟨ms, rfl, hgiven⟩ := givenBy_of_ofJson h
  exact ⟨hgiven.maxPolls_least, numberSetting_real hgiven.maxPolls⟩

/-! ## Ways to end -/

namespace Publisher

open Dialogue

variable {p : Publisher} {m m' : Memory} {hs : List Happening}

/-- How the wait for the receipt of the transaction `hash` is documented to end, after what happened. -/
inductive Ended (p : Publisher) (hash : Json) :
    List Happening → Ending (Except PublishError Publication) → Prop where
  | published {hs : List Happening} {r : Receipt} {polls : Nat} :
      Ended p hash hs (.finished (.ok ⟨hash, r, polls⟩))
  | unanswered {hs : List Happening} {e : PublishError} (kind : e.report.kind = .receiptQuery) :
      Ended p hash hs (.finished (.error e))
  | timeout {hs : List Happening} {e : PublishError} (kind : e.report.kind = .confirmationTimeout) :
      Ended p hash hs (.finished (.error e))
  /-- It is cancelled in a sleep between two polls. -/
  | interrupted {before : List Happening} :
      Ended p hash (before ++ [.interrupted p.settings.pollInterval]) .cancelled
  /-- It is cancelled while a poll is not answered. -/
  | abandoned {before : List Happening} {c : Call} (poll : c.isPoll = true) :
      Ended p hash (before ++ [.abandoned c]) .cancelled

theorem Ended.append {hash : Json} {e : Ending (Except PublishError Publication)}
    (h : p.Ended hash hs e) (before : List Happening) : p.Ended hash (before ++ hs) e := by
  cases h with
  | published => exact .published
  | unanswered kind => exact .unanswered kind
  | timeout kind => exact .timeout kind
  | interrupted =>
    rw [← List.append_assoc]
    exact .interrupted
  | abandoned poll =>
    rw [← List.append_assoc]
    exact .abandoned poll

/-- Publishing is documented to go on so after a submission under `hash` was accepted. -/
structure Documented (p : Publisher) (hash : Json) (hs : List Happening)
    (e : Ending (Except PublishError Publication)) : Prop where
  ended : p.Ended hash hs e
  polled : 0 < pollsIn hs
  budget : (Number.int (pollsIn hs)).le p.settings.maxPolls = true

/-- One poll: it ends the wait, or it finds nothing and the polls that are left decide what follows. -/
theorem course_poll (hl : p.ledger.IsClient) {hash : Json} {left poll : Nat}
    {e : Ending (Except PublishError Publication)}
    (h : (p.await hash (left + 1) poll).Course m hs e m') :
    (p.Ended hash hs e ∧ pollsIn hs = 1) ∨
      ∃ x rest m₁, hs = x :: rest ∧ x.ask.isPoll = true ∧
        (if left = 0 then .done (.error (.timeout hash p.settings.maxPolls))
          else .ask (.sleep p.settings.pollInterval) fun _ => p.await hash left (poll + 1) :
          Dialogue (Except PublishError Publication)).Course m₁ rest e m' := by
  unfold await at h
  rcases Ledger.course_receipt_bind hl h with ⟨answer, x, rest, m₁, rfl, hx, hr⟩ | ⟨c, rfl, hc, rfl⟩
  · have hone : pollsIn [x] = 1 := by simp [pollsIn, hx]
    split at hr
    · obtain ⟨rfl, rfl, -⟩ := course_done hr
      exact .inl ⟨.unanswered rfl, hone⟩
    · obtain ⟨rfl, rfl, -⟩ := course_done hr
      exact .inl ⟨.unanswered rfl, hone⟩
    · obtain ⟨rfl, rfl, -⟩ := course_done hr
      exact .inl ⟨.published, hone⟩
    · exact .inr ⟨x, rest, m₁, rfl, hx, hr⟩
  · have hended : p.Ended hash ([] ++ [.abandoned c]) .cancelled := .abandoned hc
    exact .inl ⟨hended, by simp [pollsIn, Happening.ask, Ask.isPoll, hc]⟩

/-- **The courses of polling end in a documented way**, after at least one poll and no more than are
left. -/
theorem course_await (hl : p.ledger.IsClient) {hash : Json} {left poll : Nat}
    {e : Ending (Except PublishError Publication)}
    (h : (p.await hash (left + 1) poll).Course m hs e m') :
    p.Ended hash hs e ∧ 0 < pollsIn hs ∧ pollsIn hs ≤ left + 1 := by
  induction left generalizing poll m hs with
  | zero =>
    rcases course_poll hl h with ⟨he, hone⟩ | ⟨x, rest, m₁, rfl, hx, hr⟩
    · exact ⟨he, by omega, by omega⟩
    · rw [if_pos rfl] at hr
      obtain ⟨rfl, rfl, -⟩ := course_done hr
      have hone : pollsIn [x] = 1 := by simp [pollsIn, hx]
      exact ⟨.timeout rfl, by omega, by omega⟩
  | succ left ih =>
    rcases course_poll hl h with ⟨he, hone⟩ | ⟨x, rest, m₁, rfl, hx, hr⟩
    · exact ⟨he, by omega, by omega⟩
    · rw [if_neg (Nat.succ_ne_zero left)] at hr
      have hmore : ∀ y gs, y.ask.isPoll = false → pollsIn (x :: y :: gs) = pollsIn gs + 1 :=
        fun y gs hy => by simp [pollsIn, hx, hy]
      rcases course_sleep hr with ⟨later, rfl, hr'⟩ | ⟨rfl, rfl, -⟩
      · obtain ⟨he, hpos, hmax⟩ := ih hr'
        have hcount := hmore (.slept p.settings.pollInterval) later rfl
        exact ⟨he.append [x, .slept p.settings.pollInterval], by omega, by omega⟩
      · have hcount : pollsIn [x, .interrupted p.settings.pollInterval] = 1 :=
          hmore (.interrupted p.settings.pollInterval) [] rfl
        have hended : p.Ended hash ([x] ++ [.interrupted p.settings.pollInterval]) .cancelled := .interrupted
        exact ⟨hended, by omega, by omega⟩

/-- Publishing whose submission was accepted goes on with the wait for the receipt. -/
theorem course_publish_accepted [Platform] (hl : p.ledger.IsClient) {payload : List UInt8} {memo hash : Json}
    {e : Ending (Except PublishError Publication)} (h : (p.publish payload memo).Course m hs e m')
    (ha : hash ∈ acceptedIn hs) :
    ∃ before after m₁, hs = before ++ after ∧ pollsIn before = 0 ∧
      (p.awaitAll hash).Course m₁ after e m' := by
  cases hc : p.plan payload with
  | error x =>
    rw [publish_of_error hc] at h
    obtain ⟨rfl, -, -⟩ := course_done h
    cases ha
  | ok call =>
    rw [publish_eq hc] at h
    rcases course_bind h with ⟨a, before, after, m₁, rfl, h₁, h₂⟩ | ⟨h₁, rfl⟩
    · obtain ⟨-, hbefore⟩ := Ledger.course_send hl h₁
      rw [acceptedIn_append, hbefore, Ending.accepted?] at ha
      cases hv : Attempt.accepted? a with
      | none =>
        obtain ⟨e', he, -⟩ := verdict_of_not_accepted memo hv
        rw [he] at h₂
        obtain ⟨rfl, -, -⟩ := course_done h₂
        simp [hv] at ha
      | some sent =>
        rw [verdict_of_accepted memo hv] at h₂
        have hwait := course_remember h₂
        -- the wait accepts nothing, so that the hash is that of the submission
        rw [acceptedIn_eq_nil ((quiet_awaitAll hl sent).course hwait).1, hv, List.append_nil] at ha
        obtain rfl := List.mem_singleton.mp ha
        exact ⟨before, after, _, rfl, Ledger.pollsIn_send hl h₁, hwait⟩
    · rw [(Ledger.course_send hl h₁).2] at ha
      cases ha

/-- The courses of publishing after a submission was accepted, by how the number of polls is given. -/
theorem course_publish_documented [Platform] (hl : p.ledger.IsClient) {v : Json}
    (hs : PublisherSettings.ofJson v = .ok p.settings) {payload : List UInt8} {memo hash : Json}
    {gs : List Happening} {e : Ending (Except PublishError Publication)}
    (h : (p.publish payload memo).Course m gs e m') (ha : hash ∈ acceptedIn gs) :
    (p.Documented hash gs e ↔ ∀ x, v.get? "max_wait_attempts" ≠ some (.real x)) ∧
      ((∃ x, v.get? "max_wait_attempts" = some (.real x)) →
        e = .finished (.error .pollsNotWhole) ∧ pollsIn gs = 0) := by
  obtain ⟨before, after, m₁, rfl, hbefore, hwait⟩ := course_publish_accepted hl h ha
  obtain ⟨hleast, hreal⟩ := PublisherSettings.ofJson_maxPolls hs
  unfold awaitAll at hwait
  split at hwait
  · rename_i n hn
    have hnot : ∀ x, v.get? "max_wait_attempts" ≠ some (.real x) := by
      intro x hx
      rw [(hreal x).mpr hx] at hn
      cases hn
    refine ⟨⟨fun _ => hnot, fun _ => ?_⟩, fun ⟨x, hx⟩ => absurd hx (hnot x)⟩
    have hpos : ¬ n < 1 := fun hlt => by
      rw [(Number.lt_iff_of_whole hn rfl).mpr hlt] at hleast
      cases hleast
    obtain ⟨left, hleft⟩ : ∃ left, n.toNat = left + 1 := ⟨n.toNat - 1, by omega⟩
    rw [hleft] at hwait
    obtain ⟨hended, hpolled, hbudget⟩ := course_await hl hwait
    have hsum : pollsIn (before ++ after) = pollsIn after := by
      rw [pollsIn_append, hbefore, Nat.zero_add]
    have hle : (pollsIn (before ++ after) : Int) ≤ n := by omega
    exact ⟨hended.append before, by omega, (Number.le_iff_of_whole rfl hn).mpr hle⟩
  · rename_i hn
    obtain ⟨x, hx⟩ := Number.whole?_eq_none.mp hn
    obtain ⟨rfl, rfl, -⟩ := course_done hwait
    have hnone : pollsIn (before ++ []) = 0 := by rw [List.append_nil, hbefore]
    refine ⟨⟨fun hd => ?_, fun hnot => absurd ((hreal x).mp hx) (hnot x)⟩, fun _ => ⟨rfl, hnone⟩⟩
    exact absurd hd.polled (by omega)

/-- **After a submission was accepted, publishing ends in a documented way exactly when the number of
polls is not given as a binary number**, whatever else the object sets and whatever the ledger replies;
when it is, no poll is made and the error is one about types. -/
theorem publish_documented_iff [Platform] {p : Publisher} (hl : p.ledger.IsClient) {v : Json}
    (hs : PublisherSettings.ofJson v = .ok p.settings) (payload : List UInt8) (memo : Json)
    (w : Surroundings) (start : Progress) {hash : Json}
    (ha : hash ∈ acceptedIn ((p.publish payload memo).transcript w start)) :
    (p.Documented hash ((p.publish payload memo).transcript w start)
        ((p.publish payload memo).run w start).1 ↔
      ∀ x, v.get? "max_wait_attempts" ≠ some (.real x)) ∧
    ((∃ x, v.get? "max_wait_attempts" = some (.real x)) →
      ((p.publish payload memo).run w start).1 = .finished (.error .pollsNotWhole) ∧
        pollsIn ((p.publish payload memo).transcript w start) = 0) :=
  course_publish_documented hl hs (run_course w (p.publish payload memo) start) ha

/-- An object with a number of polls. -/
def sampleObject (polls : Number) : Json :=
  .obj [("rpc_url", .str "http://localhost:8545"),
    ("contract_address", .str "0x2222222222222222222222222222222222222222"),
    ("max_wait_attempts", .ofNumber polls)]

/-- The settings that it gives. -/
def sampleSettings (polls : Number) : PublisherSettings where
  url := .str "http://localhost:8545"
  contract := .str "0x2222222222222222222222222222222222222222"
  fees := ⟨Fees.defaultPrice, Fees.defaultLimit⟩
  maxPolls := polls
  pollInterval := Setting.defaultInterval
  depth := Setting.defaultDepth
  timeout := .ofNumber Setting.defaultTimeout

/-- A publisher with these settings, behind a node. -/
def behindNode (polls : Number) : Publisher :=
  ⟨.ofNode "http://localhost:8545", ⟨List.replicate 40 '1'⟩, sampleSettings polls⟩

section

attribute [local instance] Platform.usual

theorem mem_acceptedIn_behindNode (polls : Number) :
    .str "0xab" ∈ acceptedIn (((behindNode polls).publish [0x7b, 0x7d] .null).transcript unminedNode
      ⟨.fresh, 0, 0, []⟩) := by
  have hsender := Address.isSome_ofJson?_usual isValid_ones
  have hcontract : (Address.ofJson? (.str "0x2222222222222222222222222222222222222222")).isSome := by
    decide +kernel
  obtain ⟨⟨caller, callee, data, fees⟩, hc⟩ : ∃ call, (behindNode polls).plan [0x7b, 0x7d] = .ok call :=
    plan_of_isSendable ⟨by decide, by decide, hsender, hcontract⟩
  obtain rfl : fees = ⟨Fees.defaultPrice, Fees.defaultLimit⟩ := plan_fees hc
  have hwire : (Ledger.wireTransaction (.obj (RegistryCall.toMembers
      ⟨caller, callee, data, ⟨Fees.defaultPrice, Fees.defaultLimit⟩⟩))).isOk = true := rfl
  rw [publish_eq hc]
  simp only [behindNode, Ledger.ofNode]
  split
  · rename_i hw
    rw [hw] at hwire
    cases hwire
  · exact List.mem_filterMap.mpr ⟨_, List.mem_cons_self, rfl⟩

theorem publish_documented_iff_two :
    PublisherSettings.ofJson (sampleObject (.int 2)) = .ok (behindNode (.int 2)).settings ∧
      .str "0xab" ∈ acceptedIn (((behindNode (.int 2)).publish [0x7b, 0x7d] .null).transcript unminedNode
        ⟨.fresh, 0, 0, []⟩) ∧
      (behindNode (.int 2)).Documented (.str "0xab")
        (((behindNode (.int 2)).publish [0x7b, 0x7d] .null).transcript unminedNode ⟨.fresh, 0, 0, []⟩)
        (((behindNode (.int 2)).publish [0x7b, 0x7d] .null).run unminedNode ⟨.fresh, 0, 0, []⟩).1 := by
  have hs : PublisherSettings.ofJson (sampleObject (.int 2)) = .ok (behindNode (.int 2)).settings :=
    toOption_eq_some.mp (by decide +kernel)
  have ha := mem_acceptedIn_behindNode (.int 2)
  have hnot : ∀ x, (sampleObject (.int 2)).get? "max_wait_attempts" ≠ some (.real x) := fun x hx => by
    cases Option.some.inj hx
  exact ⟨hs, ha, (publish_documented_iff (.ofNode _) hs _ _ unminedNode ⟨.fresh, 0, 0, []⟩ ha).1.mpr hnot⟩

/-- **A number of polls with a fraction of zero is taken, and then publishing does not end in a documented
way.** -/
theorem not_documented_two :
    PublisherSettings.ofJson (sampleObject (.real (Binary64.ofInt 2))) =
        .ok (behindNode (.real (Binary64.ofInt 2))).settings ∧
      .str "0xab" ∈ acceptedIn (((behindNode (.real (Binary64.ofInt 2))).publish [0x7b, 0x7d]
        .null).transcript unminedNode ⟨.fresh, 0, 0, []⟩) ∧
      ¬ (behindNode (.real (Binary64.ofInt 2))).Documented (.str "0xab")
        (((behindNode (.real (Binary64.ofInt 2))).publish [0x7b, 0x7d] .null).transcript unminedNode
          ⟨.fresh, 0, 0, []⟩)
        (((behindNode (.real (Binary64.ofInt 2))).publish [0x7b, 0x7d] .null).run unminedNode
          ⟨.fresh, 0, 0, []⟩).1 := by
  have hs : PublisherSettings.ofJson (sampleObject (.real (Binary64.ofInt 2))) =
      .ok (behindNode (.real (Binary64.ofInt 2))).settings :=
    toOption_eq_some.mp (by decide +kernel)
  have ha := mem_acceptedIn_behindNode (.real (Binary64.ofInt 2))
  refine ⟨hs, ha, fun hd => ?_⟩
  have h := course_publish_documented (.ofNode _) hs (run_course unminedNode _ ⟨.fresh, 0, 0, []⟩) ha
  exact h.1.mp hd (Binary64.ofInt 2) rfl

end

end Publisher

end DidRegistry
