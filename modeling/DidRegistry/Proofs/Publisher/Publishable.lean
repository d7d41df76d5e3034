import DidRegistry.Proofs.Ledger.Answer
import DidRegistry.Proofs.Ledger.Spelling
import DidRegistry.Proofs.Publisher.Documented

/-!
# Settings that can be published with

Settings are looked at when they are read, and the accounts among them once more when a call is planned.  The
two looks do not see the same: a contract that fits the pattern of the settings may be no account when it is
published to, and then every write fails.  Which texts name accounts is up to the platform.

## Results

* `Publisher.course_publishPlan_once` — what is planned is submitted exactly once.
* `Publisher.plan_eq` — a call is planned exactly when the contract is named.
* `Publisher.publishable_iff` — **what can be encoded is submitted, once, exactly when no line feed
  follows the contract and its letters are in one case or carry the checksum**; otherwise every write
  fails.
-/

set_option autoImplicit false

namespace DidRegistry

/-- The number of submissions in a transcript. -/
def submissionsIn (hs : List Happening) : Nat := hs.countP Happening.isSubmission

/-! ## Submissions -/

theorem RegistryCall.noneNegative {call : RegistryCall}
    (hprice : ∀ n : Int, call.fees.price = .int n → 0 ≤ n)
    (hlimit : ∀ n : Int, call.fees.limit = .int n → 0 ≤ n) :
    Ledger.NoneNegative Ledger.quantityKeys call.toMembers := by
  have hnumber : ∀ {x : Number} {n : Int}, Json.ofNumber x = .int n → x = .int n := by
    intro x n h
    cases x <;> cases h
    rfl
  intro key hkey n hn
  simp only [Ledger.quantityKeys, List.mem_cons, List.not_mem_nil, or_false] at hkey
  rcases hkey with rfl | rfl | rfl | rfl
  · cases hn
    decide
  · exact hlimit n (hnumber (Option.some.inj hn))
  · exact hprice n (hnumber (Option.some.inj hn))
  · cases hn

theorem PublisherSettings.GivenBy.noneNegative {ms : Json.Members} {c : PublisherSettings}
    (h : GivenBy ms c) {call : RegistryCall} (hfees : call.fees = c.fees) :
    Ledger.NoneNegative Ledger.quantityKeys call.toMembers := by
  refine RegistryCall.noneNegative (fun n hn => ?_) fun n hn => ?_
  · rw [hfees] at hn
    obtain ⟨k, hk, hleast⟩ := h.price_whole fun x hx => by rw [hn] at hx; cases hx
    rw [hn] at hk
    cases hk
    exact hleast
  · rw [hfees] at hn
    obtain ⟨k, hk, hleast⟩ := h.limit_whole fun x hx => by rw [hn] at hx; cases hx
    rw [hn] at hk
    cases hk
    omega

namespace Ledger

open Dialogue

theorem course_send_once {ledger : Ledger} (hl : ledger.IsClient) {tx : Json.Members}
    (htx : NoneNegative quantityKeys tx) {m m' : Memory} {hs : List Happening} {e : Ending (Attempt Json)}
    (h : (ledger.send (.obj tx)).Course m hs e m') : ∃ x, hs = [x] ∧ x.isSubmission = true := by
  cases hl with
  | direct =>
    obtain ⟨-, ⟨reply, rfl, -⟩ | ⟨rfl, -⟩⟩ := course_of_call h
    · exact ⟨_, rfl, rfl⟩
    · exact ⟨_, rfl, rfl⟩
  | ofNode url =>
    obtain ⟨wire, hwire⟩ := wireTransaction_isOk htx
    simp only [ofNode, hwire] at h
    obtain ⟨-, ⟨reply, rfl, -⟩ | ⟨rfl, -⟩⟩ := course_query h
    · exact ⟨_, rfl, rfl⟩
    · exact ⟨_, rfl, rfl⟩

end Ledger

namespace Publisher

open Dialogue

variable {p : Publisher} {payload : List UInt8}

/-- **What is planned is submitted exactly once**, before anything else happens. -/
theorem course_publishPlan_once (hl : p.ledger.IsClient) {call : RegistryCall}
    (hcall : Ledger.NoneNegative Ledger.quantityKeys call.toMembers) {memo : Json} {m m' : Memory}
    {hs : List Happening} {e : Ending (Except PublishError Publication)}
    (h : (p.publishPlan (.ok call) memo).Course m hs e m') :
    ∃ x rest, hs = x :: rest ∧ x.isSubmission = true ∧ ∀ y ∈ rest, y.isSubmission = false := by
  rw [publishPlan_ok] at h
  rcases course_bind h with ⟨a, before, after, m₁, rfl, h₁, h₂⟩ | ⟨h₁, -⟩
  · obtain ⟨x, rfl, hx⟩ := Ledger.course_send_once hl hcall h₁
    refine ⟨x, after, rfl, hx, ?_⟩
    cases hv : verdict memo a with
    | error e' =>
      rw [hv] at h₂
      obtain ⟨rfl, -, -⟩ := course_done h₂
      intro y hy
      cases hy
    | ok hash =>
      rw [hv] at h₂
      exact ((quiet_awaitAll hl hash).course (course_remember h₂)).1
  · obtain ⟨x, rfl, hx⟩ := Ledger.course_send_once hl hcall h₁
    exact ⟨x, [], rfl, hx, fun y hy => by cases hy⟩

theorem submissionsIn_publishPlan (hl : p.ledger.IsClient) {plan : Except PublishError RegistryCall}
    (hcall : ∀ call, plan = .ok call → Ledger.NoneNegative Ledger.quantityKeys call.toMembers)
    (memo : Json) (w : Surroundings) (start : Progress) :
    submissionsIn ((p.publishPlan plan memo).transcript w start) = if plan.isOk then 1 else 0 := by
  cases plan with
  | error e => rfl
  | ok call =>
    obtain ⟨x, rest, hs, hx, hrest⟩ := course_publishPlan_once hl (hcall call rfl) (run_course w _ start)
    rw [hs, submissionsIn, List.countP_cons, hx, List.countP_eq_zero.mpr fun y hy => by simp [hrest y hy]]
    rfl

/-- What can be sent is submitted, when no fee is below zero. -/
theorem exists_submission [Platform] (hl : p.ledger.IsClient) (hp : p.IsSendable payload)
    (hprice : ∀ n : Int, p.settings.fees.price = .int n → 0 ≤ n)
    (hlimit : ∀ n : Int, p.settings.fees.limit = .int n → 0 ≤ n) (memo : Json) (w : Surroundings)
    (start : Progress) : ∃ x ∈ (p.publish payload memo).transcript w start, x.isSubmission = true := by
  obtain ⟨call, hcall⟩ := plan_of_isSendable hp
  have hfees := plan_fees hcall
  have hnone : Ledger.NoneNegative Ledger.quantityKeys call.toMembers :=
    RegistryCall.noneNegative (hfees ▸ hprice) (hfees ▸ hlimit)
  rw [publish_eq_publishPlan, hcall]
  obtain ⟨x, rest, hs, hx, -⟩ := course_publishPlan_once hl hnone (run_course w _ start)
  exact ⟨x, hs ▸ List.mem_cons_self, hx⟩

/-- **A call is planned exactly when the contract is named**, by an account that is, for what can be
encoded. -/
theorem plan_eq [Platform] {data : String} (hdata : CallData.encode payload = .ok data)
    (haccount : Platform.names (Text.ofString p.account.toText).chars = true) {t : Text}
    (ht : p.settings.contract = .str t) :
    (Platform.names t.chars = true → ∃ call, p.plan payload = .ok call ∧ call.fees = p.settings.fees) ∧
      (Platform.names t.chars = false → p.plan payload = .error (.call (.contract (.str t)))) := by
  obtain ⟨caller, hcaller⟩ := Option.isSome_iff_exists.mp (Address.ofJson?_isSome.mpr haccount)
  constructor
  · intro hnamed
    obtain ⟨callee, hcallee⟩ := Option.isSome_iff_exists.mp (Address.ofJson?_isSome.mpr hnamed)
    refine ⟨⟨caller, callee, data, p.settings.fees⟩, ?_, rfl⟩
    unfold plan
    rw [hdata]
    simp only [RegistryCall.plan, hcaller, ht, hcallee, dataOf_encode hdata]
    rfl
  · intro hunnamed
    have hcallee : Address.ofJson? (.str t) = none := by simp [Address.ofJson?, hunnamed]
    unfold plan
    rw [hdata]
    simp only [RegistryCall.plan, hcaller, ht, hcallee]
    rfl

/-- Publishing submits exactly once when the contract is named, and not at all otherwise. -/
theorem submissionsIn_publish [Platform] (hl : p.ledger.IsClient) {ms : Json.Members}
    (hgiven : PublisherSettings.GivenBy ms p.settings) {data : String}
    (hdata : CallData.encode payload = .ok data)
    (haccount : Platform.names (Text.ofString p.account.toText).chars = true) {t : Text}
    (ht : p.settings.contract = .str t) (memo : Json) (w : Surroundings) (start : Progress) :
    submissionsIn ((p.publish payload memo).transcript w start) =
      if Platform.names t.chars then 1 else 0 := by
  obtain ⟨hnamed, hunnamed⟩ := plan_eq hdata haccount ht
  rw [publish_eq_publishPlan]
  cases ha : Platform.names t.chars with
  | true =>
    obtain ⟨call, hcall, hfees⟩ := hnamed ha
    rw [hcall, submissionsIn_publishPlan hl fun c hc => ?_]
    · rfl
    · cases hc
      exact hgiven.noneNegative hfees
  | false =>
    rw [hunnamed ha]
    rfl

/-- **What can be encoded is submitted, once, exactly when no line feed follows the contract and its letters
are in one case or carry the checksum**, under the strict rule for accounts; otherwise every write fails, the
contract being what is wrong. -/
theorem publishable_iff [Platform] (hrule : ∀ s, Platform.names s = true ↔ Address.IsWritten s)
    {p : Publisher}
    (hl : p.ledger.IsClient) {v : Json} (hs : PublisherSettings.ofJson v = .ok p.settings) {account : Text}
    (haccount : Address.ofJson? (.str account) = some p.account) {payload : List UInt8}
    (hpayload : payload ≠ []) (hutf8 : (Text.Utf8.decode payload).isSome) :
    ∃ t, v.get? "contract_address" = some (.str t) ∧
      ((∃ call, p.plan payload = .ok call) ↔
        t.chars.getLast? ≠ some '\n' ∧ Address.IsCased (t.chars.drop 2)) ∧
      (¬(t.chars.getLast? ≠ some '\n' ∧ Address.IsCased (t.chars.drop 2)) →
        p.plan payload = .error (.call (.contract (.str t)))) ∧
      ∀ (memo : Json) (w : Surroundings) (start : Progress),
        submissionsIn ((p.publish payload memo).transcript w start) = 1 ↔
          t.chars.getLast? ≠ some '\n' ∧ Address.IsCased (t.chars.drop 2) := by
  obtain ⟨ms, rfl, hgiven⟩ := PublisherSettings.givenBy_of_ofJson hs
  obtain ⟨t, ht, hfits⟩ := hgiven.contract_fits
  obtain ⟨data, hdata⟩ := CallData.encode_isOk_iff.mpr ⟨hpayload, hutf8⟩
  have hvalid : p.account.IsValid :=
    Address.isValid_of_ofJson? (fun s hn => ((hrule s).mp hn).isForty) haccount
  have hsender : Platform.names (Text.ofString p.account.toText).chars = true :=
    (hrule _).mpr (Address.isWritten_toText hvalid)
  have hcontract : Platform.names t.chars = true ↔
      t.chars.getLast? ≠ some '\n' ∧ Address.IsCased (t.chars.drop 2) :=
    (hrule _).trans (Address.isWritten_iff_of_fits hfits)
  obtain ⟨hnamed, hunnamed⟩ := plan_eq hdata hsender ht
  refine ⟨t, ?_, ⟨fun ⟨call, hcall⟩ => ?_, fun hc => ?_⟩, fun hc => ?_, fun memo w start => ?_⟩
  · rw [← ht]
    exact hgiven.contract
  · refine hcontract.mp (Bool.of_not_eq_false fun hno => ?_)
    rw [hunnamed hno] at hcall
    cases hcall
  · obtain ⟨call, hcall, -⟩ := hnamed (hcontract.mpr hc)
    exact ⟨call, hcall⟩
  · exact hunnamed (Bool.eq_false_iff.mpr fun hyes => hc (hcontract.mp hyes))
  · rw [submissionsIn_publish hl hgiven hdata hsender ht, ← hcontract]
    split <;> simp_all

/-- Where addresses are taken in whatever case, the line feed alone keeps a write from being submitted. -/
theorem submitted_anyCase_iff [Platform] (hrule : ∀ s, Platform.names s = Address.isForty s)
    (hl : p.ledger.IsClient) {v : Json} (hs : PublisherSettings.ofJson v = .ok p.settings) {account : Text}
    (haccount : Address.ofJson? (.str account) = some p.account) (hpayload : payload ≠ [])
    (hutf8 : (Text.Utf8.decode payload).isSome) (memo : Json) (w : Surroundings) (start : Progress) :
    ∃ t, v.get? "contract_address" = some (.str t) ∧
      (submissionsIn ((p.publish payload memo).transcript w start) = 1 ↔ t.chars.getLast? ≠ some '\n') := by
  obtain ⟨ms, rfl, hgiven⟩ := PublisherSettings.givenBy_of_ofJson hs
  obtain ⟨t, ht, hfits⟩ := hgiven.contract_fits
  obtain ⟨data, hdata⟩ := CallData.encode_isOk_iff.mpr ⟨hpayload, hutf8⟩
  have hvalid : p.account.IsValid := Address.isValid_of_ofJson? (fun s hn => hrule s ▸ hn) haccount
  have hsender : Platform.names (Text.ofString p.account.toText).chars = true :=
    (hrule _).trans (Address.isForty_toText hvalid)
  refine ⟨t, ?_, ?_⟩
  · rw [← ht]
    exact hgiven.contract
  · rw [submissionsIn_publish hl hgiven hdata hsender ht, hrule, ← Address.isForty_iff_of_fits hfits]
    split <;> simp_all

/-- An object with a contract. -/
def contractedObject (contract : String) : Json :=
  .obj [("rpc_url", .str "http://localhost:8545"), ("contract_address", .str contract)]

/-- The publisher with the settings that it gives, behind a node. -/
def contracted (contract : String) : Publisher where
  ledger := .ofNode "http://localhost:8545"
  account := ⟨List.replicate 40 '1'⟩
  settings := { sampleSettings Setting.defaultPolls with contract := .str contract }

/-- A platform on which a checksum in the case of the letters is heeded. -/
@[reducible]
def strict : Platform := { Platform.usual with names := fun s => decide (Address.IsWritten s) }

section

attribute [local instance] strict

theorem ofJson?_ones : Address.ofJson? (.str "1111111111111111111111111111111111111111") =
    some ⟨List.replicate 40 '1'⟩ := by
  decide +kernel

theorem publishable_iff_digits :
    (∀ s, Platform.names s = true ↔ Address.IsWritten s) ∧
      PublisherSettings.ofJson (contractedObject "0x2222222222222222222222222222222222222222") =
        .ok (contracted "0x2222222222222222222222222222222222222222").settings ∧
      Address.ofJson? (.str "1111111111111111111111111111111111111111") =
        some ⟨List.replicate 40 '1'⟩ ∧
      (∃ call, (contracted "0x2222222222222222222222222222222222222222").plan [0x7b, 0x7d] = .ok call) ∧
      submissionsIn (((contracted "0x2222222222222222222222222222222222222222").publish
        [0x7b, 0x7d] .null).transcript unminedNode ⟨.fresh, 0, 0, []⟩) = 1 := by
  have hrule : ∀ s, Platform.names s = true ↔ Address.IsWritten s := fun s => decide_eq_true_iff
  have hs : PublisherSettings.ofJson (contractedObject "0x2222222222222222222222222222222222222222") =
      .ok (contracted "0x2222222222222222222222222222222222222222").settings :=
    toOption_eq_some.mp (by decide +kernel)
  have hpayload : ([0x7b, 0x7d] : List UInt8) ≠ [] := by decide
  obtain ⟨t, ht, hplan, -, hruns⟩ :=
    publishable_iff (p := contracted "0x2222222222222222222222222222222222222222")
      hrule (.ofNode _) hs ofJson?_ones hpayload (by decide)
  cases Option.some.inj ht
  have hcontract : (Text.ofString "0x2222222222222222222222222222222222222222").chars.getLast? ≠ some '\n' ∧
      Address.IsCased ((Text.ofString "0x2222222222222222222222222222222222222222").chars.drop 2) := by
    decide +kernel
  exact ⟨hrule, hs, ofJson?_ones, hplan.mpr hcontract,
    (hruns .null unminedNode ⟨.fresh, 0, 0, []⟩).mpr hcontract⟩

/-- **A contract with a line feed after it is taken, and no write under it is ever submitted.** -/
theorem not_publishable_lineFeed :
    PublisherSettings.ofJson (contractedObject "0x2222222222222222222222222222222222222222\n") =
        .ok (contracted "0x2222222222222222222222222222222222222222\n").settings ∧
      Address.ofJson? (.str "1111111111111111111111111111111111111111") =
        some ⟨List.replicate 40 '1'⟩ ∧
      (contracted "0x2222222222222222222222222222222222222222\n").plan [0x7b, 0x7d] =
        .error (.call (.contract (.str "0x2222222222222222222222222222222222222222\n"))) := by
  have hs : PublisherSettings.ofJson (contractedObject "0x2222222222222222222222222222222222222222\n") =
      .ok (contracted "0x2222222222222222222222222222222222222222\n").settings :=
    toOption_eq_some.mp (by decide +kernel)
  have hsender : Platform.names (Text.ofString
      (contracted "0x2222222222222222222222222222222222222222\n").account.toText).chars = true :=
    decide_eq_true (Address.isWritten_toText isValid_ones)
  obtain ⟨data, hdata⟩ := CallData.encode_isOk_iff.mpr
    ⟨show ([0x7b, 0x7d] : List UInt8) ≠ [] by decide, by decide⟩
  exact ⟨hs, ofJson?_ones, (plan_eq hdata hsender rfl).2 (by decide +kernel)⟩

end

end Publisher

end DidRegistry
